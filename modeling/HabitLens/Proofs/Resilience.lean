import HabitLens.Proofs.Answer

/-!
The hosted service answers whatever becomes of the analysis. If the analyzer fails, the simple
analysis steps in, and every remark of it can be sorted and is about code that can be run. Code
that cannot be run is answered before any analysis, and code that cannot be read by an error.
-/

namespace HabitLens.Service

open Act
open Source
open Review

structure Remark.IsPlain (r : Remark) : Prop where
  line_eq : ∃ n : Int, r.line = some n
  category_ne : r.category ≠ .syntaxError

namespace Fallback

theorem isPlain_of_mem_undefined {defs : Definitions} {line : Nat} {name : String} {r : Remark}
    (h : r ∈ undefined defs line name) : r.IsPlain := by
  unfold undefined at h
  split at h
  . cases h
  . obtain rfl := List.mem_singleton.1 h
    exact ⟨⟨line, rfl⟩, Category.noConfusion⟩

theorem isPlain_of_mem_member {defs : Definitions} {seenName : Bool} {line : Nat}
    {object name : String} {found : List Remark} {r : Remark}
    (h : member defs seenName line object name = .ok found) (hr : r ∈ found) : r.IsPlain := by
  unfold member at h
  split at h
  . obtain rfl := Except.ok.inj h
    cases hr
  split at h
  . cases h
  split at h
  . obtain rfl := Except.ok.inj h
    cases hr
  . obtain rfl := Except.ok.inj h
    obtain rfl := List.mem_singleton.1 hr
    exact ⟨⟨line, rfl⟩, Category.noConfusion⟩

theorem isPlain_of_mem_remarks {defs : Definitions} {seenName : Bool} {n : Node}
    {found : List Remark} {r : Remark} (h : remarks defs seenName n = .ok found) (hr : r ∈ found) :
    r.IsPlain := by
  unfold remarks at h
  split at h
  . obtain rfl := Except.ok.inj h
    exact isPlain_of_mem_undefined hr
  . exact isPlain_of_mem_member h hr
  . split at h
    . obtain rfl := Except.ok.inj h
      obtain rfl := List.mem_singleton.1 hr
      exact ⟨⟨_, rfl⟩, Category.noConfusion⟩
    . obtain rfl := Except.ok.inj h
      cases hr
  . split at h
    . obtain rfl := Except.ok.inj h
      obtain rfl := List.mem_singleton.1 hr
      exact ⟨⟨_, rfl⟩, Category.noConfusion⟩
    . obtain rfl := Except.ok.inj h
      cases hr
  . obtain rfl := Except.ok.inj h
    obtain ⟨_, -, rfl⟩ := List.mem_map.1 hr
    exact ⟨⟨_, rfl⟩, Category.noConfusion⟩
  . obtain rfl := Except.ok.inj h
    cases hr

theorem isPlain_of_mem_ofNodes {defs : Definitions} {seenName : Bool} {nodes : List Node}
    {r : Remark} (h : r ∈ (ofNodes defs seenName nodes).1) : r.IsPlain := by
  induction nodes generalizing seenName with
  | nil => cases h
  | cons n rest ih =>
    unfold ofNodes at h
    dsimp only at h
    cases hfound : remarks defs (seenName || readsName n) n with
    | error f =>
      rw [hfound] at h
      cases h
    | ok found =>
      rw [hfound] at h
      rcases List.mem_append.1 h with h | h
      . exact isPlain_of_mem_remarks hfound h
      . exact ih h

/-- All remarks on a program. If the analysis breaks off, the last one tells why. -/
def report (body : List Stmt) : List Remark :=
  (run body).1 ++ (run body).2.toList.map brokenOff

theorem isPlain_of_mem_report {body : List Stmt} {r : Remark} (h : r ∈ report body) :
    r.IsPlain := by
  rcases List.mem_append.1 h with h | h
  . exact isPlain_of_mem_ofNodes h
  . obtain ⟨f, -, rfl⟩ := List.mem_map.1 h
    exact ⟨⟨1, rfl⟩, Category.noConfusion⟩

end Fallback

theorem Hosted.run_fallBack (body : List Stmt) (j : Journal) :
    ∃ j', (fallBack body).run j = ((Fallback.report body).map Remark.toValue, j') := by
  unfold fallBack Fallback.report
  obtain ⟨remarks, failure⟩ := Fallback.run body
  cases failure with
  | none =>
    rw [Option.toList_none, List.map_nil, List.append_nil]
    exact ⟨_, rfl⟩
  | some f => exact ⟨_, rfl⟩

theorem Hosted.outcome_find_fallBack {p : Parts} {code : String} {body : List Stmt} {f : Failure}
    {j j' : Journal} (hcode : parseRunnable code = .ok body) (hf : isAnswerable f = true)
    (hfailed : outcome (p.analyse (.str code)) j = (.error f, j')) :
    ∃ j'', outcome (find p code) j
      =
    (.ok (((Fallback.report body).map Entry.ofRemark).map Entry.toValue), j'') := by
  obtain ⟨j'', hfallBack⟩ := run_fallBack body
    (say s!"Error using main analyzer: {f.message}" |>.run j').2
  refine ⟨j'', ?_⟩
  unfold find
  rw [hcode]
  dsimp only
  rw [outcome_bind_ok (outcome_caught _ _)]
  rw [hfailed]
  dsimp only
  rw [hf]
  refine (outcome_bind_ok (outcome_liftM _ _)).trans ?_
  refine (outcome_liftM _ _).trans ?_
  rw [hfallBack, Entry.map_ofRemark]

theorem Remark.IsPlain.entry {r : Remark} (h : r.IsPlain) :
    (∃ n : Int, (Entry.ofRemark r).line = .int n) ∧ (Entry.ofRemark r).category ≠ .syntaxError := by
  obtain ⟨n, hline⟩ := h.line_eq
  refine ⟨⟨n, ?_⟩, h.category_ne⟩
  change (r.line.map Value.int).getD .null = .int n
  rw [hline]
  rfl

theorem category_of_mem_found {d : Deployment} {run : LinterRun} {code : String} {body : List Stmt}
    {e : Entry} (hcode : parseRunnable code = .ok body) (he : e ∈ found d run code) :
    e.category ≠ .syntaxError := by
  rw [found_of_ok hcode] at he
  obtain ⟨i, hi, rfl⟩ := List.mem_map.1 he
  rw [Analyzer.analyze_of_ok {} run (parse_of_parseRunnable hcode)] at hi
  rcases List.mem_append.1 hi with hi | hi
  . obtain ⟨c, -, hi⟩ := List.mem_flatMap.1 hi
    exact (Check.isFinding_of_mem_run hi).category_ne
  . exact (LinterRun.isReport_of_mem_report hi).category_ne

/-- An analysis that does its work on the code, or fails in a way that can be answered. -/
def Tries (run : LinterRun) (code : Value) (analyse : Value → Act (List Value)) : Prop :=
  ∀ j, outcome (analyse code) j = outcome (Parts.analysis run code) j ∨
    ∃ f j', Hosted.isAnswerable f = true ∧ outcome (analyse code) j = (.error f, j')

structure Fit (code : String) (es : List Entry) : Prop where
  orderly : Feedback.Key.Orderly (es.map Entry.key)
  of_error : ∀ fault, parseRunnable code = .error fault →
    es = [.ofRemark (Hosted.faultRemark fault)]
  of_ok : ∀ body, parseRunnable code = .ok body → ∀ e ∈ es, e.category ≠ .syntaxError

theorem fit_found {run : LinterRun} (hrun : run.HasLines) (code : String) :
    Fit code (found .hosted run code) := by
  constructor
  . exact orderly_found hrun .hosted code
  . intro fault hcode
    unfold found
    rw [hcode]
  . intro body hcode e he
    exact category_of_mem_found hcode he

theorem fit_report {code : String} {body : List Stmt} (hcode : parseRunnable code = .ok body) :
    Fit code ((Fallback.report body).map .ofRemark) := by
  constructor
  . apply Feedback.Key.orderly_of_lines
    intro k hk
    rw [List.map_map] at hk
    obtain ⟨r, hr, rfl⟩ := List.mem_map.1 hk
    exact (Fallback.isPlain_of_mem_report hr).entry.1
  . intro fault hfault
    rw [hcode] at hfault
    cases hfault
  . intro _ _ e he
    obtain ⟨r, hr, rfl⟩ := List.mem_map.1 he
    exact (Fallback.isPlain_of_mem_report hr).entry.2

theorem Hosted.outcome_find_tries {p : Parts} {run : LinterRun} {code : String}
    (hrun : run.HasLines) (hreads : Deployment.Reads .hosted code)
    (hp : Tries run (.str code) p.analyse) (j : Journal) :
    ∃ es j', outcome (find p code) j = (.ok (es.map Entry.toValue), j') ∧ Fit code es := by
  cases hcode : parseRunnable code with
  | error fault =>
    have hfit := fit_found hrun code
    rw [hfit.of_error fault hcode] at hfit
    exact ⟨_, j, outcome_find_fault hcode (hreads fault hcode) p j, hfit⟩
  | ok body =>
    rcases hp j with hworks | ⟨f, j', hf, hfails⟩
    . have hreadable := readable_of_ok (parse_of_parseRunnable hcode)
      have hfailure : (({} : Analyzer).analyze (.str code) run).failure = none :=
        Analyzer.failure_analyze {} hreadable hrun.ne_stopped
      obtain ⟨j', hanalysis⟩ := Parts.outcome_analysis hfailure j
      rw [← hworks, ← Entry.map_ofIssue, ← found_of_ok hcode .hosted] at hanalysis
      exact ⟨_, j', outcome_find hcode hanalysis, fit_found hrun code⟩
    . obtain ⟨j'', hfind⟩ := outcome_find_fallBack hcode hf hfails
      exact ⟨_, j'', hfind, fit_report hcode⟩

/-- Two items that stand in the order of the keys by which items are sorted. -/
def InOrder (a b : Value) : Prop :=
  ∃ k l, Feedback.key .lenient a = .ok k ∧ Feedback.key .lenient b = .ok l ∧ k.Precedes l

theorem pairwise_inOrder {xs : List ExplainedEntry}
    (h : xs.Pairwise fun a b => a.key.Precedes b.key) :
    (xs.map ExplainedEntry.toValue).Pairwise InOrder := by
  rw [List.pairwise_map]
  apply h.imp
  intro a b hab
  exact ⟨a.key, b.key, a.key_toValue .lenient, b.key_toValue .lenient, hab⟩

section

variable {r : Request} {p q : Parts} {j : Journal}

theorem outcome_analyze_congr {d : Deployment}
    (h : outcome (view d p r) j = outcome (view d q r) j) :
    outcome (analyze d p r) j = outcome (analyze d q r) j := by
  rw [analyze_eq, analyze_eq]
  rw [outcome_bind_ok (outcome_caught _ _)]
  rw [outcome_bind_ok (outcome_caught _ _)]
  rw [h]

theorem Hosted.outcome_analyze_congr (h : outcome (serve p r) j = outcome (serve q r) j) :
    outcome (analyze p r) j = outcome (analyze q r) j := by
  unfold analyze
  rw [outcome_bind_ok (outcome_caught _ _)]
  rw [outcome_bind_ok (outcome_caught _ _)]
  rw [h]

theorem Hosted.explainItems_analyse (p : Parts) (analyse : Value → Act (List Value)) (lines : Value)
    (items : List Value) :
    explainItems { p with analyse } lines items = explainItems p lines items := by
  induction items with
  | nil => rfl
  | cons item rest ih =>
    unfold explainItems
    rw [ih]
    rfl

theorem Hosted.explainAll_analyse (p : Parts) (analyse : Value → Act (List Value)) (lines : Value)
    (items : List Value) :
    explainAll { p with analyse } lines items = explainAll p lines items := by
  unfold explainAll
  rw [explainItems_analyse]

theorem Hosted.respond_analyse_of_fault {code : String} {fault : Fault} (hr : r.Submits (.str code))
    (hcode : parseRunnable code = .error fault) (hkind : fault.kind ≠ .internal) (p : Parts)
    (analyse : Value → Act (List Value)) (j : Journal) :
    outcome (respond .hosted { p with analyse } r) j = outcome (respond .hosted p r) j := by
  rw [respond_eq_analyze hr, respond_eq_analyze hr]
  apply Service.outcome_analyze_congr
  apply Hosted.outcome_analyze_congr
  rw [outcome_serve_str hr, outcome_serve_str hr]
  rw [outcome_bind_ok (outcome_find_fault hcode hkind _ j)]
  rw [outcome_bind_ok (outcome_find_fault hcode hkind _ j)]
  -- From here on only the assistant is asked.
  rw [explainAll_analyse]

end

theorem name_ne_syntaxError {c : Category} (h : c ≠ .syntaxError) : c.name ≠ "syntax_error" := by
  cases c with
  | syntaxError => exact absurd rfl h
  | _ => decide

theorem ExplainedEntry.map_withoutAdvice (xs : List ExplainedEntry) :
    (xs.map toValue).map withoutAdvice = (xs.map (·.entry)).map Entry.toValue := by
  rw [List.map_map, List.map_map]
  apply List.map_congr_left
  intro x _
  exact x.withoutAdvice_toValue

/--
The hosted service survives a failing analysis of code that it can read. A request to analyze the
code gets an answer without an error, whatever an assistant replies, and the items of the answer are
in order. Code that cannot be run is answered by its fault alone, without any analysis, and no item
about other code is a fault. If the code cannot be read, the answer is an error.
-/
theorem respond_survives_analysis {r : Request} {code : Value} {run : LinterRun}
    {analyse : Value → Act (List Value)} (hr : r.Submits code) (hrun : run.HasLines)
    (hanalyse : Tries run code analyse) (hasAssistant : Bool) (apiKey : Option String)
    (j : Journal) :
    let p : Parts := { Parts.standard .hosted run hasAssistant apiKey with analyse }
    (∀ text, code = .str text → Deployment.Reads .hosted text →
      ∃ (items : List Value) (j' : Journal),
        outcome (respond .hosted p r) j
          =
        (.ok { status := 200, content := .data (.dict [("feedback", .list items)]) }, j') ∧
        items.Pairwise InOrder ∧
        (∀ fault, parseRunnable text = .error fault →
          items.map withoutAdvice
            =
          [.dict
            [("line", (fault.line.map .int).getD .null),
             ("message", .str ("SyntaxError: " ++ fault.message)),
             ("category", .str "syntax_error"), ("source", .str "analyzer")]] ∧
          ∀ analyse', outcome (respond .hosted { p with analyse := analyse' } r) j
            =
          outcome (respond .hosted p r) j) ∧
        (∀ body, parseRunnable text = .ok body →
          ∀ item ∈ items, item.field "category" ≠ .ok (.str "syntax_error"))) ∧
    (∀ f, Unreadable .hosted code f →
      outcome (respond .hosted p r) j = (.ok (serverError f), j)) := by
  intro p
  refine ⟨?_, fun f hunreadable => Hosted.respond_unreadable hr hunreadable j⟩
  rintro text rfl hreads
  have hexplains : p.Explains := Parts.explains_standard .hosted run hasAssistant apiKey
  obtain ⟨es, j₁, hfind, hfit⟩ := Hosted.outcome_find_tries (p := p) hrun hreads hanalyse j
  obtain ⟨xs, sorted, _, j', hentries, -, -, harranged, hrespond⟩ :=
    respond_entries (d := .hosted) hr hexplains hfind hfit.orderly
  have hperm := harranged.perm.map (·.entry)
  rw [hentries] at hperm
  refine ⟨sorted.map ExplainedEntry.toValue, j', hrespond, pairwise_inOrder harranged.ordered,
    ?_, ?_⟩
  . intro fault hcode
    refine ⟨?_, ?_⟩
    . rw [hfit.of_error fault hcode, List.perm_singleton] at hperm
      rw [ExplainedEntry.map_withoutAdvice, hperm]
      rfl
    . intro analyse'
      exact Hosted.respond_analyse_of_fault hr hcode (hreads fault hcode) p analyse' j
  . intro body hcode item hitem
    obtain ⟨x, hx, rfl⟩ := List.mem_map.1 hitem
    have hcategory := hfit.of_ok body hcode x.entry (hperm.subset (List.mem_map_of_mem hx))
    have hfield : x.toValue.field "category" = .ok (.str x.entry.category.name) :=
      x.get_category .strict .null
    rw [hfield]
    intro heq
    exact name_ne_syntaxError hcategory (Value.str.inj (Except.ok.inj heq))

/-- The items of the simple analysis, which steps in since the analysis fails, are put in order. -/
theorem respond_survives_failing_analysis :
    let p := (Parts.standard .hosted (.output twoErrors) false none).failingAnalysis
      (.unbound "analyzer")
    let items : List Value :=
      [.dict [("line", .int 2), ("message", .str "Infinite loop detected"),
         ("category", .str "fatal_error"), ("source", .str "analyzer")],
       .dict [("line", .int 1), ("message", .str "Undefined variable 'a'"),
         ("category", .str "runtime_error"), ("source", .str "analyzer")],
       .dict [("line", .int 2), ("message", .str "Undefined variable 'b'"),
         ("category", .str "runtime_error"), ("source", .str "analyzer")],
       .dict [("line", .int 1),
         ("message", .str "Using mutable default argument in function 'f'"),
         ("category", .str "potential_error"), ("source", .str "analyzer")]]
    (outcome
        (respond .hosted p (posting "\x7b\"code\": \"def f(a=[]): a\\nwhile True: b\"\x7d")) {}).1
      =
    .ok { status := 200, content := .data (.dict [("feedback", .list items)]) } ∧
      items.Pairwise InOrder ∧
      ∀ item ∈ items, item.field "category" ≠ .ok (.str "syntax_error") := by
  intro p items
  let code := "def f(a=[]): a\nwhile True: b"
  let r := posting "\x7b\"code\": \"def f(a=[]): a\\nwhile True: b\"\x7d"
  have hr : r.Submits (.str code) := by
    have hdata : r.data.toOption = some (.dict [("code", .str code)]) := by
      decide +kernel
    exact submits_posting hdata rfl
  have hanalyse : Tries (.output twoErrors) (.str code) fun _ => throw (.unbound "analyzer") := by
    intro j
    exact .inr ⟨_, j, rfl, rfl⟩
  obtain ⟨body, hcode⟩ : ∃ body, parseRunnable code = .ok body := by
    have hsome : (parseRunnable code).toOption.isSome = true := by
      decide +kernel
    obtain ⟨body, hbody⟩ := Option.isSome_iff_exists.1 hsome
    exact ⟨body, Outcome.toOption_eq_some.1 hbody⟩
  have hrespond : (outcome (respond .hosted p r) {}).1.toOption
      = some { status := 200, content := .data (.dict [("feedback", .list items)]) } := by
    decide +kernel
  obtain ⟨items', j', hrespond', hordered, -, hok⟩ :=
    (respond_survives_analysis hr hasLines_twoErrors hanalyse false none {}).1 code rfl
      (Deployment.reads_of_ok (d := .hosted) hcode)
  obtain rfl : items' = items := feedback_inj
    ((congrArg Prod.fst hrespond').symm.trans (Outcome.toOption_eq_some.1 hrespond))
  exact ⟨congrArg Prod.fst hrespond', hordered, hok body hcode⟩

/-- A text with half a character in it cannot be read. -/
theorem respond_fails_on_half_character :
    let run := LinterRun.output ""
    let p := Parts.standard .hosted run false none
    let r := posting "\x7b\"code\": \"\\ud800\"\x7d"
    r.Submits (.unpaired [0xd800]) ∧ run.HasLines ∧
    Tries run (.unpaired [0xd800]) p.analyse ∧
    (outcome (respond .hosted p r) {}).1
      =
    .ok
      { status := 500
        content := .data (.dict
          [("error", .str ("'utf-8' codec can't encode character '\\ud800' in position 0: " ++
             "surrogates not allowed")),
           ("feedback", .list
             [.dict
               [("line", .int 0),
                ("message", .str ("Server error: 'utf-8' codec can't encode character " ++
                  "'\\ud800' in position 0: surrogates not allowed")),
                ("category", .str "syntax_error"), ("source", .str "system")]])]) } := by
  intro run p r
  have hr : r.Submits (.unpaired [0xd800]) := by
    have hdata : r.data.toOption = some (.dict [("code", .unpaired [0xd800])]) := by
      decide +kernel
    exact submits_posting hdata rfl
  refine ⟨hr, ?_, ?_, ?_⟩
  . intro i hi
    cases hi
  . intro j
    exact .inl rfl
  . apply Outcome.toOption_eq_some.1
    decide +kernel

end HabitLens.Service
