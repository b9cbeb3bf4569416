import HabitLens.Proofs.Agreement

/-!
From the items that a deployment finds in code to its answer. Whatever the items are, they are
explained in the order in which they were found, and then put in order. In code that cannot be read
nothing is found, and nobody is asked about it.
-/

namespace HabitLens

open Act
open Source
open Review

theorem Review.Analyzer.line_feedback_of_ok {a : Analyzer} {code : String} {body : List Stmt}
    {run : LinterRun} {i : Issue} (h : parse code = .ok body) (hrun : run.HasLines)
    (hi : i ∈ (a.analyze (.str code) run).analyzer.feedback) : ∃ n : Int, i.line = .int n := by
  rw [analyze_of_ok a run h] at hi
  rcases List.mem_append.1 hi with hi | hi
  . obtain ⟨c, -, hi⟩ := List.mem_flatMap.1 hi
    exact (Check.isFinding_of_mem_run hi).line_eq
  . exact hrun.line_eq hi

theorem Review.Analyzer.line_feedback {a : Analyzer} {code : String} {run : LinterRun} {i : Issue}
    (hrun : run.HasLines) (hi : i ∈ (a.analyze (.str code) run).analyzer.feedback) :
    i.line = .null ∨ ∃ n : Int, i.line = .int n := by
  cases hparse : parse code with
  | error fault =>
    by_cases hkind : fault.kind = .internal
    . rw [analyze_of_internal a run hparse hkind] at hi
      cases hi
    . rw [analyze_of_error a run hparse hkind] at hi
      rcases List.mem_cons.1 hi with rfl | hi
      . unfold syntaxIssue
        cases fault.line with
        | none => exact .inl rfl
        | some n => exact .inr ⟨n, rfl⟩
      . exact .inr (hrun.line_eq hi)
  | ok body => exact .inr (line_feedback_of_ok hparse hrun hi)

namespace Service

namespace Entry

def HasLine (e : Entry) : Prop :=
  e.line = .null ∨ ∃ n : Int, e.line = .int n

theorem HasLine.orderly {e : Entry} (h : e.HasLine) : Feedback.Key.Orderly [e.key] := by
  constructor
  . apply List.pairwise_singleton
  . intro k hk
    obtain rfl := List.mem_singleton.1 hk
    unfold key
    rcases h with hline | ⟨n, hline⟩
    . rw [hline]
      rfl
    . rw [hline, same_int]
      simp

theorem hasLine_ofRemark (r : Remark) : (ofRemark r).HasLine := by
  change (r.line.map Value.int).getD .null = .null ∨ ∃ n, (r.line.map Value.int).getD .null = .int n
  cases r.line with
  | none => exact .inl rfl
  | some n => exact .inr ⟨n, rfl⟩

end Entry

/-- How a deployment parses code. Only one of them asks for code that can be run. -/
def Deployment.parse : Deployment → String → Except Fault (List Stmt)
  | .development => Source.parse
  | .hosted => parseRunnable

/-- A deployment comes to a program or to a fault of the text. -/
def Deployment.Reads (d : Deployment) (code : String) : Prop :=
  ∀ fault, d.parse code = .error fault → fault.kind ≠ .internal

theorem Deployment.reads_of_ok {d : Deployment} {code : String} {body : List Stmt}
    (h : d.parse code = .ok body) : d.Reads code := by
  intro fault hfault
  rw [h] at hfault
  cases hfault

/-- Code that a deployment cannot read, and what it fails with. -/
inductive Unreadable (d : Deployment) : Value → Failure → Prop where
  | unpaired (codes : List Nat) : Unreadable d (.unpaired codes) (.unencodable codes)
  | internal {code : String} {fault : Fault} (hparse : d.parse code = .error fault)
      (hkind : fault.kind = .internal) : Unreadable d (.str code) (.unparsed fault.message)

example :
    Unreadable .hosted (.str "f'''\x7bx\n\"a\"\x7d'''")
      (.unparsed "Negative size passed to PyUnicode_New") := by
  have hparse : Deployment.hosted.parse "f'''\x7bx\n\"a\"\x7d'''" = .error .negativeSize := by
    apply Outcome.match_error_eq_some.1
    decide +kernel
  exact .internal hparse rfl

def gather (d : Deployment) (p : Parts) (code : String) : Act (List Value) :=
  match d with
  | .development => p.analyse (.str code)
  | .hosted => Hosted.find p code

theorem Hosted.outcome_find_fault {code : String} {fault : Fault}
    (h : parseRunnable code = .error fault) (hkind : fault.kind ≠ .internal) (p : Parts)
    (j : Journal) :
    outcome (find p code) j
      =
    (.ok ([Entry.ofRemark (faultRemark fault)].map Entry.toValue), j) := by
  unfold find
  rw [h]
  dsimp only
  rw [if_neg hkind]
  rfl

theorem Hosted.outcome_find_internal {code : String} {fault : Fault}
    (h : parseRunnable code = .error fault) (hkind : fault.kind = .internal) (p : Parts)
    (j : Journal) : outcome (find p code) j = (.error (.unparsed fault.message), j) := by
  unfold find
  rw [h]
  dsimp only
  rw [if_pos hkind]
  rfl

/--
The items of code that a deployment reads, before anything is explained and in the order in which
they are found.
-/
def found (d : Deployment) (run : LinterRun) (code : String) : List Entry :=
  match d, parseRunnable code with
  | .hosted, .error fault => [.ofRemark (Hosted.faultRemark fault)]
  | _, _ => (({} : Analyzer).analyze (.str code) run).analyzer.feedback.map .ofIssue

theorem found_of_ok {code : String} {body : List Stmt} (h : parseRunnable code = .ok body)
    (d : Deployment) (run : LinterRun) :
    found d run code
      =
    (({} : Analyzer).analyze (.str code) run).analyzer.feedback.map .ofIssue := by
  unfold found
  rw [h]
  cases d with
  | development => rfl
  | hosted => rfl

section

variable {run : LinterRun} (hrun : run.HasLines)

include hrun

theorem hasLine_of_mem_found {d : Deployment} {code : String} {e : Entry}
    (he : e ∈ found d run code) : e.HasLine := by
  unfold found at he
  split at he
  . next fault _ =>
    obtain rfl := List.mem_singleton.1 he
    apply Entry.hasLine_ofRemark
  . obtain ⟨i, hi, rfl⟩ := List.mem_map.1 he
    exact Analyzer.line_feedback hrun hi

theorem orderly_found (d : Deployment) (code : String) :
    Feedback.Key.Orderly ((found d run code).map Entry.key) := by
  unfold found
  split
  . next fault _ =>
    exact (Entry.hasLine_ofRemark (Hosted.faultRemark fault)).orderly
  . rw [List.map_map]
    exact Analyzer.orderly_feedback {} code hrun

theorem leads_gather {d : Deployment} {code : String} (hcode : d.Reads code) (hasAssistant : Bool)
    (apiKey : Option String) (j : Journal) :
    Leads (attempt (gather d (.standard d run hasAssistant apiKey) code)) j
      (.ok ((found d run code).map Entry.toValue)) [] := by
  have hanalysis (hreadable : Readable code) := Parts.leads_analysis
    (Analyzer.failure_analyze {} hreadable hrun.ne_stopped) j
  rw [← Entry.map_ofIssue] at hanalysis
  unfold gather found
  cases d with
  | development => exact hanalysis hcode
  | hosted =>
    cases hparse : parseRunnable code with
    | error fault =>
      exact ⟨j, Hosted.outcome_find_fault hparse (hcode fault hparse) _ j, .refl j⟩
    | ok body =>
      obtain ⟨j', hitems, hfollows⟩ := hanalysis (readable_of_ok (parse_of_parseRunnable hparse))
      exact ⟨j', Hosted.outcome_find hparse hitems, hfollows⟩

end

theorem map_key_entry (xs : List ExplainedEntry) :
    (xs.map (·.entry)).map Entry.key = xs.map ExplainedEntry.key := by
  rw [List.map_map]
  rfl

theorem respond_entries {d : Deployment} {p : Parts} {r : Request} {code : String} {es : List Entry}
    {j j₁ : Journal} (hr : r.Submits (.str code)) (hp : p.Explains)
    (hfound : outcome (gather d p code) j = (.ok (es.map Entry.toValue), j₁))
    (horderly : Feedback.Key.Orderly (es.map Entry.key)) :
    ∃ xs sorted j₂ j', xs.map (·.entry) = es ∧ Handled p (codeLines code) xs j₁ j₂ ∧
      j₂.Follows j' [] ∧ Feedback.ArrangedBy ExplainedEntry.key xs sorted ∧
      outcome (respond d p r) j
        =
      (.ok { status := 200
             content := .data (.dict [("feedback", .list (sorted.map ExplainedEntry.toValue))]) },
        j') := by
  rw [respond_eq_analyze hr]
  cases d with
  | development =>
    obtain ⟨xs, j', rfl, hhandled, hanalyze⟩ := Development.outcome_analyze_entries hr hp hfound
    rw [map_key_entry] at horderly
    obtain ⟨sorted, hsort, harranged⟩ := horderly.sort
    rw [hsort] at hanalyze
    exact ⟨xs, sorted, j', j', rfl, hhandled, .refl j', harranged, outcome_analyze_ok hanalyze⟩
  | hosted =>
    obtain ⟨xs, j₂, j', rfl, hhandled, hfollows, hserve⟩ :=
      Hosted.outcome_serve_entries hr hp hfound
    rw [map_key_entry] at horderly
    obtain ⟨sorted, hsort, harranged⟩ := horderly.sort
    rw [hsort] at hserve
    have hanalyze := Hosted.outcome_analyze_ok hserve
    exact ⟨xs, sorted, j₂, j', rfl, hhandled, hfollows, harranged, outcome_analyze_ok hanalyze⟩

theorem feedback_inj {items items' : List Value}
    (h : (.ok { status := 200, content := .data (.dict [("feedback", .list items)]) } :
      Except Failure Response)
        =
      .ok { status := 200, content := .data (.dict [("feedback", .list items')]) }) :
    items = items' := by
  cases h
  rfl

def serverError (f : Failure) : Response :=
  { status := 500
    content := .data (.dict
      [("error", .str f.message),
       ("feedback", .list
         [.dict
           [("line", .int 0), ("message", .str ("Server error: " ++ f.message)),
            ("category", .str "syntax_error"), ("source", .str "system")]])]) }

/-- How a deployment ends with a failure: it goes on, or is answered. -/
def Deployment.failing : Deployment → Failure → Except Failure Response
  | .development, f => .error f
  | .hosted, f => .ok (serverError f)

theorem Hosted.outcome_serve_unreadable {p : Parts} {r : Request} {code : Value} {f : Failure}
    (hr : r.Submits code) (h : Unreadable .hosted code f) (j : Journal) :
    outcome (serve p r) j = (.error f, j) := by
  cases h with
  | unpaired codes =>
    unfold serve
    exact hr.outcome_read _ j
  | internal hparse hkind =>
    rw [outcome_serve_str hr]
    exact outcome_bind_error (outcome_find_internal hparse hkind p j)

theorem Hosted.respond_unreadable {p : Parts} {r : Request} {code : Value} {f : Failure}
    (hr : r.Submits code) (h : Unreadable .hosted code f) (j : Journal) :
    outcome (respond .hosted p r) j = (.ok (serverError f), j) := by
  have hanswerable : isAnswerable f = true := by
    cases h with
    | unpaired codes => rfl
    | internal hparse hkind => rfl
  rw [respond_eq_analyze hr]
  exact Service.outcome_analyze_ok (d := .hosted)
    (outcome_analyze_error (outcome_serve_unreadable hr h j) hanswerable)

theorem Development.respond_unreadable {p : Parts} {r : Request} {code : Value} {run : LinterRun}
    {f : Failure} (hr : r.Submits code) (h : Unreadable .development code f)
    (hp : p.analyse = Parts.analysis run) (j : Journal) :
    ∃ j', outcome (respond .development p r) j = (.error f, j') ∧ j.Follows j' [] := by
  have hanalyze : ({} : Analyzer).analyze code run = { analyzer := {}, failure := some f } := by
    cases h with
    | unpaired codes => rfl
    | internal hparse hkind => exact Analyzer.analyze_of_internal {} run hparse hkind
  obtain ⟨lines, hlines⟩ : ∃ lines, linesOf code = .ok lines := by
    cases h with
    | unpaired codes => exact ⟨_, rfl⟩
    | internal hparse hkind => exact ⟨_, rfl⟩
  have hrefusal : Response.ofRefusal? f = none := by
    cases h with
    | unpaired codes => rfl
    | internal hparse hkind => rfl
  obtain ⟨j', houtcome, hfollows⟩ := outcome_analyze_failure hr hlines hp hanalyze j
  rw [respond_eq_analyze hr]
  exact ⟨j', Service.outcome_analyze_error (d := .development) houtcome hrefusal, hfollows⟩

theorem respond_unreadable {d : Deployment} {p : Parts} {r : Request} {code : Value}
    {run : LinterRun} {f : Failure} (hr : r.Submits code) (h : Unreadable d code f)
    (hp : p.analyse = Parts.analysis run) (j : Journal) :
    ∃ j', outcome (respond d p r) j = (d.failing f, j') ∧ j.Follows j' [] := by
  cases d with
  | development => exact Development.respond_unreadable hr h hp j
  | hosted => exact ⟨j, Hosted.respond_unreadable hr h j, .refl j⟩

end Service

end HabitLens
