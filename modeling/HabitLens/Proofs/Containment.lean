import HabitLens.Proofs.Resilience

/-!
The hosted service with explanations that fail. The failure does not take the answer away: all items
are there, and one more item tells what happened. It has the same category as the fault of a program
that cannot be run, so the two are compared by their lines, and a fault of the text as a whole has
none.
-/

namespace HabitLens.Service

open Act
open Source
open Review

theorem Course.failure_ne_none {p : Parts} {lines : Value} {xs : List ExplainedEntry}
    {failure : Option Failure} {j j' : Journal} (h : Course p lines xs failure j j') {e : Entry}
    (he : e ∈ xs.map (·.entry)) (hsystem : e.isSystem = false)
    (hfails : ∀ j, ∃ f j', outcome (p.explain e.toValue lines) j = (.error f, j')) :
    failure ≠ none := by
  induction h with
  | done j => cases he
  | failed => exact Option.some_ne_none _
  | treated hx _ ih =>
    rw [List.map_cons] at he
    rcases List.mem_cons.1 he with rfl | he
    . cases hx with
      | skipped htrue _ =>
        rw [hsystem] at htrue
        cases htrue
      | @explained _ _ _ j₁ _ _ _ _ hexplain _ =>
        obtain ⟨f, j', hfails⟩ := hfails j₁
        rw [hexplain] at hfails
        cases hfails
    . exact ih he

theorem Course.exists_failed {p : Parts} {lines : Value} {xs : List ExplainedEntry} {f : Failure}
    {j j' : Journal} (h : Course p lines xs (some f) j j') :
    ∃ item j j', outcome (p.explain item lines) j = (.error f, j') := by
  generalize hsome : some f = failure at h
  induction h with
  | done j => cases hsome
  | treated _ _ ih => exact ih hsome
  | failed _ _ hfails =>
    cases hsome
    exact ⟨_, _, _, hfails⟩

/-- Code that can be run, or whose fault is on a line. -/
def IsPlaced (code : String) : Prop :=
  ∀ fault, parseRunnable code = .error fault → fault.line ≠ none

theorem line_of_mem_found {run : LinterRun} {code : String} {e : Entry} (hrun : run.HasLines)
    (hcode : IsPlaced code) (he : e ∈ found .hosted run code) : ∃ n : Int, e.line = .int n := by
  cases hparse : parseRunnable code with
  | error fault =>
    rw [(fit_found hrun code).of_error fault hparse] at he
    obtain rfl := List.mem_singleton.1 he
    obtain ⟨n, hn⟩ := Option.ne_none_iff_exists'.1 (hcode fault hparse)
    refine ⟨n, ?_⟩
    change (fault.line.map Value.int).getD .null = .int n
    rw [hn]
    rfl
  | ok body =>
    rw [found_of_ok hparse] at he
    obtain ⟨i, hi, rfl⟩ := List.mem_map.1 he
    exact Analyzer.line_feedback_of_ok (parse_of_parseRunnable hparse) hrun hi

namespace Hosted

theorem outcome_serve_course {p : Parts} {r : Request} {code : String} {es : List Entry}
    {j j₁ : Journal} (hr : r.Submits (.str code)) (hassistant : p.hasAssistant = true)
    (hfound : outcome (find p code) j = (.ok (es.map Entry.toValue), j₁)) :
    ∃ xs failure j₂ j₃ j', xs.map (·.entry) = es ∧ j₁.Follows j₂ [] ∧
      Course p (codeLines code) xs failure j₂ j₃ ∧
      outcome (serve p r) j
        =
      (((told xs failure).bind (Sort.sort fun a b => a.key.less b.key)).map
        (List.map ExplainedEntry.toValue), j') := by
  obtain ⟨xs, failure, j₂, j₃, j₄, hentries, hbefore, hcourse, -, hexplain⟩ :=
    outcome_explainAll_course hassistant (codeLines code) es j₁
  rw [outcome_serve_str hr, outcome_bind_ok hfound]
  cases htold : told xs failure with
  | error f =>
    rw [htold] at hexplain
    refine ⟨xs, failure, j₂, j₃, j₄, hentries, hbefore, hcourse, ?_⟩
    rw [htold]
    exact outcome_bind_error hexplain
  | ok ys =>
    rw [htold] at hexplain
    obtain ⟨j', harrange, -⟩ := leads_arrange ys j₄
    refine ⟨xs, failure, j₂, j₃, j', hentries, hbefore, hcourse, ?_⟩
    rw [htold, outcome_bind_ok hexplain]
    exact harrange

theorem orderly_with_notice {run : LinterRun} {code : String} {xs : List ExplainedEntry}
    (hrun : run.HasLines) (hcode : IsPlaced code) (hxs : xs.map (·.entry) = found .hosted run code)
    (f : Failure) : Feedback.Key.Orderly ((xs ++ [notice f]).map ExplainedEntry.key) := by
  apply Feedback.Key.orderly_of_lines
  intro k hk
  obtain ⟨x, hx, rfl⟩ := List.mem_map.1 hk
  rcases List.mem_append.1 hx with hx | hx
  . apply line_of_mem_found hrun hcode
    rw [← hxs]
    exact List.mem_map_of_mem hx
  . obtain rfl := List.mem_singleton.1 hx
    exact ⟨0, rfl⟩

/-- The line of the notice is compared with the line that the fault does not have. -/
theorem sort_with_notice_of_fault {fault : Fault} {xs : List ExplainedEntry}
    (hfault : fault.line = none) (hxs : xs.map (·.entry) = [.ofRemark (faultRemark fault)])
    (f : Failure) :
    Sort.sort (fun a b => a.key.less b.key) (xs ++ [notice f])
      =
    .error (.unordered "<" .int .null) := by
  obtain ⟨x, rfl, hx⟩ := List.map_eq_singleton_iff.1 hxs
  have hless : (notice f).key.less x.key = .error (.unordered "<" .int .null) := by
    unfold ExplainedEntry.key
    rw [hx]
    change Feedback.Key.less ⟨0, .int 0⟩ ⟨0, (fault.line.map Value.int).getD .null⟩ = _
    rw [hfault]
    rfl
  rw [List.singleton_append, Sort.sort, Sort.firstRun, hless]
  rfl

theorem outcome_respond_of_fault {p : Parts} {r : Request} {code : Value} {fault : Fault}
    {f : Failure} {xs : List ExplainedEntry} {j j' : Journal} (hr : r.Submits code)
    (hf : isAnswerable f = true) (hfault : fault.line = none)
    (hxs : xs.map (·.entry) = [.ofRemark (faultRemark fault)])
    (hserve : outcome (serve p r) j
      =
    (((told xs (some f)).bind (Sort.sort fun a b => a.key.less b.key)).map
      (List.map ExplainedEntry.toValue), j')) :
    outcome (respond .hosted p r) j = (.ok (failed (.unordered "<" .int .null)), j') := by
  have hsort := sort_with_notice_of_fault hfault hxs f
  rw [told_of_answerable hf] at hserve
  dsimp only [Except.bind] at hserve
  rw [hsort] at hserve
  rw [respond_eq_analyze hr]
  exact Service.outcome_analyze_ok (d := .hosted) (outcome_analyze_error hserve rfl)

theorem outcome_respond_of_order {p : Parts} {r : Request} {code : Value} {f : Failure}
    {j j' : Journal} (hr : r.Submits code) (hf : isAnswerable f = false)
    (hserve : outcome (serve p r) j = (.error f, j')) :
    outcome (respond .hosted p r) j = (.error f, j') := by
  have hrefusal : Response.ofRefusal? f = none := by
    cases f with
    | stopped cause message => rfl
    | _ => cases hf
  have hanalyze : outcome (analyze p r) j = (.error f, j') := by
    unfold analyze
    rw [outcome_bind_ok (outcome_caught _ _)]
    rw [hserve]
    dsimp only
    rw [hf]
    rfl
  rw [respond_eq_analyze hr]
  exact Service.outcome_analyze_error (d := .hosted) hanalyze hrefusal

theorem outcome_find_found {run : LinterRun} {p : Parts} (hrun : run.HasLines)
    (hp : p.analyse = Parts.analysis run) {code : String} (hcode : Deployment.Reads .hosted code)
    (j : Journal) :
    ∃ j', outcome (find p code) j = (.ok ((found .hosted run code).map Entry.toValue), j') ∧
      j.Follows j' [] := by
  have hfind : find p code = find (.standard .hosted run true none) code := by
    unfold find
    rw [hp]
    rfl
  rw [hfind]
  exact leads_gather hrun hcode true none j

end Hosted

/--
The hosted service contains a failing explanation, whatever is explained in whatever way: the items
that it found in code that it can read are explained up to the first failure. The answer is without
an error, and its items are those that were found and one that tells of the failure, in order. Only
if the text of the code as a whole is at fault, there is no such answer. An order to stop is not
answered at all, and code that cannot be read is answered by an error.
-/
theorem respond_contains_failure {r : Request} {code : String} {run : LinterRun}
    (hr : r.Submits (.str code)) (hrun : run.HasLines) (explain : Value → Value → Act Advice)
    (j : Journal) :
    let p : Parts := { analyse := Parts.analysis run, explain, hasAssistant := true }
    (Deployment.Reads .hosted code →
      ∃ (xs : List ExplainedEntry) (failure : Option Failure) (j₁ j₂ j' : Journal),
        xs.map (·.entry) = found .hosted run code ∧
        j.Follows j₁ [] ∧
        Course p (codeLines code) xs failure j₁ j₂ ∧
        ((∃ e ∈ found .hosted run code, e.isSystem = false ∧
            ∀ j, ∃ f j', outcome (explain e.toValue (codeLines code)) j = (.error f, j')) →
          failure ≠ none) ∧
        (∀ f, failure = some f → Hosted.isAnswerable f = true → IsPlaced code →
          ∃ items,
            outcome (respond .hosted p r) j
              =
            (.ok { status := 200, content := .data (.dict [("feedback", .list items)]) }, j') ∧
            items.Perm
              (xs.map ExplainedEntry.toValue ++
                [.dict
                  [("line", .int 0),
                   ("message", .str ("Error generating explanations: " ++ f.message)),
                   ("category", .str "syntax_error"), ("source", .str "system"),
                   ("explanation", .str ("Failed to generate explanations: " ++ f.message)),
                   ("fix", .null)]]) ∧
            items.Pairwise InOrder) ∧
        (∀ f, failure = some f → Hosted.isAnswerable f = true → ¬IsPlaced code →
          outcome (respond .hosted p r) j
            =
          (.ok (Hosted.failed (.unordered "<" .int .null)), j')) ∧
        (∀ f, failure = some f → Hosted.isAnswerable f = false →
          outcome (respond .hosted p r) j = (.error f, j'))) ∧
    (∀ f, Unreadable .hosted (.str code) f →
      outcome (respond .hosted p r) j = (.ok (serverError f), j)) := by
  intro p
  refine ⟨?_, fun f hunreadable => Hosted.respond_unreadable hr hunreadable j⟩
  intro hreads
  obtain ⟨j₀, hfind, hfound⟩ := Hosted.outcome_find_found (p := p) hrun rfl hreads j
  obtain ⟨xs, failure, j₁, j₂, j', hentries, hbefore, hcourse, hserve⟩ :=
    Hosted.outcome_serve_course hr rfl hfind
  refine ⟨xs, failure, j₁, j₂, j', hentries, hfound.trans hbefore, hcourse, ?_, ?_, ?_, ?_⟩
  . rintro ⟨e, he, hsystem, hfails⟩
    rw [← hentries] at he
    exact hcourse.failure_ne_none he hsystem hfails
  . rintro f rfl hf hcode
    obtain ⟨sorted, hsort, harranged⟩ := (Hosted.orderly_with_notice hrun hcode hentries f).sort
    rw [Hosted.told_of_answerable hf] at hserve
    dsimp only [Except.bind] at hserve
    rw [hsort] at hserve
    refine ⟨sorted.map ExplainedEntry.toValue, ?_, ?_, pairwise_inOrder harranged.ordered⟩
    . rw [respond_eq_analyze hr]
      exact outcome_analyze_ok (d := .hosted) (Hosted.outcome_analyze_ok hserve)
    . have hperm := harranged.perm.map ExplainedEntry.toValue
      rw [List.map_append] at hperm
      exact hperm
  . rintro f rfl hf hcode
    unfold IsPlaced at hcode
    push Not at hcode
    obtain ⟨fault, hparse, hline⟩ := hcode
    rw [(fit_found hrun code).of_error fault hparse] at hentries
    exact Hosted.outcome_respond_of_fault hr hf hline hentries hserve
  . rintro f rfl hf
    rw [Hosted.told_of_not_answerable hf] at hserve
    exact Hosted.outcome_respond_of_order hr hf hserve

/-- Two entries of the linter are about the code, and neither can be explained. -/
theorem respond_contains_failure_twoErrors :
    let run := LinterRun.output twoErrors
    let explain : Value → Value → Act Advice := fun _ _ => throw (.outside "boom")
    let p : Parts := { analyse := Parts.analysis run, explain, hasAssistant := true }
    ∃ (xs : List ExplainedEntry) (items : List Value) (j' : Journal),
      xs.map (·.entry) = found .hosted run "pass" ∧
      outcome (respond .hosted p (posting "\x7b\"code\": \"pass\"\x7d")) {}
        =
      (.ok { status := 200, content := .data (.dict [("feedback", .list items)]) }, j') ∧
      items.Perm
        (xs.map ExplainedEntry.toValue ++
          [.dict
            [("line", .int 0), ("message", .str ("Error generating explanations: " ++ "boom")),
             ("category", .str "syntax_error"), ("source", .str "system"),
             ("explanation", .str ("Failed to generate explanations: " ++ "boom")),
             ("fix", .null)]]) ∧
      items.Pairwise InOrder := by
  intro run explain p
  have hplaced : IsPlaced "pass" := by
    intro fault hparse
    rw [parseRunnable_pass] at hparse
    cases hparse
  let i : Issue :=
    { line := .int 7, message := .str "", isBadHabit := true, category := .runtimeError,
      origin := .linter }
  have hi : .ofIssue i ∈ found .hosted run "pass" := by
    rw [found_of_ok parseRunnable_pass]
    rw [Analyzer.analyze_of_ok {} run (parse_of_parseRunnable parseRunnable_pass)]
    rw [report_output, ofOutput_twoErrors]
    apply List.mem_map_of_mem
    apply List.mem_append_right
    exact List.mem_cons_self
  obtain ⟨xs, failure, _, _, j', hentries, -, hcourse, hfails, hcontained, -⟩ :=
    (respond_contains_failure submits_pass hasLines_twoErrors explain {}).1
      (Deployment.reads_of_ok (d := .hosted) parseRunnable_pass)
  obtain ⟨f, hf⟩ := Option.ne_none_iff_exists'.1
    (hfails ⟨_, hi, rfl, fun j => ⟨_, j, rfl⟩⟩)
  subst hf
  obtain ⟨_, _, _, hboom⟩ := hcourse.exists_failed
  obtain rfl : f = .outside "boom" := (Except.error.inj (congrArg Prod.fst hboom)).symm
  obtain ⟨items, hrespond, hperm, hordered⟩ := hcontained _ rfl rfl hplaced
  exact ⟨xs, items, j', hentries, hrespond, hperm, hordered⟩

/-- The fault of the text has no line, and the item that cannot be explained is the fault. -/
theorem respond_fails_without_line :
    let run := LinterRun.output ""
    let p := (Parts.standard .hosted run true (some "k")).failingExplanation (.outside "boom")
    let r := posting "\x7b\"code\": \"\\u0000\"\x7d"
    r.Submits (.str "\x00") ∧ run.HasLines ∧
    (∃ e ∈ found .hosted run "\x00", e.isSystem = false ∧
      ∀ lines j, outcome (p.explain e.toValue lines) j = (.error (.outside "boom"), j)) ∧
    (outcome (respond .hosted p r) {}).1 = .ok (Hosted.failed (.unordered "<" .int .null)) ∧
    ∀ content, (outcome (respond .hosted p r) {}).1 ≠ .ok { status := 200, content } := by
  intro run p r
  let fault : Fault := { message := "source code string cannot contain null bytes", line := none }
  have hparse : parseRunnable "\x00" = .error fault := rfl
  have hrun : run.HasLines := by
    intro i hi
    cases hi
  have hfound : found .hosted run "\x00" = [.ofRemark (Hosted.faultRemark fault)] :=
    (fit_found hrun "\x00").of_error fault hparse
  have hfails : ∀ item lines j, outcome (p.explain item lines) j = (.error (.outside "boom"), j) :=
    fun _ _ _ => rfl
  obtain ⟨xs, failure, _, _, j', hentries, -, hcourse, hserve⟩ :=
    Hosted.outcome_serve_course submits_null_character rfl
      (Hosted.outcome_find_fault hparse FaultKind.noConfusion p {})
  have hmem : Entry.ofRemark (Hosted.faultRemark fault) ∈ xs.map (·.entry) := by
    rw [hentries]
    exact List.mem_singleton_self _
  obtain ⟨f, rfl⟩ := Option.ne_none_iff_exists'.1
    (hcourse.failure_ne_none hmem rfl fun j => ⟨_, j, hfails _ _ j⟩)
  obtain ⟨_, _, _, hboom⟩ := hcourse.exists_failed
  obtain rfl : f = .outside "boom" := (Except.error.inj (congrArg Prod.fst hboom)).symm
  have hrespond := Hosted.outcome_respond_of_fault submits_null_character rfl rfl hentries hserve
  refine ⟨submits_null_character, hrun, ?_, ?_, ?_⟩
  . rw [hfound]
    exact ⟨_, List.mem_singleton_self _, rfl, fun lines j => hfails _ lines j⟩
  . exact congrArg Prod.fst hrespond
  . intro content heq
    rw [congrArg Prod.fst hrespond] at heq
    cases heq

end HabitLens.Service
