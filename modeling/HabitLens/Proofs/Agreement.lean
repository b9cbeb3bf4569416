import HabitLens.Proofs.Delivery

/-!
The two deployments give the same answer on a program that can be run, if there is no assistant.
Where lines that the linter reports cannot be compared, one passes the failure on that the other one
tells of.
-/

namespace HabitLens

open Act
open Source
open Review

namespace Value

mutual

theorem less_eq_error {v w : Value} {f : Failure} (h : less v w = .error f) :
    ∃ left right, f = .unordered "<" left right := by
  unfold less at h
  split at h
  . cases h
  . exact lessItems_eq_error h
  . split at h
    . cases h
    . split at h
      . cases h
      . obtain rfl := Except.error.inj h
        exact ⟨_, _, rfl⟩

theorem lessItems_eq_error {xs ys : List Value} {f : Failure} (h : lessItems xs ys = .error f) :
    ∃ left right, f = .unordered "<" left right := by
  unfold lessItems at h
  split at h
  . cases h
  . cases h
  . split at h
    . exact lessItems_eq_error h
    . exact less_eq_error h

end

end Value

theorem Source.parse_of_parseRunnable {code : String} {body : List Stmt}
    (h : parseRunnable code = .ok body) : parse code = .ok body := by
  obtain ⟨parsed, hparse, h⟩ := Outcome.bind_eq_ok.1 h
  obtain ⟨-, -, h⟩ := Outcome.bind_eq_ok.1 h
  obtain rfl := Except.ok.inj h
  exact hparse

namespace Review

theorem Issue.key_less_eq_error {a b : Issue} {f : Failure} (h : a.key.less b.key = .error f) :
    a.category = b.category ∧ a.line.less b.line = .error f := by
  rw [key_less] at h
  split at h
  . next hpriority =>
    split at h
    . cases h
    . exact ⟨Category.eq_of_priority_eq hpriority, h⟩
  . cases h

theorem Analyzer.line_of_mem_feedback {a : Analyzer} {code : String} {body : List Stmt}
    {run : LinterRun} {i : Issue} (h : parse code = .ok body)
    (hi : i ∈ (a.analyze (.str code) run).analyzer.feedback) (horigin : i.origin ≠ .linter) :
    ∃ n : Int, i.line = .int n := by
  rw [analyze_of_ok a run h] at hi
  rcases List.mem_append.1 hi with hi | hi
  . obtain ⟨c, -, hi⟩ := List.mem_flatMap.1 hi
    exact (Check.isFinding_of_mem_run hi).line_eq
  . exact (LinterRun.isReport_of_mem_report hi).line_eq horigin

theorem Analyzer.origin_of_less_eq_error {a : Analyzer} {code : String} {body : List Stmt}
    {run : LinterRun} {x y : Issue} {f : Failure} (h : parse code = .ok body)
    (hx : x ∈ (a.analyze (.str code) run).analyzer.feedback)
    (hy : y ∈ (a.analyze (.str code) run).analyzer.feedback)
    (hless : x.line.less y.line = .error f) : x.origin = .linter ∨ y.origin = .linter := by
  by_contra hne
  rw [not_or] at hne
  obtain ⟨m, hm⟩ := line_of_mem_feedback h hx hne.1
  obtain ⟨n, hn⟩ := line_of_mem_feedback h hy hne.2
  rw [hm, hn, less_int] at hless
  cases hless

end Review

namespace Service

theorem codeText_str (code : String) : codeText (.str code) = .ok code :=
  rfl

namespace Hosted

theorem outcome_find {p : Parts} {code : String} {body : List Stmt} {items : List Value}
    {j j' : Journal} (hcode : parseRunnable code = .ok body)
    (hitems : outcome (p.analyse (.str code)) j = (.ok items, j')) :
    outcome (find p code) j = (.ok items, j') := by
  unfold find
  rw [hcode]
  dsimp only
  rw [outcome_bind_ok (outcome_caught _ _)]
  rw [hitems]
  rfl

theorem outcome_serve_str {r : Request} {code : String} (hr : r.Submits (.str code)) (p : Parts)
    (j : Journal) :
    outcome (serve p r) j
      =
    outcome (find p code >>= fun items => explainAll p (codeLines code) items >>= arrange) j := by
  unfold serve
  refine (hr.outcome_read _ j).trans ?_
  rw [linesOf_str, codeText_str]
  rw [outcome_bind_ok (outcome_ofExcept _ _)]
  rw [outcome_bind_ok (outcome_ofExcept _ _)]

theorem outcome_serve_entries {p : Parts} {r : Request} {code : String} {es : List Entry}
    {j j' : Journal} (hr : r.Submits (.str code)) (hp : p.Explains)
    (hfound : outcome (find p code) j = (.ok (es.map Entry.toValue), j')) :
    ∃ xs j₁ j₂, xs.map (·.entry) = es ∧ Handled p (codeLines code) xs j' j₁ ∧
      j₁.Follows j₂ [] ∧
      outcome (serve p r) j
        =
      ((Sort.sort (fun a b => a.key.less b.key) xs).map (List.map ExplainedEntry.toValue), j₂) := by
  obtain ⟨xs, j₁, hentries, hhandled, hexplain⟩ :=
    outcome_explainAll_entries hp (codeLines code) es j'
  obtain ⟨j₂, harrange, hfollows⟩ := leads_arrange xs j₁
  refine ⟨xs, j₁, j₂, hentries, hhandled, hfollows, ?_⟩
  rw [outcome_serve_str hr]
  rw [outcome_bind_ok hfound]
  rw [outcome_bind_ok hexplain]
  exact harrange

theorem outcome_serve {p : Parts} {r : Request} {code : String} {body : List Stmt}
    {issues : List Issue} {j j' : Journal} (hr : r.Submits (.str code)) (hexplains : p.Explains)
    (hcode : parseRunnable code = .ok body) (hp : p.hasAssistant = false)
    (hissues : outcome (p.analyse (.str code)) j = (.ok (issues.map Issue.toValue), j')) :
    ∃ j'', outcome (serve p r) j
      =
    ((Sort.sort (fun a b => a.issue.key.less b.issue.key) (ExplainedIssue.bare issues)).map
      (List.map ExplainedIssue.toValue), j'') := by
  rw [← Entry.map_ofIssue] at hissues
  obtain ⟨xs, _, j'', hentries, hhandled, -, hserve⟩ :=
    outcome_serve_entries hr hexplains (outcome_find hcode hissues)
  obtain ⟨es, rfl, rfl⟩ := ExplainedIssue.exists_map_toEntry hentries
  have hbare : es = ExplainedIssue.bare (es.map (·.issue)) := by
    apply ExplainedIssue.eq_bare_of_advice
    intro e he
    exact hhandled.advice_eq_none hp e.toEntry (List.mem_map_of_mem he)
  rw [sort_toEntry] at hserve
  rw [← hbare]
  exact ⟨j'', hserve⟩

theorem outcome_analyze_ok {p : Parts} {r : Request} {items : List Value} {j j' : Journal}
    (h : outcome (serve p r) j = (.ok items, j')) :
    outcome (analyze p r) j = (.ok (.ok (.data (Feedback.toValue items))), j') := by
  unfold analyze
  rw [outcome_bind_ok (outcome_caught _ _)]
  rw [h]
  rfl

theorem outcome_analyze_error {p : Parts} {r : Request} {f : Failure} {j j' : Journal}
    (h : outcome (serve p r) j = (.error f, j')) (hf : isAnswerable f = true) :
    outcome (analyze p r) j = (.ok (failed f), j') := by
  unfold analyze
  rw [outcome_bind_ok (outcome_caught _ _)]
  rw [h]
  dsimp only
  rw [if_pos hf]
  rfl

end Hosted

/--
How what development and the hosted deployment come to is related, given the issues that were found:
both answer with the same items, or the lines of two issues in one category cannot be compared. That
ends development, and the other deployment tells of it.
-/
inductive Agree (found : List Issue) :
    Except Failure Response → Except Failure Response → Prop where
  | alike {items : List Value} (hitems : items.Perm (found.map Issue.toValue)) :
      Agree found
        (.ok { status := 200, content := .data (.dict [("feedback", .list items)]) })
        (.ok { status := 200, content := .data (.dict [("feedback", .list items)]) })
  | broken {a b : Issue} {f : Failure} (ha : a ∈ found) (hb : b ∈ found)
      (hcategory : a.category = b.category)
      (horigin : a.origin = .linter ∨ b.origin = .linter)
      (hless : a.line.less b.line = .error f) :
      Agree found (.error f)
        (.ok
          { status := 500
            content := .data (.dict
              [("error", .str f.message),
               ("feedback", .list
                 [.dict
                   [("line", .int 0), ("message", .str ("Server error: " ++ f.message)),
                    ("category", .str "syntax_error"), ("source", .str "system")]])]) })

theorem ExplainedIssue.mem_of_mem_bare {issues : List Issue} {e : ExplainedIssue}
    (h : e ∈ bare issues) : e.issue ∈ issues := by
  obtain ⟨i, hi, rfl⟩ := List.mem_map.1 h
  exact hi

/-- Without an assistant the deployments agree on every program that can be run. -/
theorem respond_deployments_agree {r : Request} {code : String} {body : List Stmt}
    {run : LinterRun} (hr : r.Submits (.str code)) (hcode : parseRunnable code = .ok body)
    (hrun : ∀ cause message, run ≠ .stopped cause message) (apiKey apiKey' : Option String)
    (j j' : Journal) :
    Agree (({} : Analyzer).analyze (.str code) run).analyzer.feedback
      (outcome (respond .development (.standard .development run false apiKey) r) j).1
      (outcome (respond .hosted (.standard .hosted run false apiKey') r) j').1 := by
  have hparse := Source.parse_of_parseRunnable hcode
  have hfailure : (({} : Analyzer).analyze (.str code) run).failure = none :=
    Analyzer.failure_analyze {} (readable_of_ok hparse) hrun
  obtain ⟨_, hanalysis⟩ := Parts.outcome_analysis hfailure j
  obtain ⟨_, hanalysis'⟩ := Parts.outcome_analysis hfailure j'
  have hexplains := Parts.explains_standard .development run false apiKey
  obtain ⟨_, j₁, -, hbare, hdevelopment⟩ := Development.outcome_analyze hr hexplains hanalysis
  obtain rfl := hbare rfl
  have hexplains' := Parts.explains_standard .hosted run false apiKey'
  have hassistant : (Parts.standard .hosted run false apiKey').hasAssistant = false := rfl
  obtain ⟨j₂, hhosted⟩ := Hosted.outcome_serve hr hexplains' hcode hassistant hanalysis'
  rw [respond_eq_analyze hr, respond_eq_analyze hr]
  -- Both sort the same issues by the same keys, so the sort succeeds or fails for both.
  cases hsort : Sort.sort (fun a b => a.issue.key.less b.issue.key)
      (ExplainedIssue.bare (({} : Analyzer).analyze (.str code) run).analyzer.feedback) with
  | ok sorted =>
    rw [hsort] at hdevelopment hhosted
    have hitems := (Sort.sort_perm hsort).map ExplainedIssue.toValue
    rw [ExplainedIssue.map_toValue_bare] at hitems
    have hhosted := Hosted.outcome_analyze_ok hhosted
    rw [outcome_analyze_ok (d := .development) hdevelopment]
    rw [outcome_analyze_ok (d := .hosted) hhosted]
    exact .alike hitems
  | error f =>
    rw [hsort] at hdevelopment hhosted
    obtain ⟨a, ha, b, hb, hless⟩ := Sort.sort_error hsort
    obtain ⟨hcategory, hless⟩ := Issue.key_less_eq_error hless
    obtain ⟨left, right, rfl⟩ := Value.less_eq_error hless
    have ha := ExplainedIssue.mem_of_mem_bare ha
    have hb := ExplainedIssue.mem_of_mem_bare hb
    have horigin := Analyzer.origin_of_less_eq_error hparse ha hb hless
    have hhosted := Hosted.outcome_analyze_error hhosted rfl
    rw [outcome_analyze_error (d := .development) hdevelopment rfl]
    rw [outcome_analyze_ok (d := .hosted) hhosted]
    exact .broken ha hb hcategory horigin hless

theorem parseRunnable_pass : parseRunnable "pass" = .ok [.pass 1] := by
  have heval :
      (parseRunnable "pass").toOption.any (fun body =>
        BroadHandler.onlyPasses (.mk 1 none none body) && body.map Stmt.line == [1]) = true := by
    decide +kernel
  cases hparse : parseRunnable "pass" with
  | error fault =>
    rw [hparse] at heval
    cases heval
  | ok body =>
    rw [hparse] at heval
    obtain ⟨hpasses, hlines⟩ := Bool.and_eq_true_iff.1 heval
    unfold BroadHandler.onlyPasses at hpasses
    split at hpasses
    . next line hbody =>
      obtain rfl : body = [.pass line] := hbody
      obtain rfl : line = 1 := by simpa [Stmt.line] using hlines
      rfl
    . cases hpasses

theorem submits_pass : (posting "\x7b\"code\": \"pass\"\x7d").Submits (.str "pass") := by
  have hdata : (posting "\x7b\"code\": \"pass\"\x7d").data.toOption
      = some (.dict [("code", .str "pass")]) := by
    decide +kernel
  exact submits_posting hdata rfl

/-- The lines of two entries, a number and a text, cannot be compared. -/
theorem respond_deployments_agree_pass :
    let run := LinterRun.output
      ("[\x7b\"type\": \"error\", \"line\": 7\x7d, " ++
        "\x7b\"type\": \"error\", \"line\": \"x\"\x7d]")
    let r := posting "\x7b\"code\": \"pass\"\x7d"
    Agree (({} : Analyzer).analyze (.str "pass") run).analyzer.feedback
      (outcome (respond .development (.standard .development run false none) r) {}).1
      (outcome (respond .hosted (.standard .hosted run false (some "key")) r) {}).1 :=
  respond_deployments_agree submits_pass parseRunnable_pass (by intro _ _ h; cases h) none
    (some "key") {} {}

end Service

end HabitLens
