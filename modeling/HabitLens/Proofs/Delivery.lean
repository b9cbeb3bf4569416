import HabitLens.Proofs.Analysis
import HabitLens.Proofs.Explained
import HabitLens.Service.Route

/-!
From a request to the answer of the service in development. Whatever the code is and whatever the
assistant replies, the answer holds all that the analysis found, in order. Only code that cannot be
read gets no answer.
-/

namespace HabitLens

open Act
open Source
open Review

namespace Review

/--
The linter runs to its end or fails by itself, and lines that it reports are whole numbers. An entry
that gives no line counts as one for line zero.
-/
def LinterRun.HasLines : LinterRun → Prop
  | .output text => ∀ i ∈ Linter.ofOutput text, i.origin = .linter → ∃ n : Int, i.line = .int n
  | .missing => True
  | .failed _ => True
  | .stopped .. => False

theorem LinterRun.HasLines.ne_stopped {run : LinterRun} (h : run.HasLines)
    (cause message : String) : run ≠ .stopped cause message := by
  rintro rfl
  exact h

theorem LinterRun.HasLines.line_eq {run : LinterRun} (h : run.HasLines) {i : Issue}
    (hi : i ∈ run.report.issues) : ∃ n : Int, i.line = .int n := by
  by_cases horigin : i.origin = .linter
  . cases run with
    | output text => exact h i hi horigin
    | missing => cases hi
    | failed reason =>
      obtain rfl := List.mem_singleton.1 hi
      cases horigin
    | stopped cause message => cases h
  . exact (isReport_of_mem_report hi).line_eq horigin

theorem Analyzer.same_line_syntaxIssue (fault : Fault) :
    (syntaxIssue fault).line.same (syntaxIssue fault).line = true := by
  unfold syntaxIssue
  cases fault.line with
  | none => rfl
  | some n =>
    change Value.same (.int n) (.int n) = true
    rw [same_int]
    simp

theorem Analyzer.orderly_feedback (a : Analyzer) (code : String) {run : LinterRun}
    (h : run.HasLines) : Orderly (a.analyze (.str code) run).analyzer.feedback := by
  cases hparse : parse code with
  | error fault =>
    by_cases hkind : fault.kind = .internal
    . rw [analyze_of_internal a run hparse hkind]
      apply orderly_of_lines
      intro i hi
      cases hi
    -- The fault may lack a line, but no other issue shares its category.
    . rw [analyze_of_error a run hparse hkind]
      apply Orderly.cons
      . apply orderly_of_lines
        intro i hi
        exact h.line_eq hi
      . intro i hi
        exact (LinterRun.isReport_of_mem_report hi).category_ne.symm
      . apply same_line_syntaxIssue
  | ok body =>
    rw [analyze_of_ok a run hparse]
    apply orderly_of_lines
    intro i hi
    rcases List.mem_append.1 hi with hi | hi
    . obtain ⟨c, -, hi⟩ := List.mem_flatMap.1 hi
      exact (Check.isFinding_of_mem_run hi).line_eq
    . exact h.line_eq hi

end Review

namespace Service

/-- A request to analyze some code. Without any code it is about the empty text. -/
structure Request.Submits (r : Request) (code : Value) : Prop where
  place : Place.ofPath? r.place = some .analysis
  method : upperCase r.method = "POST"
  data : ∃ fields : Table Value, r.data = .ok (.dict fields) ∧
    (fields.get? "code").getD (.str "") = code

theorem respond_eq_analyze {r : Request} {code : Value} (h : r.Submits code) (d : Deployment)
    (p : Parts) : respond d p r = analyze d p r := by
  simp only [respond, h.place, h.method]

theorem Request.Submits.outcome_read {α : Type} {r : Request} {code : Value} (h : r.Submits code)
    (next : Value → Act α) (j : Journal) :
    outcome (do
      let data ← ofExcept r.data
      let code ← ofExcept (data.fieldOr "code" (.str ""))
      next code) j
      =
    outcome (next code) j := by
  obtain ⟨fields, hdata, hcode⟩ := h.data
  rw [hdata]
  rw [outcome_bind_ok (outcome_ofExcept _ _)]
  rw [show Value.fieldOr (.dict fields) "code" (.str "") = .ok code from congrArg Except.ok hcode]
  rw [outcome_bind_ok (outcome_ofExcept _ _)]

theorem linesOf_str (code : String) : linesOf (.str code) = .ok (codeLines code) :=
  rfl

def view (d : Deployment) (p : Parts) (r : Request) : Act Response :=
  match d with
  | .development => Development.analyze p r
  | .hosted => Hosted.analyze p r

def settle : Except Failure Response → Act Response
  | .ok response => return response
  | .error f =>
    match Response.ofRefusal? f with
    | some response => return response
    | none => throw f

theorem analyze_eq (d : Deployment) (p : Parts) (r : Request) :
    analyze d p r = caught (view d p r) >>= settle := by
  cases d with
  | development => rfl
  | hosted => rfl

theorem outcome_analyze_ok {d : Deployment} {p : Parts} {r : Request} {j j' : Journal}
    {response : Response} (h : outcome (view d p r) j = (.ok response, j')) :
    outcome (analyze d p r) j = (.ok response, j') := by
  rw [analyze_eq]
  rw [outcome_bind_ok (outcome_caught _ _)]
  rw [h]
  rfl

theorem outcome_analyze_error {d : Deployment} {p : Parts} {r : Request} {j j' : Journal}
    {f : Failure} (h : outcome (view d p r) j = (.error f, j'))
    (hrefusal : Response.ofRefusal? f = none) : outcome (analyze d p r) j = (.error f, j') := by
  rw [analyze_eq]
  rw [outcome_bind_ok (outcome_caught _ _)]
  rw [h]
  unfold settle
  dsimp only
  rw [hrefusal]
  rfl

def posting (text : String) : Request :=
  { method := "POST"
    path := "/analyze"
    body := some { contentType := "application/json", text } }

theorem submits_posting {text : String} {code : Value} {fields : Table Value}
    (hdata : (posting text).data.toOption = some (.dict fields))
    (hcode : (fields.get? "code").getD (.str "") = code) : (posting text).Submits code := by
  constructor
  . change Place.ofPath? (String.ofList ("/analyze".toList.takeWhile _)) = _
    decide +kernel
  . change upperCase "POST" = "POST"
    decide +kernel
  . exact ⟨fields, Outcome.toOption_eq_some.1 hdata, hcode⟩

theorem Parts.leads_analysis {run : LinterRun} {code : String}
    (h : (({} : Analyzer).analyze (.str code) run).failure = none) (j : Journal) :
    Leads (attempt (analysis run (.str code))) j
      (.ok ((({} : Analyzer).analyze (.str code) run).analyzer.feedback.map Issue.toValue)) [] := by
  unfold analysis
  dsimp only
  refine (Leads.sayAll _ j).lift.bind_ok fun j _ => ?_
  rw [h]
  exact Leads.pure _ j

theorem Parts.outcome_analysis {run : LinterRun} {code : String}
    (h : (({} : Analyzer).analyze (.str code) run).failure = none) (j : Journal) :
    ∃ j', outcome (analysis run (.str code)) j
      =
    (.ok ((({} : Analyzer).analyze (.str code) run).analyzer.feedback.map Issue.toValue), j') := by
  obtain ⟨j', hanalysis, -⟩ := leads_analysis h j
  exact ⟨j', hanalysis⟩

theorem Development.outcome_analyze_entries {p : Parts} {r : Request} {code : String}
    {es : List Entry} {j j' : Journal} (hr : r.Submits (.str code)) (hp : p.Explains)
    (hfound : outcome (p.analyse (.str code)) j = (.ok (es.map Entry.toValue), j')) :
    ∃ xs j'', xs.map (·.entry) = es ∧ Handled p (codeLines code) xs j' j'' ∧
      outcome (analyze p r) j
        =
      (((Sort.sort (fun a b => a.key.less b.key) xs).map (List.map ExplainedEntry.toValue)).map
        fun items => .ok (.data (Feedback.toValue items)), j'') := by
  obtain ⟨xs, j'', hentries, hhandled, hexplain⟩ := outcome_explainAll_entries hp (codeLines code)
    es (say s!"Found {(es.map Entry.toValue).length} issues to analyze" |>.run j').2
  refine ⟨xs, j'', hentries, hhandled.after (j'.follows_say _), ?_⟩
  unfold analyze
  refine (hr.outcome_read _ j).trans ?_
  rw [linesOf_str]
  rw [outcome_bind_ok (outcome_ofExcept _ _)]
  rw [outcome_bind_ok hfound]
  rw [outcome_bind_ok (outcome_liftM _ _)]
  rw [outcome_bind_ok hexplain]
  rw [arrange_entries]
  cases Sort.sort (fun a b : ExplainedEntry => a.key.less b.key) xs with
  | error f => rfl
  | ok xs => rfl

theorem Development.outcome_analyze {p : Parts} {r : Request} {code : String}
    {issues : List Issue} {j j' : Journal} (hr : r.Submits (.str code)) (hp : p.Explains)
    (hissues : outcome (p.analyse (.str code)) j = (.ok (issues.map Issue.toValue), j')) :
    ∃ es : List ExplainedIssue, ∃ j'', es.map (·.issue) = issues ∧
      (p.hasAssistant = false → es = ExplainedIssue.bare issues) ∧
      outcome (analyze p r) j
        =
      ((Sort.sort (fun a b => a.issue.key.less b.issue.key) es).map fun es =>
        .ok (.data (Feedback.toValue (es.map ExplainedIssue.toValue))), j'') := by
  rw [← Entry.map_ofIssue] at hissues
  obtain ⟨xs, j'', hentries, hhandled, hanalyze⟩ := outcome_analyze_entries hr hp hissues
  obtain ⟨es, rfl, rfl⟩ := ExplainedIssue.exists_map_toEntry hentries
  refine ⟨es, j'', rfl, ?_, ?_⟩
  . intro hassistant
    apply ExplainedIssue.eq_bare_of_advice
    intro e he
    exact hhandled.advice_eq_none hassistant e.toEntry (List.mem_map_of_mem he)
  . rw [sort_toEntry] at hanalyze
    rw [hanalyze]
    cases Sort.sort (fun a b : ExplainedIssue => a.issue.key.less b.issue.key) es with
    | error f => rfl
    | ok es => rfl

theorem Development.outcome_analyze_failure {p : Parts} {r : Request} {code lines : Value}
    {run : LinterRun} {f : Failure} (hr : r.Submits code) (hlines : linesOf code = .ok lines)
    (hp : p.analyse = Parts.analysis run)
    (hanalyze : ({} : Analyzer).analyze code run = { analyzer := {}, failure := some f })
    (j : Journal) :
    ∃ j', outcome (analyze p r) j = (.error f, j') ∧ j.Follows j' [] := by
  have hanalysis : Leads (attempt (p.analyse code)) j (.error f) [] := by
    rw [hp]
    unfold Parts.analysis
    rw [hanalyze]
    refine (Leads.sayAll _ j).lift.bind_ok fun j _ => ?_
    exact Leads.pure _ j
  obtain ⟨j', houtcome, hfollows⟩ := hanalysis
  refine ⟨j', ?_, hfollows⟩
  unfold analyze
  refine (hr.outcome_read _ j).trans ?_
  rw [hlines]
  rw [outcome_bind_ok (outcome_ofExcept _ _)]
  exact outcome_bind_error houtcome

/--
A request to analyze code that can be read is always answered in development, whatever an assistant
replies, if the lines that the linter reports are whole numbers. Apart from the advice on them, the
items of the answer are the issues that an analysis finds, in order. If the code cannot be read, the
failure of the parser goes on.
-/
theorem respond_delivers_arranged {r : Request} {code : String} {run : LinterRun}
    (hr : r.Submits (.str code)) (hrun : run.HasLines) (hasAssistant : Bool)
    (apiKey : Option String) (j : Journal) :
    (Readable code →
      ∃ (items : List Value) (issues : List Issue) (j' : Journal),
        outcome (respond .development (.standard .development run hasAssistant apiKey) r) j
          =
        (.ok { status := 200, content := .data (.dict [("feedback", .list items)]) }, j') ∧
        items.map withoutAdvice = issues.map Issue.toValue ∧
        Arranged (({} : Analyzer).analyze (.str code) run).analyzer.feedback issues) ∧
    (∀ fault, parse code = .error fault → fault.kind = .internal →
      ∃ j',
        outcome (respond .development (.standard .development run hasAssistant apiKey) r) j
          =
        (.error (.unparsed fault.message), j')) := by
  rw [respond_eq_analyze hr]
  refine ⟨?_, ?_⟩
  . intro hcode
    have hfailure : (({} : Analyzer).analyze (.str code) run).failure = none :=
      Analyzer.failure_analyze {} hcode hrun.ne_stopped
    obtain ⟨j₁, hanalysis⟩ := Parts.outcome_analysis hfailure j
    have hexplains := Parts.explains_standard .development run hasAssistant apiKey
    obtain ⟨es, j₂, hes, -, houtcome⟩ := Development.outcome_analyze hr hexplains hanalysis
    obtain ⟨issues, hsort, harranged⟩ := (Analyzer.orderly_feedback {} code hrun).sort
    -- The explained issues are sorted as the issues are.
    rw [← hes] at hsort
    rw [Sort.sort_map] at hsort
    obtain ⟨sorted, hsorted, rfl⟩ := Outcome.map_eq_ok.1 hsort
    rw [hsorted] at houtcome
    refine ⟨sorted.map ExplainedIssue.toValue, sorted.map (·.issue), j₂, ?_, ?_, harranged⟩
    . exact outcome_analyze_ok houtcome
    . rw [List.map_map, List.map_map]
      apply List.map_congr_left
      intro e _
      exact e.withoutAdvice_toValue
  . intro fault hparse hkind
    obtain ⟨j', houtcome, -⟩ := Development.outcome_analyze_failure
      (p := .standard .development run hasAssistant apiKey) hr (linesOf_str code) rfl
      (Analyzer.analyze_of_internal {} run hparse hkind) j
    exact ⟨j', outcome_analyze_error houtcome rfl⟩

theorem submits_null_character :
    (posting "\x7b\"code\": \"\\u0000\"\x7d").Submits (.str "\x00") := by
  have hdata : (posting "\x7b\"code\": \"\\u0000\"\x7d").data.toOption
      = some (.dict [("code", .str "\x00")]) := by
    decide +kernel
  exact submits_posting hdata rfl

theorem report_output (text : String) :
    (LinterRun.output text).report.issues = Linter.ofOutput text :=
  rfl

def twoErrors : String :=
  "[\x7b\"type\": \"error\", \"line\": 7\x7d, \x7b\"type\": \"error\"\x7d]"

theorem ofOutput_twoErrors :
    Linter.ofOutput twoErrors
      =
    [{ line := .int 7, message := .str "", isBadHabit := true, category := .runtimeError,
       origin := .linter },
     { line := .int 0, message := .str "", isBadHabit := true, category := .runtimeError,
       origin := .linter }] := by
  decide +kernel

theorem hasLines_twoErrors : (LinterRun.output twoErrors).HasLines := by
  intro i hi _
  rw [ofOutput_twoErrors] at hi
  rcases List.mem_cons.1 hi with rfl | hi
  . exact ⟨7, rfl⟩
  . obtain rfl := List.mem_singleton.1 hi
    exact ⟨0, rfl⟩

/-- The fault of the text has no line, and one of the two entries has none either. -/
theorem respond_delivers_null_character :
    ∃ (items : List Value) (issues : List Issue) (j' : Journal),
      outcome
        (respond .development (.standard .development (.output twoErrors) true none)
          (posting "\x7b\"code\": \"\\u0000\"\x7d"))
        {}
        =
      (.ok { status := 200, content := .data (.dict [("feedback", .list items)]) }, j') ∧
      items.map withoutAdvice = issues.map Issue.toValue ∧
      Arranged
        (({} : Analyzer).analyze (.str "\x00") (.output twoErrors)).analyzer.feedback issues :=
  (respond_delivers_arranged submits_null_character hasLines_twoErrors true none {}).1
    Analyzer.readable_null_character

end Service

end HabitLens
