import HabitLens.Proofs.Findings
import HabitLens.Proofs.Lookup.Check

/-!
A whole analysis of a text. It fails only if the text cannot be read, what the analyzer knew before
has no influence on it, and what it comes to depends on whether the text is a program.
-/

namespace HabitLens

open Source
open Review

/-- A text that is a program or has a fault of its own. -/
def Source.Readable (code : String) : Prop :=
  ∀ fault, parse code = .error fault → fault.kind ≠ .internal

theorem Source.readable_of_ok {code : String} {body : List Stmt} (h : parse code = .ok body) :
    Readable code := by
  intro fault hfault
  rw [h] at hfault
  cases hfault

namespace Review.Analyzer

theorem runChecks_eq (a : Analyzer) (p : Program) (cs : List Check) :
    a.runChecks p cs = a.add (cs.flatMap (Check.run a.context.functions p)) := by
  unfold runChecks
  induction cs generalizing a with
  | nil => simp [add]
  | cons c cs ih =>
    rw [List.foldl_cons, ih]
    simp [check, add]

theorem analyze_of_ok (a : Analyzer) {code : String} {body : List Stmt} (run : LinterRun)
    (h : parse code = .ok body) :
    a.analyze (.str code) run =
      { analyzer :=
          { feedback :=
              Check.all.flatMap (Check.run (Context.extend {} { body }).functions { body })
                ++ run.report.issues
            context := Context.extend {} { body } }
        log := run.report.log
        failure := run.report.failure } := by
  simp only [analyze, checkCode, parseValue, h, lint, runChecks_eq]
  rfl

theorem analyze_of_error (a : Analyzer) {code : String} {fault : Fault} (run : LinterRun)
    (h : parse code = .error fault) (hkind : fault.kind ≠ .internal) :
    a.analyze (.str code) run =
      { analyzer := { feedback := syntaxIssue fault :: run.report.issues }
        log := run.report.log
        failure := run.report.failure } := by
  have hparse : parseValue (.str code) = .error (.badSource fault) := by
    simp only [parseValue, h]
    exact congrArg Except.error (if_neg hkind)
  simp only [analyze, checkCode, hparse, lint]
  rfl

theorem analyze_of_internal (a : Analyzer) {code : String} {fault : Fault} (run : LinterRun)
    (h : parse code = .error fault) (hkind : fault.kind = .internal) :
    a.analyze (.str code) run = { analyzer := {}, failure := some (.unparsed fault.message) } := by
  have hparse : parseValue (.str code) = .error (.unparsed fault.message) := by
    simp only [parseValue, h]
    exact congrArg Except.error (if_pos hkind)
  simp only [analyze, hparse]
  rfl

theorem failure_analyze (a : Analyzer) {code : String} (hcode : Readable code) {run : LinterRun}
    (hrun : ∀ cause message, run ≠ .stopped cause message) :
    (a.analyze (.str code) run).failure = none := by
  cases h : parse code with
  | error fault =>
    rw [analyze_of_error a run h (hcode fault h)]
    exact LinterRun.failure_report hrun
  | ok body =>
    rw [analyze_of_ok a run h]
    exact LinterRun.failure_report hrun

/-- Whatever an analyzer knew before, an analysis leaves it as a new one would be left. -/
theorem analyze_analyzer (a : Analyzer) (code : String) (run : LinterRun) :
    (a.analyze (.str code) run).analyzer = (({} : Analyzer).analyze (.str code) run).analyzer := by
  cases h : parse code with
  | error fault =>
    by_cases hkind : fault.kind = .internal
    . rw [analyze_of_internal a run h hkind, analyze_of_internal {} run h hkind]
    . rw [analyze_of_error a run h hkind, analyze_of_error {} run h hkind]
  | ok body => rw [analyze_of_ok a run h, analyze_of_ok {} run h]

end Review.Analyzer

namespace Lookup

def brokenOff (f : Failure) : Issue :=
  .trouble ("Error during AST analysis: " ++ f.message)

def checkCode (a : Analyzer) (code : String) : Analyzer :=
  match parse code with
  | .error fault =>
    a.add
      [if fault.kind = .internal then brokenOff (.unparsed fault.message)
        else Analyzer.syntaxIssue fault]
  | .ok body =>
    let report := runAll a.context.functions { body } Check.all
    a.add (report.issues ++ (report.failure.map brokenOff).toList)

/-- A whole analysis of a text with its lookups spelled out. -/
def analyze (a : Analyzer) (code : String) (run : LinterRun) : Analyzer.Result :=
  let a := a.reset
  match parse code with
  | .error fault =>
    if fault.kind = .internal then
      { analyzer := a, failure := some (.unparsed fault.message) }
    else (checkCode a code).lint (.str code) run
  | .ok body =>
    match extend a.context { body } with
    | .error f => { analyzer := a, failure := some f }
    | .ok context => (checkCode { a with context } code).lint (.str code) run

theorem analyze_eq (a : Analyzer) (code : String) (run : LinterRun) :
    analyze a code run = a.analyze (.str code) run := by
  cases h : parse code with
  | error fault =>
    by_cases hkind : fault.kind = .internal
    . rw [Analyzer.analyze_of_internal a run h hkind]
      simp only [analyze, h, if_pos hkind]
      rfl
    . rw [Analyzer.analyze_of_error a run h hkind]
      simp only [analyze, checkCode, h, if_neg hkind]
      rfl
  | ok body =>
    rw [Analyzer.analyze_of_ok a run h]
    simp only [analyze, checkCode, h, extend_eq, runAll_eq, Option.map_none, Option.toList_none,
      List.append_nil]
    rfl

end Lookup

namespace Review

theorem Linter.Trouble.ne_brokenOff {message : String} (h : Linter.Trouble message)
    (reason : String) : message ≠ "Error during AST analysis: " ++ reason := by
  intro heq
  have hchars := congrArg (fun s => s.toList.take 7) heq
  cases h with
  | unreadable => simp at hchars
  | failed f => simp at hchars

theorem Issue.IsReport.not_brokenOff {i : Issue} (h : i.IsReport) (horigin : i.origin = .system)
    (reason : String) : i.message ≠ .str ("Error during AST analysis: " ++ reason) := by
  cases h with
  | entry line message h => cases horigin
  | trouble h =>
    intro heq
    exact h.ne_brokenOff reason (Value.str.inj heq)

theorem Issue.IsFinding.origin_eq {i : Issue} (h : i.IsFinding) : i.origin = .tree := by
  obtain ⟨line, message, category, rfl, -⟩ := h
  rfl

theorem Issue.IsFinding.category_ne {i : Issue} (h : i.IsFinding) :
    i.category ≠ .syntaxError := by
  obtain ⟨line, message, category, rfl, h⟩ := h
  exact h

namespace Analyzer

/--
An analysis of a text by any analyzer, unless it is told to stop meanwhile: no lookup in it fails,
it ends in the state in which a new analyzer ends, and the text decides on what is found. It fails
only if the text cannot be read, and then nothing is known or found. A text that has a fault of its
own leaves nothing to know, and its fault is the first issue. A program has no such issue, and no
check of it breaks off.
-/
theorem analyze_history_free (a : Analyzer) (code : String) (run : LinterRun)
    (hrun : ∀ cause message, run ≠ .stopped cause message) :
    (Readable code → (a.analyze (.str code) run).failure = none) ∧
    (a.analyze (.str code) run).analyzer = (({} : Analyzer).analyze (.str code) run).analyzer ∧
    Lookup.analyze a code run = a.analyze (.str code) run ∧
    (∀ fault, parse code = .error fault → fault.kind ≠ .internal →
      (a.analyze (.str code) run).analyzer.context = {} ∧
      ∃ first : Issue,
        (a.analyze (.str code) run).analyzer.feedback = first :: run.report.issues ∧
        first.category = .syntaxError ∧
        first.line = (fault.line.map .int).getD .null) ∧
    (∀ fault, parse code = .error fault → fault.kind = .internal →
      a.analyze (.str code) run
        =
      { analyzer := {}, failure := some (.unparsed fault.message) }) ∧
    (∀ body, parse code = .ok body → ∀ i ∈ (a.analyze (.str code) run).analyzer.feedback,
      i.category ≠ .syntaxError ∧
      (i.origin = .system → ∀ reason,
        i.message ≠ .str ("Error during AST analysis: " ++ reason))) := by
  refine ⟨fun hcode => failure_analyze a hcode hrun, analyze_analyzer a code run,
    Lookup.analyze_eq a code run, ?_, ?_, ?_⟩
  . intro fault h hkind
    rw [analyze_of_error a run h hkind]
    exact ⟨rfl, syntaxIssue fault, rfl, rfl, rfl⟩
  . intro fault h hkind
    exact analyze_of_internal a run h hkind
  . intro body h i hi
    rw [analyze_of_ok a run h] at hi
    rcases List.mem_append.1 hi with hi | hi
    . obtain ⟨c, -, hi⟩ := List.mem_flatMap.1 hi
      have hfinding := Check.isFinding_of_mem_run hi
      refine ⟨hfinding.category_ne, ?_⟩
      intro horigin
      rw [hfinding.origin_eq] at horigin
      cases horigin
    . have hreport := LinterRun.isReport_of_mem_report hi
      exact ⟨hreport.category_ne, fun horigin => hreport.not_brokenOff horigin⟩

theorem parse_null_character :
    parse "\x00"
      =
    .error { message := "source code string cannot contain null bytes", line := none } :=
  rfl

theorem readable_null_character : Readable "\x00" := by
  intro fault h
  rw [parse_null_character] at h
  cases h
  exact FaultKind.noConfusion

/-- A text with a null character has a fault without a line. -/
theorem analyze_null_character :
    ∃ first : Issue,
      (({} : Analyzer).analyze (.str "\x00") .missing).failure = none ∧
      (({} : Analyzer).analyze (.str "\x00") .missing).analyzer.feedback = [first] ∧
      first.category = .syntaxError ∧ first.line = .null := by
  have h := analyze_history_free {} "\x00" .missing (by intro _ _ h; cases h)
  obtain ⟨hfailure, -, -, hfault, -⟩ := h
  obtain ⟨-, first, hfeedback⟩ := hfault _ parse_null_character FaultKind.noConfusion
  exact ⟨first, hfailure readable_null_character, hfeedback⟩

end Analyzer

end Review

end HabitLens
