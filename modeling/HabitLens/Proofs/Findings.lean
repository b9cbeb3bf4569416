import HabitLens.Review.Analyzer

/-!
What issues look like, depending on where they come from: a check or the linter.
-/

namespace HabitLens.Review

open Source

/-- An issue as checks report them: on a line of the program, and not about its grammar. -/
def Issue.IsFinding (i : Issue) : Prop :=
  ∃ line message category, i = .found line message category ∧ category ≠ .syntaxError

theorem Issue.IsFinding.found (line : Nat) (message : String) {category : Category}
    (h : category ≠ .syntaxError) : (Issue.found line message category).IsFinding :=
  ⟨line, message, category, rfl, h⟩

/-- A finding that does not say that the program is bound to fail. -/
def Issue.IsWarning (i : Issue) : Prop :=
  ∃ line message category, i = .found line message category ∧
    category ≠ .syntaxError ∧ category ≠ .fatalError

theorem Issue.IsWarning.found (line : Nat) (message : String) {category : Category}
    (h : category ≠ .syntaxError ∧ category ≠ .fatalError) :
    (Issue.found line message category).IsWarning :=
  ⟨line, message, category, rfl, h⟩

theorem Issue.IsWarning.category_ne {i : Issue} (h : i.IsWarning) : i.category ≠ .fatalError := by
  obtain ⟨line, message, category, rfl, -, hfatal⟩ := h
  exact hfatal

theorem Issue.IsFinding.line_eq {i : Issue} (h : i.IsFinding) : ∃ n : Int, i.line = .int n := by
  obtain ⟨line, message, category, rfl, -⟩ := h
  exact ⟨line, rfl⟩

namespace Check

inductive Says : Check → String → Prop where
  | sharedDefault (name : String) : Says .mutableDefaults (MutableDefault.message name)
  | endlessLoop : Says .infiniteLoops InfiniteLoop.message
  | silentHandler : Says .exceptionHandling BroadHandler.silentMessage
  | broadHandler : Says .exceptionHandling BroadHandler.broadMessage
  | openFile : Says .resourceManagement OpenFile.message
  | unreachable : Says .unreachableCode Unreachable.message
  | shadowing (o : Shadowing.Occurrence) : Says .shadowingBuiltins (Shadowing.message o)

/-- An issue in the words of a check. Only loops without an end are bound to make a program fail. -/
def Finds (c : Check) (i : Issue) : Prop :=
  ∃ line message category, i = .found line message category ∧ c.Says message ∧
    category ≠ .syntaxError ∧ (c ≠ .infiniteLoops → category ≠ .fatalError)

theorem Finds.warning {c : Check} (line : Nat) {message : String} {category : Category}
    (hwords : c.Says message) (h : category ≠ .syntaxError ∧ category ≠ .fatalError) :
    c.Finds (.found line message category) :=
  ⟨line, message, category, rfl, hwords, h.1, fun _ => h.2⟩

theorem finds_of_mem_mutableDefaults {functions : Table FunctionRecord} {p : Program}
    {i : Issue} (h : i ∈ MutableDefault.check functions p) : mutableDefaults.Finds i := by
  obtain ⟨n, -, h⟩ := List.mem_flatMap.1 h
  unfold MutableDefault.ofNode at h
  split at h
  . split at h
    . obtain ⟨e, -, rfl⟩ := List.mem_map.1 h
      apply Finds.warning _ (.sharedDefault _)
      unfold MutableDefault.category
      split
      . decide
      . split <;> decide
    . cases h
  . cases h

theorem finds_of_mem_infiniteLoops {p : Program} {i : Issue}
    (h : i ∈ InfiniteLoop.check p) : infiniteLoops.Finds i := by
  obtain ⟨n, -, h⟩ := List.mem_flatMap.1 h
  unfold InfiniteLoop.ofNode at h
  split at h
  . split at h
    . cases h
    . obtain rfl := List.mem_singleton.1 h
      refine ⟨_, _, _, rfl, .endlessLoop, ?_, fun hc => absurd rfl hc⟩
      split <;> decide
  . cases h

theorem finds_of_mem_exceptionHandling {p : Program} {i : Issue}
    (h : i ∈ BroadHandler.check p) : exceptionHandling.Finds i := by
  obtain ⟨v, -, h⟩ := List.mem_flatMap.1 h
  unfold BroadHandler.ofVisit at h
  split at h
  . split at h
    . cases h
    . split at h
      . obtain rfl := List.mem_singleton.1 h
        apply Finds.warning _ .silentHandler
        split <;> decide
      . obtain rfl := List.mem_singleton.1 h
        apply Finds.warning _ .broadHandler
        split <;> decide
  . cases h

theorem finds_of_mem_ofVisits {files : OpenFile.Files} {vs : List Visit} {i : Issue}
    (h : i ∈ OpenFile.ofVisits files vs) : resourceManagement.Finds i := by
  induction vs generalizing files with
  | nil => cases h
  | cons v vs ih =>
    rw [OpenFile.ofVisits] at h
    rcases List.mem_append.1 h with h | h
    . unfold OpenFile.ofVisit at h
      split at h
      . split at h
        . obtain rfl := List.mem_singleton.1 h
          apply Finds.warning _ .openFile
          unfold OpenFile.category
          split
          . decide
          . split <;> decide
        . cases h
      . cases h
    . exact ih h

theorem finds_of_mem_unreachableCode {p : Program} {i : Issue}
    (h : i ∈ Unreachable.check p) : unreachableCode.Finds i := by
  obtain ⟨n, -, h⟩ := List.mem_flatMap.1 h
  unfold Unreachable.ofNode at h
  split at h
  . cases h
  . next body _ =>
    split at h
    . cases h
    . obtain rfl := List.mem_singleton.1 h
      apply Finds.warning _ .unreachable
      unfold Unreachable.category
      split
      . cases hfind : (Unreachable.repeated [] body).findSome? Unreachable.verdict? with
        | none => decide
        | some category =>
          obtain ⟨s, -, hs⟩ := List.exists_of_findSome?_eq_some hfind
          unfold Unreachable.verdict? at hs
          split at hs <;> cases hs <;> decide
      . decide

theorem finds_of_mem_shadowingBuiltins {p : Program} {i : Issue}
    (h : i ∈ Shadowing.check p) : shadowingBuiltins.Finds i := by
  obtain ⟨o, -, rfl⟩ := List.mem_map.1 h
  apply Finds.warning _ (.shadowing o)
  unfold Shadowing.category
  split
  . decide
  . split <;> decide

theorem finds_of_mem_run {functions : Table FunctionRecord} {p : Program} {c : Check} {i : Issue}
    (h : i ∈ c.run functions p) : c.Finds i := by
  cases c with
  | mutableDefaults => exact finds_of_mem_mutableDefaults h
  | infiniteLoops => exact finds_of_mem_infiniteLoops h
  | exceptionHandling => exact finds_of_mem_exceptionHandling h
  | resourceManagement => exact finds_of_mem_ofVisits h
  | unreachableCode => exact finds_of_mem_unreachableCode h
  | shadowingBuiltins => exact finds_of_mem_shadowingBuiltins h

theorem isWarning_of_mem_run {functions : Table FunctionRecord} {p : Program} {c : Check}
    {i : Issue} (h : i ∈ c.run functions p) (hc : c ≠ .infiniteLoops) : i.IsWarning := by
  obtain ⟨line, message, category, rfl, -, hgrammar, hfatal⟩ := finds_of_mem_run h
  exact .found line message ⟨hgrammar, hfatal hc⟩

theorem isFinding_of_mem_run {functions : Table FunctionRecord} {p : Program} {c : Check}
    {i : Issue} (h : i ∈ c.run functions p) : i.IsFinding := by
  obtain ⟨line, message, category, rfl, -, hgrammar, -⟩ := finds_of_mem_run h
  exact .found line message hgrammar

end Check

inductive Linter.Trouble : String → Prop where
  | unreadable : Trouble "Failed to parse pylint output"
  | failed (f : Failure) : Trouble ("Error running pylint: " ++ f.message)

/-- An issue as a run of the linter adds them: an entry about an error, or trouble. -/
inductive Issue.IsReport : Issue → Prop where
  | entry (line message : Value) {category : Category}
      (h : category = .runtimeError ∨ category = .potentialError) :
      IsReport { line, message, isBadHabit := true, category, origin := .linter }
  | trouble {message : String} (h : Linter.Trouble message) : IsReport (.trouble message)

theorem Issue.IsReport.category_ne {i : Issue} (h : i.IsReport) : i.category ≠ .syntaxError := by
  cases h with
  | entry line message h => rcases h with rfl | rfl <;> simp
  | trouble h => simp [Issue.trouble]

theorem Issue.IsReport.line_eq {i : Issue} (h : i.IsReport) (horigin : i.origin ≠ .linter) :
    ∃ n : Int, i.line = .int n := by
  cases h with
  | entry line message h => exact absurd rfl horigin
  | trouble h => exact ⟨0, rfl⟩

namespace Linter

theorem isReport_failure (f : Failure) : (failure f).IsReport :=
  .trouble (.failed f)

theorem isReport_of_mem_issue? {fields : Table Value} {type : String} {i : Issue}
    (h : i ∈ issue? fields type) : i.IsReport := by
  unfold issue? at h
  dsimp only at h
  split at h
  . obtain rfl := Option.some.inj h
    apply Issue.IsReport.entry
    split
    . exact .inl rfl
    . exact .inr rfl
  . cases h

theorem isReport_of_mem_ofEntries {entries : List Value} {i : Issue}
    (h : i ∈ ofEntries entries) : i.IsReport := by
  induction entries with
  | nil => cases h
  | cons v vs ih =>
    rw [ofEntries] at h
    split at h
    . next issue hentry =>
      rcases List.mem_append.1 h with h | h
      . unfold ofEntry at hentry
        split at hentry
        . split at hentry
          . obtain rfl := Except.ok.inj hentry
            exact isReport_of_mem_issue? (Option.mem_toList.1 h)
          . obtain rfl := Except.ok.inj hentry
            exact isReport_of_mem_issue? (Option.mem_toList.1 h)
          . cases hentry
        . cases hentry
      . exact ih h
    . obtain rfl := List.mem_singleton.1 h
      apply isReport_failure

theorem isReport_of_mem_ofResults {results : Value} {i : Issue} (h : i ∈ ofResults results) :
    i.IsReport := by
  unfold ofResults at h
  split at h
  . exact isReport_of_mem_ofEntries h
  . exact isReport_of_mem_ofEntries h
  . exact isReport_of_mem_ofEntries h
  . exact isReport_of_mem_ofEntries h
  . obtain rfl := List.mem_singleton.1 h
    apply isReport_failure

theorem isReport_of_mem_ofOutput {text : String} {i : Issue} (h : i ∈ ofOutput text) :
    i.IsReport := by
  unfold ofOutput at h
  split at h
  . cases h
  . split at h
    . exact isReport_of_mem_ofResults h
    . obtain rfl := List.mem_singleton.1 h
      exact .trouble .unreadable
    . obtain rfl := List.mem_singleton.1 h
      apply isReport_failure

end Linter

namespace LinterRun

theorem isReport_of_mem_report {run : LinterRun} {i : Issue} (h : i ∈ run.report.issues) :
    i.IsReport := by
  cases run with
  | output text => exact Linter.isReport_of_mem_ofOutput h
  | missing => cases h
  | failed reason =>
    obtain rfl := List.mem_singleton.1 h
    apply Linter.isReport_failure
  | stopped cause message => cases h

theorem failure_report {run : LinterRun} (h : ∀ cause message, run ≠ .stopped cause message) :
    run.report.failure = none := by
  cases run with
  | output text => rfl
  | missing => rfl
  | failed reason => rfl
  | stopped cause message => exact absurd rfl (h cause message)

end LinterRun

end HabitLens.Review
