import HabitLens.Proofs.Analysis

/-!
What the issues of an analyzer look like, whatever it has been asked to do. Every issue comes from
one of a few places, and each place decides on the origin and limits the category.
-/

namespace HabitLens.Review

open Source

/-- The places where issues come from. -/
inductive Issue.Arises : Issue → Prop where
  | checked (functions : Table FunctionRecord) (p : Program) (c : Check) {i : Issue}
      (h : i ∈ c.run functions p) : Arises i
  | syntaxError (fault : Fault) : Arises (Analyzer.syntaxIssue fault)
  | brokenOff (message : String) : Arises (.trouble message)
  | reported (run : LinterRun) {i : Issue} (h : i ∈ run.report.issues) : Arises i

namespace Analyzer

/-- The states to which any calls lead from a new analyzer, also calls that fail. -/
inductive Reachable : Analyzer → Prop where
  | new : Reachable {}
  | analyze {a : Analyzer} (code : Value) (run : LinterRun) (h : Reachable a) :
      Reachable (a.analyze code run).analyzer
  | buildContext {a : Analyzer} (p : Program) (h : Reachable a) : Reachable (a.buildContext p)
  | checkCode {a : Analyzer} (code : Value) (h : Reachable a) : Reachable (a.checkCode code)
  | lint {a : Analyzer} (code : Value) (run : LinterRun) (h : Reachable a) :
      Reachable (a.lint code run).analyzer
  | check {a : Analyzer} (p : Program) (c : Check) (h : Reachable a) : Reachable (a.check p c)

theorem Reachable.runChecks {a : Analyzer} (h : a.Reachable) (p : Program) (cs : List Check) :
    (a.runChecks p cs).Reachable := by
  unfold Analyzer.runChecks
  induction cs generalizing a with
  | nil => exact h
  | cons c cs ih => exact ih (.check p c h)

theorem Reachable.withProgram {a : Analyzer} (h : a.Reachable) (code : Value)
    (linked shared : Bool) {f : Program → Analyzer} (hf : ∀ p, (f p).Reachable) :
    (a.withProgram code linked shared f).analyzer.Reachable := by
  unfold Analyzer.withProgram
  split
  . apply hf
  . exact h

theorem Reachable.step {a : Analyzer} (h : a.Reachable) (s : Step) :
    (a.step s).analyzer.Reachable := by
  cases s with
  | fresh => exact .new
  | analyze code run => exact .analyze code run h
  | buildContext code linked shared =>
    exact h.withProgram code linked shared fun p => .buildContext p h
  | checkCode code => exact .checkCode code h
  | lint code run => exact .lint code run h
  | checks code cs linked shared =>
    exact h.withProgram code linked shared fun p => h.runChecks p cs

theorem Reachable.session {a : Analyzer} (h : a.Reachable) (steps : List Step) :
    ∀ r ∈ a.session steps, r.analyzer.Reachable := by
  induction steps generalizing a with
  | nil => simp [Analyzer.session]
  | cons s steps ih =>
    intro r hr
    rcases List.mem_cons.1 hr with rfl | hr
    . exact h.step s
    . exact ih (h.step s) r hr

def Arising (a : Analyzer) : Prop :=
  ∀ i ∈ a.feedback, i.Arises

theorem Arising.add {a : Analyzer} (h : a.Arising) {issues : List Issue}
    (hissues : ∀ i ∈ issues, i.Arises) : (a.add issues).Arising := by
  intro i hi
  rcases List.mem_append.1 hi with hi | hi
  . exact h i hi
  . exact hissues i hi

theorem Arising.check {a : Analyzer} (h : a.Arising) (p : Program) (c : Check) :
    (a.check p c).Arising := by
  apply h.add
  intro i hi
  exact .checked a.context.functions p c hi

theorem Arising.runChecks {a : Analyzer} (h : a.Arising) (p : Program) (cs : List Check) :
    (a.runChecks p cs).Arising := by
  unfold Analyzer.runChecks
  induction cs generalizing a with
  | nil => exact h
  | cons c cs ih => exact ih (h.check p c)

theorem Arising.checkCode {a : Analyzer} (h : a.Arising) (code : Value) :
    (a.checkCode code).Arising := by
  unfold Analyzer.checkCode
  split
  . apply h.runChecks
  . apply h.add
    intro i hi
    rw [List.mem_singleton.1 hi]
    apply Issue.Arises.syntaxError
  . apply h.add
    intro i hi
    rw [List.mem_singleton.1 hi]
    apply Issue.Arises.brokenOff

theorem Arising.lint {a : Analyzer} (h : a.Arising) (code : Value) (run : LinterRun) :
    (a.lint code run).analyzer.Arising := by
  unfold Analyzer.lint
  split
  . apply h.add
    intro i hi
    exact .reported run hi
  . exact h
  . exact h

theorem Arising.analyze (a : Analyzer) (code : Value) (run : LinterRun) :
    (a.analyze code run).analyzer.Arising := by
  have hreset : a.reset.Arising := by
    intro i hi
    cases hi
  unfold Analyzer.analyze
  dsimp only
  split
  . next body _ =>
    have hcontext : (a.reset.buildContext { body }).Arising := hreset
    exact (hcontext.checkCode code).lint code run
  . exact (hreset.checkCode code).lint code run
  . exact hreset

theorem Reachable.arising {a : Analyzer} (h : a.Reachable) : a.Arising := by
  induction h with
  | new =>
    intro i hi
    cases hi
  | analyze code run _ _ => exact .analyze _ code run
  | buildContext p _ ih => exact ih
  | checkCode code _ ih => exact ih.checkCode code
  | lint code run _ ih => exact ih.lint code run
  | check p c _ ih => exact ih.check p c

end Analyzer

namespace Issue

/-- What the origin of an issue says about its other parts. -/
structure Regular (i : Issue) : Prop where
  isBadHabit : i.isBadHabit = false ↔ i.origin = .system
  system : i.origin = .system → i.line = .int 0 ∧ i.category = .runtimeError
  linter : i.origin = .linter → i.category = .runtimeError ∨ i.category = .potentialError
  tree : i.category = .syntaxError ∨ i.category = .fatalError → i.origin = .tree
  fatal : i.category = .fatalError → ∃ p, i ∈ InfiniteLoop.check p

theorem regular_of_tree {i : Issue} (hhabit : i.isBadHabit = true) (horigin : i.origin = .tree)
    (hfatal : i.category = .fatalError → ∃ p, i ∈ InfiniteLoop.check p) : i.Regular where
  isBadHabit := by simp [hhabit, horigin]
  system := by simp [horigin]
  linter := by simp [horigin]
  tree := fun _ => horigin
  fatal := hfatal

theorem regular_of_mem_run {functions : Table FunctionRecord} {p : Program} {c : Check} {i : Issue}
    (h : i ∈ c.run functions p) : i.Regular := by
  obtain ⟨line, message, category, rfl, -⟩ := Check.isFinding_of_mem_run h
  apply regular_of_tree rfl rfl
  intro hfatal
  -- Only the check for loops has fatal findings.
  by_cases hc : c = .infiniteLoops
  . subst hc
    exact ⟨p, h⟩
  . exact absurd hfatal (Check.isWarning_of_mem_run h hc).category_ne

theorem regular_trouble (message : String) : (trouble message).Regular where
  isBadHabit := by simp [trouble]
  system := fun _ => ⟨rfl, rfl⟩
  linter := by simp [trouble]
  tree := by simp [trouble]
  fatal := by simp [trouble]

theorem IsReport.regular {i : Issue} (h : i.IsReport) : i.Regular := by
  cases h with
  | trouble h => apply regular_trouble
  | entry line message h =>
    constructor
    . simp
    . simp
    . exact fun _ => h
    . rcases h with rfl | rfl <;> simp
    . rcases h with rfl | rfl <;> simp

theorem Arises.regular {i : Issue} (h : i.Arises) : i.Regular := by
  cases h with
  | checked functions p c h => exact regular_of_mem_run h
  | syntaxError fault =>
    apply regular_of_tree rfl rfl
    intro hfatal
    cases hfatal
  | brokenOff message => apply regular_trouble
  | reported run h => exact (LinterRun.isReport_of_mem_report h).regular

def fields (i : Issue) : Table Value :=
  [("line", i.line), ("message", i.message), ("is_bad_habit", .bool i.isBadHabit),
   ("category", .str i.category.name), ("source", .str i.origin.name)]

theorem toValue_eq (i : Issue) : i.toValue = .dict i.fields := by
  rfl

theorem get?_fields_category {i : Issue} {c : Category} :
    i.fields.get? "category" = some (.str c.name) ↔ i.category = c := by
  have hget : i.fields.get? "category" = some (.str i.category.name) := by
    simp [fields, Table.get?]
  rw [hget, Option.some.injEq, Value.str.injEq]
  cases i.category <;> cases c <;> decide

theorem get?_fields_source {i : Issue} {o : Origin} :
    i.fields.get? "source" = some (.str o.name) ↔ i.origin = o := by
  have hget : i.fields.get? "source" = some (.str i.origin.name) := by
    simp [fields, Table.get?]
  rw [hget, Option.some.injEq, Value.str.injEq]
  cases i.origin <;> cases o <;> decide

/-- What readers of an issue can rely on, in terms of the names of its parts. -/
structure Shape (fields : Table Value) : Prop where
  keys : fields.keys = ["line", "message", "is_bad_habit", "category", "source"]
  category :
    ∃ name ∈ ["syntax_error", "runtime_error", "fatal_error", "bad_habit", "potential_error"],
      fields.get? "category" = some (.str name)
  isBadHabit :
    ∃ b, fields.get? "is_bad_habit" = some (.bool b) ∧
      (b = false ↔ fields.get? "source" = some (.str "system"))
  system : fields.get? "source" = some (.str "system") →
    fields.get? "line" = some (.int 0) ∧ fields.get? "category" = some (.str "runtime_error")
  linter : fields.get? "source" = some (.str "pylint") →
    fields.get? "category" = some (.str "runtime_error") ∨
      fields.get? "category" = some (.str "potential_error")
  tree :
    fields.get? "category" = some (.str "syntax_error") ∨
      fields.get? "category" = some (.str "fatal_error") →
    fields.get? "source" = some (.str "ast")
  fatal : fields.get? "category" = some (.str "fatal_error") →
    ∃ p, ∃ i ∈ InfiniteLoop.check p, i.toValue = .dict fields

theorem Regular.shape {i : Issue} (h : i.Regular) : Shape i.fields where
  keys := by rfl
  category := by
    refine ⟨i.category.name, ?_, get?_fields_category.2 rfl⟩
    cases i.category <;> decide
  isBadHabit := by
    refine ⟨i.isBadHabit, by simp [fields, Table.get?], ?_⟩
    exact h.isBadHabit.trans (get?_fields_source (o := .system)).symm
  system := by
    intro hsource
    obtain ⟨hline, hcategory⟩ := h.system ((get?_fields_source (o := .system)).1 hsource)
    refine ⟨?_, (get?_fields_category (c := .runtimeError)).2 hcategory⟩
    rw [← hline]
    simp [fields, Table.get?]
  linter := by
    intro hsource
    rcases h.linter ((get?_fields_source (o := .linter)).1 hsource) with hcategory | hcategory
    . exact .inl ((get?_fields_category (c := .runtimeError)).2 hcategory)
    . exact .inr ((get?_fields_category (c := .potentialError)).2 hcategory)
  tree := by
    intro hcategory
    apply (get?_fields_source (o := .tree)).2
    apply h.tree
    rcases hcategory with hcategory | hcategory
    . exact .inl ((get?_fields_category (c := .syntaxError)).1 hcategory)
    . exact .inr ((get?_fields_category (c := .fatalError)).1 hcategory)
  fatal := by
    intro hcategory
    obtain ⟨p, hp⟩ := h.fatal ((get?_fields_category (c := .fatalError)).1 hcategory)
    exact ⟨p, i, hp, i.toValue_eq⟩

end Issue

namespace Analyzer

/-- Whatever an analyzer has been asked to do, all its issues have the shape readers rely on. -/
theorem Reachable.feedback_shape {a : Analyzer} (h : a.Reachable) :
    ∀ i ∈ a.feedback, ∃ fields, i.toValue = .dict fields ∧ Issue.Shape fields := by
  intro i hi
  exact ⟨i.fields, i.toValue_eq, (h.arising i hi).regular.shape⟩

/-- After trouble with a text that is none, a loop without an exit is found. -/
theorem Reachable.feedback_shape_loop :
    let p : Program := { body := [.whileLoop 1 (.constant 1 (.bool true)) [.pass 2] []] }
    let a := (({} : Analyzer).checkCode .null).check p .infiniteLoops
    a.feedback.map (·.category) = [.runtimeError, .fatalError] ∧
      ∀ i ∈ a.feedback, ∃ fields, i.toValue = .dict fields ∧ Issue.Shape fields := by
  intro p a
  refine ⟨by decide +kernel, ?_⟩
  exact Reachable.feedback_shape (.check p .infiniteLoops (.checkCode .null .new))

end Analyzer

end HabitLens.Review
