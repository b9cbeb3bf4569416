import HabitLens.Proofs.Treatment

/-!
Issues on their way through the service, with or without advice on them. An explanation adds advice
to an item and changes nothing else.
-/

namespace HabitLens.Service

open Review

structure ExplainedIssue where
  issue : Issue
  advice : Option Advice := none

namespace ExplainedIssue

def fields (e : ExplainedIssue) : Table Value :=
  let i := e.issue
  [("line", i.line), ("message", i.message), ("is_bad_habit", .bool i.isBadHabit),
   ("category", .str i.category.name), ("source", .str i.origin.name)] ++
    match e.advice with
    | none => []
    | some a =>
      [("explanation", .str a.explanation), ("fix", (a.fix.map Value.str).getD .null)]

def toValue (e : ExplainedIssue) : Value :=
  .dict e.fields

def toEntry (e : ExplainedIssue) : ExplainedEntry :=
  { entry := .ofIssue e.issue, advice := e.advice }

theorem map_toValue_toEntry (es : List ExplainedIssue) :
    (es.map toEntry).map ExplainedEntry.toValue = es.map toValue := by
  rw [List.map_map]
  rfl

def bare (issues : List Issue) : List ExplainedIssue :=
  issues.map fun i => { issue := i }

theorem map_toValue_bare (issues : List Issue) :
    (bare issues).map toValue = issues.map Issue.toValue := by
  unfold bare
  rw [List.map_map]
  rfl

theorem exists_map_toEntry {issues : List Issue} {xs : List ExplainedEntry}
    (h : xs.map (·.entry) = issues.map Entry.ofIssue) :
    ∃ es : List ExplainedIssue, es.map (·.issue) = issues ∧ es.map toEntry = xs := by
  induction issues generalizing xs with
  | nil => exact ⟨[], rfl, (List.map_eq_nil_iff.1 h).symm⟩
  | cons i issues ih =>
    obtain ⟨x, xs, rfl, hx, hxs⟩ := List.map_eq_cons_iff.1 h
    obtain ⟨es, hissues, rfl⟩ := ih hxs
    obtain ⟨entry, advice⟩ := x
    obtain rfl : entry = .ofIssue i := hx
    exact ⟨{ issue := i, advice } :: es, by rw [List.map_cons, hissues], rfl⟩

theorem eq_bare_of_advice {es : List ExplainedIssue} (h : ∀ e ∈ es, e.advice = none) :
    es = bare (es.map (·.issue)) := by
  unfold bare
  rw [List.map_map]
  conv_lhs => rw [← List.map_id es]
  apply List.map_congr_left
  intro e he
  obtain ⟨i, advice⟩ := e
  obtain rfl : advice = none := h _ he
  rfl

end ExplainedIssue

def withoutAdvice : Value → Value
  | .dict fields => .dict (fields.filter fun (name, _) => name != "explanation" && name != "fix")
  | v => v

theorem ExplainedEntry.withoutAdvice_toValue (x : ExplainedEntry) :
    withoutAdvice x.toValue = x.entry.toValue := by
  have hfilter : x.entry.fields.filter (fun (name, _) => name != "explanation" && name != "fix")
      = x.entry.fields := by
    rw [List.filter_eq_self]
    intro entry hentry
    have hexplanation := Table.get?_eq_none_iff.1 x.entry.get?_explanation entry hentry
    have hfix := Table.get?_eq_none_iff.1 x.entry.get?_fix entry hentry
    simp [hexplanation, hfix]
  unfold withoutAdvice toValue fields
  dsimp only
  rw [List.filter_append, hfilter]
  cases x.advice with
  | none => rw [List.filter_nil, List.append_nil]; rfl
  | some a => exact congrArg Value.dict (List.append_nil _)

theorem ExplainedIssue.withoutAdvice_toValue (e : ExplainedIssue) :
    withoutAdvice e.toValue = e.issue.toValue :=
  e.toEntry.withoutAdvice_toValue

open ExplainedIssue

theorem sort_toEntry (es : List ExplainedIssue) :
    (Sort.sort (fun a b => a.key.less b.key) (es.map toEntry)).map (List.map ExplainedEntry.toValue)
      =
    (Sort.sort (fun a b => a.issue.key.less b.issue.key) es).map (List.map toValue) := by
  rw [Sort.sort_map]
  rw [show (fun a b : ExplainedIssue => a.toEntry.key.less b.toEntry.key)
    = fun a b => a.issue.key.less b.issue.key from rfl]
  cases Sort.sort (fun a b : ExplainedIssue => a.issue.key.less b.issue.key) es with
  | error f => rfl
  | ok sorted => exact congrArg Except.ok (map_toValue_toEntry sorted)

end HabitLens.Service
