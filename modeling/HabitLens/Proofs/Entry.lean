import HabitLens.Proofs.Arrangement
import HabitLens.Proofs.Inquiry
import HabitLens.Service.Development
import HabitLens.Service.Hosted

/-!
Items on their way through the service. Both deployments go through the items one by one, and each
of them is passed over or gets advice, which changes nothing else about it. Then they are sorted by
category and line.
-/

namespace HabitLens

open Act
open Outcome
open Review

namespace Service

theorem Reading.get_of_get? {fields : Table Value} {name : String} {v : Value}
    (h : fields.get? name = some v) (r : Reading) (default : Value) :
    r.get (.dict fields) name default = .ok v := by
  cases r with
  | strict => simp [get, Value.field, h]
  | lenient => simp [get, Value.fieldOr, h]

/-- An item that nobody has explained yet, with the parts that the service looks at. -/
structure Entry where
  fields : Table Value
  line : Value
  message : Value
  category : Category
  source : String
  get?_line : fields.get? "line" = some line
  get?_message : fields.get? "message" = some message
  get?_category : fields.get? "category" = some (.str category.name)
  get?_source : fields.get? "source" = some (.str source)
  get?_explanation : fields.get? "explanation" = none
  get?_fix : fields.get? "fix" = none

structure ExplainedEntry where
  entry : Entry
  advice : Option Advice := none

namespace Entry

def toValue (e : Entry) : Value :=
  .dict e.fields

def key (e : Entry) : Feedback.Key :=
  { priority := e.category.priority, line := e.line }

def isSystem (e : Entry) : Bool :=
  e.source = Origin.system.name

def ofIssue (i : Issue) : Entry where
  fields :=
    [("line", i.line), ("message", i.message), ("is_bad_habit", .bool i.isBadHabit),
     ("category", .str i.category.name), ("source", .str i.origin.name)]
  line := i.line
  message := i.message
  category := i.category
  source := i.origin.name
  get?_line := rfl
  get?_message := rfl
  get?_category := rfl
  get?_source := rfl
  get?_explanation := rfl
  get?_fix := rfl

def ofRemark (r : Remark) : Entry where
  fields :=
    [("line", (r.line.map .int).getD .null), ("message", .str r.message),
     ("category", .str r.category.name), ("source", .str r.origin)]
  line := (r.line.map .int).getD .null
  message := .str r.message
  category := r.category
  source := r.origin
  get?_line := rfl
  get?_message := rfl
  get?_category := rfl
  get?_source := rfl
  get?_explanation := rfl
  get?_fix := rfl

theorem map_ofIssue (issues : List Issue) :
    (issues.map ofIssue).map toValue = issues.map Issue.toValue := by
  rw [List.map_map]
  rfl

theorem map_ofRemark (remarks : List Remark) :
    (remarks.map ofRemark).map toValue = remarks.map Remark.toValue := by
  rw [List.map_map]
  rfl

theorem isSystem_toValue (e : Entry) : Service.isSystem e.toValue = .ok e.isSystem := by
  simp only [Service.isSystem, toValue, Value.fieldOr, e.get?_source, Option.getD_some, isSystem]
  rfl

theorem fieldOr_message (e : Entry) (default : Value) :
    e.toValue.fieldOr "message" default = .ok e.message := by
  simp [toValue, Value.fieldOr, e.get?_message]

end Entry

namespace ExplainedEntry

def fields (x : ExplainedEntry) : Table Value :=
  x.entry.fields ++
    match x.advice with
    | none => []
    | some a =>
      [("explanation", .str a.explanation), ("fix", (a.fix.map Value.str).getD .null)]

def toValue (x : ExplainedEntry) : Value :=
  .dict x.fields

def key (x : ExplainedEntry) : Feedback.Key :=
  x.entry.key

theorem get?_line (x : ExplainedEntry) : x.fields.get? "line" = some x.entry.line := by
  rw [fields, Table.get?_append, x.entry.get?_line]
  rfl

theorem get?_category (x : ExplainedEntry) :
    x.fields.get? "category" = some (.str x.entry.category.name) := by
  rw [fields, Table.get?_append, x.entry.get?_category]
  rfl

theorem toValue_bare (e : Entry) : toValue { entry := e } = e.toValue := by
  unfold toValue fields
  rw [List.append_nil]
  rfl

def bare (es : List Entry) : List ExplainedEntry :=
  es.map fun e => { entry := e }

theorem map_entry_bare (es : List Entry) : (bare es).map (·.entry) = es := by
  unfold bare
  rw [List.map_map]
  exact List.map_id es

theorem map_toValue_bare (es : List Entry) :
    (bare es).map toValue = es.map Entry.toValue := by
  unfold bare
  rw [List.map_map]
  apply List.map_congr_left
  intro e _
  exact toValue_bare e

theorem advice_of_mem_bare {es : List Entry} {x : ExplainedEntry} (h : x ∈ bare es) :
    x.advice = none := by
  obtain ⟨e, -, rfl⟩ := List.mem_map.1 h
  rfl

theorem advised_toValue (e : Entry) (a : Advice) :
    advised e.toValue a = .ok (toValue { entry := e, advice := some a }) := by
  have hfix :
      (e.fields ++ [("explanation", .str a.explanation)] : Table Value).get? "fix" = none := by
    rw [Table.get?_append, e.get?_fix]
    rfl
  simp only [advised, Entry.toValue, Value.setField, ok_bind]
  rw [Table.set_of_get?_eq_none e.get?_explanation]
  rw [Table.set_of_get?_eq_none hfix]
  rw [List.append_assoc]
  rfl

theorem get_category (r : Reading) (x : ExplainedEntry) (default : Value) :
    r.get x.toValue "category" default = .ok (.str x.entry.category.name) :=
  r.get_of_get? x.get?_category default

theorem get_line (r : Reading) (x : ExplainedEntry) (default : Value) :
    r.get x.toValue "line" default = .ok x.entry.line :=
  r.get_of_get? x.get?_line default

theorem complete_toValue (r : Reading) (x : ExplainedEntry) :
    Feedback.complete r x.toValue = .ok x.toValue := by
  simp [Feedback.complete, toValue, Value.hasMember, Table.contains, get?_category]

theorem priority_name (c : Category) : Feedback.priority (.str c.name) = .ok c.priority := by
  cases c <;> rfl

theorem key_toValue (r : Reading) (x : ExplainedEntry) :
    Feedback.key r x.toValue = .ok x.key := by
  unfold Feedback.key
  rw [get_category]
  rw [ok_bind]
  rw [priority_name]
  rw [ok_bind]
  rw [get_line]
  rfl

theorem sort_toValue (r : Reading) (xs : List ExplainedEntry) :
    Feedback.sort r (xs.map toValue)
      =
    (Sort.sort (fun a b => a.key.less b.key) xs).map (List.map toValue) := by
  apply Feedback.sort_map_of_key
  intro x _
  apply key_toValue

theorem mapM_complete (r : Reading) (xs : List ExplainedEntry) :
    (xs.map toValue).mapM (Feedback.complete r) = .ok (xs.map toValue) := by
  rw [List.mapM_map]
  apply mapM_eq_ok
  intro x _
  apply complete_toValue

end ExplainedEntry

open ExplainedEntry

theorem Development.arrange_entries (xs : List ExplainedEntry) :
    Development.arrange (xs.map toValue)
      =
    (Sort.sort (fun a b => a.key.less b.key) xs).map (List.map toValue) := by
  unfold arrange
  rw [mapM_complete]
  rw [ok_bind]
  apply sort_toValue

theorem Hosted.leads_arrange_of {items completed categories : List Value}
    {result : Except Failure (List Value)}
    (hcompleted : items.mapM (Feedback.complete .lenient) = .ok completed)
    (hcategories : completed.mapM (·.fieldOr "category" (.str "unknown")) = .ok categories)
    (hresult : Feedback.sort .lenient completed = result) (j : Journal) :
    Leads (attempt (Hosted.arrange items)) j result [] := by
  unfold arrange
  refine (Leads.ofExcept hcompleted j).bind_ok fun j _ => ?_
  refine (Leads.ofExcept hcategories j).bind_ok fun j _ => ?_
  refine (Leads.say _ j).lift.bind_ok fun j _ => ?_
  exact Leads.ofExcept hresult j

theorem Hosted.leads_arrange (xs : List ExplainedEntry) (j : Journal) :
    Leads (attempt (Hosted.arrange (xs.map toValue))) j
      ((Sort.sort (fun a b => a.key.less b.key) xs).map (List.map toValue)) [] := by
  have hcategories : (xs.map toValue).mapM (·.fieldOr "category" (.str "unknown"))
      = .ok (xs.map fun x => .str x.entry.category.name) := by
    rw [List.mapM_map]
    apply mapM_eq_ok
    intro x _
    exact get_category .lenient x _
  exact leads_arrange_of (mapM_complete .lenient xs) hcategories (sort_toValue .lenient xs) j

end Service

end HabitLens
