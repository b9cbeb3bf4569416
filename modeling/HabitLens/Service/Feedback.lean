import HabitLens.Data.Item
import HabitLens.Data.Sort
import HabitLens.Review.Issue

/-!
Feedback on its way out: items get a category if they have none, and are sorted by category and
line. Items may come from elsewhere, so nothing is taken for granted about their fields.
-/

namespace HabitLens.Service

open Review

/-- What a missing field means to a reader: a failure, or a default. -/
inductive Reading where
  | strict
  | lenient
  deriving DecidableEq, Repr

def Reading.get (r : Reading) (item : Value) (name : String) (default : Value) :
    Except Failure Value :=
  match r with
  | .strict => item.field name
  | .lenient => item.fieldOr name default

namespace Feedback

def fatalWords : List String :=
  ["division by zero", "index out of range", "key error"]

def mentions (v : Value) : List String → Except Failure Bool
  | [] => .ok false
  | w :: ws => do
    if ← v.hasMember w then return true
    mentions v ws

/-- The category of an item that only says how certain it is. -/
def legacyCategory (r : Reading) (item : Value) : Except Failure Category := do
  let certainty ← r.get item "certainty" .null
  if certainty.same (.str "error") then
    let message ← r.get item "message" (.str "")
    if ← message.hasMember "SyntaxError" then return .syntaxError
    if ← mentions message fatalWords then return .fatalError
    return .runtimeError
  else if certainty.same (.str "might_error") then return .potentialError
  else return .badHabit

def complete (r : Reading) (item : Value) : Except Failure Value := do
  let hasCertainty ← item.hasMember "certainty"
  let hasCategory ← item.hasMember "category"
  if hasCategory then return item
  let category ← if hasCertainty then legacyCategory r item else pure .runtimeError
  item.setField "category" (.str category.name)

def lastPriority : Nat := 999

def priority : Value → Except Failure Nat
  | .str name => .ok ((Category.ofName? name).elim lastPriority Category.priority)
  | .list _ => .error (.unhashable .list)
  | .dict _ => .error (.unhashable .dict)
  | _ => .ok lastPriority

structure Key where
  priority : Nat
  line : Value

def key (r : Reading) (item : Value) : Except Failure Key := do
  let category ← r.get item "category" (.str Category.runtimeError.name)
  let priority ← priority category
  let line ← r.get item "line" (.int 0)
  return { priority, line }

/-- Lines are compared only if categories do not decide and the lines differ. -/
def Key.less (a b : Key) : Except Failure Bool :=
  if a.priority = b.priority then
    if a.line.same b.line then .ok false else a.line.less b.line
  else .ok (a.priority < b.priority)

def sort (r : Reading) (items : List Value) : Except Failure (List Value) := do
  let keyed ← items.mapM fun item => do return (← key r item, item)
  let sorted ← Sort.sort (fun a b => a.1.less b.1) keyed
  return sorted.map (·.2)

def toValue (items : List Value) : Value :=
  .dict [("feedback", .list items)]

end Feedback

end HabitLens.Service
