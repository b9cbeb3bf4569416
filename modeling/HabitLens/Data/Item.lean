import HabitLens.Data.Order
import HabitLens.Text.Cut

/-!
Parts of values: lengths, items, members and fields, as far as a value has any.
-/

namespace HabitLens.Value

def length? : Value → Option Nat
  | str s => some s.length
  | unpaired codes => some codes.length
  | list items => some items.length
  | dict fields => some fields.length
  | _ => none

/-- The item with a number, counted from zero. -/
def item (v : Value) (i : Nat) : Except Failure Value :=
  match v with
  | str s =>
    match s.toList[i]? with
    | some c => .ok (str (String.singleton c))
    | none => .error (.outOfRange "string")
  | unpaired codes =>
    match codes[i]? with
    | some code => .ok (ofCodes [code])
    | none => .error (.outOfRange "string")
  | list items =>
    match items[i]? with
    | some w => .ok w
    | none => .error (.outOfRange "list")
  | dict _ => .error (.missingItem i)
  | v => .error (.noItems v.kind)

def fieldOr (v : Value) (name : String) (default : Value) : Except Failure Value :=
  match v with
  | dict fields => .ok ((Table.get? fields name).getD default)
  | v => .error (.noOperation v.kind "get")

def field (v : Value) (name : String) : Except Failure Value :=
  match v with
  | dict fields =>
    match Table.get? fields name with
    | some w => .ok w
    | none => .error (.missingKey name)
  | str _ | unpaired _ => .error (.textIndex .str)
  | list _ => .error (.listIndex .str)
  | v => .error (.noItems v.kind)

def setField (v : Value) (name : String) (w : Value) : Except Failure Value :=
  match v with
  | dict fields => .ok (dict (Table.set fields name w))
  | list _ => .error (.listIndex .str)
  | v => .error (.noItemAssignment v.kind)

/-- Whether a text is in a value: as a part of a text, an item of a list or a name of a table. -/
def hasMember (v : Value) (name : String) : Except Failure Bool :=
  match v with
  | str s => .ok (Text.occursIn name s)
  | unpaired codes => .ok (Text.occursIn name (Text.ofCodes codes))
  | list items => .ok (items.any (same (str name)))
  | dict fields => .ok (Table.contains fields name)
  | v => .error (.noMembers v.kind)

/-- Whether a value is a number above zero; other values are not compared with numbers. -/
def isPositive (v : Value) : Except Failure Bool :=
  if v.isNumber then .ok (v.compareNumbers? (int 0) == some .gt)
  else .error (.unordered ">" v.kind .int)

end HabitLens.Value
