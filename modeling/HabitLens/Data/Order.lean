import HabitLens.Data.Failure

/-!
Equality and order of values. Numbers are compared by what they are worth, truth values count as
numbers, and values of different kinds are different but not ordered.
-/

namespace HabitLens.Value

/-- Compares two numbers exactly; there is no answer if one of them is not a number. -/
def compareNumbers? : Value → Value → Option Ordering
  | float x, float y => x.compare? y
  | float x, v => v.int?.bind x.compareInt?
  | v, float y => v.int?.bind fun n => (y.compareInt? n).map Ordering.swap
  | v, w => v.int?.bind fun n => w.int?.map (compare n)

def isNumber : Value → Bool
  | bool _ | int _ | float _ => true
  | _ => false

mutual

/-- Whether two values are equal. Fields may come in any order. -/
def same : Value → Value → Bool
  | null, null => true
  | str s, str t => s == t
  | unpaired cs, unpaired ds => cs == ds
  | list xs, list ys => sameItems xs ys
  | dict fs, dict gs => fs.length == gs.length && sameFields fs gs
  | float .nan, float .nan => true
  | v, w => v.compareNumbers? w == some .eq

def sameItems : List Value → List Value → Bool
  | [], [] => true
  | x :: xs, y :: ys => same x y && sameItems xs ys
  | _, _ => false

def sameFields : List (String × Value) → List (String × Value) → Bool
  | [], _ => true
  | (k, v) :: fs, gs =>
    (match Table.get? gs k with
      | some w => same v w
      | none => false) && sameFields fs gs

end

def codes? : Value → Option (List Nat)
  | str s => some (s.toList.map Char.toNat)
  | unpaired codes => some codes
  | _ => none

mutual

def less : Value → Value → Except Failure Bool
  | str s, str t => .ok (s < t)
  | list xs, list ys => lessItems xs ys
  | v, w =>
    if v.isNumber && w.isNumber then .ok (v.compareNumbers? w == some .lt)
    else
      match v.codes?, w.codes? with
      | some cs, some ds => .ok (cs < ds)
      | _, _ => .error (.unordered "<" v.kind w.kind)

/-- The first items that differ decide, and a list comes before what it is the start of. -/
def lessItems : List Value → List Value → Except Failure Bool
  | [], ys => .ok !ys.isEmpty
  | _ :: _, [] => .ok false
  | x :: xs, y :: ys => if same x y then lessItems xs ys else less x y

end

end HabitLens.Value
