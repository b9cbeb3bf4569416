import HabitLens.Data.Table
import HabitLens.Number.Binary64
import HabitLens.Text.Halves

/-!
Values of a data format: what requests, replies and reports are made of.
-/

namespace HabitLens

inductive Value where
  | null
  | bool (b : Bool)
  | int (n : Int)
  | float (x : Binary64)
  | str (s : String)
  | unpaired (codes : List Nat)
  | list (items : List Value)
  | dict (fields : List (String × Value))

inductive Kind where
  | null
  | bool
  | int
  | float
  | str
  | list
  | dict
  deriving DecidableEq, Repr

def Kind.name : Kind → String
  | .null => "NoneType"
  | .bool => "bool"
  | .int => "int"
  | .float => "float"
  | .str => "str"
  | .list => "list"
  | .dict => "dict"

namespace Value

instance : Inhabited Value := ⟨.null⟩

mutual

def isSelf : Value → Value → Bool
  | null, null => true
  | bool a, bool b => a = b
  | int m, int n => m = n
  | float x, float y => x = y
  | str s, str t => s = t
  | unpaired cs, unpaired ds => cs = ds
  | list xs, list ys => areSelf xs ys
  | dict fs, dict gs => fieldsAreSelf fs gs
  | _, _ => false

def areSelf : List Value → List Value → Bool
  | [], [] => true
  | x :: xs, y :: ys => isSelf x y && areSelf xs ys
  | _, _ => false

def fieldsAreSelf : List (String × Value) → List (String × Value) → Bool
  | [], [] => true
  | (k, v) :: fs, (l, w) :: gs => k = l && isSelf v w && fieldsAreSelf fs gs
  | _, _ => false

end

mutual

theorem isSelf_iff (v w : Value) : isSelf v w = true ↔ v = w := by
  cases v with
  | list xs =>
    cases w with
    | list ys => rw [isSelf, areSelf_iff, list.injEq]
    | _ => simp [isSelf]
  | dict fs =>
    cases w with
    | dict gs => rw [isSelf, fieldsAreSelf_iff, dict.injEq]
    | _ => simp [isSelf]
  | _ => cases w <;> simp [isSelf]

theorem areSelf_iff (xs ys : List Value) : areSelf xs ys = true ↔ xs = ys := by
  cases xs with
  | nil => cases ys <;> simp [areSelf]
  | cons x xs =>
    cases ys with
    | nil => simp [areSelf]
    | cons y ys => rw [areSelf, Bool.and_eq_true_iff, isSelf_iff, areSelf_iff, List.cons.injEq]

theorem fieldsAreSelf_iff (fs gs : List (String × Value)) :
    fieldsAreSelf fs gs = true ↔ fs = gs := by
  cases fs with
  | nil => cases gs <;> simp [fieldsAreSelf]
  | cons f fs =>
    cases gs with
    | nil => simp [fieldsAreSelf]
    | cons g gs =>
      rw [fieldsAreSelf, Bool.and_eq_true_iff, Bool.and_eq_true_iff, isSelf_iff, fieldsAreSelf_iff,
        decide_eq_true_iff, List.cons.injEq, Prod.ext_iff]

end

instance : DecidableEq Value :=
  fun v w => decidable_of_iff _ (isSelf_iff v w)

def kind : Value → Kind
  | null => .null
  | bool _ => .bool
  | int _ => .int
  | float _ => .float
  | str _ | unpaired _ => .str
  | list _ => .list
  | dict _ => .dict

/-- The whole number that a truth value or a whole number stands for. -/
def int? : Value → Option Int
  | bool b => some (if b then 1 else 0)
  | int n => some n
  | _ => none

def ofCodes (codes : List Nat) : Value :=
  if codes.any Text.isHalf then unpaired codes else str (Text.ofCodes codes)

/-- Whether a value counts as true: it is not null, zero or empty. -/
def truthy : Value → Bool
  | null => false
  | bool b => b
  | int n => n != 0
  | float x => !x.isZero
  | str s => !s.isEmpty
  | unpaired codes => !codes.isEmpty
  | list items => !items.isEmpty
  | dict fields => !fields.isEmpty

end Value

end HabitLens
