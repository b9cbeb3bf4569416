import HabitLens.Text.Identifier

/-!
Whole numbers as digits in a base.
-/

namespace HabitLens

def digitValue (c : Char) : Nat :=
  if Text.isAsciiDigit c then c.toNat - '0'.toNat
  else if 'a' ≤ c ∧ c ≤ 'f' then c.toNat - 'a'.toNat + 10
  else c.toNat - 'A'.toNat + 10

def natOf (base : Nat) (digits : List Char) : Nat :=
  digits.foldl (fun n c => base * n + digitValue c) 0

def decimal (n : Int) : String :=
  let digits := String.ofList (Nat.toDigits 10 n.natAbs)
  if n < 0 then "-" ++ digits else digits

/-- A number in lower case hexadecimal with at least so many digits. -/
def hexText (width : Nat) (n : Nat) : List Char :=
  let digits := Nat.toDigits 16 n
  List.replicate (width - digits.length) '0' ++ digits

/-- The most digits that a whole number may be read from. -/
def digitLimit : Nat := 4300

def tooManyDigits (count : Nat) : String :=
  s!"Exceeds the limit ({digitLimit} digits) for integer string conversion: value has {count} " ++
  "digits; use sys.set_int_max_str_digits() to increase the limit"

end HabitLens
