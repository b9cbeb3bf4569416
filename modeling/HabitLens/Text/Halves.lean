/-!
Codes that are no characters: the halves of which characters outside the first plane are made. A
text may hold such a half alone, and is then known by its codes only.
-/

namespace HabitLens.Text

def isHighHalf (code : Nat) : Bool :=
  0xD800 ≤ code && code < 0xDC00

def isLowHalf (code : Nat) : Bool :=
  0xDC00 ≤ code && code < 0xE000

def isHalf (code : Nat) : Bool :=
  isHighHalf code || isLowHalf code

def joinHalves (high low : Nat) : Nat :=
  0x10000 + (high - 0xD800) * 0x400 + (low - 0xDC00)

/-- The text of some codes, with a replacement for each half. -/
def ofCodes (codes : List Nat) : String :=
  String.ofList (codes.map fun code => Char.ofNat (if isHalf code then 0xFFFD else code))

end HabitLens.Text
