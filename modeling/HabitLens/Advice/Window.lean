import HabitLens.Data.Item

/-!
The part of the code around a line that the assistant is shown.
-/

namespace HabitLens

/-- The sum of a number and a whole number, rounded. -/
def Binary64.addInt (x : Binary64) (n : Int) : Binary64 :=
  match x.ratio? with
  | some (p, q) =>
    let sum := p + n * q
    ofRatio (sum < 0) sum.natAbs q
  | none => x

namespace Window

/--
The numbers, counted from zero, at which the window around a line begins and ends, for a line above
zero and code of a given length. A line that is not a whole number has a window only if its bounds
are whole nevertheless.
-/
def bounds (line : Value) (count : Nat) : Except Failure (Nat × Nat) :=
  match line with
  | .float x =>
    if x.compareInt? 3 == some .gt || (x.addInt 3).compareInt? count == some .lt then
      .error (.notInteger .float)
    else .ok (0, count)
  | v =>
    let line := (v.int?).getD 0
    .ok ((line - 3).toNat, min count (line + 3).toNat)

def linesFrom (code : Value) (first : Nat) : Nat → Except Failure (List (Nat × Value))
  | 0 => .ok []
  | count + 1 => do
    let line ← code.item first
    let rest ← linesFrom code (first + 1) count
    return (first + 1, line) :: rest

def around (code line : Value) : Except Failure (List (Nat × Value)) := do
  if !code.truthy then return []
  if !(← line.isPositive) then return []
  let some count := code.length? | throw (.noLength code.kind)
  let (first, stop) ← bounds line count
  linesFrom code first (stop - first)

def marked (line : Value) (window : List (Nat × Value)) : String :=
  String.join (window.map fun (n, text) =>
    let mark := if Value.same (.int n) line then "-->" else "   "
    s!"{mark} {n}: {text.display}\n")

def numbered (window : List (Nat × Value)) : String :=
  String.join (window.map fun (n, text) => s!"{n} {text.display}\n")

end Window

end HabitLens
