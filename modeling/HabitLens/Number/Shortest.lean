import HabitLens.Number.Binary64

/-!
The shortest decimal text of a double: the fewest digits that read back as the same number, and of
those the nearest. How the digits are laid out is a `Layout`, chosen by the format that writes them.
-/

namespace HabitLens.Binary64

/-- The digits of a positive decimal and the place of its point, `0.d₁d₂… * 10 ^ point`. -/
structure Digits where
  digits : Nat
  point : Int
  deriving DecidableEq, Repr

/--
The numbers that round to `mantissa * 2 ^ exponent`, in units of `2 ^ (exponent - 2)`. Below a power
of two the neighbour is only half as far away.
-/
structure Interval where
  low : Nat
  value : Nat
  high : Nat
  closed : Bool
  exponent : Int

def interval (mantissa : Nat) (exponent : Int) : Interval where
  low :=
    if mantissa = twoPow 52 ∧ minExponent < exponent then 4 * mantissa - 1
    else 4 * mantissa - 2
  value := 4 * mantissa
  high := 4 * mantissa + 2
  closed := mantissa % 2 = 0
  exponent := exponent - 2

/-- Twice an amount of the interval's units, as a fraction in units of `10 ^ place`. -/
def Interval.scale (i : Interval) (place : Int) : Nat × Nat :=
  let num := (if 0 ≤ i.exponent then twoPow i.exponent.toNat else 1) *
    (if place < 0 then tenPow (-place).toNat else 1)
  let den := (if i.exponent < 0 then twoPow (-i.exponent).toNat else 1) *
    (if 0 ≤ place then tenPow place.toNat else 1)
  (num, den)

/--
The multiple of `10 ^ place` that lies in the interval and is nearest to the value; a tie goes to
the even multiple.
-/
def Interval.nearest? (i : Interval) (place : Int) : Option Nat :=
  let (num, den) := i.scale place
  let inside (n : Nat) : Bool :=
    if i.closed then i.low * num ≤ n * den && n * den ≤ i.high * num
    else i.low * num < n * den && n * den < i.high * num
  let below := i.value * num / den
  let above := below + 1
  let down := i.value * num - below * den
  let up := above * den - i.value * num
  match inside below, inside above with
  | true, true =>
    some (if down < up then below else if up < down then above
      else if below % 2 = 0 then below else above)
  | true, false => some below
  | false, true => some above
  | false, false => none

/-- The power of ten at or just above the value: `value ≤ 10 ^ k`. -/
def decimalSize (mantissa : Nat) (exponent : Int) : Int :=
  let num := if 0 ≤ exponent then mantissa * twoPow exponent.toNat else mantissa
  let den := if 0 ≤ exponent then 1 else twoPow (-exponent).toNat
  let guess : Int := ((Nat.log2 num : Int) - (Nat.log2 den : Int)) * 30103 / 100000
  let fits (k : Int) : Bool :=
    if 0 ≤ k then num < den * tenPow k.toNat else num * tenPow (-k).toNat < den
  if fits (guess - 1) then guess - 1
  else if fits guess then guess
  else if fits (guess + 1) then guess + 1
  else guess + 2

/-- Tries grids of 1, 2, … digits, `fuel` of them; seventeen are enough for every double. -/
def shortestFrom (i : Interval) (size : Int) (count : Nat) : Nat → Digits
  | 0 => ⟨0, size⟩
  | fuel + 1 =>
    match i.nearest? (size - count) with
    | some n => ⟨n, size - count⟩
    | none => shortestFrom i size (count + 1) fuel

/-- Drops zeros at the end of the digits, which move into the exponent. -/
def stripZeros (digits : Nat) (place : Int) : Nat → Nat × Int
  | 0 => (digits, place)
  | fuel + 1 =>
    if digits ≠ 0 ∧ digits % 10 = 0 then stripZeros (digits / 10) (place + 1) fuel
    else (digits, place)

/-- The fewest digits that read back as `mantissa * 2 ^ exponent`. -/
def shortest (mantissa : Nat) (exponent : Int) : Digits :=
  if mantissa = 0 then ⟨0, 1⟩
  else
    let found := shortestFrom (interval mantissa exponent) (decimalSize mantissa exponent) 1 20
    let (digits, place) := stripZeros found.digits found.point 20
    ⟨digits, place + (Nat.toDigits 10 digits).length⟩

structure Layout where
  /-- Points from `least` to `most` are written positionally, all others with an exponent. -/
  least : Int
  most : Int
  keepsPoint : Bool
  exponentDigits : Nat
  signsZero : Bool
  nan : String
  infinity : String

def zeros (n : Nat) : String :=
  String.ofList (List.replicate n '0')

def Layout.digits (l : Layout) (d : Digits) : String :=
  let text := String.ofList (Nat.toDigits 10 d.digits)
  let count : Int := text.length
  if l.least ≤ d.point ∧ d.point ≤ l.most then
    if d.point ≤ 0 then "0." ++ zeros (-d.point).toNat ++ text
    else if count ≤ d.point then
      text ++ zeros (d.point - count).toNat ++ (if l.keepsPoint then ".0" else "")
    else
      let n := d.point.toNat
      String.ofList (text.toList.take n) ++ "." ++ String.ofList (text.toList.drop n)
  else
    let e := d.point - 1
    let power := String.ofList (Nat.toDigits 10 e.natAbs)
    let power := zeros (l.exponentDigits - power.length) ++ power
    let head := String.ofList (text.toList.take 1)
    let tail := String.ofList (text.toList.drop 1)
    let sign := if e < 0 then "-" else "+"
    head ++ (if tail.isEmpty then "" else "." ++ tail) ++ "e" ++ sign ++ power

def Layout.text (l : Layout) : Binary64 → String
  | .nan => l.nan
  | .infinite s => (if s then "-" else "") ++ l.infinity
  | .finite s m e =>
    let sign := if s && (l.signsZero || m != 0) then "-" else ""
    sign ++ l.digits (shortest m e)

end HabitLens.Binary64
