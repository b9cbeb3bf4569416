/-!
Double precision numbers as exact values. A finite number is `mantissa * 2 ^ exponent`, kept in one
normal form, so two numbers that were read are equal exactly when they are the same value.
-/

namespace HabitLens

inductive Binary64 where
  | nan
  | infinite (negative : Bool)
  /-- The mantissa is below `2 ^ 53`, and below `2 ^ 52` only at the least exponent. -/
  | finite (negative : Bool) (mantissa : Nat) (exponent : Int)
  deriving DecidableEq, Repr

namespace Binary64

def minExponent : Int := -1074

def maxExponent : Int := 971

def zero : Binary64 := .finite false 0 minExponent

instance : Inhabited Binary64 := ⟨zero⟩

def twoPow (n : Nat) : Nat :=
  Nat.pow 2 n

def tenPow (n : Nat) : Nat :=
  Nat.pow 10 n

/-- The quotient, rounded to the nearest integer; a tie goes to the even one. -/
def roundDiv (num den : Nat) : Nat :=
  let q := num / den
  let r := num % den
  if 2 * r < den then q
  else if den < 2 * r then q + 1
  else q + q % 2

/--
The exponent that leaves 53 significant bits of `num / den`, or the least exponent if there are
fewer. `log2` misses the size of the quotient by one at most, which one comparison settles.
-/
def unitExponent (num den : Nat) : Int :=
  let guess : Int := (Nat.log2 num : Int) - (Nat.log2 den : Int)
  let above : Bool :=
    if 0 ≤ guess then den * twoPow guess.toNat ≤ num else den ≤ num * twoPow (-guess).toNat
  let top := if above then guess else guess - 1
  max (top - 52) minExponent

def ofRatio (negative : Bool) (num den : Nat) : Binary64 :=
  if num = 0 then .finite negative 0 minExponent
  else
    let e := unitExponent num den
    let m :=
      if 0 ≤ e then roundDiv num (den * twoPow e.toNat)
      else roundDiv (num * twoPow (-e).toNat) den
    let (m, e) := if m = twoPow 53 then (twoPow 52, e + 1) else (m, e)
    if maxExponent < e then .infinite negative else .finite negative m e

/--
The double nearest to `digits * 10 ^ exponent`. Exponents whose outcome is settled by the number of
digits are answered without forming the power.
-/
def ofDecimal (negative : Bool) (digits : Nat) (exponent : Int) : Binary64 :=
  if digits = 0 then .finite negative 0 minExponent
  else
    let size : Int := (Nat.log2 digits : Int)
    if 400 < exponent then .infinite negative
    else if size + 3 * exponent < -1100 then
      .finite negative 0 minExponent
    else if 0 ≤ exponent then ofRatio negative (digits * tenPow exponent.toNat) 1
    else ofRatio negative digits (tenPow (-exponent).toNat)

def ofInt (n : Int) : Binary64 :=
  ofRatio (n < 0) n.natAbs 1

def isNegative : Binary64 → Bool
  | nan => false
  | infinite s => s
  | finite s _ _ => s

/-- A finite number as a fraction with a positive denominator. -/
def ratio? : Binary64 → Option (Int × Nat)
  | finite s m e =>
    let n : Int := if s then -(m : Int) else m
    some (if 0 ≤ e then (n * twoPow e.toNat, 1) else (n, twoPow (-e).toNat))
  | _ => none

def isZero : Binary64 → Bool
  | finite _ m _ => m == 0
  | _ => false

/-- Comparison with `none` for a pair that has no order, which is one with a NaN in it. -/
def compare? (a b : Binary64) : Option Ordering :=
  match a, b with
  | nan, _ | _, nan => none
  | infinite s, infinite t => some (if s == t then .eq else if s then .lt else .gt)
  | infinite s, _ => some (if s then .lt else .gt)
  | _, infinite t => some (if t then .gt else .lt)
  | a, b =>
    match a.ratio?, b.ratio? with
    | some (p, q), some (r, s) => some (compare (p * s) (r * q))
    | _, _ => none

/-- Comparison with an integer, made without rounding the integer. -/
def compareInt? (a : Binary64) (n : Int) : Option Ordering :=
  match a with
  | nan => none
  | infinite s => some (if s then .lt else .gt)
  | a =>
    match a.ratio? with
    | some (p, q) => some (compare p (n * q))
    | none => none

end Binary64

end HabitLens
