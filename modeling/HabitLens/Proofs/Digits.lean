import HabitLens.Number.Digits
import Mathlib.Data.List.Basic
import Mathlib.Tactic.IntervalCases

/-!
Numbers in digits, and numbers that are read from them.
-/

namespace HabitLens

theorem natOf_concat (base : Nat) (ds : List Char) (d : Char) :
    natOf base (ds ++ [d]) = base * natOf base ds + digitValue d := by
  simp [natOf]

theorem natOf_replicate_zero (base k : Nat) (ds : List Char) :
    natOf base (List.replicate k '0' ++ ds) = natOf base ds := by
  induction k with
  | zero => rfl
  | succ k ih =>
    rw [List.replicate_succ, List.cons_append, ← ih]
    simp [natOf, digitValue, Text.isAsciiDigit]

theorem digitValue_digitChar {n : Nat} (h : n < 16) : digitValue n.digitChar = n := by
  interval_cases n <;> decide

theorem isHexDigit_digitChar {n : Nat} (h : n < 16) : Text.isHexDigit n.digitChar = true := by
  interval_cases n <;> decide

theorem natOf_toDigits {base : Nat} (h : 1 < base) (hle : base ≤ 16) (n : Nat) :
    natOf base (Nat.toDigits base n) = n := by
  induction n using Nat.strongRecOn with
  | _ n ih =>
    by_cases hn : n < base
    . rw [Nat.toDigits_of_lt_base hn]
      exact (Nat.zero_add _).trans (digitValue_digitChar (Nat.lt_of_lt_of_le hn hle))
    . have hdiv : n / base < n := Nat.div_lt_self (by omega) h
      have hmod : n % base < base := Nat.mod_lt n (by omega)
      rw [Nat.toDigits_of_base_le h (by omega)]
      rw [natOf_concat, ih _ hdiv, digitValue_digitChar (Nat.lt_of_lt_of_le hmod hle)]
      exact Nat.div_add_mod n base

theorem eq_of_repr_eq {m n : Nat} (h : m.repr = n.repr) : m = n := by
  rw [Nat.repr_eq_ofList_toDigits, Nat.repr_eq_ofList_toDigits, String.ofList_inj] at h
  have hread := congrArg (natOf 10) h
  rwa [natOf_toDigits (by decide) (by decide), natOf_toDigits (by decide) (by decide)] at hread

theorem isAsciiDigit_of_mem_toDigits {n : Nat} {c : Char} (h : c ∈ Nat.toDigits 10 n) :
    Text.isAsciiDigit c = true :=
  Nat.isDigit_of_mem_toDigits (by decide) (by decide) h

theorem head?_toDigits {n : Nat} (h : 0 < n) : (Nat.toDigits 10 n).head? ≠ some '0' := by
  induction n using Nat.strong_induction_on with
  | _ n ih =>
    by_cases hn : n < 10
    . rw [Nat.toDigits_of_lt_base hn]
      interval_cases n <;> decide
    . rw [Nat.toDigits_of_base_le (by decide) (by omega)]
      rw [List.head?_append_of_ne_nil _ Nat.toDigits_ne_nil]
      exact ih (n / 10) (by omega) (by omega)

theorem isHexDigit_of_mem_toDigits {n : Nat} {c : Char} (h : c ∈ Nat.toDigits 16 n) :
    Text.isHexDigit c = true := by
  induction n using Nat.strongRecOn with
  | _ n ih =>
    by_cases hn : n < 16
    . rw [Nat.toDigits_of_lt_base hn, List.mem_singleton] at h
      rw [h]
      exact isHexDigit_digitChar hn
    . rw [Nat.toDigits_of_base_le (by decide) (by omega)] at h
      rcases List.mem_append.1 h with h | h
      . exact ih (n / 16) (by omega) h
      . rw [List.mem_singleton.1 h]
        exact isHexDigit_digitChar (by omega)

theorem length_hexText {n : Nat} (h : n < 0x10000) : (hexText 4 n).length = 4 := by
  have hlength : (Nat.toDigits 16 n).length ≤ 4 :=
    (Nat.length_toDigits_le_iff (by decide) (by decide)).2 h
  simp only [hexText, List.length_append, List.length_replicate]
  omega

theorem isHexDigit_of_mem_hexText {n : Nat} {c : Char} (h : c ∈ hexText 4 n) :
    Text.isHexDigit c = true := by
  rcases List.mem_append.1 h with h | h
  . rw [List.eq_of_mem_replicate h]
    rfl
  . exact isHexDigit_of_mem_toDigits h

end HabitLens
