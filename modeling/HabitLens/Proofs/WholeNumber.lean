import HabitLens.Number.Shortest
import Mathlib.Data.Nat.Log
import Mathlib.Tactic.Ring

/-!
The text of a whole number. Up to the size of a mantissa, a whole number is a double without
rounding, and the fewest digits that read back as that double are its own digits up to zeros at the
end. So it is written as the digits of the number in every layout that is positional that far.
-/

namespace HabitLens.Binary64

theorem twoPow_eq (n : Nat) : twoPow n = 2 ^ n :=
  rfl

theorem tenPow_eq (n : Nat) : tenPow n = 10 ^ n :=
  rfl

theorem roundDiv_one (n : Nat) : roundDiv n 1 = n := by
  simp [roundDiv, Nat.mod_one]

section

variable {n : Nat} (hpos : 0 < n) (hn : n < 2 ^ 52)

include hpos hn

theorem unitExponent_one : unitExponent n 1 = -((52 - n.log2 : Nat) : Int) := by
  have hlog : n.log2 < 52 := (Nat.log2_lt (by omega)).2 hn
  have hle : 2 ^ n.log2 ≤ n := Nat.log2_self_le (by omega)
  have hone : Nat.log2 1 = 0 := by decide
  unfold unitExponent minExponent
  simp only [hone, Nat.cast_zero, sub_zero, Int.natCast_nonneg, if_true, Int.toNat_natCast,
    twoPow_eq, one_mul, hle, decide_true]
  omega

theorem ofInt_natCast :
    ofInt n = .finite false (n * 2 ^ (52 - n.log2)) (-((52 - n.log2 : Nat) : Int)) := by
  have hlog : n.log2 < 52 := (Nat.log2_lt (by omega)).2 hn
  have hfits : n * 2 ^ (52 - n.log2) < 2 ^ 53 := by
    calc n * 2 ^ (52 - n.log2)
      _ < 2 ^ (n.log2 + 1) * 2 ^ (52 - n.log2) :=
        Nat.mul_lt_mul_of_pos_right Nat.lt_log2_self (Nat.two_pow_pos _)
      _ = 2 ^ 53 := by
        rw [← Nat.pow_add]
        congr 1
        omega
  have hne : n * 2 ^ (52 - n.log2) ≠ twoPow 53 := Nat.ne_of_lt hfits
  have hsign : ¬ (n : Int) < 0 := by omega
  have hexponent : ¬ 0 ≤ -((52 - n.log2 : Nat) : Int) := by omega
  have hmax : ¬ maxExponent < -((52 - n.log2 : Nat) : Int) := by
    unfold maxExponent
    omega
  unfold ofInt ofRatio
  rw [Int.natAbs_natCast]
  rw [unitExponent_one hpos hn]
  rw [if_neg (by omega : n ≠ 0)]
  dsimp only
  rw [if_neg hexponent, Int.neg_neg, Int.toNat_natCast, twoPow_eq, roundDiv_one]
  rw [if_neg hne]
  dsimp only
  rw [if_neg hmax, decide_eq_false hsign]

end

theorem floor_ratio?_ofInt {n : Nat} (hn : n < 2 ^ 52) :
    ((ofInt n).ratio?.map fun (p, q) => (p / q).toNat) = some n := by
  rcases Nat.eq_zero_or_pos n with rfl | hpos
  . have hzero : (ofInt (0 : Nat)).ratio? = some (0, twoPow (-minExponent).toNat) := rfl
    rw [hzero, Option.map_some]
    dsimp only
    rw [Int.zero_ediv]
    rfl
  . have hlog : n.log2 < 52 := (Nat.log2_lt (by omega)).2 hn
    have hexponent : ¬ 0 ≤ -((52 - n.log2 : Nat) : Int) := by omega
    rw [ofInt_natCast hpos hn]
    unfold ratio?
    dsimp only
    rw [if_neg hexponent, Int.neg_neg, Int.toNat_natCast, twoPow_eq]
    have hne : ((2 ^ (52 - n.log2) : Nat) : Int) ≠ 0 := by
      have := Nat.two_pow_pos (52 - n.log2)
      omega
    simp only [Option.map_some, Bool.false_eq_true, if_false, Option.some.injEq]
    rw [Int.natCast_mul, Int.mul_ediv_cancel _ hne, Int.toNat_natCast]

theorem mul_between_iff {n t width low high : Nat} (hwidth : 4 ≤ width) (hlow : n * width - 2 ≤ low)
    (hlow' : low < n * width) (hhigh : high = n * width + 2) :
    (low ≤ t * width ∧ t * width ≤ high ↔ t = n) ∧
      (low < t * width ∧ t * width < high ↔ t = n) := by
  rcases Nat.lt_trichotomy t n with h | rfl | h
  . have hle : (t + 1) * width ≤ n * width := Nat.mul_le_mul_right width h
    rw [Nat.add_mul] at hle
    omega
  . omega
  . have hle : (n + 1) * width ≤ t * width := Nat.mul_le_mul_right width h
    rw [Nat.add_mul] at hle
    omega

section

variable {n k : Nat}

theorem scale_interval (j : Nat) :
    (interval (n * 2 ^ k) (-(k : Int))).scale j = (1, 2 ^ (k + 2) * 10 ^ j) := by
  unfold interval Interval.scale
  dsimp only
  rw [if_neg (by omega : ¬ (0 : Int) ≤ -(k : Int) - 2), if_neg (by omega : ¬ (j : Int) < 0)]
  rw [if_pos (by omega : -(k : Int) - 2 < 0), if_pos (by omega : (0 : Int) ≤ (j : Int))]
  rw [show (-(-(k : Int) - 2)).toNat = k + 2 by omega, Int.toNat_natCast]
  rw [twoPow_eq, tenPow_eq]

variable (hpos : 0 < n)

include hpos

theorem interval_bounds :
    let i := interval (n * 2 ^ k) (-(k : Int))
    n * 2 ^ (k + 2) - 2 ≤ i.low ∧ i.low < n * 2 ^ (k + 2) ∧ i.value = n * 2 ^ (k + 2) ∧
      i.high = n * 2 ^ (k + 2) + 2 := by
  have hvalue : n * 2 ^ (k + 2) = 4 * (n * 2 ^ k) := by ring
  have hmantissa : 0 < n * 2 ^ k := Nat.mul_pos hpos (Nat.two_pow_pos k)
  unfold interval
  dsimp only
  rw [hvalue]
  split <;> omega

theorem nearest?_interval (j : Nat) :
    (interval (n * 2 ^ k) (-(k : Int))).nearest? j
      =
    if 10 ^ j ∣ n then some (n / 10 ^ j) else none := by
  obtain ⟨hlow, hlow', hvalue, hhigh⟩ := interval_bounds (k := k) hpos
  have hwidth : 4 ≤ 2 ^ (k + 2) := by
    have := Nat.two_pow_pos k
    rw [Nat.pow_add]
    omega
  unfold Interval.nearest?
  rw [scale_interval]
  dsimp only
  generalize interval (n * 2 ^ k) (-(k : Int)) = i at hlow hlow' hvalue hhigh ⊢
  have hinside : ∀ x,
      (if i.closed = true then
        decide (i.low * 1 ≤ x * (2 ^ (k + 2) * 10 ^ j)) &&
          decide (x * (2 ^ (k + 2) * 10 ^ j) ≤ i.high * 1)
      else
        decide (i.low * 1 < x * (2 ^ (k + 2) * 10 ^ j)) &&
          decide (x * (2 ^ (k + 2) * 10 ^ j) < i.high * 1))
        =
      decide (x * 10 ^ j = n) := by
    intro x
    -- Whether the ends count makes no difference: no other multiple is as near as they are.
    obtain ⟨hclosed, hopen⟩ := mul_between_iff (t := x * 10 ^ j) hwidth hlow hlow' hhigh
    rw [show x * (2 ^ (k + 2) * 10 ^ j) = x * 10 ^ j * 2 ^ (k + 2) by ring]
    rw [Nat.mul_one, Nat.mul_one]
    rw [← Bool.decide_and, ← Bool.decide_and]
    split
    . exact decide_eq_decide.2 hclosed
    . exact decide_eq_decide.2 hopen
  have hbelow : i.value * 1 / (2 ^ (k + 2) * 10 ^ j) = n / 10 ^ j := by
    rw [hvalue, Nat.mul_one, Nat.mul_comm n]
    exact Nat.mul_div_mul_left n (10 ^ j) (Nat.two_pow_pos _)
  have habove : (n / 10 ^ j + 1) * 10 ^ j ≠ n := by
    rw [Nat.mul_comm]
    exact Nat.ne_of_gt (Nat.lt_mul_div_succ n (Nat.pow_pos (by decide)))
  simp only [hinside, hbelow, habove, decide_false]
  by_cases hdvd : 10 ^ j ∣ n
  . rw [if_pos hdvd, Nat.div_mul_cancel hdvd]
    simp
  . have hne : n / 10 ^ j * 10 ^ j ≠ n := by
      intro heq
      exact hdvd (Dvd.intro_left _ heq)
    rw [if_neg hdvd, decide_eq_false hne]

theorem shortestFrom_interval (size count fuel : Nat) (hcount : count ≤ size)
    (hfuel : size - count < fuel) :
    ∃ place : Nat,
      (shortestFrom (interval (n * 2 ^ k) (-(k : Int))) size count fuel).point = place ∧
      (shortestFrom (interval (n * 2 ^ k) (-(k : Int))) size count fuel).digits * 10 ^ place
        =
      n := by
  induction fuel generalizing count with
  | zero => omega
  | succ fuel ih =>
    unfold shortestFrom
    rw [show (size : Int) - (count : Int) = ((size - count : Nat) : Int) by omega]
    rw [nearest?_interval hpos]
    by_cases hdvd : 10 ^ (size - count) ∣ n
    . rw [if_pos hdvd]
      exact ⟨size - count, rfl, Nat.div_mul_cancel hdvd⟩
    . rw [if_neg hdvd]
      have hlt : count < size := by
        by_contra hge
        rw [show size - count = 0 by omega] at hdvd
        exact hdvd (Nat.one_dvd n)
      exact ih (count + 1) hlt (by omega)

end

theorem stripZeros_mul (digits place fuel : Nat) :
    ∃ q p : Nat,
      stripZeros digits place fuel = (q, (p : Int)) ∧ q * 10 ^ p = digits * 10 ^ place := by
  induction fuel generalizing digits place with
  | zero => exact ⟨digits, place, rfl, rfl⟩
  | succ fuel ih =>
    unfold stripZeros
    by_cases hzero : digits ≠ 0 ∧ digits % 10 = 0
    . rw [if_pos hzero]
      obtain ⟨q, p, hstrip, hmul⟩ := ih (digits / 10) (place + 1)
      refine ⟨q, p, hstrip, ?_⟩
      rw [hmul, Nat.pow_succ, Nat.mul_comm _ 10, ← Nat.mul_assoc]
      rw [Nat.div_mul_cancel (Nat.dvd_of_mod_eq_zero hzero.2)]
    . rw [if_neg hzero]
      exact ⟨digits, place, rfl, rfl⟩

section

variable {n k : Nat} (hpos : 0 < n) (hk : 0 < k)

include hpos

theorem log2_mul_two_pow : (n * 2 ^ k).log2 = n.log2 + k := by
  have hlow : 2 ^ n.log2 ≤ n := Nat.log2_self_le (by omega)
  have hhigh : n < 2 ^ (n.log2 + 1) := Nat.lt_log2_self
  have hpow := Nat.two_pow_pos k
  rw [Nat.log2_eq_iff (Nat.ne_of_gt (Nat.mul_pos hpos hpow))]
  constructor
  . rw [Nat.pow_add]
    exact Nat.mul_le_mul_right _ hlow
  . rw [Nat.add_right_comm, Nat.pow_add]
    exact Nat.mul_lt_mul_of_pos_right hhigh hpow

include hk

theorem decimalSize_bounds (hn : n < 2 ^ 52) :
    ∃ size : Nat, decimalSize (n * 2 ^ k) (-(k : Int)) = size ∧ 1 ≤ size ∧ size ≤ 20 := by
  have hlog : n.log2 < 52 := (Nat.log2_lt (by omega)).2 hn
  have hmul : 2 ^ k ≤ n * 2 ^ k := Nat.le_mul_of_pos_left _ hpos
  have hsign : ¬ (0 : Int) ≤ -(k : Int) := by omega
  unfold decimalSize
  extract_lets num den guess fits
  have hnum : num = n * 2 ^ k := if_neg hsign
  have hden : den = 2 ^ k := by
    unfold den
    rw [if_neg hsign, Int.neg_neg, Int.toNat_natCast, twoPow_eq]
  have hguess : guess = (n.log2 : Int) * 30103 / 100000 := by
    unfold guess
    rw [hnum, hden, Nat.log2_two_pow, log2_mul_two_pow hpos, Int.natCast_add, Int.add_sub_cancel]
  -- No number above zero fits under a power of ten that is one or less.
  have hfits : ∀ s, fits s = true → 1 ≤ s := by
    intro s h
    unfold fits at h
    rw [hnum, hden] at h
    by_contra hs
    split at h
    . obtain rfl : s = 0 := by omega
      rw [decide_eq_true_iff, Int.toNat_zero, tenPow_eq, Nat.pow_zero, Nat.mul_one] at h
      omega
    . rw [decide_eq_true_iff] at h
      have hten : 0 < tenPow (-s).toNat := Nat.pow_pos (by decide)
      have := Nat.le_mul_of_pos_right (n * 2 ^ k) hten
      omega
  have hsize : ∀ s : Int, 1 ≤ s → s ≤ guess + 2 →
      ∃ size : Nat, s = size ∧ 1 ≤ size ∧ size ≤ 20 := by
    intro s hone hs
    exact ⟨s.toNat, by omega, by omega, by omega⟩
  clear_value fits guess
  split
  . next h => exact hsize _ (hfits _ h) (by omega)
  split
  . next h => exact hsize _ (hfits _ h) (by omega)
  split
  . exact hsize _ (by omega) (by omega)
  . exact hsize _ (by omega) (by omega)

theorem shortest_whole (hn : n < 2 ^ 52) :
    ∃ q p : Nat, q * 10 ^ p = n ∧
      shortest (n * 2 ^ k) (-(k : Int)) = ⟨q, p + (Nat.toDigits 10 q).length⟩ := by
  have hmantissa : n * 2 ^ k ≠ 0 := Nat.ne_of_gt (Nat.mul_pos hpos (Nat.two_pow_pos k))
  obtain ⟨size, hsize, hone, htwenty⟩ := decimalSize_bounds hpos hk hn
  obtain ⟨place, hplace, hdigits⟩ :=
    shortestFrom_interval (k := k) hpos size 1 20 hone (by omega)
  obtain ⟨q, p, hstrip, hmul⟩ := stripZeros_mul
    (shortestFrom (interval (n * 2 ^ k) (-(k : Int))) size 1 20).digits place 20
  refine ⟨q, p, hmul.trans hdigits, ?_⟩
  unfold shortest
  rw [if_neg hmantissa, hsize]
  dsimp only
  rw [hplace, hstrip]

end

theorem toDigits_mul_pow {q : Nat} (hq : 0 < q) (p : Nat) :
    Nat.toDigits 10 (q * 10 ^ p) = Nat.toDigits 10 q ++ List.replicate p '0' := by
  induction p with
  | zero => simp
  | succ p ih =>
    have hpos : 0 < q * 10 ^ p := Nat.mul_pos hq (Nat.pow_pos (by decide))
    have happend := Nat.toDigits_append_toDigits (by decide) hpos (by decide : 0 < 10)
    rw [Nat.toDigits_zero, ih] at happend
    rw [List.replicate_succ', ← List.append_assoc, happend]
    congr 1
    ring

/-- A layout that writes numbers of up to sixteen digits without an exponent or a point. -/
structure Layout.IsPlain (l : Layout) : Prop where
  least : l.least ≤ 1
  most : 16 ≤ l.most
  keepsPoint : l.keepsPoint = false

theorem Layout.IsPlain.digits_eq {l : Layout} (h : l.IsPlain) {n q p : Nat}
    (hdigits : Nat.toDigits 10 n = Nat.toDigits 10 q ++ List.replicate p '0') (hn : n < 10 ^ 16) :
    l.digits ⟨q, p + (Nat.toDigits 10 q).length⟩ = String.ofList (Nat.toDigits 10 n) := by
  have hlength : (Nat.toDigits 10 q).length + p ≤ 16 := by
    rw [← Nat.length_toDigits_le_iff (by decide) (by decide), hdigits, List.length_append,
      List.length_replicate] at hn
    exact hn
  have hpos : 0 < (Nat.toDigits 10 q).length := List.length_pos_iff.2 Nat.toDigits_ne_nil
  have hleast := h.least
  have hmost := h.most
  unfold digits zeros
  dsimp only
  rw [String.length_ofList]
  rw [if_pos (by omega), if_neg (by omega), if_pos (by omega)]
  rw [h.keepsPoint, hdigits]
  rw [Int.add_sub_cancel, Int.toNat_natCast]
  simp

theorem Layout.IsPlain.text_ofInt {l : Layout} (h : l.IsPlain) {n : Nat} (hn : n < 2 ^ 52) :
    l.text (ofInt n) = String.ofList (Nat.toDigits 10 n) := by
  rcases Nat.eq_zero_or_pos n with rfl | hpos
  . rw [← h.digits_eq (q := 0) (p := 0) (List.append_nil _).symm (by decide)]
    exact String.empty_append
  . have hlog : n.log2 < 52 := (Nat.log2_lt (by omega)).2 hn
    obtain ⟨q, p, hmul, hshortest⟩ := shortest_whole (k := 52 - n.log2) hpos (by omega) hn
    have hq : 0 < q := by
      apply Nat.pos_of_ne_zero
      rintro rfl
      omega
    have hdigits := toDigits_mul_pow hq p
    rw [hmul] at hdigits
    rw [ofInt_natCast hpos hn]
    unfold text
    dsimp only
    rw [hshortest, h.digits_eq hdigits (by omega)]
    rfl

end HabitLens.Binary64
