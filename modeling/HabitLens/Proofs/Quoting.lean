import HabitLens.Data.Json
import HabitLens.Proofs.Digits

/-!
Texts between quotes. What is written for a text is read back, whatever stands behind it, and so
tells where the text ends.
-/

namespace HabitLens.Json

open Text

theorem fourHex_hexText {n : Nat} (h : n < 0x10000) (rest : List Char) :
    fourHex (hexText 4 n ++ rest) = some (n, rest) := by
  have hlength := length_hexText h
  have hall : (hexText 4 n).all Text.isHexDigit = true := by
    rw [List.all_eq_true]
    intro c hc
    exact isHexDigit_of_mem_hexText hc
  have hvalue : natOf 16 (hexText 4 n) = n :=
    (natOf_replicate_zero _ _ _).trans (natOf_toDigits (by decide) (by decide) n)
  unfold fourHex
  rw [List.take_left' hlength, List.drop_left' hlength]
  dsimp only
  rw [hlength, hall, hvalue]
  rfl

theorem unicodeEscape_code {c : Char} (h : c.toNat < 0x10000) (rest : List Char) :
    unicodeEscape (hexText 4 c.toNat ++ rest) = .ok (c.toNat, rest) := by
  have hvalid : c.toNat < 0xd800 ∨ 0xdfff < c.toNat ∧ c.toNat < 0x110000 := c.valid
  have hhalf : isHighHalf c.toNat = false := by
    rw [isHighHalf, Bool.and_eq_false_iff, decide_eq_false_iff_not, decide_eq_false_iff_not]
    omega
  unfold unicodeEscape
  rw [fourHex_hexText h]
  dsimp only
  rw [hhalf]
  rfl

theorem unicodeEscape_halves {high low : Nat} (hhigh : 0xD800 ≤ high ∧ high < 0xDC00)
    (hlow : 0xDC00 ≤ low ∧ low < 0xE000) (rest : List Char) :
    unicodeEscape (hexText 4 high ++ (escapeCode low ++ rest))
      =
    .ok (joinHalves high low, rest) := by
  have hfour := fourHex_hexText (by omega : low < 0x10000) rest
  unfold unicodeEscape
  rw [fourHex_hexText (by omega), escapeCode, List.cons_append, List.cons_append]
  simp only [hfour]
  rw [if_pos (by simpa [isHighHalf] using hhigh), if_pos (by simpa [isLowHalf] using hlow)]

theorem joinHalves_code {code : Nat} (h : 0x10000 ≤ code) :
    joinHalves (0xD800 + (code - 0x10000) / 0x400) (0xDC00 + (code - 0x10000) % 0x400) = code := by
  unfold joinHalves
  omega

theorem readText_plain {c : Char} (hquote : c ≠ '"') (hmark : c ≠ '\\') (hcode : ¬c.toNat < 0x20)
    (taken : List Nat) (rest : List Char) (fuel : Nat) :
    readText taken (c :: rest) (fuel + 1) = readText (c.toNat :: taken) rest fuel := by
  have hblank : ¬c < ' ' := hcode
  simp [readText, hmark, hblank]

theorem readText_writtenChar (charset : Charset) (c : Char) (taken : List Nat) (rest : List Char)
    (fuel : Nat) :
    readText taken (writtenChar charset c ++ rest) (fuel + 1)
      =
    readText (c.toNat :: taken) rest fuel := by
  have hescape (h : c.toNat < 0x10000) :
      readText taken (escapeCode c.toNat ++ rest) (fuel + 1)
        =
      readText (c.toNat :: taken) rest fuel := by
    rw [escapeCode, List.cons_append, List.cons_append, readText, unicodeEscape_code h]
  unfold writtenChar
  split
  -- Letters that stand for a character are read in one step.
  all_goals try rfl
  next hquote hmark _ _ _ _ _ =>
  dsimp only
  split
  . next hcode => exact hescape (by omega)
  . next hcode =>
    cases charset with
    | unicode => exact readText_plain hquote hmark hcode taken rest fuel
    | ascii =>
      dsimp only
      split
      . exact readText_plain hquote hmark hcode taken rest fuel
      split
      . next hplane => exact hescape hplane
      . next hplane =>
        have hvalid : c.toNat < 0xd800 ∨ 0xdfff < c.toNat ∧ c.toNat < 0x110000 := c.valid
        rw [List.append_assoc, escapeCode, List.cons_append, List.cons_append, readText]
        rw [unicodeEscape_halves (by omega) (by omega), joinHalves_code (by omega)]

theorem readText_written (charset : Charset) (cs : List Char) (taken : List Nat) (rest : List Char)
    {fuel : Nat} (h : cs.length < fuel) :
    readText taken (cs.flatMap (writtenChar charset) ++ '"' :: rest) fuel
      =
    .ok (taken.reverse ++ cs.map Char.toNat, rest) := by
  induction cs generalizing taken fuel with
  | nil =>
    obtain ⟨fuel, rfl⟩ := Nat.exists_eq_add_one_of_ne_zero (Nat.ne_of_gt h)
    rw [List.map_nil, List.append_nil]
    rfl
  | cons c cs ih =>
    obtain ⟨fuel, rfl⟩ := Nat.exists_eq_add_one_of_ne_zero (Nat.ne_of_gt (Nat.zero_lt_of_lt h))
    rw [List.flatMap_cons, List.append_assoc, readText_writtenChar]
    rw [ih _ (Nat.lt_of_succ_lt_succ h)]
    simp

/-- Texts and what stands behind them can be told from what is written. -/
theorem writeText_append_inj {charset : Charset} {s s' : String} {rest rest' : List Char}
    (h : (writeText charset s).toList ++ rest = (writeText charset s').toList ++ rest') :
    s = s' ∧ rest = rest' := by
  have hread (t : String) (after : List Char) (fuel : Nat) (hfuel : t.toList.length < fuel) :
      readText [] ((writeText charset t).toList ++ after).tail fuel
        =
      .ok (t.toList.map Char.toNat, after) := by
    have hwritten := readText_written charset t.toList [] after hfuel
    rw [List.reverse_nil, List.nil_append] at hwritten
    rw [← hwritten, writeText, String.toList_ofList]
    simp
  have hs := hread s rest (s.toList.length + s'.toList.length + 1) (by omega)
  have hs' := hread s' rest' (s.toList.length + s'.toList.length + 1) (by omega)
  rw [h, hs'] at hs
  obtain ⟨hcodes, rfl⟩ := Prod.mk.inj (Except.ok.inj hs)
  have hchars := (List.map_inj_right fun _ _ => Char.toNat_inj.1).1 hcodes
  exact ⟨(String.toList_inj.1 hchars).symm, rfl⟩

end HabitLens.Json
