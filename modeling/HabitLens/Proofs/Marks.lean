import Mathlib.Data.List.TakeWhile
import HabitLens.Text.Blank
import HabitLens.Text.Cut

/-!
Texts and the marks in them: where a text is cut, and what is left of it without the blanks at its
ends. A mark whose first character does not come back in it cannot overlap with itself, so that a
text is cut exactly at the mark behind any text without one.
-/

namespace HabitLens.Text

theorem isSome_cut?_iff {mark cs : List Char} : (cut? mark cs).isSome = true ↔ mark <:+: cs := by
  induction cs with
  | nil =>
    unfold cut?
    rw [List.infix_nil]
    cases mark <;> simp
  | cons c cs ih =>
    unfold cut?
    rw [List.infix_cons_iff, ← ih, ← List.isPrefixOf_iff_prefix]
    split
    . next hmark => simp [hmark]
    . next hmark => simp [hmark]

theorem occursIn_iff {part s : String} :
    occursIn part s = true ↔ part.toList <:+: s.toList :=
  isSome_cut?_iff

theorem cut?_eq_none_iff {mark cs : List Char} : cut? mark cs = none ↔ ¬mark <:+: cs := by
  rw [← isSome_cut?_iff]
  simp

theorem eq_of_cut? {mark cs before after : List Char} (h : cut? mark cs = some (before, after)) :
    cs = before ++ mark ++ after := by
  induction cs generalizing before with
  | nil =>
    unfold cut? at h
    split at h
    . next hmark =>
      cases h
      simpa using hmark
    . cases h
  | cons c cs ih =>
    unfold cut? at h
    split at h
    . next hmark =>
      cases h
      rw [List.nil_append]
      exact (List.prefix_iff_eq_append.1 (List.isPrefixOf_iff_prefix.1 hmark)).symm
    . obtain ⟨⟨before, after⟩, hcut, heq⟩ := Option.map_eq_some_iff.1 h
      cases heq
      rw [ih hcut]
      simp

theorem not_infix_of_cut? {mark cs before after : List Char} (hmark : mark ≠ [])
    (h : cut? mark cs = some (before, after)) : ¬mark <:+: before := by
  induction cs generalizing before with
  | nil =>
    unfold cut? at h
    split at h
    . cases h
      simpa using hmark
    . cases h
  | cons c cs ih =>
    have hcs := eq_of_cut? h
    unfold cut? at h
    split at h
    . cases h
      simpa using hmark
    . next hnot =>
      obtain ⟨⟨before, after⟩, hcut, heq⟩ := Option.map_eq_some_iff.1 h
      cases heq
      rw [List.infix_cons_iff]
      rintro (hstart | hinfix)
      . apply hnot
        rw [List.isPrefixOf_iff_prefix, hcs, List.append_assoc]
        exact hstart.trans (List.prefix_append _ _)
      . exact ih hcut hinfix

section

variable {m : Char} {ms : List Char} (hm : m ∉ ms)

include hm

theorem not_prefix_append {before : List Char} (hne : before ≠ []) (h : ¬m :: ms <:+: before)
    (after : List Char) : ¬m :: ms <+: before ++ (m :: ms ++ after) := by
  intro hstart
  rcases List.prefix_or_prefix_of_prefix hstart (List.prefix_append _ _) with hin | ⟨rest, hrest⟩
  . exact h hin.isInfix
  . cases before with
    | nil => contradiction
    | cons b before =>
      rw [← hrest, List.prefix_append_right_inj] at hstart
      cases rest with
      | nil =>
        rw [← hrest, List.append_nil] at h
        exact h List.infix_rfl
      | cons r rest =>
        -- The mark begins in `before` and goes on in the next one, so it meets its first character.
        rw [List.cons_append, List.cons_append, List.cons_prefix_cons] at hstart
        rw [List.cons_append, List.cons.injEq] at hrest
        apply hm
        rw [← hrest.2, ← hrest.1, ← hstart.1]
        simp

theorem cut?_append {before : List Char} (h : ¬m :: ms <:+: before) (after : List Char) :
    cut? (m :: ms) (before ++ (m :: ms ++ after)) = some (before, after) := by
  induction before with
  | nil =>
    have hstart : (m :: ms).isPrefixOf (m :: (ms ++ after)) = true := by
      rw [List.isPrefixOf_iff_prefix]
      apply List.prefix_append
    rw [List.nil_append, List.cons_append, cut?, if_pos hstart]
    simp
  | cons c before ih =>
    have hnot := not_prefix_append hm (List.cons_ne_nil c before) h after
    rw [← List.isPrefixOf_iff_prefix] at hnot
    rw [List.cons_append] at hnot ⊢
    rw [cut?, if_neg hnot]
    rw [List.infix_cons_iff, not_or] at h
    rw [ih h.2]
    rfl

end

/-- What is left of a text without the blanks at its ends. -/
structure Strips (blank : Char → Bool) (cs core : List Char) : Prop where
  blanks : ∃ before after, cs = before ++ core ++ after ∧
    (∀ c ∈ before, blank c = true) ∧ ∀ c ∈ after, blank c = true
  head : ∀ c ∈ core.head?, blank c = false
  last : ∀ c ∈ core.getLast?, blank c = false

theorem eq_false_of_mem_head?_dropWhile {blank : Char → Bool} {cs : List Char} {c : Char}
    (hc : c ∈ (cs.dropWhile blank).head?) : blank c = false := by
  have hnot := List.head?_dropWhile_not blank cs
  rw [hc] at hnot
  exact hnot

theorem strips_trim (blank : Char → Bool) (cs : List Char) : Strips blank cs (trim blank cs) := by
  -- First the blanks in front are dropped, then those behind.
  have hfront : cs.takeWhile blank ++ cs.dropWhile blank = cs := List.takeWhile_append_dropWhile
  have hback : trim blank cs ++ ((cs.dropWhile blank).reverse.takeWhile blank).reverse
      = cs.dropWhile blank := by
    unfold trim
    rw [← List.reverse_append, List.takeWhile_append_dropWhile, List.reverse_reverse]
  constructor
  . refine ⟨cs.takeWhile blank, ((cs.dropWhile blank).reverse.takeWhile blank).reverse, ?_, ?_, ?_⟩
    . rw [List.append_assoc, hback, hfront]
    . intro c hc
      exact List.mem_takeWhile_imp hc
    . intro c hc
      exact List.mem_takeWhile_imp (List.mem_reverse.1 hc)
  . intro c hc
    have hhead : c ∈ (cs.dropWhile blank).head? := by
      rw [← hback, List.head?_append, hc]
      rfl
    exact eq_false_of_mem_head?_dropWhile hhead
  . intro c hc
    unfold trim at hc
    rw [List.getLast?_reverse] at hc
    exact eq_false_of_mem_head?_dropWhile hc

def hasText (cs : List Char) : Bool :=
  !cs.all isEditorBlank

theorem isEmpty_trim (blank : Char → Bool) (cs : List Char) :
    (trim blank cs).isEmpty = cs.all blank := by
  have hstrips := strips_trim blank cs
  obtain ⟨before, after, hcs, hbefore, hafter⟩ := hstrips.blanks
  rw [Bool.eq_iff_iff, List.isEmpty_iff, List.all_eq_true]
  constructor
  . intro hnil c hc
    rw [hcs, hnil, List.append_nil, List.mem_append] at hc
    exact hc.elim (hbefore c) (hafter c)
  . intro hall
    cases htrim : trim blank cs with
    | nil => rfl
    | cons c core =>
      have hfalse : blank c = false := hstrips.head c (by rw [htrim]; rfl)
      have htrue : blank c = true := hall c (by rw [hcs, htrim]; simp)
      rw [hfalse] at htrue
      cases htrue

theorem splitAt_ne_nil (mark : Char) (cs : List Char) : splitAt mark cs ≠ [] := by
  fun_induction splitAt mark cs <;> simp

theorem lines_ne_nil (s : String) : lines s ≠ [] := by
  unfold lines
  rw [ne_eq, List.map_eq_nil_iff]
  apply splitAt_ne_nil

end HabitLens.Text
