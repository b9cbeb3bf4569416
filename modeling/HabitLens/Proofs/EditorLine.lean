import HabitLens.Proofs.Marks
import HabitLens.Proofs.Showing

/-!
Lines of the editor. The code is sent without the blanks around it, and with these go the blank
lines at its start. A number that the page shows belongs to the code as it was sent, so the line
that it stands for in the editor comes as many lines later as were left out.
-/

namespace HabitLens

namespace Text

section

variable {m : Char}

theorem splitAt_cons_self (m : Char) (cs : List Char) :
    splitAt m (m :: cs) = [] :: splitAt m cs := by
  rw [splitAt, if_pos rfl]

theorem splitAt_cons_of_ne {c : Char} {cs part : List Char} {parts : List (List Char)} (hc : c ≠ m)
    (h : splitAt m cs = part :: parts) : splitAt m (c :: cs) = (c :: part) :: parts := by
  rw [splitAt, if_neg hc, h]

theorem splitAt_append (m : Char) (a b : List Char) :
    ∃ init last first rest, splitAt m a = init ++ [last] ∧ init.length = a.count m ∧
      splitAt m b = first :: rest ∧ splitAt m (a ++ b) = init ++ (last ++ first) :: rest := by
  induction a with
  | nil =>
    obtain ⟨first, rest, hb⟩ := List.exists_cons_of_ne_nil (splitAt_ne_nil m b)
    exact ⟨[], [], first, rest, rfl, rfl, hb, hb⟩
  | cons c a ih =>
    obtain ⟨init, last, first, rest, ha, hlength, hb, hab⟩ := ih
    by_cases hc : c = m
    . subst hc
      refine ⟨[] :: init, last, first, rest, ?_, ?_, hb, ?_⟩
      . rw [splitAt_cons_self, ha]
        rfl
      . rw [List.count_cons_self, List.length_cons, hlength]
      . rw [List.cons_append, splitAt_cons_self, hab]
        rfl
    . rw [← List.count_cons_of_ne hc] at hlength
      -- The character goes to the first part, which is the last one as well if there is no other.
      cases init with
      | nil =>
        exact ⟨[], c :: last, first, rest, splitAt_cons_of_ne hc ha, hlength, hb,
          splitAt_cons_of_ne hc hab⟩
      | cons part init =>
        exact ⟨(c :: part) :: init, last, first, rest, splitAt_cons_of_ne hc ha, hlength, hb,
          splitAt_cons_of_ne hc hab⟩

theorem length_splitAt (cs : List Char) : (splitAt m cs).length = cs.count m + 1 := by
  obtain ⟨init, last, -, -, hcs, hlength, -, -⟩ := splitAt_append m cs []
  rw [hcs, List.length_append, hlength]
  rfl

theorem subset_of_mem_splitAt {cs part : List Char} (h : part ∈ splitAt m cs) : part ⊆ cs := by
  induction cs generalizing part with
  | nil =>
    rw [List.mem_singleton.1 h]
    exact List.nil_subset _
  | cons c cs ih =>
    by_cases hc : c = m
    . subst hc
      rw [splitAt_cons_self] at h
      rcases List.mem_cons.1 h with rfl | hpart
      . exact List.nil_subset _
      . exact List.subset_cons_of_subset c (ih hpart)
    . obtain ⟨first, rest, hcs⟩ := List.exists_cons_of_ne_nil (splitAt_ne_nil m cs)
      rw [hcs] at ih
      rw [splitAt_cons_of_ne hc hcs] at h
      rcases List.mem_cons.1 h with rfl | hpart
      . exact List.cons_subset_cons c (ih List.mem_cons_self)
      . exact List.subset_cons_of_subset c (ih (List.mem_cons_of_mem _ hpart))

variable {a b part : List Char} {k : Nat}

theorem getElem?_splitAt_append_left (b : List Char) (h : (splitAt m a)[k]? = some part) :
    ∃ back, (splitAt m (a ++ b))[k]? = some (part ++ back) ∧ back ⊆ b ∧
      (back ≠ [] → k = a.count m) := by
  obtain ⟨init, last, first, rest, ha, hlength, hb, hab⟩ := splitAt_append m a b
  rw [hab]
  rw [ha] at h
  by_cases hk : k < init.length
  . rw [List.getElem?_append_left hk] at h
    refine ⟨[], ?_, List.nil_subset b, fun hne => absurd rfl hne⟩
    rw [List.getElem?_append_left hk, h, List.append_nil]
  . rw [List.getElem?_append_right (Nat.le_of_not_lt hk), List.getElem?_singleton] at h
    split at h
    . next hlast =>
      cases h
      obtain rfl : k = init.length := by omega
      refine ⟨first, ?_, subset_of_mem_splitAt (m := m) (by rw [hb]; exact List.mem_cons_self),
        fun _ => hlength⟩
      rw [List.getElem?_append_right (Nat.le_refl _), hlast]
      rfl
    . cases h

theorem getElem?_splitAt_append_right (a : List Char) (h : (splitAt m b)[k]? = some part) :
    ∃ front, (splitAt m (a ++ b))[a.count m + k]? = some (front ++ part) ∧ front ⊆ a ∧
      (front ≠ [] → k = 0) := by
  obtain ⟨init, last, first, rest, ha, hlength, hb, hab⟩ := splitAt_append m a b
  rw [hab, ← hlength, List.getElem?_append_right (Nat.le_add_right _ _), Nat.add_sub_cancel_left]
  rw [hb] at h
  cases k with
  | zero =>
    cases h
    exact ⟨last, rfl, subset_of_mem_splitAt (m := m) (by simp [ha]), fun _ => rfl⟩
  | succ k => exact ⟨[], h, List.nil_subset a, fun hne => absurd rfl hne⟩

theorem subset_of_lt_count (h : (splitAt m (a ++ b))[k]? = some part) (hk : k < a.count m) :
    part ⊆ a := by
  obtain ⟨init, last, first, rest, ha, hlength, -, hab⟩ := splitAt_append m a b
  rw [hab, List.getElem?_append_left (by omega)] at h
  apply subset_of_mem_splitAt (m := m)
  rw [ha]
  exact List.mem_append_left _ (List.mem_of_getElem? h)

theorem subset_of_count_lt (h : (splitAt m (a ++ b))[k]? = some part) (hk : a.count m < k) :
    part ⊆ b := by
  obtain ⟨init, last, first, rest, -, hlength, hb, hab⟩ := splitAt_append m a b
  obtain ⟨j, rfl⟩ := Nat.exists_eq_add_of_lt hk
  rw [hab, List.getElem?_append_right (by omega), hlength, Nat.add_assoc, Nat.add_sub_cancel_left,
    List.getElem?_cons_succ] at h
  apply subset_of_mem_splitAt (m := m)
  rw [hb]
  exact List.mem_cons_of_mem _ (List.mem_of_getElem? h)

end

theorem hasText_of_subset {cs blanks : List Char} (h : cs ⊆ blanks)
    (hblanks : ∀ c ∈ blanks, isEditorBlank c = true) : hasText cs = false := by
  rw [hasText, List.all_eq_true.2 fun c hc => hblanks c (h hc)]
  rfl

theorem hasText_of_mem {cs : List Char} {c : Char} (h : c ∈ cs) (hc : isEditorBlank c = false) :
    hasText cs = true := by
  rw [hasText, List.all_eq_false.2 ⟨c, h, by rw [hc]; exact Bool.false_ne_true⟩]
  rfl

end Text

namespace Page

open Text

/-- Lines are counted from one. -/
def IsLine (s : String) (k : Nat) (line : List Char) : Prop :=
  ∃ i, k = i + 1 ∧ (splitAt '\n' s.toList)[i]? = some line

/-- A line of the editor was sent, up to blanks in front of the first text and behind the last. -/
def IsSentAs (editor : String) (k : Nat) (line sent : List Char) : Prop :=
  ∃ front back, line = front ++ sent ++ back ∧ hasText front = false ∧ hasText back = false ∧
    (front ≠ [] → ∀ j other, j < k → IsLine editor j other → hasText other = false) ∧
    (back ≠ [] → ∀ j other, k < j → IsLine editor j other → hasText other = false)

/-- The number of lines that end among the blanks at the start. -/
def lineShift (editor : String) : Nat :=
  (editor.toList.takeWhile isEditorBlank).count '\n'

/-- What is sent lies between blanks, and does not end in one. -/
structure Framed (editor : String) (before after : List Char) : Prop where
  eq : editor.toList = before ++ ((sentCode editor).toList ++ after)
  blank_before : ∀ c ∈ before, isEditorBlank c = true
  blank_after : ∀ c ∈ after, isEditorBlank c = true
  shift : before.count '\n' = lineShift editor
  last : ∃ init c, (sentCode editor).toList = init ++ [c] ∧ isEditorBlank c = false

theorem exists_framed {editor : String} (h : hasText editor.toList = true) :
    ∃ before after, Framed editor before after := by
  have hstrips := strips_trim isEditorBlank editor.toList
  obtain ⟨before, after, heq, hbefore, hafter⟩ := hstrips.blanks
  have hsent : (sentCode editor).toList = trim isEditorBlank editor.toList := String.toList_ofList
  have hne : trim isEditorBlank editor.toList ≠ [] := by
    rw [ne_eq, ← List.isEmpty_iff, isEmpty_trim]
    simpa [hasText] using h
  refine ⟨before, after, ?_, hbefore, hafter, ?_, ?_⟩
  . rw [hsent, ← List.append_assoc]
    exact heq
  . -- The blanks in front go as far as the code that is sent, which begins with none.
    obtain ⟨c, core, hcore⟩ := List.exists_cons_of_ne_nil hne
    have hc : isEditorBlank c = false := hstrips.head c (by rw [hcore]; rfl)
    unfold lineShift
    rw [heq, hcore, List.append_assoc, List.takeWhile_append_of_pos hbefore, List.cons_append,
      List.takeWhile_cons_of_neg (by rw [hc]; exact Bool.false_ne_true), List.append_nil]
  . obtain ⟨init, c, hcore⟩ := List.eq_nil_or_concat' _ |>.resolve_left hne
    refine ⟨init, c, hsent.trans hcore, hstrips.last c ?_⟩
    rw [hcore]
    simp

namespace Framed

variable {editor : String} {before after : List Char} (h : Framed editor before after)

include h

theorem hasText_of_lt {i : Nat} {line : List Char}
    (hline : (splitAt '\n' editor.toList)[i]? = some line) (hi : i < lineShift editor) :
    hasText line = false := by
  rw [h.eq] at hline
  rw [← h.shift] at hi
  exact hasText_of_subset (subset_of_lt_count hline hi) h.blank_before

theorem hasText_of_gt {i : Nat} {line : List Char}
    (hline : (splitAt '\n' editor.toList)[i]? = some line)
    (hi : lineShift editor + (sentCode editor).toList.count '\n' < i) :
    hasText line = false := by
  rw [h.eq, ← List.append_assoc] at hline
  rw [← h.shift, ← List.count_append] at hi
  exact hasText_of_subset (subset_of_count_lt hline hi) h.blank_after

theorem exists_line {i : Nat} {sent : List Char}
    (hsent : (splitAt '\n' (sentCode editor).toList)[i]? = some sent) :
    ∃ line, (splitAt '\n' editor.toList)[lineShift editor + i]? = some line ∧
      IsSentAs editor (lineShift editor + i + 1) line sent := by
  obtain ⟨back, hleft, hback, hend⟩ := getElem?_splitAt_append_left after hsent
  obtain ⟨front, hright, hfront, hstart⟩ := getElem?_splitAt_append_right before hleft
  rw [← h.eq, h.shift, ← List.append_assoc] at hright
  refine ⟨_, hright, front, back, rfl, hasText_of_subset hfront h.blank_before,
    hasText_of_subset hback h.blank_after, ?_, ?_⟩
  . rintro hne j other hj ⟨i', rfl, hother⟩
    have := hstart hne
    exact h.hasText_of_lt hother (by omega)
  . rintro hne j other hj ⟨i', rfl, hother⟩
    have := hend hne
    exact h.hasText_of_gt hother (by omega)

theorem exists_sent {i : Nat} {line : List Char}
    (hline : (splitAt '\n' editor.toList)[i]? = some line) (htext : hasText line = true) :
    ∃ j sent, i = lineShift editor + j ∧
      (splitAt '\n' (sentCode editor).toList)[j]? = some sent := by
  have hge : ¬i < lineShift editor := by
    intro hlt
    rw [h.hasText_of_lt hline hlt] at htext
    cases htext
  have hle : ¬lineShift editor + (sentCode editor).toList.count '\n' < i := by
    intro hgt
    rw [h.hasText_of_gt hline hgt] at htext
    cases htext
  obtain ⟨j, rfl⟩ := Nat.exists_eq_add_of_le (Nat.le_of_not_lt hge)
  have hlt : j < (splitAt '\n' (sentCode editor).toList).length := by
    rw [length_splitAt]
    omega
  exact ⟨j, _, rfl, List.getElem?_eq_getElem hlt⟩

theorem exists_last :
    ∃ line, (splitAt '\n' editor.toList)[lineShift editor
        + (sentCode editor).toList.count '\n']? = some line ∧ hasText line = true := by
  obtain ⟨init, c, hinit, hc⟩ := h.last
  have hne : c ≠ '\n' := by
    rintro rfl
    cases hc
  have hlast : (splitAt '\n' [c])[0]? = some [c] := by
    rw [splitAt_cons_of_ne hne rfl]
    rfl
  obtain ⟨front, hsent, -, -⟩ := getElem?_splitAt_append_right init hlast
  have hcount : (sentCode editor).toList.count '\n' = init.count '\n' := by
    rw [hinit, List.count_append, List.count_singleton]
    simp [hne]
  rw [← hinit, Nat.add_zero, ← hcount] at hsent
  obtain ⟨line, hline, start, back, hlineEq, -⟩ := h.exists_line hsent
  refine ⟨line, hline, hasText_of_mem (c := c) ?_ hc⟩
  rw [hlineEq]
  simp

end Framed

theorem Item.line_eq {item : Value} {n : Nat} (hpos : 0 < n) (hmax : n ≤ Results.maxIndex)
    (h : field item "line" = some (.int n)) :
    Item.line item = .ok [.label "div" "feedback-line" s!"Line {n}"] := by
  have hshown := (HasLine.shown (.inr ⟨n, hmax, .inl h⟩)).1
  have hpositive : (field item "line").isPositive = .ok true := by
    rw [h, Property.isPositive]
    simp [hpos]
  unfold Item.line
  rw [hpositive, hshown, lineNumber?, h]
  rfl

theorem requests_click {editor : String} (h : sentCode editor ≠ "") (reception : Reception) :
    (click editor reception).requests = [requestBody (sentCode editor)] := by
  have hempty : (sentCode editor).isEmpty = false := by simpa using h
  unfold click
  dsimp only
  rw [hempty]
  rfl

/-- The numbers of lines on the page are those of the code that is sent. A line of it comes from the
line of the editor with the same number exactly if the text in the editor begins on its first
line. -/
theorem click_shifts_lines {editor : String} (htext : hasText editor.toList = true)
    (reception : Reception) :
    (click editor reception).requests = [requestBody (sentCode editor)] ∧
    (∀ k line, IsLine editor k line → hasText line = true →
      ∃ n sent, k = n + lineShift editor ∧ IsLine (sentCode editor) n sent ∧
        IsSentAs editor k line sent) ∧
    (∀ item (n : Nat) sent, field item "line" = some (.int n) → n ≤ Results.maxIndex →
      IsLine (sentCode editor) n sent →
      Item.line item = .ok [.label "div" "feedback-line" s!"Line {n}"] ∧
      ∃ line, IsLine editor (n + lineShift editor) line ∧
        IsSentAs editor (n + lineShift editor) line sent) ∧
    ((∀ k line, IsLine editor k line → hasText line = true →
        ∃ sent, IsLine (sentCode editor) k sent ∧ IsSentAs editor k line sent)
      ↔ lineShift editor = 0) := by
  obtain ⟨before, after, h⟩ := exists_framed htext
  have hlines : ∀ k line, IsLine editor k line → hasText line = true →
      ∃ n sent, k = n + lineShift editor ∧ IsLine (sentCode editor) n sent ∧
        IsSentAs editor k line sent := by
    rintro k line ⟨i, rfl, hline⟩ hhas
    obtain ⟨j, sent, rfl, hsent⟩ := h.exists_sent hline hhas
    obtain ⟨line', hline', hsentAs⟩ := h.exists_line hsent
    rw [hline] at hline'
    cases hline'
    exact ⟨j + 1, sent, by omega, ⟨j, rfl, hsent⟩, hsentAs⟩
  refine ⟨?_, hlines, ?_, ?_, ?_⟩
  . obtain ⟨init, c, hinit, -⟩ := h.last
    apply requests_click
    intro hempty
    rw [hempty] at hinit
    exact List.append_ne_nil_of_right_ne_nil init (List.cons_ne_nil c []) hinit.symm
  . rintro item n sent hitem hmax ⟨i, rfl, hsent⟩
    obtain ⟨line, hline, hsentAs⟩ := h.exists_line hsent
    have hk : i + 1 + lineShift editor = lineShift editor + i + 1 := by omega
    rw [hk]
    exact ⟨Item.line_eq (Nat.succ_pos i) hmax hitem, line, ⟨_, rfl, hline⟩, hsentAs⟩
  . -- The last line with text is the last line that is sent, so there is none with its number.
    intro hsame
    obtain ⟨line, hline, hhas⟩ := h.exists_last
    obtain ⟨sent, ⟨i, hi, hsent⟩, -⟩ := hsame _ line ⟨_, rfl, hline⟩ hhas
    have hlt := (List.getElem?_eq_some_iff.1 hsent).1
    rw [length_splitAt] at hlt
    omega
  . intro hzero k line hline hhas
    obtain ⟨n, sent, hk, hsent, hsentAs⟩ := hlines k line hline hhas
    rw [hzero, Nat.add_zero] at hk
    rw [hk] at hsentAs ⊢
    exact ⟨sent, hsent, hsentAs⟩

/-- The third line of the editor is sent as the second one, without the blank behind it. -/
theorem click_shifts_third_line :
    let editor := "\n  a\n b \n"
    (click editor (.unreached "")).requests = [requestBody "a\n b"] ∧
    IsLine editor 3 " b ".toList ∧
    ∃ sent, IsLine "a\n b" 2 sent ∧ IsSentAs editor 3 " b ".toList sent := by
  intro editor
  have htext : hasText editor.toList = true := by decide
  have hshift : lineShift editor = 1 := by decide
  have hcode : sentCode editor = "a\n b" := by decide
  have hline : IsLine editor 3 " b ".toList := ⟨2, rfl, by decide⟩
  obtain ⟨hrequests, hlines, -, -⟩ := click_shifts_lines htext (.unreached "")
  obtain ⟨n, sent, hn, hsent, hsentAs⟩ := hlines 3 _ hline (by decide)
  rw [hshift] at hn
  obtain rfl : n = 2 := by omega
  rw [hcode] at hrequests hsent
  exact ⟨hrequests, hline, sent, hsent, hsentAs⟩

/-- The second line of the editor has text in it, but the code that is sent has one line. -/
theorem click_drops_first_line :
    (click "\nx = 1" (.unreached "")).requests = [requestBody "x = 1"] ∧
    IsLine "\nx = 1" 2 "x = 1".toList ∧ hasText "x = 1".toList = true ∧
    ¬∃ sent, IsLine "x = 1" 2 sent := by
  have hcode : sentCode "\nx = 1" = "x = 1" := by decide
  have hrequests := requests_click (by rw [hcode]; decide) (.unreached "")
  rw [hcode] at hrequests
  refine ⟨hrequests, ⟨1, rfl, by decide⟩, by decide, ?_⟩
  rintro ⟨sent, i, hi, hsent⟩
  obtain rfl : i = 1 := by omega
  cases hsent

end Page

end HabitLens
