import HabitLens.Page.Item
import HabitLens.Proofs.Marks
import Mathlib.Data.List.Flatten
import Mathlib.Data.List.Forall2

/-!
Fixes with blocks of code. A fix is cut at the fences in it, and the page shows the text before the
first block as a whole and the first two segments of each block, so that segments behind a second
plain fence are lost.
-/

namespace HabitLens

namespace Text

/-- A text is cut at the occurrences of a mark, found from left to right. -/
inductive Cuts (mark : List Char) : List Char → List (List Char) → Prop where
  | whole {cs : List Char} (h : ¬mark <:+: cs) : Cuts mark cs [cs]
  | part {before after : List Char} {parts : List (List Char)}
      (hfirst : ∀ start, start ++ mark <+: before ++ mark ++ after → before.length ≤ start.length)
      (h : Cuts mark after parts) : Cuts mark (before ++ mark ++ after) (before :: parts)

theorem Cuts.ne_nil {mark cs : List Char} {parts : List (List Char)} (h : Cuts mark cs parts) :
    parts ≠ [] := by
  cases h with
  | whole => apply List.cons_ne_nil
  | part => apply List.cons_ne_nil

theorem length_le_of_cut? {mark cs before after start : List Char}
    (h : cut? mark cs = some (before, after)) (hstart : start ++ mark <+: cs) :
    before.length ≤ start.length := by
  induction cs generalizing before start with
  | nil =>
    unfold cut? at h
    split at h
    . cases h
      apply Nat.zero_le
    . cases h
  | cons c cs ih =>
    unfold cut? at h
    split at h
    . cases h
      apply Nat.zero_le
    . next hnot =>
      obtain ⟨⟨before, after⟩, hcut, heq⟩ := Option.map_eq_some_iff.1 h
      cases heq
      cases start with
      | nil => exact absurd (List.isPrefixOf_iff_prefix.2 hstart) hnot
      | cons d start =>
        rw [List.cons_append, List.cons_prefix_cons] at hstart
        have := ih hcut hstart.2
        simp only [List.length_cons]
        omega

theorem cuts_of_cut? {mark cs before after : List Char} {parts : List (List Char)}
    (h : cut? mark cs = some (before, after)) (hafter : Cuts mark after parts) :
    Cuts mark cs (before :: parts) := by
  have hcs := eq_of_cut? h
  rw [hcs] at h ⊢
  exact .part (fun start hstart => length_le_of_cut? h hstart) hafter

section

variable {mark : List Char} (hm : mark ≠ [])

include hm

theorem pieces_of_cut? {cs before after : List Char} (h : cut? mark cs = some (before, after)) :
    pieces mark cs = before :: pieces mark after := by
  rw [pieces, dif_neg hm]
  split
  . next hnone =>
    rw [h] at hnone
    cases hnone
  . next hsome =>
    rw [h] at hsome
    cases hsome
    rfl

theorem pieces_of_unmarked {cs : List Char} (h : ¬mark <:+: cs) : pieces mark cs = [cs] := by
  rw [pieces, dif_neg hm]
  split
  . rfl
  . next hsome =>
    rw [cut?_eq_none_iff.2 h] at hsome
    cases hsome

theorem cuts_pieces (cs : List Char) : Cuts mark cs (pieces mark cs) := by
  cases hcut : cut? mark cs with
  | none =>
    rw [cut?_eq_none_iff] at hcut
    rw [pieces_of_unmarked hm hcut]
    exact .whole hcut
  | some parts =>
    obtain ⟨before, after⟩ := parts
    rw [pieces_of_cut? hm hcut]
    exact cuts_of_cut? hcut (cuts_pieces after)
termination_by cs.length
decreasing_by
  have := length_of_cut? hcut
  have := List.length_pos_iff.2 hm
  omega

theorem Cuts.eq_pieces {cs : List Char} {parts : List (List Char)} (h : Cuts mark cs parts) :
    parts = pieces mark cs := by
  induction h with
  | whole h => rw [pieces_of_unmarked hm h]
  | @part before after parts hfirst _ ih =>
    have hmark : mark <:+: before ++ mark ++ after := ⟨before, after, rfl⟩
    obtain ⟨⟨start, rest⟩, hcut⟩ := Option.isSome_iff_exists.1 (isSome_cut?_iff.2 hmark)
    have heq := eq_of_cut? hcut
    -- Neither of the two marks comes before the other one.
    have hle := length_le_of_cut? hcut ⟨after, rfl⟩
    have hge := hfirst start ⟨rest, heq.symm⟩
    rw [List.append_assoc, List.append_assoc] at heq
    obtain ⟨rfl, hrest⟩ := List.append_inj heq (by omega)
    rw [List.append_cancel_left_eq] at hrest
    rw [pieces_of_cut? hm hcut, ih, hrest]

theorem Cuts.unmarked {cs : List Char} {parts : List (List Char)} (h : Cuts mark cs parts) :
    ∀ part ∈ parts, ¬mark <:+: part := by
  induction h with
  | whole h => exact List.forall_mem_singleton.2 h
  | @part before after parts hfirst _ ih =>
    refine List.forall_mem_cons.2 ⟨?_, ih⟩
    -- A mark in the first part would come before the one that ends it.
    rintro ⟨start, rest, hbefore⟩
    have hle := hfirst start ⟨rest ++ mark ++ after, by rw [← hbefore]; simp⟩
    have := List.length_pos_iff.2 hm
    rw [← hbefore] at hle
    simp only [List.length_append] at hle
    omega

end

end Text

namespace Page.Fix

open Text

/-- The texts that are segments with text in them are, in order, one for each such segment. -/
def PresentsEach (segments texts : List (List Char)) : Prop :=
  texts.filter (fun text => hasText text && segments.contains text) = segments.filter hasText

/-- A fix is cut at its fences: `before` is what stands in front of the first block, `opening` has
the segments of that, and `blocks` those of each block. -/
structure Outline (s before : List Char) (opening : List (List Char))
    (blocks : List (List (List Char))) : Prop where
  parts : ∃ parts, Cuts codeFence.toList s (before :: parts) ∧
    List.Forall₂ (Cuts fence.toList) parts blocks
  opening : Cuts fence.toList before opening

/-- A text is the content of an element for code, or of one for text. -/
def Presents (cs : List Char) (element : Markup) : Prop :=
  element = .node "pre" ""
    [.element "code" "language-python" "" true (Markup.content (String.ofList cs))] ∨
  element = .node "div" "" (Markup.content (String.ofList cs))

theorem content_inj {s t : String} (h : Markup.content s = Markup.content t) : s = t := by
  unfold Markup.content at h
  split at h
  . next hs =>
    split at h
    . next ht => rw [String.isEmpty_iff.1 hs, String.isEmpty_iff.1 ht]
    . cases h
  . split at h
    . cases h
    . cases h
      rfl

theorem Presents.unique {cs ds : List Char} {element : Markup} (hcs : Presents cs element)
    (hds : Presents ds element) : cs = ds := by
  have hcontent : Markup.content (String.ofList cs) = Markup.content (String.ofList ds) := by
    rcases hcs with rfl | rfl
    . rcases hds with hds | hds
      . simpa [Markup.node] using hds
      . simp [Markup.node] at hds
    . rcases hds with hds | hds
      . simp [Markup.node] at hds
      . simpa [Markup.node] using hds
  exact String.ofList_injective (content_inj hcontent)

theorem not_presents_of_not_mem {texts : List (List Char)} {content : List Markup}
    (h : List.Forall₂ Presents texts content) {cs : List Char} (hcs : cs ∉ texts) :
    ∀ element ∈ content, ¬Presents cs element := by
  induction h with
  | nil => exact List.forall_mem_nil _
  | cons hpresents _ ih =>
    rw [List.mem_cons, not_or] at hcs
    exact List.forall_mem_cons.2 ⟨fun h => hcs.1 (h.unique hpresents), ih hcs.2⟩

def shownOf : List (List Char) → List (List Char)
  | body :: after :: _ => if hasText after then [body, after] else [body]
  | segments => segments

theorem shownOf_sublist (block : List (List Char)) : (shownOf block).Sublist block := by
  unfold shownOf
  split
  . split
    . exact List.prefix_append [_, _] _ |>.sublist
    . exact List.prefix_append [_] _ |>.sublist
  . exact .refl _

theorem filter_shownOf (block : List (List Char)) :
    (shownOf block).filter hasText = (block.take 2).filter hasText := by
  unfold shownOf
  split
  . next body after rest =>
    cases hafter : hasText after <;> simp [List.filter_cons, hafter]
  . next hshort =>
    cases block with
    | nil => rfl
    | cons body block =>
      cases block with
      | nil => rfl
      | cons after block => exact absurd rfl (hshort body after block)

theorem presents_block (part : List Char) :
    List.Forall₂ Presents (shownOf (pieces fence.toList part)) (block part) := by
  unfold block
  split
  . next hpieces =>
    rw [hpieces]
    exact .nil
  . next body hpieces =>
    rw [hpieces]
    exact .cons (.inl rfl) .nil
  . next body after rest hpieces =>
    rw [hpieces, isEmpty_trim, shownOf, hasText]
    cases after.all isEditorBlank with
    | false =>
      rw [Bool.not_false, if_pos rfl, if_neg Bool.false_ne_true]
      exact .cons (.inl rfl) (.cons (.inr rfl) .nil)
    | true =>
      rw [Bool.not_true, if_neg Bool.false_ne_true, if_pos rfl]
      exact .cons (.inl rfl) .nil

theorem append_eq_iff_of_sublist {α : Type} {front xs ys : List α} (h : xs.Sublist ys) :
    xs = front ++ ys ↔ front = [] ∧ xs = ys := by
  constructor
  . intro heq
    have hle := h.length_le
    rw [heq, List.length_append] at hle
    have hfront : front = [] := List.length_eq_zero_iff.1 (by omega)
    rw [hfront, List.nil_append] at heq
    exact ⟨hfront, heq⟩
  . rintro ⟨rfl, rfl⟩
    rfl

theorem shown_sublist (blocks : List (List (List Char))) :
    (blocks.flatMap shownOf).Sublist blocks.flatten := by
  rw [← List.flatMap_id]
  exact List.Sublist.flatMap_right blocks fun block _ => shownOf_sublist block

theorem filter_shown (blocks : List (List (List Char))) :
    (blocks.flatMap shownOf).filter hasText
      = (blocks.flatMap fun block => block.take 2).filter hasText := by
  induction blocks with
  | nil => rfl
  | cons block blocks ih =>
    rw [List.flatMap_cons, List.flatMap_cons, List.filter_append, List.filter_append, ih,
      filter_shownOf]

theorem filter_shown_eq_iff (blocks : List (List (List Char))) :
    (blocks.flatMap shownOf).filter hasText = blocks.flatten.filter hasText
      ↔ ∀ block ∈ blocks, ∀ segment ∈ block.drop 2, hasText segment = false := by
  induction blocks with
  | nil => simp
  | cons block blocks ih =>
    have hblock : block.filter hasText
        = (block.take 2).filter hasText ++ (block.drop 2).filter hasText := by
      rw [← List.filter_append, List.take_append_drop]
    rw [List.flatMap_cons, List.flatten_cons, List.filter_append, List.filter_append,
      filter_shownOf, hblock, List.append_assoc, List.append_cancel_left_eq,
      append_eq_iff_of_sublist ((shown_sublist blocks).filter hasText), ih, List.forall_mem_cons,
      List.filter_eq_nil_iff]
    simp only [Bool.not_eq_true]

theorem codeFence_ne_nil : codeFence.toList ≠ [] := by
  decide

theorem fence_ne_nil : fence.toList ≠ [] := by
  decide

section

variable {s : String} {before : List Char} {opening : List (List Char)}
  {blocks : List (List (List Char))}

theorem Outline.exists_pieces (h : Outline s.toList before opening blocks) :
    ∃ parts, pieces codeFence.toList s.toList = before :: parts ∧
      opening = pieces fence.toList before ∧ blocks = parts.map (pieces fence.toList) := by
  obtain ⟨parts, hcuts, hblocks⟩ := h.parts
  refine ⟨parts, (hcuts.eq_pieces codeFence_ne_nil).symm, h.opening.eq_pieces fence_ne_nil, ?_⟩
  rw [← List.forall₂_eq_eq_eq, List.forall₂_map_right_iff]
  exact hblocks.flip.imp fun block part hblock => hblock.eq_pieces fence_ne_nil

theorem exists_outline (s : String) :
    ∃ before opening blocks, Outline s.toList before opening blocks := by
  have hcuts := cuts_pieces codeFence_ne_nil s.toList
  cases hpieces : pieces codeFence.toList s.toList with
  | nil => exact absurd hpieces hcuts.ne_nil
  | cons before parts =>
    rw [hpieces] at hcuts
    refine ⟨before, pieces fence.toList before, parts.map (pieces fence.toList),
      ⟨parts, hcuts, ?_⟩, cuts_pieces fence_ne_nil before⟩
    rw [List.forall₂_map_right_iff, List.forall₂_same]
    exact fun part _ => cuts_pieces fence_ne_nil part

theorem Outline.unique {before' : List Char} {opening' : List (List Char)}
    {blocks' : List (List (List Char))} (h : Outline s.toList before opening blocks)
    (h' : Outline s.toList before' opening' blocks') :
    before = before' ∧ opening = opening' ∧ blocks = blocks' := by
  obtain ⟨parts, hpieces, rfl, rfl⟩ := h.exists_pieces
  obtain ⟨parts', hpieces', rfl, rfl⟩ := h'.exists_pieces
  rw [hpieces] at hpieces'
  cases hpieces'
  exact ⟨rfl, rfl, rfl⟩

theorem Outline.unfenced (h : Outline s.toList before opening blocks) {segment : List Char}
    (hsegment : segment ∈ opening ++ blocks.flatten) : ¬fence.toList <:+: segment := by
  obtain ⟨parts, -, rfl, rfl⟩ := h.exists_pieces
  have hpieces (cs : List Char) := (cuts_pieces fence_ne_nil cs).unmarked fence_ne_nil segment
  rcases List.mem_append.1 hsegment with hopening | hflatten
  . exact hpieces before hopening
  . obtain ⟨block, hblock, hin⟩ := List.mem_flatten.1 hflatten
    obtain ⟨part, -, rfl⟩ := List.mem_map.1 hblock
    exact hpieces part hin

theorem filter_of_subset {segments texts : List (List Char)} (h : texts ⊆ segments) :
    texts.filter (fun text => hasText text && segments.contains text) = texts.filter hasText := by
  apply List.filter_congr
  intro text htext
  rw [List.contains_iff_mem.2 (h htext), Bool.and_true]

theorem Outline.presentsEach_iff (h : Outline s.toList before opening blocks) :
    PresentsEach (opening ++ blocks.flatten) (before :: blocks.flatMap shownOf)
      ↔ (fence.toList <:+: before → ∀ segment ∈ opening, hasText segment = false) ∧
        ∀ block ∈ blocks, ∀ segment ∈ block.drop 2, hasText segment = false := by
  have hshown := shown_sublist blocks
  unfold PresentsEach
  rw [← filter_shown_eq_iff, List.filter_append]
  by_cases hfence : fence.toList <:+: before
  . -- The text in front is shown with the fences in it, and is none of the segments.
    have hbefore : ¬before ∈ opening ++ blocks.flatten := fun hin => h.unfenced hin hfence
    rw [List.filter_cons_of_neg (by simp [hbefore]),
      filter_of_subset (List.subset_append_of_subset_right _ hshown.subset),
      append_eq_iff_of_sublist (hshown.filter hasText), List.filter_eq_nil_iff]
    simp only [hfence, forall_const, Bool.not_eq_true]
  . have hopening : opening = [before] :=
      (h.opening.eq_pieces fence_ne_nil).trans (pieces_of_unmarked fence_ne_nil hfence)
    rw [hopening, List.singleton_append,
      filter_of_subset (List.cons_subset_cons before hshown.subset), ← List.singleton_append,
      List.filter_append, List.append_cancel_left_eq]
    simp only [hfence, false_imp_iff, true_and]

theorem Outline.presents_ofText (h : Outline s.toList before opening blocks)
    (hcode : codeFence.toList <:+: s.toList) :
    List.Forall₂ Presents (before :: blocks.flatMap shownOf) (ofText s) := by
  obtain ⟨parts, hpieces, -, rfl⟩ := h.exists_pieces
  unfold ofText
  rw [if_pos (occursIn_iff.2 hcode), hpieces, List.flatMap_map]
  refine .cons (.inr rfl) (List.rel_flatMap (R := Eq) (List.forall₂_refl parts) ?_)
  rintro part - rfl
  exact presents_block part

end

end Page.Fix

namespace Page.Item

open Text HabitLens.Page.Fix

theorem filter_truthy_str {s : String} (h : s ≠ "") :
    ((some (.str s) : Property).filter fun v => Property.truthy (some v)) = some (.str s) := by
  simp [Property.truthy, h]

/-- A fix is shown up to the segments behind the second one of each block, and with the fences in
front of the first block. So each segment with text in it is shown once, in order, exactly if none
stands behind a second one, and no fence in front of the first block has text around it. -/
theorem help_presents_segments {item : Value} {explanation s : String}
    (hexplanation : field item "explanation" = some (.str explanation)) (hne : explanation ≠ "")
    (hfix : field item "fix" = some (.str s)) (hcode : codeFence.toList <:+: s.toList) :
    ∃ (before : List Char) (opening : List (List Char)) (blocks : List (List (List Char)))
      (content : List Markup) (shown : List (List Char)),
      Outline s.toList before opening blocks ∧
      help item = .ok [.node "div" "ai-help"
        [.node "div" "explanation" [.label "div" "explanation-header" "Explanation:",
          .label "div" "explanation-content" explanation],
         .node "div" "fix"
          [.label "div" "fix-header" "Fix:", .node "div" "fix-content" content]]] ∧
      List.Forall₂ Presents (before :: shown) content ∧
      shown.filter hasText = (blocks.flatMap fun block => block.take 2).filter hasText ∧
      (PresentsEach (opening ++ blocks.flatten) (before :: shown)
        ↔ (fence.toList <:+: before → ∀ segment ∈ opening, hasText segment = false) ∧
          ∀ block ∈ blocks, ∀ segment ∈ block.drop 2, hasText segment = false) := by
  have hs : s ≠ "" := by
    rintro rfl
    rw [String.toList_empty, List.infix_nil] at hcode
    cases hcode
  obtain ⟨before, opening, blocks, houtline⟩ := exists_outline s
  refine ⟨before, opening, blocks, ofText s, blocks.flatMap shownOf, houtline, ?_,
    houtline.presents_ofText hcode, filter_shown blocks, houtline.presentsEach_iff⟩
  unfold help
  rw [hexplanation, filter_truthy_str hne]
  dsimp only
  unfold explained fix
  rw [hfix, filter_truthy_str hs]
  rfl

def twoBlocks : Value :=
  .dict [("explanation", .str "e"), ("fix", .str "a```python\nx```b```python\ny```")]

/-- The two blocks are shown in full. -/
theorem help_presents_twoBlocks :
    ∃ (content : List Markup) (shown : List (List Char)),
      help twoBlocks = .ok [.node "div" "ai-help"
        [.node "div" "explanation" [.label "div" "explanation-header" "Explanation:",
          .label "div" "explanation-content" "e"],
         .node "div" "fix"
          [.label "div" "fix-header" "Fix:", .node "div" "fix-content" content]]] ∧
      List.Forall₂ Presents ("a".toList :: shown) content ∧
      PresentsEach (["a", "\nx", "b", "\ny", ""].map String.toList) ("a".toList :: shown) := by
  have hexplanation : field twoBlocks "explanation" = some (.str "e") := rfl
  have hfix : field twoBlocks "fix" = some (.str "a```python\nx```b```python\ny```") := rfl
  have hcode : codeFence.toList <:+: "a```python\nx```b```python\ny```".toList :=
    occursIn_iff.1 (by decide)
  have houtline : Outline "a```python\nx```b```python\ny```".toList "a".toList ["a".toList]
      [["\nx".toList, "b".toList], ["\ny".toList, "".toList]] := by
    refine ⟨⟨["\nx```b".toList, "\ny```".toList], ?_, .cons ?_ (.cons ?_ .nil)⟩, ?_⟩
    . exact cuts_of_cut? rfl (cuts_of_cut? rfl (.whole (cut?_eq_none_iff.1 rfl)))
    . exact cuts_of_cut? rfl (.whole (cut?_eq_none_iff.1 rfl))
    . exact cuts_of_cut? rfl (.whole (cut?_eq_none_iff.1 rfl))
    . exact .whole (cut?_eq_none_iff.1 rfl)
  obtain ⟨before, opening, blocks, content, shown, h, hhelp, hpresents, -, heach⟩ :=
    help_presents_segments hexplanation (by decide) hfix hcode
  obtain ⟨rfl, rfl, rfl⟩ := h.unique houtline
  exact ⟨content, shown, hhelp, hpresents, heach.2 (by decide)⟩

/-- The text behind the second plain fence of a block is a segment that is shown nowhere. -/
theorem help_drops_segment :
    let item : Value :=
      .dict [("explanation", .str "e"), ("fix", .str "a```python\nx```b```c")]
    Outline "a```python\nx```b```c".toList "a".toList ["a".toList]
      [["\nx".toList, "b".toList, "c".toList]] ∧
    ∃ (explained : Markup) (content : List Markup),
      help item = .ok [.node "div" "ai-help" [explained, .node "div" "fix"
        [.label "div" "fix-header" "Fix:", .node "div" "fix-content" content]]] ∧
      hasText "c".toList = true ∧ ∀ element ∈ content, ¬Presents "c".toList element := by
  have houtline : Outline "a```python\nx```b```c".toList "a".toList ["a".toList]
      [["\nx".toList, "b".toList, "c".toList]] := by
    refine ⟨⟨["\nx```b```c".toList], ?_, .cons ?_ .nil⟩, ?_⟩
    . exact cuts_of_cut? rfl (.whole (cut?_eq_none_iff.1 rfl))
    . exact cuts_of_cut? rfl (cuts_of_cut? rfl (.whole (cut?_eq_none_iff.1 rfl)))
    . exact .whole (cut?_eq_none_iff.1 rfl)
  have hpresents := houtline.presents_ofText (occursIn_iff.1 (by decide))
  exact ⟨houtline, _, _, rfl, by decide, not_presents_of_not_mem hpresents (by decide)⟩

end Page.Item

end HabitLens
