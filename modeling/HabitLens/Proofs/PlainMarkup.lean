import HabitLens.Page.Item
import HabitLens.Proofs.Outcome
import Mathlib.Data.List.Basic

/-!
Plain elements: whatever an item says is shown by elements that are given no markup.
-/

namespace HabitLens

open Outcome

namespace Page

namespace Markup

def plainTags : List String :=
  ["div", "span", "pre", "code"]

/-- Texts, and elements of a known kind that are given no markup. -/
inductive IsPlain : Markup → Prop where
  | text (s : String) : IsPlain (.text s)
  | element {tag style : String} {highlighted : Bool} {children : List Markup}
      (htag : tag ∈ plainTags) (hchildren : ∀ m ∈ children, IsPlain m) :
      IsPlain (.element tag style "" highlighted children)

theorem isPlain_of_mem_content {s : String} {m : Markup} (h : m ∈ content s) : m.IsPlain := by
  unfold content at h
  split at h
  . cases h
  . rw [List.mem_singleton.1 h]
    exact .text s

theorem IsPlain.label {tag style s : String} (htag : tag ∈ plainTags) :
    (Markup.label tag style s).IsPlain :=
  .element htag fun _ hm => isPlain_of_mem_content hm

theorem givensAll_eq_nil {ms : List Markup} (h : ∀ m ∈ ms, m.givens = []) : givensAll ms = [] := by
  induction ms with
  | nil => rfl
  | cons m ms ih =>
    rw [List.forall_mem_cons] at h
    unfold givensAll
    rw [h.1, ih h.2]
    rfl

theorem IsPlain.givens_eq {m : Markup} (h : m.IsPlain) : m.givens = [] := by
  induction h with
  | text s => rfl
  | element htag hchildren ih =>
    unfold givens
    rw [givensAll_eq_nil ih]
    rfl

end Markup

namespace Fix

theorem isPlain_code (cs : List Char) : (code cs).IsPlain := by
  refine .element (by decide) (List.forall_mem_singleton.2 ?_)
  exact .element (by decide) fun _ hm => Markup.isPlain_of_mem_content hm

theorem isPlain_plain (cs : List Char) : (plain cs).IsPlain :=
  .label (by decide)

theorem isPlain_of_mem_block {cs : List Char} {m : Markup} (h : m ∈ block cs) : m.IsPlain := by
  unfold block at h
  split at h
  . cases h
  . rw [List.mem_singleton.1 h]
    apply isPlain_code
  . split at h
    . rw [List.mem_singleton.1 h]
      apply isPlain_code
    . rcases List.mem_pair.1 h with rfl | rfl
      . apply isPlain_code
      . apply isPlain_plain

theorem isPlain_of_mem_ofText {s : String} {m : Markup} (h : m ∈ ofText s) : m.IsPlain := by
  unfold ofText at h
  split at h
  . split at h
    . cases h
    . rcases List.mem_cons.1 h with rfl | h
      . apply isPlain_plain
      . obtain ⟨part, -, h⟩ := List.mem_flatMap.1 h
        exact isPlain_of_mem_block h
  . rw [List.mem_singleton.1 h]
    exact .text s

theorem isPlain_of_content {v : Value} {parts : List Markup} (h : content v = .ok parts) :
    ∀ m ∈ parts, m.IsPlain := by
  unfold content at h
  split at h
  . cases h
    exact fun _ hm => isPlain_of_mem_ofText hm
  . cases h
    exact fun _ hm => isPlain_of_mem_ofText hm
  . split at h
    . cases h
    . obtain ⟨s, -, h⟩ := bind_eq_ok.1 h
      cases h
      exact List.forall_mem_singleton.2 (.text s)
  . cases h

end Fix

namespace Item

variable {item : Value}

theorem isPlain_of_line {parts : List Markup} (h : line item = .ok parts) :
    ∀ m ∈ parts, m.IsPlain := by
  unfold line at h
  obtain ⟨positive, -, h⟩ := bind_eq_ok.1 h
  cases positive with
  | false =>
    cases h
    exact List.forall_mem_nil _
  | true =>
    obtain ⟨number, -, h⟩ := bind_eq_ok.1 h
    cases h
    exact List.forall_mem_singleton.2 (.label (by decide))

theorem isPlain_of_message {m : Markup} (h : message item = .ok m) : m.IsPlain := by
  unfold message at h
  obtain ⟨s, -, h⟩ := bind_eq_ok.1 h
  cases h
  refine .element (by decide) (List.forall_mem_cons.2 ⟨.label (by decide), ?_⟩)
  exact List.forall_mem_singleton.2 (.text s)

theorem isPlain_of_fix {parts : List Markup} (h : fix item = .ok parts) :
    ∀ m ∈ parts, m.IsPlain := by
  unfold fix at h
  split at h
  . cases h
    exact List.forall_mem_nil _
  . obtain ⟨content, hcontent, h⟩ := bind_eq_ok.1 h
    cases h
    refine List.forall_mem_singleton.2 (.element (by decide) ?_)
    refine List.forall_mem_cons.2 ⟨.label (by decide), List.forall_mem_singleton.2 ?_⟩
    exact .element (by decide) (Fix.isPlain_of_content hcontent)

theorem isPlain_of_explained {s : String} {parts : List Markup} (h : explained item s = .ok parts) :
    ∀ m ∈ parts, m.IsPlain := by
  unfold explained at h
  obtain ⟨fixes, hfixes, h⟩ := bind_eq_ok.1 h
  cases h
  refine List.forall_mem_singleton.2 (.element (by decide) ?_)
  refine List.forall_mem_cons.2 ⟨.element (by decide) ?_, isPlain_of_fix hfixes⟩
  refine List.forall_mem_cons.2 ⟨.label (by decide), ?_⟩
  exact List.forall_mem_singleton.2 (.label (by decide))

theorem isPlain_of_help {parts : List Markup} (h : help item = .ok parts) :
    ∀ m ∈ parts, m.IsPlain := by
  unfold help at h
  split at h
  . cases h
    exact List.forall_mem_nil _
  . exact isPlain_of_explained h
  . exact isPlain_of_explained h
  . cases h

theorem isPlain_of_source {m : Markup} (h : source item = .ok m) : m.IsPlain := by
  unfold source at h
  obtain ⟨name, -, h⟩ := bind_eq_ok.1 h
  cases h
  exact .label (by decide)

theorem isPlain_of_render {m : Markup} (h : render item = .ok m) : m.IsPlain := by
  unfold render at h
  obtain ⟨style, -, h⟩ := bind_eq_ok.1 h
  obtain ⟨line, hline, h⟩ := bind_eq_ok.1 h
  obtain ⟨message, hmessage, h⟩ := bind_eq_ok.1 h
  obtain ⟨help, hhelp, h⟩ := bind_eq_ok.1 h
  obtain ⟨source, hsource, h⟩ := bind_eq_ok.1 h
  cases h
  have hcontent : ∀ m ∈ line ++ message :: help ++ [source], m.IsPlain := by
    rw [List.forall_mem_append, List.forall_mem_append, List.forall_mem_cons,
      List.forall_mem_singleton]
    exact ⟨⟨isPlain_of_line hline, isPlain_of_message hmessage, isPlain_of_help hhelp⟩,
      isPlain_of_source hsource⟩
  refine .element (by decide) (List.forall_mem_cons.2 ⟨.label (by decide), ?_⟩)
  exact List.forall_mem_singleton.2 (.element (by decide) hcontent)

end Item

end Page

end HabitLens
