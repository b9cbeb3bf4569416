import HabitLens.Proofs.LineOrder

/-!
Items as elements of the page. Every item with the properties that the service gives it is shown,
unless it cannot be told who found it.
-/

namespace HabitLens

open Outcome
open Review

namespace Page

mutual

theorem fault_of_shownValue {v : Value} {fault : Fault} (h : shownValue v = .error fault) :
    fault = .noText := by
  cases v with
  | list items =>
    unfold shownValue at h
    rcases bind_eq_error.1 h with hitems | ⟨texts, -, h⟩
    . exact fault_of_shownItems hitems
    . cases h
  | dict fields =>
    unfold shownValue at h
    split at h
    . cases h
      rfl
    . cases h
  | _ => cases h

theorem fault_of_shownItems {vs : List Value} {fault : Fault} (h : shownItems vs = .error fault) :
    fault = .noText := by
  match vs with
  | [] => cases h
  | v :: vs =>
    unfold shownItems at h
    split at h
    . cases h
    . next heq =>
      obtain ⟨-, rfl⟩ := List.cons.inj heq
      rcases bind_eq_error.1 h with hitems | ⟨texts, -, h⟩
      . exact fault_of_shownItems hitems
      . cases h
    . next heq =>
      obtain ⟨rfl, rfl⟩ := List.cons.inj heq
      rcases bind_eq_error.1 h with hv | ⟨text, -, h⟩
      . exact fault_of_shownValue hv
      rcases bind_eq_error.1 h with hitems | ⟨texts, -, h⟩
      . exact fault_of_shownItems hitems
      . cases h

end

theorem fault_of_shown {p : Property} {fault : Fault} (h : p.shown = .error fault) :
    fault = .noText := by
  cases p with
  | none => cases h
  | some v => exact fault_of_shownValue h

/-- A property that is a text, if it is given at all. -/
def IsOptionalText (p : Property) : Prop :=
  p = none ∨ p = some .null ∨ ∃ s, p = some (.str s)

theorem IsOptionalText.filter_truthy {p : Property} (h : IsOptionalText p) :
    (p.filter fun v => Property.truthy (some v)) = none ∨
      ∃ s, (p.filter fun v => Property.truthy (some v)) = some (.str s) := by
  rcases h with rfl | rfl | ⟨s, rfl⟩
  . exact .inl rfl
  . exact .inl rfl
  . by_cases hs : Property.truthy (some (.str s)) = true
    . exact .inr ⟨s, by simp [Option.filter, hs]⟩
    . exact .inl (by simp [Option.filter, hs])

namespace Item

/-- An item with the properties that the service gives it, apart from who found it. -/
structure IsRegular (item : Value) : Prop where
  line : HasLine item
  message : ∃ s, field item "message" = some (.str s)
  category : ∃ c : Category, field item "category" = some (.str c.name)
  explanation : IsOptionalText (field item "explanation")
  fix : IsOptionalText (field item "fix")

/-- An item that has a place on the page, whatever it says and whoever found it. -/
structure IsPresentable (item : Value) : Prop where
  line : HasLine item
  category : ∃ s, field item "category" = some (.str s)
  explanation : IsOptionalText (field item "explanation")
  fix : IsOptionalText (field item "fix")

def HasMessage (item : Value) : Prop :=
  ∃ s, (field item "message").shown = .ok s

def HasSource (item : Value) : Prop :=
  ∃ s, (field item "source").shown = .ok s

variable {item : Value}

theorem IsRegular.presentable (h : IsRegular item) : IsPresentable item := by
  obtain ⟨c, hc⟩ := h.category
  exact ⟨h.line, ⟨c.name, hc⟩, h.explanation, h.fix⟩

theorem IsRegular.hasMessage (h : IsRegular item) : HasMessage item := by
  obtain ⟨s, hs⟩ := h.message
  unfold HasMessage
  rw [hs]
  exact ⟨s, rfl⟩

theorem exists_fix (h : IsOptionalText (field item "fix")) : ∃ parts, fix item = .ok parts := by
  unfold fix
  rcases h.filter_truthy with hfix | ⟨s, hfix⟩
  . rw [hfix]
    exact ⟨_, rfl⟩
  . rw [hfix]
    exact ⟨_, rfl⟩

theorem exists_help (h : IsOptionalText (field item "explanation"))
    (hfix : IsOptionalText (field item "fix")) : ∃ parts, help item = .ok parts := by
  obtain ⟨parts, hparts⟩ := exists_fix hfix
  unfold help
  rcases h.filter_truthy with hexplanation | ⟨s, hexplanation⟩
  . rw [hexplanation]
    exact ⟨_, rfl⟩
  . rw [hexplanation]
    dsimp only
    unfold explained
    rw [hparts]
    exact ⟨_, rfl⟩

theorem exists_line (h : HasLine item) : ∃ parts, line item = .ok parts := by
  obtain ⟨positive, hpositive⟩ : ∃ positive, (field item "line").isPositive = .ok positive := by
    rcases h with hline | ⟨n, -, hline | hline⟩
    all_goals
      rw [hline]
      exact ⟨_, rfl⟩
  unfold line
  rw [hpositive, h.shown.1, ok_bind]
  cases positive with
  | true => exact ⟨_, rfl⟩
  | false => exact ⟨_, rfl⟩

theorem exists_message {s : String} (h : (field item "message").shown = .ok s) :
    ∃ label, message item = .ok (.node "div" "feedback-message" [label, .text s]) := by
  unfold message
  rw [h]
  exact ⟨_, rfl⟩

theorem exists_style (h : ∃ s, field item "category" = some (.str s)) :
    ∃ s, style item = .ok ("feedback-item " ++ s) := by
  obtain ⟨s, hs⟩ := h
  unfold style
  rw [hs]
  split
  . exact ⟨"system-message", rfl⟩
  split
  . exact ⟨s, rfl⟩
  split
  . exact ⟨"potential_error", rfl⟩
  . exact ⟨"runtime_error", rfl⟩

/-- An element for an item, with the message of the item in it. -/
def IsElementOf (item : Value) (element : Markup) : Prop :=
  ∃ (style s : String) (icon label : Markup) (line help : List Markup),
    field item "message" = some (.str s) ∧
    element
      =
    .node "div" ("feedback-item " ++ style)
      [icon,
       .node "div" "feedback-content"
         (line ++ .node "div" "feedback-message" [label, .text s] :: help)]

def ShownAs (item : Value) (element : Markup) : Prop :=
  render item = .ok element ∧ IsElementOf item element

theorem IsRegular.render_eq (h : IsRegular item) :
    ∃ element : Markup → Markup, (∀ source, IsElementOf item (element source)) ∧
      render item = (do return element (← source item)) := by
  obtain ⟨s, hs⟩ := h.message
  have hshown : (field item "message").shown = .ok s := by
    rw [hs]
    rfl
  obtain ⟨style, hstyle⟩ := exists_style h.presentable.category
  obtain ⟨line, hline⟩ := exists_line h.line
  obtain ⟨label, hmessage⟩ := exists_message hshown
  obtain ⟨help, hhelp⟩ := exists_help h.explanation h.fix
  refine ⟨fun source => .node "div" ("feedback-item " ++ style)
    [.label "span" "feedback-icon" (icon (category? item)),
     .node "div" "feedback-content"
       (line ++ .node "div" "feedback-message" [label, .text s] :: (help ++ [source]))], ?_, ?_⟩
  . intro source
    exact ⟨style, s, _, label, line, help ++ [source], hs, rfl⟩
  . unfold render
    rw [hstyle, hline, hmessage, hhelp]
    simp only [List.append_assoc, List.cons_append]
    rfl

theorem IsRegular.exists_shownAs (h : IsRegular item) (hsource : HasSource item) :
    ∃ element, ShownAs item element := by
  obtain ⟨element, helement, hrender⟩ := h.render_eq
  obtain ⟨s, hs⟩ := hsource
  unfold ShownAs
  rw [hrender]
  unfold source
  rw [hs]
  exact ⟨_, rfl, helement _⟩

theorem IsRegular.render_of_not_hasSource (h : IsRegular item) (hsource : ¬ HasSource item) :
    render item = .error .noText := by
  obtain ⟨element, -, hrender⟩ := h.render_eq
  rw [hrender]
  unfold source
  cases hs : (field item "source").shown with
  | ok s => exact absurd ⟨s, hs⟩ hsource
  | error fault =>
    rw [fault_of_shown hs]
    rfl

theorem category?_eq {c : Category} (h : field item "category" = some (.str c.name)) :
    category? item = some c := by
  unfold category?
  rw [h]
  cases c <;> rfl

theorem read_eq {item : Value} {name : String} {v : Value} (h : field item name = some v)
    (other : String) : Property.read (some item) other = .ok (field item other) := by
  cases item with
  | null => cases h
  | _ => rfl

section

variable (h : IsPresentable item)

include h

theorem IsPresentable.exists_render (hmessage : HasMessage item) (hsource : HasSource item) :
    ∃ element, render item = .ok element := by
  obtain ⟨text, htext⟩ := hmessage
  obtain ⟨name, hname⟩ := hsource
  obtain ⟨style, hstyle⟩ := exists_style h.category
  obtain ⟨line, hline⟩ := exists_line h.line
  obtain ⟨label, hmessage⟩ := exists_message htext
  obtain ⟨help, hhelp⟩ := exists_help h.explanation h.fix
  unfold render source
  rw [hstyle, hline, hmessage, hhelp, hname]
  exact ⟨_, rfl⟩

theorem IsPresentable.logItem_eq_ok_iff : Results.logItem item = .ok () ↔ HasMessage item := by
  obtain ⟨s, hs⟩ := h.category
  have hlog : Results.logItem item = (do let _ ← (field item "message").shown) := by
    unfold Results.logItem
    rw [read_eq hs, hs]
    rcases h.explanation with he | he | ⟨t, he⟩
    . rw [he]
      rfl
    . rw [he]
      rfl
    . rw [he]
      cases ht : Property.truthy (some (.str t)) <;> rfl
  rw [hlog, bind_eq_ok]
  constructor
  . rintro ⟨message, hmessage, -⟩
    exact ⟨message, hmessage⟩
  . rintro ⟨message, hmessage⟩
    exact ⟨message, hmessage, rfl⟩

theorem IsPresentable.category?_eq_some_iff {c : Category} :
    category? item = some c ↔ field item "category" = some (.str c.name) := by
  obtain ⟨s, hs⟩ := h.category
  constructor
  . intro hc
    unfold category? at hc
    rw [hs] at hc ⊢
    have hname := List.find?_some hc
    rw [beq_iff_eq.1 hname]
  . exact category?_eq

theorem IsPresentable.countedAs?_eq_some_iff {c : Category} :
    Results.countedAs? item = some c.name ↔ field item "category" = some (.str c.name) := by
  obtain ⟨s, hs⟩ := h.category
  have htruthy : Property.truthy (some (.str c.name)) = true := by cases c <;> rfl
  have hcounted : Results.countedAs? item
      =
    if Property.truthy (some (.str s)) then some s else none := by
    unfold Results.countedAs?
    rw [hs]
    rfl
  rw [hcounted, hs, Option.some.injEq, Value.str.injEq]
  constructor
  . intro hsome
    split at hsome
    . exact Option.some.inj hsome
    . cases hsome
  . rintro rfl
    exact if_pos htruthy

end

theorem IsRegular.logItem_eq (h : IsRegular item) : Results.logItem item = .ok () :=
  h.presentable.logItem_eq_ok_iff.2 h.hasMessage

end Item

theorem forM_eq_ok_iff {f : Value → Except Fault Unit} {items : List Value} :
    items.forM f = .ok () ↔ ∀ item ∈ items, f item = .ok () := by
  induction items with
  | nil => exact iff_of_true rfl (List.forall_mem_nil _)
  | cons item items ih =>
    rw [List.forall_mem_cons, ← ih]
    exact bind_eq_ok.trans ⟨fun ⟨_, h⟩ => h, fun h => ⟨(), h⟩⟩

theorem exists_mapM_render {items : List Value}
    (h : ∀ item ∈ items, ∃ element, Item.ShownAs item element) :
    ∃ elements, items.mapM Item.render = .ok elements ∧
      List.Forall₂ Item.ShownAs items elements := by
  induction items with
  | nil => exact ⟨[], rfl, .nil⟩
  | cons item items ih =>
    rw [List.forall_mem_cons] at h
    obtain ⟨element, helement⟩ := h.1
    obtain ⟨elements, hmapM, hforall⟩ := ih h.2
    refine ⟨element :: elements, ?_, .cons helement hforall⟩
    rw [List.mapM_cons, helement.1, ok_bind, hmapM]
    rfl

theorem mapM_render_of_not_hasSource {items : List Value}
    (h : ∀ item ∈ items, Item.IsRegular item) (hsource : ∃ item ∈ items, ¬ Item.HasSource item) :
    items.mapM Item.render = .error .noText := by
  induction items with
  | nil =>
    obtain ⟨item, hitem, -⟩ := hsource
    cases hitem
  | cons item items ih =>
    rw [List.forall_mem_cons] at h
    rw [List.exists_mem_cons_iff] at hsource
    rw [List.mapM_cons]
    by_cases hitem : Item.HasSource item
    . obtain ⟨element, helement⟩ := h.1.exists_shownAs hitem
      have hrest := ih h.2 (hsource.resolve_left (not_not_intro hitem))
      rw [helement.1, ok_bind, hrest]
      rfl
    . rw [h.1.render_of_not_hasSource hitem]
      rfl

end Page

end HabitLens
