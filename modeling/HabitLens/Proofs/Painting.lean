import HabitLens.Proofs.PlainMarkup
import HabitLens.Proofs.Showing

/-!
The markup that elements are given while the results are put on the page. It says how many items
there are, and nothing else of them: what items say becomes texts and styles.
-/

namespace HabitLens

open Outcome
open Review

namespace Page

/-- A part of the page in the making, with the markup that elements are given meanwhile. -/
structure Painting (α : Type) where
  result : Except Fault α
  given : List String

namespace Painting

variable {α β : Type}

instance : Monad Painting where
  pure a := ⟨.ok a, []⟩
  bind x f :=
    match x.result with
    | .ok a => ⟨(f a).result, x.given ++ (f a).given⟩
    | .error fault => ⟨.error fault, x.given⟩

theorem result_bind (x : Painting α) (f : α → Painting β) :
    (x >>= f).result = (x.result >>= fun a => (f a).result) := by
  obtain ⟨_ | a, given⟩ := x
  . rfl
  . rfl

theorem given_bind_ok {x : Painting α} {a : α} (h : x.result = .ok a) (f : α → Painting β) :
    (x >>= f).given = x.given ++ (f a).given := by
  obtain ⟨_, given⟩ := x
  cases h
  rfl

theorem given_bind_error {x : Painting α} {fault : Fault} (h : x.result = .error fault)
    (f : α → Painting β) : (x >>= f).given = x.given := by
  obtain ⟨_, given⟩ := x
  cases h
  rfl

theorem given_bind_eq_nil {x : Painting α} {f : α → Painting β} (hx : x.given = [])
    (hf : ∀ a, (f a).given = []) : (x >>= f).given = [] := by
  cases h : x.result with
  | error fault => rw [given_bind_error h, hx]
  | ok a =>
    rw [given_bind_ok h, hx, hf a]
    rfl

def made (givens : α → List String) (x : Except Fault α) : Painting α :=
  { result := x, given := x.toOption.elim [] givens }

def lift (x : Except Fault α) : Painting α :=
  made (fun _ => []) x

def element (x : Except Fault Markup) : Painting Markup :=
  made Markup.givens x

def elements (x : Except Fault (List Markup)) : Painting (List Markup) :=
  made Markup.givensAll x

/-- Results that were there before are replaced by empty markup. -/
def clear : Painting Unit :=
  { result := .ok (), given := [""] }

theorem given_made {givens : α → List String} {x : Except Fault α}
    (h : ∀ a, x = .ok a → givens a = []) : (made givens x).given = [] := by
  cases x with
  | error fault => rfl
  | ok a => exact h a rfl

theorem given_lift (x : Except Fault α) : (lift x).given = [] :=
  given_made fun _ _ => rfl

end Painting

open Painting

def paintItem (item : Value) : Painting Markup := do
  let style ← lift (Item.style item)
  let icon ← element (.ok (.label "span" "feedback-icon" (Item.icon (Item.category? item))))
  let line ← elements (Item.line item)
  let message ← element (Item.message item)
  let help ← elements (Item.help item)
  let source ← element (Item.source item)
  return .node "div" style
    [icon, .node "div" "feedback-content" (line ++ message :: help ++ [source])]

def paintItems : List Value → Painting (List Markup)
  | [] => return []
  | item :: items => do
    let shown ← paintItem item
    return shown :: (← paintItems items)

def paintResults (items : List Value) : Painting Markup := do
  lift (items.forM Results.logItem)
  let header ← element (.ok (Results.header items))
  let groups ← lift (items.foldlM Results.addToGroup [])
  let shown ← paintItems (Results.ordered groups).flatten
  return .node "div" "" (header :: shown)

/-- Puts items on the page, step by step. -/
def paint (items : List Value) : Painting Markup := do
  clear
  if items.isEmpty then
    element (.ok (messageResults "No issues found. Your code looks good!"))
  else paintResults items

theorem result_paintItem (item : Value) : (paintItem item).result = Item.render item := by
  unfold paintItem
  simp only [result_bind]
  rfl

theorem result_paintItems (items : List Value) :
    (paintItems items).result = items.mapM Item.render := by
  induction items with
  | nil => rfl
  | cons item items ih =>
    unfold paintItems
    rw [List.mapM_cons, ← ih, ← result_paintItem]
    simp only [result_bind]
    rfl

theorem result_paint (items : List Value) : (paint items).result = display items := by
  unfold paint display
  rw [result_bind]
  cases items.isEmpty with
  | true => rfl
  | false =>
    unfold Results.render
    change (paintResults items).result = _
    unfold paintResults
    simp only [result_bind, result_paintItems, Bool.false_eq_true, if_false, bind_assoc]
    rfl

theorem given_paintItem (item : Value) : (paintItem item).given = [] := by
  unfold paintItem
  apply given_bind_eq_nil (given_lift _)
  intro style
  apply given_bind_eq_nil
  . exact given_made fun _ h => by
      cases h
      exact (Markup.IsPlain.label (by decide)).givens_eq
  intro icon
  apply given_bind_eq_nil
  . exact given_made fun _ h =>
      Markup.givensAll_eq_nil fun m hm => (Item.isPlain_of_line h m hm).givens_eq
  intro line
  apply given_bind_eq_nil
  . exact given_made fun _ h => (Item.isPlain_of_message h).givens_eq
  intro message
  apply given_bind_eq_nil
  . exact given_made fun _ h =>
      Markup.givensAll_eq_nil fun m hm => (Item.isPlain_of_help h m hm).givens_eq
  intro help
  apply given_bind_eq_nil
  . exact given_made fun _ h => (Item.isPlain_of_source h).givens_eq
  intro source
  rfl

theorem given_paintItems (items : List Value) : (paintItems items).given = [] := by
  induction items with
  | nil => rfl
  | cons item items ih =>
    unfold paintItems
    apply given_bind_eq_nil (given_paintItem item)
    intro shown
    exact given_bind_eq_nil ih fun _ => rfl

section

variable {items : List Value} (hne : items ≠ [])

include hne

theorem given_paint : (paint items).given = "" :: (paintResults items).given := by
  unfold paint
  rw [List.isEmpty_eq_false_iff.2 hne]
  rfl

theorem given_paint_of_logged (h : items.forM Results.logItem = .ok ()) :
    (paint items).given = "" :: (Results.header items).givens := by
  -- Collecting the items may fail where a line is odd, but this is after the header.
  have hrest (header : Markup) : (do
      let groups ← lift (items.foldlM Results.addToGroup [])
      let shown ← paintItems (Results.ordered groups).flatten
      return Markup.node "div" "" (header :: shown)).given = [] := by
    apply given_bind_eq_nil (given_lift _)
    intro groups
    exact given_bind_eq_nil (given_paintItems _) fun _ => rfl
  rw [given_paint hne]
  unfold paintResults
  rw [given_bind_ok h, given_lift, given_bind_ok rfl, hrest, List.append_nil]
  rfl

theorem given_paint_of_not_logged {fault : Fault} (h : items.forM Results.logItem = .error fault) :
    (paint items).given = [""] := by
  rw [given_paint hne]
  unfold paintResults
  rw [given_bind_error h, given_lift]

end

section

variable {items : List Value} (h : ∀ item ∈ items, Item.IsPresentable item)

include h

theorem forM_logItem_eq_ok_iff :
    items.forM Results.logItem = .ok () ↔ ∀ item ∈ items, Item.HasMessage item :=
  forM_eq_ok_iff.trans (forall₂_congr fun item hitem => (h item hitem).logItem_eq_ok_iff)

theorem given_paint_of_messages (hne : items ≠ [])
    (hmessages : ∀ item ∈ items, Item.HasMessage item) :
    (paint items).given = "" :: (Results.header items).givens :=
  given_paint_of_logged hne ((forM_logItem_eq_ok_iff h).2 hmessages)

theorem given_paint_of_not_messages (hmessages : ¬ ∀ item ∈ items, Item.HasMessage item) :
    (paint items).given = [""] := by
  rw [← forM_logItem_eq_ok_iff h] at hmessages
  cases hlog : items.forM Results.logItem with
  | ok u => exact absurd hlog hmessages
  | error fault =>
    apply given_paint_of_not_logged _ hlog
    rintro rfl
    cases hlog

theorem exists_display (htexts : ∀ item ∈ items, Item.HasMessage item ∧ Item.HasSource item) :
    ∃ results, display items = .ok results := by
  by_cases hne : items = []
  . rw [hne]
    exact ⟨_, rfl⟩
  have hlog := (forM_logItem_eq_ok_iff h).2 fun item hitem => (htexts item hitem).1
  obtain ⟨groups, hgroups, hsort⟩ := Results.exists_ordered fun item hitem => (h item hitem).line
  obtain ⟨elements, helements⟩ : ∃ elements,
      (Results.ordered groups).flatten.mapM Item.render = .ok elements := by
    apply exists_mapM
    intro item hitem
    have hitem := hsort.perm.subset hitem
    exact (h item hitem).exists_render (htexts item hitem).1 (htexts item hitem).2
  unfold display Results.render
  rw [List.isEmpty_eq_false_iff.2 hne, hlog, ok_bind, hgroups, ok_bind, helements]
  exact ⟨_, rfl⟩

end

/-- Below the header, which only counts the items, the results are plain. -/
def HoldsPlain (items : List Value) (results : Markup) : Prop :=
  items = [] ∧ results = messageResults "No issues found. Your code looks good!" ∨
    ∃ elements, results = .node "div" "" (Results.header items :: elements) ∧
      ∀ element ∈ elements, element.IsPlain

theorem display_holdsPlain {items : List Value} {results : Markup}
    (h : display items = .ok results) : HoldsPlain items results := by
  unfold display at h
  cases hempty : items.isEmpty with
  | true =>
    rw [hempty] at h
    cases h
    exact .inl ⟨List.isEmpty_iff.1 hempty, rfl⟩
  | false =>
    rw [hempty] at h
    obtain ⟨children, hrender, h⟩ := bind_eq_ok.1 h
    unfold Results.render at hrender
    obtain ⟨_, -, hrender⟩ := bind_eq_ok.1 hrender
    obtain ⟨groups, -, hrender⟩ := bind_eq_ok.1 hrender
    obtain ⟨elements, helements, hrender⟩ := bind_eq_ok.1 hrender
    cases hrender
    cases h
    refine .inr ⟨elements, rfl, ?_⟩
    exact forall_mem_of_mapM (fun _ _ hitem => Item.isPlain_of_render hitem) helements

theorem givens_header (items : List Value) : ∃ text, (Results.header items).givens = [text] := by
  unfold Results.header Markup.given Markup.givens
  rw [if_neg (by simp)]
  exact ⟨_, rfl⟩

structure SameCounts (as bs : List Value) : Prop where
  length_eq : as.length = bs.length
  countP_eq : ∀ c, (as.countP fun item => Item.category? item = some c)
    = bs.countP fun item => Item.category? item = some c

theorem SameCounts.header_eq {as bs : List Value} (h : SameCounts as bs)
    (has : ∀ item ∈ as, Item.IsPresentable item) (hbs : ∀ item ∈ bs, Item.IsPresentable item) :
    Results.header as = Results.header bs := by
  unfold Results.header
  simp only [count_eq has, count_eq hbs, h.length_eq, h.countP_eq]

/--
For two lists with the same counts elements are given the same markup, unless a message of only one
of them has no text: such a message stops the page before the header. What else the items say, and
how, makes no difference. It is on the page as texts and styles of plain elements.
-/
theorem given_paint_eq_iff {as bs : List Value} (has : ∀ item ∈ as, Item.IsPresentable item)
    (hbs : ∀ item ∈ bs, Item.IsPresentable item) (hcounts : SameCounts as bs) :
    ((paint as).given = (paint bs).given
      ↔
    ((∀ item ∈ as, Item.HasMessage item) ↔ ∀ item ∈ bs, Item.HasMessage item)) ∧
    (paint as).result = display as ∧
    (∀ results, display as = .ok results → HoldsPlain as results) ∧
    ((∀ item ∈ as, Item.HasMessage item ∧ Item.HasSource item) →
      ∃ results, display as = .ok results) := by
  refine ⟨?_, result_paint as, fun _ => display_holdsPlain, exists_display has⟩
  by_cases hne : as = []
  . subst hne
    rw [List.eq_nil_of_length_eq_zero hcounts.length_eq.symm]
    exact iff_of_true rfl Iff.rfl
  have hne' : bs ≠ [] := by
    rintro rfl
    exact hne (List.eq_nil_of_length_eq_zero hcounts.length_eq)
  obtain ⟨text, htext⟩ := givens_header bs
  have hheader := hcounts.header_eq has hbs
  -- Each run gives the one header its markup, or stops before it.
  by_cases hmessages : ∀ item ∈ as, Item.HasMessage item
  . rw [given_paint_of_messages has hne hmessages, hheader, htext]
    by_cases hmessages' : ∀ item ∈ bs, Item.HasMessage item
    . rw [given_paint_of_messages hbs hne' hmessages', htext]
      exact iff_of_true rfl (iff_of_true hmessages hmessages')
    . rw [given_paint_of_not_messages hbs hmessages']
      exact iff_of_false (by simp) fun hiff => hmessages' (hiff.1 hmessages)
  . rw [given_paint_of_not_messages has hmessages]
    by_cases hmessages' : ∀ item ∈ bs, Item.HasMessage item
    . rw [given_paint_of_messages hbs hne' hmessages', htext]
      exact iff_of_false (by simp) fun hiff => hmessages (hiff.2 hmessages')
    . rw [given_paint_of_not_messages hbs hmessages']
      exact iff_of_true rfl (iff_of_false hmessages hmessages')

def itemWith (message source : Value) : Value :=
  .dict
    [("line", .int 1), ("message", message), ("category", .str "bad_habit"), ("source", source),
     ("explanation", .str "e")]

theorem presentable_itemWith {message source : Value} :
    ∀ item ∈ [itemWith message source], Item.IsPresentable item := by
  rw [List.forall_mem_singleton]
  exact ⟨.inr ⟨1, by decide, .inl rfl⟩, ⟨"bad_habit", rfl⟩, .inr (.inr ⟨"e", rfl⟩), .inl rfl⟩

theorem sameCounts_itemWith {message source message' source' : Value} :
    SameCounts [itemWith message source] [itemWith message' source'] :=
  ⟨rfl, fun _ => rfl⟩

/-- A message that looks like markup is shown. A source without a text comes after the header. -/
theorem given_paint_of_tag_and_list :
    let as := [itemWith (.str "<b>m</b>") (.str "ast")]
    let bs := [itemWith (.list [.int 1, .null]) (.dict [("toString", .int 1)])]
    (∀ item ∈ as, Item.IsPresentable item) ∧ (∀ item ∈ bs, Item.IsPresentable item) ∧
      SameCounts as bs ∧ (paint as).given = (paint bs).given ∧
      ∃ results, display as = .ok results ∧ HoldsPlain as results := by
  intro as bs
  have has : ∀ item ∈ as, Item.HasMessage item ∧ Item.HasSource item :=
    List.forall_mem_singleton.2 ⟨⟨"<b>m</b>", rfl⟩, "ast", rfl⟩
  have hbs : ∀ item ∈ bs, Item.HasMessage item :=
    List.forall_mem_singleton.2 ⟨_, rfl⟩
  have hcounts : SameCounts as bs := sameCounts_itemWith
  obtain ⟨hgiven, -, hplain, hdisplay⟩ :=
    given_paint_eq_iff presentable_itemWith presentable_itemWith hcounts
  obtain ⟨results, hresults⟩ := hdisplay has
  refine ⟨presentable_itemWith, presentable_itemWith, hcounts, ?_, results, hresults, ?_⟩
  . exact hgiven.2 (iff_of_true (fun item hitem => (has item hitem).1) hbs)
  . exact hplain results hresults

/-- One message has no text, and so only one of the two runs comes to the header. -/
theorem given_paint_of_message_without_text :
    let as := [itemWith (.str "m") (.str "ast")]
    let bs := [itemWith (.dict [("toString", .int 1)]) (.str "ast")]
    (∀ item ∈ as, Item.IsPresentable item) ∧ (∀ item ∈ bs, Item.IsPresentable item) ∧
      SameCounts as bs ∧ (paint as).given ≠ (paint bs).given := by
  intro as bs
  have hmessages : ∀ item ∈ as, Item.HasMessage item :=
    List.forall_mem_singleton.2 ⟨"m", rfl⟩
  have hnone : ¬ ∀ item ∈ bs, Item.HasMessage item := by
    intro hall
    obtain ⟨s, hs⟩ := hall _ (List.mem_singleton.2 rfl)
    cases hs
  obtain ⟨text, htext⟩ := givens_header as
  refine ⟨presentable_itemWith, presentable_itemWith, sameCounts_itemWith, ?_⟩
  rw [given_paint_of_messages presentable_itemWith (List.cons_ne_nil _ _) hmessages, htext]
  rw [given_paint_of_not_messages presentable_itemWith hnone]
  simp

end Page

end HabitLens
