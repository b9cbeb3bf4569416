import HabitLens.Page.Session
import HabitLens.Proofs.Marks
import HabitLens.Proofs.Rendering
import Mathlib.Data.List.Infix
import Mathlib.Data.List.Nodup

/-!
What the page shows after an answer of the service: a header that counts the items, and each item
once, in order of the lines. Where nothing is explained, one more item says so.
-/

namespace HabitLens

open Outcome
open Review

namespace Page

/-- How many items are of which category, for the categories that items are of. -/
structure Tally (items : List Value) (listed : List (Category × Nat)) : Prop where
  mem_iff : ∀ c k, (c, k) ∈ listed ↔
    0 < k ∧ k = items.countP fun item => Item.category? item = some c
  nodup : (listed.map Prod.fst).Nodup
  sum_eq : (listed.map Prod.snd).sum = items.length

def summaryText (c : Category) (count : Nat) : String :=
  let text (style words : String) :=
    "<li><span class=\"" ++ style ++ "\"></span> " ++ toString count ++ " " ++ words ++
      (if count = 1 then "" else "s") ++ "</li>"
  match c with
  | .syntaxError => text "syntax-error-dot" "Syntax Error"
  | .fatalError => text "fatal-error-dot" "Fatal Error"
  | .runtimeError => text "runtime-error-dot" "Runtime Error"
  | .potentialError => text "potential-error-dot" "Potential Error"
  | .badHabit => text "bad-habit-dot" "Bad Habit"

def headerText (count : Nat) (listed : List (Category × Nat)) : String :=
  "<p>Found <strong>" ++ toString count ++ "</strong> issues in your code:</p>" ++
    "<ul class=\"category-summary\">" ++
    String.join (listed.map fun (c, k) => summaryText c k) ++ "</ul>"

theorem summary_eq {k : Nat} (h : 0 < k) (c : Category) : Results.summary c k = summaryText c k := by
  unfold Results.summary
  rw [if_neg (Nat.ne_of_gt h)]
  cases c <;> rfl

/-- The page shows items: counted in a header, and each once, in order of their lines. -/
def Shows (items : List Value) (results : Markup) : Prop :=
  ∃ (sorted : List Value) (elements : List Markup) (listed : List (Category × Nat)),
    Sort.IsStableSort (fun item => Results.lineRank (Item.lineNumber? item)) items sorted ∧
    List.Forall₂ Item.ShownAs sorted elements ∧
    Tally items listed ∧
    results
      =
    .node "div" "" (.given "div" "results-header" (headerText items.length listed) :: elements)

theorem count_eq {items : List Value} (h : ∀ item ∈ items, Item.IsPresentable item)
    (c : Category) :
    Results.count items c = items.countP fun item => Item.category? item = some c := by
  unfold Results.count
  apply List.countP_congr
  intro item hitem
  rw [beq_iff_eq, decide_eq_true_iff]
  exact (h item hitem).countedAs?_eq_some_iff.trans (h item hitem).category?_eq_some_iff.symm

theorem sum_countP_category {items : List Value} (h : ∀ item ∈ items, Item.IsRegular item) :
    (Category.all.map fun c => items.countP fun item => Item.category? item = some c).sum
      =
    items.length := by
  induction items with
  | nil => rfl
  | cons item items ih =>
    rw [List.forall_mem_cons] at h
    obtain ⟨c, hc⟩ := h.1.category
    have ih := ih h.2
    simp only [Category.all, List.map_cons, List.map_nil, List.sum_cons, List.sum_nil] at ih ⊢
    simp only [List.countP_cons, Item.category?_eq hc, List.length_cons]
    cases c <;> simp <;> omega

def listing (count : Category → Nat) : List (Category × Nat) :=
  (Category.all.filter fun c => 0 < count c).map fun c => (c, count c)

theorem join_summary (count : Category → Nat) (cs : List Category) :
    String.join (cs.map fun c => Results.summary c (count c))
      =
    String.join (((cs.filter fun c => 0 < count c).map fun c => (c, count c)).map
      fun (c, k) => summaryText c k) := by
  induction cs with
  | nil => rfl
  | cons c cs ih =>
    rw [List.map_cons, String.join_cons, ih]
    by_cases hc : 0 < count c
    . rw [List.filter_cons_of_pos (by simpa using hc)]
      rw [List.map_cons, List.map_cons, String.join_cons, summary_eq hc]
    . rw [List.filter_cons_of_neg (by simpa using hc)]
      have hempty : Results.summary c (count c) = "" := if_pos (by omega)
      rw [hempty, String.empty_append]

theorem sum_filter_pos (count : Category → Nat) (cs : List Category) :
    ((cs.filter fun c => 0 < count c).map count).sum = (cs.map count).sum := by
  induction cs with
  | nil => rfl
  | cons c cs ih =>
    by_cases hc : 0 < count c
    . rw [List.filter_cons_of_pos (by simpa using hc)]
      simp [ih]
    . rw [List.filter_cons_of_neg (by simpa using hc)]
      have hzero : count c = 0 := by omega
      simp [ih, hzero]

theorem tally_listing {items : List Value} (h : ∀ item ∈ items, Item.IsRegular item) :
    Tally items (listing fun c => items.countP fun item => Item.category? item = some c) := by
  unfold listing
  constructor
  . intro c k
    have hall : c ∈ Category.all := by cases c <;> decide
    constructor
    . intro hmem
      obtain ⟨d, hd, heq⟩ := List.mem_map.1 hmem
      obtain ⟨rfl, rfl⟩ := Prod.mk.inj heq
      exact ⟨of_decide_eq_true (List.mem_filter.1 hd).2, rfl⟩
    . rintro ⟨hpos, rfl⟩
      exact List.mem_map.2 ⟨c, List.mem_filter.2 ⟨hall, decide_eq_true hpos⟩, rfl⟩
  . have hnodup : Category.all.Nodup := by decide
    rw [List.map_map]
    exact (hnodup.filter _).map Function.injective_id
  . rw [List.map_map]
    exact (sum_filter_pos _ _).trans (sum_countP_category h)

theorem header_eq {items : List Value} (h : ∀ item ∈ items, Item.IsRegular item) :
    Results.header items
      =
    .given "div" "results-header"
      (headerText items.length
        (listing fun c => items.countP fun item => Item.category? item = some c)) := by
  unfold Results.header headerText listing
  rw [← join_summary]
  simp only [count_eq fun item hitem => (h item hitem).presentable]
  rfl

theorem display_eq {items : List Value} (hne : items ≠ [])
    (h : ∀ item ∈ items, Item.IsRegular item) :
    ∃ sorted,
      Sort.IsStableSort (fun item => Results.lineRank (Item.lineNumber? item)) items sorted ∧
      display items
        =
      (do return .node "div" "" (Results.header items :: (← sorted.mapM Item.render))) := by
  obtain ⟨groups, hgroups, hsort⟩ := Results.exists_ordered fun item hitem => (h item hitem).line
  refine ⟨_, hsort, ?_⟩
  unfold display Results.render
  rw [List.isEmpty_eq_false_iff.2 hne]
  rw [forM_eq_ok_iff.2 fun item hitem => (h item hitem).logItem_eq]
  rw [ok_bind, hgroups, ok_bind, bind_assoc]
  rfl

theorem display_shows {items : List Value} (hne : items ≠ [])
    (h : ∀ item ∈ items, Item.IsRegular item) (hsources : ∀ item ∈ items, Item.HasSource item) :
    ∃ results, display items = .ok results ∧ Shows items results := by
  obtain ⟨sorted, hsort, hdisplay⟩ := display_eq hne h
  have hshown : ∀ item ∈ sorted, ∃ element, Item.ShownAs item element := by
    intro item hitem
    have hitem := hsort.perm.subset hitem
    exact (h item hitem).exists_shownAs (hsources item hitem)
  obtain ⟨elements, hmapM, helements⟩ := exists_mapM_render hshown
  refine ⟨_, ?_, sorted, elements, _, hsort, helements, tally_listing h, rfl⟩
  rw [hdisplay, hmapM, header_eq h]
  rfl

theorem display_of_not_hasSource {items : List Value} (h : ∀ item ∈ items, Item.IsRegular item)
    (hsource : ∃ item ∈ items, ¬ Item.HasSource item) : display items = .error .noText := by
  obtain ⟨item, hitem, hsource⟩ := hsource
  obtain ⟨sorted, hsort, hdisplay⟩ := display_eq (List.ne_nil_of_mem hitem) h
  have hfails : sorted.mapM Item.render = .error .noText := by
    apply mapM_render_of_not_hasSource
    . exact fun item hitem => h item (hsort.perm.subset hitem)
    . exact ⟨item, hsort.perm.symm.subset hitem, hsource⟩
  rw [hdisplay, hfails]
  rfl

namespace Item

def isExplained (item : Value) : Bool :=
  match field item "explanation" with
  | some (.str s) => s ≠ ""
  | _ => false

/-- Whether an item of the service itself already speaks of the assistant. -/
def blamesAssistant (item : Value) : Bool :=
  (field item "source").isText "system" &&
    match field item "message" with
    | some (.str s) => decide ("Claude API".toList <:+: s.toList)
    | _ => false

end Item

/-- Whether nothing is explained and no item tells why. -/
def NeedsNotice (items : List Value) : Prop :=
  items ≠ [] ∧ (∀ item ∈ items, Item.isExplained item = false) ∧
    ∀ item ∈ items, Item.blamesAssistant item = false

instance (items : List Value) : Decidable (NeedsNotice items) :=
  inferInstanceAs (Decidable (_ ∧ _ ∧ _))

def withNotice (items : List Value) : List Value :=
  if NeedsNotice items then items ++ [missingExplanations] else items

namespace Item

variable {item : Value} (h : IsRegular item)

include h

theorem IsRegular.truthy_explanation : (field item "explanation").truthy = isExplained item := by
  unfold isExplained
  rcases h.explanation with he | he | ⟨s, he⟩
  . rw [he]
    rfl
  . rw [he]
    rfl
  . rw [he]
    unfold Property.truthy
    by_cases hs : s = ""
    . rw [hs]
      rfl
    . simp [hs]

theorem IsRegular.speaksOfAssistant_eq : speaksOfAssistant item = .ok (blamesAssistant item) := by
  obtain ⟨s, hs⟩ := h.message
  have hoccurs : Text.occursIn assistantName s = decide ("Claude API".toList <:+: s.toList) := by
    rw [Bool.eq_iff_iff, decide_eq_true_iff]
    exact Text.occursIn_iff
  have hempty : Property.truthy (some (.str s)) = false →
      decide ("Claude API".toList <:+: s.toList) = false := by
    intro hfalse
    have hnil : s.toList = [] := by simpa [Property.truthy] using hfalse
    rw [hnil]
    rfl
  unfold speaksOfAssistant blamesAssistant isSystem
  rw [hs]
  dsimp only
  rw [hoccurs, show Origin.system.name = "system" from rfl]
  cases (field item "source").isText "system" with
  | false => rfl
  | true =>
    cases htruthy : Property.truthy (some (.str s)) with
    | true => rfl
    | false =>
      rw [hempty htruthy]
      rfl

end Item

theorem anyExplained_eq {items : List Value} (h : ∀ item ∈ items, Item.IsRegular item) :
    anyExplained items = .ok (items.any Item.isExplained) := by
  induction items with
  | nil => rfl
  | cons item items ih =>
    rw [List.forall_mem_cons] at h
    obtain ⟨c, hc⟩ := h.1.category
    unfold anyExplained
    rw [Item.read_eq hc, ok_bind, h.1.truthy_explanation, ih h.2, List.any_cons]
    cases Item.isExplained item <;> rfl

theorem anySpeaksOfAssistant_eq {items : List Value} (h : ∀ item ∈ items, Item.IsRegular item) :
    anySpeaksOfAssistant items = .ok (items.any Item.blamesAssistant) := by
  induction items with
  | nil => rfl
  | cons item items ih =>
    rw [List.forall_mem_cons] at h
    unfold anySpeaksOfAssistant
    rw [h.1.speaksOfAssistant_eq, ok_bind, ih h.2, List.any_cons]
    cases Item.blamesAssistant item <;> rfl

theorem needsNotice_iff {items : List Value} :
    NeedsNotice items
      ↔
    items.isEmpty = false ∧ items.any Item.isExplained = false ∧
      items.any Item.blamesAssistant = false := by
  simp [NeedsNotice]

theorem itemsToShow_eq {items : List Value} (h : ∀ item ∈ items, Item.IsRegular item) :
    itemsToShow items = .ok (withNotice items) := by
  unfold itemsToShow withNotice
  rw [anyExplained_eq h, anySpeaksOfAssistant_eq h, ok_bind]
  by_cases hneeds : NeedsNotice items
  . rw [if_pos hneeds]
    obtain ⟨hempty, hexplained, hblames⟩ := needsNotice_iff.1 hneeds
    rw [hempty, hexplained, hblames]
    rfl
  . rw [if_neg hneeds]
    rw [needsNotice_iff] at hneeds
    cases hexplained : items.any Item.isExplained with
    | true => rfl
    | false =>
      cases hempty : items.isEmpty with
      | true => rfl
      | false =>
        cases hblames : items.any Item.blamesAssistant with
        | true => rfl
        | false => exact absurd ⟨hempty, hexplained, hblames⟩ hneeds

theorem regular_missingExplanations : Item.IsRegular missingExplanations := by
  constructor
  . exact .inr ⟨0, Nat.zero_le _, .inl rfl⟩
  . exact ⟨_, rfl⟩
  . exact ⟨.syntaxError, rfl⟩
  . exact .inr (.inl rfl)
  . exact .inr (.inl rfl)

theorem mem_withNotice {items : List Value} {item : Value} (h : item ∈ withNotice items) :
    item ∈ items ∨ item = missingExplanations := by
  unfold withNotice at h
  split at h
  . exact (List.mem_append.1 h).imp_right List.mem_singleton.1
  . exact .inl h

theorem subset_withNotice (items : List Value) : items ⊆ withNotice items := by
  unfold withNotice
  split
  . exact List.subset_append_left _ _
  . exact List.Subset.refl _

theorem regular_withNotice {items : List Value} (h : ∀ item ∈ items, Item.IsRegular item) :
    ∀ item ∈ withNotice items, Item.IsRegular item := by
  intro item hitem
  rcases mem_withNotice hitem with hitem | rfl
  . exact h item hitem
  . exact regular_missingExplanations

theorem hasSource_withNotice {items : List Value} (h : ∀ item ∈ items, Item.HasSource item) :
    ∀ item ∈ withNotice items, Item.HasSource item := by
  intro item hitem
  rcases mem_withNotice hitem with hitem | rfl
  . exact h item hitem
  . exact ⟨"system", rfl⟩

theorem itemsOf_eq {data : Table Value} {items : List Value}
    (h : data.get? "feedback" = some (.list items)) : itemsOf (some (.dict data)) = .ok items := by
  have hfeedback : Property.read (some (.dict data)) "feedback" = .ok (some (.list items)) :=
    congrArg Except.ok h
  unfold itemsOf
  rw [hfeedback]
  rfl

theorem receive_eq {status : Int} {data : Table Value} {items : List Value}
    (hstatus : isSuccess status = true) (hdata : data.get? "feedback" = some (.list items))
    (hitems : ∀ item ∈ items, Item.IsRegular item) :
    receive (.response status (some (.dict data))) = display (withNotice items) := by
  unfold receive
  dsimp only
  rw [hstatus, itemsOf_eq hdata, ok_bind, itemsToShow_eq hitems]
  rfl

theorem click_eq {editor : String} {reception : Reception} {results : Markup}
    (hcode : sentCode editor ≠ "") (h : receive reception = .ok results) :
    click editor reception
      =
    { requests := [requestBody (sentCode editor)], loading := [.shown, .hidden], results } := by
  have hempty : (sentCode editor).isEmpty = false := by simpa using hcode
  unfold click
  dsimp only
  rw [hempty, h]
  rfl

/--
After an answer with items the page shows these items and, if it is needed, the notice: each item
once, in order of the lines, below a header that counts them by category. Without any item it says
so. In the end nothing tells any more that an analysis is going on.
-/
theorem click_shows_items {editor : String} {status : Int} {data : Table Value} {items : List Value}
    (hcode : sentCode editor ≠ "") (hstatus : isSuccess status = true)
    (hdata : data.get? "feedback" = some (.list items))
    (hitems : ∀ item ∈ items, Item.IsRegular item)
    (hsources : ∀ item ∈ items, Item.HasSource item) :
    ∃ results,
      click editor (.response status (some (.dict data)))
        =
      { requests := [requestBody (sentCode editor)], loading := [.shown, .hidden], results } ∧
      (withNotice items = [] →
        results = .given "div" ""
          "<p class=\"initial-message\">No issues found. Your code looks good!</p>") ∧
      (withNotice items ≠ [] → Shows (withNotice items) results) := by
  have hreceive := receive_eq hstatus hdata hitems
  by_cases hnil : withNotice items = []
  . have hdisplay : display []
        = .ok (.given "div" ""
          "<p class=\"initial-message\">No issues found. Your code looks good!</p>") :=
      congrArg (fun text => Except.ok (Markup.given "div" "" text)) (by decide +kernel)
    rw [hnil, hdisplay] at hreceive
    exact ⟨_, click_eq hcode hreceive, fun _ => rfl, fun hne => absurd hnil hne⟩
  . obtain ⟨results, hdisplay, hshows⟩ :=
      display_shows hnil (regular_withNotice hitems) (hasSource_withNotice hsources)
    rw [hdisplay] at hreceive
    exact ⟨results, click_eq hcode hreceive, fun heq => absurd heq hnil, fun _ => hshows⟩

def unexplainedItems : List Value :=
  [.dict
     [("line", .null), ("message", .str "a"), ("category", .str "syntax_error"),
      ("source", .str "ast")],
   .dict
     [("line", .float (.ofInt 10)), ("message", .str "b"), ("category", .str "bad_habit"),
      ("source", .str "pylint"), ("explanation", .str "")],
   .dict
     [("line", .int 9), ("message", .str "c"), ("category", .str "bad_habit"), ("fix", .null)]]

theorem regular_unexplainedItems :
    ∀ item ∈ unexplainedItems, Item.IsRegular item ∧ Item.HasSource item := by
  unfold unexplainedItems
  simp only [List.forall_mem_cons, List.not_mem_nil, false_implies, implies_true, and_true]
  refine ⟨⟨?_, "ast", rfl⟩, ⟨?_, "pylint", rfl⟩, ⟨?_, "undefined", rfl⟩⟩
  . exact ⟨.inl rfl, ⟨"a", rfl⟩, ⟨.syntaxError, rfl⟩, .inl rfl, .inl rfl⟩
  . exact ⟨.inr ⟨10, by decide, .inr rfl⟩, ⟨"b", rfl⟩, ⟨.badHabit, rfl⟩, .inr (.inr ⟨"", rfl⟩),
      .inl rfl⟩
  . exact ⟨.inr ⟨9, by decide, .inl rfl⟩, ⟨"c", rfl⟩, ⟨.badHabit, rfl⟩, .inl rfl, .inr (.inl rfl)⟩

/-- Of three items one has no line, and none has an explanation. -/
theorem click_shows_unexplained :
    ∃ results,
      click "pass" (.response 200 (some (.dict [("feedback", .list unexplainedItems)])))
        =
      { requests := [requestBody (sentCode "pass")], loading := [.shown, .hidden], results } ∧
      Shows (unexplainedItems ++ [missingExplanations]) results := by
  have hcode : sentCode "pass" ≠ "" := by decide
  have hnotice : withNotice unexplainedItems = unexplainedItems ++ [missingExplanations] := by
    apply if_pos
    decide
  have hstatus : isSuccess 200 = true := rfl
  have hdata : Table.get? [("feedback", Value.list unexplainedItems)] "feedback"
      = some (.list unexplainedItems) := rfl
  obtain ⟨results, hclick, -, hshows⟩ := click_shows_items hcode hstatus hdata
    (fun item hitem => (regular_unexplainedItems item hitem).1)
    (fun item hitem => (regular_unexplainedItems item hitem).2)
  rw [hnotice] at hshows
  exact ⟨results, hclick, hshows (List.cons_ne_nil _ _)⟩

theorem not_shows_messageResults (items : List Value) (message : String) :
    ¬ Shows items (messageResults message) := by
  rintro ⟨_, _, _, -, -, -, heq⟩
  injection heq with _ _ _ _ hchildren
  cases hchildren

/-- If it cannot be told who found an item, no item is shown. -/
theorem click_of_not_hasSource {editor : String} {status : Int} {data : Table Value}
    {items : List Value} (hcode : sentCode editor ≠ "") (hstatus : isSuccess status = true)
    (hdata : data.get? "feedback" = some (.list items))
    (hitems : ∀ item ∈ items, Item.IsRegular item)
    (hsource : ∃ item ∈ items, ¬ Item.HasSource item) :
    (click editor (.response status (some (.dict data)))).results
      =
    messageResults "Error: Cannot convert object to primitive value" := by
  have hempty : (sentCode editor).isEmpty = false := by simpa using hcode
  have hfails : display (withNotice items) = .error .noText := by
    obtain ⟨item, hitem, hsource⟩ := hsource
    apply display_of_not_hasSource (regular_withNotice hitems)
    exact ⟨item, subset_withNotice items hitem, hsource⟩
  unfold click
  dsimp only
  rw [hempty, receive_eq hstatus hdata hitems, hfails]
  rfl

theorem click_without_source :
    let item : Value := .dict
      [("line", .int 1), ("message", .str "m"), ("category", .str "bad_habit"),
       ("source", .dict [("toString", .int 1)])]
    let results :=
      (click "pass" (.response 200 (some (.dict [("feedback", .list [item])])))).results
    Item.IsRegular item ∧
      results = messageResults "Error: Cannot convert object to primitive value" ∧
      ¬ Shows (withNotice [item]) results := by
  intro item results
  have hregular : Item.IsRegular item :=
    ⟨.inr ⟨1, by decide, .inl rfl⟩, ⟨"m", rfl⟩, ⟨.badHabit, rfl⟩, .inl rfl, .inl rfl⟩
  have hsource : ¬ Item.HasSource item := by
    rintro ⟨s, hs⟩
    cases hs
  have hresults : results = messageResults "Error: Cannot convert object to primitive value" := by
    apply click_of_not_hasSource (by decide) rfl rfl
    . exact List.forall_mem_singleton.2 hregular
    . exact ⟨item, List.mem_singleton.2 rfl, hsource⟩
  refine ⟨hregular, hresults, ?_⟩
  rw [hresults]
  apply not_shows_messageResults

end Page

end HabitLens
