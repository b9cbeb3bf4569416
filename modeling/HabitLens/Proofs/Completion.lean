import HabitLens.Proofs.Entry
import HabitLens.Proofs.Marks

/-!
Items from elsewhere at the end of a request. An item may lack a category, and may tell how certain
it is instead. The deployments read its fields in different ways but give it the same category, and
both come to the same list, which stays as it is if it is arranged once more.
-/

namespace HabitLens

open Act
open Outcome
open Review

theorem Value.same_str_iff {v : Value} {s : String} : v.same (.str s) = true ↔ v = .str s := by
  cases v with
  | str t => simp [same]
  | float x =>
    have hfalse : same (.float x) (.str s) = false := by
      cases x <;> rfl
    simp [hfalse]
  | _ => simp [same, compareNumbers?, int?]

theorem Review.Category.ofName?_eq_some_iff {name : String} {c : Category} :
    ofName? name = some c ↔ c.name = name := by
  constructor
  . intro h
    have hname := List.find?_some h
    exact beq_iff_eq.1 hname
  . rintro rfl
    cases c <;> rfl

namespace Service

/-- An item with a line and a message. Its category, if it has one, need not be known. -/
structure Draft where
  fields : Table Value
  line : Int
  message : String
  category? : Option String
  get?_line : fields.get? "line" = some (.int line)
  get?_message : fields.get? "message" = some (.str message)
  get?_category : fields.get? "category" = category?.map .str

namespace Draft

def toValue (x : Draft) : Value :=
  .dict x.fields

/-- The category that an item is listed under: its own one, or one that fits what it says. -/
inductive Deserves (x : Draft) : String → Prop where
  | own {name : String} (h : x.category? = some name) : Deserves x name
  | unspecified (h : x.category? = none) (hcertainty : x.fields.get? "certainty" = none) :
      Deserves x "runtime_error"
  | malformed (h : x.category? = none)
      (hcertainty : x.fields.get? "certainty" = some (.str "error"))
      (hmessage : "SyntaxError".toList <:+: x.message.toList) : Deserves x "syntax_error"
  | fatal (h : x.category? = none) (hcertainty : x.fields.get? "certainty" = some (.str "error"))
      (hmessage : ¬"SyntaxError".toList <:+: x.message.toList)
      (hwords : ∃ w ∈ ["division by zero", "index out of range", "key error"],
        w.toList <:+: x.message.toList) : Deserves x "fatal_error"
  | certain (h : x.category? = none) (hcertainty : x.fields.get? "certainty" = some (.str "error"))
      (hmessage : ¬"SyntaxError".toList <:+: x.message.toList)
      (hwords : ∀ w ∈ ["division by zero", "index out of range", "key error"],
        ¬w.toList <:+: x.message.toList) : Deserves x "runtime_error"
  | doubtful (h : x.category? = none)
      (hcertainty : x.fields.get? "certainty" = some (.str "might_error")) :
      Deserves x "potential_error"
  | habit {v : Value} (h : x.category? = none) (hcertainty : x.fields.get? "certainty" = some v)
      (herror : v ≠ .str "error") (hmight : v ≠ .str "might_error") : Deserves x "bad_habit"

/-- An item with the category that it deserves, and otherwise as it was. -/
structure Completes (x y : Draft) : Prop where
  category : ∃ name, y.category? = some name ∧ x.Deserves name
  other : ∀ name, name ≠ "category" → y.fields.get? name = x.fields.get? name
  kept : x.category? ≠ none → y = x

def IsUnknown (x : Draft) : Prop :=
  ∀ c : Category, x.category? ≠ some c.name

def key (x : Draft) : Feedback.Key :=
  { priority := (x.category?.bind Category.ofName?).elim Feedback.lastPriority Category.priority
    line := .int x.line }

theorem mentions_str (s : String) (words : List String) :
    Feedback.mentions (.str s) words = .ok (words.any fun w => Text.occursIn w s) := by
  induction words with
  | nil => rfl
  | cons w words ih =>
    unfold Feedback.mentions
    rw [ih, List.any_cons]
    cases hw : Text.occursIn w s with
    | true => simp [Value.hasMember, hw, pure, Except.pure]
    | false => simp [Value.hasMember, hw]

theorem exists_legacyCategory {x : Draft} {v : Value} (h : x.category? = none)
    (hcertainty : x.fields.get? "certainty" = some v) :
    ∃ c : Category, x.Deserves c.name ∧
      ∀ r, Feedback.legacyCategory r x.toValue = .ok c := by
  have hread : ∀ r, Feedback.legacyCategory r x.toValue
      =
    .ok (
      if v.same (.str "error") then
        if Text.occursIn "SyntaxError" x.message then .syntaxError
        else if Feedback.fatalWords.any fun w => Text.occursIn w x.message then .fatalError
        else .runtimeError
      else if v.same (.str "might_error") then .potentialError
      else .badHabit) := by
    intro r
    unfold Feedback.legacyCategory toValue
    rw [r.get_of_get? hcertainty, ok_bind, r.get_of_get? x.get?_message, ok_bind]
    simp only [mentions_str, Value.hasMember, ok_bind]
    split_ifs <;> rfl
  refine ⟨_, ?_, hread⟩
  split_ifs with herror hmessage hwords hmight
  all_goals rw [Value.same_str_iff] at herror
  . subst herror
    exact .malformed h hcertainty (Text.occursIn_iff.1 hmessage)
  . subst herror
    rw [Text.occursIn_iff] at hmessage
    rw [List.any_eq_true] at hwords
    simp only [Text.occursIn_iff] at hwords
    exact .fatal h hcertainty hmessage hwords
  . subst herror
    rw [Text.occursIn_iff] at hmessage
    rw [List.any_eq_true] at hwords
    simp only [Text.occursIn_iff, not_exists, not_and] at hwords
    exact .certain h hcertainty hmessage hwords
  . rw [Value.same_str_iff] at hmight
    subst hmight
    exact .doubtful h hcertainty
  . rw [Value.same_str_iff] at hmight
    exact .habit h hcertainty herror hmight

theorem exists_category {x : Draft} (h : x.category? = none) :
    ∃ c : Category, x.Deserves c.name ∧
      ∀ r, Feedback.complete r x.toValue = x.toValue.setField "category" (.str c.name) := by
  have hget := x.get?_category
  rw [h] at hget
  unfold Feedback.complete
  cases hcertainty : x.fields.get? "certainty" with
  | none =>
    refine ⟨.runtimeError, .unspecified h hcertainty, ?_⟩
    intro r
    simp [toValue, Value.hasMember, Table.contains, hget, hcertainty]
  | some v =>
    obtain ⟨c, hc, hlegacy⟩ := exists_legacyCategory h hcertainty
    refine ⟨c, hc, ?_⟩
    intro r
    rw [hlegacy]
    simp [toValue, Value.hasMember, Table.contains, hget, hcertainty]

def withCategory (x : Draft) (h : x.category? = none) (name : String) : Draft where
  fields := x.fields ++ [("category", .str name)]
  line := x.line
  message := x.message
  category? := some name
  get?_line := by rw [Table.get?_append, x.get?_line]; rfl
  get?_message := by rw [Table.get?_append, x.get?_message]; rfl
  get?_category := by rw [Table.get?_append, x.get?_category, h]; rfl

theorem setField_category {x : Draft} (h : x.category? = none) (name : String) :
    x.toValue.setField "category" (.str name) = .ok (x.withCategory h name).toValue := by
  have hget := x.get?_category
  rw [h] at hget
  unfold toValue Value.setField
  dsimp only
  rw [Table.set_of_get?_eq_none hget]
  rfl

theorem completes_withCategory {x : Draft} (h : x.category? = none) {name : String}
    (hname : x.Deserves name) : x.Completes (x.withCategory h name) := by
  constructor
  . exact ⟨name, rfl, hname⟩
  . intro other hother
    unfold withCategory
    rw [Table.get?_append]
    simp [Table.get?, hother.symm]
  . intro hne
    exact absurd h hne

theorem complete_of_category {x : Draft} {name : String} (h : x.category? = some name)
    (r : Reading) : Feedback.complete r x.toValue = .ok x.toValue := by
  have hget := x.get?_category
  rw [h] at hget
  simp [Feedback.complete, toValue, Value.hasMember, Table.contains, hget]

theorem exists_complete (x : Draft) :
    ∃ y, x.Completes y ∧ ∀ r, Feedback.complete r x.toValue = .ok y.toValue := by
  cases h : x.category? with
  | some name =>
    refine ⟨x, ⟨⟨name, h, .own h⟩, fun _ _ => rfl, fun _ => rfl⟩, ?_⟩
    exact complete_of_category h
  | none =>
    obtain ⟨c, hc, hcomplete⟩ := exists_category h
    refine ⟨x.withCategory h c.name, completes_withCategory h hc, ?_⟩
    intro r
    rw [hcomplete, setField_category h]

theorem exists_mapM_complete (xs : List Draft) :
    ∃ ys, List.Forall₂ Completes xs ys ∧
      ∀ r, (xs.map toValue).mapM (Feedback.complete r) = .ok (ys.map toValue) := by
  induction xs with
  | nil => exact ⟨[], .nil, fun _ => rfl⟩
  | cons x xs ih =>
    obtain ⟨y, hy, hcomplete⟩ := exists_complete x
    obtain ⟨ys, hys, hmapM⟩ := ih
    refine ⟨y :: ys, .cons hy hys, ?_⟩
    intro r
    rw [List.map_cons, List.mapM_cons, hcomplete, hmapM]
    rfl

theorem category_of_completes {xs ys : List Draft} (h : List.Forall₂ Completes xs ys) :
    ∀ y ∈ ys, ∃ name, y.category? = some name := by
  induction h with
  | nil => exact List.forall_mem_nil _
  | cons hxy _ ih =>
    obtain ⟨name, hname, -⟩ := hxy.category
    exact List.forall_mem_cons.2 ⟨⟨name, hname⟩, ih⟩

theorem mapM_complete_of_category {xs : List Draft}
    (h : ∀ x ∈ xs, ∃ name, x.category? = some name) (r : Reading) :
    (xs.map toValue).mapM (Feedback.complete r) = .ok (xs.map toValue) := by
  rw [List.mapM_map]
  apply mapM_eq_ok
  intro x hx
  obtain ⟨name, hname⟩ := h x hx
  exact complete_of_category hname r

theorem get_category {x : Draft} {name : String} (h : x.category? = some name) (r : Reading)
    (default : Value) : r.get x.toValue "category" default = .ok (.str name) := by
  apply r.get_of_get?
  rw [x.get?_category, h]
  rfl

theorem key_toValue {x : Draft} {name : String} (h : x.category? = some name) (r : Reading) :
    Feedback.key r x.toValue = .ok x.key := by
  unfold Feedback.key key
  rw [get_category h, ok_bind, h]
  unfold toValue
  rw [r.get_of_get? x.get?_line]
  rfl

theorem orderly_key (xs : List Draft) : Feedback.Key.Orderly (xs.map key) := by
  apply Feedback.Key.orderly_of_lines
  intro k hk
  obtain ⟨x, -, rfl⟩ := List.mem_map.1 hk
  exact ⟨x.line, rfl⟩

theorem priority_lt (c : Category) : c.priority < Feedback.lastPriority := by
  cases c <;> decide

theorem priority_le (x : Draft) : x.key.priority ≤ Feedback.lastPriority := by
  unfold key
  cases x.category?.bind Category.ofName? with
  | none => exact Nat.le_refl _
  | some c => exact Nat.le_of_lt (priority_lt c)

theorem isUnknown_iff {x : Draft} : x.IsUnknown ↔ x.key.priority = Feedback.lastPriority := by
  unfold IsUnknown key
  cases x.category? with
  | none => simp
  | some name =>
    cases hname : Category.ofName? name with
    | none =>
      simp only [Option.bind_some, hname, Option.elim_none, iff_true]
      intro c heq
      rw [Category.ofName?_eq_some_iff.2 (Option.some.inj heq).symm] at hname
      cases hname
    | some c =>
      have hpriority := Nat.ne_of_lt (priority_lt c)
      simp only [Option.bind_some, hname, Option.elim_some, hpriority, iff_false, not_forall]
      exact ⟨c, by rw [Category.ofName?_eq_some_iff.1 hname]; simp⟩

theorem IsUnknown.of_precedes {x y : Draft} (hx : x.IsUnknown) (h : x.key.Precedes y.key) :
    y.IsUnknown := by
  rw [isUnknown_iff] at hx ⊢
  have hle := y.priority_le
  rcases h with hlt | ⟨heq, -⟩
  . omega
  . omega

end Draft

/-- What both deployments make of items, whatever happened before. -/
def Arranges (items result : List Value) : Prop :=
  Development.arrange items = .ok result ∧
    ∀ j, ∃ j', outcome (Hosted.arrange items) j = (.ok result, j')

open Draft

theorem Draft.arranges {xs completed sorted : List Draft}
    (hcompleted : ∀ r, (xs.map toValue).mapM (Feedback.complete r) = .ok (completed.map toValue))
    (hcategory : ∀ x ∈ completed, ∃ name, x.category? = some name)
    (hsort : Sort.sort (fun a b => a.key.less b.key) completed = .ok sorted) :
    Arranges (xs.map toValue) (sorted.map toValue) := by
  have hsorted : ∀ r, Feedback.sort r (completed.map toValue) = .ok (sorted.map toValue) := by
    intro r
    have hkey : ∀ x ∈ completed, Feedback.key r x.toValue = .ok x.key := by
      intro x hx
      obtain ⟨name, hname⟩ := hcategory x hx
      exact key_toValue hname r
    rw [Feedback.sort_map_of_key hkey, hsort]
    rfl
  obtain ⟨categories, hcategories⟩ : ∃ categories,
      (completed.map toValue).mapM (·.fieldOr "category" (.str "unknown")) = .ok categories := by
    apply exists_mapM
    intro item hitem
    obtain ⟨x, hx, rfl⟩ := List.mem_map.1 hitem
    obtain ⟨name, hname⟩ := hcategory x hx
    exact ⟨_, get_category hname .lenient _⟩
  constructor
  . unfold Development.arrange
    rw [hcompleted, ok_bind, hsorted]
  . intro j
    obtain ⟨j', harrange, -⟩ :=
      Hosted.leads_arrange_of (hcompleted .lenient) hcategories (hsorted .lenient) j
    exact ⟨j', harrange⟩

/--
Both deployments come to the same list of items: each item has a category, its own one if it had one
and otherwise the one that it deserves, and nothing else about it is changed. The items are in
order, those of unknown categories at the end. If the list is arranged once more, it stays as it is.
-/
theorem arrange_alike (items : List Draft) :
    ∃ completed result : List Draft,
      Arranges (items.map toValue) (result.map toValue) ∧
      List.Forall₂ Completes items completed ∧
      Feedback.ArrangedBy key completed result ∧
      (∀ x ∈ result, ∃ name, x.category? = some name) ∧
      result.Pairwise (fun x y => x.IsUnknown → y.IsUnknown) ∧
      Arranges (result.map toValue) (result.map toValue) := by
  obtain ⟨completed, hcompletes, hcompleted⟩ := exists_mapM_complete items
  obtain ⟨result, hsort, harranged⟩ := (orderly_key completed).sort
  have hcategory := category_of_completes hcompletes
  have hresult : ∀ x ∈ result, ∃ name, x.category? = some name := by
    intro x hx
    exact hcategory x (harranged.perm.subset hx)
  have hagain := (orderly_key result).sort_of_ordered harranged.ordered
  refine ⟨completed, result, arranges hcompleted hcategory hsort, hcompletes, harranged, hresult,
    ?_, arranges (mapM_complete_of_category hresult) hresult hagain⟩
  apply harranged.ordered.imp
  intro x y hxy hx
  exact hx.of_precedes hxy

def mixedDrafts : List Draft :=
  [{ fields := [("line", .int 1), ("message", .str "a"), ("category", .str "style")]
     line := 1, message := "a", category? := some "style"
     get?_line := rfl, get?_message := rfl, get?_category := rfl },
   { fields := [("line", .int 5), ("message", .str "b")]
     line := 5, message := "b", category? := none
     get?_line := rfl, get?_message := rfl, get?_category := rfl },
   { fields := [("line", .int 4), ("message", .str "c"), ("category", .str "runtime_error")]
     line := 4, message := "c", category? := some "runtime_error"
     get?_line := rfl, get?_message := rfl, get?_category := rfl },
   { fields := [("certainty", .str "error"), ("message", .str "key error"), ("line", .int 9)]
     line := 9, message := "key error", category? := none
     get?_line := rfl, get?_message := rfl, get?_category := rfl }]

/-- Both items without a category get one, and the item of an unknown one comes last. -/
theorem arrange_mixedDrafts :
    let result : List Value :=
      [.dict
         [("certainty", .str "error"), ("message", .str "key error"), ("line", .int 9),
          ("category", .str "fatal_error")],
       .dict [("line", .int 4), ("message", .str "c"), ("category", .str "runtime_error")],
       .dict [("line", .int 5), ("message", .str "b"), ("category", .str "runtime_error")],
       .dict [("line", .int 1), ("message", .str "a"), ("category", .str "style")]]
    Arranges (mixedDrafts.map toValue) result ∧ Arranges result result := by
  intro result
  obtain ⟨_, drafts, harranges, -, -, -, -, hagain⟩ := arrange_alike mixedDrafts
  have hresult : drafts.map toValue = result := by
    have hevaluated : (Development.arrange (mixedDrafts.map toValue)).toOption = some result := by
      decide +kernel
    exact Except.ok.inj (harranges.1.symm.trans (Outcome.toOption_eq_some.1 hevaluated))
  rw [hresult] at harranges hagain
  exact ⟨harranges, hagain⟩

end Service

end HabitLens
