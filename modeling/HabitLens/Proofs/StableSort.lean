import HabitLens.Data.Sort
import HabitLens.Proofs.Outcome
import Mathlib.Data.List.Basic
import Mathlib.Order.Lattice

/-!
The sort with comparisons that may fail. If it fails, a comparison of two of its items failed. If
comparisons agree with a rank, it succeeds, and its result is in order and leaves items of one rank
as they were.
-/

namespace HabitLens.Sort

open Outcome

variable {α β ε : Type} {less : α → α → Except ε Bool}

section Failure

theorem extendRun_append {goesOn : Bool → Bool} {last : α} {xs run rest : List α}
    (h : extendRun less goesOn last xs = .ok (run, rest)) : run ++ rest = xs := by
  induction xs generalizing last run with
  | nil =>
    simp only [extendRun, Except.ok.injEq, Prod.mk.injEq] at h
    rw [← h.1, ← h.2]
    rfl
  | cons x xs ih =>
    rw [extendRun] at h
    obtain ⟨b, -, h⟩ := bind_eq_ok.1 h
    split at h
    . obtain ⟨⟨run', rest'⟩, hrun, h⟩ := bind_eq_ok.1 h
      obtain ⟨rfl, rfl⟩ := Prod.mk.inj (Except.ok.inj h)
      rw [List.cons_append, ih hrun]
    . obtain ⟨rfl, rfl⟩ := Prod.mk.inj (Except.ok.inj h)
      rfl

theorem extendRun_error {goesOn : Bool → Bool} {last : α} {xs : List α} {e : ε}
    (h : extendRun less goesOn last xs = .error e) :
    ∃ a ∈ xs, ∃ b ∈ last :: xs, less a b = .error e := by
  induction xs generalizing last with
  | nil => simp [extendRun] at h
  | cons x xs ih =>
    rw [extendRun] at h
    rcases bind_eq_error.1 h with h | ⟨b, -, h⟩
    . exact ⟨x, by simp, last, by simp, h⟩
    . split at h
      . rcases bind_eq_error.1 h with h | ⟨⟨run, rest⟩, -, h⟩
        . obtain ⟨a, ha, b, hb, h⟩ := ih h
          exact ⟨a, List.mem_cons_of_mem x ha, b, List.mem_cons_of_mem last hb, h⟩
        . cases h
      . cases h

theorem firstRun_perm {xs run rest : List α} (h : firstRun less xs = .ok (run, rest)) :
    (run ++ rest).Perm xs := by
  unfold firstRun at h
  split at h
  . obtain ⟨rfl, rfl⟩ := Prod.mk.inj (Except.ok.inj h)
    apply List.Perm.refl
  . obtain ⟨rfl, rfl⟩ := Prod.mk.inj (Except.ok.inj h)
    apply List.Perm.refl
  . next x y tail =>
    obtain ⟨descending, -, h⟩ := bind_eq_ok.1 h
    obtain ⟨⟨taken, left⟩, htaken, h⟩ := bind_eq_ok.1 h
    obtain ⟨rfl, rfl⟩ := Prod.mk.inj (Except.ok.inj h)
    rw [← extendRun_append htaken]
    split
    . apply List.Perm.append_right left (List.reverse_perm (x :: y :: taken))
    . apply List.Perm.refl

theorem firstRun_error {xs : List α} {e : ε} (h : firstRun less xs = .error e) :
    ∃ a ∈ xs, ∃ b ∈ xs, less a b = .error e := by
  unfold firstRun at h
  split at h
  . cases h
  . cases h
  . next x y tail =>
    rcases bind_eq_error.1 h with h | ⟨descending, -, h⟩
    . exact ⟨y, by simp, x, by simp, h⟩
    . rcases bind_eq_error.1 h with h | ⟨⟨run, rest⟩, -, h⟩
      . obtain ⟨a, ha, b, hb, h⟩ := extendRun_error h
        refine ⟨a, ?_, b, List.mem_cons_of_mem x hb, h⟩
        exact List.mem_cons_of_mem x (List.mem_cons_of_mem y ha)
      . cases h

theorem place_error {x : α} {items : List α} {lo hi : Nat} {e : ε}
    (h : place less x items lo hi = .error e) : ∃ y ∈ items, less x y = .error e := by
  unfold place at h
  split at h
  . dsimp at h
    split at h
    . cases h
    . next y hy =>
      rcases bind_eq_error.1 h with h | ⟨b, -, h⟩
      . exact ⟨y, List.mem_of_getElem? hy, h⟩
      . split at h
        . exact place_error h
        . exact place_error h
  . cases h
termination_by hi - lo

theorem insert_perm {items ys : List α} {x : α} (h : insert less items x = .ok ys) :
    ys.Perm (items ++ [x]) := by
  obtain ⟨i, -, h⟩ := bind_eq_ok.1 h
  obtain rfl := Except.ok.inj h
  refine List.perm_middle.trans ?_
  rw [List.take_append_drop]
  exact (List.perm_append_singleton x items).symm

theorem insert_error {items : List α} {x : α} {e : ε} (h : insert less items x = .error e) :
    ∃ y ∈ items, less x y = .error e := by
  rcases bind_eq_error.1 h with h | ⟨i, -, h⟩
  . exact place_error h
  . cases h

theorem foldlM_insert_error {items rest : List α} {e : ε}
    (h : rest.foldlM (insert less) items = .error e) :
    ∃ a ∈ items ++ rest, ∃ b ∈ items ++ rest, less a b = .error e := by
  induction rest generalizing items with
  | nil =>
    rw [List.foldlM_nil] at h
    cases h
  | cons x rest ih =>
    rw [List.foldlM_cons] at h
    rcases bind_eq_error.1 h with h | ⟨items', hinsert, h⟩
    . obtain ⟨y, hy, h⟩ := insert_error h
      exact ⟨x, by simp, y, by simp [hy], h⟩
    . have hmem : ∀ a, a ∈ items' ++ rest → a ∈ items ++ x :: rest := by
        intro a ha
        have hperm := (insert_perm hinsert).append_right rest
        have ha := hperm.subset ha
        simpa using ha
      obtain ⟨a, ha, b, hb, h⟩ := ih h
      exact ⟨a, hmem a ha, b, hmem b hb, h⟩

theorem foldlM_insert_perm {items rest ys : List α}
    (h : rest.foldlM (insert less) items = .ok ys) : ys.Perm (items ++ rest) := by
  induction rest generalizing items with
  | nil =>
    rw [List.foldlM_nil] at h
    obtain rfl := Except.ok.inj h
    rw [List.append_nil]
  | cons x rest ih =>
    rw [List.foldlM_cons] at h
    obtain ⟨items', hinsert, h⟩ := bind_eq_ok.1 h
    refine (ih h).trans ?_
    rw [List.append_cons]
    exact (insert_perm hinsert).append_right rest

theorem sort_perm {xs ys : List α} (h : sort less xs = .ok ys) : ys.Perm xs := by
  obtain ⟨⟨run, rest⟩, hrun, h⟩ := bind_eq_ok.1 h
  exact (foldlM_insert_perm h).trans (firstRun_perm hrun)

theorem sort_error {xs : List α} {e : ε} (h : sort less xs = .error e) :
    ∃ a ∈ xs, ∃ b ∈ xs, less a b = .error e := by
  rcases bind_eq_error.1 h with h | ⟨⟨run, rest⟩, hrun, h⟩
  . exact firstRun_error h
  . obtain ⟨a, ha, b, hb, h⟩ := foldlM_insert_error h
    have hperm := firstRun_perm hrun
    exact ⟨a, hperm.subset ha, b, hperm.subset hb, h⟩

end Failure

section Naturality

variable {γ : Type} (f : γ → α)

theorem extendRun_map (goesOn : Bool → Bool) (last : γ) (xs : List γ) :
    extendRun less goesOn (f last) (xs.map f)
      =
    (extendRun (fun a b => less (f a) (f b)) goesOn last xs).map
      (fun (run, rest) => (run.map f, rest.map f)) := by
  induction xs generalizing last with
  | nil => rfl
  | cons x xs ih =>
    rw [List.map_cons, extendRun, extendRun]
    cases less (f x) (f last) with
    | error e => rfl
    | ok b =>
      rw [ok_bind, ok_bind]
      split
      . rw [ih]
        cases extendRun (fun a b => less (f a) (f b)) goesOn x xs with
        | error e => rfl
        | ok parts => rfl
      . rfl

theorem firstRun_map (xs : List γ) :
    firstRun less (xs.map f)
      =
    (firstRun (fun a b => less (f a) (f b)) xs).map
      (fun (run, rest) => (run.map f, rest.map f)) := by
  match xs with
  | [] => rfl
  | [x] => rfl
  | x :: y :: tail =>
    rw [List.map_cons, List.map_cons, firstRun, firstRun]
    cases less (f y) (f x) with
    | error e => rfl
    | ok descending =>
      rw [ok_bind, ok_bind, extendRun_map]
      cases extendRun (fun a b => less (f a) (f b)) (· == descending) y tail with
      | error e => rfl
      | ok parts => cases descending <;> simp [Except.map, bind, Except.bind, pure, Except.pure]

theorem place_map (x : γ) (items : List γ) (lo hi : Nat) :
    place less (f x) (items.map f) lo hi = place (fun a b => less (f a) (f b)) x items lo hi := by
  unfold place
  split
  . dsimp only
    rw [List.getElem?_map]
    cases items[lo + (hi - lo) / 2]? with
    | none => rfl
    | some y =>
      dsimp only [Option.map]
      rw [place_map, place_map]
  . rfl
termination_by hi - lo

theorem insert_map (items : List γ) (x : γ) :
    insert less (items.map f) (f x)
      =
    (insert (fun a b => less (f a) (f b)) items x).map (List.map f) := by
  rw [insert, insert, place_map, List.length_map]
  cases place (fun a b => less (f a) (f b)) x items 0 items.length with
  | error e => rfl
  | ok i => simp [Except.map, bind, Except.bind, pure, Except.pure]

theorem foldlM_insert_map (items rest : List γ) :
    (rest.map f).foldlM (insert less) (items.map f)
      =
    (rest.foldlM (insert fun a b => less (f a) (f b)) items).map (List.map f) := by
  induction rest generalizing items with
  | nil => rfl
  | cons x rest ih =>
    rw [List.map_cons, List.foldlM_cons, List.foldlM_cons, insert_map]
    cases insert (fun a b => less (f a) (f b)) items x with
    | error e => rfl
    | ok items => exact ih items

theorem sort_map (xs : List γ) :
    sort less (xs.map f) = (sort (fun a b => less (f a) (f b)) xs).map (List.map f) := by
  rw [sort, sort, firstRun_map]
  cases firstRun (fun a b => less (f a) (f b)) xs with
  | error e => rfl
  | ok parts => exact foldlM_insert_map f parts.1 parts.2

end Naturality

section Success

variable [LinearOrder β] {rank : α → β}

/-- Comparisons of the items succeed and agree with a rank. -/
def Decides (less : α → α → Except ε Bool) (rank : α → β) (xs : List α) : Prop :=
  ∀ a ∈ xs, ∀ b ∈ xs, less a b = .ok (decide (rank a < rank b))

/-- The items in order of rank, those of one rank in the order in which they came. -/
structure IsStableSort (rank : α → β) (xs ys : List α) : Prop where
  perm : ys.Perm xs
  sorted : ys.Pairwise (fun a b => rank a ≤ rank b)
  stable : ∀ k, ys.filter (fun a => rank a = k) = xs.filter (fun a => rank a = k)

theorem Decides.mono {xs ys : List α} (h : Decides less rank ys) (hsub : xs ⊆ ys) :
    Decides less rank xs := by
  intro a ha b hb
  exact h a (hsub ha) b (hsub hb)

theorem isStableSort_of_pairwise {xs : List α} (h : xs.Pairwise (fun a b => rank a ≤ rank b)) :
    IsStableSort rank xs xs := by
  constructor
  . apply List.Perm.refl
  . exact h
  . intro k
    rfl

theorem perm_of_stable {γ : Type} [DecidableEq γ] {key : α → γ} {xs ys : List α}
    (h : ∀ k, ys.filter (fun a => key a = k) = xs.filter (fun a => key a = k)) : ys.Perm xs := by
  classical
  rw [List.perm_iff_count]
  intro a
  have hys := List.count_filter (p := fun b => key b = key a) (l := ys) (a := a) (by simp)
  have hxs := List.count_filter (p := fun b => key b = key a) (l := xs) (a := a) (by simp)
  rw [← hys, ← hxs, h]

theorem isStableSort_flatten {xs : List α} {groups : List (List α)}
    (hgroups : ∀ vs ∈ groups, ∃ k, vs = xs.filter (fun a => rank a = k))
    (hall : ∀ a ∈ xs, ∃ vs ∈ groups, a ∈ vs)
    (hrising : groups.Pairwise fun us vs => ∀ a ∈ us, ∀ b ∈ vs, rank a < rank b) :
    IsStableSort rank xs groups.flatten := by
  have hstable : ∀ k,
      groups.flatten.filter (fun a => rank a = k) = xs.filter (fun a => rank a = k) := by
    intro k
    by_cases hk : ∃ a ∈ xs, rank a = k
    . -- The rank has a group, and items of the groups around it have other ranks.
      obtain ⟨a, ha, rfl⟩ := hk
      obtain ⟨vs, hvs, hmem⟩ := hall a ha
      obtain ⟨k, rfl⟩ := hgroups vs hvs
      obtain rfl : rank a = k := of_decide_eq_true (List.mem_filter.1 hmem).2
      obtain ⟨before, after, rfl⟩ := List.append_of_mem hvs
      rw [List.pairwise_append, List.pairwise_cons] at hrising
      obtain ⟨-, ⟨hafter, -⟩, hbefore⟩ := hrising
      have hbefore : before.flatten.filter (fun b => rank b = rank a) = [] := by
        rw [List.filter_eq_nil_iff]
        intro b hb
        obtain ⟨us, hus, hb⟩ := List.mem_flatten.1 hb
        have hlt := hbefore us hus _ List.mem_cons_self b hb a hmem
        simpa using ne_of_lt hlt
      have hafter : after.flatten.filter (fun b => rank b = rank a) = [] := by
        rw [List.filter_eq_nil_iff]
        intro b hb
        obtain ⟨us, hus, hb⟩ := List.mem_flatten.1 hb
        have hlt := hafter us hus a hmem b hb
        simpa using ne_of_gt hlt
      rw [List.flatten_append, List.flatten_cons, List.filter_append, List.filter_append]
      rw [hbefore, hafter, List.nil_append, List.append_nil, List.filter_filter]
      simp
    . have hnone : ∀ a ∈ xs, ¬ rank a = k := by
        intro a ha hak
        exact hk ⟨a, ha, hak⟩
      have hflatten : ∀ a ∈ groups.flatten, ¬ rank a = k := by
        intro a ha
        obtain ⟨vs, hvs, ha⟩ := List.mem_flatten.1 ha
        obtain ⟨_, rfl⟩ := hgroups vs hvs
        exact hnone a (List.mem_of_mem_filter ha)
      rw [List.filter_eq_nil_iff.2, List.filter_eq_nil_iff.2]
      . simpa using hnone
      . simpa using hflatten
  constructor
  . exact perm_of_stable hstable
  . rw [List.pairwise_flatten]
    constructor
    . intro vs hvs
      obtain ⟨k, rfl⟩ := hgroups vs hvs
      apply List.pairwise_of_forall_mem_list
      intro a ha b hb
      rw [List.mem_filter, decide_eq_true_eq] at ha hb
      rw [ha.2, hb.2]
    . apply hrising.imp
      intro us vs h a ha b hb
      exact le_of_lt (h a ha b hb)
  . exact hstable

theorem reverse_filter_of_falling {xs : List α} (h : xs.Pairwise (fun a b => rank b < rank a))
    (k : β) : (xs.filter (fun a => rank a = k)).reverse = xs.filter (fun a => rank a = k) := by
  induction xs with
  | nil => rfl
  | cons x xs ih =>
    rw [List.pairwise_cons] at h
    by_cases hx : rank x = k
    . have hnone : xs.filter (fun a => rank a = k) = [] := by
        rw [List.filter_eq_nil_iff]
        intro a ha
        have := h.1 a ha
        simp only [decide_eq_true_eq]
        intro hk
        rw [hk, hx] at this
        exact lt_irrefl k this
      simp [hx, hnone]
    . simp [hx, ih h.2]

theorem isStableSort_reverse {xs : List α} (h : xs.Pairwise (fun a b => rank b < rank a)) :
    IsStableSort rank xs xs.reverse := by
  constructor
  . apply List.reverse_perm
  . rw [List.pairwise_reverse]
    exact h.imp le_of_lt
  . intro k
    rw [List.filter_reverse]
    exact reverse_filter_of_falling h k

theorem pairwise_of_rising {xs : List α} (h : xs.IsChain (fun a b => rank a ≤ rank b)) :
    xs.Pairwise (fun a b => rank a ≤ rank b) := by
  have : Trans (fun a b : α => rank a ≤ rank b) (fun a b => rank a ≤ rank b)
      (fun a b => rank a ≤ rank b) := ⟨fun hab hbc => le_trans hab hbc⟩
  exact List.isChain_iff_pairwise.1 h

theorem pairwise_of_falling {xs : List α} (h : xs.IsChain (fun a b => rank b < rank a)) :
    xs.Pairwise (fun a b => rank b < rank a) := by
  have : Trans (fun a b : α => rank b < rank a) (fun a b => rank b < rank a)
      (fun a b => rank b < rank a) := ⟨fun hab hbc => lt_trans hbc hab⟩
  exact List.isChain_iff_pairwise.1 h

theorem extendRun_chain (goesOn : Bool → Bool) {last : α} {xs : List α}
    (h : Decides less rank (last :: xs)) :
    ∃ run rest, extendRun less goesOn last xs = .ok (run, rest) ∧
      (last :: run).IsChain (fun a b => goesOn (decide (rank b < rank a))) := by
  induction xs generalizing last with
  | nil => exact ⟨[], [], rfl, .singleton last⟩
  | cons x xs ih =>
    rw [extendRun]
    rw [h x (by simp) last (by simp)]
    rw [ok_bind]
    split
    . next hgoes =>
      obtain ⟨run, rest, hrun, hchain⟩ := ih (h.mono (List.subset_cons_self last (x :: xs)))
      rw [hrun]
      exact ⟨x :: run, rest, rfl, .cons_cons hgoes hchain⟩
    . exact ⟨[], x :: xs, rfl, .singleton last⟩

theorem firstRun_stable {xs : List α} (h : Decides less rank xs) :
    ∃ taken run rest, firstRun less xs = .ok (run, rest) ∧ taken ++ rest = xs ∧
      IsStableSort rank taken run := by
  unfold firstRun
  split
  . exact ⟨[], [], [], rfl, rfl, isStableSort_of_pairwise List.Pairwise.nil⟩
  . next x =>
    exact ⟨[x], [x], [], rfl, rfl, isStableSort_of_pairwise (List.pairwise_singleton _ x)⟩
  . next x y tail =>
    have htail : Decides less rank (y :: tail) := h.mono (List.subset_cons_self x (y :: tail))
    obtain ⟨run, rest, hrun, hchain⟩ := extendRun_chain (· == decide (rank y < rank x)) htail
    rw [h y (by simp) x (by simp)]
    rw [ok_bind]
    rw [hrun]
    refine ⟨x :: y :: run, _, rest, rfl, ?_, ?_⟩
    . rw [List.cons_append, List.cons_append]
      rw [extendRun_append hrun]
    . by_cases hlt : rank y < rank x
      . simp only [hlt, decide_true, if_true, beq_true, decide_eq_true_eq] at hchain ⊢
        apply isStableSort_reverse
        apply pairwise_of_falling
        exact .cons_cons hlt hchain
      . simp only [hlt, decide_false, Bool.false_eq_true, if_false, beq_false,
          Bool.not_eq_true', decide_eq_false_iff_not, not_lt] at hchain ⊢
        apply isStableSort_of_pairwise
        apply pairwise_of_rising
        exact .cons_cons (not_lt.1 hlt) hchain

theorem le_of_mem_take {items : List α} (hs : items.Pairwise (fun a b => rank a ≤ rank b))
    {mid : Nat} {y : α} (hy : items[mid]? = some y) {a : α} (ha : a ∈ items.take (mid + 1)) :
    rank a ≤ rank y := by
  obtain ⟨hmid, rfl⟩ := List.getElem?_eq_some_iff.1 hy
  obtain ⟨i, hi, rfl⟩ := List.mem_take_iff_getElem.1 ha
  cases Nat.eq_or_lt_of_le (show i ≤ mid by omega) with
  | inl heq =>
    subst heq
    apply le_refl
  | inr hlt => exact List.pairwise_iff_getElem.1 hs i mid (by omega) hmid hlt

theorem le_of_mem_drop {items : List α} (hs : items.Pairwise (fun a b => rank a ≤ rank b))
    {mid : Nat} {y : α} (hy : items[mid]? = some y) {a : α} (ha : a ∈ items.drop mid) :
    rank y ≤ rank a := by
  obtain ⟨hmid, rfl⟩ := List.getElem?_eq_some_iff.1 hy
  obtain ⟨i, hi, rfl⟩ := List.mem_drop_iff_getElem.1 ha
  cases Nat.eq_zero_or_pos i with
  | inl heq =>
    subst heq
    apply le_refl
  | inr hlt => exact List.pairwise_iff_getElem.1 hs mid (mid + i) hmid (by omega) (by omega)

/-- What halving keeps: items before `lo` do not come after `x`, and those from `hi` on do. -/
structure Encloses (rank : α → β) (x : α) (items : List α) (lo hi : Nat) : Prop where
  le : lo ≤ hi
  bound : hi ≤ items.length
  before : ∀ a ∈ items.take lo, rank a ≤ rank x
  behind : ∀ a ∈ items.drop hi, rank x < rank a

theorem Encloses.filter_drop {x : α} {items : List α} {lo hi : Nat}
    (h : Encloses rank x items lo hi) :
    (items.drop hi).filter (fun a => rank a = rank x) = [] := by
  rw [List.filter_eq_nil_iff]
  intro a ha
  have hlt := h.behind a ha
  simp only [decide_eq_true_eq]
  exact ne_of_gt hlt

theorem place_encloses {x : α} {items : List α} {lo hi : Nat}
    (hs : items.Pairwise (fun a b => rank a ≤ rank b))
    (hd : ∀ y ∈ items, less x y = .ok (decide (rank x < rank y)))
    (h : Encloses rank x items lo hi) :
    ∃ i, place less x items lo hi = .ok i ∧ Encloses rank x items i i := by
  have hle := h.le
  have hbound := h.bound
  unfold place
  split
  . next hlt =>
    dsimp
    have hmid : lo + (hi - lo) / 2 < items.length := by omega
    have hy := List.getElem?_eq_getElem hmid
    rw [hy]
    dsimp
    rw [hd _ (List.getElem_mem hmid)]
    rw [ok_bind]
    split
    . next hless =>
      -- The item in the middle comes after `x`, and so do all behind it.
      apply place_encloses hs hd
      constructor
      . omega
      . omega
      . exact h.before
      . intro a ha
        exact lt_of_lt_of_le (of_decide_eq_true hless) (le_of_mem_drop hs hy ha)
    . next hless =>
      apply place_encloses hs hd
      constructor
      . omega
      . omega
      . intro a ha
        have hnot : ¬ rank x < rank items[lo + (hi - lo) / 2] := by simpa using hless
        exact le_trans (le_of_mem_take hs hy ha) (not_lt.1 hnot)
      . exact h.behind
  . next hge =>
    have heq : lo = hi := by omega
    subst heq
    exact ⟨lo, rfl, h⟩
termination_by hi - lo

theorem insert_stable {taken items : List α} {x : α} (hs : IsStableSort rank taken items)
    (hd : ∀ y ∈ items, less x y = .ok (decide (rank x < rank y))) :
    ∃ ys, insert less items x = .ok ys ∧ IsStableSort rank (taken ++ [x]) ys := by
  have hwhole : Encloses rank x items 0 items.length := by
    constructor <;> simp
  obtain ⟨i, hplace, hi⟩ := place_encloses hs.sorted hd hwhole
  have hinsert : insert less items x = .ok (items.take i ++ x :: items.drop i) := by
    rw [insert, hplace]
    rfl
  refine ⟨_, hinsert, ?_, ?_, ?_⟩
  . exact (insert_perm hinsert).trans (hs.perm.append_right [x])
  . have hsplit := hs.sorted
    rw [← List.take_append_drop i items] at hsplit
    rw [List.pairwise_append] at hsplit ⊢
    rw [List.pairwise_cons]
    refine ⟨hsplit.1, ⟨fun b hb => le_of_lt (hi.behind b hb), hsplit.2.1⟩, ?_⟩
    intro a ha b hb
    rcases List.mem_cons.1 hb with rfl | hb
    . exact hi.before a ha
    . exact hsplit.2.2 a ha b hb
  . intro k
    have hparts : items.filter (fun a => rank a = k)
        = (items.take i).filter (fun a => rank a = k)
          ++ (items.drop i).filter (fun a => rank a = k) := by
      rw [← List.filter_append, List.take_append_drop]
    rw [List.filter_append, List.filter_append taken]
    rw [← hs.stable k, hparts, List.append_assoc]
    congr 1
    -- What has the rank of `x` already stands in front of its place.
    by_cases hk : rank x = k
    . subst hk
      simp [hi.filter_drop]
    . simp [hk]

theorem foldlM_insert_stable {taken items rest : List α} (hs : IsStableSort rank taken items)
    (hd : Decides less rank (taken ++ rest)) :
    ∃ ys, rest.foldlM (insert less) items = .ok ys ∧ IsStableSort rank (taken ++ rest) ys := by
  induction rest generalizing taken items with
  | nil =>
    rw [List.append_nil]
    exact ⟨items, rfl, hs⟩
  | cons x rest ih =>
    have hx : ∀ y ∈ items, less x y = .ok (decide (rank x < rank y)) := by
      intro y hy
      apply hd
      . simp
      . simp [hs.perm.subset hy]
    obtain ⟨items', hinsert, hs'⟩ := insert_stable hs hx
    rw [List.foldlM_cons, hinsert, ok_bind]
    rw [List.append_cons] at hd ⊢
    exact ih hs' hd

/-- The sort succeeds and is stable wherever comparisons agree with a rank. -/
theorem sort_stable {xs : List α} (h : Decides less rank xs) :
    ∃ ys, sort less xs = .ok ys ∧ IsStableSort rank xs ys := by
  obtain ⟨taken, run, rest, hrun, rfl, hs⟩ := firstRun_stable h
  rw [sort, hrun, ok_bind]
  exact foldlM_insert_stable hs h

/-- The order of ranks, and within a rank the order of arrival, leave one arrangement only. -/
theorem eq_of_stable {xs ys : List α} (hxs : xs.Pairwise (fun a b => rank a ≤ rank b))
    (hys : ys.Pairwise (fun a b => rank a ≤ rank b))
    (h : ∀ k, ys.filter (fun a => rank a = k) = xs.filter (fun a => rank a = k)) : ys = xs := by
  have hperm := perm_of_stable h
  induction ys generalizing xs with
  | nil => exact (List.nil_perm.1 hperm).symm
  | cons y ys ih =>
    cases xs with
    | nil => cases List.perm_nil.1 hperm
    | cons x xs =>
      rw [List.pairwise_cons] at hxs hys
      -- Each of the first items is somewhere in the other list, so their ranks are the same.
      have hyx : rank y ≤ rank x := by
        rcases List.mem_cons.1 (hperm.symm.subset List.mem_cons_self) with rfl | hx
        . exact le_refl _
        . exact hys.1 x hx
      have hxy : rank x ≤ rank y := by
        rcases List.mem_cons.1 (hperm.subset List.mem_cons_self) with rfl | hy
        . exact le_refl _
        . exact hxs.1 y hy
      have hfirst := h (rank y)
      simp only [le_antisymm hxy hyx, decide_true, List.filter_cons_of_pos, List.cons.injEq]
        at hfirst
      obtain ⟨rfl, -⟩ := hfirst
      have hrest : ∀ k, ys.filter (fun a => rank a = k) = xs.filter (fun a => rank a = k) := by
        intro k
        have hk := h k
        by_cases hyk : rank y = k <;> simpa [hyk] using hk
      rw [ih hxs.2 hys.2 hrest hperm.cons_inv]

theorem sort_of_pairwise {xs : List α} (h : Decides less rank xs)
    (hxs : xs.Pairwise (fun a b => rank a ≤ rank b)) : sort less xs = .ok xs := by
  obtain ⟨ys, hsort, hstable⟩ := sort_stable h
  rw [hsort, eq_of_stable hxs hstable.sorted hstable.stable]

end Success

end HabitLens.Sort
