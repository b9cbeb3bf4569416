import HabitLens.Page.Results
import HabitLens.Proofs.Digits
import HabitLens.Proofs.StableSort
import HabitLens.Proofs.WholeNumber
import Mathlib.Algebra.Order.Monoid.Unbundled.WithTop

/-!
Items by line. The page collects the items of each line in a table and goes through the table with
the numbers first and in order. That puts the items in order of their lines, those without one
last, and leaves the items of one line as they came.
-/

namespace HabitLens.Page.Results

/-- The place of a line among the lines, where what has no number comes last. -/
def lineRank : Option Nat → WithTop Nat
  | some n => n
  | none => ⊤

theorem lineRank_inj {m n : Option Nat} (h : lineRank m = lineRank n) : m = n := by
  cases m with
  | none =>
    cases n with
    | none => rfl
    | some n => exact absurd h.symm (WithTop.coe_ne_top (a := n))
  | some m =>
    cases n with
    | none => exact absurd h (WithTop.coe_ne_top (a := m))
    | some n => exact congrArg some (WithTop.coe_inj.1 h)

structure Grouped (key : Value → String) (xs : List Value) (groups : Groups) : Prop where
  nodup : groups.keys.Nodup
  used : ∀ entry ∈ groups, ∃ x ∈ xs, key x = entry.1
  group : ∀ entry ∈ groups, entry.2 = xs.filter fun x => key x = entry.1
  covers : ∀ x ∈ xs, key x ∈ groups.keys

namespace Grouped

variable {key : Value → String} {xs : List Value} {groups : Groups}

theorem nil (key : Value → String) : Grouped key [] [] := by
  constructor
  . exact List.nodup_nil
  all_goals
    intro x hx
    cases hx

theorem getD_get? (h : Grouped key xs groups) (k : String) :
    (groups.get? k).getD [] = xs.filter fun x => key x = k := by
  cases hget : groups.get? k with
  | some vs => exact h.group (k, vs) (Table.mem_of_get? hget)
  | none =>
    rw [Option.getD_none]
    symm
    rw [List.filter_eq_nil_iff]
    intro x hx
    obtain ⟨entry, hentry, hkey⟩ := List.mem_map.1 (h.covers x hx)
    have hne := Table.get?_eq_none_iff.1 hget entry hentry
    rw [hkey] at hne
    simpa using hne

theorem add (h : Grouped key xs groups) (x : Value) :
    Grouped key (xs ++ [x])
      (groups.set (key x) ((groups.get? (key x)).getD [] ++ [x])) := by
  rw [h.getD_get?]
  constructor
  . exact Table.nodup_keys_set h.nodup _ _
  . intro entry hentry
    rcases Table.mem_set h.nodup hentry with rfl | ⟨hentry, -⟩
    . exact ⟨x, by simp, rfl⟩
    . obtain ⟨y, hy, hkey⟩ := h.used entry hentry
      exact ⟨y, List.mem_append_left _ hy, hkey⟩
  . intro entry hentry
    rw [List.filter_append]
    rcases Table.mem_set h.nodup hentry with rfl | ⟨hentry, hne⟩
    . simp
    . rw [h.group entry hentry]
      simp [hne.symm]
  . intro y hy
    rw [Table.keys_set]
    rcases List.mem_append.1 hy with hy | hy
    . have hmem := h.covers y hy
      split
      . exact hmem
      . exact List.mem_append_left _ hmem
    . obtain rfl := List.mem_singleton.1 hy
      split
      . next hmem => exact hmem
      . simp

variable {rank : Value → WithTop Nat}

/-- The names of the lines tell how the items rank, and items of one rank have one name. -/
structure Ranks (key : Value → String) (rank : Value → WithTop Nat) (xs : List Value) : Prop where
  index : ∀ x ∈ xs, rank x = lineRank (index? (key x))
  key_eq : ∀ x ∈ xs, ∀ y ∈ xs, rank x = rank y → key x = key y

theorem rank_eq (h : Grouped key xs groups) (hranks : Ranks key rank xs)
    {entry : String × List Value} (hentry : entry ∈ groups) {x : Value} (hx : x ∈ entry.2) :
    rank x = lineRank (index? entry.1) := by
  rw [h.group entry hentry, List.mem_filter, decide_eq_true_eq] at hx
  rw [hranks.index x hx.1, hx.2]

theorem filter_rank (h : Grouped key xs groups) (hranks : Ranks key rank xs)
    {entry : String × List Value} (hentry : entry ∈ groups) :
    entry.2 = xs.filter fun x => rank x = lineRank (index? entry.1) := by
  rw [h.group entry hentry]
  apply List.filter_congr
  intro x hx
  rw [decide_eq_decide]
  constructor
  . intro hkey
    rw [hranks.index x hx, hkey]
  . intro hrank
    obtain ⟨y, hy, hkey⟩ := h.used entry hentry
    rw [← hkey] at hrank ⊢
    apply hranks.key_eq x hx y hy
    rw [hrank, hranks.index y hy]

theorem pairwise_index (h : Grouped key xs groups) (hranks : Ranks key rank xs) :
    groups.Pairwise fun a b => index? a.1 ≠ index? b.1 := by
  have hkeys : groups.Pairwise fun a b => a.1 ≠ b.1 := List.pairwise_map.1 h.nodup
  apply hkeys.imp_of_mem
  intro a b ha hb hne hindex
  obtain ⟨x, hx, hxa⟩ := h.used a ha
  obtain ⟨y, hy, hyb⟩ := h.used b hb
  apply hne
  rw [← hxa, ← hyb] at hindex ⊢
  apply hranks.key_eq x hx y hy
  rw [hranks.index x hx, hranks.index y hy, hindex]

end Grouped

def numbered (groups : Groups) : List (Nat × List Value) :=
  groups.filterMap fun (line, items) => (index? line).map fun n => (n, items)

def others (groups : Groups) : Groups :=
  groups.filter fun (line, _) => (index? line).isNone

theorem ordered_eq (groups : Groups) :
    ordered groups
      =
    ((numbered groups).mergeSort fun a b => a.1 ≤ b.1).map (·.2) ++ (others groups).map (·.2) :=
  rfl

theorem mem_numbered {groups : Groups} {n : Nat} {vs : List Value} :
    (n, vs) ∈ numbered groups ↔ ∃ entry ∈ groups, index? entry.1 = some n ∧ entry.2 = vs := by
  unfold numbered
  simp

theorem mem_others {groups : Groups} {entry : String × List Value} :
    entry ∈ others groups ↔ entry ∈ groups ∧ index? entry.1 = none := by
  unfold others
  simp

theorem mem_ordered {groups : Groups} {vs : List Value} :
    vs ∈ ordered groups ↔ ∃ entry ∈ groups, entry.2 = vs := by
  rw [ordered_eq, List.mem_append, List.mem_map, List.mem_map]
  constructor
  . rintro (⟨⟨n, us⟩, hmem, rfl⟩ | ⟨entry, hmem, rfl⟩)
    . rw [List.mem_mergeSort] at hmem
      obtain ⟨entry, hentry, -, heq⟩ := mem_numbered.1 hmem
      exact ⟨entry, hentry, heq⟩
    . exact ⟨entry, (mem_others.1 hmem).1, rfl⟩
  . rintro ⟨entry, hentry, rfl⟩
    cases hindex : index? entry.1 with
    | none => exact .inr ⟨entry, mem_others.2 ⟨hentry, hindex⟩, rfl⟩
    | some n =>
      refine .inl ⟨(n, entry.2), ?_, rfl⟩
      rw [List.mem_mergeSort]
      exact mem_numbered.2 ⟨entry, hentry, hindex, rfl⟩

section

variable {key : Value → String} {rank : Value → WithTop Nat} {xs : List Value} {groups : Groups}
  (h : Grouped key xs groups) (hranks : Grouped.Ranks key rank xs)

include h hranks

theorem rank_of_mem_numbered {n : Nat} {vs : List Value} (hvs : (n, vs) ∈ numbered groups)
    {x : Value} (hx : x ∈ vs) : rank x = n := by
  obtain ⟨entry, hentry, hindex, rfl⟩ := mem_numbered.1 hvs
  rw [h.rank_eq hranks hentry hx, hindex]
  rfl

theorem rank_of_mem_others {entry : String × List Value} (hentry : entry ∈ others groups)
    {x : Value} (hx : x ∈ entry.2) : rank x = ⊤ := by
  obtain ⟨hentry, hindex⟩ := mem_others.1 hentry
  rw [h.rank_eq hranks hentry hx, hindex]
  rfl

theorem pairwise_numbered : (numbered groups).Pairwise fun a b => a.1 ≠ b.1 := by
  unfold numbered
  rw [List.pairwise_filterMap]
  apply (h.pairwise_index hranks).imp
  intro a b hne c hc d hd heq
  obtain ⟨m, hm, rfl⟩ := Option.map_eq_some_iff.1 hc
  obtain ⟨n, hn, rfl⟩ := Option.map_eq_some_iff.1 hd
  obtain rfl : m = n := heq
  exact hne (hm.trans hn.symm)

theorem pairwise_others (R : List Value → List Value → Prop) :
    (others groups).Pairwise fun a b => R a.2 b.2 := by
  apply ((h.pairwise_index hranks).filter _).imp_of_mem
  intro a b ha hb hne
  rw [(mem_others.1 ha).2, (mem_others.1 hb).2] at hne
  exact absurd rfl hne

theorem rising_ordered :
    (ordered groups).Pairwise fun us vs => ∀ a ∈ us, ∀ b ∈ vs, rank a < rank b := by
  rw [ordered_eq, List.pairwise_append, List.pairwise_map, List.pairwise_map]
  refine ⟨?_, pairwise_others h hranks fun us vs => ∀ a ∈ us, ∀ b ∈ vs, rank a < rank b, ?_⟩
  . have hsorted : ((numbered groups).mergeSort fun a b => a.1 ≤ b.1).Pairwise
        fun a b => decide (a.1 ≤ b.1) = true := by
      apply List.pairwise_mergeSort
      . simp only [decide_eq_true_eq]
        omega
      . simp only [Bool.or_eq_true, decide_eq_true_eq]
        omega
    have hdistinct := (List.mergeSort_perm (numbered groups) fun a b => a.1 ≤ b.1).symm.pairwise
      (pairwise_numbered h hranks) Ne.symm
    -- No two groups have the same number, so that sorting by number is strict.
    apply (hsorted.and hdistinct).imp_of_mem
    rintro ⟨m, us⟩ ⟨n, vs⟩ hm hn ⟨hle, hne⟩ a ha b hb
    rw [List.mem_mergeSort] at hm hn
    rw [rank_of_mem_numbered h hranks hm ha, rank_of_mem_numbered h hranks hn hb]
    exact WithTop.coe_lt_coe.2 (lt_of_le_of_ne (of_decide_eq_true hle) hne)
  . intro us hus vs hvs a ha b hb
    obtain ⟨⟨n, us⟩, hn, rfl⟩ := List.mem_map.1 hus
    obtain ⟨entry, hentry, rfl⟩ := List.mem_map.1 hvs
    rw [List.mem_mergeSort] at hn
    rw [rank_of_mem_numbered h hranks hn ha, rank_of_mem_others h hranks hentry hb]
    exact WithTop.coe_lt_top n

/-- The order of the groups is that of the lines. -/
theorem isStableSort_ordered : Sort.IsStableSort rank xs (ordered groups).flatten := by
  apply Sort.isStableSort_flatten
  . intro vs hvs
    obtain ⟨entry, hentry, rfl⟩ := mem_ordered.1 hvs
    exact ⟨_, h.filter_rank hranks hentry⟩
  . intro x hx
    obtain ⟨entry, hentry, hkey⟩ := List.mem_map.1 (h.covers x hx)
    refine ⟨entry.2, mem_ordered.2 ⟨entry, hentry, rfl⟩, ?_⟩
    rw [h.group entry hentry, List.mem_filter, decide_eq_true_eq]
    exact ⟨hx, hkey.symm⟩
  . exact rising_ordered h hranks

end

theorem index?_toDigits {n : Nat} (h : n ≤ maxIndex) :
    index? (String.ofList (Nat.toDigits 10 n)) = some n := by
  have hempty : (Nat.toDigits 10 n).isEmpty = false := by
    rw [List.isEmpty_eq_false_iff]
    exact Nat.toDigits_ne_nil
  have hall : (Nat.toDigits 10 n).all Text.isAsciiDigit = true := by
    rw [List.all_eq_true]
    intro c hc
    exact isAsciiDigit_of_mem_toDigits hc
  have hhead :
      ((Nat.toDigits 10 n).head? == some '0' && (Nat.toDigits 10 n).length != 1) = false := by
    rcases Nat.eq_zero_or_pos n with rfl | hpos
    . rfl
    . rw [beq_eq_false_iff_ne.2 (head?_toDigits hpos)]
      rfl
  unfold index?
  dsimp only
  rw [String.toList_ofList, natOf_toDigits (by decide) (by decide), hempty, hall, hhead]
  rw [decide_eq_false (Nat.not_lt.2 h)]
  rfl

def lineText : Option Nat → String
  | some n => String.ofList (Nat.toDigits 10 n)
  | none => "null"

theorem index?_lineText {line : Option Nat} (h : ∀ n ∈ line, n ≤ maxIndex) :
    index? (lineText line) = line := by
  cases line with
  | none => decide
  | some n => exact index?_toDigits (h n rfl)

theorem reservedNames_lineText {line : Option Nat} (h : ∀ n ∈ line, n ≤ maxIndex) :
    reservedNames.contains (lineText line) = false := by
  cases line with
  | none => decide
  | some n =>
    have hnone : ∀ name ∈ reservedNames, index? name = none := by decide
    rw [Bool.eq_false_iff, ne_eq, List.contains_iff_mem]
    intro hmem
    have hindex := index?_lineText h
    rw [hnone _ hmem] at hindex
    cases hindex

end HabitLens.Page.Results

namespace HabitLens.Page

theorem isPlain_numberLayout : numberLayout.IsPlain := by
  constructor <;> decide

theorem shown_ofInt {n : Nat} (h : n ≤ Results.maxIndex) :
    numberLayout.text (.ofInt n) = Results.lineText (some n) := by
  apply isPlain_numberLayout.text_ofInt
  exact Nat.lt_of_le_of_lt h (by decide)

end HabitLens.Page

namespace HabitLens.Page.Item

def lineNumber? (item : Value) : Option Nat :=
  match field item "line" with
  | some (.int n) => some n.toNat
  | some (.float x) => x.ratio?.map fun (p, q) => (p / q).toNat
  | _ => none

/-- The line of an item is a number, however it is written, or null. -/
def HasLine (item : Value) : Prop :=
  field item "line" = some .null ∨
    ∃ n : Nat, n ≤ Results.maxIndex ∧
      (field item "line" = some (.int n) ∨ field item "line" = some (.float (.ofInt n)))

theorem HasLine.shown {item : Value} (h : HasLine item) :
    (field item "line").shown = .ok (Results.lineText (lineNumber? item)) ∧
      ∀ n ∈ lineNumber? item, n ≤ Results.maxIndex := by
  unfold lineNumber?
  rcases h with hline | ⟨n, hn, hline | hline⟩
  . rw [hline]
    exact ⟨rfl, fun _ hmem => by cases hmem⟩
  . rw [hline]
    refine ⟨congrArg Except.ok (shown_ofInt hn), ?_⟩
    intro m hm
    obtain rfl := Option.some.inj hm
    exact hn
  . have hfloor := Binary64.floor_ratio?_ofInt (Nat.lt_of_le_of_lt hn (by decide))
    rw [hline]
    dsimp only
    rw [hfloor]
    refine ⟨congrArg Except.ok (shown_ofInt hn), ?_⟩
    intro m hm
    obtain rfl := Option.some.inj hm
    exact hn

end HabitLens.Page.Item

namespace HabitLens.Page.Results

def groupName (item : Value) : String :=
  lineText (Item.lineNumber? item)

theorem ranks_of_lines {items : List Value} (h : ∀ item ∈ items, Item.HasLine item) :
    Grouped.Ranks groupName (fun item => lineRank (Item.lineNumber? item)) items := by
  constructor
  . intro item hitem
    unfold groupName
    rw [index?_lineText (h item hitem).shown.2]
  . intro a _ b _ hrank
    unfold groupName
    rw [lineRank_inj hrank]

theorem addToGroup_eq {item : Value} (h : Item.HasLine item) (groups : Groups) :
    addToGroup groups item
      =
    .ok (groups.set (groupName item) ((groups.get? (groupName item)).getD [] ++ [item])) := by
  obtain ⟨hshown, hle⟩ := h.shown
  unfold addToGroup
  rw [hshown, Outcome.ok_bind, reservedNames_lineText hle]
  rfl

theorem foldlM_addToGroup {done items : List Value} {groups : Groups}
    (h : Grouped groupName done groups) (hitems : ∀ item ∈ items, Item.HasLine item) :
    ∃ groups', items.foldlM addToGroup groups = .ok groups' ∧
      Grouped groupName (done ++ items) groups' := by
  induction items generalizing done groups with
  | nil =>
    rw [List.append_nil]
    exact ⟨groups, rfl, h⟩
  | cons item items ih =>
    rw [List.forall_mem_cons] at hitems
    rw [List.append_cons]
    -- The table always holds the items that are done.
    rw [List.foldlM_cons, addToGroup_eq hitems.1, Outcome.ok_bind]
    exact ih (h.add item) hitems.2

/-- Collecting items and going through the lines puts the items in order of their lines. -/
theorem exists_ordered {items : List Value} (h : ∀ item ∈ items, Item.HasLine item) :
    ∃ groups, items.foldlM addToGroup [] = .ok groups ∧
      Sort.IsStableSort (fun item => lineRank (Item.lineNumber? item)) items
        (ordered groups).flatten := by
  obtain ⟨groups, hgroups, hgrouped⟩ := foldlM_addToGroup (.nil groupName) h
  exact ⟨groups, hgroups, isStableSort_ordered hgrouped (ranks_of_lines h)⟩

end HabitLens.Page.Results
