import HabitLens.Proofs.StableSort
import HabitLens.Service.Feedback
import Mathlib.Data.Int.Order.Basic
import Mathlib.Data.List.Pairwise
import Mathlib.Data.Prod.Lex

/-!
The order of items: by category and then by line. Items can be put in order if of any two that share
a category both have a line.
-/

namespace HabitLens.Review

/-- The number of a line, where a line without one counts as zero. -/
def lineNumber : Value → Int
  | .int n => n
  | _ => 0

theorem same_int (m n : Int) : Value.same (.int m) (.int n) = decide (m = n) := by
  simp only [Value.same, Value.compareNumbers?, Value.int?, Option.bind_some, Option.map_some]
  by_cases h : m = n <;> simp [h]

theorem less_int (m n : Int) : Value.less (.int m) (.int n) = .ok (decide (m < n)) := by
  simp only [Value.less, Value.isNumber, Value.compareNumbers?, Value.int?, Option.bind_some,
    Option.map_some]
  by_cases h : m < n <;> simp [h, compare_lt_iff_lt]

end HabitLens.Review

namespace HabitLens.Service.Feedback

open Review

namespace Key

def Precedes (a b : Key) : Prop :=
  a.priority < b.priority ∨
    a.priority = b.priority ∧ ∃ m n : Int, a.line = .int m ∧ b.line = .int n ∧ m ≤ n

/-- If two keys have the same priority, both have a line. -/
def Comparable (a b : Key) : Prop :=
  a.priority = b.priority → ∃ m n : Int, a.line = .int m ∧ b.line = .int n

def rank (k : Key) : Nat ×ₗ Int :=
  toLex (k.priority, lineNumber k.line)

theorem Comparable.symm {a b : Key} (h : a.Comparable b) : b.Comparable a := by
  intro hpriority
  obtain ⟨m, n, ha, hb⟩ := h hpriority.symm
  exact ⟨n, m, hb, ha⟩

instance : Std.Symm Comparable where
  symm _ _ := Comparable.symm

theorem rank_lt_iff (a b : Key) :
    a.rank < b.rank
      ↔
    a.priority < b.priority ∨
      a.priority = b.priority ∧ lineNumber a.line < lineNumber b.line :=
  Prod.Lex.toLex_lt_toLex

theorem Comparable.less_eq_ok {a b : Key} (h : a.Comparable b) :
    a.less b = .ok (decide (a.rank < b.rank)) := by
  unfold less
  simp only [rank_lt_iff]
  by_cases hpriority : a.priority = b.priority
  . obtain ⟨m, n, hm, hn⟩ := h hpriority
    rw [hm, hn, same_int, less_int, hpriority]
    by_cases heq : m = n
    . simp [heq, lineNumber]
    . simp [heq, lineNumber]
  . simp [hpriority]

theorem Comparable.precedes {a b : Key} (h : a.Comparable b) (hrank : a.rank ≤ b.rank) :
    a.Precedes b := by
  unfold rank at hrank
  rw [Prod.Lex.toLex_le_toLex] at hrank
  rcases hrank with hlt | ⟨heq, hle⟩
  . exact .inl hlt
  . obtain ⟨m, n, hm, hn⟩ := h heq
    rw [hm, hn] at hle
    exact .inr ⟨heq, m, n, hm, hn, hle⟩

theorem Precedes.rank_le {a b : Key} (h : a.Precedes b) : a.rank ≤ b.rank := by
  unfold rank
  rw [Prod.Lex.toLex_le_toLex]
  rcases h with hlt | ⟨heq, m, n, hm, hn, hle⟩
  . exact .inl hlt
  . rw [hm, hn]
    exact .inr ⟨heq, hle⟩

structure Orderly (keys : List Key) : Prop where
  comparable : keys.Pairwise Comparable
  same_self : ∀ k ∈ keys, k.line.same k.line = true

theorem orderly_of_lines {keys : List Key} (h : ∀ k ∈ keys, ∃ n : Int, k.line = .int n) :
    Orderly keys := by
  constructor
  . apply List.pairwise_of_forall_mem_list
    intro a ha b hb _
    obtain ⟨m, hm⟩ := h a ha
    obtain ⟨n, hn⟩ := h b hb
    exact ⟨m, n, hm, hn⟩
  . intro k hk
    obtain ⟨n, hn⟩ := h k hk
    rw [hn, same_int]
    simp

theorem Orderly.cons {first : Key} {keys : List Key} (h : Orderly keys)
    (hpriority : ∀ k ∈ keys, first.priority ≠ k.priority)
    (hsame : first.line.same first.line = true) : Orderly (first :: keys) := by
  constructor
  . rw [List.pairwise_cons]
    refine ⟨?_, h.comparable⟩
    intro k hk heq
    exact absurd heq (hpriority k hk)
  . intro k hk
    rcases List.mem_cons.1 hk with rfl | hk
    . exact hsame
    . exact h.same_self k hk

end Key

/-- Items in order, where those that are sorted by the same stay as they were found. -/
structure ArrangedBy {α : Type} (key : α → Key) (found items : List α) : Prop where
  perm : items.Perm found
  ordered : items.Pairwise (fun a b => (key a).Precedes (key b))
  stable : ∀ ties : List α, ties.Sublist found →
    ties.Pairwise (fun a b => key a = key b) → ties.Sublist items

section

variable {α : Type} {key : α → Key} {found items : List α}

theorem Key.Orderly.decides (h : Orderly (found.map key)) :
    Sort.Decides (fun a b => (key a).less (key b)) (fun a => (key a).rank) found := by
  intro a ha b hb
  have ha := List.mem_map_of_mem (f := key) ha
  have hb := List.mem_map_of_mem (f := key) hb
  by_cases heq : key a = key b
  . simp [heq, Key.less, h.same_self _ hb]
  . have hcomparable : (key a).Comparable (key b) :=
      h.comparable.forall ha hb heq
    exact hcomparable.less_eq_ok

theorem Key.Orderly.arrangedBy (h : Orderly (found.map key))
    (hsort : Sort.IsStableSort (fun a => (key a).rank) found items) :
    ArrangedBy key found items := by
  refine ⟨hsort.perm, ?_, ?_⟩
  . have hcomparable : items.Pairwise (fun a b => (key a).Comparable (key b)) := by
      apply hsort.perm.symm.pairwise (List.pairwise_map.1 h.comparable)
      intro a b hab
      exact hab.symm
    apply (hcomparable.and hsort.sorted).imp
    rintro a b ⟨hab, hrank⟩
    exact hab.precedes hrank
  . intro ties hties hkey
    cases ties with
    | nil => apply List.nil_sublist
    | cons i ties =>
      have hrank : ∀ t ∈ i :: ties, (key t).rank = (key i).rank := by
        intro t ht
        rcases List.mem_cons.1 ht with rfl | ht
        . rfl
        . rw [List.rel_of_pairwise_cons hkey ht]
      have hfilter : (i :: ties).filter (fun t => (key t).rank = (key i).rank) = i :: ties := by
        rw [List.filter_eq_self]
        intro t ht
        simp [hrank t ht]
      rw [← hfilter]
      refine (hties.filter _).trans ?_
      rw [← hsort.stable]
      apply List.filter_sublist

theorem Key.Orderly.sort (h : Orderly (found.map key)) :
    ∃ items, Sort.sort (fun a b => (key a).less (key b)) found = .ok items ∧
      ArrangedBy key found items := by
  obtain ⟨items, hsort, hstable⟩ := Sort.sort_stable h.decides
  exact ⟨items, hsort, h.arrangedBy hstable⟩

theorem Key.Orderly.sort_of_ordered (h : Orderly (items.map key))
    (hordered : items.Pairwise fun a b => (key a).Precedes (key b)) :
    Sort.sort (fun a b => (key a).less (key b)) items = .ok items :=
  Sort.sort_of_pairwise h.decides (hordered.imp fun hab => hab.rank_le)

theorem sort_map_of_key {r : Reading} {toValue : α → Value}
    (h : ∀ x ∈ items, Feedback.key r (toValue x) = .ok (key x)) :
    Feedback.sort r (items.map toValue)
      =
    (Sort.sort (fun a b => (key a).less (key b)) items).map (List.map toValue) := by
  unfold Feedback.sort
  rw [List.mapM_map]
  rw [Outcome.mapM_eq_ok (g := fun x => (key x, toValue x))]
  . rw [Outcome.ok_bind]
    rw [Sort.sort_map]
    cases Sort.sort (fun a b => (key a).less (key b)) items with
    | error f => rfl
    | ok xs => simp [Except.map, bind, Except.bind, pure, Except.pure]
  . intro x hx
    rw [Function.comp_apply]
    rw [h x hx]
    rfl

end

end HabitLens.Service.Feedback

namespace HabitLens.Review

open Service

def Issue.key (i : Issue) : Feedback.Key :=
  { priority := i.category.priority, line := i.line }

/-- Whether an issue may stand before another one: the category counts, and then the line. -/
def Issue.Precedes (a b : Issue) : Prop :=
  a.category.priority < b.category.priority ∨
    a.category.priority = b.category.priority ∧
      ∃ m n : Int, a.line = .int m ∧ b.line = .int n ∧ m ≤ n

/-- Issues in order, where those that are sorted by the same stay as they were found. -/
structure Arranged (found issues : List Issue) : Prop where
  perm : issues.Perm found
  ordered : issues.Pairwise Issue.Precedes
  stable : ∀ ties : List Issue, ties.Sublist found →
    ties.Pairwise (fun a b => a.key = b.key) → ties.Sublist issues

theorem Category.eq_of_priority_eq {a b : Category} (h : a.priority = b.priority) : a = b := by
  cases a <;> cases b <;> first | rfl | cases h

theorem Issue.key_less (a b : Issue) :
    a.key.less b.key
      =
    if a.category.priority = b.category.priority then
      if a.line.same b.line then .ok false else a.line.less b.line
    else .ok (a.category.priority < b.category.priority) :=
  rfl

def Orderly (issues : List Issue) : Prop :=
  Feedback.Key.Orderly (issues.map Issue.key)

theorem orderly_of_lines {issues : List Issue} (h : ∀ i ∈ issues, ∃ n : Int, i.line = .int n) :
    Orderly issues := by
  apply Feedback.Key.orderly_of_lines
  intro k hk
  obtain ⟨i, hi, rfl⟩ := List.mem_map.1 hk
  exact h i hi

theorem Orderly.cons {first : Issue} {issues : List Issue} (h : Orderly issues)
    (hcategory : ∀ i ∈ issues, first.category ≠ i.category)
    (hsame : first.line.same first.line = true) : Orderly (first :: issues) := by
  apply Feedback.Key.Orderly.cons h
  . intro k hk
    obtain ⟨i, hi, rfl⟩ := List.mem_map.1 hk
    intro hpriority
    exact hcategory i hi (Category.eq_of_priority_eq hpriority)
  . exact hsame

theorem Orderly.sort {found : List Issue} (h : Orderly found) :
    ∃ issues, Sort.sort (fun a b => a.key.less b.key) found = .ok issues ∧
      Arranged found issues := by
  obtain ⟨issues, hsort, harranged⟩ := Feedback.Key.Orderly.sort h
  exact ⟨issues, hsort, harranged.perm, harranged.ordered, harranged.stable⟩

end HabitLens.Review
