import HabitLens.Proofs.StableSort
import HabitLens.Proofs.Subtree
import HabitLens.Review.Analyzer
import Mathlib.Data.List.Induction

/-!
Names of built-ins that are given to something else. The check meets them in the order of the walk,
collects them name by name in a table and goes through that table. That moves the occurrences of one
name together, names in the order in which they were met first, and changes nothing else.
-/

namespace HabitLens

namespace Table

theorem get?_map_mk (keys : List String) (f : String → α) (key : String) :
    Table.get? (keys.map fun k => (k, f k)) key = if key ∈ keys then some (f key) else none := by
  induction keys with
  | nil => rfl
  | cons k keys ih =>
    rw [List.map_cons, get?, ih]
    by_cases h : k = key
    . simp [h]
    . simp [h, Ne.symm h]

theorem set_map_mk {keys : List String} (hnodup : keys.Nodup) {key : String} (hkey : key ∈ keys)
    (f : String → α) (value : α) :
    Table.set (keys.map fun k => (k, f k)) key value
      =
    keys.map fun k => (k, if k = key then value else f k) := by
  induction keys with
  | nil => cases hkey
  | cons k keys ih =>
    obtain ⟨hk, hnodup⟩ := List.nodup_cons.1 hnodup
    rw [List.map_cons, List.map_cons, set]
    by_cases h : k = key
    . subst h
      have hrest : ∀ l ∈ keys, l ≠ k := by
        rintro l hl rfl
        exact hk hl
      rw [if_pos rfl, if_pos rfl]
      congr 1
      apply List.map_congr_left
      intro l hl
      rw [if_neg (hrest l hl)]
    . rw [if_neg h, if_neg h, ih hnodup ((List.mem_cons.1 hkey).resolve_left (Ne.symm h))]

end Table

section Regroup

variable {α : Type} (key : α → String)

def keysInOrder (xs : List α) : List String :=
  (xs.map key).eraseDups

def regroup (xs : List α) : List α :=
  (keysInOrder key xs).flatMap fun k => xs.filter (key · = k)

variable {key}

theorem mem_keysInOrder {xs : List α} {k : String} :
    k ∈ keysInOrder key xs ↔ k ∈ xs.map key :=
  List.mem_eraseDups

theorem filter_of_not_mem_keysInOrder {xs : List α} {k : String} (h : k ∉ keysInOrder key xs) :
    xs.filter (key · = k) = [] := by
  rw [List.filter_eq_nil_iff]
  intro x hx hk
  rw [mem_keysInOrder] at h
  exact h (List.mem_map.2 ⟨x, hx, of_decide_eq_true hk⟩)

theorem keysInOrder_concat (xs : List α) (x : α) :
    keysInOrder key (xs ++ [x])
      =
    if key x ∈ keysInOrder key xs then keysInOrder key xs else keysInOrder key xs ++ [key x] := by
  rw [keysInOrder, List.map_append, List.eraseDups_append]
  simp only [mem_keysInOrder, List.map_cons, List.map_nil, List.removeAll, List.filter_cons,
    List.filter_nil, List.elem_eq_mem]
  by_cases h : key x ∈ xs.map key
  . simp only [h, decide_true, Bool.not_true, Bool.false_eq_true, if_false, if_true]
    apply List.append_nil
  . simp only [h, decide_false, Bool.not_false, if_true, if_false]
    rw [List.eraseDups_cons]
    rfl

theorem pairwise_keysInOrder (xs : List α) :
    (keysInOrder key xs).Pairwise fun k l => (xs.map key).idxOf k < (xs.map key).idxOf l := by
  induction xs using List.reverseRecOn with
  | nil => simp [keysInOrder]
  | append_singleton xs x ih =>
    rw [List.map_append, keysInOrder_concat]
    have hold : (keysInOrder key xs).Pairwise fun k l =>
        (xs.map key ++ [key x]).idxOf k < (xs.map key ++ [key x]).idxOf l := by
      apply ih.imp_of_mem
      intro k l hk hl hlt
      rw [List.idxOf_append_of_mem (mem_keysInOrder.1 hk)]
      rwa [List.idxOf_append_of_mem (mem_keysInOrder.1 hl)]
    split
    . exact hold
    . next hnew =>
      rw [List.pairwise_append]
      refine ⟨hold, List.pairwise_singleton _ _, ?_⟩
      intro k hk l hl
      rw [List.mem_singleton.1 hl]
      rw [mem_keysInOrder] at hk hnew
      rw [List.idxOf_append_of_mem hk, List.idxOf_append_of_notMem hnew]
      apply Nat.lt_add_right
      exact List.idxOf_lt_length_of_mem hk

theorem nodup_keysInOrder (xs : List α) : (keysInOrder key xs).Nodup := by
  apply (pairwise_keysInOrder xs).imp
  rintro k _ hlt rfl
  exact Nat.lt_irrefl _ hlt

theorem regroup_map {β : Type} (f : β → α) (xs : List β) :
    regroup key (xs.map f) = (regroup (fun x => key (f x)) xs).map f := by
  unfold regroup keysInOrder
  rw [List.map_flatMap, List.map_map]
  simp only [List.filter_map]
  rfl

/-- Items are moved together by a key: nothing else about their order changes. -/
structure Regrouped (key : α → String) (xs ys : List α) : Prop where
  perm : ys.Perm xs
  together : ∀ k, ys.filter (key · = k) <:+: ys
  kept : ∀ k, ys.filter (key · = k) = xs.filter (key · = k)
  first : ys.Pairwise fun x y => (xs.map key).idxOf (key x) ≤ (xs.map key).idxOf (key y)

theorem filter_flatMap_filter {keys : List String} (hnodup : keys.Nodup) (xs : List α) {k : String}
    (hk : k ∈ keys) :
    (keys.flatMap fun l => xs.filter (key · = l)).filter (key · = k) = xs.filter (key · = k) := by
  induction keys with
  | nil => cases hk
  | cons l keys ih =>
    obtain ⟨hl, hnodup⟩ := List.nodup_cons.1 hnodup
    rw [List.flatMap_cons, List.filter_append, List.filter_filter]
    by_cases h : l = k
    . subst h
      have hrest : (keys.flatMap fun l => xs.filter (key · = l)).filter (key · = l) = [] := by
        rw [List.filter_eq_nil_iff]
        intro x hx hxl
        obtain ⟨m, hm, hx⟩ := List.mem_flatMap.1 hx
        obtain rfl : key x = m := of_decide_eq_true (List.mem_filter.1 hx).2
        obtain rfl : key x = l := of_decide_eq_true hxl
        exact hl hm
      rw [hrest, List.append_nil]
      simp
    . rw [ih hnodup ((List.mem_cons.1 hk).resolve_left (Ne.symm h))]
      rw [List.filter_eq_nil_iff.2, List.nil_append]
      intro x _ hx
      simp only [Bool.and_eq_true, decide_eq_true_eq] at hx
      exact h (hx.2.symm.trans hx.1)

theorem filter_regroup (xs : List α) (k : String) :
    (regroup key xs).filter (key · = k) = xs.filter (key · = k) := by
  by_cases hk : k ∈ keysInOrder key xs
  . exact filter_flatMap_filter (nodup_keysInOrder xs) xs hk
  . rw [filter_of_not_mem_keysInOrder hk, List.filter_eq_nil_iff]
    intro x hx hxk
    obtain ⟨l, hl, hx⟩ := List.mem_flatMap.1 hx
    obtain rfl : key x = l := of_decide_eq_true (List.mem_filter.1 hx).2
    obtain rfl : key x = k := of_decide_eq_true hxk
    exact hk hl

theorem regrouped_regroup (xs : List α) : Regrouped key xs (regroup key xs) := by
  constructor
  . exact Sort.perm_of_stable (filter_regroup xs)
  . intro k
    rw [filter_regroup]
    by_cases hk : k ∈ keysInOrder key xs
    . obtain ⟨before, after, hkeys⟩ := List.append_of_mem hk
      unfold regroup
      rw [hkeys, List.flatMap_append, List.flatMap_cons, ← List.append_assoc]
      exact List.infix_append _ _ _
    . rw [filter_of_not_mem_keysInOrder hk]
      exact List.nil_infix
  . exact filter_regroup xs
  . apply List.pairwise_flatMap.2
    constructor
    . intro k _
      apply List.pairwise_of_forall_mem_list
      intro x hx y hy
      rw [List.mem_filter, decide_eq_true_eq] at hx hy
      rw [hx.2, hy.2]
    . apply (pairwise_keysInOrder xs).imp
      intro k l hlt x hx y hy
      rw [List.mem_filter, decide_eq_true_eq] at hx hy
      rw [hx.2, hy.2]
      exact Nat.le_of_lt hlt

end Regroup

namespace Review

open Source

namespace Shadowing

theorem collect_of_occurrences (os : List Occurrence) (o : Occurrence) :
    collect ((keysInOrder (·.name) os).map fun k => (k, os.filter (·.name = k))) o
      =
    (keysInOrder (·.name) (os ++ [o])).map fun k => (k, (os ++ [o]).filter (·.name = k)) := by
  unfold collect
  rw [Table.get?_map_mk, keysInOrder_concat]
  by_cases h : o.name ∈ keysInOrder Occurrence.name os
  . rw [if_pos h, if_pos h, Option.getD_some, Table.set_map_mk (nodup_keysInOrder os) h]
    apply List.map_congr_left
    intro k _
    rw [List.filter_append]
    by_cases hk : k = o.name
    . simp [hk]
    . simp [hk, Ne.symm hk]
  . have hnone : Table.get? ((keysInOrder Occurrence.name os).map fun k =>
        (k, os.filter (·.name = k))) o.name = none := by
      rw [Table.get?_map_mk, if_neg h]
    rw [if_neg h, if_neg h, Option.getD_none, Table.set_of_get?_eq_none hnone, List.map_append]
    congr 1
    . apply List.map_congr_left
      intro k hk
      have hne : o.name ≠ k := by
        rintro rfl
        exact h hk
      simp [hne]
    . simp [filter_of_not_mem_keysInOrder h]

theorem foldl_collect (os : List Occurrence) :
    os.foldl collect []
      =
    (keysInOrder (·.name) os).map fun k => (k, os.filter (·.name = k)) := by
  induction os using List.reverseRecOn with
  | nil => rfl
  | append_singleton os o ih =>
    rw [List.foldl_append, ih]
    apply collect_of_occurrences

theorem grouped_eq_regroup (os : List Occurrence) : grouped os = regroup (·.name) os := by
  unfold grouped
  rw [foldl_collect, List.flatMap_map]
  rfl

/-- An occurrence, with the number of the visit and the index in the statement where it was met. -/
structure Sighting where
  visit : Nat
  index : Nat
  occurrence : Occurrence

namespace Sighting

def name (x : Sighting) : String :=
  x.occurrence.name

def Before (x y : Sighting) : Prop :=
  x.visit < y.visit ∨ x.visit = y.visit ∧ x.index < y.index

end Sighting

/-- At an index of a node, the name of a built-in is given to something else. -/
inductive Shadows : Node → Nat → Occurrence → Prop where
  | target {line : Nat} {targets : List Expr} {value : Expr} {k nameLine : Nat} {name : String}
      {usage : Usage} (htarget : targets[k]? = some (.name nameLine name usage))
      (hbuiltin : name ∈ builtins) :
      Shadows (.stmt (.assign line targets value)) k ⟨name, .assign line targets value, false⟩
  | parameter {line : Nat} {function : String} {params : Params} {body : List Stmt}
      {decorators : List Expr} {returns : Option Expr} {k nameLine : Nat} {name : String}
      {annot : Option Expr} (hparameter : params.args[k]? = some (.mk nameLine name annot))
      (hbuiltin : name ∈ builtins) :
      Shadows (.stmt (.functionDef line false function params body decorators returns)) k
        ⟨name, .functionDef line false function params body decorators returns, true⟩

def slots : Stmt → List (Option String)
  | .assign _ targets _ => targets.map Expr.name?
  | .functionDef _ false _ params .. => params.args.map fun q => some q.name
  | _ => []

def isDefinition : Stmt → Bool
  | .functionDef .. => true
  | _ => false

def sighting? (visit : Nat) (s : Stmt) : Option String × Nat → Option Sighting
  | (some name, k) =>
    if builtins.contains name then some ⟨visit, k, name, s, isDefinition s⟩ else none
  | (none, _) => none

def sightingsAt : Node × Nat → List Sighting
  | (.stmt s, visit) => (slots s).zipIdx.filterMap (sighting? visit s)
  | _ => []

def sightings (ns : List Node) : List Sighting :=
  ns.zipIdx.flatMap sightingsAt

theorem slots_eq_some_iff {s : Stmt} {k : Nat} {name : String} (h : name ∈ builtins) :
    (slots s)[k]? = some (some name) ↔ Shadows (.stmt s) k ⟨name, s, isDefinition s⟩ := by
  constructor
  . intro hslot
    unfold slots at hslot
    split at hslot
    . rw [List.getElem?_map, Option.map_eq_some_iff] at hslot
      obtain ⟨target, htarget, hname⟩ := hslot
      cases target with
      | name nameLine id usage =>
        obtain rfl := Option.some.inj hname
        exact .target htarget h
      | _ => cases hname
    . rw [List.getElem?_map, Option.map_eq_some_iff] at hslot
      obtain ⟨⟨nameLine, id, annot⟩, hparameter, hname⟩ := hslot
      obtain rfl := Option.some.inj hname
      exact .parameter hparameter h
    . cases hslot
  . intro hshadows
    cases hshadows with
    | target htarget _ => simp [slots, htarget, Expr.name?]
    | parameter hparameter _ => simp [slots, hparameter, Param.name]

theorem Shadows.eq_mk {n : Node} {k : Nat} {o : Occurrence} (h : Shadows n k o) :
    o.name ∈ builtins ∧ n = .stmt o.stmt ∧ o.isParameter = isDefinition o.stmt := by
  cases h with
  | target _ hbuiltin => exact ⟨hbuiltin, rfl, rfl⟩
  | parameter _ hbuiltin => exact ⟨hbuiltin, rfl, rfl⟩

theorem sighting?_eq_some_iff {visit : Nat} {s : Stmt} {slot : Option String × Nat} {x : Sighting} :
    sighting? visit s slot = some x
      ↔
    slot = (some x.name, x.index) ∧ x.name ∈ builtins ∧ x.visit = visit ∧
      x.occurrence = ⟨x.name, s, isDefinition s⟩ := by
  obtain ⟨name?, k⟩ := slot
  obtain ⟨v, i, o⟩ := x
  cases name? with
  | none => simp [sighting?]
  | some name =>
    simp only [sighting?, List.contains_iff_mem, Sighting.name]
    split
    . next h =>
      simp only [Option.some.injEq, Sighting.mk.injEq, Prod.mk.injEq]
      constructor
      . rintro ⟨rfl, rfl, rfl⟩
        exact ⟨⟨rfl, rfl⟩, h, rfl, rfl⟩
      . rintro ⟨⟨rfl, rfl⟩, -, rfl, ho⟩
        exact ⟨rfl, rfl, ho.symm⟩
    . next h =>
      simp only [reduceCtorEq, false_iff]
      rintro ⟨hslot, hbuiltin, -⟩
      obtain rfl : name = o.name := by simpa using congrArg Prod.fst hslot
      exact h hbuiltin

theorem mem_sightingsAt {n : Node} {visit : Nat} {x : Sighting} :
    x ∈ sightingsAt (n, visit) ↔ x.visit = visit ∧ Shadows n x.index x.occurrence := by
  constructor
  . intro hx
    cases n with
    | stmt s =>
      obtain ⟨slot, hslot, hx⟩ := List.mem_filterMap.1 hx
      obtain ⟨rfl, hbuiltin, hvisit, ho⟩ := sighting?_eq_some_iff.1 hx
      rw [List.mem_zipIdx_iff_getElem?] at hslot
      rw [ho]
      exact ⟨hvisit, (slots_eq_some_iff hbuiltin).1 hslot⟩
    | _ => cases hx
  . rintro ⟨hvisit, hshadows⟩
    obtain ⟨hbuiltin, rfl, hparameter⟩ := hshadows.eq_mk
    have ho : x.occurrence = ⟨x.name, x.occurrence.stmt, isDefinition x.occurrence.stmt⟩ := by
      rw [← hparameter]
      rfl
    rw [ho] at hshadows
    apply List.mem_filterMap.2
    refine ⟨(some x.name, x.index), ?_, sighting?_eq_some_iff.2 ⟨rfl, hbuiltin, hvisit, ho⟩⟩
    rw [List.mem_zipIdx_iff_getElem?]
    exact (slots_eq_some_iff hbuiltin).2 hshadows

theorem mem_sightings {ns : List Node} {x : Sighting} :
    x ∈ sightings ns ↔ ∃ n, ns[x.visit]? = some n ∧ Shadows n x.index x.occurrence := by
  unfold sightings
  rw [List.mem_flatMap]
  constructor
  . rintro ⟨⟨n, visit⟩, hn, hx⟩
    obtain ⟨rfl, hshadows⟩ := mem_sightingsAt.1 hx
    exact ⟨n, List.mem_zipIdx_iff_getElem?.1 hn, hshadows⟩
  . rintro ⟨n, hn, hshadows⟩
    refine ⟨(n, x.visit), List.mem_zipIdx_iff_getElem?.2 hn, ?_⟩
    exact mem_sightingsAt.2 ⟨rfl, hshadows⟩

theorem pairwise_zipIdx {α : Type} (xs : List α) : xs.zipIdx.Pairwise fun a b => a.2 < b.2 := by
  apply List.pairwise_map.1
  rw [List.zipIdx_map_snd]
  exact List.pairwise_lt_range'

theorem pairwise_sightings (ns : List Node) : (sightings ns).Pairwise Sighting.Before := by
  apply List.pairwise_flatMap.2
  constructor
  . rintro ⟨n, visit⟩ -
    cases n with
    | stmt s =>
      apply List.pairwise_filterMap.2
      apply (pairwise_zipIdx _).imp
      intro a b hlt x hx y hy
      obtain ⟨rfl, -, hxvisit, -⟩ := sighting?_eq_some_iff.1 hx
      obtain ⟨rfl, -, hyvisit, -⟩ := sighting?_eq_some_iff.1 hy
      exact .inr ⟨hxvisit.trans hyvisit.symm, hlt⟩
    | _ => exact .nil
  . apply (pairwise_zipIdx ns).imp
    rintro ⟨m, v⟩ ⟨n, w⟩ hlt x hx y hy
    obtain ⟨rfl, -⟩ := mem_sightingsAt.1 hx
    obtain ⟨rfl, -⟩ := mem_sightingsAt.1 hy
    exact .inl hlt

theorem occurrences_eq_slots (s : Stmt) :
    occurrences (.stmt s)
      =
    (((slots s).filterMap id).filter builtins.contains).map (⟨·, s, isDefinition s⟩) := by
  cases s with
  | functionDef line isAsync =>
    cases isAsync with
    | false => simp [occurrences, slots, isDefinition, List.filterMap_map]
    | true => rfl
  | assign line targets value =>
    simp [occurrences, slots, isDefinition, Stmt.assignedNames, List.filterMap_map]
  | _ => rfl

theorem filterMap_sighting? (visit k : Nat) (s : Stmt) (names : List (Option String)) :
    ((names.zipIdx k).filterMap (sighting? visit s)).map (·.occurrence)
      =
    ((names.filterMap id).filter builtins.contains).map (⟨·, s, isDefinition s⟩) := by
  induction names generalizing k with
  | nil => rfl
  | cons name? names ih =>
    rw [List.zipIdx_cons]
    cases name? with
    | none => exact ih (k + 1)
    | some name =>
      have hrest := ih (k + 1)
      cases h : builtins.contains name with
      | true =>
        simp only [List.filterMap_cons, sighting?, h, if_true, id, List.filter_cons, List.map_cons,
          hrest]
      | false =>
        simp only [List.filterMap_cons, sighting?, h, Bool.false_eq_true, if_false, id,
          List.filter_cons, hrest]

theorem map_occurrence_sightings (ns : List Node) :
    (sightings ns).map (·.occurrence) = ns.flatMap occurrences := by
  have hnode : ∀ e ∈ ns.zipIdx, (sightingsAt e).map (·.occurrence) = occurrences e.1 := by
    rintro ⟨n, visit⟩ -
    cases n with
    | stmt s =>
      rw [occurrences_eq_slots]
      apply filterMap_sighting?
    | _ => rfl
  unfold sightings
  rw [List.map_flatMap, List.flatMap_congr hnode, ← List.flatMap_map, List.zipIdx_map_fst]

/-- The name of an occurrence is called somewhere in its own statement. -/
def Occurrence.IsCalled (o : Occurrence) : Prop :=
  ∃ line nameLine usage args keywords,
    (Node.expr (.call line (.name nameLine o.name usage) args keywords)).Within (.stmt o.stmt)

/-- How bad an occurrence is, as far as its own statement tells. -/
inductive Deserves (o : Occurrence) : Category → Prop where
  | called (h : o.IsCalled) : Deserves o .runtimeError
  | critical (h : ¬o.IsCalled) (hcritical : o.name ∈ critical) : Deserves o .potentialError
  | other (h : ¬o.IsCalled) (hcritical : o.name ∉ critical) : Deserves o .badHabit

theorem any_calls_iff (o : Occurrence) :
    (Node.stmt o.stmt).walk.any (Node.calls o.name) = true ↔ o.IsCalled := by
  rw [List.any_eq_true]
  constructor
  . rintro ⟨n, hn, hcalls⟩
    rw [Node.mem_walk_iff] at hn
    cases n with
    | expr e =>
      replace hcalls := beq_iff_eq.1 hcalls
      unfold Expr.calledName? at hcalls
      split at hcalls
      . obtain rfl := Option.some.inj hcalls
        exact ⟨_, _, _, _, _, hn⟩
      . cases hcalls
    | _ => cases hcalls
  . rintro ⟨line, nameLine, usage, args, keywords, hwithin⟩
    refine ⟨_, Node.mem_walk_iff.2 hwithin, ?_⟩
    simp [Node.calls, Expr.calledName?]

theorem deserves_category (o : Occurrence) : Deserves o (category o) := by
  unfold category
  split
  . next h => exact .called ((any_calls_iff o).1 h)
  . next h =>
    rw [any_calls_iff] at h
    split
    . next hcritical => exact .critical h (List.contains_iff_mem.1 hcritical)
    . next hcritical => exact .other h (mt List.contains_iff_mem.2 hcritical)

end Shadowing

namespace Analyzer

open Shadowing

/--
The check for shadowed built-ins adds one issue for every sighting of one, where the sightings on a
walk are in order of their visits and, within a statement, of their places in it. The issues are
regrouped by name: those of one name stand together and in their order, names in the order of their
first sighting. How bad an issue is depends on the statement of the sighting only.
-/
theorem check_shadowing_regroups (a : Analyzer) (p : Program) :
    ∃ met regrouped : List Sighting,
      (∀ x, x ∈ met ↔ ∃ n, p.walk[x.visit]? = some n ∧ Shadows n x.index x.occurrence) ∧
      met.Pairwise Sighting.Before ∧
      Regrouped Sighting.name met regrouped ∧
      a.check p .shadowingBuiltins = a.add (regrouped.map fun x => issue x.occurrence) ∧
      ∀ o, ∃ category, issue o = .found o.stmt.line (message o) category ∧ Deserves o category := by
  refine ⟨sightings p.walk, regroup Sighting.name (sightings p.walk), ?_, ?_, ?_, ?_, ?_⟩
  . intro x
    exact mem_sightings
  . apply pairwise_sightings
  . apply regrouped_regroup
  . have hgrouped : grouped (p.walk.flatMap occurrences)
        = (regroup Sighting.name (sightings p.walk)).map (·.occurrence) := by
      rw [grouped_eq_regroup, ← map_occurrence_sightings]
      apply regroup_map
    have hissues : Shadowing.check p
        = (regroup Sighting.name (sightings p.walk)).map fun x => issue x.occurrence := by
      unfold Shadowing.check
      rw [hgrouped, List.map_map]
      rfl
    exact congrArg a.add hissues
  . intro o
    exact ⟨category o, rfl, deserves_category o⟩

end Analyzer

end Review

end HabitLens
