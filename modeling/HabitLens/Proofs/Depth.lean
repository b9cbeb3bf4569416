import Mathlib.Data.List.Perm.Basic
import HabitLens.Proofs.Walk

/-!
How deep a node stands in its tree. The walk level by level meets every place of a tree once, and
the places higher up before those further down.
-/

namespace HabitLens.Source

namespace Visit

def depth (v : Visit) : Nat :=
  v.above.length

def LevelOrder (vs : List Visit) : Prop :=
  vs.Pairwise fun v w => v.depth ≤ w.depth

theorem node_mem_children_of_mem_below {linked : Bool} {v w : Visit} (h : w ∈ v.below linked) :
    w.node ∈ v.node.children := by
  rw [← node_below linked]
  exact List.mem_map_of_mem h

def branches (v : Visit) : List Visit :=
  v :: (v.below true).attach.flatMap fun w => w.1.branches
termination_by v.node.weight
decreasing_by
  apply Node.weight_lt_of_mem_children
  exact node_mem_children_of_mem_below w.2

theorem branches_eq (v : Visit) : v.branches = v :: (v.below true).flatMap branches := by
  rw [branches, List.flatMap_subtype (fun _ _ => rfl), List.unattach_attach]

theorem depth_of_mem_below {v w : Visit} (h : w ∈ v.below true) : w.depth = v.depth + 1 := by
  obtain ⟨c, -, rfl⟩ := List.mem_map.1 h
  rfl

theorem depth_of_mem_flatMap_below {vs : List Visit} {d : Nat} (h : ∀ v ∈ vs, v.depth = d) :
    ∀ w ∈ vs.flatMap (below true), w.depth = d + 1 := by
  intro w hw
  obtain ⟨v, hv, hw⟩ := List.mem_flatMap.1 hw
  rw [depth_of_mem_below hw, h v hv]

theorem levels_perm_branches (vs : List Visit) :
    (levels true vs).Perm (vs.flatMap branches) := by
  induction vs using levels.induct true with
  | case1 => simp [levels]
  | case2 v vs ih =>
    have hbranches : branches = fun v => v :: (v.below true).flatMap branches := by
      funext v
      apply branches_eq
    -- Below the nodes of one level, the branches are those of the next level, which `ih` is about.
    rw [levels_eq, hbranches]
    refine List.Perm.trans ?_ (List.map_append_flatMap_perm (v :: vs) id _)
    rw [List.map_id, ← List.flatMap_assoc]
    exact ih.append_left (v :: vs)

theorem le_depth_of_mem_levels {vs : List Visit} {d : Nat} (h : ∀ v ∈ vs, v.depth = d) :
    ∀ w ∈ levels true vs, d ≤ w.depth := by
  induction vs using levels.induct true generalizing d with
  | case1 => simp [levels]
  | case2 v vs ih =>
    intro w hw
    rw [levels_eq] at hw
    rcases List.mem_append.1 hw with hw | hw
    . exact Nat.le_of_eq (h w hw).symm
    . exact Nat.le_of_succ_le (ih (depth_of_mem_flatMap_below h) w hw)

theorem levelOrder_levels {vs : List Visit} {d : Nat} (h : ∀ v ∈ vs, v.depth = d) :
    LevelOrder (levels true vs) := by
  induction vs using levels.induct true generalizing d with
  | case1 => simp [levels, LevelOrder]
  | case2 v vs ih =>
    have hnext := depth_of_mem_flatMap_below h
    rw [levels_eq, LevelOrder, List.pairwise_append]
    refine ⟨?_, ih hnext, ?_⟩
    . apply List.pairwise_of_forall_mem_list
      intro u hu w hw
      exact Nat.le_of_eq ((h u hu).trans (h w hw).symm)
    -- Order within each level is trivial, so what is left is that all later levels are deeper.
    . intro u hu w hw
      rw [h u hu]
      exact Nat.le_of_succ_le (le_depth_of_mem_levels hnext w hw)

theorem node_levels (linked : Bool) (vs : List Visit) :
    (levels linked vs).map (·.node) = Node.levels (vs.map (·.node)) := by
  induction vs using levels.induct linked with
  | case1 => simp [levels, Node.levels]
  | case2 v vs ih =>
    rw [levels_eq, List.map_append, ih, node_flatMap_below]
    rw [← Node.levels_eq]

end Visit

namespace Node

def places (n : Node) : List Visit :=
  (⟨n, []⟩ : Visit).branches

theorem visits_perm_places (n : Node) : (n.visits true).Perm n.places := by
  have h := Visit.levels_perm_branches [⟨n, []⟩]
  rwa [List.flatMap_singleton] at h

theorem levelOrder_visits (n : Node) : Visit.LevelOrder (n.visits true) := by
  apply Visit.levelOrder_levels
  intro v hv
  rw [List.mem_singleton.1 hv]

theorem node_visits (linked : Bool) (n : Node) : (n.visits linked).map (·.node) = n.walk :=
  Visit.node_levels linked [⟨n, []⟩]

end Node

end HabitLens.Source
