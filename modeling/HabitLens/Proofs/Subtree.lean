import Mathlib.Logic.Relation
import HabitLens.Proofs.Depth

/-!
The tree below a node. A walk meets the nodes that can be reached from its start from child to
child, so a walk over a part of a tree meets nothing that a walk over the whole does not.
-/

namespace HabitLens.Source

theorem mem_levels_iff_reached {α : Type} {next : α → List α} {levels : List α → List α}
    (weight : List α → Nat) (hnil : levels [] = [])
    (hlevels : ∀ xs, levels xs = xs ++ levels (xs.flatMap next))
    (hweight : ∀ x xs, weight ((x :: xs).flatMap next) < weight (x :: xs)) {xs : List α} {y : α} :
    y ∈ levels xs ↔ ∃ x ∈ xs, Relation.ReflTransGen (fun x c => c ∈ next x) x y := by
  constructor
  . induction hn : weight xs using Nat.strongRecOn generalizing xs with
    | ind n ih =>
      intro hy
      cases xs with
      | nil =>
        rw [hnil] at hy
        cases hy
      | cons x xs =>
        rw [hlevels] at hy
        rcases List.mem_append.1 hy with hy | hy
        . exact ⟨y, hy, .refl⟩
        . obtain ⟨c, hc, hreached⟩ := ih _ (hn ▸ hweight x xs) rfl hy
          obtain ⟨parent, hparent, hc⟩ := List.mem_flatMap.1 hc
          exact ⟨parent, hparent, .head hc hreached⟩
  . rintro ⟨x, hx, hreached⟩
    induction hreached using Relation.ReflTransGen.head_induction_on generalizing xs with
    | refl =>
      rw [hlevels]
      exact List.mem_append_left _ hx
    | head hc _ ih =>
      rw [hlevels]
      exact List.mem_append_right _ (ih (List.mem_flatMap.2 ⟨_, hx, hc⟩))

namespace Node

/-- A node stands in the tree of another one: it is that node, a child of it, and so on. -/
def Within (m n : Node) : Prop :=
  Relation.ReflTransGen (fun n c => c ∈ n.children) n m

theorem Within.trans {k m n : Node} (hk : k.Within m) (hm : m.Within n) : k.Within n :=
  Relation.ReflTransGen.trans hm hk

theorem mem_levels_iff {ns : List Node} {m : Node} :
    m ∈ levels ns ↔ ∃ n ∈ ns, m.Within n :=
  mem_levels_iff_reached totalWeight (by simp [levels]) levels_eq totalWeight_flatMap_children_lt

theorem mem_walk_iff {m n : Node} : m ∈ n.walk ↔ m.Within n := by
  simp [walk, mem_levels_iff]

end Node

namespace Visit

def IsUnder (v w : Visit) : Prop :=
  ∃ between, v.above = between ++ w.node :: w.above

theorem IsUnder.depth_lt {v w : Visit} (h : v.IsUnder w) : w.depth < v.depth := by
  obtain ⟨between, habove⟩ := h
  simp only [depth, habove, List.length_append, List.length_cons]
  omega

theorem lt_of_depth_lt {vs : List Visit} (horder : LevelOrder vs) {i j : Nat} {v w : Visit}
    (hv : vs[i]? = some v) (hw : vs[j]? = some w) (h : v.depth < w.depth) : i < j := by
  obtain ⟨hi, rfl⟩ := List.getElem?_eq_some_iff.1 hv
  obtain ⟨hj, rfl⟩ := List.getElem?_eq_some_iff.1 hw
  rcases Nat.lt_trichotomy i j with hlt | rfl | hgt
  . exact hlt
  . exact absurd h (Nat.lt_irrefl _)
  . have hle := List.pairwise_iff_getElem.1 horder j i hj hi hgt
    omega

theorem isChain_of_mem_levels {vs : List Visit}
    (h : ∀ v ∈ vs, (v.node :: v.above).IsChain fun c n => c ∈ n.children) :
    ∀ v ∈ levels true vs, (v.node :: v.above).IsChain fun c n => c ∈ n.children := by
  induction vs using levels.induct true with
  | case1 => simp [levels]
  | case2 v vs ih =>
    intro u hu
    rw [levels_eq] at hu
    rcases List.mem_append.1 hu with hu | hu
    . exact h u hu
    . refine ih ?_ u hu
      intro w hw
      obtain ⟨parent, hparent, hw⟩ := List.mem_flatMap.1 hw
      obtain ⟨c, hc, rfl⟩ := List.mem_map.1 hw
      exact .cons_cons hc (h parent hparent)

theorem within_of_isChain {m n : Node} {between above : List Node}
    (h : (m :: (between ++ n :: above)).IsChain fun c n => c ∈ n.children) : m.Within n := by
  induction between generalizing m with
  | nil => exact .single (List.isChain_cons_cons.1 h).1
  | cons c between ih =>
    obtain ⟨hm, hc⟩ := List.isChain_cons_cons.1 h
    exact .tail (ih hc) hm

theorem IsUnder.within {n : Node} {v w : Visit} (h : v.IsUnder w) (hv : v ∈ n.visits true) :
    v.node.Within w.node := by
  obtain ⟨between, habove⟩ := h
  have hroot : ∀ u ∈ [(⟨n, []⟩ : Visit)],
      (u.node :: u.above).IsChain fun c n => c ∈ n.children := by
    simp
  have hchain := isChain_of_mem_levels hroot v hv
  rw [habove] at hchain
  exact within_of_isChain hchain

end Visit

end HabitLens.Source
