import HabitLens.Review.Program

/-!
The walk over a tree level by level: that it is the walk with a queue, how the walks over two
forests make up the walk over both, and how visits relate to the nodes that are visited.
-/

namespace HabitLens.Source

namespace Node

theorem levels_eq (ns : List Node) : levels ns = ns ++ levels (ns.flatMap children) := by
  cases ns with
  | nil => simp [levels]
  | cons n ns => rw [levels]

/-- The walk with a queue: the first node of the queue is met, and its children go to the end. -/
def queued : List Node → List Node
  | [] => []
  | n :: queue => n :: queued (queue ++ n.children)
termination_by queue => totalWeight queue
decreasing_by
  have := totalWeight_children_lt n
  simp only [totalWeight_append, totalWeight_cons]
  omega

/-- When the first nodes of a queue have been met, all their children stand behind the others. -/
theorem queued_append (first queue : List Node) :
    queued (first ++ queue) = first ++ queued (queue ++ first.flatMap children) := by
  induction first generalizing queue with
  | nil => simp
  | cons n first ih =>
    rw [List.cons_append, queued, List.append_assoc, ih]
    rw [List.flatMap_cons, List.append_assoc, List.cons_append]

theorem queued_eq_levels (ns : List Node) : queued ns = levels ns := by
  induction ns using levels.induct with
  | case1 => rw [queued, levels]
  | case2 n ns ih =>
    have hqueue := queued_append (n :: ns) []
    rw [List.append_nil, List.nil_append, ih] at hqueue
    rw [hqueue, ← levels_eq]

theorem walk_eq_queued (n : Node) : n.walk = queued [n] :=
  (queued_eq_levels [n]).symm

/-- Levels of two forests are interleaved, but no node is lost or met twice. -/
theorem levels_append_perm (as bs : List Node) :
    (levels (as ++ bs)).Perm (levels as ++ levels bs) := by
  cases as with
  | nil =>
    rw [levels]
    apply List.Perm.refl
  | cons a as =>
    have ih := levels_append_perm ((a :: as).flatMap children) (bs.flatMap children)
    rw [levels_eq (a :: as ++ bs), levels_eq (a :: as), levels_eq bs]
    rw [List.flatMap_append, List.append_assoc, List.append_assoc]
    apply List.Perm.append_left
    -- The first level of `bs` moves behind all later levels of `a :: as`.
    refine (ih.append_left bs).trans ?_
    rw [← List.append_assoc, ← List.append_assoc]
    apply List.Perm.append_right
    apply List.perm_append_comm
termination_by totalWeight as
decreasing_by exact totalWeight_flatMap_children_lt a as

theorem walk_module (body : List Stmt) :
    (module body).walk = module body :: levels (body.map stmt) := by
  rw [walk, levels_eq]
  simp [children]

end Node

namespace Visit

theorem levels_eq (linked : Bool) (vs : List Visit) :
    levels linked vs = vs ++ levels linked (vs.flatMap (below linked)) := by
  cases vs with
  | nil => simp [levels]
  | cons v vs => rw [levels]

theorem levels_unlinked (ns : List Node) :
    levels false (ns.map (⟨·, []⟩)) = (Node.levels ns).map (⟨·, []⟩) := by
  cases ns with
  | nil => simp [levels, Node.levels]
  | cons n ns =>
    have hbelow : ((n :: ns).map (⟨·, []⟩)).flatMap (below false)
        = ((n :: ns).flatMap Node.children).map (⟨·, []⟩) := by
      rw [List.flatMap_map, List.map_flatMap]
      rfl
    rw [levels_eq, hbelow, levels_unlinked, Node.levels_eq (n :: ns), List.map_append]
termination_by Node.totalWeight ns
decreasing_by exact Node.totalWeight_flatMap_children_lt n ns

end Visit

theorem Node.visits_unlinked (n : Node) : n.visits false = n.walk.map (⟨·, []⟩) :=
  Visit.levels_unlinked [n]

end HabitLens.Source
