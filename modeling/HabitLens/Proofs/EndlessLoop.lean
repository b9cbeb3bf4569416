import HabitLens.Proofs.Subtree
import HabitLens.Review.Analyzer

/-!
The loops that the check for infinite loops reports: those that nothing in their tree may end. What
stands in the tree of an inner loop stands in that of the outer one too, so an inner loop is
reported with the outer one, and at least as bad.
-/

namespace HabitLens

namespace Source

theorem exists_append_of_getElem? {α : Type} {xs : List α} {i : Nat} {x : α}
    (h : xs[i]? = some x) : ∃ before after, xs = before ++ x :: after ∧ before.length = i := by
  obtain ⟨hi, rfl⟩ := List.getElem?_eq_some_iff.1 h
  refine ⟨xs.take i, xs.drop (i + 1), ?_, List.length_take_of_le (Nat.le_of_lt hi)⟩
  rw [List.getElem_cons_drop, List.take_append_drop]

theorem exists_append_of_lt {α : Type} {xs : List α} {i j : Nat} {x y : α}
    (hx : xs[i]? = some x) (hy : xs[j]? = some y) (h : i < j) :
    ∃ before between after, xs = before ++ x :: between ++ y :: after ∧
      before.length = i ∧ (before ++ x :: between).length = j := by
  obtain ⟨front, after, rfl, hj⟩ := exists_append_of_getElem? hy
  rw [List.getElem?_append_left (hj ▸ h)] at hx
  obtain ⟨before, between, rfl, hi⟩ := exists_append_of_getElem? hx
  exact ⟨before, between, after, rfl, hi, hj⟩

namespace Node

/-- A `while` statement whose condition is the constant `True`. -/
inductive IsWhileTrue : Node → Prop where
  | intro (line testLine : Nat) (body orelse : List Stmt) :
      IsWhileTrue (.stmt (.whileLoop line (.constant testLine (.bool true)) body orelse))

def isWhileTrue : Node → Bool
  | stmt (.whileLoop _ (.constant _ (.bool true)) _ _) => true
  | _ => false

theorem isWhileTrue_iff (n : Node) : n.isWhileTrue = true ↔ n.IsWhileTrue := by
  constructor
  . intro h
    unfold isWhileTrue at h
    split at h
    . exact .intro _ _ _ _
    . cases h
  . rintro ⟨_, _, _, _⟩
    rfl

instance (n : Node) : Decidable n.IsWhileTrue :=
  decidable_of_iff _ n.isWhileTrue_iff

/-- What may end a loop, seen by itself. -/
inductive MayExit : Node → Prop where
  | breaks (line : Nat) : MayExit (.stmt (.breakLoop line))
  | returns (line : Nat) (value : Option Expr) : MayExit (.stmt (.ret line value))
  | raises (line : Nat) (exc cause : Option Expr) : MayExit (.stmt (.raise line exc cause))
  | calls (line attrLine : Nat) (value : Expr) (usage : Usage) (args : List Expr)
      (keywords : List Keyword) :
      MayExit (.expr (.call line (.attr attrLine value "exit" usage) args keywords))

/-- A `while` statement that is not left by its condition, nor by anything that stands in it. -/
def IsEndless (n : Node) : Prop :=
  n.IsWhileTrue ∧ ∀ m : Node, m.Within n → ¬m.MayExit

def Branches (n : Node) : Prop :=
  ∃ m : Node, m.Within n ∧ m.isCond = true

def line : Node → Nat
  | stmt s => s.line
  | _ => 0

theorem IsEndless.within {m n : Node} (hn : n.IsEndless) (h : m.Within n) (hm : m.IsWhileTrue) :
    m.IsEndless :=
  ⟨hm, fun k hk => hn.2 k (hk.trans h)⟩

theorem Branches.within {m n : Node} (hm : m.Branches) (h : m.Within n) : n.Branches := by
  obtain ⟨k, hk, hcond⟩ := hm
  exact ⟨k, hk.trans h, hcond⟩

end Node

end Source

namespace Review

open Source

namespace InfiniteLoop

theorem isExit_iff (n : Node) : isExit n = true ↔ n.MayExit := by
  constructor
  . intro h
    unfold isExit at h
    split at h
    . exact .breaks _
    . exact .returns _ _
    . exact .raises _ _ _
    . replace h := beq_iff_eq.1 h
      unfold Expr.calledAttr? at h
      split at h
      . obtain rfl := Option.some.inj h
        exact .calls _ _ _ _ _ _
      . cases h
    . cases h
  . intro h
    cases h <;> rfl

instance (n : Node) : Decidable n.MayExit :=
  decidable_of_iff _ (isExit_iff n)

instance (n : Node) : Decidable n.IsEndless :=
  decidable_of_iff (n.IsWhileTrue ∧ ∀ m ∈ n.walk, ¬m.MayExit) (by
    simp only [Node.mem_walk_iff, Node.IsEndless])

theorem any_isExit_iff (n : Node) :
    n.walk.any isExit = true ↔ ∃ m : Node, m.Within n ∧ m.MayExit := by
  simp only [List.any_eq_true, Node.mem_walk_iff, isExit_iff]

theorem any_isCond_iff (n : Node) : n.walk.any Node.isCond = true ↔ n.Branches := by
  simp only [List.any_eq_true, Node.mem_walk_iff, Node.Branches]

instance (n : Node) : Decidable n.Branches :=
  decidable_of_iff _ (any_isCond_iff n)

def category (n : Node) : Category :=
  if n.Branches then .potentialError else .fatalError

def issue (n : Node) : Issue :=
  .found n.line message (category n)

theorem ofNode_of_isEndless {n : Node} (h : n.IsEndless) : ofNode n = [issue n] := by
  obtain ⟨⟨line, testLine, body, orelse⟩, hexits⟩ := h
  have hnone : ¬(Node.stmt (.whileLoop line (.constant testLine (.bool true)) body orelse)).walk.any
      isExit = true := by
    rw [any_isExit_iff]
    rintro ⟨m, hm, hexit⟩
    exact hexits m hm hexit
  simp only [ofNode, if_neg hnone, any_isCond_iff]
  rfl

theorem ofNode_of_not_isEndless {n : Node} (h : ¬n.IsEndless) : ofNode n = [] := by
  unfold ofNode
  split
  . rw [if_pos]
    rw [any_isExit_iff]
    by_contra hnone
    exact h ⟨.intro _ _ _ _, fun m hm hexit => hnone ⟨m, hm, hexit⟩⟩
  . rfl

/-- One issue for every loop without an end among the nodes, in their order. -/
def reported (ns : List Node) : List Issue :=
  (ns.filter fun n => n.IsEndless).map issue

theorem flatMap_ofNode (ns : List Node) : ns.flatMap ofNode = reported ns := by
  unfold reported
  induction ns with
  | nil => rfl
  | cons n ns ih =>
    rw [List.flatMap_cons, ih]
    by_cases h : n.IsEndless
    . simp [ofNode_of_isEndless h, h]
    . simp [ofNode_of_not_isEndless h, h]

theorem reported_append (ms ns : List Node) : reported (ms ++ ns) = reported ms ++ reported ns := by
  simp [reported]

theorem reported_cons_of_isEndless {n : Node} (h : n.IsEndless) (ns : List Node) :
    reported (n :: ns) = issue n :: reported ns := by
  simp [reported, h]

theorem category_within {m n : Node} (h : m.Within n) (hn : category n = .fatalError) :
    category m = .fatalError := by
  unfold category at hn ⊢
  split at hn
  . cases hn
  . next hnone => rw [if_neg fun hm => hnone (hm.within h)]

end InfiniteLoop

namespace Analyzer

open InfiniteLoop

theorem check_infiniteLoops (a : Analyzer) (p : Program) :
    a.check p .infiniteLoops = a.add (reported p.walk) :=
  congrArg a.add (flatMap_ofNode p.walk)

/--
The check for infinite loops adds one issue for every loop without an end, in the order of the walk.
If a loop without an end holds another `while True` loop, then the walk meets the inner one later,
both have an issue, that of the inner loop comes later too, and it is fatal if that of the outer
loop is.
-/
theorem check_nested_loops (a : Analyzer) (p : Program) :
    let walked := p.root.visits true
    let issues (vs : List Visit) := reported (vs.map (·.node))
    walked.map (·.node) = p.walk ∧
    a.check p .infiniteLoops = a.add (issues walked) ∧
    ∀ (i j : Nat) (outer inner : Visit), walked[i]? = some outer → walked[j]? = some inner →
      inner.IsUnder outer → outer.node.IsEndless → inner.node.IsWhileTrue →
      ∃ before between after,
        walked = before ++ outer :: between ++ inner :: after ∧
        before.length = i ∧ (before ++ outer :: between).length = j ∧
        issues walked
          = issues before ++ issue outer.node :: issues between ++ issue inner.node :: issues after ∧
        (category outer.node = .fatalError → category inner.node = .fatalError) := by
  intro walked issues
  have hwalk : walked.map (·.node) = p.walk := Node.node_visits true p.root
  refine ⟨hwalk, ?_, ?_⟩
  . rw [check_infiniteLoops, ← hwalk]
  . intro i j outer inner hi hj hunder houter hinner
    have hwithin := hunder.within (List.mem_of_getElem? hj)
    have hlt : i < j := Visit.lt_of_depth_lt (Node.levelOrder_visits _) hi hj hunder.depth_lt
    obtain ⟨before, between, after, hwalked, hbefore, hfront⟩ := exists_append_of_lt hi hj hlt
    refine ⟨before, between, after, hwalked, hbefore, hfront, ?_, category_within hwithin⟩
    dsimp only [issues]
    simp only [hwalked, List.map_append, List.map_cons, reported_append,
      reported_cons_of_isEndless houter, reported_cons_of_isEndless (houter.within hwithin hinner)]

/-- The inner loop stands in a `with` block of the outer one. -/
theorem check_nested_loops_in_with_block :
    let inner := Stmt.whileLoop 3 (.constant 3 (.bool true)) [.pass 4] []
    let block := Stmt.withBlock 2 false [⟨.name 2 "x" .load, none⟩] [inner]
    let outer := Stmt.whileLoop 1 (.constant 1 (.bool true)) [block] []
    ∃ before between after : List Issue,
      (({} : Analyzer).check { body := [outer] } .infiniteLoops).feedback
        = before ++ .found 1 message .fatalError :: between
            ++ .found 3 message .fatalError :: after := by
  intro inner block outer
  let root := Node.module [outer]
  have houter : (root.visits true)[1]? = some ⟨.stmt outer, [root]⟩ := by
    rw [Node.visits, Visit.levels_eq, Visit.levels_eq]
    rfl
  have hinner : (root.visits true)[5]? = some ⟨.stmt inner, [.stmt block, .stmt outer, root]⟩ := by
    rw [Node.visits, Visit.levels_eq, Visit.levels_eq, Visit.levels_eq, Visit.levels_eq]
    rfl
  have hendless : (Node.stmt outer).IsEndless := by decide +kernel
  have hfatal : category (.stmt outer) = .fatalError := by decide +kernel
  obtain ⟨-, hcheck, hnested⟩ := check_nested_loops {} { body := [outer] }
  obtain ⟨before, between, after, -, -, -, hissues, hcategory⟩ :=
    hnested 1 5 _ _ houter hinner ⟨[.stmt block], rfl⟩ hendless (.intro _ _ _ _)
  have hissue : issue (.stmt outer) = .found 1 message .fatalError := by
    rw [issue, hfatal]
    rfl
  have hissue' : issue (.stmt inner) = .found 3 message .fatalError := by
    rw [issue, hcategory hfatal]
    rfl
  rw [hissue, hissue'] at hissues
  rw [hcheck]
  exact ⟨_, _, _, hissues⟩

end Analyzer

end Review

end HabitLens
