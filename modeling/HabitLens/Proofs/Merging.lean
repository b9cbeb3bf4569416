import HabitLens.Proofs.ShadowedName
import HabitLens.Proofs.Walk
import HabitLens.Review.Analyzer

/-!
The checks find in two programs put together what they find in each of them, up to order. Each of
them looks at single nodes: neither the order of the walk nor what a check remembers on its way has
a say in what it finds.
-/

namespace HabitLens.Review

open Source

namespace OpenFile

theorem ofVisit_unlinked (files : Files) (n : Node) :
    ofVisit files ⟨n, []⟩ = ofVisit [] ⟨n, []⟩ := by
  rfl

theorem ofVisits_unlinked (files : Files) (ns : List Node) :
    ofVisits files (ns.map (⟨·, []⟩)) = ns.flatMap (fun n => ofVisit [] ⟨n, []⟩) := by
  induction ns generalizing files with
  | nil => rfl
  | cons n ns ih =>
    rw [List.map_cons, ofVisits, ofVisit_unlinked, ih]
    rw [List.flatMap_cons]

end OpenFile

namespace Shadowing

theorem grouped_perm (os : List Occurrence) : (grouped os).Perm os := by
  rw [grouped_eq_regroup]
  exact (regrouped_regroup os).perm

end Shadowing

namespace Check

/-- What a check says of a single node of a program without links and shared statements. -/
def ofNode (functions : Table FunctionRecord) : Check → Node → List Issue
  | mutableDefaults, n => MutableDefault.ofNode functions n
  | infiniteLoops, n => InfiniteLoop.ofNode n
  | exceptionHandling, n => BroadHandler.ofVisit ⟨n, []⟩
  | resourceManagement, n => OpenFile.ofVisit [] ⟨n, []⟩
  | unreachableCode, n => Unreachable.ofNode false n
  | shadowingBuiltins, n => (Shadowing.occurrences n).map Shadowing.issue

theorem ofNode_module (functions : Table FunctionRecord) (c : Check) (body : List Stmt) :
    c.ofNode functions (.module body) = [] := by
  cases c <;> rfl

theorem run_perm (functions : Table FunctionRecord) (c : Check) (body : List Stmt) :
    (c.run functions { body }).Perm
      ((Node.levels (body.map .stmt)).flatMap (c.ofNode functions)) := by
  have hwalk : (Node.levels (body.map .stmt)).flatMap (c.ofNode functions)
      = (Node.module body).walk.flatMap (c.ofNode functions) := by
    rw [Node.walk_module, List.flatMap_cons, ofNode_module]
    rfl
  rw [hwalk]
  -- Up to the order of findings, each check looks at every node on its own.
  cases c with
  | mutableDefaults => apply List.Perm.refl
  | infiniteLoops => apply List.Perm.refl
  | unreachableCode => apply List.Perm.refl
  | exceptionHandling =>
    dsimp only [run, BroadHandler.check, Program.visits, Program.root]
    rw [Node.visits_unlinked, List.flatMap_map]
    apply List.Perm.refl
  | resourceManagement =>
    dsimp only [run, OpenFile.check, Program.visits, Program.root]
    rw [Node.visits_unlinked, OpenFile.ofVisits_unlinked]
    apply List.Perm.refl
  | shadowingBuiltins =>
    dsimp only [run, Shadowing.check, Program.walk, Program.root]
    refine ((Shadowing.grouped_perm _).map Shadowing.issue).trans ?_
    rw [List.map_flatMap]
    apply List.Perm.refl

theorem run_append_perm (functions : Table FunctionRecord) (c : Check) (as bs : List Stmt) :
    (c.run functions { body := as ++ bs }).Perm
      (c.run functions { body := as } ++ c.run functions { body := bs }) := by
  refine (run_perm functions c (as ++ bs)).trans ?_
  rw [List.map_append]
  refine ((Node.levels_append_perm _ _).flatMap_right _).trans ?_
  rw [List.flatMap_append]
  exact ((run_perm functions c as).append (run_perm functions c bs)).symm

end Check

namespace Analyzer

/--
Whatever an analyzer knows already, a check adds to it for two programs put together what it adds
for the one and what it adds for the other, in some order.
-/
theorem check_append (a : Analyzer) (c : Check) (as bs : List Stmt) :
    ∃ joint first second : List Issue,
      a.check { body := as ++ bs } c = a.add joint ∧
      a.check { body := as } c = a.add first ∧
      a.check { body := bs } c = a.add second ∧
      joint.Perm (first ++ second) := by
  refine ⟨_, _, _, rfl, rfl, rfl, ?_⟩
  apply Check.run_append_perm

end Analyzer

end HabitLens.Review
