import HabitLens.Source.Placement.Statement

/-!
The first part of a program that is out of place.
-/

namespace HabitLens.Source.Placement

def Visitor.toDepth : Nat → Visitor
  | 0 =>
    { expr := fun _ => pure (), stmts := fun _ => pure (), pattern := fun _ _ bound => pure bound }
  | n + 1 =>
    { expr := fun e s => Placement.expr (toDepth n) e s
      stmts := fun body s => body.forM (Placement.stmt (toDepth n)) s
      pattern := fun allowed p bound s => Placement.pattern (toDepth n) allowed p bound s }

def checkProgram (body : List Stmt) (featureLine : Int) (lazyAnnots : Bool) (depth : Nat) :
    Except Fault Unit := do
  let start : State := { unit := { kind := .module }, line := 0, featureLine, lazyAnnots, depth }
  let _ ← ((Visitor.toDepth depth).stmts body).run start

end HabitLens.Source.Placement
