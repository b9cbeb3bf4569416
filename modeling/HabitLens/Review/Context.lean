import HabitLens.Data.Table
import HabitLens.Review.Program

/-!
What a program as a whole says about its names: which variables are assigned and how often, which
functions are defined and called, and where the program branches.
-/

namespace HabitLens.Review

open Source

structure FunctionRecord where
  /-- Its definition; of several, the last one met. -/
  definition : Stmt
  /-- How often it has been called since that definition was met. -/
  calls : Nat
  hasReturn : Bool
  hasBreak : Bool
  hasMutableDefaults : Bool
  handlers : List Handler

def FunctionRecord.ofDefinition (definition : Stmt) (params : Params) : FunctionRecord :=
  let nodes := (Node.stmt definition).walk
  { definition
    calls := 0
    hasReturn := nodes.any Node.isReturn
    hasBreak := nodes.any Node.isBreak
    hasMutableDefaults := params.defaults.any Expr.isMutableDisplay
    handlers := nodes.filterMap Node.handler? }

structure Context where
  assigned : Table Nat := []
  functions : Table FunctionRecord := []
  controlFlow : List Stmt := []

namespace Context

def countAssignment (assigned : Table Nat) (name : String) : Table Nat :=
  assigned.set name ((assigned.get? name).getD 0 + 1)

def countCall (r : FunctionRecord) : FunctionRecord :=
  { r with calls := r.calls + 1 }

def note (c : Context) : Node → Context
  | .stmt s =>
    match s with
    | .assign .. => { c with assigned := s.assignedNames.foldl countAssignment c.assigned }
    | .functionDef _ false name params .. =>
      { c with functions := c.functions.set name (.ofDefinition s params) }
    | _ => if s.isFlow then { c with controlFlow := c.controlFlow ++ [s] } else c
  | .expr e =>
    match e.calledName? with
    | some name => { c with functions := c.functions.modify name countCall }
    | none => c
  | _ => c

/-- Takes note of a program, in addition to what is known already. -/
def extend (c : Context) (p : Program) : Context :=
  p.walk.foldl note c

end Context

end HabitLens.Review
