import HabitLens.Source.Sharing

/-!
A program under review, and the shapes of nodes that the checks look for.
-/

namespace HabitLens.Source

namespace Expr

def isMutableDisplay : Expr → Bool
  | list .. | dict .. | set .. => true
  | _ => false

/-- The name that is called, if it is a plain name. -/
def calledName? : Expr → Option String
  | call _ (name _ id _) _ _ => some id
  | _ => none

def calledAttr? : Expr → Option String
  | call _ (attr _ _ n _) _ _ => some n
  | _ => none

def name? : Expr → Option String
  | name _ id _ => some id
  | _ => none

end Expr

namespace Stmt

def assignedNames : Stmt → List String
  | assign _ targets _ => targets.filterMap Expr.name?
  | _ => []

/-- A statement that decides which statement is next. -/
def isFlow : Stmt → Bool
  | forLoop _ isAsync .. => !isAsync
  | whileLoop .. | cond .. => true
  | _ => false

def flowName : Stmt → String
  | forLoop .. => "For"
  | whileLoop .. => "While"
  | _ => "If"

/-- A statement after which the rest of its block is not executed. -/
def leaves : Stmt → Bool
  | ret .. | breakLoop _ | continueLoop _ => true
  | _ => false

end Stmt

namespace Node

def calls (name : String) : Node → Bool
  | expr e => e.calledName? == some name
  | _ => false

def assigns (name : String) : Node → Bool
  | stmt s => s.assignedNames.contains name
  | _ => false

def isReturn : Node → Bool
  | stmt (.ret ..) => true
  | _ => false

def isBreak : Node → Bool
  | stmt (.breakLoop _) => true
  | _ => false

def isCond : Node → Bool
  | stmt (.cond ..) => true
  | _ => false

def handler? : Node → Option Handler
  | handler h => some h
  | _ => none

end Node

end HabitLens.Source

namespace HabitLens.Review

open Source

structure Program where
  body : List Stmt
  /-- Whether every node knows the node it stands in. -/
  linked : Bool := false
  /-- Whether equal statements in the body of a function or loop are one and the same. -/
  shared : Bool := false

namespace Program

def root (p : Program) : Node :=
  .module p.body

def walk (p : Program) : List Node :=
  p.root.walk

def visits (p : Program) : List Visit :=
  p.root.visits p.linked

def make (body : List Stmt) (linked shared : Bool) : Program :=
  { body := if shared then shareAll body else body, linked, shared }

end Program

end HabitLens.Review
