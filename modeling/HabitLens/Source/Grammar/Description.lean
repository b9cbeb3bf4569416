import HabitLens.Source.Tree

/-!
How expressions are called in messages, and which part of one cannot be assigned to or deleted.
-/

namespace HabitLens.Source

def Constant.kindName : Constant → String
  | .none => "None"
  | .bool true => "True"
  | .bool false => "False"
  | .ellipsis => "ellipsis"
  | _ => "literal"

namespace Expr

def kindName : Expr → String
  | attr .. => "attribute"
  | subscript .. => "subscript"
  | starred .. => "starred"
  | name .. => "name"
  | list .. => "list"
  | tuple .. => "tuple"
  | lambda .. => "lambda"
  | call .. => "function call"
  | boolOp .. | binary .. | unary .. => "expression"
  | generator .. => "generator expression"
  | yield .. | yieldFrom .. => "yield expression"
  | await .. => "await expression"
  | listComp .. => "list comprehension"
  | setComp .. => "set comprehension"
  | dictComp .. => "dict comprehension"
  | dict .. => "dict literal"
  | set .. => "set display"
  | joined .. | formatted .. => "f-string expression"
  | constant _ c => c.kindName
  | compare .. => "comparison"
  | ifElse .. => "conditional expression"
  | named .. => "named expression"
  | slice .. => "slice"

mutual

/-- The expression with the given usage, down to the parts that share it. -/
def withUsage (u : Usage) : Expr → Expr
  | name l id _ => name l id u
  | attr l v n _ => attr l v n u
  | subscript l v i _ => subscript l v i u
  | starred l v _ => starred l (v.withUsage u) u
  | list l es _ => list l (withUsages u es) u
  | tuple l es _ => tuple l (withUsages u es) u
  | e => e

def withUsages (u : Usage) : List Expr → List Expr
  | [] => []
  | e :: es => e.withUsage u :: withUsages u es

end

inductive TargetKind where
  | assigned
  | looped
  | deleted
  deriving DecidableEq

mutual

def badTarget? (kind : TargetKind) : Expr → Option Expr
  | name .. | attr .. | subscript .. => none
  | list _ es _ | tuple _ es _ => badTargets? kind es
  | starred l v u => if kind = .deleted then some (starred l v u) else v.badTarget? kind
  | compare l left ops others =>
    if kind = .looped then
      if ops.head? = some .in then left.badTarget? kind else none
    else some (compare l left ops others)
  | e => some e

def badTargets? (kind : TargetKind) : List Expr → Option Expr
  | [] => none
  | e :: es => (e.badTarget? kind).or (badTargets? kind es)

end

/-- Whether this is the name of a statement that has become a function. -/
def isFormerStatement : Expr → Bool
  | name _ id _ => id == "print" || id == "exec"
  | _ => false

end Expr

end HabitLens.Source
