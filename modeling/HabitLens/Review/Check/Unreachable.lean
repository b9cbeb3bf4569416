import HabitLens.Review.Issue
import HabitLens.Review.Program

/-!
Statements behind one that leaves their block.
-/

namespace HabitLens.Review

open Source

namespace Unreachable

def body? : Node → Option (List Stmt)
  | .stmt (.functionDef _ false _ _ body ..) => some body
  | .stmt (.forLoop _ false _ _ body _) => some body
  | .stmt (.whileLoop _ _ body _) => some body
  | _ => none

/--
The statement directly behind the first one that leaves the block, provided that it is not the last
of the block.
-/
def first? : List Stmt → Option Stmt
  | [] => none
  | s :: rest =>
    if s.leaves then
      match rest with
      | t :: _ :: _ => some t
      | _ => none
    else first? rest

/-- The statements that are the same as an earlier one, given those that came before. -/
def repeated (earlier : List Stmt) : List Stmt → List Stmt
  | [] => []
  | s :: rest =>
    let again := earlier.any fun e => (Node.stmt e).alike (.stmt s)
    if again then s :: repeated (earlier ++ [s]) rest else repeated (earlier ++ [s]) rest

def verdict? : Stmt → Option Category
  | .assign .. | .augAssign .. => some .potentialError
  | .ret .. => some .runtimeError
  | _ => none

def category (shared : Bool) (body : List Stmt) : Category :=
  if shared then ((repeated [] body).findSome? verdict?).getD .badHabit else .badHabit

def message : String :=
  "Unreachable code detected after return, break, or continue statement. This code will never " ++
    "execute."

def ofNode (shared : Bool) (n : Node) : List Issue :=
  match body? n with
  | none => []
  | some body =>
    match first? body with
    | none => []
    | some s => [.found s.line message (category shared body)]

def check (p : Program) : List Issue :=
  p.walk.flatMap (ofNode p.shared)

end Unreachable

end HabitLens.Review
