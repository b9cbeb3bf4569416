import HabitLens.Data.Table
import HabitLens.Review.Issue
import HabitLens.Review.Program

/-!
Files that are opened outside a `with` statement.
-/

namespace HabitLens.Review

open Source

namespace OpenFile

/-- The name to which a statement assigns something, if it is the only target. -/
def soleTarget? : Node → Option String
  | .stmt (.assign _ [target] _) => target.name?
  | _ => none

def closedName? : Stmt → Option String
  | .expr _ (.call _ (.attr _ (.name _ id _) "close" _) _ _) => some id
  | _ => none

def isWith : Node → Bool
  | .stmt (.withBlock _ isAsync ..) => !isAsync
  | _ => false

def isFunction : Node → Bool
  | .stmt (.functionDef _ isAsync ..) => !isAsync
  | _ => false

def hasCleanup : Node → Bool
  | .stmt (.tryBlock _ false _ _ _ finalbody) => !finalbody.isEmpty
  | _ => false

/-- Which names hold an opened file, and whether it has been closed. -/
abbrev Files : Type := Table Bool

def note (files : Files) (n : Node) : Files :=
  match n with
  | .stmt s =>
    match s with
    | .assign _ _ value =>
      match soleTarget? n with
      | some name => if value.calledName? == some "open" then files.set name false else files
      | none => files
    | _ =>
      match closedName? s with
      | some name => files.modify name (fun _ => true)
      | none => files
  | _ => files

/-- Whether an opened file goes to a name that has been closed already. -/
def isClosed (files : Files) (v : Visit) : Bool :=
  match v.above.head? with
  | none => false
  | some n => ((soleTarget? n).bind files.get?).getD false

def category (v : Visit) : Category :=
  match v.above.find? isFunction with
  | none => .potentialError
  | some f => if f.walk.any hasCleanup then .badHabit else .runtimeError

def message : String :=
  "File opened without using a context manager (with statement). This can lead to resource " ++
    "leaks if the file is not properly closed."

def ofVisit (files : Files) (v : Visit) : List Issue :=
  match v.node with
  | .expr e =>
    if v.node.calls "open" && !v.above.any isWith && !isClosed files v then
      [.found e.line message (category v)]
    else []
  | _ => []

def ofVisits (files : Files) : List Visit → List Issue
  | [] => []
  | v :: vs => ofVisit files v ++ ofVisits (note files v.node) vs

def check (p : Program) : List Issue :=
  ofVisits [] p.visits

end OpenFile

end HabitLens.Review
