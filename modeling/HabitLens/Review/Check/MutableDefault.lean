import HabitLens.Review.Context
import HabitLens.Review.Issue

/-!
Default values that all calls of a function share and may change.
-/

namespace HabitLens.Review

open Source

namespace MutableDefault

/--
Whether one of the first parameters, as many as there are defaults, is assigned to in the function.
-/
def reassigned (definition : Stmt) (params : Params) : Bool :=
  (params.args.take params.defaults.length).any fun p =>
    (Node.stmt definition).walk.any (Node.assigns p.name)

def category (functions : Table FunctionRecord) (definition : Stmt) (name : String)
    (params : Params) : Category :=
  match functions.get? name with
  | none => .runtimeError
  | some record =>
    if 1 < record.calls || reassigned definition params then .potentialError else .badHabit

def message (name : String) : String :=
  "Function \"" ++ name ++ "\" uses mutable default argument ([], \x7b\x7d, or set()). This " ++
    "will be shared across all function calls, causing unexpected behavior when modified."

def ofNode (functions : Table FunctionRecord) : Node → List Issue
  | .stmt s =>
    match s with
    | .functionDef line false name params .. =>
      (params.defaults.filter Expr.isMutableDisplay).map fun _ =>
        .found line (message name) (category functions s name params)
    | _ => []
  | _ => []

def check (functions : Table FunctionRecord) (p : Program) : List Issue :=
  p.walk.flatMap (ofNode functions)

end MutableDefault

end HabitLens.Review
