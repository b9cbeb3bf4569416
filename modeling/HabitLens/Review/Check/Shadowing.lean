import HabitLens.Data.Table
import HabitLens.Review.Issue
import HabitLens.Review.Program

/-!
Variables and parameters that take the name of a built-in function.
-/

namespace HabitLens.Review

open Source

namespace Shadowing

def builtins : List String :=
  ["list", "dict", "set", "tuple", "int", "float", "str", "bool", "type", "object", "file", "open",
   "input", "print", "range", "enumerate", "len", "max", "min", "sum", "filter", "map", "zip"]

def critical : List String :=
  ["open", "print", "input", "len", "str", "int", "float"]

/-- A place where the name of a built-in is given to something else. -/
structure Occurrence where
  name : String
  /-- The assignment, or the function whose parameter it is. -/
  stmt : Stmt
  isParameter : Bool

def occurrences : Node → List Occurrence
  | .stmt s =>
    match s with
    | .functionDef _ false _ params .. =>
      ((params.args.map Param.name).filter builtins.contains).map (⟨·, s, true⟩)
    | _ => (s.assignedNames.filter builtins.contains).map (⟨·, s, false⟩)
  | _ => []

def category (o : Occurrence) : Category :=
  if (Node.stmt o.stmt).walk.any (Node.calls o.name) then .runtimeError
  else if critical.contains o.name then .potentialError
  else .badHabit

def message (o : Occurrence) : String :=
  if o.isParameter then
    "Function parameter \"" ++ o.name ++ "\" shadows a Python built-in. This will prevent you " ++
      "from using the original built-in function inside this function."
  else
    "Variable name \"" ++ o.name ++ "\" shadows a Python built-in. This will prevent you from " ++
      "using the original built-in function in this scope."

def issue (o : Occurrence) : Issue :=
  .found o.stmt.line (message o) (category o)

def collect (groups : Table (List Occurrence)) (o : Occurrence) : Table (List Occurrence) :=
  groups.set o.name ((groups.get? o.name).getD [] ++ [o])

/-- The occurrences name by name, names in the order of their first one. -/
def grouped (os : List Occurrence) : List Occurrence :=
  (os.foldl collect []).flatMap (·.2)

def check (p : Program) : List Issue :=
  (grouped (p.walk.flatMap occurrences)).map issue

end Shadowing

end HabitLens.Review
