import HabitLens.Source.Fault
import HabitLens.Source.Tree

/-!
Feature imports: a program may ask for features of the language in the imports at its start.
-/

namespace HabitLens.Source

structure Features where
  names : List String := []
  line : Int := -1
  deriving DecidableEq, Repr

namespace Features

def moduleName : String := "__future__"

def known : List String :=
  ["nested_scopes", "generators", "division", "absolute_import", "with_statement",
    "print_function", "unicode_literals", "barry_as_FLUFL", "generator_stop", "annotations"]

/-- Annotations are not evaluated. -/
def lazyAnnots (f : Features) : Bool :=
  f.names.contains "annotations"

def fitting : Nat → List Char → List Char
  | _, [] => []
  | room, c :: cs => if c.utf8Size ≤ room then c :: fitting (room - c.utf8Size) cs else []

def check (line : Nat) : List Alias → Except Fault Unit
  | [] => .ok ()
  | a :: rest =>
    if known.contains a.name then check line rest
    else if a.name == "braces" then .error (.onLine line "not a chance")
    else
      let name := String.ofList (fitting 100 a.name.toList)
      .error (.onLine line s!"future feature {name} is not defined")

def collect (found : Features) : List Stmt → Except Fault Features
  | .importFrom line (some module) names level :: rest =>
    if module == moduleName && level = 0 then do
      check line names
      collect { names := found.names ++ names.map Alias.name, line := line } rest
    else .ok found
  | _ => .ok found

def isDocumentation : Stmt → Bool
  | .expr _ (.constant _ (.text ..)) => true
  | _ => false

/-- The features of a program, whose first statement may be its documentation. -/
def ofProgram : List Stmt → Except Fault Features
  | [] => .ok {}
  | s :: rest => if isDocumentation s then collect {} rest else collect {} (s :: rest)

end Features

end HabitLens.Source
