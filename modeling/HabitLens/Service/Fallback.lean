import HabitLens.Review.Program
import HabitLens.Review.Issue
import HabitLens.Data.Failure

/-!
A simple analysis that steps in when the analyzer fails. It looks at every node of the program once
and reports names that nothing defines, attributes of such names, endless loops, handlers without a
type, and shared defaults.
-/

namespace HabitLens.Service

open Source
open Review

structure Remark where
  line : Option Int
  message : String
  category : Category
  origin : String := "analyzer"

def Remark.toValue (r : Remark) : Value :=
  .dict
    [("line", (r.line.map .int).getD .null), ("message", .str r.message),
     ("category", .str r.category.name), ("source", .str r.origin)]

namespace Fallback

def builtins : List String :=
  ["print", "len", "range", "str", "int", "float", "list", "dict", "set", "tuple", "sum", "min",
   "max", "open", "type"]

structure Definitions where
  assigned : List String
  functions : List String

def assignedIn : Node → List String
  | .stmt s => s.assignedNames
  | _ => []

def definedIn : Node → List String
  | .stmt (.functionDef _ false name ..) => [name]
  | _ => []

def Definitions.ofNodes (nodes : List Node) : Definitions :=
  { assigned := nodes.flatMap assignedIn, functions := nodes.flatMap definedIn }

/-- Whether the constant is worth as much as the truth value. -/
def isOne : Constant → Bool
  | .bool b => b
  | .int n => n == 1
  | .float x => x.compareInt? 1 == some .eq
  | _ => false

def undefined (defs : Definitions) (line : Nat) (name : String) : List Remark :=
  if defs.assigned.contains name || defs.functions.contains name || builtins.contains name ||
      name.startsWith "__" then []
  else
    [{ line := some line, message := s!"Undefined variable '{name}'", category := .runtimeError }]

/--
The remark on an attribute of a named object. The list of built-in names is at hand only after a
name has been read.
-/
def member (defs : Definitions) (seenName : Bool) (line : Nat) (object name : String) :
    Except Failure (List Remark) :=
  if defs.assigned.contains object then .ok []
  else if !seenName then .error (.unbound "builtins")
  else if builtins.contains object then .ok []
  else
    .ok [{ line := some line
           message := s!"Instance of '{object}' has no '{name}' member"
           category := .runtimeError }]

def readsName : Node → Bool
  | .expr (.name _ _ .load) => true
  | _ => false

def remarks (defs : Definitions) (seenName : Bool) : Node → Except Failure (List Remark)
  | .expr (.name line id .load) => .ok (undefined defs line id)
  | .expr (.attr line (.name _ object _) name _) => member defs seenName line object name
  | .stmt (.whileLoop line (.constant _ value) _ _) =>
    if isOne value then
      .ok [{ line := some line, message := "Infinite loop detected", category := .fatalError }]
    else .ok []
  | .handler h =>
    if h.type.isNone then
      .ok [{ line := some h.line
             message := "Catching all exceptions (bare except) is a bad practice"
             category := .badHabit }]
    else .ok []
  | .stmt (.functionDef line false name params ..) =>
    .ok ((params.defaults.filter Expr.isMutableDisplay).map fun _ =>
      { line := some line
        message := s!"Using mutable default argument in function '{name}'"
        category := .potentialError })
  | _ => .ok []

/-- The remarks on nodes, up to the first one that cannot be judged. -/
def ofNodes (defs : Definitions) (seenName : Bool) : List Node → List Remark × Option Failure
  | [] => ([], none)
  | n :: rest =>
    let seenName := seenName || readsName n
    match remarks defs seenName n with
    | .error f => ([], some f)
    | .ok found =>
      let (later, failure) := ofNodes defs seenName rest
      (found ++ later, failure)

def run (body : List Stmt) : List Remark × Option Failure :=
  let nodes := (Node.module body).walk
  ofNodes (.ofNodes nodes) false nodes

def brokenOff (f : Failure) : Remark :=
  { line := some 1
    message := s!"Error analyzing code: {f.message}"
    category := .runtimeError
    origin := Origin.system.name }

end Fallback

end HabitLens.Service
