import HabitLens.Data.Value

/-!
Issues: what a review finds in a program.
-/

namespace HabitLens.Review

inductive Category where
  /-- The program does not run at all. -/
  | syntaxError
  /-- The program will certainly crash or hang. -/
  | fatalError
  /-- The program may fail while it runs. -/
  | runtimeError
  /-- The program may fail under certain conditions. -/
  | potentialError
  /-- The program works, but should not be written so. -/
  | badHabit
  deriving DecidableEq, Repr

def Category.name : Category → String
  | .syntaxError => "syntax_error"
  | .fatalError => "fatal_error"
  | .runtimeError => "runtime_error"
  | .potentialError => "potential_error"
  | .badHabit => "bad_habit"

def Category.all : List Category :=
  [.syntaxError, .fatalError, .runtimeError, .potentialError, .badHabit]

def Category.ofName? (name : String) : Option Category :=
  Category.all.find? fun c => c.name == name

def Category.priority : Category → Nat
  | .syntaxError => 0
  | .fatalError => 1
  | .runtimeError => 2
  | .potentialError => 3
  | .badHabit => 4

inductive Origin where
  /-- The checks of this library, on the program's tree. -/
  | tree
  | linter
  /-- Nobody: the review itself met with trouble. -/
  | system
  deriving DecidableEq, Repr

def Origin.name : Origin → String
  | .tree => "ast"
  | .linter => "pylint"
  | .system => "system"

structure Issue where
  line : Value
  message : Value
  isBadHabit : Bool
  category : Category
  origin : Origin
  deriving DecidableEq

namespace Issue

def found (line : Nat) (message : String) (category : Category) : Issue :=
  { line := .int line, message := .str message, isBadHabit := true, category, origin := .tree }

def trouble (message : String) : Issue :=
  { line := .int 0, message := .str message, isBadHabit := false, category := .runtimeError,
    origin := .system }

def toValue (i : Issue) : Value :=
  .dict
    [("line", i.line), ("message", i.message), ("is_bad_habit", .bool i.isBadHabit),
     ("category", .str i.category.name), ("source", .str i.origin.name)]

end Issue

end HabitLens.Review
