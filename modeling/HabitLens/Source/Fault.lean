/-!
Faults of source text: what is wrong, and on which line it was found.
-/

namespace HabitLens.Source

inductive FaultKind where
  | grammar
  | indentation
  | tabs
  /-- Not the text is at fault, but the way it is read. -/
  | internal
  deriving DecidableEq, Repr

structure Fault where
  kind : FaultKind := .grammar
  message : String
  /-- A fault of the text as a whole has no line. -/
  line : Option Int
  deriving DecidableEq, Repr

namespace Fault

def onLine (line : Nat) (message : String) : Fault :=
  { message, line := some (line : Int) }

def negativeSize : Fault :=
  { kind := .internal, message := "Negative size passed to PyUnicode_New", line := none }

def describe (f : Fault) : String :=
  match f.line with
  | some n => s!"{f.message} (<unknown>, line {n})"
  | none => f.message

end Fault

end HabitLens.Source
