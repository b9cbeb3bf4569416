import HabitLens.Text.Blank
import HabitLens.Text.Cut

/-!
Advice on an issue: an explanation and possibly a fix, as an assistant writes them in a reply.
-/

namespace HabitLens

structure Advice where
  explanation : String
  fix : Option String := none
  deriving DecidableEq, Repr

namespace Advice

def explanationMark : String := "Explanation:"

def fixMark : String := "Fix:"

def stripped (cs : List Char) : String :=
  String.ofList (Text.trim Text.isBlank cs)

/--
The advice of a reply. The explanation stands behind the first mark of explanations and reaches to
the first mark of fixes behind it, where the fix begins.
-/
def ofText? (s : String) : Option Advice :=
  match Text.cut? explanationMark.toList s.toList with
  | none => none
  | some (_, rest) =>
    match Text.cut? fixMark.toList rest with
    | some (explanation, fix) =>
      some { explanation := stripped explanation, fix := some (stripped fix) }
    | none => some { explanation := stripped rest }

end Advice

end HabitLens
