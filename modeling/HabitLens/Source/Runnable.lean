import HabitLens.Source.Feature
import HabitLens.Source.Parse
import HabitLens.Source.Placement.Check
import HabitLens.Source.Scope.Check

/-!
Programs that can be run: those that parse, ask for known features, use names consistently and have
every part in its place. The first of these that fails gives the fault.
-/

namespace HabitLens.Source

def checkRunnable (body : List Stmt) (depth : Nat) : Except Fault Unit := do
  let features ← Features.ofProgram body
  Scope.checkProgram body features.lazyAnnots depth
  Placement.checkProgram body features.line features.lazyAnnots depth

def parseRunnable (text : String) : Except Fault (List Stmt) := do
  let body ← parse text
  checkRunnable body (depthFor text.toList)
  return body

end HabitLens.Source
