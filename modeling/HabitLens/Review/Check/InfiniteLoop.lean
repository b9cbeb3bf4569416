import HabitLens.Review.Issue
import HabitLens.Review.Program

/-!
Loops that nothing ends.
-/

namespace HabitLens.Review

open Source

namespace InfiniteLoop

/-- What may end a loop: to break off, return, raise, or call an attribute named `exit`. -/
def isExit : Node → Bool
  | .stmt (.breakLoop _) | .stmt (.ret ..) | .stmt (.raise ..) => true
  | .expr e => e.calledAttr? == some "exit"
  | _ => false

def message : String :=
  "Infinite loop detected (while True without break). This will cause your program to hang " ++
    "indefinitely."

def ofNode (n : Node) : List Issue :=
  match n with
  | .stmt (.whileLoop line (.constant _ (.bool true)) _ _) =>
    if n.walk.any isExit then []
    else
      let category := if n.walk.any Node.isCond then .potentialError else .fatalError
      [.found line message category]
  | _ => []

def check (p : Program) : List Issue :=
  p.walk.flatMap ofNode

end InfiniteLoop

end HabitLens.Review
