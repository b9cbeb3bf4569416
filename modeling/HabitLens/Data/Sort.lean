/-!
A stable sort for items whose comparison may fail. It starts from the longest run in front that is
in order already, or strictly in reverse order, and puts each later item into its place, which is
found by halving. The first comparison that fails ends it.
-/

namespace HabitLens.Sort

variable {α ε : Type} (less : α → α → Except ε Bool)

/-- Extends a run, of which `last` is the end, while `goesOn` holds of the comparison. -/
def extendRun (goesOn : Bool → Bool) (last : α) : List α → Except ε (List α × List α)
  | [] => .ok ([], [])
  | x :: xs => do
    if goesOn (← less x last) then
      let (run, rest) ← extendRun goesOn x xs
      return (x :: run, rest)
    else return ([], x :: xs)

/-- The run in front, in order, and the items after it. -/
def firstRun : List α → Except ε (List α × List α)
  | [] => .ok ([], [])
  | [x] => .ok ([x], [])
  | x :: y :: rest => do
    let descending ← less y x
    let (run, rest) ← extendRun less (· == descending) y rest
    let run := x :: y :: run
    return (if descending then run.reverse else run, rest)

/-- The place of an item among items in order, which lies between `lo` and `hi`. -/
def place (x : α) (items : List α) (lo hi : Nat) : Except ε Nat :=
  if _ : lo < hi then
    let mid := lo + (hi - lo) / 2
    match items[mid]? with
    | none => .ok lo
    | some y => do
      if ← less x y then place x items lo mid else place x items (mid + 1) hi
  else .ok lo
termination_by hi - lo

def insert (items : List α) (x : α) : Except ε (List α) := do
  let i ← place less x items 0 items.length
  return items.take i ++ x :: items.drop i

def sort (items : List α) : Except ε (List α) := do
  let (run, rest) ← firstRun less items
  rest.foldlM (insert less) run

end HabitLens.Sort
