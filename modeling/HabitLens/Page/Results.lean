import HabitLens.Page.Item

/-!
The results on the page: a header that counts items by category, and the items by line.
-/

namespace HabitLens.Page.Results

open Review

def logItem (item : Value) : Except Fault Unit := do
  let category ← Property.read (some item) "category"
  let _ ← category.shown
  let _ ← (field item "message").shown
  if (field item "explanation").truthy then
    let _ ← (field item "explanation").shown

def countedAs? (item : Value) : Option String :=
  if (field item "category").truthy then (field item "category").shown.toOption else none

def count (items : List Value) (c : Category) : Nat :=
  items.countP fun item => countedAs? item == some c.name

def summaryWords : Category → String × String
  | .syntaxError => ("syntax-error-dot", "Syntax Error")
  | .fatalError => ("fatal-error-dot", "Fatal Error")
  | .runtimeError => ("runtime-error-dot", "Runtime Error")
  | .potentialError => ("potential-error-dot", "Potential Error")
  | .badHabit => ("bad-habit-dot", "Bad Habit")

def summary (c : Category) (count : Nat) : String :=
  if count = 0 then ""
  else
    let (style, words) := summaryWords c
    let plural := if count = 1 then "" else "s"
    s!"<li><span class=\"{style}\"></span> {count} {words}{plural}</li>"

def header (items : List Value) : Markup :=
  .given "div" "results-header" <|
    s!"<p>Found <strong>{items.length}</strong> issues in your code:</p>" ++
      "<ul class=\"category-summary\">" ++
      String.join (Category.all.map fun c => summary c (count items c)) ++ "</ul>"

/-- Names that every table of the page has from the start. -/
def reservedNames : List String :=
  ["constructor", "__defineGetter__", "__defineSetter__", "hasOwnProperty", "__lookupGetter__",
   "__lookupSetter__", "isPrototypeOf", "propertyIsEnumerable", "toString", "valueOf", "__proto__",
   "toLocaleString"]

abbrev Groups : Type := Table (List Value)

def addToGroup (groups : Groups) (item : Value) : Except Fault Groups := do
  let line ← (field item "line").shown
  if reservedNames.contains line then throw (.notOperation "feedbackByLine[line].push")
  return groups.set line ((groups.get? line).getD [] ++ [item])

/-- The greatest line that is taken as a number. -/
def maxIndex : Nat := 4294967294

/-- The number that the name of a line stands for, if it is written in the usual way. -/
def index? (line : String) : Option Nat :=
  let cs := line.toList
  let n := natOf 10 cs
  if cs.isEmpty || !cs.all Text.isAsciiDigit || (cs.head? == some '0' && cs.length != 1) ||
      maxIndex < n then none
  else some n

/-- Lines with a number by number, and then the others as they came. -/
def ordered (groups : Groups) : List (List Value) :=
  let numbered := groups.filterMap fun (line, items) => (index? line).map fun n => (n, items)
  let others := groups.filter fun (line, _) => (index? line).isNone
  (numbered.mergeSort fun a b => a.1 ≤ b.1).map (·.2) ++ others.map (·.2)

def render (items : List Value) : Except Fault (List Markup) := do
  items.forM logItem
  let groups ← items.foldlM addToGroup []
  let shown ← (ordered groups).flatten.mapM Item.render
  return header items :: shown

end HabitLens.Page.Results
