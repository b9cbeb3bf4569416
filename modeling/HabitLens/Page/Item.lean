import HabitLens.Page.Fix
import HabitLens.Review.Issue

/-!
Items of feedback on the page.
-/

namespace HabitLens.Page.Item

open Review

/-- The category of an item, if it is one of those known. -/
def category? (item : Value) : Option Category :=
  match field item "category" with
  | some (.str name) => Category.ofName? name
  | _ => none

def isSystem (item : Value) : Bool :=
  (field item "source").isText Origin.system.name

def mightBeError (item : Value) : Bool :=
  (field item "certainty").isText "might_error"

def style (item : Value) : Except Fault String := do
  if isSystem item then return "feedback-item system-message"
  if (field item "category").truthy then
    let category ← (field item "category").shown
    return "feedback-item " ++ category
  if mightBeError item then return "feedback-item potential_error"
  return "feedback-item runtime_error"

def icon : Option Category → String
  | some .syntaxError => "🔍"
  | some .runtimeError | none => "⚠️"
  | some .fatalError => "❌"
  | some .badHabit => "💡"
  | some .potentialError => "❓"

def label (item : Value) : String × String :=
  match category? item with
  | some .syntaxError => ("SYNTAX ERROR: ", "syntax-error-label")
  | some .runtimeError => ("RUNTIME ERROR: ", "runtime-error-label")
  | some .fatalError => ("FATAL ERROR: ", "fatal-error-label")
  | some .badHabit => ("BAD HABIT: ", "bad-habit-label")
  | some .potentialError => ("COULD BECOME ERROR: ", "potential-error-label")
  | none =>
    if mightBeError item then ("MIGHT ERROR: ", "potential-error-label")
    else ("ERROR: ", "runtime-error-label")

def line (item : Value) : Except Fault (List Markup) := do
  if ← (field item "line").isPositive then
    let number ← (field item "line").shown
    return [.label "div" "feedback-line" s!"Line {number}"]
  return []

def message (item : Value) : Except Fault Markup := do
  let (text, style) := label item
  let message ← (field item "message").shown
  return .node "div" "feedback-message"
    [.label "span" s!"category-indicator {style}" text, .text message]

def fix (item : Value) : Except Fault (List Markup) := do
  match (field item "fix").filter fun v => Property.truthy (some v) with
  | none => return []
  | some v =>
    let content ← Fix.content v
    return [.node "div" "fix"
      [.label "div" "fix-header" "Fix:", .node "div" "fix-content" content]]

def explained (item : Value) (s : String) : Except Fault (List Markup) := do
  let explanation : Markup := .node "div" "explanation"
    [.label "div" "explanation-header" "Explanation:", .label "div" "explanation-content" s]
  return [.node "div" "ai-help" (explanation :: (← fix item))]

/-- The explanation of an item with its fix. A fix alone is not shown. -/
def help (item : Value) : Except Fault (List Markup) := do
  match (field item "explanation").filter fun v => Property.truthy (some v) with
  | none => return []
  | some (.str s) => explained item s
  | some (.unpaired codes) => explained item (Text.ofCodes codes)
  | some _ => throw (.notOperation "item.explanation.substring")

def source (item : Value) : Except Fault Markup := do
  let name ← (field item "source").shown
  return .label "div" "feedback-source" s!"Detected by: {name}"

def render (item : Value) : Except Fault Markup := do
  let style ← style item
  let line ← line item
  let message ← message item
  let help ← help item
  let source ← source item
  return .node "div" style
    [.label "span" "feedback-icon" (icon (category? item)),
     .node "div" "feedback-content" (line ++ message :: help ++ [source])]

end HabitLens.Page.Item
