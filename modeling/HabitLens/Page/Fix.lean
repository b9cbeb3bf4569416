import HabitLens.Data.Order
import HabitLens.Page.Markup
import HabitLens.Page.Property
import HabitLens.Text.Cut

/-!
Fixes on the page. Code between fences is shown as code.
-/

namespace HabitLens.Page.Fix

def codeFence : String := "```python"

def fence : String := "```"

def code (cs : List Char) : Markup :=
  .node "pre" ""
    [.element "code" "language-python" "" true (Markup.content (String.ofList cs))]

def plain (cs : List Char) : Markup :=
  .label "div" "" (String.ofList cs)

/-- A block of code and the text up to the next fence behind it, unless that is blank. -/
def block (part : List Char) : List Markup :=
  match Text.pieces fence.toList part with
  | [] => []
  | [body] => [code body]
  | body :: after :: _ =>
    if (Text.trim Text.isEditorBlank after).isEmpty then [code body] else [code body, plain after]

def ofText (s : String) : List Markup :=
  if Text.occursIn codeFence s then
    match Text.pieces codeFence.toList s.toList with
    | [] => []
    | before :: blocks => plain before :: blocks.flatMap block
  else [.text s]

def content : Value → Except Fault (List Markup)
  | .str s => .ok (ofText s)
  | .unpaired codes => .ok (ofText (Text.ofCodes codes))
  | .list items =>
    if items.any (Value.same (.str codeFence)) then .error (.notOperation "fixText.split")
    else do return [.text (← shownValue (.list items))]
  | _ => .error (.notOperation "item.fix.includes")

end HabitLens.Page.Fix
