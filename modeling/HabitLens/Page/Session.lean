import HabitLens.Page.Results

/-!
A visit to the page: the tab key is pressed in the editor, and then the button that starts the
analysis.
-/

namespace HabitLens.Page

open Review

inductive Reception where
  | response (status : Int) (data : Property)
  | unreached (message : String)

inductive Change where
  | shown
  | hidden
  deriving DecidableEq, Repr

structure Outcome where
  requests : List String := []
  loading : List Change := []
  results : Markup

def missingExplanations : Value :=
  .dict
    [("line", .int 0),
     ("message", .str <|
        "Claude API is not providing explanations. This could be due to environment variables " ++
          "not being set correctly or API rate limits."),
     ("category", .str Category.syntaxError.name), ("source", .str Origin.system.name),
     ("explanation", .null), ("fix", .null)]

def anyExplained : List Value → Except Fault Bool
  | [] => .ok false
  | item :: rest => do
    if (← Property.read (some item) "explanation").truthy then return true
    anyExplained rest

def assistantName : String := "Claude API"

def speaksOfAssistant (item : Value) : Except Fault Bool :=
  if !Item.isSystem item || !(field item "message").truthy then .ok false
  else
    match field item "message" with
    | some (.str s) => .ok (Text.occursIn assistantName s)
    | some (.unpaired codes) => .ok (Text.occursIn assistantName (Text.ofCodes codes))
    | some (.list items) => .ok (items.any (Value.same (.str assistantName)))
    | _ => .error (.notOperation "item.message.includes")

def anySpeaksOfAssistant : List Value → Except Fault Bool
  | [] => .ok false
  | item :: rest => do
    if ← speaksOfAssistant item then return true
    anySpeaksOfAssistant rest

/-- The items to show: where explanations are missing, one item may be added that says so. -/
def itemsToShow (items : List Value) : Except Fault (List Value) := do
  if ← anyExplained items then return items
  if items.isEmpty then return items
  if ← anySpeaksOfAssistant items then return items
  return items ++ [missingExplanations]

def itemsOf (data : Property) : Except Fault (List Value) := do
  let feedback ← data.read "feedback"
  let _ ← feedback.read "length"
  match feedback with
  | some (.list items) => return items
  | _ => throw (.notOperation "data.feedback.some")

def messageResults (message : String) : Markup :=
  .given "div" "" s!"<p class=\"initial-message\">{message}</p>"

def display (items : List Value) : Except Fault Markup := do
  if items.isEmpty then return messageResults "No issues found. Your code looks good!"
  return .node "div" "" (← Results.render items)

def isSuccess (status : Int) : Bool :=
  200 ≤ status && status < 300

def receive : Reception → Except Fault Markup
  | .unreached message => .error (.unreached message)
  | .response status data => do
    if !isSuccess status then throw (.badStatus status)
    display (← itemsToShow (← itemsOf data))

def sentCode (editor : String) : String :=
  String.ofList (Text.trim Text.isEditorBlank editor.toList)

def requestBody (code : String) : String :=
  Json.write (.dict [("code", .str code)])

def click (editor : String) (reception : Reception) : Outcome :=
  let code := sentCode editor
  if code.isEmpty then
    { results := messageResults "Please enter some Python code to analyze for runtime issues." }
  else
    { requests := [requestBody code]
      loading := [.shown, .hidden]
      results := match receive reception with
        | .ok results => results
        | .error fault => messageResults s!"Error: {fault.message}" }

def tabText (indent : Nat) : String :=
  String.ofList (List.replicate indent ' ')

end HabitLens.Page
