import HabitLens.Service.Fallback
import HabitLens.Service.Feedback
import HabitLens.Service.Parts
import HabitLens.Service.Request
import HabitLens.Service.Response
import HabitLens.Source.Runnable

/-!
The service as it is hosted: it checks first whether the code can be run at all, has a simple
analysis to fall back on, and answers failures instead of passing them on.
-/

namespace HabitLens.Service.Hosted

open Act
open Review
open Source

def faultRemark (fault : Fault) : Remark :=
  { line := fault.line
    message := s!"SyntaxError: {fault.message}"
    category := .syntaxError }

/-- Whether a failure can be answered. The order to stop cannot. -/
def isAnswerable : Failure → Bool
  | .stopped .. => false
  | _ => true

def fallBack (body : List Stmt) : StateM Journal (List Value) := do
  let (remarks, failure) := Fallback.run body
  match failure with
  | none => return remarks.map Remark.toValue
  | some f =>
    say s!"Error in AST analysis: {f.message}"
    return (remarks ++ [Fallback.brokenOff f]).map Remark.toValue

def find (p : Parts) (code : String) : Act (List Value) := do
  match parseRunnable code with
  | .error fault =>
    if fault.kind = .internal then throw (.unparsed fault.message)
    return [(faultRemark fault).toValue]
  | .ok body =>
    match ← caught (p.analyse (.str code)) with
    | .ok items => return items
    | .error f =>
      if !isAnswerable f then throw f
      say s!"Error using main analyzer: {f.message}"
      fallBack body

def explainItem (p : Parts) (lines item : Value) : Act Value := do
  if ← ofExcept (isSystem item) then return item
  let message ← ofExcept (item.fieldOr "message" .null)
  say s!"Generating explanation for issue: {message.display}"
  let advice ← p.explain item lines
  say s!"Explanation generated: {(Value.bool !advice.explanation.isEmpty).display}"
  ofExcept (advised item advice)

/-- Explains items up to the first failure; later items stay as they are. -/
def explainItems (p : Parts) (lines : Value) :
    List Value → StateM Journal (List Value × Option Failure)
  | [] => return ([], none)
  | item :: rest => do
    match ← attempt (explainItem p lines item) with
    | .error f => return (item :: rest, some f)
    | .ok item =>
      let (rest, failure) ← explainItems p lines rest
      return (item :: rest, failure)

def unexplained (f : Failure) : Value :=
  .dict
    [("line", .int 0), ("message", .str s!"Error generating explanations: {f.message}"),
     ("category", .str Category.syntaxError.name), ("source", .str Origin.system.name),
     ("explanation", .str s!"Failed to generate explanations: {f.message}"), ("fix", .null)]

def explainAll (p : Parts) (lines : Value) (items : List Value) : Act (List Value) := do
  if p.hasAssistant then
    say "Anthropic client is available, generating explanations..."
    match ← explainItems p lines items with
    | (items, none) => return items
    | (items, some f) =>
      if !isAnswerable f then throw f
      say s!"Error generating explanations: {f.message}"
      return items ++ [unexplained f]
  else
    say "Anthropic client not available, skipping explanations"
    return items

def arrange (items : List Value) : Act (List Value) := do
  let items ← ofExcept (items.mapM (Feedback.complete .lenient))
  let categories ← ofExcept (items.mapM (·.fieldOr "category" (.str "unknown")))
  say s!"Categories detected: {(Value.list categories).display}"
  ofExcept (Feedback.sort .lenient items)

def serve (p : Parts) (r : Request) : Act (List Value) := do
  let data ← ofExcept r.data
  let code ← ofExcept (data.fieldOr "code" (.str ""))
  let lines ← ofExcept (linesOf code)
  let text ← ofExcept (codeText code)
  let items ← find p text
  let items ← explainAll p lines items
  arrange items

def failed (f : Failure) : Response :=
  let item : Remark :=
    { line := some 0
      message := s!"Server error: {f.message}"
      category := .syntaxError
      origin := Origin.system.name }
  { status := 500
    content := .data (.dict [("error", .str f.message), ("feedback", .list [item.toValue])]) }

def analyze (p : Parts) (r : Request) : Act Response := do
  match ← caught (serve p r) with
  | .ok items => return .ok (.data (Feedback.toValue items))
  | .error f => if isAnswerable f then return failed f else throw f

end HabitLens.Service.Hosted
