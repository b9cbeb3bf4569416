import HabitLens.Service.Feedback
import HabitLens.Service.Parts
import HabitLens.Service.Request
import HabitLens.Service.Response

/-!
The service as it runs in development: a failure is not caught.
-/

namespace HabitLens.Service.Development

open Act

def glance : Nat := 50

def explainItem (p : Parts) (lines : Value) (number count : Nat) (item : Value) : Act Value := do
  if ← ofExcept (isSystem item) then
    let message ← ofExcept (item.fieldOr "message" (.str ""))
    say s!"Skipping system message: {message.display}"
    return item
  say s!"Generating explanation for issue {number}/{count}"
  let advice ← p.explain item lines
  let item ← ofExcept (advised item advice)
  say s!"Explanation added: {String.ofList (advice.explanation.toList.take glance)}..."
  return item

def explainFrom (p : Parts) (lines : Value) (count : Nat) (number : Nat) :
    List Value → Act (List Value)
  | [] => return []
  | item :: rest => do
    let item ← explainItem p lines number count item
    let rest ← explainFrom p lines count (number + 1) rest
    return item :: rest

def explainAll (p : Parts) (lines : Value) (items : List Value) : Act (List Value) := do
  if p.hasAssistant then
    say "Anthropic client is available, generating explanations..."
    explainFrom p lines items.length 1 items
  else
    say "Anthropic client is not available, skipping explanations"
    return items

def arrange (items : List Value) : Except Failure (List Value) := do
  let items ← items.mapM (Feedback.complete .strict)
  Feedback.sort .strict items

def analyze (p : Parts) (r : Request) : Act Response := do
  let data ← ofExcept r.data
  let code ← ofExcept (data.fieldOr "code" (.str ""))
  let lines ← ofExcept (linesOf code)
  let items ← p.analyse code
  say s!"Found {items.length} issues to analyze"
  let items ← explainAll p lines items
  let items ← ofExcept (arrange items)
  return .ok (.data (Feedback.toValue items))

end HabitLens.Service.Development
