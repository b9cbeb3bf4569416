import HabitLens.Advice.Basic
import HabitLens.Advice.Journal
import HabitLens.Advice.Prompt

/-!
Explaining an issue with the help of the assistant. The patient way asks up to three times and waits
longer after each failure; the brief way asks once. Neither ever fails: whatever goes wrong is told
in place of the explanation.
-/

namespace HabitLens.Explain

open Act

def failing (explanation : String) : StateM Journal Advice :=
  return { explanation }

def unexplained (text : String) : StateM Journal Advice := do
  say s!"Failed to parse explanation from Claude response: {text}"
  failing "Claude did not return an explanation in the expected format."

def interpret (text : String) : StateM Journal Advice := do
  match Advice.ofText? text with
  | some advice =>
    if advice.fix.isNone then say "No 'Fix:' section found in Claude response"
    return advice
  | none => unexplained text

def announce (issue : Value) : Act Unit := do
  let category ← ofExcept (issue.fieldOr "category" (.str "unknown"))
  let message ← ofExcept (issue.fieldOr "message" (.str ""))
  let line ← ofExcept (issue.fieldOr "line" (.int 0))
  say <|
    s!"Generating explanation for issue: {category.display} - {message.display} " ++
      s!"at line {line.display}"

def unprepared (f : Failure) : StateM Journal Advice := do
  say s!"Error in generate_explanation: {f.message}"
  failing s!"Failed to generate explanation: {f.message}"

def patientQuestion (issue code : Value) : Act Question := do
  announce issue
  let line ← ofExcept (issue.fieldOr "line" (.int 0))
  let window ← ofExcept (Window.around code line)
  let category ← ofExcept (issue.fieldOr "category" (.str "error"))
  let message ← ofExcept (issue.fieldOr "message" (.str "Unknown error"))
  return { prompt := Prompt.detailed category message (Window.marked line window)
           maxTokens := 1000 }

/-- One attempt of the patient way. A reply that is no text may still be searched for a mark. -/
def patientAttempt (q : Question) : Act Advice := do
  let text ← ask q
  let some count := text.length? | throw (.noLength text.kind)
  say s!"Claude response received: {count} chars"
  match text with
  | .str s => interpret s
  | .unpaired codes => interpret (Text.ofCodes codes)
  | v =>
    if ← ofExcept (v.hasMember Advice.explanationMark) then throw (.noOperation v.kind "split")
    unexplained v.display

def maxAttempts : Nat := 3

/-- Asks until an attempt succeeds, for the attempts that are left. -/
def askPatiently (q : Question) (last : String) : Nat → StateM Journal Advice
  | 0 => do
    let message := s!"Error calling Claude API after {maxAttempts} attempts: {last}"
    say message
    failing message
  | left + 1 => do
    match ← attempt (patientAttempt q) with
    | .ok advice => return advice
    | .error f =>
      let number := maxAttempts - left
      say s!"API call attempt {number} failed: {f.message}"
      pause number
      askPatiently q f.message left

def patient (hasAssistant : Bool) (issue code : Value) : StateM Journal Advice := do
  if !hasAssistant then
    say "Anthropic client not available. Cannot generate explanation."
    return ← failing "AI explanations unavailable. Please set up the Anthropic API key."
  match ← attempt (patientQuestion issue code) with
  | .ok q => askPatiently q "None" maxAttempts
  | .error f => unprepared f

def role : String :=
  "You are a helpful Python expert. Provide clear, concise explanations and fixes for Python " ++
    "code issues."

def briefQuestion (issue code : Value) : Act Question := do
  announce issue
  let category ← ofExcept (issue.fieldOr "category" (.str "unknown"))
  let message ← ofExcept (issue.fieldOr "message" (.str ""))
  let line ← ofExcept (issue.fieldOr "line" (.int 0))
  let window ← ofExcept (Window.around code line)
  return { prompt := Prompt.short category message line (Window.numbered window)
           maxTokens := 300
           role := some role }

def glance : Nat := 100

def briefAttempt (q : Question) : Act Advice := do
  let text ← ask q
  let received (start : Value) : StateM Journal Unit :=
    say s!"Claude API response received: {start.display}..."
  match text with
  | .str s =>
    received (.str (String.ofList (s.toList.take glance)))
    interpret s
  | .unpaired codes =>
    received (.unpaired (codes.take glance))
    interpret (Text.ofCodes codes)
  | .list items =>
    received (.list (items.take glance))
    throw (.noOperation .list "split")
  | .dict _ => throw .noRange
  | v => throw (.noItems v.kind)

/-- The brief way to explain an issue of some code. It looks for the key of the assistant again. -/
def brief (hasAssistant : Bool) (apiKey : Option String) (issue code : Value) :
    StateM Journal Advice := do
  if !hasAssistant then
    say "Anthropic client not available. Cannot generate explanation."
    return ← failing <|
      "AI explanations unavailable. Please set up the Anthropic API key in Vercel environment " ++
        "variables."
  if (apiKey.getD "").isEmpty then
    say "API key missing when generating explanation"
    return ← failing <|
      "API key is missing. Please set the ANTHROPIC_API_KEY environment variable in Vercel."
  match ← attempt (briefQuestion issue code) with
  | .error f => unprepared f
  | .ok q =>
    match ← attempt (briefAttempt q) with
    | .ok advice => return advice
    | .error f =>
      say s!"Error calling Claude API: {f.message}"
      failing s!"Error calling Claude API: {f.message}"

end HabitLens.Explain
