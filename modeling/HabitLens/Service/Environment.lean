import HabitLens.Advice.Journal
import HabitLens.Data.Table
import HabitLens.Service.Parts
import HabitLens.Text.Blank

/-!
The environment of the service: where it finds the key of the assistant, and how it sets up the
assistant when it starts.
-/

namespace HabitLens.Service

abbrev Environment : Type := Table String

namespace Environment

def keyName : String := "ANTHROPIC_API_KEY"

def otherKeyName : String := "VERCEL_ANTHROPIC_API_KEY"

def given? (env : Environment) (name : String) : Option String :=
  (env.get? name).filter (!·.isEmpty)

def assistantKey? (env : Environment) : Option String :=
  (env.given? keyName).or (env.given? otherKeyName)

end Environment

/-- How the outside behaves while the assistant is set up. -/
structure Outside where
  constructionError : Option String := none
  questionError : Option String := none

structure Setup where
  hasAssistant : Bool
  log : List String
  keys : List String := []
  questions : List Question := []

namespace Setup

def trial : Question :=
  { prompt := "Test", maxTokens := 10 }

/-- In development the log says where a line comes from. -/
def mark : Deployment → String
  | .development => " in app.py"
  | .hosted => ""

def yesNo (b : Bool) : String :=
  (Value.bool b).display

def keyLog (d : Deployment) (env : Environment) : List String :=
  let substituted := (env.given? Environment.keyName).isNone && env.assistantKey?.isSome
  (if d = .hosted && substituted then
    [s!"Using {Environment.otherKeyName} instead of {Environment.keyName}"] else []) ++
  [s!"API key available{mark d}: {yesNo env.assistantKey?.isSome}"]

def missingLog : Deployment → List String
  | .development => [s!"No API key found in environment variables{mark .development}"]
  | .hosted =>
    ["No API key found in environment variables",
     s!"Checked both {Environment.keyName} and {Environment.otherKeyName}"]

def run (d : Deployment) (env : Environment) (outside : Outside) : Setup :=
  let start := keyLog d env
  match env.assistantKey? with
  | none => { hasAssistant := false, log := start ++ missingLog d }
  | some key =>
    let keys := [String.ofList (Text.trim Text.isBlank key.toList)]
    match outside.constructionError with
    | some e =>
      { hasAssistant := false
        log := start ++ [s!"Failed to initialize Anthropic client{mark d}: {e}",
          "AI explanations will not be available."]
        keys }
    | none =>
      let start := start ++ [s!"Anthropic client initialized successfully{mark d}"]
      match outside.questionError with
      | some e =>
        { hasAssistant := false
          log := start ++ [s!"Anthropic client test failed{mark d}: {e}"]
          keys
          questions := [trial] }
      | none =>
        { hasAssistant := true
          log := start ++ [s!"Anthropic client test successful{mark d}"]
          keys
          questions := [trial] }

end Setup

end HabitLens.Service
