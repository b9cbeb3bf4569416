import HabitLens.Data.Json
import HabitLens.Service.Environment
import HabitLens.Text.Cut

/-!
A report of the environment that hides the values of secrets and tells only their lengths.
-/

namespace HabitLens.Service.EnvironmentReport

/--
The ASCII letter that a character becomes in lower case; other characters are left as they are. The
sign for kelvin is the one character outside ASCII that becomes a letter of the words below.
-/
def lowered (c : Char) : Char :=
  if c.toNat == 0x212a then 'k' else c.toLower

def secretWords : List String :=
  ["key", "token", "secret", "password"]

def isSecret (name : String) : Bool :=
  let name := String.ofList (name.toList.map lowered)
  secretWords.any fun w => Text.occursIn w name

def shown (name value : String) : String :=
  if isSecret name then s!"[REDACTED] (Length: {value.length})" else value

def filtered (env : Environment) : Environment :=
  env.map fun (name, value) => (name, shown name value)

def entry (name value : String) : String :=
  "  " ++ Json.writeText .ascii name ++ ": " ++ Json.writeText .ascii value

def table (env : Environment) : String :=
  if env.isEmpty then "\x7b\x7d"
  else
    "\x7b\n" ++ ",\n".intercalate (env.map fun (name, value) => entry name value) ++ "\n\x7d"

def present (env : Environment) (name : String) : String :=
  s!"{name} present: {Setup.yesNo (env.given? name).isSome}"

def setting (env : Environment) (label name missing : String) : String :=
  s!"{label}: {(env.get? name).getD missing}"

def lines (env : Environment) : List String :=
  ["Environment Variables:",
   table (filtered env),
   "",
   "API Key Status:",
   present env Environment.keyName,
   present env Environment.otherKeyName,
   "",
   "Flask Environment:",
   setting env "FLASK_ENV" "FLASK_ENV" "None",
   setting env "FLASK_DEBUG" "FLASK_DEBUG" "None",
   "",
   "Python Environment:",
   setting env "Python Version" "PYTHONVERSION" "Not set",
   setting env "Python Path" "PYTHONPATH" "Not set",
   setting env "Python Unbuffered" "PYTHONUNBUFFERED" "Not set"]

def text (env : Environment) : String :=
  String.join ((lines env).map (· ++ "\n"))

end HabitLens.Service.EnvironmentReport
