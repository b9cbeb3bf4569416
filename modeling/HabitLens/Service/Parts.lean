import HabitLens.Advice.Explain
import HabitLens.Review.Analyzer

/-!
What a deployment of the service works with: an analysis, and an assistant that explains issues.
-/

namespace HabitLens.Service

open Review

inductive Deployment where
  | development
  | hosted
  deriving DecidableEq, Repr

structure Parts where
  analyse : Value → Act (List Value)
  explain : Value → Value → Act Advice
  hasAssistant : Bool

namespace Parts

def analysis (run : LinterRun) (code : Value) : Act (List Value) := do
  let result := ({} : Analyzer).analyze code run
  Act.sayAll result.log
  match result.failure with
  | some f => throw f
  | none => return result.analyzer.feedback.map Issue.toValue

def explanation (d : Deployment) (hasAssistant : Bool) (apiKey : Option String)
    (item code : Value) : Act Advice :=
  match d with
  | .development => Explain.patient hasAssistant item code
  | .hosted => Explain.brief hasAssistant apiKey item code

def standard (d : Deployment) (run : LinterRun) (hasAssistant : Bool) (apiKey : Option String) :
    Parts :=
  { analyse := analysis run
    explain := explanation d hasAssistant apiKey
    hasAssistant }

def findingAlso (p : Parts) (items : List Value) : Parts :=
  { p with analyse := fun code => return (← p.analyse code) ++ items }

def failingAnalysis (p : Parts) (f : Failure) : Parts :=
  { p with analyse := fun _ => throw f }

def failingExplanation (p : Parts) (f : Failure) : Parts :=
  { p with explain := fun _ _ => throw f }

end Parts

def codeLines (code : String) : Value :=
  .list ((Text.lines code).map .str)

def linesOf : Value → Except Failure Value
  | .str code => .ok (codeLines code)
  | .unpaired codes => .ok (.list ((Text.splitAt '\n'.toNat codes).map .ofCodes))
  | v => .error (.noOperation v.kind "split")

def codeText : Value → Except Failure String
  | .str code => .ok code
  | .unpaired codes => .error (.unencodable codes)
  | _ => .error .notSource

def advised (item : Value) (a : Advice) : Except Failure Value := do
  let item ← item.setField "explanation" (.str a.explanation)
  item.setField "fix" ((a.fix.map .str).getD .null)

def isSystem (item : Value) : Except Failure Bool := do
  return (← item.fieldOr "source" .null).same (.str Origin.system.name)

end HabitLens.Service
