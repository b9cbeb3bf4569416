import HabitLens.Data.Failure
import HabitLens.Data.Json
import HabitLens.Review.Issue

/-!
What an external linter reports. Of its entries only those about errors become issues.
-/

namespace HabitLens.Review

inductive LinterRun where
  | output (text : String)
  | missing
  | failed (reason : String)
  | stopped (cause message : String)

structure LinterReport where
  issues : List Issue := []
  log : List String := []
  failure : Option Failure := none

namespace Linter

def definiteErrors : List String :=
  ["undefined-variable", "used-before-assignment", "no-member", "not-callable",
   "unexpected-keyword-arg", "too-many-function-args", "too-few-function-args",
   "invalid-sequence-index", "invalid-slice-index", "attribute-error", "import-error",
   "no-name-in-module", "return-outside-function", "yield-outside-function",
   "continue-outside-loop", "break-outside-loop"]

def potentialErrors : List String :=
  ["missing-kwoa", "unsupported-assignment-operation", "unsupported-delete-operation",
   "unsupported-membership-test", "unsubscriptable-object", "undefined-loop-variable",
   "return-arg-in-generator", "nonlocal-without-binding"]

def isOneOf (names : List String) : Value → Bool
  | .str s => names.contains s
  | _ => false

/-- Whether the type of an entry is that of an error, in whatever case it is written. -/
def isErrorType (type : String) : Bool :=
  type.toList.map Char.toLower == "error".toList

def issue? (fields : Table Value) (type : String) : Option Issue :=
  let symbol := (fields.get? "symbol").getD (.str "")
  let definite := isErrorType type || isOneOf definiteErrors symbol
  if definite || isOneOf potentialErrors symbol then
    some
      { line := (fields.get? "line").getD (.int 0)
        message := (fields.get? "message").getD (.str "")
        isBadHabit := true
        category := if definite then .runtimeError else .potentialError
        origin := .linter }
  else none

def ofEntry : Value → Except Failure (Option Issue)
  | .dict fields =>
    match (Table.get? fields "type").getD (.str "") with
    | .str type => .ok (issue? fields type)
    | .unpaired codes => .ok (issue? fields (Text.ofCodes codes))
    | v => .error (.noOperation v.kind "lower")
  | v => .error (.noOperation v.kind "get")

def failure (f : Failure) : Issue :=
  .trouble ("Error running pylint: " ++ f.message)

def ofEntries : List Value → List Issue
  | [] => []
  | v :: vs =>
    match ofEntry v with
    | .ok issue => issue.toList ++ ofEntries vs
    | .error f => [failure f]

def ofResults : Value → List Issue
  | .list entries => ofEntries entries
  | .dict fields => ofEntries (fields.map fun (k, _) => .str k)
  | .str s => ofEntries (s.toList.map fun c => .str (String.singleton c))
  | .unpaired codes => ofEntries (codes.map fun code => .ofCodes [code])
  | v => [failure (.notIterable v.kind)]

def ofOutput (text : String) : List Issue :=
  if text.isEmpty then []
  else
    match Json.read text.toList with
    | .ok results => ofResults results
    | .error .malformed => [.trouble "Failed to parse pylint output"]
    | .error (.tooManyDigits count) => [failure (.tooManyDigits count)]

end Linter

def LinterRun.report : LinterRun → LinterReport
  | .output text => { issues := Linter.ofOutput text }
  | .missing => { log := ["pylint not found in environment, skipping pylint analysis"] }
  | .failed reason => { issues := [Linter.failure (.outside reason)] }
  | .stopped cause message => { failure := some (.stopped cause message) }

end HabitLens.Review
