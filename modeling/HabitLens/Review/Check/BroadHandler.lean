import HabitLens.Review.Issue
import HabitLens.Review.Program

/-!
Handlers that catch every exception.
-/

namespace HabitLens.Review

open Source

namespace BroadHandler

def catchesAll (h : Handler) : Bool :=
  match h.type with
  | none => true
  | some e => e.name? == some "Exception"

def onlyPasses (h : Handler) : Bool :=
  match h.body with
  | [.pass _] => true
  | _ => false

def logCalls : List String :=
  ["debug", "info", "warning", "error", "critical", "exception"]

def tells : Stmt → Bool
  | .expr _ e => e.calledName? == some "print" || e.calledAttr?.any logCalls.contains
  | .raise .. => true
  | _ => false

def hasFinally : Node → Bool
  | .stmt (.tryBlock _ _ _ _ _ finalbody) => !finalbody.isEmpty
  | _ => false

def silentMessage : String :=
  "Catching all exceptions with a bare except: pass will silence critical errors, making bugs " ++
    "extremely difficult to diagnose."

def broadMessage : String :=
  "Catching all exceptions with a bare except or except Exception can mask critical errors. " ++
    "Catch specific exceptions instead."

def ofVisit (v : Visit) : List Issue :=
  match v.node with
  | .handler h =>
    if !catchesAll h then []
    else if onlyPasses h then
      let category := if v.above.head?.any hasFinally then .badHabit else .runtimeError
      [.found h.line silentMessage category]
    else
      let category := if h.body.any tells then .badHabit else .potentialError
      [.found h.line broadMessage category]
  | _ => []

def check (p : Program) : List Issue :=
  p.visits.flatMap ofVisit

end BroadHandler

end HabitLens.Review
