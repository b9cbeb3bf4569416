import HabitLens.Data.Failure

/-!
Responses of the service.
-/

namespace HabitLens.Service

inductive Content where
  | data (v : Value)
  | page (text : String)
  | none
  deriving DecidableEq

structure Response where
  status : Nat
  content : Content
  deriving DecidableEq

namespace Response

def ok (content : Content) : Response :=
  { status := 200, content }

def bare (status : Nat) : Response :=
  { status, content := .none }

/-- What a failure of the service is answered with, unless it goes further up. -/
def ofRefusal? : Failure → Option Response
  | .badRequest => some (bare 400)
  | .unsupportedMedia => some (bare 415)
  | _ => none

end Response

end HabitLens.Service
