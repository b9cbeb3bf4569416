/-!
What can go wrong on the page.
-/

namespace HabitLens.Page

inductive Fault where
  /-- Nothing can be read from a missing value; `isNull` tells a null from an absent one. -/
  | unreadable (isNull : Bool) (name : String)
  | notOperation (what : String)
  | noText
  | badStatus (status : Int)
  | unreached (message : String)
  deriving DecidableEq, Repr

def Fault.message : Fault → String
  | .unreadable isNull name =>
    let missing := if isNull then "null" else "undefined"
    s!"Cannot read properties of {missing} (reading '{name}')"
  | .notOperation what => s!"{what} is not a function"
  | .noText => "Cannot convert object to primitive value"
  | .badStatus status => s!"HTTP error! Status: {status}"
  | .unreached message => message

end HabitLens.Page
