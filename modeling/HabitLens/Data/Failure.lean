import HabitLens.Data.Display
import HabitLens.Source.Fault

/-!
Why an operation on a value fails. A cause knows what it was about; its wording is in one place.
-/

namespace HabitLens

inductive Failure where
  | noOperation (kind : Kind) (name : String)
  | notIterable (kind : Kind)
  | noMembers (kind : Kind)
  | noItems (kind : Kind)
  | listIndex (kind : Kind)
  | textIndex (kind : Kind)
  | noItemAssignment (kind : Kind)
  | outOfRange (what : String)
  | missingKey (key : String)
  | missingItem (index : Nat)
  | noRange
  | unhashable (kind : Kind)
  | unordered (sign : String) (left right : Kind)
  | notInteger (kind : Kind)
  | noLength (kind : Kind)
  | notSource
  /-- A text with halves of characters in it cannot be stored. -/
  | unencodable (codes : List Nat)
  | badSource (fault : Source.Fault)
  /-- Parsing failed by no fault of the text. -/
  | unparsed (message : String)
  | tooManyDigits (count : Nat)
  | unbound (name : String)
  | outside (message : String)
  /-- The program is told to stop, for a named cause. -/
  | stopped (cause message : String)
  | badRequest
  | unsupportedMedia
  deriving DecidableEq, Repr

namespace Failure

/-- Why a text with these codes cannot be stored: the first halves in it are named. -/
def unencodableMessage (codes : List Nat) : String :=
  let place := (codes.takeWhile (!Text.isHalf ·)).length
  let halves := (codes.drop place).takeWhile Text.isHalf
  let what := match halves with
    | [half] => s!"character '\\u{String.ofList (hexText 4 half)}' in position {place}"
    | _ => s!"characters in position {place}-{place + halves.length - 1}"
  s!"'utf-8' codec can't encode {what}: surrogates not allowed"

def ofFault (fault : Source.Fault) : Failure :=
  if fault.kind = .internal then unparsed fault.message else badSource fault

def message : Failure → String
  | noOperation kind name => s!"'{kind.name}' object has no attribute '{name}'"
  | notIterable kind => s!"'{kind.name}' object is not iterable"
  | noMembers kind => s!"argument of type '{kind.name}' is not iterable"
  | noItems kind => s!"'{kind.name}' object is not subscriptable"
  | listIndex kind => s!"list indices must be integers or slices, not {kind.name}"
  | textIndex kind => s!"string indices must be integers, not '{kind.name}'"
  | noItemAssignment kind => s!"'{kind.name}' object does not support item assignment"
  | outOfRange what => s!"{what} index out of range"
  | missingKey key => Display.quoted key
  | missingItem index => decimal index
  | noRange => "unhashable type: 'slice'"
  | unhashable kind => s!"unhashable type: '{kind.name}'"
  | unordered sign left right =>
    s!"'{sign}' not supported between instances of '{left.name}' and '{right.name}'"
  | notInteger kind => s!"'{kind.name}' object cannot be interpreted as an integer"
  | noLength kind => s!"object of type '{kind.name}' has no len()"
  | notSource => "compile() arg 1 must be a string, bytes or AST object"
  | unencodable codes => unencodableMessage codes
  | badSource fault => fault.describe
  | unparsed message => message
  | tooManyDigits count => HabitLens.tooManyDigits count
  | unbound name =>
    s!"cannot access local variable '{name}' where it is not associated with a value"
  | outside message => message
  | stopped _ message => message
  | badRequest =>
    "400 Bad Request: The browser (or proxy) sent a request that this server could not understand."
  | unsupportedMedia =>
    "415 Unsupported Media Type: Did not attempt to load JSON data because the request " ++
      "Content-Type was not 'application/json'."

end Failure

end HabitLens
