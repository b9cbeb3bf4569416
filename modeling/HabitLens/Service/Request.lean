import HabitLens.Data.Failure
import HabitLens.Data.Json
import HabitLens.Text.Blank
import HabitLens.Text.Cut

/-!
Requests to the service: their method and path, their headers, and the data in their body.
-/

namespace HabitLens.Service

structure Body where
  contentType : String
  text : String
  deriving DecidableEq, Repr

structure Request where
  method : String
  path : String
  headers : Table String := []
  body : Option Body := none
  deriving DecidableEq, Repr

def lowerCase (s : String) : String :=
  String.ofList (s.toList.map Char.toLower)

/-- The type of a body, without parameters and in lower case. -/
def Body.mediaType (b : Body) : String :=
  let type := b.contentType.toList.takeWhile (· != ';')
  lowerCase (String.ofList (Text.trim Text.isBlank type))

def isJsonType (type : String) : Bool :=
  type == "application/json" || (type.startsWith "application/" && type.endsWith "+json")

namespace Request

def place (r : Request) : String :=
  String.ofList (r.path.toList.takeWhile fun c => c != '?' && c != '#')

/-- The value of a header, whose name may be written in any case. -/
def header? (r : Request) (name : String) : Option String :=
  (r.headers.find? fun (k, _) => lowerCase k == lowerCase name).map (·.2)

/-- The data in the body. A mark of byte order in front of it is passed over. -/
def data (r : Request) : Except Failure Value :=
  match r.body with
  | none => .error .unsupportedMedia
  | some body =>
    if !isJsonType body.mediaType then .error .unsupportedMedia
    else
      let text := match body.text.toList with
        | c :: cs => if c.toNat == 0xfeff then cs else c :: cs
        | [] => []
      match Json.read text with
      | .ok v => .ok v
      | .error _ => .error .badRequest

end Request

end HabitLens.Service
