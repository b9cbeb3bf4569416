import HabitLens.Service.Development
import HabitLens.Service.Document
import HabitLens.Service.Hosted

/-!
The routes of the service: the page, and the analysis of code.
-/

namespace HabitLens.Service

inductive Place where
  | page
  | analysis
  deriving DecidableEq, Repr

def Place.ofPath? (path : String) : Option Place :=
  if path == "/" then some .page
  else if path == "/analyze" then some .analysis
  else none

def upperCase (s : String) : String :=
  String.ofList (s.toList.map Char.toUpper)

/-- Analyzes code in a deployment. A request that it refuses gets a status of its own. -/
def analyze (d : Deployment) (p : Parts) (r : Request) : Act Response := do
  let view := match d with
    | .development => Development.analyze p r
    | .hosted => Hosted.analyze p r
  match ← Act.caught view with
  | .ok response => return response
  | .error f =>
    match Response.ofRefusal? f with
    | some response => return response
    | none => throw f

def respond (d : Deployment) (p : Parts) (r : Request) : Act Response :=
  match Place.ofPath? r.place, upperCase r.method with
  | none, _ => return .bare 404
  | some .page, "GET" => return .ok (.page (Document.render (Document.mount r)))
  | some .page, "HEAD" => return .ok (.page "")
  | some .analysis, "POST" => analyze d p r
  | some _, "OPTIONS" => return .ok (.page "")
  | some _, _ => return .bare 405

end HabitLens.Service
