import HabitLens.Source.MatchKey
import HabitLens.Source.Placement.Basic

/-!
Patterns that bind names twice, or that leave nothing for those after them.
-/

namespace HabitLens.Source.Placement

variable (v : Visitor)

def capture (name : Option String) (bound : List String) : Visit (List String) := do
  match name with
  | none => return bound
  | some n =>
    storeName n
    if bound.contains n then
      refuse s!"multiple assignments to name {Display.quoted n} in pattern"
    return bound ++ [n]

def isWildcard : Pattern → Bool
  | .capture _ none none => true
  | _ => false

def isStar : Pattern → Bool
  | .star .. => true
  | _ => false

def subpatterns (bound : List String) : List Pattern → Visit (List String)
  | [] => return bound
  | p :: ps => do
    let bound ← v.pattern true p bound
    subpatterns bound ps

def sequencePattern (ps : List Pattern) (bound : List String) : Visit (List String) := do
  if 1 < (ps.filter isStar).length then refuse "multiple starred expressions in sequence pattern"
  let before := ps.takeWhile (!isStar ·)
  let starWild := ps.any fun
    | .star _ name => name.isNone
    | _ => false
  if ps.all (fun p => isWildcard p || isStar p) && (starWild || !ps.any isStar) then return bound
  if starWild then
    return ← subpatterns v bound (ps.filter fun p => !isWildcard p && !isStar p)
  if 256 ≤ before.length && before.length < ps.length then
    refuse "too many expressions in star-unpacking sequence pattern"
  subpatterns v bound ps

def mappingKeys (seen : List MatchKey) : List Expr → Visit Unit
  | [] => pure ()
  | e :: es =>
    match MatchKey.ofExpr? e with
    | some key => do
      if seen.any key.same then
        refuse s!"mapping pattern checks duplicate key ({key.display})"
      mappingKeys (key :: seen) es
    | none => do
      match e with
      | .attr .. => v.expr e
      | _ => refuse "mapping pattern keys may only match literals and attribute lookups"
      mappingKeys seen es

/-- Checks the attribute names of a class pattern; faults are reported at their patterns. -/
def attrNames : List (String × Pattern) → Visit Unit
  | [] => pure ()
  | (name, p) :: rest => do
    goTo p.line
    storeName name
    if let some (_, q) := rest.find? (·.1 == name) then
      goTo q.line
      refuse s!"attribute name repeated in class pattern: {name}"
    attrNames rest

/-- The alternatives of a pattern, which have to bind the same names. -/
def alternatives (allowed : Bool) (control : Option (List String)) :
    List Pattern → Visit (List String)
  | [] => return control.getD []
  | p :: ps => do
    goTo p.line
    let names ← v.pattern (ps.isEmpty && allowed) p []
    match control with
    | none => alternatives allowed (some names) ps
    | some first =>
      if names.length != first.length || !first.all names.contains then
        refuse "alternative patterns bind different names"
      alternatives allowed control ps

def bindAll (bound : List String) : List String → Visit (List String)
  | [] => return bound
  | n :: ns => do
    if bound.contains n then
      refuse s!"multiple assignments to name {Display.quoted n} in pattern"
    bindAll (bound ++ [n]) ns

def pattern (allowed : Bool) (p : Pattern) (bound : List String) : Visit (List String) := do
  goTo p.line
  match p with
  | .value _ e =>
    match e, MatchKey.ofExpr? e with
    | .attr .., _ => v.expr e
    | _, some _ => pure ()
    | _, none => refuse "patterns may only match literals and attribute lookups"
    return bound
  | .singleton .. => return bound
  | .sequence _ ps => sequencePattern v ps bound
  | .mapping _ keys ps rest => do
    mappingKeys v [] keys
    capture rest (← subpatterns v bound ps)
  | .cls _ cls ps names named => do
    attrNames (names.zip named)
    v.expr cls
    subpatterns v bound ((ps ++ named).filter (!isWildcard ·))
  | .star _ name => capture name bound
  | .capture _ none name => do
    if !allowed then
      match name with
      | some n => refuse s!"name capture {Display.quoted n} makes remaining patterns unreachable"
      | none => refuse "wildcard makes remaining patterns unreachable"
    capture name bound
  | .capture _ (some inner) name => do
    capture name (← v.pattern allowed inner bound)
  | .alternatives _ ps => do
    bindAll bound (← alternatives v allowed none ps)

/-- The cases of a match. Only the last one, or one with a guard, may match everything. -/
def matchCases (single : Bool) : List MatchCase → Visit Unit
  | [] => pure ()
  | c :: rest => do
    goTo c.pattern.line
    if !(rest.isEmpty && !single && isWildcard c.pattern) then
      let names ← v.pattern (c.guard.isSome || rest.isEmpty) c.pattern []
      names.forM storeName
    optional v c.guard
    v.stmts c.body
    matchCases single rest

end HabitLens.Source.Placement
