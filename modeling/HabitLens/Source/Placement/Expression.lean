import HabitLens.Source.Placement.Basic
import HabitLens.Source.Suspension

/-!
Expressions out of place.
-/

namespace HabitLens.Source.Placement

variable (v : Visitor)

def elements (es : List Expr) : Visit Unit :=
  es.forM fun
    | .starred _ value _ => v.expr value
    | e => v.expr e

def isStarred : Expr → Bool
  | .starred .. => true
  | _ => false

/-- Targets of which one may take the rest. -/
def unpackTargets (es : List Expr) : Visit Unit := do
  let before := es.takeWhile (!isStarred ·)
  if 256 ≤ before.length && before.length < es.length then
    refuse "too many expressions in star-unpacking assignment"
  if 1 < (es.filter isStarred).length then refuse "multiple starred expressions in assignment"
  elements v es

def collection (es : List Expr) : Usage → Visit Unit
  | .load => elements v es
  | .store => unpackTargets v es
  | .delete => exprs v es

def keywordNames : List Keyword → Visit Unit
  | [] => pure ()
  | k :: ks => do
    if let some name := k.name then
      storeName name
      if let some other := ks.find? (·.name == some name) then
        goTo other.line
        refuse s!"keyword argument repeated: {name}"
    keywordNames ks

def callArgs (args : List Expr) (keywords : List Keyword) : Visit Unit := do
  elements v args
  exprs v (keywords.map Keyword.value)

def paramNames (ps : Params) : Visit Unit :=
  (ps.posOnly ++ ps.args ++ ps.vararg.toList ++ ps.kwOnly ++ ps.kwarg.toList).forM fun p =>
    storeName p.name

def defaults (ps : Params) : Visit Unit := do
  exprs v ps.defaults
  ps.kwDefaults.forM (optional v)

/-- An annotation that is evaluated; one that takes the rest stands for what is unpacked. -/
def annot : Option Expr → Visit Unit
  | none => pure ()
  | some (.starred _ value _) => v.expr value
  | some e => v.expr e

def annots (ps : Params) (returns : Option Expr) : Visit Unit := do
  if !(← get).lazyAnnots then
    (ps.args ++ ps.posOnly ++ ps.vararg.toList ++ ps.kwOnly ++ ps.kwarg.toList).forM fun p =>
      annot v p.annot
    annot v returns

def functionUnit (isAsync : Bool) (depth : Nat) (nodes : List Node) : CodeUnit :=
  { kind := if isAsync then .asyncFunction else .function
    waits := isAsync || nodes.any (Node.awaits depth)
    yields := nodes.any (Node.yields depth) }

def lambda (ps : Params) (body : Expr) : Visit Unit := do
  paramNames ps
  defaults v ps
  let depth := (← get).depth
  inUnit (functionUnit false depth [.expr body]) (v.expr body)

def clauses (parts : List Expr) : List Comprehension → Visit Unit
  | [] => exprs v parts
  | c :: rest => do
    if c.isAsync then enter .asyncClause
    v.expr c.target
    exprs v c.conditions
    match rest with
    | [] => exprs v parts
    | next :: _ =>
      v.expr next.iter
      clauses parts rest
    if c.isAsync then leave

def comprehension (isGenerator : Bool) (parts : List Expr) (cs : List Comprehension) :
    Visit Unit := do
  let outer := (← get).unit.kind
  let depth := (← get).depth
  let waits := comprehensionAwaits cs parts depth
  inUnit { kind := .comprehension, waits, yields := isGenerator } do
    if waits && !isGenerator && outer != .asyncFunction && outer != .comprehension then
      refuse "asynchronous comprehension outside of an asynchronous function"
    clauses v parts cs
  (cs.take 1).forM fun c => v.expr c.iter

def await (value : Expr) : Visit Unit := do
  let unit := (← get).unit
  if !unit.isFunction then refuse "'await' outside function"
  if unit.kind != .asyncFunction && unit.kind != .comprehension then
    refuse "'await' outside async function"
  v.expr value

def yielded (value : Option Expr) : Visit Unit := do
  if !(← get).unit.isFunction then refuse "'yield' outside function"
  optional v value

def yieldedFrom (value : Expr) : Visit Unit := do
  if !(← get).unit.isFunction then refuse "'yield' outside function"
  if (← get).unit.kind = .asyncFunction then refuse "'yield from' inside async function"
  v.expr value

def dictEntries : List (Option Expr) → List Expr → Visit Unit
  | key :: keys, value :: values => do
    optional v key
    v.expr value
    dictEntries keys values
  | _, _ => pure ()

def exprParts : Expr → Visit Unit
  | .boolOp _ _ values => exprs v values
  | .named _ target value => exprs v [value, target]
  | .binary _ left _ right => exprs v [left, right]
  | .unary _ _ operand => v.expr operand
  | .lambda _ ps body => lambda v ps body
  | .ifElse _ test body orelse => exprs v [test, body, orelse]
  | .dict _ keys values => dictEntries v keys values
  | .set _ es => elements v es
  | .listComp _ e cs | .setComp _ e cs => comprehension v false [e] cs
  | .dictComp _ key value cs => comprehension v false [key, value] cs
  | .generator _ e cs => comprehension v true [e] cs
  | .await _ value => await v value
  | .yield _ value => yielded v value
  | .yieldFrom _ value => yieldedFrom v value
  | .compare _ left _ others => exprs v (left :: others)
  | .call _ function args keywords => do
    keywordNames keywords
    v.expr function
    callArgs v args keywords
  | .formatted _ value _ spec => do
    v.expr value
    optional v spec
  | .joined _ values => exprs v values
  | .constant .. => pure ()
  | .attr _ value name usage => do
    v.expr value
    if usage = .store then storeName name
  | .subscript _ value index _ => exprs v [value, index]
  | .starred _ _ .store => refuse "starred assignment target must be in a list or tuple"
  | .starred .. => refuse "can't use starred expression here"
  | .name _ _ .load => pure ()
  | .name _ id .store => storeName id
  | .name _ id .delete => deleteName id
  | .list _ es usage | .tuple _ es usage => collection v es usage
  | .slice _ lower upper step => [lower, upper, step].forM (optional v)

def expr (e : Expr) : Visit Unit :=
  onLine e.line (exprParts v e)

end HabitLens.Source.Placement
