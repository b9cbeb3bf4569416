import HabitLens.Source.Placement.Expression
import HabitLens.Source.Placement.MatchPattern

/-!
Statements out of place. Those that leave a block or a loop pass through the blocks around them.
-/

namespace HabitLens.Source.Placement

variable (v : Visitor)

/-- Leaves one block on the way out; `holding` says that a value is kept meanwhile. -/
def unwind (holding : Bool) : Block → Visit Unit
  | .cleanup finalbody => do
    if holding then enter .held
    v.stmts finalbody
    if holding then leave
    modify fun s => { s with line := -1 }
  | .context => modify fun s => { s with line := -1 }
  | _ => pure ()

/--
Leaves blocks, innermost first, down to the nearest loop if one is wanted. The result is the loop
with the blocks around it.
-/
def unwindAll (holding toLoop : Bool) : List Block → Visit (Option (List Block))
  | [] => return none
  | b :: rest => do
    match b with
    | .groupHandling =>
      refuse "'break', 'continue' and 'return' cannot appear in an except* block"
    | .loop => if toLoop then return some (b :: rest)
    | _ => pure ()
    modify fun s => { s with blocks := rest }
    unwind v holding b
    unwindAll holding toLoop rest

def leaveLoop (line : Nat) (complaint : String) : Visit Unit := do
  let blocks := (← get).blocks
  match ← unwindAll v false true blocks with
  | none =>
    goTo line
    refuse complaint
  | some _ => modify fun s => { s with blocks }

def isConstant : Expr → Bool
  | .constant .. => true
  | _ => false

def ret (line : Nat) (value : Option Expr) : Visit Unit := do
  let s ← get
  if !s.unit.isFunction then refuse "'return' outside function"
  if value.isSome && s.unit.waits && s.unit.yields then
    refuse "'return' with value in async generator"
  let holding := value.any (!isConstant ·)
  if holding then optional v value
  goTo line
  let _ ← unwindAll v holding false s.blocks
  modify fun t => { t with blocks := s.blocks }

def handlers : List Handler → Visit Unit
  | [] => pure ()
  | h :: rest => do
    goTo h.line
    if h.type.isNone && !rest.isEmpty then refuse "default 'except:' must be last"
    optional v h.type
    h.name.forM storeName
    within .handler (v.stmts h.body)
    handlers rest

def tryExcept (isStar : Bool) (body : List Stmt) (hs : List Handler) (orelse : List Stmt) :
    Visit Unit := do
  within .tried (v.stmts body)
  if isStar then
    within .groupHandling (handlers v hs)
    v.stmts orelse
  else
    v.stmts orelse
    within .handling (handlers v hs)

def tryBlock (isStar : Bool) (body : List Stmt) (hs : List Handler) (orelse finalbody : List Stmt) :
    Visit Unit := do
  if finalbody.isEmpty then tryExcept v isStar body hs orelse
  else
    within (.cleanup finalbody) do
      if hs.isEmpty then v.stmts body else tryExcept v isStar body hs orelse
    v.stmts finalbody
    within .cleaning (v.stmts finalbody)

def withItems (body : List Stmt) : List WithItem → Visit Unit
  | [] => v.stmts body
  | item :: rest => do
    v.expr item.context
    within .context do
      optional v item.target
      withItems body rest

def needsAsync (what : String) : Visit Unit := do
  if (← get).unit.kind != .asyncFunction then refuse s!"'{what}' outside async function"

def functionDef (isAsync : Bool) (name : String) (ps : Params) (body : List Stmt)
    (decorators : List Expr) (returns : Option Expr) : Visit Unit := do
  paramNames ps
  exprs v decorators
  defaults v ps
  annots v ps returns
  let depth := (← get).depth
  inUnit (functionUnit isAsync depth (body.map .stmt)) (v.stmts body)
  storeName name

def classDef (name : String) (bases : List Expr) (keywords : List Keyword) (body : List Stmt)
    (decorators : List Expr) : Visit Unit := do
  exprs v decorators
  inUnit { kind := .cls } (v.stmts body)
  keywordNames keywords
  callArgs v bases keywords
  storeName name

/-- What an index is made of; a tuple of indices stands for each of them. -/
def indexParts : Expr → List Expr
  | .slice _ lower upper step => lower.toList ++ upper.toList ++ step.toList
  | .tuple _ es _ => es.attach.flatMap fun ⟨e, _⟩ => indexParts e
  | e => [e]

def placeParts : Expr → List Expr
  | .attr _ value _ _ => [value]
  | .subscript _ value index _ => value :: indexParts index
  | _ => []

def annAssign (target type : Expr) (value : Option Expr) (simple : Bool) : Visit Unit := do
  if value.isSome then
    optional v value
    v.expr target
  let evaluated := !(← get).lazyAnnots && !(← get).unit.isFunction
  match target with
  | .name _ id _ =>
    storeName id
    if simple && evaluated then v.expr type
  | .attr _ _ name _ =>
    storeName name
    if value.isNone then exprs v (placeParts target)
  | _ => if value.isNone then exprs v (placeParts target)
  if !simple && evaluated then v.expr type

def augAssign (line : Nat) (target value : Expr) : Visit Unit := do
  goTo target.line
  match target with
  | .attr _ e _ _ => v.expr e
  | .subscript _ e index _ => exprs v [e, index]
  | _ => pure ()
  goTo line
  v.expr value
  goTo target.line
  if let .name _ id _ := target then storeName id

def importAlias (a : Alias) : Visit Unit :=
  match a.asName with
  | some name => storeName name
  | none => storeName (String.ofList (a.name.toList.takeWhile (· != '.')))

def importFrom (line : Nat) (module : Option String) (names : List Alias) : Visit Unit := do
  if (← get).featureLine < line && module == some "__future__" then
    refuse "from __future__ imports must occur at the beginning of the file"
  names.forM fun a => storeName (a.asName.getD a.name)

def loop (head : List Expr) (body orelse : List Stmt) : Visit Unit := do
  within .loop do
    exprs v head
    v.stmts body
  v.stmts orelse

def asyncLoop (target iter : Expr) (body orelse : List Stmt) : Visit Unit := do
  needsAsync "async for"
  v.expr iter
  loop v [target] body orelse

def stmt (s : Stmt) : Visit Unit := do
  goTo s.line
  match s with
  | .functionDef _ isAsync name ps body decorators returns =>
    functionDef v isAsync name ps body decorators returns
  | .classDef _ name bases keywords body decorators =>
    classDef v name bases keywords body decorators
  | .ret line value => ret v line value
  | .delete _ targets => exprs v targets
  | .assign _ targets value => exprs v (value :: targets)
  | .augAssign line target _ value => augAssign v line target value
  | .annAssign _ target type value simple => annAssign v target type value simple
  | .forLoop _ true target iter body orelse => asyncLoop v target iter body orelse
  | .forLoop _ false target iter body orelse => loop v [iter, target] body orelse
  | .whileLoop _ test body orelse => loop v [test] body orelse
  | .cond _ test body orelse =>
    v.expr test
    v.stmts body
    v.stmts orelse
  | .withBlock _ isAsync items body =>
    if isAsync then needsAsync "async with"
    withItems v body items
  | .matchOn _ subject cases =>
    v.expr subject
    matchCases v (cases.length ≤ 1) cases
  | .raise _ exc cause => [exc, cause].forM (optional v)
  | .tryBlock _ isStar body hs orelse finalbody => tryBlock v isStar body hs orelse finalbody
  | .assert _ test message =>
    v.expr test
    optional v message
  | .imports _ names => names.forM importAlias
  | .importFrom line module names _ => importFrom line module names
  | .global .. | .nonlocal .. | .pass _ => pure ()
  | .expr _ value => if isConstant value then pure () else v.expr value
  | .breakLoop line => leaveLoop v line "'break' outside loop"
  | .continueLoop line => leaveLoop v line "'continue' not properly in loop"

end HabitLens.Source.Placement
