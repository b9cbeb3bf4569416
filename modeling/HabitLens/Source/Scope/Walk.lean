import HabitLens.Source.Scope.Basic

/-!
The walk over a program that notes how every scope uses its names.
-/

namespace HabitLens.Source.Scope

structure Visitor where
  expr : Expr → Visit Unit
  pattern : Pattern → Visit Unit
  stmts : List Stmt → Visit Unit

section

variable (v : Visitor)

def exprs (es : List Expr) : Visit Unit :=
  es.forM v.expr

def optional (e : Option Expr) : Visit Unit :=
  e.forM v.expr

def annot (body : Visit Unit) : Visit Unit := do
  if (← get).lazyAnnots then inside .annot none body else body

def paramAnnots (ps : List Param) : Visit Unit :=
  ps.forM fun p => optional v p.annot

def annots (ps : Params) (returns : Option Expr) : Visit Unit := do
  annot do
    paramAnnots v ps.posOnly
    paramAnnots v ps.args
    paramAnnots v ps.vararg.toList
    paramAnnots v ps.kwarg.toList
    paramAnnots v ps.kwOnly
  if let some e := returns then annot (v.expr e)

def params (ps : Params) : Visit Unit :=
  (ps.posOnly ++ ps.args ++ ps.kwOnly ++ ps.vararg.toList ++ ps.kwarg.toList).forM fun p =>
    note p.name { isParam := true } p.line

def defaults (ps : Params) : Visit Unit := do
  exprs v ps.defaults
  ps.kwDefaults.forM (optional v)

/-- Finds the scope that a name belongs to which a comprehension assigns. -/
def extendOutward (name : String) (line : Nat) : Visit Unit := do
  let s ← get
  let mangled := mangle s.owner name
  let rec go (index : Nat) : List Scope → Visit Unit
    | [] => pure ()
    | scope :: outer => do
      if scope.comprehension.isSome then
        let use := scope.use mangled
        if use.isLoopName && use.isLocal then
          refuse line <|
            s!"assignment expression cannot rebind comprehension iteration variable '{name}'"
        go (index + 1) outer
      else
        match scope.kind with
        | .function =>
          let isGlobal := (scope.use mangled).isGlobal
          note name { isGlobal, isNonlocal := !isGlobal } line
          noteDirective name line
          noteAt index name { isLocal := true } line
        | .module =>
          note name { isGlobal := true } line
          noteDirective name line
          noteAt index name { isGlobal := true } line
        | .cls =>
          refuse line
            "assignment expression within a comprehension cannot be used in a class body"
        | .annot => go (index + 1) outer
  go 0 s.stack

def notInAnnot (what : String) (line : Nat) : Visit Unit := do
  if (← current).kind = .annot then
    refuse line s!"'{what}' can not be used within an annotation"

def named (line : Nat) (target value : Expr) : Visit Unit := do
  notInAnnot "named expression" line
  let scope ← current
  if 0 < scope.iterableDepth then
    refuse line "assignment expression cannot be used in a comprehension iterable expression"
  if scope.comprehension.isSome then
    if let .name l id _ := target then extendOutward id l
  v.expr value
  v.expr target

def iterable (e : Expr) : Visit Unit := do
  modifyCurrent fun s => { s with iterableDepth := s.iterableDepth + 1 }
  v.expr e
  modifyCurrent fun s => { s with iterableDepth := s.iterableDepth - 1 }

def target (e : Expr) : Visit Unit := do
  modifyCurrent fun s => { s with inTarget := true }
  v.expr e
  modifyCurrent fun s => { s with inTarget := false }

def clauses (kind : ComprehensionKind) (cs : List Comprehension) (parts : List Expr) :
    Visit Unit := do
  match cs with
  | [] => pure ()
  | first :: others =>
    iterable v first.iter
    inside .function (some kind) do
      note ".0" { isParam := true } 0
      target v first.target
      exprs v first.conditions
      others.forM fun c => do
        target v c.target
        iterable v c.iter
        exprs v c.conditions
      exprs v parts

/-- A yield makes no sense inside a comprehension. -/
def yielded (line : Nat) (value : Option Expr) : Visit Unit := do
  notInAnnot "yield expression" line
  optional v value
  if let some kind := (← current).comprehension then
    refuse line s!"'yield' inside {kind.name}"

def readName (line : Nat) (id : String) : Visit Unit := do
  note id { isRead := true } line
  if (← current).kind = .function && id == "super" then
    note "__class__" { isRead := true } line

def expr : Expr → Visit Unit
  | .boolOp _ _ values => exprs v values
  | .named line target value => named v line target value
  | .binary _ left _ right => do
    v.expr left
    v.expr right
  | .unary _ _ operand => v.expr operand
  | .lambda _ ps body => do
    defaults v ps
    inside .function none do
      params ps
      v.expr body
  | .ifElse _ test body orelse => exprs v [test, body, orelse]
  | .dict _ keys values => do
    keys.forM (optional v)
    exprs v values
  | .set _ elements | .list _ elements _ | .tuple _ elements _ => exprs v elements
  | .listComp _ element cs => clauses v .list cs [element]
  | .setComp _ element cs => clauses v .set cs [element]
  | .dictComp _ key value cs => clauses v .dict cs [value, key]
  | .generator _ element cs => clauses v .generator cs [element]
  | .await line value => do
    notInAnnot "await expression" line
    v.expr value
  | .yield line value => yielded v line value
  | .yieldFrom line value => yielded v line (some value)
  | .compare _ left _ others => do
    v.expr left
    exprs v others
  | .call _ function args keywords => do
    v.expr function
    exprs v args
    exprs v (keywords.map Keyword.value)
  | .formatted _ value _ spec => do
    v.expr value
    optional v spec
  | .joined _ values => exprs v values
  | .constant .. => pure ()
  | .attr _ value _ _ => v.expr value
  | .subscript _ value index _ => exprs v [value, index]
  | .starred _ value _ => v.expr value
  | .name line id .load => readName line id
  | .name line id _ => noteLocal id line
  | .slice _ lower upper step => [lower, upper, step].forM (optional v)

def pattern : Pattern → Visit Unit
  | .value _ e => v.expr e
  | .singleton .. => pure ()
  | .sequence _ ps | .alternatives _ ps => ps.forM v.pattern
  | .mapping line keys ps rest => do
    exprs v keys
    ps.forM v.pattern
    rest.forM (noteLocal · line)
  | .cls _ cls ps _ named => do
    v.expr cls
    ps.forM v.pattern
    named.forM v.pattern
  | .star line name => name.forM (noteLocal · line)
  | .capture line inner name => do
    inner.forM v.pattern
    name.forM (noteLocal · line)

def imported (a : Alias) : Visit Unit := do
  let name := a.asName.getD a.name
  if name == "*" then
    if (← current).kind != .module then refuse a.line "import * only allowed at module level"
  else
    note (String.ofList (name.toList.takeWhile (· != '.'))) { isImported := true } a.line

def annAssign (line : Nat) (target type : Expr) (value : Option Expr) (simple : Bool) :
    Visit Unit := do
  match target with
  | .name l id _ =>
    let use ← lookup id
    if (use.isGlobal || use.isNonlocal) && 1 < (← get).stack.length && simple then
      let what := if use.isGlobal then "global" else "nonlocal"
      refuse line s!"annotated name '{id}' can't be {what}"
    if simple then note id { isAnnotated := true, isLocal := true } l
    else if value.isSome then noteLocal id l
  | e => v.expr e
  annot (v.expr type)
  optional v value

def declare (line : Nat) (what : String) (use : NameUse) (names : List String) : Visit Unit :=
  names.forM fun name => do
    let old ← lookup name
    if old.isParam then refuse line s!"name '{name}' is parameter and {what}"
    if old.isRead then refuse line s!"name '{name}' is used prior to {what} declaration"
    if old.isAnnotated then refuse line s!"annotated name '{name}' can't be {what}"
    if old.isLocal then refuse line s!"name '{name}' is assigned to before {what} declaration"
    note name use line
    noteDirective name line

def handler (h : Handler) : Visit Unit := do
  optional v h.type
  h.name.forM (noteLocal · h.line)
  v.stmts h.body

def functionDef (line : Nat) (name : String) (ps : Params) (body : List Stmt)
    (decorators : List Expr) (returns : Option Expr) : Visit Unit := do
  noteLocal name line
  defaults v ps
  annots v ps returns
  exprs v decorators
  inside .function none do
    params ps
    v.stmts body

def classDef (line : Nat) (name : String) (bases : List Expr) (keywords : List Keyword)
    (body : List Stmt) (decorators : List Expr) : Visit Unit := do
  noteLocal name line
  exprs v bases
  exprs v (keywords.map Keyword.value)
  exprs v decorators
  inside .cls none do
    let owner := (← get).owner
    modify fun s => { s with owner := some name }
    v.stmts body
    modify fun s => { s with owner }

def stmt : Stmt → Visit Unit
  | .functionDef line _ name ps body decorators returns =>
    functionDef v line name ps body decorators returns
  | .classDef line name bases keywords body decorators =>
    classDef v line name bases keywords body decorators
  | .ret _ value => optional v value
  | .delete _ targets => exprs v targets
  | .assign _ targets value => exprs v (targets ++ [value])
  | .augAssign _ target _ value => exprs v [target, value]
  | .annAssign line target type value simple => annAssign v line target type value simple
  | .forLoop _ _ target iter body orelse => do
    exprs v [target, iter]
    v.stmts body
    v.stmts orelse
  | .whileLoop _ test body orelse | .cond _ test body orelse => do
    v.expr test
    v.stmts body
    v.stmts orelse
  | .withBlock _ _ items body => do
    items.forM fun item => do
      v.expr item.context
      optional v item.target
    v.stmts body
  | .matchOn _ subject cases => do
    v.expr subject
    cases.forM fun c => do
      v.pattern c.pattern
      optional v c.guard
      v.stmts c.body
  | .raise _ exc cause => [exc, cause].forM (optional v)
  | .tryBlock _ _ body handlers orelse finalbody => do
    v.stmts body
    v.stmts orelse
    handlers.forM (handler v)
    v.stmts finalbody
  | .assert _ test message => do
    v.expr test
    optional v message
  | .imports _ names => names.forM imported
  | .importFrom _ _ names _ => names.forM imported
  | .global line names => declare line "global" { isGlobal := true } names
  | .nonlocal line names => declare line "nonlocal" { isNonlocal := true } names
  | .expr _ value => v.expr value
  | .pass _ | .breakLoop _ | .continueLoop _ => pure ()

end

def Visitor.toDepth : Nat → Visitor
  | 0 => { expr := fun _ => pure (), pattern := fun _ => pure (), stmts := fun _ => pure () }
  | n + 1 =>
    { expr := fun e s => Scope.expr (toDepth n) e s
      pattern := fun p s => Scope.pattern (toDepth n) p s
      stmts := fun body s => body.forM (Scope.stmt (toDepth n)) s }

end HabitLens.Source.Scope
