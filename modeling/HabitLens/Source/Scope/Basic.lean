import HabitLens.Data.Table
import HabitLens.Source.Fault
import HabitLens.Source.Tree

/-!
Scopes of names, and how a walk over a program notes the uses of names in them.
-/

namespace HabitLens.Source

structure NameUse where
  isGlobal : Bool := false
  isNonlocal : Bool := false
  isLocal : Bool := false
  isParam : Bool := false
  isImported : Bool := false
  isRead : Bool := false
  isAnnotated : Bool := false
  isLoopName : Bool := false

def NameUse.merge (a b : NameUse) : NameUse :=
  { isGlobal := a.isGlobal || b.isGlobal
    isNonlocal := a.isNonlocal || b.isNonlocal
    isLocal := a.isLocal || b.isLocal
    isParam := a.isParam || b.isParam
    isImported := a.isImported || b.isImported
    isRead := a.isRead || b.isRead
    isAnnotated := a.isAnnotated || b.isAnnotated
    isLoopName := a.isLoopName || b.isLoopName }

def NameUse.isBound (u : NameUse) : Bool :=
  u.isLocal || u.isParam || u.isImported

inductive ScopeKind where
  | module
  | cls
  | function
  | annot
  deriving DecidableEq

inductive ComprehensionKind where
  | list
  | set
  | dict
  | generator

def ComprehensionKind.name : ComprehensionKind → String
  | .list => "list comprehension"
  | .set => "set comprehension"
  | .dict => "dict comprehension"
  | .generator => "generator expression"

structure Scope where
  kind : ScopeKind
  comprehension : Option ComprehensionKind := none
  names : Table NameUse := []
  directives : List (String × Nat) := []
  inTarget : Bool := false
  /-- How many iterables of comprehensions the visit is inside of. -/
  iterableDepth : Nat := 0
  children : List Scope := []

namespace Scope

def use (s : Scope) (name : String) : NameUse :=
  (s.names.get? name).getD {}

structure State where
  stack : List Scope
  owner : Option String := none
  /-- Whether annotations are scopes of their own. -/
  lazyAnnots : Bool

abbrev Visit (α : Type) : Type := StateT State (Except Fault) α

def refuse {α : Type} (line : Nat) (message : String) : Visit α :=
  throw (.onLine line message)

/-- A private name of a class carries the name of the class. -/
def mangle (owner : Option String) (name : String) : String :=
  match owner with
  | none => name
  | some cls =>
    let cs := name.toList
    let stem := cls.toList.dropWhile (· == '_')
    if "__".toList.isPrefixOf cs && !("__".toList.isSuffixOf cs) && !cs.contains '.' &&
        !stem.isEmpty then
      "_" ++ String.ofList stem ++ name
    else name

def current : Visit Scope := do
  return (← get).stack.headD { kind := .module }

def modifyAt (index : Nat) (f : Scope → Scope) : Visit Unit :=
  modify fun s => { s with stack := s.stack.modify index f }

def modifyCurrent (f : Scope → Scope) : Visit Unit :=
  modifyAt 0 f

def noteAt (index : Nat) (name : String) (use : NameUse) (line : Nat) : Visit Unit := do
  let s ← get
  let mangled := mangle s.owner name
  let scope := s.stack.getD index { kind := .module }
  let old := scope.use mangled
  if use.isParam && old.isParam then
    refuse line s!"duplicate argument '{name}' in function definition"
  let new := old.merge use
  if scope.inTarget && (new.isGlobal || new.isNonlocal) then
    refuse line s!"comprehension inner loop cannot rebind assignment expression target '{name}'"
  let new := { new with isLoopName := new.isLoopName || scope.inTarget }
  modifyAt index fun sc => { sc with names := sc.names.set mangled new }
  if use.isGlobal && !use.isParam then
    modifyAt (s.stack.length - 1) fun sc =>
      { sc with names := sc.names.set mangled ((sc.use mangled).merge use) }

def note (name : String) (use : NameUse) (line : Nat) : Visit Unit :=
  noteAt 0 name use line

def noteLocal (name : String) (line : Nat) : Visit Unit :=
  note name { isLocal := true } line

def lookup (name : String) : Visit NameUse := do
  return (← current).use (mangle (← get).owner name)

def noteDirective (name : String) (line : Nat) : Visit Unit := do
  let mangled := mangle (← get).owner name
  modifyCurrent fun sc => { sc with directives := sc.directives ++ [(mangled, line)] }

/-- Runs a visit in a new scope, which becomes a child of the one outside. -/
def inside (kind : ScopeKind) (comprehension : Option ComprehensionKind) (body : Visit Unit) :
    Visit Unit := do
  let depth := (← current).iterableDepth
  modify fun s =>
    { s with stack := { kind, comprehension, iterableDepth := depth } :: s.stack }
  body
  modify fun s =>
    match s.stack with
    | inner :: outer :: rest =>
      { s with stack := { outer with children := outer.children ++ [inner] } :: rest }
    | stack => { s with stack }

end Scope

end HabitLens.Source
