import HabitLens.Source.Fault
import HabitLens.Source.Tree

/-!
Looking through a program for statements and expressions in places where they make no sense,
although the grammar allows them there. Faults are found in the order in which the parts of a
program would be put to use, and are reported on the line that is being looked at.
-/

namespace HabitLens.Source.Placement

inductive UnitKind where
  | module
  | cls
  | function
  | asyncFunction
  | comprehension
  deriving DecidableEq

structure CodeUnit where
  kind : UnitKind
  waits : Bool := false
  yields : Bool := false

def CodeUnit.isFunction (u : CodeUnit) : Bool :=
  u.kind != .module && u.kind != .cls

inductive Block where
  | loop
  | tried
  | cleanup (finalbody : List Stmt)
  | cleaning
  | context
  | handling
  | handler
  | groupHandling
  | asyncClause
  | held

structure State where
  unit : CodeUnit
  /-- The line that is being looked at; it is lost behind a clean-up. -/
  line : Int
  blocks : List Block := []
  featureLine : Int
  lazyAnnots : Bool
  depth : Nat

abbrev Visit (α : Type) : Type := StateT State (Except Fault) α

def refuse {α : Type} (message : String) : Visit α := do
  throw { message, line := some (← get).line }

def goTo (line : Nat) : Visit Unit :=
  modify fun s => { s with line }

def onLine {α : Type} (line : Nat) (body : Visit α) : Visit α := do
  let before := (← get).line
  goTo line
  let a ← body
  modify fun s => { s with line := before }
  return a

def maxBlocks : Nat := 20

def enter (b : Block) : Visit Unit := do
  if maxBlocks ≤ (← get).blocks.length then refuse "too many statically nested blocks"
  modify fun s => { s with blocks := b :: s.blocks }

def leave : Visit Unit :=
  modify fun s => { s with blocks := s.blocks.drop 1 }

def within (b : Block) (body : Visit Unit) : Visit Unit := do
  enter b
  body
  leave

def inUnit (unit : CodeUnit) (body : Visit Unit) : Visit Unit := do
  let outer ← get
  set { outer with unit, blocks := [] }
  body
  modify fun s => { s with unit := outer.unit, blocks := outer.blocks, line := outer.line }

def fixedName : String := "__debug__"

def storeName (name : String) : Visit Unit := do
  if name == fixedName then refuse s!"cannot assign to {fixedName}"

def deleteName (name : String) : Visit Unit := do
  if name == fixedName then refuse s!"cannot delete {fixedName}"

structure Visitor where
  expr : Expr → Visit Unit
  stmts : List Stmt → Visit Unit
  /-- Given whether a pattern may match everything, and the names that are bound already. -/
  pattern : Bool → Pattern → List String → Visit (List String)

section

variable (v : Visitor)

def exprs (es : List Expr) : Visit Unit :=
  es.forM v.expr

def optional (e : Option Expr) : Visit Unit :=
  e.forM v.expr

end

end HabitLens.Source.Placement
