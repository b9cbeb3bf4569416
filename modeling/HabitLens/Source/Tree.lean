import HabitLens.Number.Binary64

/-!
The tree of a program. Every expression, statement and pattern carries the line of its first token.
-/

namespace HabitLens.Source

inductive Usage where
  | load
  | store
  | delete
  deriving DecidableEq, Repr

inductive BoolOp where
  | and
  | or
  deriving DecidableEq, Repr

inductive BinaryOp where
  | add | sub | mul | matMul | div | mod | pow | shiftLeft | shiftRight
  | bitOr | bitXor | bitAnd | floorDiv
  deriving DecidableEq, Repr

inductive UnaryOp where
  | invert | not | plus | minus
  deriving DecidableEq, Repr

inductive CompareOp where
  | eq | notEq | lt | ltE | gt | gtE | is | isNot | in | notIn
  deriving DecidableEq, Repr

inductive Constant where
  | none
  | bool (b : Bool)
  | ellipsis
  | int (n : Nat)
  | float (x : Binary64)
  | imaginary (x : Binary64)
  /-- `marked` tells whether the first literal of the text had the letter `u`. -/
  | text (codes : List Nat) (marked : Bool)
  | bytes (bs : List Nat)
  deriving DecidableEq, Repr

mutual

inductive Expr where
  | boolOp (line : Nat) (op : BoolOp) (values : List Expr)
  | named (line : Nat) (target value : Expr)
  | binary (line : Nat) (left : Expr) (op : BinaryOp) (right : Expr)
  | unary (line : Nat) (op : UnaryOp) (operand : Expr)
  | lambda (line : Nat) (params : Params) (body : Expr)
  | ifElse (line : Nat) (test body orelse : Expr)
  /-- A missing key stands for an unpacked mapping. -/
  | dict (line : Nat) (keys : List (Option Expr)) (values : List Expr)
  | set (line : Nat) (elements : List Expr)
  | listComp (line : Nat) (element : Expr) (clauses : List Comprehension)
  | setComp (line : Nat) (element : Expr) (clauses : List Comprehension)
  | dictComp (line : Nat) (key value : Expr) (clauses : List Comprehension)
  | generator (line : Nat) (element : Expr) (clauses : List Comprehension)
  | await (line : Nat) (value : Expr)
  | yield (line : Nat) (value : Option Expr)
  | yieldFrom (line : Nat) (value : Expr)
  | compare (line : Nat) (left : Expr) (ops : List CompareOp) (others : List Expr)
  | call (line : Nat) (function : Expr) (args : List Expr) (keywords : List Keyword)
  | formatted (line : Nat) (value : Expr) (conversion : Option Char) (spec : Option Expr)
  | joined (line : Nat) (values : List Expr)
  | constant (line : Nat) (value : Constant)
  | attr (line : Nat) (value : Expr) (name : String) (usage : Usage)
  | subscript (line : Nat) (value index : Expr) (usage : Usage)
  | starred (line : Nat) (value : Expr) (usage : Usage)
  | name (line : Nat) (id : String) (usage : Usage)
  | list (line : Nat) (elements : List Expr) (usage : Usage)
  | tuple (line : Nat) (elements : List Expr) (usage : Usage)
  | slice (line : Nat) (lower upper step : Option Expr)

inductive Comprehension where
  | mk (isAsync : Bool) (target iter : Expr) (conditions : List Expr)

/-- A keyword argument; without a name it is an unpacked mapping. -/
inductive Keyword where
  | mk (line : Nat) (name : Option String) (value : Expr)

inductive Param where
  | mk (line : Nat) (name : String) (annot : Option Expr)

/-- The parameters of a function. `defaults` belong to the last of the positional parameters. -/
inductive Params where
  | mk (posOnly args : List Param) (vararg : Option Param) (kwOnly : List Param)
    (kwDefaults : List (Option Expr)) (kwarg : Option Param) (defaults : List Expr)

end

mutual

inductive Pattern where
  | value (line : Nat) (expr : Expr)
  | singleton (line : Nat) (value : Constant)
  | sequence (line : Nat) (patterns : List Pattern)
  | mapping (line : Nat) (keys : List Expr) (patterns : List Pattern) (rest : Option String)
  | cls (line : Nat) (cls : Expr) (patterns : List Pattern) (names : List String)
    (named : List Pattern)
  | star (line : Nat) (name : Option String)
  | capture (line : Nat) (pattern : Option Pattern) (name : Option String)
  | alternatives (line : Nat) (patterns : List Pattern)

end

structure Alias where
  line : Nat
  name : String
  asName : Option String
  deriving DecidableEq, Repr

structure WithItem where
  context : Expr
  target : Option Expr

mutual

inductive Stmt where
  | functionDef (line : Nat) (isAsync : Bool) (name : String) (params : Params) (body : List Stmt)
    (decorators : List Expr) (returns : Option Expr)
  | classDef (line : Nat) (name : String) (bases : List Expr) (keywords : List Keyword)
    (body : List Stmt) (decorators : List Expr)
  | ret (line : Nat) (value : Option Expr)
  | delete (line : Nat) (targets : List Expr)
  | assign (line : Nat) (targets : List Expr) (value : Expr)
  | augAssign (line : Nat) (target : Expr) (op : BinaryOp) (value : Expr)
  | annAssign (line : Nat) (target annot : Expr) (value : Option Expr) (simple : Bool)
  | forLoop (line : Nat) (isAsync : Bool) (target iter : Expr) (body orelse : List Stmt)
  | whileLoop (line : Nat) (test : Expr) (body orelse : List Stmt)
  | cond (line : Nat) (test : Expr) (body orelse : List Stmt)
  | withBlock (line : Nat) (isAsync : Bool) (items : List WithItem) (body : List Stmt)
  | matchOn (line : Nat) (subject : Expr) (cases : List MatchCase)
  | raise (line : Nat) (exc cause : Option Expr)
  | tryBlock (line : Nat) (isStar : Bool) (body : List Stmt) (handlers : List Handler)
    (orelse finalbody : List Stmt)
  | assert (line : Nat) (test : Expr) (message : Option Expr)
  | imports (line : Nat) (names : List Alias)
  | importFrom (line : Nat) (module : Option String) (names : List Alias) (level : Nat)
  | global (line : Nat) (names : List String)
  | nonlocal (line : Nat) (names : List String)
  | expr (line : Nat) (value : Expr)
  | pass (line : Nat)
  | breakLoop (line : Nat)
  | continueLoop (line : Nat)

inductive Handler where
  | mk (line : Nat) (type : Option Expr) (name : Option String) (body : List Stmt)

inductive MatchCase where
  | mk (pattern : Pattern) (guard : Option Expr) (body : List Stmt)

end

namespace Expr

def line : Expr → Nat
  | boolOp l .. | named l .. | binary l .. | unary l .. | lambda l .. | ifElse l .. | dict l ..
  | set l .. | listComp l .. | setComp l .. | dictComp l .. | generator l .. | await l ..
  | yield l .. | yieldFrom l .. | compare l .. | call l .. | formatted l .. | joined l ..
  | constant l .. | attr l .. | subscript l .. | starred l .. | name l .. | list l ..
  | tuple l .. | slice l .. => l

instance : Inhabited Expr := ⟨.constant 0 .none⟩

end Expr

namespace Comprehension

def isAsync : Comprehension → Bool
  | mk a .. => a

def target : Comprehension → Expr
  | mk _ t .. => t

def iter : Comprehension → Expr
  | mk _ _ i _ => i

def conditions : Comprehension → List Expr
  | mk _ _ _ cs => cs

end Comprehension

namespace Keyword

def line : Keyword → Nat
  | mk l .. => l

def name : Keyword → Option String
  | mk _ n _ => n

def value : Keyword → Expr
  | mk _ _ v => v

end Keyword

namespace Param

def line : Param → Nat
  | mk l .. => l

def name : Param → String
  | mk _ n _ => n

def annot : Param → Option Expr
  | mk _ _ a => a

end Param

namespace Params

def posOnly : Params → List Param
  | mk ps .. => ps

def args : Params → List Param
  | mk _ as .. => as

def vararg : Params → Option Param
  | mk _ _ v .. => v

def kwOnly : Params → List Param
  | mk _ _ _ ks .. => ks

def kwDefaults : Params → List (Option Expr)
  | mk _ _ _ _ ds .. => ds

def kwarg : Params → Option Param
  | mk _ _ _ _ _ k _ => k

def defaults : Params → List Expr
  | mk _ _ _ _ _ _ ds => ds

def empty : Params := .mk [] [] none [] [] none []

end Params

def Pattern.line : Pattern → Nat
  | value l .. | singleton l .. | sequence l .. | mapping l .. | cls l .. | star l ..
  | capture l .. | alternatives l .. => l

namespace Handler

def line : Handler → Nat
  | mk l .. => l

def type : Handler → Option Expr
  | mk _ t .. => t

def name : Handler → Option String
  | mk _ _ n _ => n

def body : Handler → List Stmt
  | mk _ _ _ b => b

end Handler

namespace MatchCase

def pattern : MatchCase → Pattern
  | mk p .. => p

def guard : MatchCase → Option Expr
  | mk _ g _ => g

def body : MatchCase → List Stmt
  | mk _ _ b => b

end MatchCase

namespace Stmt

def line : Stmt → Nat
  | functionDef l .. | classDef l .. | ret l .. | delete l .. | assign l .. | augAssign l ..
  | annAssign l .. | forLoop l .. | whileLoop l .. | cond l .. | withBlock l .. | matchOn l ..
  | raise l .. | tryBlock l .. | assert l .. | imports l .. | importFrom l .. | global l ..
  | nonlocal l .. | expr l .. | pass l | breakLoop l | continueLoop l => l

instance : Inhabited Stmt := ⟨.pass 0⟩

end Stmt

end HabitLens.Source
