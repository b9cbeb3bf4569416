import HabitLens.Source.Node

/-!
Trees in which equal statements of a block are one and the same. Two nodes are alike if they differ
at most in their lines.
-/

namespace HabitLens.Source

/-- What a node says by itself, apart from its line and its children. -/
structure Label where
  tag : String
  words : List (Option String) := []
  numbers : List Nat := []
  constant : Option Constant := none
  deriving DecidableEq

def Usage.name : Usage → String
  | load => "load"
  | store => "store"
  | delete => "delete"

def BoolOp.name : BoolOp → String
  | and => "and"
  | or => "or"

def BinaryOp.name : BinaryOp → String
  | add => "+"
  | sub => "-"
  | mul => "*"
  | matMul => "@"
  | div => "/"
  | mod => "%"
  | pow => "**"
  | shiftLeft => "<<"
  | shiftRight => ">>"
  | bitOr => "|"
  | bitXor => "^"
  | bitAnd => "&"
  | floorDiv => "//"

def UnaryOp.name : UnaryOp → String
  | invert => "~"
  | not => "not"
  | plus => "+"
  | minus => "-"

def CompareOp.name : CompareOp → String
  | eq => "=="
  | notEq => "!="
  | lt => "<"
  | ltE => "<="
  | gt => ">"
  | gtE => ">="
  | is => "is"
  | isNot => "is not"
  | .in => "in"
  | notIn => "not in"

def Expr.label : Expr → Label
  | boolOp _ op _ => { tag := "boolOp", words := [some op.name] }
  | named .. => { tag := "named" }
  | binary _ _ op _ => { tag := "binary", words := [some op.name] }
  | unary _ op _ => { tag := "unary", words := [some op.name] }
  | lambda .. => { tag := "lambda" }
  | ifElse .. => { tag := "ifElse" }
  | dict _ keys _ => { tag := "dict", numbers := keys.map fun k => if k.isSome then 1 else 0 }
  | set .. => { tag := "set" }
  | listComp .. => { tag := "listComp" }
  | setComp .. => { tag := "setComp" }
  | dictComp .. => { tag := "dictComp" }
  | generator .. => { tag := "generator" }
  | await .. => { tag := "await" }
  | yield .. => { tag := "yield" }
  | yieldFrom .. => { tag := "yieldFrom" }
  | compare _ _ ops _ => { tag := "compare", words := ops.map fun op => some op.name }
  | call _ _ args _ => { tag := "call", numbers := [args.length] }
  | formatted _ _ conversion spec =>
    { tag := "formatted", words := [conversion.map String.singleton],
      numbers := [spec.toList.length] }
  | joined .. => { tag := "joined" }
  | constant _ c => { tag := "constant", constant := some c }
  | attr _ _ n usage => { tag := "attr", words := [some n, some usage.name] }
  | subscript _ _ _ usage => { tag := "subscript", words := [some usage.name] }
  | starred _ _ usage => { tag := "starred", words := [some usage.name] }
  | name _ id usage => { tag := "name", words := [some id, some usage.name] }
  | list _ _ usage => { tag := "list", words := [some usage.name] }
  | tuple _ _ usage => { tag := "tuple", words := [some usage.name] }
  | slice _ lower upper step =>
    { tag := "slice",
      numbers := [lower.toList.length, upper.toList.length, step.toList.length] }

def Pattern.label : Pattern → Label
  | value .. => { tag := "value" }
  | singleton _ c => { tag := "singleton", constant := some c }
  | sequence .. => { tag := "sequence" }
  | mapping _ keys _ rest => { tag := "mapping", words := [rest], numbers := [keys.length] }
  | cls _ _ patterns names _ =>
    { tag := "cls", words := names.map some, numbers := [patterns.length] }
  | star _ name => { tag := "star", words := [name] }
  | capture _ _ name => { tag := "capture", words := [name] }
  | alternatives .. => { tag := "alternatives" }

def Alias.words (a : Alias) : List (Option String) :=
  [some a.name, a.asName]

def Stmt.label : Stmt → Label
  | functionDef _ isAsync name _ body decorators _ =>
    { tag := "functionDef", words := [some name],
      numbers := [isAsync.toNat, body.length, decorators.length] }
  | classDef _ name bases keywords body decorators =>
    { tag := "classDef", words := [some name],
      numbers := [bases.length, keywords.length, body.length, decorators.length] }
  | ret .. => { tag := "ret" }
  | delete .. => { tag := "delete" }
  | assign .. => { tag := "assign" }
  | augAssign _ _ op _ => { tag := "augAssign", words := [some op.name] }
  | annAssign _ _ _ _ simple => { tag := "annAssign", numbers := [simple.toNat] }
  | forLoop _ isAsync _ _ body _ => { tag := "forLoop", numbers := [isAsync.toNat, body.length] }
  | whileLoop _ _ body _ => { tag := "whileLoop", numbers := [body.length] }
  | cond _ _ body _ => { tag := "cond", numbers := [body.length] }
  | withBlock _ isAsync items _ =>
    { tag := "withBlock", numbers := [isAsync.toNat, items.length] }
  | matchOn .. => { tag := "matchOn" }
  | raise _ exc _ => { tag := "raise", numbers := [exc.toList.length] }
  | tryBlock _ isStar body handlers orelse _ =>
    { tag := "tryBlock",
      numbers := [isStar.toNat, body.length, handlers.length, orelse.length] }
  | assert .. => { tag := "assert" }
  | imports _ names => { tag := "imports", words := names.flatMap Alias.words }
  | importFrom _ module names level =>
    { tag := "importFrom", words := module :: names.flatMap Alias.words, numbers := [level] }
  | global _ names => { tag := "global", words := names.map some }
  | nonlocal _ names => { tag := "nonlocal", words := names.map some }
  | expr .. => { tag := "expr" }
  | pass _ => { tag := "pass" }
  | breakLoop _ => { tag := "breakLoop" }
  | continueLoop _ => { tag := "continueLoop" }

namespace Node

def label : Node → Label
  | module _ => { tag := "module" }
  | stmt s => s.label
  | expr e => e.label
  | params (.mk posOnly args vararg kwOnly kwDefaults kwarg _) =>
    { tag := "params",
      numbers :=
        [posOnly.length, args.length, vararg.toList.length, kwOnly.length, kwarg.toList.length] ++
          kwDefaults.map fun d => if d.isSome then 1 else 0 }
  | param p => { tag := "param", words := [some p.name] }
  | keyword k => { tag := "keyword", words := [k.name] }
  | comprehension c => { tag := "comprehension", numbers := [c.isAsync.toNat] }
  | handler h => { tag := "handler", words := [h.name], numbers := [h.type.toList.length] }
  | matchCase c => { tag := "matchCase", numbers := [c.guard.toList.length] }
  | withItem _ => { tag := "withItem" }
  | pattern p => p.label

theorem weight_le_totalWeight {n : Node} {ns : List Node} (h : n ∈ ns) :
    n.weight ≤ totalWeight ns := by
  induction ns with
  | nil => cases h
  | cons m ns ih =>
    rw [totalWeight_cons]
    rcases List.mem_cons.1 h with rfl | h
    . apply Nat.le_add_right
    . exact Nat.le_trans (ih h) (Nat.le_add_left _ _)

theorem weight_lt_of_mem_children {n c : Node} (h : c ∈ n.children) : c.weight < n.weight :=
  Nat.lt_of_le_of_lt (weight_le_totalWeight h) (totalWeight_children_lt n)

/-- Whether two trees differ at most in their lines. -/
def alike (a b : Node) : Bool :=
  a.label = b.label && a.children.length = b.children.length &&
    (a.children.attach.zip b.children).all fun (c, d) => alike c.1 d
termination_by a.weight
decreasing_by exact weight_lt_of_mem_children c.2

end Node

def Stmt.firstAlike (earlier : List Stmt) (s : Stmt) : Stmt :=
  (earlier.find? fun e => (Node.stmt e).alike (.stmt s)).getD s

/-- Replaces every statement of a block by the first one that is like it. -/
def shareBlock (body : List Stmt) : List Stmt :=
  body.foldl (fun earlier s => earlier ++ [s.firstAlike earlier]) []

mutual

def Stmt.share : Stmt → Stmt
  | .functionDef l isAsync n p body d r =>
    let body := shareAll body
    .functionDef l isAsync n p (if isAsync then body else shareBlock body) d r
  | .classDef l n b k body d => .classDef l n b k (shareAll body) d
  | .forLoop l isAsync t i body orelse =>
    let body := shareAll body
    .forLoop l isAsync t i (if isAsync then body else shareBlock body) (shareAll orelse)
  | .whileLoop l t body orelse => .whileLoop l t (shareBlock (shareAll body)) (shareAll orelse)
  | .cond l t body orelse => .cond l t (shareAll body) (shareAll orelse)
  | .withBlock l a items body => .withBlock l a items (shareAll body)
  | .matchOn l subject cases => .matchOn l subject (shareCases cases)
  | .tryBlock l isStar body handlers orelse finalbody =>
    .tryBlock l isStar (shareAll body) (shareHandlers handlers) (shareAll orelse)
      (shareAll finalbody)
  | s => s

def shareAll : List Stmt → List Stmt
  | [] => []
  | s :: ss => s.share :: shareAll ss

def shareHandlers : List Handler → List Handler
  | [] => []
  | .mk l t n body :: hs => .mk l t n (shareAll body) :: shareHandlers hs

def shareCases : List MatchCase → List MatchCase
  | [] => []
  | .mk p g body :: cs => .mk p g (shareAll body) :: shareCases cs

end

end HabitLens.Source
