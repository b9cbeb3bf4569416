import HabitLens.Source.Grammar.Expression

/-!
Statements of one line.
-/

namespace HabitLens.Source.Grammar

open Grammar.Parser

def updateOp : Parser BinaryOp :=
  take fun
    | .symbol "+=" => some .add
    | .symbol "-=" => some .sub
    | .symbol "*=" => some .mul
    | .symbol "@=" => some .matMul
    | .symbol "/=" => some .div
    | .symbol "%=" => some .mod
    | .symbol "&=" => some .bitAnd
    | .symbol "|=" => some .bitOr
    | .symbol "^=" => some .bitXor
    | .symbol "<<=" => some .shiftLeft
    | .symbol ">>=" => some .shiftRight
    | .symbol "**=" => some .pow
    | .symbol "//=" => some .floorDiv
    | _ => none

section

variable (r : Rules)

/-- A list or tuple, in any number of brackets, where a single target is wanted. -/
def manyTargets : Nat → Parser Expr
  | 0 => fail
  | n + 1 =>
    firstOf [
      list r,
      tuple r,
      do
        let _ ← sym "("
        let e ← manyTargets n
        let _ ← sym ")"
        return e]

def assignedTarget : Parser Expr := do
  let e ← starTargets r
  let _ ← sym "="
  return e

def assignmentComplaint {α : Type} : Parser α :=
  let only (what : String) := s!"only single target (not {what}) can be annotated"
  let assigned : Parser Expr := do
    let _ ← many (assignedTarget r)
    let e ← starExpressions r
    let _ ← sym "="
    return e
  firstOf [
    do
      let e ← manyTargets r (maxBrackets + 1)
      let _ ← sym ":"
      let _ ← r.expression
      raiseOn e.line (only e.kindName),
    do
      let e ← starNamedExpression r
      let _ ← sym ","
      let _ ← many (starNamedExpressions r)
      let _ ← sym ":"
      let _ ← r.expression
      raiseOn e.line (only "tuple"),
    do
      let e ← r.expression
      let _ ← sym ":"
      let _ ← r.expression
      raiseOn e.line "illegal target for annotation",
    commit assigned (raiseBadTarget .assigned) <| firstOf [
      do
        let _ ← many (assignedTarget r)
        let e ← yieldExpr r
        let _ ← sym "="
        raiseOn e.line "assignment to yield expression not possible",
      do
        let e ← starExpressions r
        let _ ← updateOp
        let _ ← yieldOrExpressions r
        raiseOn e.line s!"'{e.kindName}' is an illegal expression for augmented assignment"]]

def annotatedValue : Parser (Expr × Option Expr) := do
  let _ ← sym ":"
  let annot ← r.expression
  let value ← opt do let _ ← sym "="; yieldOrExpressions r
  return (annot, value)

def assignment : Parser Stmt := do
  let line ← hereLine
  let updated : Parser (Expr × BinaryOp) := do
    let target ← singleTarget r
    return (target, ← updateOp)
  let update : Expr × BinaryOp → Parser Stmt := fun (target, op) => do
    return .augAssign line target op (← yieldOrExpressions r)
  firstOf [
    do
      let target ← nameAs .store
      let (annot, value) ← annotatedValue r
      return .annAssign line target annot value true,
    do
      let bracketed : Parser Expr := do
        let _ ← sym "("
        let e ← singleTarget r
        let _ ← sym ")"
        return e
      let target ← bracketed <|> placeTarget r .store
      let (annot, value) ← annotatedValue r
      return .annAssign line target annot value false,
    do
      let targets ← many1 (assignedTarget r)
      let value ← yieldOrExpressions r
      notAhead (sym "=")
      return .assign line targets value,
    commit updated update (complaint (assignmentComplaint r))]

def deletion : Parser Stmt :=
  (do
    let line ← sym "del"
    let targets ← delTargets r
    let _ ← ahead (sym ";" <|> newline)
    return .delete line targets) <|>
  complaint do
    let _ ← sym "del"
    raiseBadTarget .deleted (← starExpressions r)

def dottedName : Parser String := do
  let parts ← sepBy1 "." ident
  return ".".intercalate parts

def asName : Parser (Option String) :=
  opt do let _ ← sym "as"; ident

def importStmt : Parser Stmt := do
  let line ← sym "import"
  let names ← sepBy1 "," do
    let line ← hereLine
    let name ← dottedName
    return Alias.mk line name (← asName)
  return .imports line names

def importedNames : Parser (List Alias) :=
  sepBy1 "," do
    let line ← hereLine
    let name ← ident
    return Alias.mk line name (← asName)

def importTargets : Parser (List Alias) :=
  firstOf [
    do
      let _ ← sym "("
      let names ← importedNames
      let _ ← opt (sym ",")
      let _ ← sym ")"
      return names,
    do
      let names ← importedNames
      notAhead (sym ",")
      return names,
    do
      let line ← sym "*"
      return [⟨line, "*", none⟩],
    complaint do
      let _ ← importedNames
      let _ ← sym ","
      let _ ← newline
      raise "trailing comma not allowed without surrounding parentheses"]

def importLevel : Parser Nat :=
  (do let _ ← sym "."; return 1) <|> (do let _ ← sym "..."; return 3)

def importFrom : Parser Stmt :=
  (do
    let line ← sym "from"
    let dots ← many importLevel
    let module ← dottedName
    let _ ← sym "import"
    return .importFrom line (some module) (← importTargets) (dots.foldl (· + ·) 0)) <|>
  (do
    let line ← sym "from"
    let dots ← many1 importLevel
    let _ ← sym "import"
    return .importFrom line none (← importTargets) (dots.foldl (· + ·) 0))

def raiseStmt : Parser Stmt := do
  let line ← sym "raise"
  (do
    let exc ← r.expression
    let cause ← opt do let _ ← sym "from"; r.expression
    return .raise line (some exc) cause) <|>
  Parser.pure (.raise line none none)

def assertion : Parser Stmt := do
  let line ← sym "assert"
  let test ← r.expression
  let message ← opt do let _ ← sym ","; r.expression
  return .assert line test message

def simpleStmt : Parser Stmt :=
  memoStmt .simpleStmt <| assignment r <|> do
    let line ← hereLine
    (do return .expr line (← starExpressions r)) <|> do
      match (← peek).lexeme with
      | .symbol "return" => do
        let _ ← sym "return"
        return .ret line (← opt (starExpressions r))
      | .symbol "import" => importStmt
      | .symbol "from" => importFrom
      | .symbol "raise" => raiseStmt r
      | .symbol "pass" => do
        let _ ← sym "pass"
        return .pass line
      | .symbol "del" => deletion r
      | .symbol "yield" => do return .expr line (← yieldExpr r)
      | .symbol "assert" => assertion r
      | .symbol "break" => do
        let _ ← sym "break"
        return .breakLoop line
      | .symbol "continue" => do
        let _ ← sym "continue"
        return .continueLoop line
      | .symbol "global" => do
        let _ ← sym "global"
        return .global line (← sepBy1 "," ident)
      | .symbol "nonlocal" => do
        let _ ← sym "nonlocal"
        return .nonlocal line (← sepBy1 "," ident)
      | _ => fail

def simpleStmts : Parser (List Stmt) := do
  let first ← simpleStmt r
  (do
    notAhead (sym ";")
    let _ ← newline
    return [first]) <|> do
    let more ← many do let _ ← sym ";"; simpleStmt r
    let _ ← opt (sym ";")
    let _ ← newline
    return first :: more

end

end HabitLens.Source.Grammar
