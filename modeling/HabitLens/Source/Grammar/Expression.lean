import HabitLens.Source.Grammar.Parameter
import HabitLens.Source.Grammar.Primary

/-!
Expressions with operators, from the tightest binding to the loosest, and the complaints about
expressions that stand next to each other or have a stray equals sign.
-/

namespace HabitLens.Source.Grammar

open Grammar.Parser

section

variable (r : Rules)

def awaitPrimary : Parser Expr :=
  memoExpr .awaitPrimary <|
    (do
      let line ← sym "await"
      return .await line (← primary r)) <|>
    primary r

def power : Parser Expr := do
  let line ← hereLine
  let base ← awaitPrimary r
  (do
    let _ ← sym "**"
    return .binary line base .pow (← r.factor)) <|>
  Parser.pure base

def factor : Parser Expr :=
  let unary (text : String) (op : UnaryOp) : Parser Expr := do
    let line ← sym text
    return .unary line op (← r.factor)
  memoExpr .factor (firstOf [unary "+" .plus, unary "-" .minus, unary "~" .invert, power r])

end

/-- Operators of one strength, which group to the left. -/
def leftBinary (slot : Slot) (ops : List (String × BinaryOp)) (operand : Parser Expr) :
    Parser Expr :=
  memoExpr slot do
    let line ← hereLine
    let step (left : Expr) : Parser Expr :=
      firstOf <| ops.map fun (text, op) => do
        let _ ← sym text
        return .binary line left op (← operand)
    extend step (← operand)

section

variable (r : Rules)

def term : Parser Expr :=
  leftBinary .term
    [("*", .mul), ("/", .div), ("//", .floorDiv), ("%", .mod), ("@", .matMul)] (factor r)

def sum : Parser Expr :=
  leftBinary .sum [("+", .add), ("-", .sub)] (term r)

def shift : Parser Expr :=
  leftBinary .shift [("<<", .shiftLeft), (">>", .shiftRight)] (sum r)

def bitAnd : Parser Expr :=
  leftBinary .bitAnd [("&", .bitAnd)] (shift r)

def bitXor : Parser Expr :=
  leftBinary .bitXor [("^", .bitXor)] (bitAnd r)

def bitOr : Parser Expr :=
  leftBinary .bitOr [("|", .bitOr)] (bitXor r)

def compareOp : Parser CompareOp :=
  let one (text : String) (op : CompareOp) : Parser CompareOp := do
    let _ ← sym text
    return op
  let two (first second : String) (op : CompareOp) : Parser CompareOp := do
    let _ ← sym first
    let _ ← sym second
    return op
  firstOf [
    one "==" .eq, one "!=" .notEq, one "<=" .ltE, one "<" .lt, one ">=" .gtE, one ">" .gt,
    two "not" "in" .notIn, one "in" .in, two "is" "not" .isNot, one "is" .is]

def comparison : Parser Expr := do
  let line ← hereLine
  let left ← bitOr r
  let pairs ← many do
    let op ← compareOp
    return (op, ← bitOr r)
  if pairs.isEmpty then return left
  return .compare line left (pairs.map (·.1)) (pairs.map (·.2))

def inversion : Parser Expr :=
  memoExpr .inversion <|
    (do
      let line ← sym "not"
      return .unary line .not (← r.inversion)) <|>
    comparison r

def logical (text : String) (op : BoolOp) (operand : Parser Expr) : Parser Expr := do
  let line ← hereLine
  let first ← operand
  let more ← many do let _ ← sym text; operand
  if more.isEmpty then return first
  return .boolOp line op (first :: more)

def conjunction : Parser Expr :=
  memoExpr .conjunction (logical "and" .and (inversion r))

def disjunction : Parser Expr :=
  memoExpr .disjunction (logical "or" .or (conjunction r))

def lambda : Parser Expr := do
  let line ← sym "lambda"
  let ps ← opt (params .lambda r)
  let _ ← sym ":"
  return .lambda line (ps.getD .empty) (← r.expression)

def conditional : Parser Expr := do
  let line ← hereLine
  let body ← disjunction r
  let _ ← sym "if"
  let test ← disjunction r
  let _ ← sym "else"
  return .ifElse line test body (← r.expression)

def expressionChoices : Parser Expr :=
  firstOf [conditional r, disjunction r, lambda r]

def adjacent : Parser Expr := do
  notAhead <|
    (do
      let _ ← ident
      take fun
        | .quoted _ => some ()
        | _ => none) <|>
    softKeyword
  let e ← disjunction r
  let _ ← plainly (expressionChoices r)
  return e

def expressionComplaint {α : Type} : Parser α :=
  let forgotComma (e : Expr) : Parser α := do
    if e.isFormerStatement || (← levelBehind) == 0 then fail
    else raiseOn e.line "invalid syntax. Perhaps you forgot a comma?"
  commit (adjacent r) forgotComma do
    let e ← disjunction r
    let _ ← sym "if"
    let _ ← disjunction r
    notAhead (sym "else" <|> sym ":")
    raiseOn e.line "expected 'else' after 'if' expression"

def formerStatementComplaint {α : Type} : Parser α := do
  let e ← nameAs .load
  notAhead (sym "(")
  let _ ← starExpressions r
  match e with
  | .name line id _ =>
    if e.isFormerStatement then
      raiseOn line s!"Missing parentheses in call to '{id}'. Did you mean {id}(...)?"
    else fail
  | _ => fail

def expression : Parser Expr :=
  memoExpr .expression <| firstOf [
    complaint (expressionComplaint r),
    complaint (formerStatementComplaint r),
    expressionChoices r]

def starExpression : Parser Expr :=
  memoExpr .starExpression <|
    (do
      let line ← sym "*"
      return .starred line (← bitOr r) .load) <|>
    expression r

/-- What cannot be meant to be compared with an equals sign. -/
def plainTarget : Parser Unit :=
  let quiet (p : Parser Expr) : Parser Unit := do
    let _ ← p
    return ()
  firstOf [
    quiet (list r), quiet (tuple r), quiet (generator r),
    quiet (constantSymbol "True" (.bool true)), quiet (constantSymbol "None" .none),
    quiet (constantSymbol "False" (.bool false))]

def namedComplaint : Parser Expr :=
  memoExpr .namedComplaint <| firstOf [
    do
      let e ← expression r
      let _ ← sym ":="
      let _ ← expression r
      raiseOn e.line s!"cannot use assignment expressions with {e.kindName}",
    do
      let line ← hereLine
      let _ ← ident
      let _ ← sym "="
      let _ ← bitOr r
      notAhead (sym "=" <|> sym ":=")
      raiseOn line meantEquality,
    do
      notAhead (plainTarget r)
      let e ← bitOr r
      let _ ← sym "="
      let _ ← bitOr r
      notAhead (sym "=" <|> sym ":=")
      raiseOn e.line s!"cannot assign to {e.kindName} here. Maybe you meant '==' instead of '='?"]

def namedExpression : Parser Expr :=
  firstOf [
    assignmentExpression r,
    complaint (namedComplaint r),
    do
      let e ← expression r
      notAhead (sym ":=")
      return e]

def exprRule : ExprRule → Parser Expr
  | .expression => expression r
  | .namedExpression => namedExpression r
  | .starExpression => starExpression r
  | .disjunction => disjunction r
  | .inversion => inversion r
  | .bitOr => bitOr r
  | .factor => factor r
  | .starTarget => starTarget r
  | .targetWithStarAtom => targetWithStarAtom r
  | .singleTarget => singleTarget r
  | .delTarget => delTarget r

end

end HabitLens.Source.Grammar
