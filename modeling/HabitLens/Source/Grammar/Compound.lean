import HabitLens.Source.Grammar.MatchPattern
import HabitLens.Source.Grammar.Simple

/-!
Statements with blocks.
-/

namespace HabitLens.Source.Grammar

open Grammar.Parser

/-- Complains where a header is not followed by a block; `what` it is began on `line`. -/
def missingBlock {α : Type} (what : String) (line : Nat) : Parser α := do
  let _ ← newline
  notAhead (lexeme .indent)
  raiseIndentation s!"expected an indented block after {what} on line {line}"

def missingColon {α : Type} : Parser α := do
  let _ ← newline
  raise "expected ':'"

def headerComplaint {α : Type} (what : String) (header : Parser Nat) : Parser α :=
  firstOf [
    do
      let _ ← header
      missingColon,
    do
      let line ← header
      let _ ← sym ":"
      missingBlock what line]

section

variable (r : Rules)

def statement (compound : Parser Stmt) : Parser (List Stmt) :=
  (do return [← compound]) <|> simpleStmts r

def elseBlock : Parser (List Stmt) :=
  (complaint do
    let line ← sym "else"
    let _ ← sym ":"
    missingBlock "'else' statement" line) <|>
  (do
    let _ ← sym "else"
    let _ ← force ":"
    r.block)

def optElse : Parser (List Stmt) := do
  return (← opt (elseBlock r)).getD []

/-- An `if` or `elif` with what follows it. The fuel bounds the number of branches. -/
def branch (text : String) : Nat → Parser Stmt
  | 0 => fail
  | n + 1 =>
    let header : Parser Nat := do
      let line ← sym text
      let _ ← r.namedExpression
      return line
    complaint (headerComplaint s!"'{text}' statement" header) <|> do
      let line ← sym text
      let test ← r.namedExpression
      let _ ← sym ":"
      let body ← r.block
      let orelse ← (do return [← branch "elif" n]) <|> optElse r
      return .cond line test body orelse

def ifStmt : Parser Stmt :=
  fun env s => branch r "if" (env.tokens.items.size + 1 - s.pos) env s

def whileStmt : Parser Stmt :=
  let header : Parser Nat := do
    let line ← sym "while"
    let _ ← r.namedExpression
    return line
  complaint (headerComplaint "'while' statement" header) <|> do
    let line ← sym "while"
    let test ← r.namedExpression
    let _ ← sym ":"
    let body ← r.block
    return .whileLoop line test body (← optElse r)

def forStmt : Parser Stmt := do
  let line ← hereLine
  let header : Parser Nat := do
    let _ ← opt (sym "async")
    let line ← sym "for"
    let _ ← starTargets r
    let _ ← sym "in"
    let _ ← starExpressions r
    return line
  let head : Parser (Bool × Expr) := do
    let isAsync ← opt (sym "async")
    let _ ← sym "for"
    let target ← starTargets r
    let _ ← sym "in"
    return (isAsync.isSome, target)
  let body : Bool × Expr → Parser Stmt := fun (isAsync, target) => do
    let iter ← starExpressions r
    let _ ← sym ":"
    let body ← r.block
    return .forLoop line isAsync target iter body (← optElse r)
  complaint (headerComplaint "'for' statement" header) <|>
    commit head body (complaint (forTargetComplaint r))

def withItem : Parser WithItem :=
  let follows : Parser Unit := ahead (firstOf [sym ",", sym ")", sym ":"])
  let wrong : Parser Expr := do
    let _ ← r.expression
    let _ ← sym "as"
    let e ← r.expression
    follows
    return e
  firstOf [
    do
      let context ← r.expression
      let _ ← sym "as"
      let target ← r.starTarget
      follows
      return ⟨context, some target⟩,
    complaint do raiseBadTarget .assigned (← wrong),
    do return ⟨← r.expression, none⟩]

/-- The header of a `with` statement up to its colon, with items of any kind. -/
def withHeader (bracketed : Bool) : Parser Nat := do
  let _ ← opt (sym "async")
  let line ← sym "with"
  let item (e : Parser Expr) : Parser Unit := do
    let _ ← e
    let _ ← opt do let _ ← sym "as"; r.starTarget
    return ()
  if bracketed then
    let _ ← sym "("
    let _ ← sepBy1 "," (item (expressions r))
    let _ ← opt (sym ",")
    let _ ← sym ")"
    return line
  else
    let _ ← sepBy1 "," (item r.expression)
    return line

def withStmt : Parser Stmt := do
  let line ← hereLine
  let noBlock (bracketed : Bool) : Parser Stmt := do
    let line ← withHeader r bracketed
    let _ ← sym ":"
    missingBlock "'with' statement" line
  let noColon (bracketed : Bool) : Parser Stmt := do
    let _ ← withHeader r bracketed
    missingColon
  let body (isAsync : Bool) (items : List WithItem) : Parser Stmt := do
    let _ ← sym ":"
    return .withBlock line isAsync items (← r.block)
  let start : Parser Bool := do
    let isAsync ← opt (sym "async")
    let _ ← sym "with"
    return isAsync.isSome
  firstOf [
    complaint (noBlock false <|> noBlock true),
    do
      let isAsync ← start
      let _ ← sym "("
      let items ← sepBy1 "," (withItem r)
      let _ ← opt (sym ",")
      let _ ← sym ")"
      body isAsync items,
    do
      let isAsync ← start
      let items ← sepBy1 "," (withItem r)
      body isAsync items,
    complaint (noColon false <|> noColon true)]

def caughtName : Parser (Option String) :=
  opt do let _ ← sym "as"; ident

def exceptComplaint {α : Type} : Parser α :=
  let caught : Parser Expr := do
    let _ ← sym "except"
    let _ ← opt (sym "*")
    r.expression
  firstOf [
    do
      let e ← caught
      let _ ← sym ","
      let _ ← expressions r
      let _ ← caughtName
      let _ ← sym ":"
      raiseOn e.line "multiple exception types must be parenthesized",
    do
      let _ ← caught
      let _ ← caughtName
      missingColon,
    do
      let _ ← sym "except"
      missingColon,
    do
      let _ ← sym "except"
      let _ ← sym "*"
      let _ ← newline <|> sym ":"
      raise "expected one or more exception types"]

def exceptBlock : Parser Handler :=
  firstOf [
    complaint do
      let line ← sym "except"
      let _ ← r.expression
      let _ ← caughtName
      let _ ← sym ":"
      missingBlock "'except' statement" line,
    complaint do
      let line ← sym "except"
      let _ ← sym ":"
      missingBlock "'except' statement" line,
    do
      let line ← sym "except"
      let type ← r.expression
      let name ← caughtName
      let _ ← sym ":"
      return .mk line (some type) name (← r.block),
    do
      let line ← sym "except"
      let _ ← sym ":"
      return .mk line none none (← r.block),
    complaint (exceptComplaint r)]

def exceptStarBlock : Parser Handler :=
  firstOf [
    complaint do
      let line ← sym "except"
      let _ ← sym "*"
      let _ ← r.expression
      let _ ← caughtName
      let _ ← sym ":"
      missingBlock "'except*' statement" line,
    do
      let line ← sym "except"
      let _ ← sym "*"
      let type ← r.expression
      let name ← caughtName
      let _ ← sym ":"
      return .mk line (some type) name (← r.block),
    complaint (exceptComplaint r)]

def finallyBlock : Parser (List Stmt) :=
  (complaint do
    let line ← sym "finally"
    let _ ← sym ":"
    missingBlock "'finally' statement" line) <|>
  (do
    let _ ← sym "finally"
    let _ ← force ":"
    r.block)

def tryComplaint {α : Type} : Parser α :=
  -- Handlers of one kind, and the head of a handler of the other kind.
  let both (handler : Parser Handler) (head : Parser Unit) : Parser α := do
    let _ ← sym "try"
    let _ ← sym ":"
    let _ ← many r.block
    let _ ← many1 handler
    let line ← sym "except"
    head
    let _ ← sym ":"
    raiseOn line "cannot have both 'except' and 'except*' on the same 'try'"
  let caught : Parser Unit := do
    let _ ← r.expression
    let _ ← opt do let _ ← sym "as"; ident
    return ()
  firstOf [
    do
      let line ← sym "try"
      let _ ← sym ":"
      missingBlock "'try' statement" line,
    do
      let _ ← sym "try"
      let _ ← sym ":"
      let _ ← r.block
      notAhead (sym "except" <|> sym "finally")
      raise "expected 'except' or 'finally' block",
    both (exceptBlock r) do let _ ← sym "*"; caught,
    both (exceptStarBlock r) do let _ ← opt caught; return ()]

def tryStmt : Parser Stmt :=
  let body : Parser (Nat × List Stmt) := do
    let line ← sym "try"
    let _ ← force ":"
    return (line, ← r.block)
  let handled (isStar : Bool) (handler : Parser Handler) : Parser Stmt := do
    let (line, body) ← body
    let handlers ← many1 handler
    let orelse ← optElse r
    let final ← opt (finallyBlock r)
    return .tryBlock line isStar body handlers orelse (final.getD [])
  firstOf [
    complaint (tryComplaint r),
    do
      let (line, body) ← body
      return .tryBlock line false body [] [] (← finallyBlock r),
    handled false (exceptBlock r),
    handled true (exceptStarBlock r)]

def decorators : Parser (List Expr) :=
  many1 do
    let _ ← sym "@"
    let e ← r.namedExpression
    let _ ← newline
    return e

def functionDef (decorators : List Expr) : Parser Stmt :=
  let arrow : Parser (Option Expr) := opt do let _ ← sym "->"; r.expression
  (complaint do
    let _ ← opt (sym "async")
    let line ← sym "def"
    let _ ← ident
    let _ ← sym "("
    let _ ← opt (params .function r)
    let _ ← sym ")"
    let _ ← arrow
    let _ ← sym ":"
    missingBlock "function definition" line) <|>
  (do
    let line ← hereLine
    let isAsync ← opt (sym "async")
    let _ ← sym "def"
    let name ← ident
    let _ ← force "("
    let ps ← opt (params .function r)
    let _ ← sym ")"
    let returns ← arrow
    let _ ← force ":"
    let body ← r.block
    return .functionDef line isAsync.isSome name (ps.getD .empty) body decorators returns)

def classDef (decorators : List Expr) : Parser Stmt :=
  let bases : Parser CallArgs := do
    let found ← opt do
      let _ ← sym "("
      let found ← opt (arguments r)
      let _ ← sym ")"
      return found.getD ⟨0, [], []⟩
    return found.getD ⟨0, [], []⟩
  let header : Parser Nat := do
    let line ← sym "class"
    let _ ← ident
    let _ ← bases
    return line
  complaint (headerComplaint "class definition" header) <|> do
    let line ← sym "class"
    let name ← ident
    let bases ← bases
    let _ ← sym ":"
    let body ← r.block
    return .classDef line name bases.args bases.keywords body decorators

def decorated (definition : List Expr → Parser Stmt) : Parser Stmt := do
  definition (← decorators r)

def subjectExpr : Parser Expr :=
  (do
    let line ← hereLine
    let first ← starNamedExpression r
    let _ ← sym ","
    let more ← opt (starNamedExpressions r)
    return .tuple line (first :: more.getD []) .load) <|>
  r.namedExpression

def guard : Parser Expr := do
  let _ ← sym "if"
  r.namedExpression

def caseBlock : Parser MatchCase :=
  let header : Parser Nat := do
    let line ← word "case"
    let _ ← patterns r
    let _ ← opt (guard r)
    return line
  complaint (headerComplaint "'case' statement" header) <|> do
    let _ ← word "case"
    let pattern ← patterns r
    let guard ← opt (guard r)
    let _ ← sym ":"
    return .mk pattern guard (← r.block)

def matchStmt : Parser Stmt :=
  let header : Parser Nat := do
    let line ← word "match"
    let _ ← subjectExpr r
    return line
  (do
    let line ← word "match"
    let subject ← subjectExpr r
    let _ ← sym ":"
    let _ ← newline
    let _ ← lexeme .indent
    let cases ← many1 (caseBlock r)
    let _ ← lexeme .dedent
    return .matchOn line subject cases) <|>
  complaint (headerComplaint "'match' statement" header)

def compoundStmt : Parser Stmt := do
  match (← peek).lexeme with
  | .symbol "def" => functionDef r []
  | .symbol "@" => decorated r (functionDef r) <|> decorated r (classDef r)
  | .symbol "async" => firstOf [functionDef r [], withStmt r, forStmt r]
  | .symbol "if" => ifStmt r
  | .symbol "class" => classDef r []
  | .symbol "with" => withStmt r
  | .symbol "for" => forStmt r
  | .symbol "try" => tryStmt r
  | .symbol "while" => whileStmt r
  | .name "match" => matchStmt r
  | _ => fail

def statements : Parser (List Stmt) := do
  return (← many1 (statement r (compoundStmt r))).flatten

def block : Parser (List Stmt) :=
  memoBlock .block <| firstOf [
    do
      let _ ← newline
      let _ ← lexeme .indent
      let body ← statements r
      let _ ← lexeme .dedent
      return body,
    simpleStmts r,
    complaint do
      let _ ← newline
      notAhead (lexeme .indent)
      raiseIndentation "expected an indented block"]

def program : Parser (List Stmt) := do
  let body ← opt (statements r)
  let _ ← lexeme .finish
  return body.getD []

end

end HabitLens.Source.Grammar
