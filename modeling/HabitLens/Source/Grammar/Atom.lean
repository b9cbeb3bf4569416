import HabitLens.Source.Grammar.Description
import HabitLens.Source.Grammar.Rules
import HabitLens.Source.Literal
import HabitLens.Source.Numeral

/-!
Names, literals, and everything that stands in brackets of its own: groups, tuples, lists, sets,
dictionaries and comprehensions.
-/

namespace HabitLens.Source.Grammar

open Grammar.Parser

/-- Elements of which one alone, without a comma, stands for itself. -/
def orTuple (element : Parser Expr) : Parser Expr := do
  let line ← hereLine
  let first ← element
  let more ← many do let _ ← sym ","; element
  let comma ← opt (sym ",")
  if more.isEmpty && comma.isNone then return first
  return .tuple line (first :: more) .load

section

variable (r : Rules)

def starExpressions : Parser Expr :=
  orTuple r.starExpression

def expressions : Parser Expr :=
  orTuple r.expression

def yieldExpr : Parser Expr := do
  let line ← sym "yield"
  (do
    let _ ← sym "from"
    return .yieldFrom line (← r.expression)) <|>
  (do return .yield line (← opt (starExpressions r)))

def yieldOrExpressions : Parser Expr :=
  yieldExpr r <|> starExpressions r

def starredExpression : Parser Expr := do
  let line ← sym "*"
  return .starred line (← r.expression) .load

def starNamedExpression : Parser Expr :=
  (do
    let line ← sym "*"
    return .starred line (← r.bitOr) .load) <|>
  r.namedExpression

def starNamedExpressions : Parser (List Expr) := do
  let es ← sepBy1 "," (starNamedExpression r)
  let _ ← opt (sym ",")
  return es

def assignmentExpression : Parser Expr := do
  let line ← hereLine
  let id ← ident
  let _ ← sym ":="
  return .named line (.name line id .store) (← r.expression)

/-- An expression that may give a name to its value, but is not followed by another such sign. -/
def assignmentOrExpression : Parser Expr :=
  assignmentExpression r <|> do
    let e ← r.expression
    notAhead (sym ":=")
    return e

def starTargets : Parser Expr := do
  let line ← hereLine
  let first ← r.starTarget
  (do notAhead (sym ","); return first) <|> do
    let more ← many do let _ ← sym ","; r.starTarget
    let _ ← opt (sym ",")
    return .tuple line (first :: more) .store

def raiseBadTarget {α : Type} (kind : Expr.TargetKind) (e : Expr) : Parser α :=
  match e.badTarget? kind with
  | none => fail
  | some bad =>
    let verb := if kind = .deleted then "delete" else "assign to"
    raiseOn bad.line s!"cannot {verb} {bad.kindName}"

def forTargetComplaint {α : Type} : Parser α := do
  let _ ← opt (sym "async")
  let _ ← sym "for"
  raiseBadTarget .looped (← starExpressions r)

def forIfClause : Parser Comprehension :=
  let head : Parser (Bool × Expr) := do
    let isAsync ← opt (sym "async")
    let _ ← sym "for"
    let target ← starTargets r
    let _ ← sym "in"
    return (isAsync.isSome, target)
  let body : Bool × Expr → Parser Comprehension := fun (isAsync, target) => do
    let iter ← r.disjunction
    let conditions ← many do let _ ← sym "if"; r.disjunction
    return .mk isAsync target iter conditions
  commit head body (complaint (forTargetComplaint r))

def forIfClauses : Parser (List Comprehension) :=
  many1 (forIfClause r)

def comprehensionComplaint {α : Type} : Parser α :=
  let forgot := "did you forget parentheses around the comprehension target?"
  firstOf [
    do
      let _ ← firstOf [sym "[", sym "(", sym "\x7b"]
      let e ← starredExpression r
      let _ ← forIfClauses r
      raiseOn e.line "iterable unpacking cannot be used in comprehension",
    do
      let _ ← sym "[" <|> sym "\x7b"
      let e ← starNamedExpression r
      let _ ← sym ","
      let _ ← starNamedExpressions r
      let _ ← forIfClauses r
      raiseOn e.line forgot,
    do
      let _ ← sym "[" <|> sym "\x7b"
      let e ← starNamedExpression r
      let _ ← sym ","
      let _ ← forIfClauses r
      raiseOn e.line forgot]

def tuple : Parser Expr := do
  let line ← sym "("
  let elements ← opt do
    let first ← starNamedExpression r
    let _ ← sym ","
    let more ← opt (starNamedExpressions r)
    return first :: more.getD []
  let _ ← sym ")"
  return .tuple line (elements.getD []) .load

def group : Parser Expr :=
  firstOf [
    do
      let _ ← sym "("
      let e ← yieldExpr r <|> r.namedExpression
      let _ ← sym ")"
      return e,
    complaint do
      let _ ← sym "("
      let e ← starredExpression r
      let _ ← sym ")"
      raiseOn e.line "cannot use starred expression here",
    complaint do
      let _ ← sym "("
      let line ← sym "**"
      let _ ← r.expression
      let _ ← sym ")"
      raiseOn line "cannot use double starred expression here"]

def generator : Parser Expr :=
  (do
    let line ← sym "("
    let e ← assignmentOrExpression r
    let clauses ← forIfClauses r
    let _ ← sym ")"
    return .generator line e clauses) <|>
  complaint (comprehensionComplaint r)

def list : Parser Expr := do
  let line ← sym "["
  let elements ← opt (starNamedExpressions r)
  let _ ← sym "]"
  return .list line (elements.getD []) .load

def listComp : Parser Expr :=
  (do
    let line ← sym "["
    let e ← r.namedExpression
    let clauses ← forIfClauses r
    let _ ← sym "]"
    return .listComp line e clauses) <|>
  complaint (comprehensionComplaint r)

def keyValue : Parser (Expr × Expr) := do
  let key ← r.expression
  let _ ← sym ":"
  return (key, ← r.expression)

def dictEntry : Parser (Option Expr × Expr) :=
  (do
    let _ ← sym "**"
    return (none, ← r.bitOr)) <|>
  (do
    let (key, value) ← keyValue r
    return (some key, value))

def starredValue {α : Type} : Parser α := do
  let _ ← r.expression
  let _ ← sym ":"
  let line ← sym "*"
  let _ ← r.bitOr
  raiseOn line "cannot use a starred expression in a dictionary value"

def missingValue {α : Type} : Parser α := do
  let _ ← r.expression
  let line ← sym ":"
  ahead (sym "\x7d" <|> sym ",")
  raiseOn line "expression expected after dictionary key and ':'"

def entryComplaint {α : Type} : Parser α :=
  firstOf [
    do
      let e ← r.expression
      notAhead (sym ":")
      raiseOn e.line "':' expected after dictionary key",
    starredValue r,
    missingValue r]

def entriesComplaint {α : Type} : Parser α :=
  firstOf [
    do
      let _ ← sepBy1 "," (dictEntry r)
      let _ ← sym ","
      entryComplaint r,
    starredValue r,
    missingValue r]

/-- A dictionary. A malformed entry is at fault also in a reading without complaints. -/
def dict : Parser Expr :=
  (do
    let line ← sym "\x7b"
    let entries ← opt do
      let es ← sepBy1 "," (dictEntry r)
      let _ ← opt (sym ",")
      return es
    let _ ← sym "\x7d"
    let entries := entries.getD []
    return .dict line (entries.map (·.1)) (entries.map (·.2))) <|>
  (do
    let _ ← sym "\x7b"
    entriesComplaint r)

def set : Parser Expr := do
  let line ← sym "\x7b"
  let elements ← starNamedExpressions r
  let _ ← sym "\x7d"
  return .set line elements

def dictComp : Parser Expr :=
  (do
    let line ← sym "\x7b"
    let (key, value) ← keyValue r
    let clauses ← forIfClauses r
    let _ ← sym "\x7d"
    return .dictComp line key value clauses) <|>
  complaint do
    let _ ← sym "\x7b"
    let line ← sym "**"
    let _ ← r.bitOr
    let _ ← forIfClauses r
    let _ ← sym "\x7d"
    raiseOn line "dict unpacking cannot be used in dict comprehension"

def setComp : Parser Expr :=
  (do
    let line ← sym "\x7b"
    let e ← r.namedExpression
    let clauses ← forIfClauses r
    let _ ← sym "\x7d"
    return .setComp line e clauses) <|>
  complaint (comprehensionComplaint r)

def strings : Parser Expr :=
  memoExpr .strings do
    let literals ← many1 do
      let t ← peek
      let text ← take fun
        | .quoted text => some text
        | _ => none
      return .ofToken text t.line t.column
    match Literal.join r.field literals with
    | .ok e => return e
    | .error (.message text) => raise text
    | .error (.onLine line text) => raiseOn line text
    | .error (.fault f) => raiseFault f

end

def number : Parser Expr := do
  let line ← hereLine
  let text ← take fun
    | .number text => some text
    | _ => none
  match Numeral.value text with
  | .ok (.int n) => return .constant line (.int n)
  | .ok (.float x) => return .constant line (.float x)
  | .ok (.imaginary x) => return .constant line (.imaginary x)
  | .error e =>
    raiseOnWhole line <|
      e ++ " - Consider hexadecimal for huge integer literals to avoid decimal conversion limits."

def nameAs (usage : Usage) : Parser Expr := do
  let line ← hereLine
  return .name line (← ident) usage

def constantSymbol (text : String) (c : Constant) : Parser Expr := do
  let line ← sym text
  return .constant line c

def atom (r : Rules) : Parser Expr := do
  match (← peek).lexeme with
  | .name _ => nameAs .load
  | .quoted _ => strings r
  | .number _ => number
  | .symbol "True" => constantSymbol "True" (.bool true)
  | .symbol "False" => constantSymbol "False" (.bool false)
  | .symbol "None" => constantSymbol "None" .none
  | .symbol "..." => constantSymbol "..." .ellipsis
  | .symbol "(" => firstOf [tuple r, group r, generator r]
  | .symbol "[" => list r <|> listComp r
  | .symbol "\x7b" => firstOf [dict r, set r, dictComp r, setComp r]
  | _ => fail

end HabitLens.Source.Grammar
