import HabitLens.Source.Grammar.Atom

/-!
Calls, subscripts and attributes, and the targets that are made of them.
-/

namespace HabitLens.Source.Grammar

open Grammar.Parser

/-- A keyword argument, or an unpacked argument among keyword arguments. -/
inductive KeywordArg where
  | keyword (k : Keyword)
  | starred (e : Expr)

namespace KeywordArg

def keyword? : KeywordArg → Option Keyword
  | keyword k => some k
  | starred _ => none

def starred? : KeywordArg → Option Expr
  | keyword _ => none
  | starred e => some e

end KeywordArg

section

variable (r : Rules)

def meantEquality : String :=
  "invalid syntax. Maybe you meant '==' or ':=' instead of '='?"

def assignedGenerator {α : Type} : Parser α := do
  let line ← hereLine
  let _ ← ident
  let _ ← sym "="
  let _ ← r.expression
  let _ ← forIfClauses r
  raiseOn line meantEquality

def keywordComplaint {α : Type} : Parser α :=
  let constant (text : String) : Parser α := do
    let line ← sym text
    let _ ← sym "="
    raiseOn line s!"cannot assign to {text}"
  firstOf [
    constant "True",
    constant "False",
    constant "None",
    assignedGenerator r,
    do
      notAhead do let _ ← ident; sym "="
      let e ← r.expression
      let _ ← sym "="
      raiseOn e.line "expression cannot contain assignment, perhaps you meant \"==\"?"]

def namedArg : Parser KeywordArg := do
  let line ← hereLine
  let name ← ident
  let _ ← sym "="
  return .keyword (.mk line (some name) (← r.expression))

def keywordOrStarred : Parser KeywordArg :=
  firstOf [
    complaint (keywordComplaint r),
    namedArg r,
    do return .starred (← starredExpression r)]

def keywordOrDoubleStarred : Parser KeywordArg :=
  firstOf [
    complaint (keywordComplaint r),
    namedArg r,
    do
      let line ← sym "**"
      return .keyword (.mk line none (← r.expression))]

def keywordArgs : Parser (List KeywordArg) :=
  firstOf [
    do
      let plain ← sepBy1 "," (keywordOrStarred r)
      let _ ← sym ","
      let unpacked ← sepBy1 "," (keywordOrDoubleStarred r)
      return plain ++ unpacked,
    sepBy1 "," (keywordOrStarred r),
    sepBy1 "," (keywordOrDoubleStarred r)]

def positionalArg : Parser Expr :=
  starredExpression r <|> do
    let e ← assignmentOrExpression r
    notAhead (sym "=")
    return e

def args : Parser CallArgs := do
  let line ← hereLine
  (do
    let plain ← sepBy1 "," (positionalArg r)
    let more ← opt do let _ ← sym ","; keywordArgs r
    let more := more.getD []
    return ⟨line, plain ++ more.filterMap (·.starred?), more.filterMap (·.keyword?)⟩) <|>
  (do
    let more ← keywordArgs r
    return ⟨line, more.filterMap (·.starred?), more.filterMap (·.keyword?)⟩)

def generatorAlone : String :=
  "Generator expression must be parenthesized"

def trailingGenerator {α : Type} (found : CallArgs) : Parser α :=
  match found.args with
  | _ :: _ :: _ => raiseOn ((found.args.getLast?.map Expr.line).getD found.line) generatorAlone
  | _ => fail

def argumentsComplaint {α : Type} : Parser α :=
  let generatorFirst : Parser Nat := do
    let e ← r.expression
    let _ ← forIfClauses r
    let _ ← sym ","
    let _ ← opt <| (do let _ ← args r; return ()) <|> do
      let _ ← r.expression
      let _ ← forIfClauses r
      return ()
    return e.line
  let generatorLast : Parser CallArgs := do
    let found ← args r
    let _ ← forIfClauses r
    return found
  firstOf [
    do
      let found ← args r
      let _ ← sym ","
      let _ ← sym "*"
      raiseOn found.line "iterable argument unpacking follows keyword argument unpacking",
    do raiseOn (← generatorFirst) generatorAlone,
    assignedGenerator r,
    commit generatorLast trailingGenerator <| firstOf [
      do
        let _ ← args r
        let _ ← sym ","
        let e ← r.expression
        let _ ← forIfClauses r
        raiseOn e.line generatorAlone,
      do
        let found ← args r
        let _ ← sym ","
        let _ ← args r
        let unpacked := found.keywords.any (·.name.isNone)
        raise <|
          "positional argument follows keyword argument" ++ if unpacked then " unpacking" else ""]]

def arguments : Parser CallArgs :=
  memoArgs .arguments <|
    (do
      let found ← args r
      let _ ← opt (sym ",")
      ahead (sym ")")
      return found) <|>
    complaint (argumentsComplaint r)

def slice : Parser Expr :=
  (do
    let line ← hereLine
    let lower ← opt r.expression
    let _ ← sym ":"
    let upper ← opt r.expression
    let step ← opt do let _ ← sym ":"; opt r.expression
    return .slice line lower upper (step.getD none)) <|>
  r.namedExpression

def slices : Parser Expr :=
  (do
    let e ← slice r
    notAhead (sym ",")
    return e) <|>
  (do
    let line ← hereLine
    let es ← sepBy1 "," (slice r <|> starredExpression r)
    let _ ← opt (sym ",")
    return .tuple line es .load)

section

-- `line` is the line where the whole expression starts.
variable (line : Nat) (e : Expr)

def attrPart : Parser Expr := do
  let _ ← sym "."
  return .attr line e (← ident) .load

def generatorPart : Parser Expr := do
  return .call line e [← generator r] []

def callPart : Parser Expr := do
  let _ ← sym "("
  let found ← opt (arguments r)
  let _ ← sym ")"
  let found := found.getD ⟨line, [], []⟩
  return .call line e found.args found.keywords

def subscriptPart : Parser Expr := do
  let _ ← sym "["
  let index ← slices r
  let _ ← sym "]"
  return .subscript line e index .load

end

def primary : Parser Expr :=
  memoExpr .primary do
    let line ← hereLine
    let step (e : Expr) : Parser Expr :=
      firstOf [attrPart line e, generatorPart r line e, callPart r line e, subscriptPart r line e]
    extend step (← atom r)

def targetGoesOn : Parser Unit :=
  ahead (firstOf [sym "(", sym "[", sym "."])

def targetPrimary : Parser Expr :=
  memoExpr .targetPrimary do
    let line ← hereLine
    let goingOn (p : Parser Expr) : Parser Expr := do
      let e ← p
      targetGoesOn
      return e
    let step (e : Expr) : Parser Expr :=
      firstOf [
        goingOn (attrPart line e),
        goingOn (subscriptPart r line e),
        goingOn (generatorPart r line e),
        goingOn (callPart r line e)]
    extend step (← goingOn (atom r))

def placeTarget (usage : Usage) : Parser Expr := do
  let line ← hereLine
  let e ← targetPrimary r
  let target ← attrPart line e <|> subscriptPart r line e
  notAhead targetGoesOn
  return target.withUsage usage

def starAtom : Parser Expr :=
  firstOf [
    nameAs .store,
    do
      let _ ← sym "("
      let e ← r.targetWithStarAtom
      let _ ← sym ")"
      return e.withUsage .store,
    do
      let line ← sym "("
      let es ← opt do
        let first ← r.starTarget
        let _ ← sym ","
        let more ← opt do
          let es ← sepBy1 "," r.starTarget
          let _ ← opt (sym ",")
          return es
        return first :: more.getD []
      let _ ← sym ")"
      return .tuple line (es.getD []) .store,
    do
      let line ← sym "["
      let es ← opt do
        let es ← sepBy1 "," r.starTarget
        let _ ← opt (sym ",")
        return es
      let _ ← sym "]"
      return .list line (es.getD []) .store]

def targetWithStarAtom : Parser Expr :=
  memoExpr .targetWithStarAtom (placeTarget r .store <|> starAtom r)

def starTarget : Parser Expr :=
  memoExpr .starTarget <|
    (do
      let line ← sym "*"
      notAhead (sym "*")
      let e ← r.starTarget
      return .starred line (e.withUsage .store) .store) <|>
    targetWithStarAtom r

def singleTarget : Parser Expr :=
  firstOf [
    placeTarget r .store,
    nameAs .store,
    do
      let _ ← sym "("
      let e ← r.singleTarget
      let _ ← sym ")"
      return e]

def delTargets : Parser (List Expr) := do
  let es ← sepBy1 "," r.delTarget
  let _ ← opt (sym ",")
  return es

def delAtom : Parser Expr :=
  firstOf [
    nameAs .delete,
    do
      let _ ← sym "("
      let e ← r.delTarget
      let _ ← sym ")"
      return e.withUsage .delete,
    do
      let line ← sym "("
      let es ← opt (delTargets r)
      let _ ← sym ")"
      return .tuple line (es.getD []) .delete,
    do
      let line ← sym "["
      let es ← opt (delTargets r)
      let _ ← sym "]"
      return .list line (es.getD []) .delete]

def delTarget : Parser Expr :=
  memoExpr .delTarget (placeTarget r .delete <|> delAtom r)

end

end HabitLens.Source.Grammar
