import HabitLens.Source.Grammar.Expression

/-!
Patterns of a `match` statement.
-/

namespace HabitLens.Source.Grammar

open Grammar.Parser

def captureName : Parser String := do
  notAhead (word "_")
  let name ← ident
  notAhead (firstOf [sym ".", sym "(", sym "="])
  return name

def dottedPlace : Parser Expr := do
  let line ← hereLine
  let first ← nameAs .load
  let step (e : Expr) : Parser Expr := attrPart line e
  let e ← step first
  extend step e

def nameOrPlace : Parser Expr :=
  dottedPlace <|> nameAs .load

def signedNumber : Parser Expr :=
  number <|> do
    let line ← sym "-"
    return .unary line .minus (← number)

def realNumber : Parser Expr := do
  let e ← number
  match e with
  | .constant line (.imaginary _) => raiseOn line "real number required in complex literal"
  | _ => return e

def imaginaryNumber : Parser Expr := do
  let e ← number
  match e with
  | .constant _ (.imaginary _) => return e
  | _ => raiseOn e.line "imaginary number required in complex literal"

def complexNumber : Parser Expr := do
  let line ← hereLine
  let left ← realNumber <|> do
    let line ← sym "-"
    return .unary line .minus (← realNumber)
  let op ← (do let _ ← sym "+"; return .add) <|> (do let _ ← sym "-"; return .sub)
  return .binary line left op (← imaginaryNumber)

def plainNumber : Parser Expr := do
  let e ← signedNumber
  notAhead (sym "+" <|> sym "-")
  return e

section

variable (r : Rules)

def literalPattern : Parser Pattern :=
  let value (p : Parser Expr) : Parser Pattern := do
    let line ← hereLine
    return .value line (← p)
  let single (text : String) (c : Constant) : Parser Pattern := do
    let line ← sym text
    return .singleton line c
  firstOf [
    value plainNumber, value complexNumber, value (strings r), single "None" .none,
    single "True" (.bool true), single "False" (.bool false)]

def literalExpr : Parser Expr :=
  firstOf [
    plainNumber, complexNumber, strings r, constantSymbol "None" .none,
    constantSymbol "True" (.bool true), constantSymbol "False" (.bool false)]

def wildcard : Parser Pattern := do
  let line ← word "_"
  return .capture line none none

def starPattern : Parser Pattern :=
  memoPattern .starPattern <|
    (do
      let line ← sym "*"
      return .star line (some (← captureName))) <|>
    (do
      let line ← sym "*"
      let _ ← wildcard
      return .star line none)

def maybeStarPattern : Parser Pattern :=
  starPattern <|> r.pattern

def someSequence : Parser (List Pattern) := do
  let ps ← sepBy1 "," (maybeStarPattern r)
  let _ ← opt (sym ",")
  return ps

def openSequence : Parser (List Pattern) := do
  let first ← maybeStarPattern r
  let _ ← sym ","
  let more ← opt (someSequence r)
  return first :: more.getD []

def sequencePattern : Parser Pattern :=
  (do
    let line ← sym "["
    let ps ← opt (someSequence r)
    let _ ← sym "]"
    return .sequence line (ps.getD [])) <|>
  (do
    let line ← sym "("
    let ps ← opt (openSequence r)
    let _ ← sym ")"
    return .sequence line (ps.getD []))

def groupPattern : Parser Pattern := do
  let _ ← sym "("
  let p ← r.pattern
  let _ ← sym ")"
  return p

def keyPattern : Parser (Expr × Pattern) := do
  let key ← literalExpr r <|> dottedPlace
  let _ ← sym ":"
  return (key, ← r.pattern)

def restPattern : Parser String := do
  let _ ← sym "**"
  captureName

def mappingPattern : Parser Pattern := do
  let line ← hereLine
  let build (items : List (Expr × Pattern)) (rest : Option String) : Pattern :=
    .mapping line (items.map (·.1)) (items.map (·.2)) rest
  let closing : Parser Unit := do
    let _ ← opt (sym ",")
    let _ ← sym "\x7d"
    return ()
  firstOf [
    do
      let _ ← sym "\x7b"
      let _ ← sym "\x7d"
      return build [] none,
    do
      let _ ← sym "\x7b"
      let rest ← restPattern
      closing
      return build [] (some rest),
    do
      let _ ← sym "\x7b"
      let items ← sepBy1 "," (keyPattern r)
      let _ ← sym ","
      let rest ← restPattern
      closing
      return build items (some rest),
    do
      let _ ← sym "\x7b"
      let items ← sepBy1 "," (keyPattern r)
      closing
      return build items none]

def positionalPatterns : Parser (List Pattern) :=
  sepBy1 "," r.pattern

def keywordPatterns : Parser (List (String × Pattern)) :=
  sepBy1 "," do
    let name ← ident
    let _ ← sym "="
    return (name, ← r.pattern)

def classPatternComplaint {α : Type} : Parser α := do
  let _ ← nameOrPlace
  let _ ← sym "("
  let _ ← opt do
    let _ ← positionalPatterns r
    sym ","
  let _ ← keywordPatterns r
  let _ ← sym ","
  let found ← positionalPatterns r
  raiseOn ((found.head?.map Pattern.line).getD 0) "positional patterns follow keyword patterns"

def classPattern : Parser Pattern := do
  let line ← hereLine
  let inBrackets (inner : Parser (List Pattern × List (String × Pattern))) : Parser Pattern := do
    let cls ← nameOrPlace
    let _ ← sym "("
    let (positional, named) ← inner
    let _ ← sym ")"
    return .cls line cls positional (named.map (·.1)) (named.map (·.2))
  firstOf [
    inBrackets (Parser.pure ([], [])),
    inBrackets do
      let ps ← positionalPatterns r
      let _ ← opt (sym ",")
      return (ps, []),
    inBrackets do
      let ks ← keywordPatterns r
      let _ ← opt (sym ",")
      return ([], ks),
    inBrackets do
      let ps ← positionalPatterns r
      let _ ← sym ","
      let ks ← keywordPatterns r
      let _ ← opt (sym ",")
      return (ps, ks),
    complaint (classPatternComplaint r)]

def closedPattern : Parser Pattern :=
  memoPattern .closedPattern <| firstOf [
    literalPattern r,
    do
      let line ← hereLine
      return .capture line none (some (← captureName)),
    wildcard,
    do
      let line ← hereLine
      let e ← dottedPlace
      notAhead (firstOf [sym ".", sym "(", sym "="])
      return .value line e,
    groupPattern r,
    sequencePattern r,
    mappingPattern r,
    classPattern r]

def orPattern : Parser Pattern := do
  let line ← hereLine
  match ← sepBy1 "|" (closedPattern r) with
  | [p] => return p
  | ps => return .alternatives line ps

def asPatternComplaint {α : Type} : Parser α :=
  firstOf [
    do
      let _ ← orPattern r
      let _ ← sym "as"
      let line ← word "_"
      raiseOn line "cannot use '_' as a target",
    do
      let _ ← orPattern r
      let _ ← sym "as"
      notAhead ident
      let e ← r.expression
      raiseOn e.line "invalid pattern target"]

def pattern : Parser Pattern :=
  firstOf [
    do
      let line ← hereLine
      let p ← orPattern r
      let _ ← sym "as"
      return .capture line (some p) (some (← captureName)),
    complaint (asPatternComplaint r),
    orPattern r]

def patterns : Parser Pattern :=
  (do
    let line ← hereLine
    return .sequence line (← openSequence r)) <|>
  pattern r

end

end HabitLens.Source.Grammar
