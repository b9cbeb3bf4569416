import HabitLens.Source.Grammar.Rules

/-!
Parameters of functions and of lambda expressions. The two differ in what closes the list, in
whether annotations are allowed, and in a few messages.
-/

namespace HabitLens.Source.Grammar

open Grammar.Parser

structure ParamStyle where
  closing : String
  annotated : Bool
  bracketed : String

namespace ParamStyle

def function : ParamStyle :=
  ⟨")", true, "Function parameters cannot be parenthesized"⟩

def lambda : ParamStyle :=
  ⟨":", false, "Lambda expression parameters cannot be parenthesized"⟩

end ParamStyle

structure ParamEntry where
  param : Param
  default? : Option Expr

structure StarPart where
  vararg : Option Param := none
  kwOnly : List ParamEntry := []
  kwarg : Option Param := none

section

variable (style : ParamStyle) (r : Rules)

/-- A comma, or the end of the list, which is not taken. -/
def paramEnd : Parser Unit :=
  (do let _ ← sym ","; return ()) <|> ahead (sym style.closing)

def param : Parser Param := do
  let line ← hereLine
  let name ← ident
  let annot ←
    if style.annotated then opt do let _ ← sym ":"; r.expression else pure none
  return .mk line name annot

def starParam : Parser Param := do
  let line ← hereLine
  let name ← ident
  let _ ← sym ":"
  let annot ← r.starExpression
  return .mk line name (some annot)

def paramDefault : Parser Expr :=
  (do let _ ← sym "="; r.expression) <|>
  complaint do
    let line ← sym "="
    ahead (sym ")" <|> sym ",")
    raiseOn line "expected default value expression"

def paramNoDefault : Parser Param := do
  let p ← param style r
  paramEnd style
  return p

def paramWithDefault : Parser ParamEntry := do
  let p ← param style r
  let d ← paramDefault r
  paramEnd style
  return ⟨p, some d⟩

def paramMaybeDefault : Parser ParamEntry := do
  let p ← param style r
  let d ← opt (paramDefault r)
  paramEnd style
  return ⟨p, d⟩

def slashNoDefault : Parser (List Param) := do
  let ps ← many1 (paramNoDefault style r)
  let _ ← sym "/"
  paramEnd style
  return ps

def slashWithDefault : Parser (List Param × List ParamEntry) := do
  let ps ← many (paramNoDefault style r)
  let ds ← many1 (paramWithDefault style r)
  let _ ← sym "/"
  paramEnd style
  return (ps, ds)

def kwdsComplaint {α : Type} : Parser α :=
  let follows := "arguments cannot follow var-keyword argument"
  firstOf [
    do
      let _ ← sym "**"
      let _ ← param style r
      let line ← sym "="
      raiseOn line "var-keyword argument cannot have default value",
    do
      let _ ← sym "**"
      let _ ← param style r
      let _ ← sym ","
      let p ← param style r
      raiseOn p.line follows,
    do
      let _ ← sym "**"
      let _ ← param style r
      let _ ← sym ","
      let line ← firstOf [sym "*", sym "**", sym "/"]
      raiseOn line follows]

def kwds : Parser Param :=
  complaint (kwdsComplaint style r) <|> do
    let _ ← sym "**"
    paramNoDefault style r

def bareStar : Parser Nat := do
  let line ← sym "*"
  let _ ← sym style.closing <|> do
    let _ ← sym ","
    sym style.closing <|> sym "**"
  return line

def commaOrParam : Parser Unit :=
  (do let _ ← sym ","; return ()) <|> (do let _ ← paramNoDefault style r; return ())

def paramOrComma : Parser Unit :=
  (do let _ ← paramNoDefault style r; return ()) <|> (do let _ ← sym ","; return ())

def starComplaint {α : Type} : Parser α :=
  let bare := "named arguments must follow bare *"
  firstOf [
    do
      let line ← bareStar style
      if style.annotated then raiseOn line bare else raise bare,
    do
      let _ ← sym "*"
      let _ ← param style r
      let line ← sym "="
      raiseOn line "var-positional argument cannot have default value",
    do
      let _ ← sym "*"
      paramOrComma style r
      let _ ← many (paramMaybeDefault style r)
      let line ← sym "*"
      paramOrComma style r
      raiseOn line "* argument may appear only once"]

def starPart : Parser StarPart :=
  let behind (first : Parser Param) : Parser StarPart := do
    let _ ← sym "*"
    let vararg ← first
    let kwOnly ← many (paramMaybeDefault style r)
    let kwarg ← opt (kwds style r)
    return { vararg := some vararg, kwOnly, kwarg }
  let unpacked : Parser Param := do
    let p ← starParam r
    paramEnd style
    return p
  firstOf [
    complaint (starComplaint style r),
    behind (paramNoDefault style r),
    if style.annotated then behind unpacked else fail,
    do
      let _ ← sym "*"
      let _ ← sym ","
      let kwOnly ← many1 (paramMaybeDefault style r)
      let kwarg ← opt (kwds style r)
      return { kwOnly, kwarg },
    do
      let kwarg ← kwds style r
      return { kwarg := some kwarg }]

def buildParams (posOnly : List Param) (posDefaults : List ParamEntry) (plain : List Param)
    (withDefaults : List ParamEntry) (star : Option StarPart) : Params :=
  let star := star.getD {}
  .mk (posOnly ++ posDefaults.map (·.param)) (plain ++ withDefaults.map (·.param)) star.vararg
    (star.kwOnly.map (·.param)) (star.kwOnly.map (·.default?)) star.kwarg
    ((posDefaults ++ withDefaults).filterMap (·.default?))

def defaultsStarted : Parser Unit :=
  (do let _ ← slashWithDefault style r; return ()) <|>
  (do let _ ← many1 (paramWithDefault style r); return ())

def slashes : Parser Unit :=
  (do let _ ← slashNoDefault style r; return ()) <|>
  (do let _ ← slashWithDefault style r; return ())

def paramsComplaint {α : Type} : Parser α :=
  firstOf [
    do
      let _ ← many (paramNoDefault style r)
      defaultsStarted style r
      let p ← paramNoDefault style r
      raiseOn p.line "non-default argument follows default argument",
    do
      let _ ← many (paramNoDefault style r)
      let line ← sym "("
      if style.annotated then
        let _ ← many1 (paramNoDefault style r)
      else
        let _ ← sepBy1 "," (param style r)
      let _ ← opt (sym ",")
      let _ ← sym ")"
      raiseOn line style.bracketed,
    do
      let line ← sym "/"
      let _ ← sym ","
      raiseOn line "at least one argument must precede /",
    do
      slashes style r
      let _ ← many (paramMaybeDefault style r)
      let line ← sym "/"
      raiseOn line "/ may appear only once",
    do
      let _ ← opt (slashes style r)
      let _ ← many (paramMaybeDefault style r)
      let _ ← sym "*"
      commaOrParam style r
      let _ ← many (paramMaybeDefault style r)
      let line ← sym "/"
      raiseOn line "/ must be ahead of *",
    do
      let _ ← many1 (paramMaybeDefault style r)
      let _ ← sym "/"
      let line ← sym "*"
      raiseOn line "expected comma between / and *"]

def params : Parser Params :=
  firstOf [
    complaint (paramsComplaint style r),
    do
      let posOnly ← slashNoDefault style r
      let plain ← many (paramNoDefault style r)
      let withDefaults ← many (paramWithDefault style r)
      let star ← opt (starPart style r)
      return buildParams posOnly [] plain withDefaults star,
    do
      let (posOnly, posDefaults) ← slashWithDefault style r
      let withDefaults ← many (paramWithDefault style r)
      let star ← opt (starPart style r)
      return buildParams posOnly posDefaults [] withDefaults star,
    do
      let plain ← many1 (paramNoDefault style r)
      let withDefaults ← many (paramWithDefault style r)
      let star ← opt (starPart style r)
      return buildParams [] [] plain withDefaults star,
    do
      let withDefaults ← many1 (paramWithDefault style r)
      let star ← opt (starPart style r)
      return buildParams [] [] [] withDefaults star,
    do
      let star ← starPart style r
      return buildParams [] [] [] [] (some star)]

end

end HabitLens.Source.Grammar
