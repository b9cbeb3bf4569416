import HabitLens.Source.Grammar.Compound
import HabitLens.Source.Lexer

/-!
Parsing a program. A text that does not parse is read a second time with the rules that recognise
mistakes, and from what the two readings found one fault is chosen.
-/

namespace HabitLens.Source

open Grammar

structure Reading (α : Type) where
  outcome : Except (Option Fault) α
  seen : Nat
  foreign : Bool

def Reading.ofOutcome : Outcome α → Reading α
  | .ok a s => ⟨.ok a, s.seen, false⟩
  | .fail s => ⟨.error none, s.seen, false⟩
  | .raise f s => ⟨.error (some f), s.seen, s.foreign⟩

/--
A fault of the grammar gives way to a malformed token further on, and to a bracket that was opened
on an earlier line and never closed.
-/
def Tokens.override (tokens : Tokens) (seen : Nat) (f : Fault) : Fault :=
  match tokens.halt with
  | none => f
  | some h =>
    if tokens.items.size < seen then f
    else if h.malformed then h.fault
    else
      match h.unclosed with
      | some o => if o.line < (tokens.items.getD (seen - 1) default).line then neverClosed o else f
      | none => f

inductive Finding where
  | raised (f : Fault) (seen : Nat) (foreign : Bool)
  | nothing (firstSeen seen : Nat)

/-- Reads the tokens by a rule, and again with complaints if the rule fails. -/
def readTwice (rule : Parser α) (env : Env) : Except Finding α :=
  let first := Reading.ofOutcome (rule env (State.start env.tokens 0 false))
  match first.outcome with
  | .ok a => .ok a
  | .error (some f) => .error (.raised f first.seen first.foreign)
  | .error none =>
    let second := Reading.ofOutcome (rule env (State.start env.tokens first.seen true))
    match second.outcome with
    | .error (some f) => .error (.raised f second.seen second.foreign)
    | _ => .error (.nothing first.seen second.seen)

namespace Finding

def plainFault (env : Env) (firstSeen seen : Nat) : Fault :=
  let last := env.tokens.items.getD (firstSeen - 1) default
  let indentation (message : String) : Fault :=
    { kind := .indentation, message := env.tell message,
      line := some ((env.tokens.items.getD (seen - 1) default).line : Int) }
  match last.lexeme with
  | .indent => indentation "unexpected indent"
  | .dedent => indentation "unexpected unindent"
  | _ => env.tokens.override seen (.onLine last.line (env.tell "invalid syntax"))

def fault (env : Env) : Finding → Fault
  | raised f seen _ => if f.kind = .internal then f else env.tokens.override seen f
  | nothing firstSeen seen => plainFault env firstSeen seen

def place? (env : Env) : Finding → Option Int
  | raised f _ foreign => if foreign then none else f.line
  | nothing firstSeen _ => some (env.tokens.items.getD (firstSeen - 1) default).line

/-- What is told if the place of a fault lies in front of its line. -/
def misplaced (env : Env) : Finding → Fault
  | raised .. => .negativeSize
  | nothing _ seen => env.tokens.override seen .negativeSize

end Finding

def Grammar.Env.columns (env : Env) : Env :=
  { env with
    tokens := { env.tokens with
      items := env.tokens.items.map fun t => { t with line := t.column + 1 } }
    byColumn := true }

/--
The expression of a field, read in brackets so that it may span lines. The columns of its faults are
counted from where the field begins, also on lines behind the first one. Such a column can lie in
front of the line.
-/
def readField (r : Rules) (field : FieldText) : Except Fault Expr :=
  let text := prepareText ('(' :: field.text ++ [')'])
  let env : Env := { tokens := Tokens.scan text field.line field.column, inField := true }
  match readTwice (starExpressions r) env with
  | .ok e => .ok e
  | .error found =>
    let column? := match readTwice (starExpressions r) env.columns with
      | .ok _ => none
      | .error found => found.place? env.columns
    if column?.any (· < (field.column : Int)) then .error (found.misplaced env)
    else .error (found.fault env)

def Grammar.Rules.toDepth : Nat → Rules
  | 0 =>
    { expr := fun _ => Parser.fail
      pattern := Parser.fail
      block := Parser.fail
      field := fun field => .error (.onLine field.line "too deep") }
  | n + 1 =>
    { expr := fun rule env s => exprRule (toDepth n) rule env s
      pattern := fun env s => Grammar.pattern (toDepth n) env s
      block := fun env s => Grammar.block (toDepth n) env s
      field := fun field => readField (toDepth n) field }

/-- No rule refers back to another more often than this before a token is taken. -/
def depthFor (text : List Char) : Nat :=
  64 * (text.length + 8)

def parse (text : String) : Except Fault (List Stmt) :=
  let cs := text.toList
  if cs.contains '\x00' then
    .error { message := "source code string cannot contain null bytes", line := none }
  else
    let prepared := prepareText cs
    let env : Env := { tokens := Tokens.scan prepared 1 0, inField := false }
    (readTwice (program (Rules.toDepth (depthFor prepared))) env).mapError (·.fault env)

end HabitLens.Source
