import HabitLens.Source.Token
import HabitLens.Source.Tree
import HabitLens.Text.Normal

/-!
Parsers over tokens with ordered choice. A parser succeeds, fails so that another choice may be
tried, or raises a fault that ends the whole reading. What a rule found at a position can be
remembered, and a reading that failed is repeated with the rules that know common mistakes.
-/

namespace HabitLens.Source.Grammar

structure CallArgs where
  line : Nat
  args : List Expr
  keywords : List Keyword

inductive Slot where
  | simpleStmt | block | expression | starExpression | disjunction | conjunction | inversion
  | bitOr | bitXor | bitAnd | shift | sum | term | factor | awaitPrimary | primary | strings
  | arguments | starTarget | targetWithStarAtom | targetPrimary | delTarget | closedPattern
  | starPattern | namedComplaint
  deriving DecidableEq

inductive Item where
  | expr (e : Expr)
  | stmt (s : Stmt)
  | block (body : List Stmt)
  | args (a : CallArgs)
  | pattern (p : Pattern)

structure State where
  pos : Nat
  seen : Nat
  /-- Whether the rules that recognise mistakes are on. -/
  diagnosing : Bool
  /-- Whether the fault that was raised is one of a field or of a token, and not of these rules. -/
  foreign : Bool := false
  /-- By position, what rules found there: nothing, or an item and where it ended. -/
  memo : Array (List (Slot × Option (Item × Nat)))

def State.start (tokens : Tokens) (seen : Nat) (diagnosing : Bool) : State :=
  { pos := 0, seen, diagnosing, memo := Array.replicate (tokens.items.size + 1) [] }

inductive Outcome (α : Type) where
  | ok (a : α) (s : State)
  | fail (s : State)
  | raise (f : Fault) (s : State)

structure Env where
  tokens : Tokens
  inField : Bool
  /-- Whether places are told by columns, counted from one, and not by lines. -/
  byColumn : Bool := false

/-- A message as it is given, which tells where the text stands. -/
def Env.tell (env : Env) (message : String) : String :=
  if env.inField then "f-string: " ++ message else message

def Parser (α : Type) : Type :=
  Env → State → Outcome α

namespace Parser

@[inline]
protected def pure (a : α) : Parser α :=
  fun _ s => .ok a s

@[inline]
protected def bind (p : Parser α) (f : α → Parser β) : Parser β :=
  fun env s =>
    match p env s with
    | .ok a s => f a env s
    | .fail s => .fail s
    | .raise e s => .raise e s

instance : Monad Parser where
  pure := Parser.pure
  bind := Parser.bind

def fail : Parser α :=
  fun _ s => .fail s

/-- Tries the second parser from the same position if the first one fails. -/
@[inline]
protected def orElse (p : Parser α) (q : Unit → Parser α) : Parser α :=
  fun env s =>
    let pos := s.pos
    match p env s with
    | .fail s => q () env { s with pos }
    | r => r

instance : OrElse (Parser α) where
  orElse := Parser.orElse

def firstOf : List (Parser α) → Parser α
  | [] => fail
  | p :: ps => p <|> firstOf ps

/-- Once `head` has succeeded, `rest` is no longer a choice, even if `body` fails. -/
def commit (head : Parser α) (body : α → Parser β) (rest : Parser β) : Parser β :=
  fun env s =>
    let pos := s.pos
    match head env s with
    | .ok a s => body a env s
    | .fail s => rest env { s with pos }
    | .raise e s => .raise e s

def opt (p : Parser α) : Parser (Option α) :=
  (some <$> p) <|> Parser.pure none

/-- Succeeds without moving where `p` succeeds. -/
def ahead (p : Parser α) : Parser Unit :=
  fun env s =>
    let pos := s.pos
    match p env s with
    | .ok _ s => .ok () { s with pos }
    | .fail s => .fail { s with pos }
    | .raise e s => .raise e s

/-- Succeeds without moving where `p` fails. -/
def notAhead (p : Parser α) : Parser Unit :=
  fun env s =>
    let pos := s.pos
    match p env s with
    | .ok _ s => .fail { s with pos }
    | .fail s => .ok () { s with pos }
    | .raise e s => .raise e s

/-- Applies `step` again and again to what it yields, until it fails. -/
def extend (step : α → Parser α) (a : α) : Parser α :=
  fun env s => go step a (env.tokens.items.size + 1 - s.pos) env s
where
  go (step : α → Parser α) (a : α) : Nat → Parser α
    | 0 => Parser.pure a
    | n + 1 => fun env s =>
      let pos := s.pos
      match step a env s with
      | .ok b s => go step b n env s
      | .fail s => .ok a { s with pos }
      | .raise e s => .raise e s

def many (p : Parser α) : Parser (List α) := do
  let found ← extend (fun found => (· :: found) <$> p) []
  return found.reverse

def many1 (p : Parser α) : Parser (List α) := do
  let a ← p
  return a :: (← many p)

def raiseOn (line : Nat) (message : String) : Parser α :=
  fun env s => .raise (.onLine line (env.tell message)) s

/-- Raises a fault on a line as a whole, whose place is in front of the first column. -/
def raiseOnWhole (line : Nat) (message : String) : Parser α :=
  fun env s => raiseOn (if env.byColumn then 0 else line) message env s

def reach : Parser Nat :=
  fun env s => .ok (env.tokens.items.getD (s.seen - 1) default).line s

/-- Raises a fault on the line of the last token looked at. -/
def raise (message : String) : Parser α := do
  raiseOn (← reach) message

def raiseIndentation (message : String) : Parser α := do
  let line ← reach
  fun env s =>
    .raise { kind := .indentation, message := env.tell message, line := some (line : Int) } s

def raiseFault (f : Fault) : Parser α :=
  fun _ s => .raise f { s with foreign := true }

def peek : Parser Token :=
  fun env s =>
    match env.tokens.items[s.pos]? with
    | some t => .ok t { s with seen := max s.seen (s.pos + 1) }
    | none =>
      match env.tokens.halt with
      | some h =>
        let message := if h.malformed then h.fault.message else env.tell h.fault.message
        .raise { h.fault with message }
          { s with seen := env.tokens.items.size + 1, foreign := true }
      | none => .fail s

def hereLine : Parser Nat := do
  return (← peek).line

/-- The number of open brackets behind the last token taken. -/
def levelBehind : Parser Nat :=
  fun env s => .ok (env.tokens.items.getD (s.pos - 1) default).level s

def take (wanted : Lexeme → Option α) : Parser α := do
  match wanted (← peek).lexeme with
  | some a => fun _ s => .ok a { s with pos := s.pos + 1 }
  | none => fail

def lexeme (l : Lexeme) : Parser Nat := do
  let t ← peek
  if t.lexeme = l then (fun _ s => .ok t.line { s with pos := s.pos + 1 }) else fail

/-- A keyword, an operator or a bracket; the result is its line. -/
def sym (text : String) : Parser Nat :=
  lexeme (.symbol text)

/-- A name that acts as a keyword here; the result is its line. -/
def word (text : String) : Parser Nat :=
  lexeme (.name text)

def newline : Parser Nat :=
  lexeme .newline

/-- A symbol without which the text is at fault, whatever else might be tried. -/
def force (text : String) : Parser Nat := do
  let t ← peek
  sym text <|> raiseOn t.line s!"expected '{text}'"

def ident : Parser String :=
  take fun
    | .name text =>
      some (if text.toList.all (fun c => c.toNat < 128) then text else Text.normalize text)
    | _ => none

/-- A name that acts as a keyword somewhere, or is the start of one. -/
def softKeyword : Parser Unit :=
  take fun
    | .name text =>
      if softKeywords.any (fun word => text.toList.isPrefixOf word.toList) then some () else none
    | _ => none

def sepBy1 (sep : String) (p : Parser α) : Parser (List α) := do
  let a ← p
  return a :: (← many do let _ ← sym sep; p)

/-- Runs a rule that recognises a mistake, when such rules are on. -/
def complaint (p : Parser α) : Parser α :=
  fun env s => if s.diagnosing then p env s else .fail s

/-- Runs a parser with the rules that recognise mistakes turned off. -/
def plainly (p : Parser α) : Parser α :=
  fun env s =>
    let diagnosing := s.diagnosing
    match p env { s with diagnosing := false } with
    | .ok a s => .ok a { s with diagnosing }
    | .fail s => .fail { s with diagnosing }
    | .raise e s => .raise e s

def remember (pos : Nat) (slot : Slot) (found : Option (Item × Nat)) (s : State) : State :=
  { s with memo := s.memo.modify pos ((slot, found) :: ·) }

def memoized (slot : Slot) (wrap : α → Item) (unwrap : Item → Option α) (p : Parser α) :
    Parser α := do
  let _ ← peek
  fun env s =>
    let pos := s.pos
    match (s.memo.getD pos []).lookup slot with
    | some (some (item, stop)) =>
      match unwrap item with
      | some a => .ok a { s with pos := stop }
      | none => .fail s
    | some none => .fail s
    | none =>
      match p env s with
      | .ok a s => .ok a (remember pos slot (some (wrap a, s.pos)) s)
      | .fail s => .fail (remember pos slot none s)
      | .raise e s => .raise e s

def memoExpr (slot : Slot) (p : Parser Expr) : Parser Expr :=
  memoized slot .expr (fun | .expr e => some e | _ => none) p

def memoStmt (slot : Slot) (p : Parser Stmt) : Parser Stmt :=
  memoized slot .stmt (fun | .stmt s => some s | _ => none) p

def memoBlock (slot : Slot) (p : Parser (List Stmt)) : Parser (List Stmt) :=
  memoized slot .block (fun | .block b => some b | _ => none) p

def memoArgs (slot : Slot) (p : Parser CallArgs) : Parser CallArgs :=
  memoized slot .args (fun | .args a => some a | _ => none) p

def memoPattern (slot : Slot) (p : Parser Pattern) : Parser Pattern :=
  memoized slot .pattern (fun | .pattern q => some q | _ => none) p

end Parser

end HabitLens.Source.Grammar
