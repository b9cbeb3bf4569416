import HabitLens.Source.Fault

/-!
Tokens of source text. A token knows its place and how many brackets are open behind it.
-/

namespace HabitLens.Source

inductive Lexeme where
  | name (text : String)
  | symbol (text : String)
  | number (text : String)
  | quoted (text : String)
  | newline
  | indent
  | dedent
  | finish
  deriving DecidableEq, Repr

structure Token where
  lexeme : Lexeme
  line : Nat
  /-- The bytes in front of it on its line. -/
  column : Nat
  level : Nat
  deriving DecidableEq, Repr

instance : Inhabited Token := ⟨.finish, 0, 0, 0⟩

structure Opening where
  bracket : Char
  line : Nat
  deriving DecidableEq, Repr

structure Halt where
  fault : Fault
  line : Nat
  /-- Whether the token itself is malformed; then this fault goes before one of the grammar. -/
  malformed : Bool
  unclosed : Option Opening
  deriving Repr

/-- The tokens of a text, up to its end or to the place where reading halted. -/
structure Tokens where
  items : Array Token
  halt : Option Halt

def columnBehind (column : Nat) : List Char → Nat
  | [] => column
  | c :: cs => columnBehind (if c = '\n' then 0 else column + c.utf8Size) cs

structure FieldText where
  text : List Char
  line : Nat
  column : Nat

def maxBrackets : Nat := 200

def neverClosed (o : Opening) : Fault :=
  .onLine o.line s!"'{o.bracket}' was never closed"

def keywords : List String :=
  ["False", "None", "True", "and", "as", "assert", "async", "await", "break", "class", "continue",
   "def", "del", "elif", "else", "except", "finally", "for", "from", "global", "if", "import", "in",
   "is", "lambda", "nonlocal", "not", "or", "pass", "raise", "return", "try", "while", "with",
   "yield"]

def softKeywords : List String :=
  ["_", "case", "match"]

def longOperators : List (List Char) :=
  ["**=", "//=", ">>=", "<<=",
   "!=", "%=", "&=", "**", "*=", "+=", "-=", "->", "//", "/=", ":=", "<<", "<=", "<>", "==", ">=",
   ">>", "@=", "^=", "|="].map String.toList

end HabitLens.Source
