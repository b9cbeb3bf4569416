import HabitLens.Source.Token
import HabitLens.Source.Numeral

/-!
Reading tokens from source text. Lines are joined inside brackets and behind a backslash, and the
margin of every other line with content opens or closes blocks.
-/

namespace HabitLens.Source

open Text

def unifyLineEnds : List Char → List Char
  | [] => []
  | '\r' :: '\n' :: cs => '\n' :: unifyLineEnds cs
  | '\r' :: cs => '\n' :: unifyLineEnds cs
  | c :: cs => c :: unifyLineEnds cs

/--
The text that is read: it ends in a line feed. One is added where there is none, and also behind a
final pair of carriage return and line feed.
-/
def prepareText (cs : List Char) : List Char :=
  let text := unifyLineEnds cs
  let paired := match cs.reverse with
    | '\n' :: '\r' :: _ => true
    | _ => false
  if paired || text.getLast? != some '\n' then text ++ ['\n'] else text

structure Lexer where
  rest : List Char
  line : Nat
  /-- The bytes on that line in front of it. -/
  column : Nat := 0
  firstLine : Nat
  /-- How far the first line is moved to the right. -/
  firstColumn : Nat
  lines : Nat
  brackets : List Opening := []
  level : Nat := 0
  /-- The margins of the open blocks, innermost first, each measured in two ways. -/
  margins : List (Nat × Nat) := [(0, 0)]
  depth : Nat := 0
  atLineStart : Bool := true

inductive Step where
  | more (tokens : List Token) (next : Lexer)
  | done (tokens : List Token)
  | halt (h : Halt)

def maxDepth : Nat := 100

namespace Lexer

/-- The line that is being read; at the end of the text it is the last one. -/
def here (s : Lexer) : Nat :=
  if s.rest.isEmpty then s.lines else s.line

/-- A token that begins here. Only tokens that end on the first line are moved with it. -/
def token (s : Lexer) (l : Lexeme) (line : Nat) (last : Nat := line) : Token :=
  ⟨l, line, if last = s.firstLine then s.firstColumn + s.column else s.column, s.level⟩

def past (s : Lexer) (taken rest : List Char) : Lexer :=
  { s with rest, column := columnBehind s.column taken }

def malformed (s : Lexer) (line : Nat) (message : String) : Step :=
  .halt ⟨.onLine line message, line, true, s.brackets.head?⟩

/-- Halts for a reason that lies outside any token. -/
def stuck (s : Lexer) (line : Nat) (message : String) (kind : FaultKind := .grammar) : Step :=
  .halt ⟨{ kind, message, line := some (line : Int) }, line, false, s.brackets.head?⟩

def atEnd (s : Lexer) : Step :=
  match s.brackets.head? with
  | some o => .halt ⟨neverClosed o, s.lines, false, some o⟩
  | none => s.stuck s.lines "unexpected EOF while parsing"

def badContinuation (s : Lexer) (line : Nat) : Step :=
  s.stuck line "unexpected character after line continuation character"

def badTabs (s : Lexer) : Step :=
  s.stuck s.here "inconsistent use of tabs and spaces in indentation" .tabs

structure Margin where
  /-- The width with tabs that reach to the next multiple of eight. -/
  width : Nat
  /-- The width with tabs that count as one. -/
  narrow : Nat
  /-- The width in front of the first backslash that continued the line. -/
  joined : Nat
  rest : List Char
  line : Nat
  column : Nat

inductive MarginResult where
  | ok (m : Margin)
  | badContinuation (line : Nat)
  | ended

def measure (width narrow joined line column : Nat) : List Char → MarginResult
  | ' ' :: cs => measure (width + 1) (narrow + 1) joined line (column + 1) cs
  | '\t' :: cs => measure ((width / 8 + 1) * 8) (narrow + 1) joined line (column + 1) cs
  | '\x0c' :: cs => measure 0 0 joined line (column + 1) cs
  | ['\\', '\n'] => .ended
  | '\\' :: '\n' :: cs =>
    measure width narrow (if joined = 0 then width else joined) (line + 1) 0 cs
  | '\\' :: _ => .badContinuation line
  | cs => .ok ⟨width, narrow, joined, cs, line, column⟩

/-- Closes blocks until one has a margin that is not wider. -/
def closeBlocks (width : Nat) : List (Nat × Nat) → Nat × List (Nat × Nat)
  | [] => (0, [])
  | [m] => (0, [m])
  | m :: ms =>
    if width < m.1 then
      let (n, rest) := closeBlocks width ms
      (n + 1, rest)
    else (0, m :: ms)

def indentation (s : Lexer) (width narrow : Nat) : Step :=
  match s.margins with
  | [] => s.badTabs
  | (w, n) :: outer =>
    if width = w then
      if narrow = n then .more [] s else s.badTabs
    else if w < width then
      if maxDepth ≤ s.depth + 1 then
        s.stuck s.here "too many levels of indentation" .indentation
      else if narrow ≤ n then s.badTabs
      else
        .more [s.token .indent s.here]
          { s with margins := (width, narrow) :: (w, n) :: outer, depth := s.depth + 1 }
    else
      let (count, margins) := closeBlocks width s.margins
      match margins with
      | (w, n) :: _ =>
        if width ≠ w then
          s.stuck s.here "unindent does not match any outer indentation level" .indentation
        else if narrow ≠ n then s.badTabs
        else
          .more (List.replicate count (s.token .dedent s.here))
            { s with margins, depth := s.depth - count }
      | [] => s.badTabs

def skipComment (cs : List Char) : List Char :=
  cs.dropWhile (· != '\n')

/-- The start of a line: a line without content is skipped, any other has its margin taken. -/
def startLine (s : Lexer) : Step :=
  match measure 0 0 0 s.line s.column s.rest with
  | .badContinuation line => s.badContinuation line
  | .ended => s.atEnd
  | .ok m =>
    let s := { s with rest := m.rest, line := m.line, column := m.column }
    let skip (cs : List Char) : Step :=
      .more [] { s with rest := cs.drop 1, line := s.line + 1, column := 0 }
    match s.rest with
    | '\n' :: _ => skip s.rest
    | '#' :: cs => skip (skipComment cs)
    | _ =>
      let s := { s with atLineStart := false }
      if s.level = 0 then
        if m.joined = 0 then s.indentation m.width m.narrow else s.indentation m.joined m.joined
      else .more [] s

/-- The letters in front of a quote, with what follows them; `none` if no quote follows. -/
def quoteLetters (b r u f : Bool) (taken : List Char) : List Char → Option (List Char × List Char)
  | [] => none
  | c :: cs =>
    if c == '\'' || c == '"' then some (taken, c :: cs)
    else if !(b || u || f) && (c == 'b' || c == 'B') then quoteLetters true r u f (c :: taken) cs
    else if !(b || u || r || f) && (c == 'u' || c == 'U') then
      quoteLetters b r true f (c :: taken) cs
    else if !(r || u) && (c == 'r' || c == 'R') then quoteLetters b true u f (c :: taken) cs
    else if !(f || b || u) && (c == 'f' || c == 'F') then quoteLetters b r u true (c :: taken) cs
    else none

/-- A quoted text that was read: its characters, latest first, what follows, and the line there. -/
inductive Quoted where
  | ok (taken rest : List Char) (line : Nat)
  | unterminated (line : Option Nat)

/-- Reads on to `size` closing quotes in a row, of which `run` have been seen. -/
def readQuoted (q : Char) (size : Nat) (run line : Nat) (taken : List Char) : List Char → Quoted
  | [] => .unterminated none
  | '\\' :: c :: cs =>
    readQuoted q size 0 (if c == '\n' then line + 1 else line) (c :: '\\' :: taken) cs
  | c :: cs =>
    if c == q then
      if run + 1 = size then .ok (c :: taken) cs line
      else readQuoted q size (run + 1) line (c :: taken) cs
    else if c == '\n' then
      if size = 1 then .unterminated (some line)
      else readQuoted q size 0 (line + 1) (c :: taken) cs
    else readQuoted q size 0 line (c :: taken) cs

def quoted (s : Lexer) (letters rest : List Char) : Step :=
  let finish (size : Nat) (result : Quoted) : Step :=
    match result with
    | .ok taken rest line =>
      let taken := taken.reverse
      .more [s.token (.quoted (String.ofList taken)) s.line line] { s.past taken rest with line }
    | .unterminated line =>
      let kind := if size = 3 then "triple-quoted string" else "string"
      s.malformed s.line s!"unterminated {kind} literal (detected at line {line.getD s.lines})"
  match rest with
  | '\'' :: '\'' :: '\'' :: cs =>
    finish 3 (readQuoted '\'' 3 0 s.line (['\'', '\'', '\''] ++ letters) cs)
  | '"' :: '"' :: '"' :: cs => finish 3 (readQuoted '"' 3 0 s.line (['"', '"', '"'] ++ letters) cs)
  | q :: cs => finish 1 (readQuoted q 1 0 s.line (q :: letters) cs)
  | [] => s.atEnd

def word (s : Lexer) : Step :=
  let taken := s.rest.takeWhile isWordContinue
  let rest := s.rest.dropWhile isWordContinue
  let text := String.ofList taken
  let bad := if taken.all (fun c => c.toNat < 128) then none else invalidCharacter? taken
  match bad with
  | some c =>
    if isPrintable c then s.malformed s.line s!"invalid character '{c}' (U+{codeText c})"
    else s.malformed s.line s!"invalid non-printable character U+{codeText c}"
  | none =>
    let lexeme := if keywords.contains text then .symbol text else .name text
    .more [s.token lexeme s.line] (s.past taken rest)

def number (s : Lexer) (result : Except String Numeral.Split) : Step :=
  match result with
  | .ok n =>
    let taken := n.taken.reverse
    .more [s.token (.number (String.ofList taken)) s.line] (s.past taken n.rest)
  | .error message => s.malformed s.line message

def matching : Char → Char
  | '(' => ')'
  | '[' => ']'
  | '{' => '}'
  | c => c

def single (s : Lexer) (c : Char) (cs : List Char) : Step :=
  let plain (s : Lexer) : Step :=
    .more [s.token (.symbol (String.singleton c)) s.line] (s.past [c] cs)
  if c == '(' || c == '[' || c == '{' then
    if maxBrackets ≤ s.level then s.malformed s.line "too many nested parentheses"
    else plain { s with brackets := ⟨c, s.line⟩ :: s.brackets, level := s.level + 1 }
  else if c == ')' || c == ']' || c == '}' then
    match s.brackets with
    | [] => s.malformed s.line s!"unmatched '{c}'"
    | o :: outer =>
      if matching o.bracket = c then plain { s with brackets := outer, level := s.level - 1 }
      else
        let place := if o.line = s.line then "" else s!" on line {o.line}"
        s.malformed s.line
          s!"closing parenthesis '{c}' does not match opening parenthesis '{o.bracket}'{place}"
  else if isPrintable c then plain s
  else s.malformed s.line s!"invalid non-printable character U+{codeText c}"

def operator (s : Lexer) (c : Char) (cs : List Char) : Step :=
  match longOperators.find? (fun op => op.isPrefixOf s.rest) with
  | some op =>
    .more [s.token (.symbol (String.ofList op)) s.line] (s.past op (s.rest.drop op.length))
  | none => s.single c cs

/-- One token, or a stretch of text without any. -/
def inLine (s : Lexer) : Step :=
  match s.rest with
  | [] => if s.level = 0 then .done [s.token .finish s.lines] else s.atEnd
  | c :: cs =>
    if c == ' ' || c == '\t' || c == '\x0c' then .more [] (s.past [c] cs)
    else if c == '#' then .more [] { s with rest := skipComment cs }
    else if c == '\n' then
      let next := { s with rest := cs, line := s.line + 1, column := 0, atLineStart := true }
      if s.level = 0 then .more [s.token .newline s.line] next else .more [] next
    else if isWordStart c then
      match quoteLetters false false false false [] s.rest with
      | some (letters, rest) => s.quoted letters rest
      | none => s.word
    else if c == '\'' || c == '"' then s.quoted [] s.rest
    else if isAsciiDigit c then s.number (Numeral.split s.rest)
    else if c == '.' then
      match cs with
      | '.' :: '.' :: ds => .more [s.token (.symbol "...") s.line] (s.past "...".toList ds)
      | d :: _ =>
        if isAsciiDigit d then s.number (Numeral.fraction ⟨['.'], cs⟩)
        else .more [s.token (.symbol ".") s.line] (s.past [c] cs)
      | [] => .more [s.token (.symbol ".") s.line] (s.past [c] cs)
    else if c == '\\' then
      match cs with
      | '\n' :: ds =>
        if ds.isEmpty then s.atEnd
        else .more [] { s with rest := ds, line := s.line + 1, column := 0 }
      | _ => s.badContinuation s.line
    else s.operator c cs

def step (s : Lexer) : Step :=
  if s.atLineStart then s.startLine else s.inLine

/-- Every step takes a character or leaves the start of a line, so `fuel` bounds their number. -/
def run (s : Lexer) (read : Array Token) : Nat → Tokens
  | 0 => ⟨read, none⟩
  | fuel + 1 =>
    match s.step with
    | .more tokens next => next.run (read ++ tokens) fuel
    | .done tokens => ⟨read ++ tokens, none⟩
    | .halt h => ⟨read, some h⟩

end Lexer

def Tokens.scan (text : List Char) (firstLine firstColumn : Nat) : Tokens :=
  let s : Lexer :=
    { rest := text, line := firstLine, firstLine, firstColumn,
      lines := firstLine + text.count '\n' - 1 }
  s.run #[] (2 * text.length + 4)

end HabitLens.Source
