import HabitLens.Data.Display

/-!
Reading and writing values as JSON. Numbers without a fraction or an exponent are whole and of any
size up to a limit of digits, the words for non-finite numbers are understood, and of two fields
with one name the later value stands in the earlier place.
-/

namespace HabitLens.Json

open Text

inductive ReadError where
  | malformed
  | tooManyDigits (count : Nat)
  deriving DecidableEq, Repr

abbrev Read (α : Type) : Type := Except ReadError (α × List Char)

def isBlank (c : Char) : Bool :=
  c == ' ' || c == '\t' || c == '\n' || c == '\r'

def skipBlanks (cs : List Char) : List Char :=
  cs.dropWhile isBlank

def fourHex (cs : List Char) : Option (Nat × List Char) :=
  let digits := cs.take 4
  if digits.length = 4 && digits.all isHexDigit then
    some (natOf 16 digits, cs.drop 4)
  else none

/-- The code of a `\u` escape, of which the mark has been taken. Two halves in a row are joined. -/
def unicodeEscape (cs : List Char) : Read Nat :=
  match fourHex cs with
  | none => .error .malformed
  | some (code, rest) =>
    if isHighHalf code then
      match rest with
      | '\\' :: 'u' :: more =>
        match fourHex more with
        | some (low, after) =>
          if isLowHalf low then .ok (joinHalves code low, after) else .ok (code, rest)
        | none => .ok (code, rest)
      | _ => .ok (code, rest)
    else .ok (code, rest)

def simpleEscape : Char → Option Char
  | '"' => some '"'
  | '\\' => some '\\'
  | '/' => some '/'
  | 'b' => some '\x08'
  | 'f' => some '\x0c'
  | 'n' => some '\n'
  | 'r' => some '\r'
  | 't' => some '\t'
  | _ => none

/-- The codes of a text whose opening quote has been taken. Every round takes a character. -/
def readText (taken : List Nat) (cs : List Char) : Nat → Read (List Nat)
  | 0 => .error .malformed
  | fuel + 1 =>
    match cs with
    | [] => .error .malformed
    | '"' :: rest => .ok (taken.reverse, rest)
    | '\\' :: 'u' :: rest =>
      match unicodeEscape rest with
      | .ok (code, rest) => readText (code :: taken) rest fuel
      | .error e => .error e
    | '\\' :: c :: rest =>
      match simpleEscape c with
      | some d => readText (d.toNat :: taken) rest fuel
      | none => .error .malformed
    | c :: rest =>
      if c < ' ' || c == '\\' then .error .malformed else readText (c.toNat :: taken) rest fuel

def digitsOf (cs : List Char) : List Char × List Char :=
  (cs.takeWhile isAsciiDigit, cs.dropWhile isAsciiDigit)

/-- The fraction and the exponent of a number. Each is there only if it has digits. -/
def fractionOf (cs : List Char) : List Char × List Char :=
  match cs with
  | '.' :: rest =>
    let (digits, after) := digitsOf rest
    if digits.isEmpty then ([], cs) else (digits, after)
  | _ => ([], cs)

def exponentOf (cs : List Char) : Option Int × List Char :=
  let signed (negative : Bool) (rest : List Char) : Option Int × List Char :=
    let (digits, after) := digitsOf rest
    if digits.isEmpty then (none, cs)
    else
      let n : Int := natOf 10 digits
      (some (if negative then -n else n), after)
  match cs with
  | 'e' :: '-' :: rest | 'E' :: '-' :: rest => signed true rest
  | 'e' :: '+' :: rest | 'E' :: '+' :: rest => signed false rest
  | 'e' :: rest | 'E' :: rest => signed false rest
  | _ => (none, cs)

def readNumber (negative : Bool) (cs : List Char) : Read Value :=
  let (whole, rest) := match cs with
    | '0' :: rest => (['0'], rest)
    | _ => digitsOf cs
  if whole.isEmpty then .error .malformed
  else
    let (fraction, afterFraction) := fractionOf rest
    let (exponent, after) := exponentOf afterFraction
    if fraction.isEmpty && exponent.isNone then
      if digitLimit < whole.length then .error (.tooManyDigits whole.length)
      else
        let n : Int := natOf 10 whole
        .ok (.int (if negative then -n else n), rest)
    else
      let digits := natOf 10 (whole ++ fraction)
      let exponent := exponent.getD 0 - fraction.length
      .ok (.float (Binary64.ofDecimal negative digits exponent), after)

def readWord (word : String) (v : Value) (cs : List Char) : Read Value :=
  if word.toList.isPrefixOf cs then .ok (v, cs.drop word.length) else .error .malformed

mutual

/-- A value, without blanks in front. The fuel bounds how many rounds there can be. -/
def readValue (cs : List Char) : Nat → Read Value
  | 0 => .error .malformed
  | fuel + 1 =>
    match cs with
    | [] => .error .malformed
    | '"' :: rest =>
      match readText [] rest (rest.length + 1) with
      | .ok (codes, rest) => .ok (.ofCodes codes, rest)
      | .error e => .error e
    | '[' :: rest =>
      let rest := skipBlanks rest
      match rest with
      | ']' :: after => .ok (.list [], after)
      | _ => readItems [] rest fuel
    | '{' :: rest =>
      let rest := skipBlanks rest
      match rest with
      | '}' :: after => .ok (.dict [], after)
      | _ => readFields [] rest fuel
    | 'n' :: _ => readWord "null" .null cs
    | 't' :: _ => readWord "true" (.bool true) cs
    | 'f' :: _ => readWord "false" (.bool false) cs
    | 'N' :: _ => readWord "NaN" (.float .nan) cs
    | 'I' :: _ => readWord "Infinity" (.float (.infinite false)) cs
    | '-' :: 'I' :: _ => readWord "-Infinity" (.float (.infinite true)) cs
    | '-' :: rest => readNumber true rest
    | _ => readNumber false cs

def readItems (taken : List Value) (cs : List Char) : Nat → Read Value
  | 0 => .error .malformed
  | fuel + 1 =>
    match readValue cs fuel with
    | .error e => .error e
    | .ok (v, rest) =>
      match skipBlanks rest with
      | ']' :: after => .ok (.list (v :: taken).reverse, after)
      | ',' :: more => readItems (v :: taken) (skipBlanks more) fuel
      | _ => .error .malformed

def readFields (taken : Table Value) (cs : List Char) : Nat → Read Value
  | 0 => .error .malformed
  | fuel + 1 =>
    match cs with
    | '"' :: rest =>
      match readText [] rest (rest.length + 1) with
      | .error e => .error e
      | .ok (codes, rest) =>
        let key := ofCodes codes
        match skipBlanks rest with
        | ':' :: rest =>
          match readValue (skipBlanks rest) fuel with
          | .error e => .error e
          | .ok (v, rest) =>
            let taken := taken.set key v
            match skipBlanks rest with
            | '}' :: after => .ok (.dict taken, after)
            | ',' :: more => readFields taken (skipBlanks more) fuel
            | _ => .error .malformed
        | _ => .error .malformed
    | _ => .error .malformed

end

def read (cs : List Char) : Except ReadError Value :=
  match readValue (skipBlanks cs) (2 * cs.length + 2) with
  | .error e => .error e
  | .ok (v, rest) => if (skipBlanks rest).isEmpty then .ok v else .error .malformed

/-- Which characters a written text may hold as they are. -/
inductive Charset where
  | ascii
  | unicode

def escapeCode (code : Nat) : List Char :=
  '\\' :: 'u' :: hexText 4 code

def writtenChar (charset : Charset) (c : Char) : List Char :=
  match c with
  | '"' => ['\\', '"']
  | '\\' => ['\\', '\\']
  | '\n' => ['\\', 'n']
  | '\r' => ['\\', 'r']
  | '\t' => ['\\', 't']
  | '\x08' => ['\\', 'b']
  | '\x0c' => ['\\', 'f']
  | c =>
    let code := c.toNat
    if code < 0x20 then escapeCode code
    else
      match charset with
      | .unicode => [c]
      | .ascii =>
        if code < 0x7f then [c]
        else if code < 0x10000 then escapeCode code
        else
          let rest := code - 0x10000
          escapeCode (0xD800 + rest / 0x400) ++ escapeCode (0xDC00 + rest % 0x400)

def writeText (charset : Charset) (s : String) : String :=
  String.ofList ('"' :: s.toList.flatMap (writtenChar charset) ++ ['"'])

def writtenCode (code : Nat) : List Char :=
  if isHalf code then escapeCode code else writtenChar .unicode (Char.ofNat code)

/-- Numbers as in displayed text, with the words for non-finite ones that `read` understands. -/
def number : Binary64.Layout :=
  { Display.number with nan := "NaN", infinity := "Infinity" }

mutual

def write : Value → String
  | .null => "null"
  | .bool true => "true"
  | .bool false => "false"
  | .int n => decimal n
  | .float x => number.text x
  | .str s => writeText .unicode s
  | .unpaired codes => String.ofList ('"' :: codes.flatMap writtenCode ++ ['"'])
  | .list items => "[" ++ ",".intercalate (writeItems items) ++ "]"
  | .dict fields => "\x7b" ++ ",".intercalate (writeFields fields) ++ "\x7d"

def writeItems : List Value → List String
  | [] => []
  | v :: vs => write v :: writeItems vs

def writeFields : List (String × Value) → List String
  | [] => []
  | (k, v) :: fs => (writeText .unicode k ++ ":" ++ write v) :: writeFields fs

end

end HabitLens.Json
