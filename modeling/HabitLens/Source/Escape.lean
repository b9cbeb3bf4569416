import HabitLens.Text.CharacterName
import HabitLens.Text.Identifier
import HabitLens.Source.Numeral

/-!
Backslash escapes in quoted text and in quoted bytes. Faults name positions in the text written with
codes below 128 only, where every other character is itself an escape of ten places.
-/

namespace HabitLens.Source.Escape

open Text

def longEscape (c : Char) : List Char :=
  let digits := Nat.toDigits 16 c.toNat
  '\\' :: 'U' :: (List.replicate (8 - digits.length) '0' ++ digits)

def backslash : List Char :=
  "\\u005c".toList

def narrowChar (c : Char) : List Char :=
  if c.toNat < 128 then [c] else longEscape c

/-- The text with escapes for all codes from 128, also behind a backslash. -/
def narrow : List Char → List Char
  | [] => []
  | ['\\'] => backslash
  | '\\' :: c :: cs =>
    if c.toNat < 128 then '\\' :: c :: narrow cs else backslash ++ longEscape c ++ narrow cs
  | c :: cs => narrowChar c ++ narrow cs

/-- Up to `count` hexadecimal digits: their value, how many there are, and what follows. -/
def hexRun (count value used : Nat) : List Char → Nat × Nat × List Char
  | [] => (value, used, [])
  | c :: cs =>
    if used < count && isHexDigit c then
      hexRun count (16 * value + digitValue c) (used + 1) cs
    else (value, used, c :: cs)

def octalRun (value used : Nat) : List Char → Nat × Nat × List Char
  | [] => (value, used, [])
  | c :: cs =>
    if used < 3 && '0' ≤ c && c ≤ '7' then octalRun (8 * value + digitValue c) (used + 1) cs
    else (value, used, c :: cs)

def codecFault (start stop : Nat) (reason : String) : String :=
  s!"(unicode error) 'unicodeescape' codec can't decode bytes in position {start}-{stop - 1}: " ++
  reason

/-- The codes that one escape stands for, how many places it took, and what follows. -/
structure Piece where
  out : List Nat
  used : Nat
  rest : List Char

def simpleEscape? : Char → Option (List Char)
  | '\n' => some []
  | '\\' => some ['\\']
  | '\'' => some ['\'']
  | '"' => some ['"']
  | 'a' => some ['\x07']
  | 'b' => some ['\x08']
  | 'f' => some ['\x0c']
  | 'n' => some ['\n']
  | 'r' => some ['\r']
  | 't' => some ['\t']
  | 'v' => some ['\x0b']
  | _ => none

def hexEscape (start count : Nat) (label : String) (cs : List Char) : Except String Piece :=
  let (value, used, rest) := hexRun count 0 0 cs
  if used < count then .error (codecFault start (start + 2 + used) s!"truncated {label} escape")
  else if 0x10FFFF < value then
    .error (codecFault start (start + 2 + count) "illegal Unicode character")
  else .ok ⟨[value], 2 + count, rest⟩

def nameEscape (start : Nat) (cs : List Char) : Except String Piece :=
  let malformed (used : Nat) := codecFault start (start + used) "malformed \\N character escape"
  match cs with
  | '{' :: ds =>
    let name := ds.takeWhile (· != '}')
    match ds.dropWhile (· != '}') with
    | [] => .error (malformed (3 + ds.length))
    | _ :: rest =>
      if name.isEmpty then .error (malformed 3)
      else
        match named? name with
        | some code => .ok ⟨[code], name.length + 4, rest⟩
        | none =>
          .error (codecFault start (start + name.length + 4) "unknown Unicode character name")
  | _ => .error (malformed 2)

/-- The escape whose backslash stands at `start` and has been taken. -/
def textEscape (start : Nat) : List Char → Except String Piece
  | [] => .error (codecFault start (start + 1) "\\ at end of string")
  | c :: cs =>
    match simpleEscape? c with
    | some out => .ok ⟨out.map Char.toNat, 2, cs⟩
    | none =>
      if '0' ≤ c ∧ c ≤ '7' then
        let (value, used, rest) := octalRun 0 0 (c :: cs)
        .ok ⟨[value], 1 + used, rest⟩
      else if c = 'x' then hexEscape start 2 "\\xXX" cs
      else if c = 'u' then hexEscape start 4 "\\uXXXX" cs
      else if c = 'U' then hexEscape start 8 "\\UXXXXXXXX" cs
      else if c = 'N' then nameEscape start cs
      else .ok ⟨['\\'.toNat, c.toNat], 2, cs⟩

/-- Every round takes a character at least, so the length of the text is fuel enough. -/
def decodeFrom (start : Nat) (out : List Nat) : Nat → List Char → Except String (List Nat)
  | 0, _ => .ok out.reverse
  | _ + 1, [] => .ok out.reverse
  | fuel + 1, '\\' :: cs =>
    match textEscape start cs with
    | .ok p => decodeFrom (start + p.used) (p.out.reverse ++ out) fuel p.rest
    | .error e => .error e
  | fuel + 1, c :: cs => decodeFrom (start + 1) (c.toNat :: out) fuel cs

/-- The codes of quoted text with its escapes resolved, or the message that refuses one. -/
def decodeText (cs : List Char) : Except String (List Nat) :=
  if cs.contains '\\' then
    let text := narrow cs
    decodeFrom 0 [] (text.length + 1) text
  else .ok (cs.map Char.toNat)

/-- Quoted bytes; a code is kept modulo 256. -/
def decodeBytesFrom (start : Nat) (out : List Nat) : Nat → List Char → Except String (List Nat)
  | 0, _ => .ok out.reverse
  | _ + 1, [] => .ok out.reverse
  | fuel + 1, '\\' :: c :: cs =>
    match simpleEscape? c with
    | some cs' => decodeBytesFrom (start + 2) (cs'.reverse.map Char.toNat ++ out) fuel cs
    | none =>
      if '0' ≤ c ∧ c ≤ '7' then
        let (value, used, rest) := octalRun 0 0 (c :: cs)
        decodeBytesFrom (start + 1 + used) (value % 256 :: out) fuel rest
      else if c = 'x' then
        let (value, used, rest) := hexRun 2 0 0 cs
        if used < 2 then .error s!"(value error) invalid \\x escape at position {start}"
        else decodeBytesFrom (start + 4) (value :: out) fuel rest
      else decodeBytesFrom (start + 2) (c.toNat :: '\\'.toNat :: out) fuel cs
  | fuel + 1, c :: cs => decodeBytesFrom (start + 1) (c.toNat :: out) fuel cs

def decodeBytes (cs : List Char) : Except String (List Nat) :=
  decodeBytesFrom 0 [] (cs.length + 1) cs

end HabitLens.Source.Escape
