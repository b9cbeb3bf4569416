import HabitLens.Text.IdentifierTable
import HabitLens.Text.PrintableTable

/-!
Character classes of source text. Codes below 128 are settled without a table.
-/

namespace HabitLens.Text

def isAsciiDigit (c : Char) : Bool :=
  '0' ≤ c && c ≤ '9'

def isAsciiLetter (c : Char) : Bool :=
  ('a' ≤ c && c ≤ 'z') || ('A' ≤ c && c ≤ 'Z')

def isHexDigit (c : Char) : Bool :=
  isAsciiDigit c || ('a' ≤ c && c ≤ 'f') || ('A' ≤ c && c ≤ 'F')

def isIdentifierStart (c : Char) : Bool :=
  if c.toNat < 128 then isAsciiLetter c || c == '_' else startTable.contains c

def isIdentifierContinue (c : Char) : Bool :=
  if c.toNat < 128 then isAsciiLetter c || isAsciiDigit c || c == '_' else continueTable.contains c

/-- Whether a lexer takes the character for part of a word, valid or not. -/
def isWordStart (c : Char) : Bool :=
  isAsciiLetter c || c == '_' || 128 ≤ c.toNat

def isWordContinue (c : Char) : Bool :=
  isWordStart c || isAsciiDigit c

/-- Whether the character is shown as itself. -/
def isPrintable (c : Char) : Bool :=
  if c.toNat < 127 then ' ' ≤ c else !hiddenTable.contains c

def invalidCharacter? : List Char → Option Char
  | [] => none
  | c :: cs => if isIdentifierStart c then cs.find? (!isIdentifierContinue ·) else some c

/-- A code in upper case hexadecimal, with four digits at least. -/
def codeText (c : Char) : String :=
  let digits := (Nat.toDigits 16 c.toNat).map Char.toUpper
  String.ofList (List.replicate (4 - digits.length) '0' ++ digits)

end HabitLens.Text
