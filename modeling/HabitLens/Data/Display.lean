import HabitLens.Data.Value
import HabitLens.Number.Digits
import HabitLens.Number.Shortest

/-!
Values as text for a reader: on its own a text stands for itself, and inside another value it is
quoted.
-/

namespace HabitLens

namespace Display

/--
Numbers are positional from four places behind the point to sixteen in front of it, whole ones keep
a `.0`, and exponents have two digits at least.
-/
def number : Binary64.Layout :=
  ⟨-3, 16, true, 2, true, "nan", "inf"⟩

/-- A character between quotes. What is not shown as itself is written by its code. -/
def quotedChar (quote c : Char) : List Char :=
  if c == quote || c == '\\' then ['\\', c]
  else if c == '\t' then ['\\', 't']
  else if c == '\n' then ['\\', 'n']
  else if c == '\r' then ['\\', 'r']
  else if Text.isPrintable c then [c]
  else
    let code := c.toNat
    if code < 0x100 then '\\' :: 'x' :: hexText 2 code
    else if code < 0x10000 then '\\' :: 'u' :: hexText 4 code
    else '\\' :: 'U' :: hexText 8 code

def quotedCode (quote : Char) (code : Nat) : List Char :=
  if Text.isHalf code then '\\' :: 'u' :: hexText 4 code else quotedChar quote (Char.ofNat code)

/-- A text in quotes: single ones, unless only those occur in it. -/
def quotedCodes (codes : List Nat) : String :=
  let has (c : Char) := codes.contains c.toNat
  let quote := if has '\'' && !has '"' then '"' else '\''
  String.ofList (quote :: codes.flatMap (quotedCode quote) ++ [quote])

def quoted (s : String) : String :=
  quotedCodes (s.toList.map Char.toNat)

end Display

namespace Value

mutual

def literal : Value → String
  | null => "None"
  | bool true => "True"
  | bool false => "False"
  | int n => decimal n
  | float x => Display.number.text x
  | str s => Display.quoted s
  | unpaired codes => Display.quotedCodes codes
  | list items => "[" ++ ", ".intercalate (literals items) ++ "]"
  | dict fields => "\x7b" ++ ", ".intercalate (fieldLiterals fields) ++ "\x7d"

def literals : List Value → List String
  | [] => []
  | v :: vs => v.literal :: literals vs

def fieldLiterals : List (String × Value) → List String
  | [] => []
  | (k, v) :: fs => (Display.quoted k ++ ": " ++ v.literal) :: fieldLiterals fs

end

def display : Value → String
  | str s => s
  | unpaired codes => Text.ofCodes codes
  | v => v.literal

end Value

end HabitLens
