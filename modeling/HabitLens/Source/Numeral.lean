import HabitLens.Number.Binary64
import HabitLens.Number.Digits

/-!
Number literals: where one ends in the text, and what its value is.
-/

namespace HabitLens.Source.Numeral

open Text

/-- Characters taken so far, latest first, and those that follow. -/
structure Split where
  taken : List Char
  rest : List Char

def decimalTail (taken : List Char) : List Char → Option Split
  | [] => some ⟨taken, []⟩
  | ['_'] => none
  | '_' :: d :: cs => if isAsciiDigit d then decimalTail (d :: '_' :: taken) cs else none
  | c :: cs => if isAsciiDigit c then decimalTail (c :: taken) cs else some ⟨taken, c :: cs⟩

def endsWord : List Char → Bool
  | c :: _ => c.toNat < 128 && !isWordContinue c
  | [] => true

/--
Whether a literal may be followed directly by this text, as in `1if x else y`. Of some keywords only
the first two letters are looked at.
-/
def endsWell : List Char → Bool
  | 'a' :: 'n' :: 'd' :: cs => endsWord cs
  | 'e' :: 'l' :: 's' :: 'e' :: cs => endsWord cs
  | 'f' :: 'o' :: 'r' :: cs => endsWord cs
  | 'i' :: 'f' :: _ => true
  | 'i' :: 'n' :: _ => true
  | 'i' :: 's' :: _ => true
  | 'o' :: 'r' :: cs => endsWord cs
  | 'n' :: 'o' :: 't' :: cs => endsWord cs
  | c :: _ => 128 ≤ c.toNat || !isWordContinue c
  | [] => true

def invalid (kind : String) : String :=
  s!"invalid {kind} literal"

def close (kind : String) (s : Split) : Except String Split :=
  if endsWell s.rest then .ok s else .error (invalid kind)

/-- A base other than ten: its name, and its digits. -/
structure Base where
  name : String
  size : Nat
  isDigit : Char → Bool

def hexadecimal : Base := ⟨"hexadecimal", 16, isHexDigit⟩
def octal : Base := ⟨"octal", 8, fun c => '0' ≤ c && c ≤ '7'⟩
def binary : Base := ⟨"binary", 2, fun c => c == '0' || c == '1'⟩

def Base.misfit (b : Base) (c : Char) : Except String Split :=
  if isAsciiDigit c then .error s!"invalid digit '{c}' in {b.name} literal"
  else .error (invalid b.name)

/-- Takes the digits behind a mark such as `0x`; `fresh` says that a digit has to come next. -/
def based (b : Base) (taken : List Char) (fresh : Bool) : List Char → Except String Split
  | [] => if fresh then .error (invalid b.name) else .ok ⟨taken, []⟩
  | '_' :: cs =>
    match cs with
    | d :: ds => if b.isDigit d then based b (d :: '_' :: taken) false ds else b.misfit d
    | [] => .error (invalid b.name)
  | c :: cs =>
    if b.isDigit c then based b (c :: taken) false cs
    else if fresh || isAsciiDigit c then b.misfit c
    else close b.name ⟨taken, c :: cs⟩

def imaginary (s : Split) (mark : Char) (rest : List Char) : Except String Split :=
  close "imaginary" ⟨mark :: s.taken, rest⟩

/-- What may follow the digits of a number that has a point or an exponent. -/
def suffix (s : Split) : Except String Split :=
  match s.rest with
  | 'j' :: cs => imaginary s 'j' cs
  | 'J' :: cs => imaginary s 'J' cs
  | _ => close "decimal" s

def signedExponent (s : Split) (marks : List Char) (rest : List Char) : Except String Split :=
  match rest with
  | d :: ds =>
    if isAsciiDigit d then
      match decimalTail (d :: marks ++ s.taken) ds with
      | some s => suffix s
      | none => .error (invalid "decimal")
    else .error (invalid "decimal")
  | [] => .error (invalid "decimal")

/-- An exponent whose mark `e` stands at the head of the rest, if there is one. -/
def exponent (s : Split) : Except String Split :=
  match s.rest with
  | [] => suffix s
  | e :: cs =>
    if e == 'e' || e == 'E' then
      match cs with
      | '+' :: ds => signedExponent s ['+', e] ds
      | '-' :: ds => signedExponent s ['-', e] ds
      | d :: _ => if isAsciiDigit d then signedExponent s [e] cs else close "decimal" s
      | [] => close "decimal" s
    else suffix s

def fraction (s : Split) : Except String Split :=
  match s.rest with
  | d :: ds =>
    if isAsciiDigit d then
      match decimalTail (d :: s.taken) ds with
      | some s => exponent s
      | none => .error (invalid "decimal")
    else exponent s
  | [] => exponent s

def afterDigits (s : Split) : Except String Split :=
  match s.rest with
  | '.' :: cs => fraction ⟨'.' :: s.taken, cs⟩
  | _ => exponent s

/-- Further zeros behind a leading zero; an underscore among them must stand before a digit. -/
def leadingZeros (taken : List Char) : List Char → Option Split
  | '0' :: cs => leadingZeros ('0' :: taken) cs
  | ['_'] => none
  | '_' :: '0' :: cs => leadingZeros ('0' :: '_' :: taken) cs
  | '_' :: d :: cs => if isAsciiDigit d then some ⟨'_' :: taken, d :: cs⟩ else none
  | cs => some ⟨taken, cs⟩

def leadingZerosMessage : String :=
  "leading zeros in decimal integer literals are not permitted; use an 0o prefix for octal integers"

def zeroStart (rest : List Char) : Except String Split :=
  match leadingZeros ['0'] rest with
  | none => .error (invalid "decimal")
  | some s =>
    match s.rest with
    | d :: ds =>
      if isAsciiDigit d then
        match decimalTail (d :: s.taken) ds with
        | none => .error (invalid "decimal")
        | some s =>
          match s.rest with
          | c :: _ =>
            if c == '.' || c == 'e' || c == 'E' || c == 'j' || c == 'J' then afterDigits s
            else .error leadingZerosMessage
          | [] => .error leadingZerosMessage
      else afterDigits s
    | [] => afterDigits s

def split : List Char → Except String Split
  | '0' :: c :: cs =>
    if c == 'x' || c == 'X' then based hexadecimal [c, '0'] true cs
    else if c == 'o' || c == 'O' then based octal [c, '0'] true cs
    else if c == 'b' || c == 'B' then based binary [c, '0'] true cs
    else zeroStart (c :: cs)
  | ['0'] => zeroStart []
  | d :: ds =>
    match decimalTail [d] ds with
    | some s => afterDigits s
    | none => .error (invalid "decimal")
  | [] => .error (invalid "decimal")

inductive Value where
  | int (n : Nat)
  | float (x : Binary64)
  | imaginary (x : Binary64)

def decimalOf (digits : List Char) : Binary64 :=
  let isMark (c : Char) := c == 'e' || c == 'E'
  let mantissa := digits.takeWhile (!isMark ·)
  let power := (digits.dropWhile (!isMark ·)).drop 1
  let whole := mantissa.takeWhile (· != '.')
  let part := (mantissa.dropWhile (· != '.')).drop 1
  let e : Int := match power with
    | '-' :: ds => -(natOf 10 ds : Int)
    | '+' :: ds => natOf 10 ds
    | ds => natOf 10 ds
  Binary64.ofDecimal false (natOf 10 (whole ++ part)) (e - part.length)

/-- The value of a literal that `split` took, or the message that refuses it. -/
def value (text : String) : Except String Value :=
  let digits := text.toList.filter (· != '_')
  match digits with
  | '0' :: c :: ds =>
    if c == 'x' || c == 'X' then .ok (.int (natOf 16 ds))
    else if c == 'o' || c == 'O' then .ok (.int (natOf 8 ds))
    else if c == 'b' || c == 'B' then .ok (.int (natOf 2 ds))
    else plain digits
  | _ => plain digits
where
  plain (digits : List Char) : Except String Value :=
    match digits.getLast? with
    | some 'j' | some 'J' => .ok (.imaginary (decimalOf digits.dropLast))
    | _ =>
      if digits.any (fun c => c == '.' || c == 'e' || c == 'E') then .ok (.float (decimalOf digits))
      else if digitLimit < digits.length && digits.any (· != '0') then
        .error (tooManyDigits digits.length)
      else .ok (.int (natOf 10 digits))

end HabitLens.Source.Numeral
