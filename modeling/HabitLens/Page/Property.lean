import HabitLens.Data.Json
import HabitLens.Data.Value
import HabitLens.Page.Fault
import HabitLens.Text.Blank

/-!
Properties of values as the page sees them: they may be absent, every number is a binary one, lists
and tables always count as true, and everything has a text.
-/

namespace HabitLens.Page

abbrev Property : Type := Option Value

/-- Numbers are positional up to 21 places, and neither a point nor a sign of zero is kept. -/
def numberLayout : Binary64.Layout :=
  ⟨-5, 21, false, 1, false, "NaN", "Infinity"⟩

def field (v : Value) (name : String) : Property :=
  match v with
  | .dict fields => Table.get? fields name
  | _ => none

namespace Property

def read (p : Property) (name : String) : Except Fault Property :=
  match p with
  | none => .error (.unreadable false name)
  | some .null => .error (.unreadable true name)
  | some v => .ok (field v name)

def truthy : Property → Bool
  | none | some .null => false
  | some (.bool b) => b
  | some (.int n) => n != 0
  | some (.float .nan) => false
  | some (.float x) => !x.isZero
  | some (.str s) => !s.isEmpty
  | some (.unpaired codes) => !codes.isEmpty
  | some (.list _) | some (.dict _) => true

def isText (p : Property) (s : String) : Bool :=
  match p with
  | some (.str t) => t == s
  | _ => false

end Property

mutual

/-- The text of a value. A table whose text is given by one of its own fields has none. -/
def shownValue : Value → Except Fault String
  | .null => .ok "null"
  | .bool b => .ok (if b then "true" else "false")
  | .int n => .ok (numberLayout.text (Binary64.ofInt n))
  | .float x => .ok (numberLayout.text x)
  | .str s => .ok s
  | .unpaired codes => .ok (Text.ofCodes codes)
  | .list items => do return ",".intercalate (← shownItems items)
  | .dict fields =>
    if Table.contains fields "toString" then .error .noText else .ok "[object Object]"

/-- The texts of the items of a list, where a null has no text. -/
def shownItems : List Value → Except Fault (List String)
  | [] => .ok []
  | .null :: vs => do return "" :: (← shownItems vs)
  | v :: vs => do
    let s ← shownValue v
    return s :: (← shownItems vs)

end

def Property.shown : Property → Except Fault String
  | none => .ok "undefined"
  | some v => shownValue v

def unsigned? (cs : List Char) : Option Binary64 :=
  if cs == "Infinity".toList then some (.infinite false)
  else
    let (whole, rest) := Json.digitsOf cs
    let (fraction, rest) := match rest with
      | '.' :: more => Json.digitsOf more
      | _ => ([], rest)
    let (exponent, rest) := Json.exponentOf rest
    if (whole.isEmpty && fraction.isEmpty) || !rest.isEmpty then none
    else
      some (Binary64.ofDecimal false (natOf 10 (whole ++ fraction))
        (exponent.getD 0 - fraction.length))

def isDigitOf (base : Nat) (c : Char) : Bool :=
  Text.isHexDigit c && digitValue c < base

def inBase? (base : Nat) (digits : List Char) : Option Binary64 :=
  if digits.isEmpty || !digits.all (isDigitOf base) then none
  else some (Binary64.ofInt (natOf base digits))

def isPositiveText (s : String) : Bool :=
  let number? := match Text.trim Text.isEditorBlank s.toList with
    | '0' :: 'x' :: digits | '0' :: 'X' :: digits => inBase? 16 digits
    | '0' :: 'o' :: digits | '0' :: 'O' :: digits => inBase? 8 digits
    | '0' :: 'b' :: digits | '0' :: 'B' :: digits => inBase? 2 digits
    | '+' :: cs => unsigned? cs
    | cs => unsigned? cs
  number?.any fun x => x.compareInt? 0 == some .gt

def Property.isPositive : Property → Except Fault Bool
  | none | some .null => .ok false
  | some (.bool b) => .ok b
  | some (.int n) => .ok (0 < n)
  | some (.float x) => .ok (x.compareInt? 0 == some .gt)
  | some v => do return isPositiveText (← shownValue v)

end HabitLens.Page
