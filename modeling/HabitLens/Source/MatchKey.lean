import HabitLens.Data.Display
import HabitLens.Source.Tree

/-!
The literals of patterns as values: which ones are equal, and how they are shown.
-/

namespace HabitLens.Binary64

def negate : Binary64 → Binary64
  | nan => nan
  | infinite s => infinite !s
  | finite s m e => finite (!s) m e

end HabitLens.Binary64

namespace HabitLens.Source

inductive MatchKey where
  | none
  | bool (b : Bool)
  | int (n : Int)
  | float (x : Binary64)
  | complex (re im : Binary64)
  | ellipsis
  | text (codes : List Nat)
  | bytes (bs : List Nat)

namespace MatchKey

def ofConstant : Constant → MatchKey
  | .none => none
  | .bool b => bool b
  | .ellipsis => ellipsis
  | .int n => int n
  | .float x => float x
  | .imaginary x => complex (.ofInt 0) x
  | .text codes _ => text codes
  | .bytes bs => bytes bs

def negate? : MatchKey → Option MatchKey
  | int n => some (int (-n))
  | float x => some (float x.negate)
  | complex re im => some (complex re.negate im.negate)
  | _ => Option.none

/-- A number as a real one, unless it is too large. -/
def real? : MatchKey → Option Binary64
  | int n =>
    match Binary64.ofInt n with
    | .infinite _ => Option.none
    | x => some x
  | float x => some x
  | _ => Option.none

def combine? (op : BinaryOp) (left right : MatchKey) : Option MatchKey :=
  match left.real?, right with
  | some re, complex _ im =>
    match op with
    | .add => some (complex (if re.isZero then .ofInt 0 else re) im)
    | .sub => some (complex re (if im.isZero then .ofInt 0 else im.negate))
    | _ => Option.none
  | _, _ => Option.none

def ofExpr? : Expr → Option MatchKey
  | .constant _ c => some (ofConstant c)
  | .unary _ .minus (.constant _ c) => (ofConstant c).negate?
  | .binary _ (.constant _ l) op (.constant _ r) => combine? op (ofConstant l) (ofConstant r)
  | .binary _ (.unary _ .minus (.constant _ l)) op (.constant _ r) => do
    combine? op (← (ofConstant l).negate?) (ofConstant r)
  | _ => Option.none

/-- A number as its real and imaginary parts, of which the real one may be whole. -/
def parts? : MatchKey → Option ((Int ⊕ Binary64) × Binary64)
  | bool b => some (.inl (if b then 1 else 0), .ofInt 0)
  | int n => some (.inl n, .ofInt 0)
  | float x => some (.inr x, .ofInt 0)
  | complex re im => some (.inr re, im)
  | _ => Option.none

def sameReal : Int ⊕ Binary64 → Int ⊕ Binary64 → Bool
  | .inl a, .inl b => a == b
  | .inr a, .inr b => a.compare? b == some .eq
  | .inl a, .inr b => b.compareInt? a == some .eq
  | .inr a, .inl b => a.compareInt? b == some .eq

def same (a b : MatchKey) : Bool :=
  match a.parts?, b.parts? with
  | some (ra, ia), some (rb, ib) => sameReal ra rb && ia.compare? ib == some .eq
  | Option.none, Option.none =>
    match a, b with
    | none, none | ellipsis, ellipsis => true
    | text cs, text ds => cs == ds
    | bytes s, bytes t => s == t
    | _, _ => false
  | _, _ => false

def byteText (quote : Char) (b : Nat) : List Char :=
  let c := Char.ofNat b
  if 128 ≤ b || (b < 32 && c != '\t' && c != '\n' && c != '\r') || b == 127 then
    '\\' :: 'x' :: hexText 2 b
  else Display.quotedChar quote c

/-- A part of a complex number, without the point of a whole number. -/
def partText (x : Binary64) : String :=
  Binary64.Layout.text { Display.number with keepsPoint := false } x

def complexText (re im : Binary64) : String :=
  if re.isZero && !re.isNegative then partText im ++ "j"
  else
    let sign := if im.isNegative then "" else "+"
    "(" ++ partText re ++ sign ++ partText im ++ "j)"

def display : MatchKey → String
  | none => "None"
  | bool true => "True"
  | bool false => "False"
  | ellipsis => "Ellipsis"
  | int n => decimal n
  | float x => Display.number.text x
  | complex re im => complexText re im
  | text codes => Display.quotedCodes codes
  | bytes bs =>
    let has (c : Char) := bs.contains c.toNat
    let quote := if has '\'' && !has '"' then '"' else '\''
    String.ofList ('b' :: quote :: bs.flatMap (byteText quote) ++ [quote])

end MatchKey

end HabitLens.Source
