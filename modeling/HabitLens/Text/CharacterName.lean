import HabitLens.Text.Names.Aliases
import HabitLens.Text.Names.Alphabets
import HabitLens.Text.Names.EastAsian
import HabitLens.Text.Names.Emblems
import HabitLens.Text.Names.Forms
import HabitLens.Text.Names.Historic
import HabitLens.Text.Names.Notations
import HabitLens.Text.Names.Pictures
import HabitLens.Text.Names.Symbols
import HabitLens.Text.Ranges

/-!
Characters by name. Names of Hangul syllables and of ideographs follow a rule; all others are listed
in tables, where an entry leaves out the words with which the entry before it begins, too.
-/

namespace HabitLens.Text

namespace Names

/--
What has been read of a table. An entry may begin with a code and `=`; otherwise its code is the
next one. A small letter then tells how many words it has in common with the entry before it.
-/
structure Reader where
  code : Nat := 0
  words : List (List Char) := []
  number : Nat := 0
  hasNumber : Bool := false
  shared : Option Nat := none
  taken : List (List Char) := []
  word : List Char := []

def Reader.flush (r : Reader) : Reader :=
  let own := if r.word.isEmpty then r.taken else r.word.reverse :: r.taken
  { code := if r.hasNumber then r.number else r.code + 1
    words := r.words.take (r.shared.getD 0) ++ own.reverse }

def Reader.step (r : Reader) (c : Char) : Reader :=
  match r.shared with
  | none =>
    if c = '=' then { r with hasNumber := true }
    else if 'a' ≤ c ∧ c ≤ 'z' then { r with shared := some (c.toNat - 'a'.toNat) }
    else { r with number := 16 * r.number + hexDigit c }
  | some _ =>
    if c = ' ' then { r with taken := r.word.reverse :: r.taken, word := [] }
    else { r with word := c :: r.word }

structure Search where
  reader : Reader := {}
  found : Option Nat := none

def Search.step (name : List (List Char)) (s : Search) (c : Char) : Search :=
  if c = ';' ∨ c = '\n' then
    let reader := s.reader.flush
    { reader, found := if reader.words = name then some reader.code else s.found }
  else { s with reader := s.reader.step c }

def find? (name : List (List Char)) (table : String) : Option Nat :=
  ((table.foldl (Search.step name) {}).step name ';').found

def tables : List String :=
  [alphabets, symbols, eastAsian, forms, historic, pictures, notations, emblems, aliases]

def wordsOf : List Char → List (List Char)
  | [] => [[]]
  | c :: cs =>
    match wordsOf cs with
    | [] => [[c]]
    | w :: ws => if c = ' ' then [] :: w :: ws else (c :: w) :: ws

/-- The code of a listed name, which may be written in any case. -/
def listed? (name : List Char) : Option Nat :=
  tables.findSome? (find? (wordsOf (name.map Char.toUpper)))

end Names

namespace Hangul

def leading : List String :=
  ["G", "GG", "N", "D", "DD", "R", "M", "B", "BB", "S", "SS", "", "J", "JJ", "C", "K", "T", "P",
   "H"]

def vowels : List String :=
  ["A", "AE", "YA", "YAE", "EO", "E", "YEO", "YE", "O", "WA", "WAE", "OE", "YO", "U", "WEO", "WE",
   "WI", "YU", "EU", "YI", "I"]

def trailing : List String :=
  ["", "G", "GG", "GS", "N", "NJ", "NH", "D", "L", "LG", "LM", "LB", "LS", "LT", "LP", "LH", "M",
   "B", "BS", "S", "SS", "NG", "J", "C", "K", "T", "P", "H"]

/-- The longest sound in front of a text, by its number, and what follows it. -/
def sound? (sounds : List String) (cs : List Char) : Option (Nat × List Char) :=
  let fitting := sounds.zipIdx.filter fun (s, _) => s.toList.isPrefixOf cs
  let longest := fitting.foldl (fun best (s, i) =>
    match best with
    | some (t, _) => if (t : String).length < s.length then some (s, i) else best
    | none => some (s, i)) none
  longest.map fun (s, i) => (i, cs.drop s.length)

def syllable? (cs : List Char) : Option Nat := do
  let (l, cs) ← sound? leading cs
  let (v, cs) ← sound? vowels cs
  let (t, cs) ← sound? trailing cs
  if cs.isEmpty then return 0xac00 + (l * vowels.length + v) * trailing.length + t
  none

end Hangul

namespace Ideograph

def isUnified (code : Nat) : Bool :=
  [(0x3400, 0x4dbf), (0x4e00, 0x9fff), (0x20000, 0x2a6df), (0x2a700, 0x2b738), (0x2b740, 0x2b81d),
    (0x2b820, 0x2cea1), (0x2ceb0, 0x2ebe0), (0x30000, 0x3134a)].any fun (first, last) =>
      first ≤ code && code ≤ last

def isDigit (c : Char) : Bool :=
  ('0' ≤ c && c ≤ '9') || ('A' ≤ c && c ≤ 'F')

def ofDigits? (digits : List Char) : Option Nat :=
  let code := digits.foldl (fun n c => 16 * n + hexDigit c) 0
  if (digits.length = 4 || digits.length = 5) && digits.all isDigit && isUnified code then some code
  else none

end Ideograph

def behind? (start : String) (cs : List Char) : Option (List Char) :=
  if start.toList.isPrefixOf cs then some (cs.drop start.length) else none

def named? (name : List Char) : Option Nat :=
  match behind? "HANGUL SYLLABLE " name, behind? "CJK UNIFIED IDEOGRAPH-" name with
  | some sounds, _ => Hangul.syllable? sounds
  | none, some digits => Ideograph.ofDigits? digits
  | none, none => Names.listed? name

end HabitLens.Text
