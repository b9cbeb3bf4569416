/-!
Tables over character codes, written as text: a list of ranges such as `41-5A AA B5`, or of ranges
with values such as `FB01=66,69`. Entries are in ascending order and do not overlap.
-/

namespace HabitLens.Text

def hexDigit (c : Char) : Nat :=
  if '0' ≤ c ∧ c ≤ '9' then c.toNat - '0'.toNat
  else if 'A' ≤ c ∧ c ≤ 'F' then c.toNat - 'A'.toNat + 10
  else 0

/-- One table entry: the codes from `first` to `last` and the values that belong to them. -/
structure Entry where
  first : Nat
  last : Nat
  values : List Nat
  deriving Inhabited

/-- What has been read of an entry; `stage` is 0 before the dash, 1 after it, 2 after the equals. -/
structure EntryReader where
  done : Array Entry := #[]
  first : Nat := 0
  last : Option Nat := none
  values : List Nat := []
  number : Nat := 0
  stage : Nat := 0

def EntryReader.flush (r : EntryReader) : EntryReader :=
  let first := if r.stage = 0 then r.number else r.first
  let last := if r.stage = 1 then r.number else r.last.getD first
  let values := if r.stage = 2 then (r.number :: r.values).reverse else []
  { done := r.done.push ⟨first, last, values⟩ }

def EntryReader.step (r : EntryReader) (c : Char) : EntryReader :=
  if c = ' ' ∨ c = '\n' then r.flush
  else if c = '-' then { r with first := r.number, number := 0, stage := 1 }
  else if c = '=' then
    if r.stage = 0 then { r with first := r.number, number := 0, stage := 2 }
    else { r with last := some r.number, number := 0, stage := 2 }
  else if c = ',' then { r with values := r.number :: r.values, number := 0 }
  else { r with number := 16 * r.number + hexDigit c }

def readEntries (text : String) : Array Entry :=
  (text.foldl EntryReader.step {}).flush.done

/-- Binary search for the entry that holds `code`, between two indices. -/
def entryAt? (table : Array Entry) (code : Nat) (low high : Nat) : Nat → Option Entry
  | 0 => none
  | fuel + 1 =>
    if low < high then
      let mid := (low + high) / 2
      match table[mid]? with
      | none => none
      | some e =>
        if code < e.first then entryAt? table code low mid fuel
        else if e.last < code then entryAt? table code (mid + 1) high fuel
        else some e
    else none

structure Ranges where
  entries : Array Entry

def Ranges.read (text : String) : Ranges :=
  ⟨readEntries text⟩

def Ranges.contains (r : Ranges) (c : Char) : Bool :=
  (entryAt? r.entries c.toNat 0 r.entries.size (r.entries.size.log2 + 2)).isSome

structure Mapping where
  entries : Array Entry

def Mapping.read (text : String) : Mapping :=
  ⟨readEntries text⟩

def Mapping.find? (m : Mapping) (code : Nat) : Option Entry :=
  entryAt? m.entries code 0 m.entries.size (m.entries.size.log2 + 2)

end HabitLens.Text
