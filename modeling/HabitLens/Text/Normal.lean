import HabitLens.Text.NormalTable

/-!
The compatibility normal form of a word: characters are taken apart, marks are put in order, and
what composes is composed again. Hangul syllables follow a formula instead of a table.
-/

namespace HabitLens.Text

def hangulBase : Nat := 0xAC00
def leadBase : Nat := 0x1100
def vowelBase : Nat := 0x1161
def tailBase : Nat := 0x11A7

def decompose (code : Nat) : List Nat :=
  if hangulBase ≤ code ∧ code < hangulBase + 11172 then
    let s := code - hangulBase
    let tail := s % 28
    let start := [leadBase + s / 588, vowelBase + s % 588 / 28]
    if tail = 0 then start else start ++ [tailBase + tail]
  else
    match decompositionTable.find? code with
    | none => [code]
    | some e =>
      match e.values with
      | [v] => [v + (code - e.first)]
      | vs => vs

def combiningClass (code : Nat) : Nat :=
  match combiningTable.find? code with
  | some ⟨_, _, [v]⟩ => v
  | _ => 0

/-- Inserts a mark behind all marks of its run whose class is not greater. -/
def insertMark (mark : Nat × Nat) : List (Nat × Nat) → List (Nat × Nat)
  | [] => [mark]
  | m :: ms => if m.2 ≤ mark.2 then m :: insertMark mark ms else mark :: m :: ms

def orderMarks : List Nat → List (Nat × Nat) → List (Nat × Nat)
  | [], run => run
  | c :: cs, run =>
    let k := combiningClass c
    if k = 0 then run ++ (c, 0) :: orderMarks cs []
    else orderMarks cs (insertMark (c, k) run)

def lookupPair (second : Nat) : List Nat → Option Nat
  | b :: c :: rest => if b = second then some c else lookupPair second rest
  | _ => none

def composePair? (a b : Nat) : Option Nat :=
  if leadBase ≤ a ∧ a < leadBase + 19 ∧ vowelBase ≤ b ∧ b < vowelBase + 21 then
    some (hangulBase + ((a - leadBase) * 21 + (b - vowelBase)) * 28)
  else if hangulBase ≤ a ∧ a < hangulBase + 11172 ∧ (a - hangulBase) % 28 = 0 ∧
      tailBase < b ∧ b < tailBase + 28 then
    some (a + (b - tailBase))
  else
    match compositionTable.find? a with
    | some e => lookupPair b e.values
    | none => none

/--
Composes from left to right. `starter` is the last character of class zero, `marks` what follows it
and stays, latest first; a mark is blocked by one of its own class or above.
-/
def composeFrom (starter : Option Nat) (marks : List (Nat × Nat)) : List (Nat × Nat) → List Nat
  | [] => starter.toList ++ (marks.map (·.1)).reverse
  | (c, k) :: rest =>
    let blocked := match marks with
      | [] => false
      | (_, j) :: _ => j = 0 || k ≤ j
    match starter with
    | some s =>
      match (if blocked then none else composePair? s c) with
      | some joined => composeFrom (some joined) marks rest
      | none =>
        if k = 0 then s :: (marks.map (·.1)).reverse ++ composeFrom (some c) [] rest
        else composeFrom (some s) ((c, k) :: marks) rest
    | none =>
      if k = 0 then (marks.map (·.1)).reverse ++ composeFrom (some c) [] rest
      else composeFrom none ((c, k) :: marks) rest

def normalizeCodes (codes : List Nat) : List Nat :=
  composeFrom none [] (orderMarks (codes.flatMap decompose) [])

/-- The normal form of an identifier; words of codes below 128 are in it already. -/
def normalize (word : String) : String :=
  if word.toList.all (fun c => c.toNat < 128) then word
  else String.ofList ((normalizeCodes (word.toList.map Char.toNat)).map Char.ofNat)

end HabitLens.Text
