/-!
Cutting texts at marks.
-/

namespace HabitLens.Text

/-- The parts before and behind the first occurrence of a mark. -/
def cut? (mark : List Char) : List Char → Option (List Char × List Char)
  | [] => if mark.isEmpty then some ([], []) else none
  | c :: cs =>
    if mark.isPrefixOf (c :: cs) then some ([], (c :: cs).drop mark.length)
    else (cut? mark cs).map fun (before, after) => (c :: before, after)

theorem length_of_cut? {mark cs before after : List Char}
    (h : cut? mark cs = some (before, after)) :
    before.length + mark.length + after.length = cs.length := by
  induction cs generalizing before with
  | nil =>
    unfold cut? at h
    split at h
    . next hmark =>
      cases h
      rw [List.isEmpty_iff.1 hmark]
      rfl
    . cases h
  | cons c cs ih =>
    unfold cut? at h
    split at h
    . next hmark =>
      have hle := (List.isPrefixOf_iff_prefix.1 hmark).length_le
      cases h
      rw [List.length_nil, List.length_drop]
      omega
    . obtain ⟨⟨before, after⟩, hcut, hparts⟩ := Option.map_eq_some_iff.1 h
      cases hparts
      have hlength := ih hcut
      rw [List.length_cons, List.length_cons]
      omega

/-- The parts of a text between the occurrences of a mark, found from left to right. -/
def pieces (mark : List Char) (cs : List Char) : List (List Char) :=
  if _hm : mark = [] then [cs]
  else
    match _h : cut? mark cs with
    | none => [cs]
    | some (before, after) => before :: pieces mark after
termination_by cs.length
decreasing_by
  have := length_of_cut? _h
  have := List.length_pos_iff.2 _hm
  omega

def occursIn (part : String) (s : String) : Bool :=
  (cut? part.toList s.toList).isSome

def splitAt {α : Type} [DecidableEq α] (mark : α) : List α → List (List α)
  | [] => [[]]
  | c :: cs =>
    if c = mark then [] :: splitAt mark cs
    else
      match splitAt mark cs with
      | [] => [[c]]
      | part :: parts => (c :: part) :: parts

def lines (s : String) : List String :=
  (splitAt '\n' s.toList).map String.ofList

end HabitLens.Text
