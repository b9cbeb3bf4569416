import HabitLens.Proofs.Arrangement
import HabitLens.Proofs.Patience

/-!
The code that the assistant is shown with a question: the lines from two before the line of the
issue to three behind it, as far as there are such lines. Both ways show the same lines, and only
the patient one marks the line of the issue and leaves the code out where there is none to show.
-/

namespace HabitLens

namespace Window

/-- Lines of the code with their numbers: those near a line, each once and in order. -/
structure Shows (code : List String) (line : Nat) (shown : List (Nat × String)) : Prop where
  increasing : shown.Pairwise fun x y => x.1 < y.1
  mem_iff : ∀ k s, (k, s) ∈ shown
    ↔ max 1 (line - 2) ≤ k ∧ k ≤ min code.length (line + 3) ∧ code[k - 1]? = some s

def excerpt (code : List String) (line : Nat) : List (Nat × String) :=
  ((code.zipIdx 1).filter fun (_, k) => line ≤ k + 2 ∧ k ≤ line + 3).map Prod.swap

theorem mem_excerpt {code : List String} {line k : Nat} {s : String} :
    (k, s) ∈ excerpt code line ↔ (s, k) ∈ code.zipIdx 1 ∧ line ≤ k + 2 ∧ k ≤ line + 3 := by
  simp only [excerpt, List.mem_map, List.mem_filter, decide_eq_true_eq]
  constructor
  . rintro ⟨⟨s, k⟩, h, hswap⟩
    cases hswap
    exact h
  . intro h
    exact ⟨(s, k), h, rfl⟩

theorem shows_excerpt (code : List String) (line : Nat) : Shows code line (excerpt code line) := by
  constructor
  . have hnumbers : ((code.zipIdx 1).map Prod.snd).Pairwise (· < ·) := by
      rw [List.zipIdx_map_snd]
      exact List.pairwise_lt_range'
    apply List.pairwise_map.2
    exact (List.pairwise_map.1 hnumbers).filter _
  . intro k s
    rw [mem_excerpt, List.mk_mem_zipIdx_iff_le_and_getElem?_sub]
    constructor
    . rintro ⟨⟨hpos, hk⟩, hfrom, hto⟩
      obtain ⟨hlt, -⟩ := List.getElem?_eq_some_iff.1 hk
      exact ⟨by omega, by omega, hk⟩
    . rintro ⟨hfrom, hto, hk⟩
      exact ⟨⟨by omega, hk⟩, by omega, by omega⟩

theorem near_map_str {code : List String} {line : Nat} (hline : 0 < line) :
    near (code.map .str) line = (excerpt code line).map fun (k, s) => (k, .str s) := by
  unfold near excerpt
  rw [if_pos (by omega : 0 < (line : Int)), List.zipIdx_map, List.filter_map, List.map_map,
    List.map_map]
  congr 1
  apply List.filter_congr
  rintro ⟨s, k⟩ -
  simp only [Function.comp_apply, Prod.map, id, decide_eq_decide]
  omega

namespace Shows

variable {code : List String} {line : Nat} {shown : List (Nat × String)}

theorem exists_mem_iff (h : Shows code line shown) (k : Nat) :
    (∃ s, (k, s) ∈ shown) ↔ max 1 (line - 2) ≤ k ∧ k ≤ min code.length (line + 3) := by
  constructor
  . rintro ⟨s, hs⟩
    obtain ⟨hfrom, hto, -⟩ := (h.mem_iff k s).1 hs
    exact ⟨hfrom, hto⟩
  . rintro ⟨hfrom, hto⟩
    have hk : k - 1 < code.length := by omega
    exact ⟨code[k - 1], (h.mem_iff k _).2 ⟨hfrom, hto, List.getElem?_eq_getElem hk⟩⟩

theorem eq_nil_iff (h : Shows code line shown) (hcode : code ≠ []) :
    shown = [] ↔ code.length + 2 < line := by
  have hpos := List.length_pos_iff.2 hcode
  constructor
  . rintro rfl
    -- The first line of the window would be shown if there was one.
    apply Nat.lt_of_not_le
    intro hnear
    obtain ⟨s, hs⟩ := (h.exists_mem_iff (max 1 (line - 2))).2 ⟨Nat.le_refl _, by omega⟩
    cases hs
  . intro hfar
    apply List.eq_nil_iff_forall_not_mem.2
    rintro ⟨k, s⟩ hs
    obtain ⟨hfrom, hto⟩ := (h.exists_mem_iff k).1 ⟨s, hs⟩
    omega

end Shows

end Window

namespace Explain

theorem get?_line_of_fieldOr {issue : Table Value} {line : Nat} (hline : 0 < line)
    (h : (Value.dict issue).fieldOr "line" (.int 0) = .ok (.int line)) :
    issue.get? "line" = some (.int line) := by
  dsimp only [Value.fieldOr] at h
  cases hget : issue.get? "line" with
  | some v =>
    rw [hget] at h
    cases h
    rfl
  | none =>
    rw [hget] at h
    simp only [Option.getD_none, Except.ok.injEq, Value.int.injEq] at h
    omega

def detailedQuestion (issue : Table Value) (line : Nat) (shown : List (Nat × String)) : Question :=
  { prompt :=
      Prompt.detailedText ((issue.get? "category").getD (.str "error")).display
        ((issue.get? "message").getD (.str "Unknown error")).display
        (shown.map fun (k, s) => Window.markedLine line k s)
    maxTokens := 1000 }

def shortQuestion (issue : Table Value) (line : Nat) (shown : List (Nat × String)) : Question :=
  { prompt :=
      Prompt.shortText ((issue.get? "category").getD (.str "unknown")).display
        ((issue.get? "message").getD (.str "")).display (toString line)
        (shown.map fun (k, s) => Window.numberedLine k s)
    maxTokens := 300
    role := some
      ("You are a helpful Python expert. Provide clear, concise explanations and fixes for " ++
        "Python code issues.") }

section

variable {issue : Table Value} {line : Nat} (hline : 0 < line)

include hline

theorem inquiry_eq_detailedQuestion (code : List String) :
    inquiry .development issue line (code.map .str)
      =
    detailedQuestion issue line (Window.excerpt code line) := by
  unfold inquiry detailedQuestion
  dsimp only
  rw [Window.near_map_str hline, List.map_map]
  rfl

theorem inquiry_eq_shortQuestion (code : List String) :
    inquiry .hosted issue line (code.map .str)
      =
    shortQuestion issue line (Window.excerpt code line) := by
  unfold inquiry shortQuestion
  dsimp only
  rw [Window.near_map_str hline, List.map_map]
  rfl

end

/--
About an issue on a line, both ways ask with the code from two lines before it to three behind it,
as far as there is such code, and with each line as it is. The patient way marks the line of the
issue if it shows it, and no other one. Where it has nothing to show, it has no part about code. No
line is looked up in vain.
-/
theorem asks_with_code_near {issue : Table Value} {line : Nat} {code : List String}
    (hline : 0 < line) (hcode : code ≠ [])
    (hissue : (Value.dict issue).fieldOr "line" (.int 0) = .ok (.int line)) :
    (Value.dict issue).field "line" = .ok (.int line) ∧
    ∃ shown,
      Window.Shows code line shown ∧
      Window.around (.list (code.map .str)) (.int line)
        = .ok (shown.map fun (k, s) => (k, .str s)) ∧
      ((∃ s, (line, s) ∈ shown) ↔ line ≤ code.length) ∧
      (shown = [] ↔ code.length + 2 < line) ∧
      (∀ j, ∃ count > 0,
        ((patient true (.dict issue) (.list (code.map .str))).run j).2.questions
          = j.questions ++ List.replicate count (detailedQuestion issue line shown)) ∧
      (∀ apiKey : Option String, apiKey.getD "" ≠ "" → ∀ j,
        ((brief true apiKey (.dict issue) (.list (code.map .str))).run j).2.questions
          = j.questions ++ [shortQuestion issue line shown]) := by
  have hget := get?_line_of_fieldOr hline hissue
  have hshows := Window.shows_excerpt code line
  refine ⟨?_, Window.excerpt code line, hshows, ?_, ?_, hshows.eq_nil_iff hcode, ?_, ?_⟩
  . simp only [Value.field, hget]
  . rw [← Window.near_map_str hline]
    apply Window.around_list
  . rw [hshows.exists_mem_iff]
    omega
  . intro j
    obtain ⟨j', hrun, -⟩ := leads_patientQuestion hget (code.map .str) j
    rw [inquiry_eq_detailedQuestion hline] at hrun
    obtain ⟨k, hpersists⟩ := persists_patient (congrArg Prod.fst hrun)
    exact ⟨min (k + 1) maxAttempts, by simp [maxAttempts], hpersists.journal.questions⟩
  . intro apiKey hkey j
    obtain ⟨advice, j', hrun, hfollows⟩ := exists_leads_brief hkey hget (code.map .str) j
    rw [inquiry_eq_shortQuestion hline] at hfollows
    rw [hrun]
    exact hfollows.questions

/-- Two lines behind the end, the last line of the code is shown and not marked. -/
theorem asks_with_code_near_end :
    let issue : Table Value := [("line", .int 4), ("message", .str "m")]
    let code : Value := .list [.str "x = 1", .str "y"]
    (∀ j, ∃ count > 0,
      ((patient true (.dict issue) code).run j).2.questions
        =
      j.questions ++ List.replicate count
        { prompt := Prompt.detailedText "error" "m" ["    2: y\n"], maxTokens := 1000 }) ∧
    ∀ j,
      ((brief true (some "key") (.dict issue) code).run j).2.questions
        =
      j.questions ++
        [{ prompt := Prompt.shortText "unknown" "m" "4" ["2 y\n"]
           maxTokens := 300
           role := some
             ("You are a helpful Python expert. Provide clear, concise explanations and fixes " ++
               "for Python code issues.") }] := by
  intro issue code
  obtain ⟨-, shown, -, haround, -, -, hpatient, hbrief⟩ :=
    @asks_with_code_near issue 4 ["x = 1", "y"] (by decide) (by decide) rfl
  have hshown : shown.map (fun (k, s) => (k, Value.str s)) = [(2, .str "y")] := by
    have hwindow : (Window.around code (.int 4)).toOption = some [(2, .str "y")] := by
      decide +kernel
    exact Except.ok.inj (haround.symm.trans (Outcome.toOption_eq_some.1 hwindow))
  obtain ⟨⟨k, s⟩, rfl, hline⟩ := List.map_eq_singleton_iff.1 hshown
  obtain ⟨rfl, hs⟩ := Prod.mk.inj hline
  obtain rfl := Value.str.inj hs
  have hmarked : Window.markedLine 4 2 "y" = "    2: y\n" := by
    decide +kernel
  have hnumbered : Window.numberedLine 2 "y" = "2 y\n" := by
    decide +kernel
  refine ⟨?_, ?_⟩
  . intro j
    obtain ⟨count, hcount, hasked⟩ := hpatient j
    refine ⟨count, hcount, hasked.trans ?_⟩
    rw [← hmarked]
    rfl
  . intro j
    refine (hbrief (some "key") (by decide) j).trans ?_
    rw [← hnumbered]
    rfl

end Explain

end HabitLens
