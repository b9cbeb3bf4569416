import HabitLens.Proofs.Inquiry
import HabitLens.Service.Environment

/-!
The key of the assistant, which is looked for twice: when the service is set up, and before an issue
is explained. The first search knows a second name for the key and the other one does not.
-/

namespace HabitLens.Service

open Act

theorem Setup.isSome_assistantKey? {d : Deployment} {env : Environment} {outside : Outside}
    (h : (run d env outside).hasAssistant = true) : env.assistantKey?.isSome = true := by
  unfold run at h
  cases hkey : env.assistantKey? with
  | none =>
    rw [hkey] at h
    cases h
  | some key => rfl

theorem Environment.given?_eq_none {env : Environment} {name : String} :
    env.given? name = none ↔ (env.get? name).getD "" = "" := by
  unfold given?
  cases env.get? name with
  | none => simp
  | some value => simp [Option.filter]

/--
An assistant that was set up in an environment is asked once about an issue on a line if the key has
its first name there. If it has the second name only, the assistant is not asked, and the advice is
to set the key.
-/
theorem Setup.asks_with_first_key {env : Environment} {outside : Outside}
    (hsetup : (Setup.run .hosted env outside).hasAssistant = true)
    {issue : Table Value} {line : Int} (hline : issue.get? "line" = some (.int line))
    (code : List Value) (j : Journal) :
    let explained := (Explain.brief (Setup.run .hosted env outside).hasAssistant
      (env.get? "ANTHROPIC_API_KEY") (.dict issue) (.list code)).run j
    ((env.given? "ANTHROPIC_API_KEY").isSome →
      explained.2.questions = j.questions ++ [inquiry .hosted issue line code]) ∧
    (env.given? "ANTHROPIC_API_KEY" = none →
      (env.given? "VERCEL_ANTHROPIC_API_KEY").isSome ∧
      explained.2.questions = j.questions ∧
      explained.1 =
        { explanation :=
            "API key is missing. Please set the ANTHROPIC_API_KEY environment variable in Vercel." }) := by
  intro explained
  have hexplained : explained = (Explain.brief true (env.get? "ANTHROPIC_API_KEY") (.dict issue)
      (.list code)).run j := by
    simp only [explained, hsetup]
  rw [hexplained]
  refine ⟨?_, ?_⟩
  . intro hgiven
    have hkey : (env.get? "ANTHROPIC_API_KEY").getD "" ≠ "" := by
      intro hempty
      rw [Environment.given?_eq_none.2 hempty] at hgiven
      cases hgiven
    obtain ⟨advice, j', hrun, hfollows⟩ := Explain.exists_leads_brief hkey hline code j
    rw [hrun]
    exact hfollows.questions
  . intro hgiven
    rw [Explain.run_brief_of_no_key (Environment.given?_eq_none.1 hgiven)]
    refine ⟨?_, rfl, rfl⟩
    have hsome := Setup.isSome_assistantKey? hsetup
    unfold Environment.assistantKey? at hsome
    rw [show env.given? Environment.keyName = none from hgiven] at hsome
    exact hsome

/-- Where the key has both names, the first one counts. -/
theorem Setup.asks_with_both_keys :
    let env : Environment :=
      [("VERCEL_ANTHROPIC_API_KEY", "other"), ("ANTHROPIC_API_KEY", "key")]
    let issue : Table Value := [("line", .int 2), ("message", .str "broken")]
    let code : List Value := [.str "x = 1", .str "y ="]
    (Setup.run .hosted env {}).hasAssistant = true ∧
    ((Explain.brief (Setup.run .hosted env {}).hasAssistant (env.get? "ANTHROPIC_API_KEY")
      (.dict issue) (.list code)).run {}).2.questions = [inquiry .hosted issue 2 code] := by
  intro env issue code
  have hsetup : (Setup.run .hosted env {}).hasAssistant = true := by
    rfl
  have hline : issue.get? "line" = some (.int 2) := by
    rfl
  exact ⟨hsetup, (Setup.asks_with_first_key hsetup hline code {}).1 rfl⟩

/-- With the second name alone the assistant is set up but not asked. -/
theorem Setup.not_asked_with_second_key :
    let env : Environment := [("VERCEL_ANTHROPIC_API_KEY", "key")]
    let issue : Table Value := [("line", .int 2), ("message", .str "broken")]
    let code : List Value := [.str "x = 1", .str "y ="]
    let explained := (Explain.brief (Setup.run .hosted env {}).hasAssistant
      (env.get? "ANTHROPIC_API_KEY") (.dict issue) (.list code)).run {}
    (Setup.run .hosted env {}).hasAssistant = true ∧ explained.2.questions = [] ∧
      explained.2.questions ≠ [inquiry .hosted issue 2 code] := by
  intro env issue code explained
  have hasked : explained.2.questions = [] := by
    rfl
  refine ⟨rfl, hasked, ?_⟩
  rw [hasked]
  exact (List.cons_ne_nil _ _).symm

end HabitLens.Service
