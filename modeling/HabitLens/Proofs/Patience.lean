import HabitLens.Proofs.Inquiry

/-!
How often the assistant is asked about an issue, and where failures end. The patient way repeats its
question until an attempt succeeds, three times at most, and pauses longer after each failure. The
brief way asks once at most. Whatever the issue, the code and the replies are, no failure escapes.
-/

namespace HabitLens

open Act

/-- A journal that goes on from another one with some questions and some pauses. -/
structure Journal.Continues (j j' : Journal) (asked : List Question) (paused : List Nat) :
    Prop where
  questions : j'.questions = j.questions ++ asked
  replies : j'.replies = j.replies.drop asked.length
  pauses : j'.pauses = j.pauses ++ paused

namespace Journal

theorem Follows.continues {j j' : Journal} {asked : List Question} (h : j.Follows j' asked) :
    j.Continues j' asked [] := by
  constructor
  . exact h.questions
  . exact h.replies
  . rw [h.pauses, List.append_nil]

theorem Continues.trans {j₁ j₂ j₃ : Journal} {asked asked' : List Question}
    {paused paused' : List Nat} (h : j₁.Continues j₂ asked paused)
    (h' : j₂.Continues j₃ asked' paused') :
    j₁.Continues j₃ (asked ++ asked') (paused ++ paused') := by
  constructor
  . rw [h'.questions, h.questions, List.append_assoc]
  . rw [h'.replies, h.replies, List.drop_drop, List.length_append]
  . rw [h'.pauses, h.pauses, List.append_assoc]

theorem continues_pause (j : Journal) (seconds : Nat) :
    j.Continues ((pause seconds).run j).2 [] [seconds] := by
  constructor
  . exact (List.append_nil _).symm
  . rfl
  . rfl

end Journal

/-- Whether it fails or not, an act asks nothing and makes no pause. -/
def Act.Quiet {α : Type} (act : Act α) : Prop :=
  ∀ j, ∃ result, Leads (attempt act) j result []

namespace Act.Quiet

variable {α β : Type}

theorem ofExcept (x : Except Failure α) : Quiet (MonadExcept.ofExcept x) := by
  intro j
  exact ⟨x, Leads.ofExcept rfl j⟩

theorem say (line : String) : Quiet (liftM (Act.say line)) := by
  intro j
  exact ⟨.ok (), (Leads.say line j).lift⟩

theorem pure (a : α) : Quiet (Pure.pure a) := by
  intro j
  exact ⟨.ok a, Leads.pure _ j⟩

theorem bind {act : Act α} {f : α → Act β} (h : Quiet act) (hf : ∀ a, Quiet (f a)) :
    Quiet (act >>= f) := by
  intro j
  obtain ⟨result, hact⟩ := h j
  cases result with
  | error e => exact ⟨.error e, hact.bind_error⟩
  | ok a =>
    obtain ⟨j₁, hrun, hfollows⟩ := hact
    obtain ⟨result, j₂, hrun', hfollows'⟩ := hf a j₁
    exact ⟨result, j₂, (outcome_bind_ok hrun).trans hrun', hfollows.trans hfollows'⟩

end Act.Quiet

namespace Explain

theorem quiet_announce (issue : Value) : Quiet (announce issue) := by
  unfold announce
  refine (Quiet.ofExcept _).bind fun category => ?_
  refine (Quiet.ofExcept _).bind fun message => ?_
  refine (Quiet.ofExcept _).bind fun line => ?_
  apply Quiet.say

theorem quiet_patientQuestion (issue code : Value) : Quiet (patientQuestion issue code) := by
  unfold patientQuestion
  refine (quiet_announce issue).bind fun _ => ?_
  refine (Quiet.ofExcept _).bind fun line => ?_
  refine (Quiet.ofExcept _).bind fun window => ?_
  refine (Quiet.ofExcept _).bind fun category => ?_
  refine (Quiet.ofExcept _).bind fun message => ?_
  apply Quiet.pure

theorem quiet_briefQuestion (issue code : Value) : Quiet (briefQuestion issue code) := by
  unfold briefQuestion
  refine (quiet_announce issue).bind fun _ => ?_
  refine (Quiet.ofExcept _).bind fun category => ?_
  refine (Quiet.ofExcept _).bind fun message => ?_
  refine (Quiet.ofExcept _).bind fun line => ?_
  refine (Quiet.ofExcept _).bind fun window => ?_
  apply Quiet.pure

/--
A question has been asked in the attempts that were left, of which the first `k` failed. An attempt
that succeeds is the last one, and a failure is followed by a pause as long as its number.
-/
structure Persists (q : Question) (left : Nat) (j j' : Journal) (advice : Advice) (k : Nat) :
    Prop where
  le : k ≤ left
  failed : ∀ i < k, ∃ f, verdict j.replies[i]? = .error f
  journal : j.Continues j' (List.replicate (min (k + 1) left) q)
    (List.range' (maxAttempts + 1 - left) k)
  succeeded : k < left → verdict j.replies[k]? = .ok advice
  exhausted : k = left → ∃ f, verdict j.replies[left - 1]? = .error f ∧
    advice =
      { explanation := s!"Error calling Claude API after {maxAttempts} attempts: {f.message}" }

section

variable {q : Question} {j j' : Journal}

theorem Persists.of_ok {advice : Advice} {left : Nat} (h : verdict j.replies.head? = .ok advice)
    (hj : j.Continues j' [q] []) : Persists q (left + 1) j j' advice 0 := by
  rw [List.head?_eq_getElem?] at h
  constructor
  . apply Nat.zero_le
  . intro i hi
    omega
  . simpa using hj
  . intro _
    exact h
  . intro hk
    omega

theorem Persists.of_error {f : Failure} (h : verdict j.replies.head? = .error f)
    (hj : j.Continues j' [q] [maxAttempts]) :
    Persists q 1 j j'
      { explanation := s!"Error calling Claude API after {maxAttempts} attempts: {f.message}" }
      1 := by
  rw [List.head?_eq_getElem?] at h
  constructor
  . apply Nat.le_refl
  . intro i hi
    obtain rfl : i = 0 := by omega
    exact ⟨f, h⟩
  . simpa using hj
  . intro hk
    omega
  . intro _
    exact ⟨f, h, rfl⟩

theorem Persists.step {f : Failure} {advice : Advice} {left k : Nat} {j₁ : Journal}
    (h : verdict j.replies.head? = .error f) (hpos : 0 < left) (hleft : left < maxAttempts)
    (hj : j.Continues j₁ [q] [maxAttempts - left]) (hrest : Persists q left j₁ j' advice k) :
    Persists q (left + 1) j j' advice (k + 1) := by
  rw [List.head?_eq_getElem?] at h
  -- The replies to the attempts that are left are those behind the first one.
  have hreplies (i : Nat) : j₁.replies[i]? = j.replies[i + 1]? := by
    rw [hj.replies, List.getElem?_drop, Nat.add_comm]
    rfl
  constructor
  . have := hrest.le
    omega
  . intro i hi
    cases i with
    | zero => exact ⟨f, h⟩
    | succ i =>
      rw [← hreplies]
      apply hrest.failed
      omega
  . have hasked : List.replicate (min (k + 1 + 1) (left + 1)) q
        = [q] ++ List.replicate (min (k + 1) left) q := by
      rw [Nat.add_min_add_right, List.replicate_succ]
      rfl
    have hpaused : List.range' (maxAttempts + 1 - (left + 1)) (k + 1)
        = [maxAttempts - left] ++ List.range' (maxAttempts + 1 - left) k := by
      have hfirst : maxAttempts + 1 - (left + 1) = maxAttempts - left := by omega
      have hnext : maxAttempts + 1 - left = maxAttempts - left + 1 := by omega
      rw [hfirst, hnext, List.range'_succ]
      rfl
    rw [hasked, hpaused]
    exact hj.trans hrest.journal
  . intro hk
    rw [← hreplies]
    apply hrest.succeeded
    omega
  . intro hk
    have hlast : left + 1 - 1 = left - 1 + 1 := by omega
    rw [hlast, ← hreplies]
    apply hrest.exhausted
    omega

end

section

variable (q : Question) {j : Journal}

theorem run_askPatiently_of_ok {advice : Advice} (h : verdict j.replies.head? = .ok advice)
    (last : String) (left : Nat) :
    ∃ j', (askPatiently q last (left + 1)).run j = (advice, j') ∧ j.Continues j' [q] [] := by
  obtain ⟨j', hrun, hfollows⟩ := leads_verdict q j
  rw [h] at hrun
  refine ⟨j', ?_, hfollows.continues⟩
  rw [askPatiently, run_bind hrun]
  rfl

theorem run_askPatiently_of_error {f : Failure} (h : verdict j.replies.head? = .error f)
    (last : String) (left : Nat) :
    ∃ j', (askPatiently q last (left + 1)).run j = (askPatiently q f.message left).run j' ∧
      j.Continues j' [q] [maxAttempts - left] := by
  obtain ⟨j₁, hrun, hfollows⟩ := leads_verdict q j
  rw [h] at hrun
  obtain ⟨j₂, hsay, hfollows'⟩ :=
    Leads.say s!"API call attempt {maxAttempts - left} failed: {f.message}" j₁
  refine ⟨((pause (maxAttempts - left)).run j₂).2, ?_, ?_⟩
  . rw [askPatiently, run_bind hrun]
    dsimp only
    rw [run_bind hsay]
    rfl
  . exact (hfollows.trans hfollows').continues.trans (j₂.continues_pause _)

theorem run_askPatiently {left : Nat} (hpos : 0 < left) (hleft : left ≤ maxAttempts)
    (last : String) (j : Journal) :
    ∃ k advice j', (askPatiently q last left).run j = (advice, j') ∧
      Persists q left j j' advice k := by
  induction left generalizing last j with
  | zero => omega
  | succ left ih =>
    cases h : verdict j.replies.head? with
    | ok advice =>
      obtain ⟨j', hrun, hj⟩ := run_askPatiently_of_ok q h last left
      exact ⟨0, advice, j', hrun, .of_ok h hj⟩
    | error f =>
      obtain ⟨j₁, hrun, hj⟩ := run_askPatiently_of_error q h last left
      rw [hrun]
      cases Nat.eq_zero_or_pos left with
      | inl hzero =>
        -- No attempt is left, so this failure is the one that is told.
        subst hzero
        obtain ⟨j', hsay, hfollows⟩ :=
          Leads.say s!"Error calling Claude API after {maxAttempts} attempts: {f.message}" j₁
        refine ⟨1, _, j', ?_, .of_error h (hj.trans hfollows.continues)⟩
        rw [askPatiently, run_bind hsay]
        rfl
      | inr hpos =>
        obtain ⟨k, advice, j', hrest, hpersists⟩ := ih hpos (by omega) f.message j₁
        exact ⟨k + 1, advice, j', hrest, .step h hpos hleft hj hpersists⟩

end

/-
The two ways once more, as acts that may fail. Nothing but the handlers that are spelled out here
keeps a failure from escaping, and a handler may fail as well.
-/
namespace Guarded

def askPatiently (q : Question) (last : String) : Nat → Act Advice
  | 0 => do
    let message := s!"Error calling Claude API after {maxAttempts} attempts: {last}"
    say message
    failing message
  | left + 1 => do
    let result ← tryCatch (Except.ok <$> patientAttempt q) fun f => do
      let number := maxAttempts - left
      say s!"API call attempt {number} failed: {f.message}"
      pause number
      return .error f
    match result with
    | .ok advice => return advice
    | .error f => askPatiently q f.message left

def patient (hasAssistant : Bool) (issue code : Value) : Act Advice :=
  if !hasAssistant then do
    say "Anthropic client not available. Cannot generate explanation."
    failing "AI explanations unavailable. Please set up the Anthropic API key."
  else
    tryCatch
      (do
        let q ← patientQuestion issue code
        tryCatch (askPatiently q "None" maxAttempts) fun f => do
          say s!"Error calling Claude API: {f.message}"
          failing s!"Failed to generate explanation: {f.message}")
      fun f => unprepared f

def brief (hasAssistant : Bool) (apiKey : Option String) (issue code : Value) : Act Advice :=
  if !hasAssistant then do
    say "Anthropic client not available. Cannot generate explanation."
    failing <|
      "AI explanations unavailable. Please set up the Anthropic API key in Vercel environment " ++
        "variables."
  else if (apiKey.getD "").isEmpty then do
    say "API key missing when generating explanation"
    failing "API key is missing. Please set the ANTHROPIC_API_KEY environment variable in Vercel."
  else
    tryCatch
      (do
        let q ← briefQuestion issue code
        tryCatch (briefAttempt q) fun f => do
          say s!"Error calling Claude API: {f.message}"
          failing s!"Error calling Claude API: {f.message}")
      fun f => unprepared f

theorem outcome_askPatiently (q : Question) (last : String) (left : Nat) (j : Journal) :
    outcome (askPatiently q last left) j
      =
    (.ok ((Explain.askPatiently q last left).run j).1,
      ((Explain.askPatiently q last left).run j).2) := by
  induction left generalizing last j with
  | zero => rfl
  | succ left ih =>
    rw [askPatiently, Explain.askPatiently]
    rcases h : (attempt (patientAttempt q)).run j with ⟨result, j₁⟩
    rw [run_bind h]
    have hmap : outcome (Except.ok <$> patientAttempt q : Act (Except Failure Advice)) j
        = (result.map .ok, j₁) := by
      rw [map_eq_pure_bind, outcome_bind]
      rw [show outcome (patientAttempt q) j = (result, j₁) from h]
      cases result <;> rfl
    cases result with
    | ok advice =>
      rw [outcome_bind_ok (outcome_tryCatch_ok hmap)]
      rfl
    | error f =>
      rw [outcome_bind, outcome_tryCatch_error hmap]
      apply ih

theorem outcome_patient (hasAssistant : Bool) (issue code : Value) (j : Journal) :
    outcome (patient hasAssistant issue code) j
      =
    (.ok ((Explain.patient hasAssistant issue code).run j).1,
      ((Explain.patient hasAssistant issue code).run j).2) := by
  cases hasAssistant with
  | false => rfl
  | true =>
    unfold patient Explain.patient
    simp only [Bool.not_true, Bool.false_eq_true, if_false]
    rcases h : (attempt (patientQuestion issue code)).run j with ⟨result, j₁⟩
    rw [run_bind h]
    cases result with
    | error f =>
      rw [outcome_tryCatch_error (outcome_bind_error h)]
      rfl
    | ok q =>
      apply outcome_tryCatch_ok
      rw [outcome_bind_ok h]
      apply outcome_tryCatch_ok
      apply outcome_askPatiently

theorem outcome_brief (hasAssistant : Bool) (apiKey : Option String) (issue code : Value)
    (j : Journal) :
    outcome (brief hasAssistant apiKey issue code) j
      =
    (.ok ((Explain.brief hasAssistant apiKey issue code).run j).1,
      ((Explain.brief hasAssistant apiKey issue code).run j).2) := by
  cases hasAssistant with
  | false => rfl
  | true =>
    unfold brief Explain.brief
    simp only [Bool.not_true, Bool.false_eq_true, if_false]
    cases (apiKey.getD "").isEmpty with
    | true => rfl
    | false =>
      simp only [Bool.false_eq_true, if_false]
      rcases h : (attempt (briefQuestion issue code)).run j with ⟨result, j₁⟩
      rw [run_bind h]
      cases result with
      | error f =>
        rw [outcome_tryCatch_error (outcome_bind_error h)]
        rfl
      | ok q =>
        apply outcome_tryCatch_ok
        rw [outcome_bind_ok h]
        dsimp only
        rcases h' : (attempt (briefAttempt q)).run j₁ with ⟨result, j₂⟩
        rw [run_bind h']
        cases result with
        | error f =>
          rw [outcome_tryCatch_error h']
          rfl
        | ok advice =>
          rw [outcome_tryCatch_ok h']
          rfl

end Guarded

theorem Persists.of_follows {q : Question} {left k : Nat} {j j₁ j' : Journal} {advice : Advice}
    (hj : j.Follows j₁ []) (h : Persists q left j₁ j' advice k) :
    Persists q left j j' advice k := by
  have hreplies : j₁.replies = j.replies := hj.replies
  constructor
  . exact h.le
  . rw [← hreplies]
    exact h.failed
  . exact hj.continues.trans h.journal
  . rw [← hreplies]
    exact h.succeeded
  . rw [← hreplies]
    exact h.exhausted

theorem persists_patient {issue code : Value} {j : Journal} {q : Question}
    (h : (outcome (patientQuestion issue code) j).1 = .ok q) :
    ∃ k, Persists q maxAttempts j ((patient true issue code).run j).2
      ((patient true issue code).run j).1 k := by
  obtain ⟨result, j₁, hrun, hfollows⟩ := quiet_patientQuestion issue code j
  have hresult : result = .ok q := (congrArg Prod.fst hrun).symm.trans h
  rw [hresult] at hrun
  obtain ⟨k, advice, j', hask, hpersists⟩ :=
    run_askPatiently q (by decide) (Nat.le_refl maxAttempts) "None" j₁
  have hpatient : (patient true issue code).run j = (advice, j') := by
    unfold patient
    simp only [Bool.not_true, Bool.false_eq_true, if_false]
    rw [run_bind hrun]
    exact hask
  rw [hpatient]
  exact ⟨k, hpersists.of_follows hfollows⟩

theorem exists_leads_patient_of_error {issue code : Value} {j : Journal} {f : Failure}
    (h : (outcome (patientQuestion issue code) j).1 = .error f) (hasAssistant : Bool) :
    ∃ advice, Leads (patient hasAssistant issue code) j advice [] := by
  cases hasAssistant with
  | false => exact ⟨_, (Leads.say _ j).bind fun j _ => Leads.pure _ j⟩
  | true =>
    obtain ⟨result, j₁, hrun, hfollows⟩ := quiet_patientQuestion issue code j
    have hresult : result = .error f := (congrArg Prod.fst hrun).symm.trans h
    rw [hresult] at hrun
    exact ⟨_, leads_patient_of_error ⟨j₁, hrun, hfollows⟩⟩

theorem exists_leads_brief_of_any (hasAssistant : Bool) (apiKey : Option String)
    (issue code : Value) (j : Journal) :
    ∃ advice, ∃ asked : List Question, asked.length ≤ 1 ∧
      Leads (brief hasAssistant apiKey issue code) j advice asked := by
  cases hasAssistant with
  | false => exact ⟨_, [], by simp, (Leads.say _ j).bind fun j _ => Leads.pure _ j⟩
  | true =>
    by_cases hkey : apiKey.getD "" = ""
    . exact ⟨_, [], by simp, _, run_brief_of_no_key hkey issue code j, j.follows_say _⟩
    . obtain ⟨result, hquestion⟩ := quiet_briefQuestion issue code j
      cases result with
      | error f => exact ⟨_, [], by simp, leads_brief_of_error hkey hquestion⟩
      | ok q =>
        obtain ⟨advice, hbrief⟩ := exists_leads_brief_of_question hkey hquestion
        exact ⟨advice, [q], by simp, hbrief⟩

/--
Whatever the issue, the code and the assistant are, both ways come to advice, and no failure escapes
from them. The patient way asks nothing if its question cannot be put together. Otherwise it repeats
the question until an attempt succeeds, three times at most, and the failures are followed by pauses
of one, two and three. If all attempts fail, the last failure is told. The brief way asks once at
most and makes no pause.
-/
theorem persists_and_contains_failures (hasAssistant : Bool) (apiKey : Option String)
    (issue code : Value) (j : Journal) :
    (∃ advice j',
      outcome (Guarded.patient hasAssistant issue code) j = (.ok advice, j') ∧
      (patient hasAssistant issue code).run j = (advice, j') ∧
      (hasAssistant = false → j.Continues j' [] []) ∧
      (∀ f, (outcome (patientQuestion issue code) j).1 = .error f → j.Continues j' [] []) ∧
      (∀ q, hasAssistant = true → (outcome (patientQuestion issue code) j).1 = .ok q →
        ∃ k ≤ 3,
          (∀ i < k, ∃ f, verdict j.replies[i]? = .error f) ∧
          j.Continues j' (List.replicate (min (k + 1) 3) q) (List.range' 1 k) ∧
          (k < 3 → verdict j.replies[k]? = .ok advice) ∧
          (k = 3 → ∃ f, verdict j.replies[2]? = .error f ∧
            advice =
              { explanation := "Error calling Claude API after 3 attempts: " ++ f.message }))) ∧
    (∃ advice j', ∃ asked : List Question,
      outcome (Guarded.brief hasAssistant apiKey issue code) j = (.ok advice, j') ∧
      (brief hasAssistant apiKey issue code).run j = (advice, j') ∧
      asked.length ≤ 1 ∧ j.Continues j' asked []) := by
  constructor
  . refine ⟨_, _, Guarded.outcome_patient hasAssistant issue code j, rfl, ?_, ?_, ?_⟩
    . intro h
      subst h
      exact (j.follows_say _).continues
    . intro f h
      obtain ⟨advice, j', hrun, hfollows⟩ := exists_leads_patient_of_error h hasAssistant
      rw [hrun]
      exact hfollows.continues
    . intro q hassistant h
      subst hassistant
      obtain ⟨k, hpersists⟩ := persists_patient h
      exact ⟨k, hpersists.le, hpersists.failed, hpersists.journal, hpersists.succeeded,
        hpersists.exhausted⟩
  . obtain ⟨advice, asked, hasked, j', hrun, hfollows⟩ :=
      exists_leads_brief_of_any hasAssistant apiKey issue code j
    have hguarded := Guarded.outcome_brief hasAssistant apiKey issue code j
    rw [hrun] at hguarded
    exact ⟨advice, j', asked, hguarded, hrun, hasked, hfollows.continues⟩

end Explain

end HabitLens
