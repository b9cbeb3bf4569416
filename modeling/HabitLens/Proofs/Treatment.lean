import HabitLens.Proofs.Entry

/-!
How the service goes through its items, with an assistant at hand. The deployments differ in what
they log, but both treat one item after the other, and the journal that one item leaves is the
journal that the next one finds.
-/

namespace HabitLens.Service

open Act
open Review

def Parts.Explains (p : Parts) : Prop :=
  ∀ item lines j, ∃ advice j', outcome (p.explain item lines) j = (.ok advice, j')

theorem Parts.explains_standard (d : Deployment) (run : LinterRun) (hasAssistant : Bool)
    (apiKey : Option String) : (standard d run hasAssistant apiKey).Explains := by
  intro item lines j
  cases d with
  | development => exact ⟨_, _, outcome_liftM (Explain.patient hasAssistant item lines) j⟩
  | hosted => exact ⟨_, _, outcome_liftM (Explain.brief hasAssistant apiKey item lines) j⟩

/-- An item is passed over if it is about the service, and gets the advice on it otherwise. -/
inductive Treated (p : Parts) (lines : Value) : ExplainedEntry → Journal → Journal → Prop where
  | skipped {e : Entry} {j j' : Journal} (hsystem : e.isSystem = true) (h : j.Follows j' []) :
      Treated p lines { entry := e } j j'
  | explained {e : Entry} {a : Advice} {j j₁ j₂ j' : Journal} (hsystem : e.isSystem = false)
      (hbefore : j.Follows j₁ []) (h : outcome (p.explain e.toValue lines) j₁ = (.ok a, j₂))
      (hafter : j₂.Follows j' []) : Treated p lines { entry := e, advice := some a } j j'

inductive TreatedAll (p : Parts) (lines : Value) :
    List ExplainedEntry → Journal → Journal → Prop where
  | nil (j : Journal) : TreatedAll p lines [] j j
  | cons {x : ExplainedEntry} {xs : List ExplainedEntry} {j j₁ j' : Journal}
      (hx : Treated p lines x j j₁) (hxs : TreatedAll p lines xs j₁ j') :
      TreatedAll p lines (x :: xs) j j'

/--
How the explanations go: items are treated in turn, up to the first one whose explanation fails. This
one and those behind it stay as they are.
-/
inductive Course (p : Parts) (lines : Value) :
    List ExplainedEntry → Option Failure → Journal → Journal → Prop where
  | done (j : Journal) : Course p lines [] none j j
  | treated {x : ExplainedEntry} {xs : List ExplainedEntry} {failure : Option Failure}
      {j j₁ j' : Journal} (hx : Treated p lines x j j₁) (hxs : Course p lines xs failure j₁ j') :
      Course p lines (x :: xs) failure j j'
  | failed {e : Entry} {es : List Entry} {f : Failure} {j j₁ j' : Journal}
      (hsystem : e.isSystem = false) (hbefore : j.Follows j₁ [])
      (h : outcome (p.explain e.toValue lines) j₁ = (.error f, j')) :
      Course p lines (ExplainedEntry.bare (e :: es)) (some f) j j'

namespace Course

variable {p : Parts} {lines : Value} {xs : List ExplainedEntry} {failure : Option Failure}
  {j j' : Journal}

theorem failure_eq_none (h : Course p lines xs failure j j') (hp : p.Explains) :
    failure = none := by
  induction h with
  | done j => rfl
  | treated _ _ ih => exact ih
  | @failed e _ _ _ j₁ _ _ _ hfails =>
    obtain ⟨advice, j', hexplain⟩ := hp e.toValue lines j₁
    rw [hexplain] at hfails
    cases hfails

theorem treatedAll (h : Course p lines xs none j j') : TreatedAll p lines xs j j' := by
  generalize hnone : none = failure at h
  induction h with
  | done j => exact .nil j
  | treated hx _ ih => exact .cons hx (ih hnone)
  | failed => cases hnone

end Course

/-- Without an assistant items stay as they are. -/
inductive Handled (p : Parts) (lines : Value) (xs : List ExplainedEntry) (j j' : Journal) :
    Prop where
  | treated {j₁ : Journal} (hassistant : p.hasAssistant = true) (hbefore : j.Follows j₁ [])
      (h : TreatedAll p lines xs j₁ j')
  | bare (hassistant : p.hasAssistant = false) (h : ∀ x ∈ xs, x.advice = none)

theorem Handled.after {p : Parts} {lines : Value} {xs : List ExplainedEntry} {j j₁ j' : Journal}
    (h : Handled p lines xs j₁ j') (hbefore : j.Follows j₁ []) : Handled p lines xs j j' := by
  cases h with
  | treated hassistant hfollows h => exact .treated hassistant (hbefore.trans hfollows) h
  | bare hassistant h => exact .bare hassistant h

theorem Handled.advice_eq_none {p : Parts} {lines : Value} {xs : List ExplainedEntry}
    {j j' : Journal} (h : Handled p lines xs j j') (hassistant : p.hasAssistant = false) :
    ∀ x ∈ xs, x.advice = none := by
  cases h with
  | treated htrue _ _ =>
    rw [hassistant] at htrue
    cases htrue
  | bare _ h => exact h

namespace Development

theorem outcome_explainItem_entry {p : Parts} (hp : p.Explains) (lines : Value)
    (number count : Nat) (e : Entry) (j : Journal) :
    ∃ x j', x.entry = e ∧ Treated p lines x j j' ∧
      outcome (explainItem p lines number count e.toValue) j = (.ok x.toValue, j') := by
  unfold explainItem
  rw [e.isSystem_toValue]
  rw [outcome_bind_ok (outcome_ofExcept _ _)]
  cases hsystem : e.isSystem with
  | true =>
    rw [if_pos rfl]
    rw [e.fieldOr_message]
    rw [outcome_bind_ok (outcome_ofExcept _ _)]
    rw [outcome_bind_ok (outcome_liftM _ _)]
    rw [← ExplainedEntry.toValue_bare]
    exact ⟨_, _, rfl, .skipped hsystem (j.follows_say _), rfl⟩
  | false =>
    rw [if_neg Bool.false_ne_true]
    rw [outcome_bind_ok (outcome_liftM _ _)]
    obtain ⟨advice, j₂, hadvice⟩ := hp e.toValue lines
      (say s!"Generating explanation for issue {number}/{count}" |>.run j).2
    rw [outcome_bind_ok hadvice]
    rw [ExplainedEntry.advised_toValue]
    rw [outcome_bind_ok (outcome_ofExcept _ _)]
    rw [outcome_bind_ok (outcome_liftM _ _)]
    exact ⟨_, _, rfl, .explained hsystem (j.follows_say _) hadvice (j₂.follows_say _), rfl⟩

theorem outcome_explainFrom_entries {p : Parts} (hp : p.Explains) (lines : Value)
    (count number : Nat) (es : List Entry) (j : Journal) :
    ∃ xs j', xs.map (·.entry) = es ∧ TreatedAll p lines xs j j' ∧
      outcome (explainFrom p lines count number (es.map Entry.toValue)) j
        =
      (.ok (xs.map ExplainedEntry.toValue), j') := by
  induction es generalizing number j with
  | nil => exact ⟨[], j, rfl, .nil j, rfl⟩
  | cons e es ih =>
    obtain ⟨x, j₁, hentry, hx, hitem⟩ := outcome_explainItem_entry hp lines number count e j
    obtain ⟨xs, j₂, hentries, hxs, hitems⟩ := ih (number + 1) j₁
    refine ⟨x :: xs, j₂, ?_, .cons hx hxs, ?_⟩
    . rw [List.map_cons, hentry, hentries]
    . rw [List.map_cons]
      unfold explainFrom
      rw [outcome_bind_ok hitem]
      rw [outcome_bind_ok hitems]
      rfl

theorem outcome_explainAll_entries {p : Parts} (hp : p.Explains) (lines : Value) (es : List Entry)
    (j : Journal) :
    ∃ xs j', xs.map (·.entry) = es ∧ Handled p lines xs j j' ∧
      outcome (explainAll p lines (es.map Entry.toValue)) j
        =
      (.ok (xs.map ExplainedEntry.toValue), j') := by
  unfold explainAll
  cases hassistant : p.hasAssistant with
  | true =>
    rw [if_pos rfl]
    rw [outcome_bind_ok (outcome_liftM _ _)]
    obtain ⟨xs, j', hentries, hxs, hitems⟩ := outcome_explainFrom_entries hp lines
      (es.map Entry.toValue).length 1 es
      (say "Anthropic client is available, generating explanations..." |>.run j).2
    exact ⟨xs, j', hentries, .treated hassistant (j.follows_say _) hxs, hitems⟩
  | false =>
    rw [if_neg Bool.false_ne_true]
    rw [outcome_bind_ok (outcome_liftM _ _)]
    rw [← ExplainedEntry.map_toValue_bare]
    refine ⟨_, _, ExplainedEntry.map_entry_bare es, .bare hassistant ?_, rfl⟩
    intro x hx
    exact ExplainedEntry.advice_of_mem_bare hx

end Development

namespace Hosted

theorem outcome_explainItem_entry (p : Parts) (lines : Value) (e : Entry) (j : Journal) :
    (∃ x j', x.entry = e ∧ Treated p lines x j j' ∧
      outcome (explainItem p lines e.toValue) j = (.ok x.toValue, j')) ∨
    ∃ f j₁ j', e.isSystem = false ∧ j.Follows j₁ [] ∧
      outcome (p.explain e.toValue lines) j₁ = (.error f, j') ∧
      outcome (explainItem p lines e.toValue) j = (.error f, j') := by
  unfold explainItem
  rw [e.isSystem_toValue]
  rw [outcome_bind_ok (outcome_ofExcept _ _)]
  cases hsystem : e.isSystem with
  | true =>
    rw [if_pos rfl]
    rw [← ExplainedEntry.toValue_bare]
    exact .inl ⟨_, _, rfl, .skipped hsystem (.refl j), rfl⟩
  | false =>
    rw [if_neg Bool.false_ne_true]
    rw [e.fieldOr_message]
    rw [outcome_bind_ok (outcome_ofExcept _ _)]
    rw [outcome_bind_ok (outcome_liftM _ _)]
    have hbefore := j.follows_say s!"Generating explanation for issue: {e.message.display}"
    rcases hexplain : outcome (p.explain e.toValue lines)
      (say s!"Generating explanation for issue: {e.message.display}" |>.run j).2 with ⟨_ | _, j₂⟩
    . rw [outcome_bind_error hexplain]
      exact .inr ⟨_, _, _, rfl, hbefore, hexplain, rfl⟩
    . rw [outcome_bind_ok hexplain]
      rw [outcome_bind_ok (outcome_liftM _ _)]
      rw [ExplainedEntry.advised_toValue]
      rw [outcome_ofExcept]
      exact .inl ⟨_, _, rfl, .explained hsystem hbefore hexplain (j₂.follows_say _), rfl⟩

theorem run_explainItems_course (p : Parts) (lines : Value) (es : List Entry) (j : Journal) :
    ∃ xs failure j', xs.map (·.entry) = es ∧ Course p lines xs failure j j' ∧
      (explainItems p lines (es.map Entry.toValue)).run j
        =
      ((xs.map ExplainedEntry.toValue, failure), j') := by
  induction es generalizing j with
  | nil => exact ⟨[], none, j, rfl, .done j, rfl⟩
  | cons e es ih =>
    rw [List.map_cons]
    unfold explainItems
    rcases outcome_explainItem_entry p lines e j with
      ⟨x, j₁, hentry, hx, hitem⟩ | ⟨f, j₁, j', hsystem, hbefore, hexplain, hitem⟩
    . obtain ⟨xs, failure, j', hentries, hxs, hitems⟩ := ih j₁
      refine ⟨x :: xs, failure, j', ?_, .treated hx hxs, ?_⟩
      . rw [List.map_cons, hentry, hentries]
      . refine (run_bind hitem).trans ?_
        dsimp only
        rw [run_bind hitems]
        rfl
    . refine ⟨_, some f, j', ExplainedEntry.map_entry_bare (e :: es), ?_, ?_⟩
      . exact .failed hsystem hbefore hexplain
      . refine (run_bind hitem).trans ?_
        rw [ExplainedEntry.map_toValue_bare]
        rfl

/-- The item that tells that an explanation failed. It has its own explanation. -/
def notice (f : Failure) : ExplainedEntry :=
  { entry := .ofRemark
      { line := some 0
        message := s!"Error generating explanations: {f.message}"
        category := .syntaxError
        origin := Origin.system.name }
    advice := some { explanation := s!"Failed to generate explanations: {f.message}" } }

/-- What comes of explanations. A failure is told of if it can be answered, and goes on otherwise. -/
def told (xs : List ExplainedEntry) : Option Failure → Except Failure (List ExplainedEntry)
  | none => .ok xs
  | some f => if isAnswerable f then .ok (xs ++ [notice f]) else .error f

theorem told_of_answerable {f : Failure} (h : isAnswerable f = true) (xs : List ExplainedEntry) :
    told xs (some f) = .ok (xs ++ [notice f]) :=
  if_pos h

theorem told_of_not_answerable {f : Failure} (h : isAnswerable f = false)
    (xs : List ExplainedEntry) : told xs (some f) = .error f :=
  if_neg (ne_true_of_eq_false h)

theorem outcome_explainAll_course {p : Parts} (hassistant : p.hasAssistant = true) (lines : Value)
    (es : List Entry) (j : Journal) :
    ∃ xs failure j₁ j₂ j', xs.map (·.entry) = es ∧ j.Follows j₁ [] ∧
      Course p lines xs failure j₁ j₂ ∧ (failure = none → j₂ = j') ∧
      outcome (explainAll p lines (es.map Entry.toValue)) j
        =
      ((told xs failure).map (List.map ExplainedEntry.toValue), j') := by
  obtain ⟨xs, failure, j₂, hentries, hcourse, hitems⟩ := run_explainItems_course p lines es
    (say "Anthropic client is available, generating explanations..." |>.run j).2
  unfold explainAll
  rw [if_pos hassistant]
  rw [outcome_bind_ok (outcome_liftM _ _)]
  rw [outcome_bind_ok ((outcome_liftM _ _).trans (by rw [hitems]))]
  cases failure with
  | none => exact ⟨xs, none, _, j₂, j₂, hentries, j.follows_say _, hcourse, fun _ => rfl, rfl⟩
  | some f =>
    dsimp only
    cases hf : isAnswerable f with
    | true =>
      refine ⟨xs, some f, _, j₂, (say s!"Error generating explanations: {f.message}" |>.run j₂).2,
        hentries, j.follows_say _, hcourse, nofun, ?_⟩
      rw [told_of_answerable hf]
      dsimp only [Except.map]
      rw [List.map_append]
      rfl
    | false =>
      refine ⟨xs, some f, _, j₂, j₂, hentries, j.follows_say _, hcourse, nofun, ?_⟩
      rw [told_of_not_answerable hf]
      rfl

theorem outcome_explainAll_entries {p : Parts} (hp : p.Explains) (lines : Value) (es : List Entry)
    (j : Journal) :
    ∃ xs j', xs.map (·.entry) = es ∧ Handled p lines xs j j' ∧
      outcome (explainAll p lines (es.map Entry.toValue)) j
        =
      (.ok (xs.map ExplainedEntry.toValue), j') := by
  cases hassistant : p.hasAssistant with
  | true =>
    obtain ⟨xs, failure, j₁, j₂, j', hentries, hbefore, hcourse, hafter, houtcome⟩ :=
      outcome_explainAll_course hassistant lines es j
    obtain rfl := hcourse.failure_eq_none hp
    obtain rfl := hafter rfl
    exact ⟨xs, j₂, hentries, .treated hassistant hbefore hcourse.treatedAll, houtcome⟩
  | false =>
    unfold explainAll
    rw [if_neg (by rw [hassistant]; exact Bool.false_ne_true)]
    rw [← ExplainedEntry.map_toValue_bare]
    refine ⟨_, _, ExplainedEntry.map_entry_bare es, .bare hassistant ?_, rfl⟩
    intro x hx
    exact ExplainedEntry.advice_of_mem_bare hx

end Hosted

end HabitLens.Service
