import HabitLens.Advice.Journal

/-!
How computations that may fail come out: in `Except` alone, and as acts that also leave a journal.
-/

namespace HabitLens

namespace Outcome

variable {α β ε : Type}

theorem bind_eq_ok {x : Except ε α} {f : α → Except ε β} {b : β} :
    (x >>= f) = .ok b ↔ ∃ a, x = .ok a ∧ f a = .ok b := by
  cases x with
  | error e => simp [bind, Except.bind]
  | ok a => simp [bind, Except.bind]

theorem bind_eq_error {x : Except ε α} {f : α → Except ε β} {e : ε} :
    (x >>= f) = .error e ↔ x = .error e ∨ ∃ a, x = .ok a ∧ f a = .error e := by
  cases x with
  | error e => simp [bind, Except.bind]
  | ok a => simp [bind, Except.bind]

@[simp]
theorem ok_bind (a : α) (f : α → Except ε β) : ((.ok a : Except ε α) >>= f) = f a := by
  rfl

theorem map_eq_ok {x : Except ε α} {f : α → β} {b : β} :
    x.map f = .ok b ↔ ∃ a, x = .ok a ∧ f a = b := by
  cases x with
  | error e => simp [Except.map]
  | ok a => simp [Except.map]

theorem toOption_eq_some {x : Except ε α} {a : α} : x.toOption = some a ↔ x = .ok a := by
  cases x with
  | error e => simp [Except.toOption]
  | ok a => simp [Except.toOption]

theorem match_error_eq_some {x : Except ε α} {e : ε} :
    (match x with
      | .error e => some e
      | .ok _ => none)
      =
    some e ↔ x = .error e := by
  cases x with
  | error e => simp
  | ok a => simp

theorem mapM_eq_ok {f : α → Except ε β} {g : α → β} {xs : List α}
    (h : ∀ x ∈ xs, f x = .ok (g x)) : xs.mapM f = .ok (xs.map g) := by
  induction xs with
  | nil => rfl
  | cons x xs ih =>
    rw [List.mapM_cons]
    rw [h x (by simp)]
    rw [ih (fun y hy => h y (List.mem_cons_of_mem x hy))]
    rfl

theorem exists_mapM {f : α → Except ε β} {xs : List α} (h : ∀ x ∈ xs, ∃ y, f x = .ok y) :
    ∃ ys, xs.mapM f = .ok ys := by
  induction xs with
  | nil => exact ⟨[], rfl⟩
  | cons x xs ih =>
    obtain ⟨y, hy⟩ := h x (by simp)
    obtain ⟨ys, hys⟩ := ih (fun z hz => h z (List.mem_cons_of_mem x hz))
    rw [List.mapM_cons, hy, ok_bind, hys]
    exact ⟨y :: ys, rfl⟩

theorem forall_mem_of_mapM {f : α → Except ε β} {p : β → Prop} (hf : ∀ x y, f x = .ok y → p y)
    {xs : List α} {ys : List β} (h : xs.mapM f = .ok ys) : ∀ y ∈ ys, p y := by
  induction xs generalizing ys with
  | nil =>
    cases h
    simp
  | cons x xs ih =>
    rw [List.mapM_cons] at h
    obtain ⟨y, hy, h⟩ := bind_eq_ok.1 h
    obtain ⟨rest, hrest, h⟩ := bind_eq_ok.1 h
    cases h
    rw [List.forall_mem_cons]
    exact ⟨hf x y hy, ih hrest⟩

end Outcome

namespace Act

variable {α β : Type}

/-- How an act that begins with a journal ends, and the journal that it leaves. -/
def outcome (act : Act α) (j : Journal) : Except Failure α × Journal :=
  act.run.run j

@[simp]
theorem outcome_pure (a : α) (j : Journal) : outcome (pure a) j = (.ok a, j) := by
  rfl

@[simp]
theorem outcome_throw (f : Failure) (j : Journal) :
    outcome (throw f : Act α) j = (.error f, j) := by
  rfl

@[simp]
theorem outcome_ofExcept (x : Except Failure α) (j : Journal) :
    outcome (ofExcept x) j = (x, j) := by
  cases x with
  | error f => rfl
  | ok a => rfl

@[simp]
theorem outcome_liftM (x : StateM Journal α) (j : Journal) :
    outcome (liftM x) j = (.ok (x.run j).1, (x.run j).2) := by
  rfl

@[simp]
theorem outcome_caught (act : Act α) (j : Journal) :
    outcome (caught act) j = (.ok (outcome act j).1, (outcome act j).2) := by
  rfl

theorem run_bind {x : StateM Journal α} {f : α → StateM Journal β} {j j' : Journal} {a : α}
    (h : x.run j = (a, j')) : (x >>= f).run j = (f a).run j' := by
  rw [StateT.run_bind, h]
  rfl

theorem outcome_bind (act : Act α) (f : α → Act β) (j : Journal) :
    outcome (act >>= f) j
      =
    match outcome act j with
    | (.ok a, j') => outcome (f a) j'
    | (.error e, j') => (.error e, j') := by
  simp only [outcome, ExceptT.run_bind, StateT.run_bind]
  rcases act.run.run j with ⟨_ | _, _⟩ <;> rfl

theorem outcome_bind_ok {act : Act α} {f : α → Act β} {j j' : Journal} {a : α}
    (h : outcome act j = (.ok a, j')) : outcome (act >>= f) j = outcome (f a) j' := by
  rw [outcome_bind, h]

theorem outcome_bind_error {act : Act α} {f : α → Act β} {j j' : Journal} {e : Failure}
    (h : outcome act j = (.error e, j')) : outcome (act >>= f) j = (.error e, j') := by
  rw [outcome_bind, h]

theorem outcome_tryCatch (act : Act α) (handle : Failure → Act α) (j : Journal) :
    outcome (tryCatch act handle) j
      =
    match outcome act j with
    | (.ok a, j') => (.ok a, j')
    | (.error e, j') => outcome (handle e) j' := by
  simp only [outcome, ExceptT.run_tryCatch, StateT.run_bind]
  rcases act.run.run j with ⟨_ | _, _⟩ <;> rfl

theorem outcome_tryCatch_ok {act : Act α} {handle : Failure → Act α} {j j' : Journal} {a : α}
    (h : outcome act j = (.ok a, j')) : outcome (tryCatch act handle) j = (.ok a, j') := by
  rw [outcome_tryCatch, h]

theorem outcome_tryCatch_error {act : Act α} {handle : Failure → Act α} {j j' : Journal}
    {e : Failure} (h : outcome act j = (.error e, j')) :
    outcome (tryCatch act handle) j = outcome (handle e) j' := by
  rw [outcome_tryCatch, h]

end Act

end HabitLens
