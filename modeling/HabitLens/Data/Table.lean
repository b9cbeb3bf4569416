/-!
Tables from names to values, in the order in which the names first came in.
-/

namespace HabitLens

abbrev Table (α : Type) : Type := List (String × α)

namespace Table

def get? : Table α → String → Option α
  | [], _ => none
  | (k, v) :: t, key => if k = key then some v else get? t key

def contains (t : Table α) (key : String) : Bool :=
  (t.get? key).isSome

/-- Sets the value of a name. A name that is already there keeps its place. -/
def set : Table α → String → α → Table α
  | [], key, value => [(key, value)]
  | (k, v) :: t, key, value => if k = key then (k, value) :: t else (k, v) :: set t key value

def modify (t : Table α) (key : String) (f : α → α) : Table α :=
  match t.get? key with
  | some v => t.set key (f v)
  | none => t

def keys (t : Table α) : List String :=
  t.map (·.1)

def ofList (entries : List (String × α)) : Table α :=
  entries.foldl (fun t (k, v) => t.set k v) []

@[simp]
theorem get?_set (t : Table α) (key : String) (value : α) (other : String) :
    (t.set key value).get? other = if key = other then some value else t.get? other := by
  induction t with
  | nil => simp [set, get?]
  | cons entry t ih =>
    obtain ⟨k, v⟩ := entry
    by_cases hkey : k = key
    . subst hkey
      by_cases hother : k = other
      . simp [set, get?, hother]
      . simp [set, get?, hother]
    . rw [set, if_neg hkey]
      by_cases hother : k = other
      . subst hother
        simp [get?, Ne.symm hkey]
      . rw [get?, get?, if_neg hother, if_neg hother]
        exact ih

theorem get?_append (t u : Table α) (key : String) :
    Table.get? (t ++ u) key = (t.get? key).or (u.get? key) := by
  induction t with
  | nil => rfl
  | cons entry t ih =>
    rw [List.cons_append]
    by_cases h : entry.1 = key
    . simp [get?, h]
    . simp only [get?, h, if_false]
      exact ih

theorem get?_eq_none_iff {t : Table α} {key : String} :
    t.get? key = none ↔ ∀ entry ∈ t, entry.1 ≠ key := by
  induction t with
  | nil => simp [get?]
  | cons entry t ih =>
    by_cases h : entry.1 = key
    . simp [get?, h]
    . simp only [get?, h, if_false, List.forall_mem_cons, ne_eq, not_false_eq_true, true_and]
      exact ih

theorem set_of_get?_eq_none {t : Table α} {key : String} (h : t.get? key = none) (value : α) :
    t.set key value = t ++ [(key, value)] := by
  induction t with
  | nil => rfl
  | cons entry t ih =>
    rw [get?_eq_none_iff, List.forall_mem_cons] at h
    rw [set, if_neg h.1, List.cons_append]
    rw [ih (get?_eq_none_iff.2 h.2)]

theorem mem_of_get? {t : Table α} {key : String} {value : α} (h : t.get? key = some value) :
    (key, value) ∈ t := by
  induction t with
  | nil => cases h
  | cons entry t ih =>
    obtain ⟨k, v⟩ := entry
    unfold get? at h
    split at h
    . next heq =>
      obtain rfl := Option.some.inj h
      rw [heq]
      apply List.mem_cons_self
    . exact List.mem_cons_of_mem _ (ih h)

theorem keys_set (t : Table α) (key : String) (value : α) :
    (t.set key value).keys = if key ∈ t.keys then t.keys else t.keys ++ [key] := by
  unfold keys
  induction t with
  | nil => rfl
  | cons entry t ih =>
    obtain ⟨k, v⟩ := entry
    by_cases h : k = key
    . simp [set, h]
    . have h' : key ≠ k := fun heq => h heq.symm
      by_cases hmem : key ∈ t.map (·.1)
      . rw [if_pos hmem] at ih
        simp [set, h, ih, hmem]
      . rw [if_neg hmem] at ih
        simp [set, h, h', ih, hmem]

theorem nodup_keys_set {t : Table α} (h : t.keys.Nodup) (key : String) (value : α) :
    (t.set key value).keys.Nodup := by
  rw [keys_set]
  split
  . exact h
  . next hmem =>
    rw [List.nodup_append]
    refine ⟨h, List.pairwise_singleton _ _, ?_⟩
    rintro a ha b hb rfl
    rw [List.mem_singleton.1 hb] at ha
    exact hmem ha

theorem mem_set {t : Table α} {key : String} {value : α} {entry : String × α}
    (hnodup : t.keys.Nodup) (h : entry ∈ t.set key value) :
    entry = (key, value) ∨ entry ∈ t ∧ entry.1 ≠ key := by
  induction t with
  | nil => exact .inl (List.mem_singleton.1 h)
  | cons first t ih =>
    obtain ⟨k, v⟩ := first
    obtain ⟨hfirst, hnodup⟩ := List.nodup_cons.1 hnodup
    unfold set at h
    split at h
    . next heq =>
      subst heq
      rcases List.mem_cons.1 h with rfl | h
      . exact .inl rfl
      . refine .inr ⟨List.mem_cons_of_mem _ h, ?_⟩
        intro heq
        have hmem : entry.1 ∈ keys t := List.mem_map_of_mem h
        rw [heq] at hmem
        exact hfirst hmem
    . next hne =>
      rcases List.mem_cons.1 h with rfl | h
      . exact .inr ⟨List.mem_cons_self, hne⟩
      . rcases ih hnodup h with heq | ⟨hmem, hkey⟩
        . exact .inl heq
        . exact .inr ⟨List.mem_cons_of_mem _ hmem, hkey⟩

end Table

end HabitLens
