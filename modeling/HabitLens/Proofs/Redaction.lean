import HabitLens.Proofs.Quoting
import HabitLens.Service.EnvironmentReport
import Mathlib.Data.List.Forall2

/-!
What the report of the environment tells. It is the same for two environments if and only if they
have the same names in the same order, secrets of the same length and otherwise the same values. So
it tells nothing else of a secret, though it asks for some variables by their names once more after
the table has hidden them.
-/

namespace HabitLens.Service.EnvironmentReport

/-- Values of a variable that differ at most in a secret, and there not in length. -/
structure AlikeIn (name value value' : String) : Prop where
  eq_of_open : isSecret name = false → value = value'
  length_of_secret : isSecret name = true → value.length = value'.length

/-- Environments with the same names in the same order and with values that are alike. -/
def Alike (env env' : Environment) : Prop :=
  List.Forall₂ (fun v v' => v.1 = v'.1 ∧ AlikeIn v.1 v.2 v'.2) env env'

theorem shown_eq_iff {name value value' : String} :
    shown name value = shown name value' ↔ AlikeIn name value value' := by
  unfold shown
  cases hsecret : isSecret name with
  | false =>
    constructor
    . intro heq
      exact ⟨fun _ => heq, fun h => nomatch hsecret.symm.trans h⟩
    . intro h
      exact h.eq_of_open hsecret
  | true =>
    constructor
    . intro heq
      refine ⟨fun h => (nomatch hsecret.symm.trans h), fun _ => ?_⟩
      exact eq_of_repr_eq ((String.append_right_inj _).1 ((String.append_left_inj _).1 heq))
    . intro h
      rw [if_pos rfl, if_pos rfl, h.length_of_secret hsecret]

theorem filtered_eq_iff {env env' : Environment} :
    filtered env = filtered env' ↔ Alike env env' := by
  unfold filtered Alike
  rw [← List.forall₂_eq_eq_eq, List.forall₂_map_left_iff, List.forall₂_map_right_iff]
  constructor
  . intro h
    refine h.imp ?_
    intro v v' heq
    obtain ⟨hname, hshown⟩ := Prod.mk.inj heq
    rw [← hname] at hshown
    exact ⟨hname, shown_eq_iff.1 hshown⟩
  . intro h
    refine h.imp ?_
    rintro ⟨name, value⟩ ⟨name', value'⟩ ⟨hname, halike⟩
    dsimp only at hname halike ⊢
    rw [← hname, shown_eq_iff.2 halike]

theorem AlikeIn.isEmpty_eq {name value value' : String} (h : AlikeIn name value value') :
    value.isEmpty = value'.isEmpty := by
  cases hsecret : isSecret name with
  | false => rw [h.eq_of_open hsecret]
  | true =>
    rw [Bool.eq_iff_iff, String.isEmpty_iff, String.isEmpty_iff]
    rw [← String.length_eq_zero_iff, ← String.length_eq_zero_iff]
    rw [h.length_of_secret hsecret]

section

variable {env env' : Environment} (h : Alike env env')

include h

theorem Alike.get?_cases (name : String) :
    env.get? name = none ∧ env'.get? name = none ∨
      ∃ value value', env.get? name = some value ∧ env'.get? name = some value' ∧
        AlikeIn name value value' := by
  induction h with
  | nil => exact .inl ⟨rfl, rfl⟩
  | @cons v v' env env' hv _ ih =>
    obtain ⟨k, value⟩ := v
    obtain ⟨k', value'⟩ := v'
    obtain ⟨rfl, halike⟩ := hv
    unfold Table.get?
    by_cases hname : k = name
    . rw [if_pos hname, if_pos hname, ← hname]
      exact .inr ⟨value, value', rfl, rfl, halike⟩
    . rw [if_neg hname, if_neg hname]
      exact ih

theorem Alike.get?_eq {name : String} (hname : isSecret name = false) :
    env.get? name = env'.get? name := by
  rcases h.get?_cases name with ⟨hnone, hnone'⟩ | ⟨value, value', hvalue, hvalue', halike⟩
  . rw [hnone, hnone']
  . rw [hvalue, hvalue', halike.eq_of_open hname]

theorem Alike.isSome_given? (name : String) :
    (env.given? name).isSome = (env'.given? name).isSome := by
  unfold Environment.given?
  rcases h.get?_cases name with ⟨hnone, hnone'⟩ | ⟨value, value', hvalue, hvalue', halike⟩
  . rw [hnone, hnone']
  . rw [hvalue, hvalue', Option.isSome_filter, Option.isSome_filter]
    rw [Option.any_some, Option.any_some, halike.isEmpty_eq]

theorem Alike.present_eq (name : String) : present env name = present env' name := by
  unfold present
  rw [h.isSome_given? name]

theorem Alike.setting_eq {name : String} (hname : isSecret name = false) (label missing : String) :
    setting env label name missing = setting env' label name missing := by
  unfold setting
  rw [h.get?_eq hname]

theorem Alike.lines_eq : lines env = lines env' := by
  unfold lines
  -- Of the two keys only their presence is printed; the other names are no secrets.
  rw [filtered_eq_iff.2 h, h.present_eq, h.present_eq]
  rw [h.setting_eq (by decide : isSecret "FLASK_ENV" = false)]
  rw [h.setting_eq (by decide : isSecret "FLASK_DEBUG" = false)]
  rw [h.setting_eq (by decide : isSecret "PYTHONVERSION" = false)]
  rw [h.setting_eq (by decide : isSecret "PYTHONPATH" = false)]
  rw [h.setting_eq (by decide : isSecret "PYTHONUNBUFFERED" = false)]

end

theorem entry_append_inj {name value name' value' : String} {rest rest' : List Char}
    (h : (entry name value).toList ++ rest = (entry name' value').toList ++ rest') :
    name = name' ∧ value = value' ∧ rest = rest' := by
  unfold entry at h
  simp only [String.toList_append, List.append_assoc, List.append_cancel_left_eq] at h
  obtain ⟨hname, h⟩ := Json.writeText_append_inj h
  rw [List.append_cancel_left_eq] at h
  obtain ⟨hvalue, h⟩ := Json.writeText_append_inj h
  exact ⟨hname, hvalue, h⟩

/-- What stands behind the first entry of a table: the other entries and the end. -/
def remainder : Environment → List Char
  | [] => ['\n', '\x7d']
  | (name, value) :: env => ',' :: '\n' :: ((entry name value).toList ++ remainder env)

theorem intercalate_entries (name value : String) (env : Environment) :
    [',', '\n'].intercalate
        ((entry name value).toList :: env.map fun (name, value) => (entry name value).toList) ++
      ['\n', '\x7d']
      =
    (entry name value).toList ++ remainder env := by
  induction env generalizing name value with
  | nil =>
    rw [List.map_nil, List.intercalate_singleton, remainder]
  | cons v env ih =>
    obtain ⟨name', value'⟩ := v
    rw [List.map_cons, List.intercalate_cons_cons, List.append_assoc, ih, List.append_assoc]
    rw [remainder, List.cons_append, List.cons_append, List.nil_append]

theorem toList_table (name value : String) (env : Environment) :
    (table ((name, value) :: env)).toList
      =
    '\x7b' :: '\n' :: ((entry name value).toList ++ remainder env) := by
  have hopen : "\x7b\n".toList = ['\x7b', '\n'] := by decide
  have hbetween : ",\n".toList = [',', '\n'] := by decide
  have hclose : "\n\x7d".toList = ['\n', '\x7d'] := by decide
  rw [← intercalate_entries]
  unfold table
  rw [List.isEmpty_cons, if_neg Bool.false_ne_true]
  rw [String.toList_append, String.toList_append, String.toList_intercalate, List.map_map]
  rw [hopen, hbetween, hclose, List.map_cons, List.append_assoc]
  rw [List.cons_append, List.cons_append, List.nil_append]
  rfl

theorem remainder_append_inj {env env' : Environment} {rest rest' : List Char}
    (h : remainder env ++ rest = remainder env' ++ rest') : env = env' := by
  induction env generalizing env' with
  | nil =>
    cases env' with
    | nil => rfl
    | cons v' env' => cases h
  | cons v env ih =>
    obtain ⟨name, value⟩ := v
    cases env' with
    | nil => cases h
    | cons v' env' =>
      obtain ⟨name', value'⟩ := v'
      simp only [remainder, List.cons_append, List.append_assoc, List.cons.injEq, true_and] at h
      obtain ⟨hname, hvalue, hrest⟩ := entry_append_inj h
      rw [hname, hvalue, ih hrest]

/-- A table can be told from a text that begins with it. -/
theorem table_append_inj {env env' : Environment} {rest rest' : List Char}
    (h : (table env).toList ++ rest = (table env').toList ++ rest') : env = env' := by
  have hnil : (table []).toList = ['\x7b', '\x7d'] := rfl
  cases env with
  | nil =>
    cases env' with
    | nil => rfl
    | cons v' env' =>
      rw [hnil, toList_table] at h
      cases h
  | cons v env =>
    cases env' with
    | nil =>
      rw [hnil, toList_table] at h
      cases h
    | cons v' env' =>
      rw [toList_table, toList_table] at h
      simp only [List.cons_append, List.append_assoc, List.cons.injEq, true_and] at h
      obtain ⟨hname, hvalue, hrest⟩ := entry_append_inj h
      rw [Prod.ext hname hvalue, remainder_append_inj hrest]

theorem exists_toList_text (env : Environment) :
    ∃ rest, (text env).toList
      =
    ("Environment Variables:" ++ "\n").toList ++ ((table (filtered env)).toList ++ rest) := by
  unfold text lines
  rw [List.map_cons, List.map_cons, String.join_cons, String.join_cons]
  rw [String.toList_append, String.toList_append (s := table (filtered env) ++ "\n")]
  rw [String.toList_append (s := table (filtered env)), List.append_assoc]
  exact ⟨_, rfl⟩

theorem filtered_eq_of_text_eq {env env' : Environment} (h : text env = text env') :
    filtered env = filtered env' := by
  obtain ⟨rest, hrest⟩ := exists_toList_text env
  obtain ⟨rest', hrest'⟩ := exists_toList_text env'
  rw [h, hrest', List.append_cancel_left_eq] at hrest
  exact (table_append_inj hrest).symm

/--
The report on an environment tells the names of the variables in their order, the values of those
that are no secrets, and of secrets the length, and it tells nothing else.
-/
theorem text_eq_iff {env env' : Environment} : text env = text env' ↔ Alike env env' := by
  constructor
  . intro h
    exact filtered_eq_iff.1 (filtered_eq_of_text_eq h)
  . intro h
    unfold text
    rw [h.lines_eq]

theorem text_of_two_keys :
    let env : Environment := [("HOME", "/root"), ("ANTHROPIC_API_KEY", "sk-1")]
    let env' : Environment := [("HOME", "/root"), ("ANTHROPIC_API_KEY", "sk-2")]
    Alike env env' ∧ env ≠ env' ∧ text env = text env' := by
  intro env env'
  have hhome : AlikeIn "HOME" "/root" "/root" :=
    ⟨fun _ => rfl, fun _ => rfl⟩
  have hkey : AlikeIn "ANTHROPIC_API_KEY" "sk-1" "sk-2" :=
    ⟨fun hopen => absurd hopen (by decide), fun _ => by decide⟩
  have halike : Alike env env' := .cons ⟨rfl, hhome⟩ (.cons ⟨rfl, hkey⟩ .nil)
  exact ⟨halike, by decide, text_eq_iff.2 halike⟩

end HabitLens.Service.EnvironmentReport
