import Mathlib.Order.Bounds.Basic
import HabitLens.Proofs.Analysis
import HabitLens.Proofs.Depth
import HabitLens.Proofs.Knowledge

/-!
The calls that an analysis counts for a function, in terms of how deep they stand. The last
definition on the walk is one of the deepest, and behind it come all places further down and some
of those on its own level.
-/

namespace HabitLens

namespace Source

theorem exists_last_of_exists {α : Type} {p : α → Bool} {xs : List α}
    (h : ∃ x ∈ xs, p x = true) :
    ∃ before x after, xs = before ++ x :: after ∧ p x = true ∧ ∀ y ∈ after, p y = false := by
  induction xs with
  | nil => simp at h
  | cons x xs ih =>
    by_cases hlater : ∃ y ∈ xs, p y = true
    . obtain ⟨before, y, after, rfl, hy, hafter⟩ := ih hlater
      exact ⟨x :: before, y, after, rfl, hy, hafter⟩
    . simp only [List.mem_cons, exists_eq_or_imp, hlater, or_false] at h
      refine ⟨[], x, xs, rfl, h, ?_⟩
      intro y hy
      apply Bool.eq_false_iff.2
      intro hp
      exact hlater ⟨y, hy, hp⟩

namespace Visit

variable {before after : List Visit} {v : Visit}

theorem depth_le_of_mem_before (h : LevelOrder (before ++ v :: after)) :
    ∀ w ∈ before, w.depth ≤ v.depth := by
  intro w hw
  exact (List.pairwise_append.1 h).2.2 w hw v List.mem_cons_self

theorem le_depth_of_mem_after (h : LevelOrder (before ++ v :: after)) :
    ∀ w ∈ after, v.depth ≤ w.depth := by
  have hbehind := (List.pairwise_append.1 h).2.1
  exact (List.pairwise_cons.1 hbehind).1

theorem countP_deeper_le (h : LevelOrder (before ++ v :: after)) (p : Visit → Bool) :
    (before ++ v :: after).countP (fun w => p w && v.depth < w.depth) ≤ after.countP p := by
  have hbefore : before.countP (fun w => p w && v.depth < w.depth) = 0 := by
    rw [List.countP_eq_zero]
    intro w hw hdeeper
    have hle := depth_le_of_mem_before h w hw
    have hlt := of_decide_eq_true (Bool.and_eq_true_iff.1 hdeeper).2
    omega
  rw [List.countP_append, hbefore, List.countP_cons]
  simp only [Nat.lt_irrefl, decide_false, Bool.and_false, Bool.false_eq_true, if_false]
  rw [Nat.zero_add, Nat.add_zero]
  apply List.countP_mono_left
  intro w _ hw
  exact (Bool.and_eq_true_iff.1 hw).1

theorem countP_after_le (h : LevelOrder (before ++ v :: after)) (p : Visit → Bool) :
    after.countP p ≤ (before ++ v :: after).countP (fun w => p w && v.depth ≤ w.depth) := by
  have hafter : after.countP p ≤ after.countP (fun w => p w && v.depth ≤ w.depth) := by
    apply List.countP_mono_left
    intro w hw hp
    simp [hp, le_depth_of_mem_after h w hw]
  rw [List.countP_append, List.countP_cons]
  omega

end Visit

namespace Node

theorem eq_stmt_of_defines {n : Node} {f : String} (h : n.defines f = true) :
    ∃ d, n = stmt d := by
  cases n with
  | stmt d => exact ⟨d, rfl⟩
  | _ => cases h

theorem one_lt_depth_of_calls {body : List Stmt} {f : String} {v : Visit}
    (hv : v ∈ (module body).places) (h : v.node.calls f = true) : 1 < v.depth := by
  -- The two top levels hold the program and its statements, so a call comes behind them.
  rw [← (visits_perm_places _).mem_iff, visits, Visit.levels_eq, Visit.levels_eq] at hv
  rw [List.flatMap_singleton] at hv
  have hbelow : ∀ w ∈ Visit.below true ⟨module body, []⟩, w.depth = 1 := by
    intro w hw
    exact Visit.depth_of_mem_below hw
  rcases List.mem_append.1 hv with hv | hv
  . rw [List.mem_singleton.1 hv] at h
    cases h
  . rcases List.mem_append.1 hv with hv | hv
    . obtain ⟨s, -, hs⟩ := List.mem_map.1 (Visit.node_mem_children_of_mem_below hv)
      rw [← hs] at h
      cases h
    . exact Visit.le_depth_of_mem_levels (Visit.depth_of_mem_flatMap_below hbelow) v hv

end Node

end Source

namespace Review

open Source

theorem Context.extend_calls_by_depth {body : List Stmt} {f : String}
    (hdefined : ∃ v ∈ (Node.module body).places, v.node.defines f = true) :
    let places := (Node.module body).places
    ∃ v ∈ places, v.node.defines f = true ∧
      (∀ w ∈ places, w.node.defines f = true → w.depth ≤ v.depth) ∧
      ∃ r, (Context.extend {} { body }).functions.get? f = some r ∧
        places.countP (fun w => w.node.calls f && v.depth < w.depth) ≤ r.calls ∧
        r.calls ≤ places.countP fun w => w.node.calls f && v.depth ≤ w.depth := by
  intro places
  have hperm : ((Node.module body).visits true).Perm places := Node.visits_perm_places _
  have horder := Node.levelOrder_visits (.module body)
  change ∃ v ∈ places, v.node.defines f = true at hdefined
  simp only [← hperm.mem_iff, ← hperm.countP_eq] at hdefined ⊢
  -- The walk is split at the last definition.
  obtain ⟨before, v, after, hvisits, hf, hafter⟩ := exists_last_of_exists hdefined
  obtain ⟨d, hd⟩ := Node.eq_stmt_of_defines hf
  have hwalk : ({ body } : Program).walk
      = before.map (·.node) ++ .stmt d :: after.map (·.node) := by
    rw [← hd, ← List.map_cons, ← List.map_append, ← hvisits, Node.node_visits]
    rfl
  have hlast : ∀ n ∈ after.map (·.node), n.defines f = false := by
    intro n hn
    obtain ⟨w, hw, rfl⟩ := List.mem_map.1 hn
    exact hafter w hw
  obtain ⟨r, hget, -, hcalls⟩ :=
    get?_functions_of_last {} (before.map (·.node)) (hd ▸ hf) hlast
  rw [List.countP_map] at hcalls
  rw [hvisits] at horder ⊢
  refine ⟨v, by simp, hf, ?_, r, ?_, ?_, ?_⟩
  . intro w hw hwf
    rcases List.mem_append.1 hw with hw | hw
    . exact Visit.depth_le_of_mem_before horder w hw
    . rcases List.mem_cons.1 hw with rfl | hw
      . apply Nat.le_refl
      . rw [hafter w hw] at hwf
        cases hwf
  . rw [extend, hwalk]
    exact hget
  . rw [hcalls]
    exact Visit.countP_deeper_le horder _
  . rw [hcalls]
    exact Visit.countP_after_le horder _

/--
Let a text be a program with at least one definition of a function `f`, the deepest of them at the
depth `deepest`. Then its analysis counts all calls of `f` that stand deeper, none that stand
higher, and perhaps some of those at that depth. If all definitions of `f` stand at the top level of
the program, it counts all calls of `f`.
-/
theorem Analyzer.analyze_calls_by_depth (a : Analyzer) {code : String} {body : List Stmt}
    {f : String} (run : LinterRun) (hparse : parse code = .ok body)
    (hdefined : ∃ v ∈ (Node.module body).places, v.node.defines f = true) :
    let places := (Node.module body).places
    ∃ deepest r,
      IsGreatest {d | ∃ v ∈ places, v.node.defines f = true ∧ v.depth = d} deepest ∧
      (a.analyze (.str code) run).analyzer.context.functions.get? f = some r ∧
      places.countP (fun v => v.node.calls f && deepest < v.depth) ≤ r.calls ∧
      r.calls ≤ places.countP (fun v => v.node.calls f && deepest ≤ v.depth) ∧
      ((∀ v ∈ places, v.node.defines f = true → v.depth = 1) →
        r.calls = places.countP fun v => v.node.calls f) := by
  intro places
  obtain ⟨v, hv, hf, hdeepest, r, hget, hlower, hupper⟩ := Context.extend_calls_by_depth hdefined
  refine ⟨v.depth, r, ⟨⟨v, hv, hf, rfl⟩, ?_⟩, ?_, hlower, hupper, ?_⟩
  . rintro _ ⟨w, hw, hwf, rfl⟩
    exact hdeepest w hw hwf
  . rw [analyze_of_ok a run hparse]
    exact hget
  . intro htop
    rw [htop v hv hf] at hlower hupper
    -- No call stands at the top level, so both bounds are the number of all calls.
    have hall : ∀ w ∈ places, w.node.calls f = true → 1 < w.depth := by
      intro w hw hcalls
      exact Node.one_lt_depth_of_calls hw hcalls
    apply Nat.le_antisymm
    . refine Nat.le_trans hupper (List.countP_mono_left ?_)
      intro w _ hw
      exact (Bool.and_eq_true_iff.1 hw).1
    . refine Nat.le_trans (List.countP_mono_left ?_) hlower
      intro w hw hcalls
      simp [hcalls, hall w hw hcalls]

/--
In this program the deepest definition of `f` stands at depth 2. One call stands deeper, and the one
on the same level is met before the definition.
-/
theorem Analyzer.analyze_calls_nested :
    let code := "f()\ndef f():\n def f():f()"
    let context := (({} : Analyzer).analyze (.str code) .missing).analyzer.context
    ∃ r, context.functions.get? "f" = some r ∧ 1 ≤ r.calls ∧ r.calls ≤ 2 := by
  intro code context
  have heval : (parse code).toOption.any (fun body =>
      let places := (Node.module body).places
      places.any (fun v => v.node.defines "f" && v.depth == 2) &&
      places.all (fun v => !v.node.defines "f" || v.depth ≤ 2) &&
      places.countP (fun v => v.node.calls "f" && 2 < v.depth) == 1 &&
      places.countP (fun v => v.node.calls "f" && 2 ≤ v.depth) == 2) = true := by
    decide +kernel
  cases hparse : parse code with
  | error fault =>
    rw [hparse] at heval
    cases heval
  | ok body =>
    simp only [hparse, Except.toOption, Option.any_some, Bool.and_eq_true, List.any_eq_true,
      List.all_eq_true, Bool.or_eq_true, Bool.not_eq_true', beq_iff_eq, decide_eq_true_eq] at heval
    obtain ⟨⟨⟨⟨v, hv, hf, hdepth⟩, hdeepest⟩, hlower⟩, hupper⟩ := heval
    obtain ⟨deepest, r, hgreatest, hget, hle, hge, -⟩ :=
      analyze_calls_by_depth {} .missing hparse ⟨v, hv, hf⟩
    have htwo : deepest = 2 := by
      apply hgreatest.unique
      refine ⟨⟨v, hv, hf, hdepth⟩, ?_⟩
      rintro _ ⟨w, hw, hwf, rfl⟩
      simpa [hwf] using hdeepest w hw
    rw [htwo, hlower] at hle
    rw [htwo, hupper] at hge
    exact ⟨r, hget, hle, hge⟩

end Review

end HabitLens
