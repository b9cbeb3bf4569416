import HabitLens.Proofs.BreakOff
import HabitLens.Proofs.Depth
import Mathlib.Data.List.Flatten

/-!
How the simple analysis compares with the checks of the analyzer on the same program. It finds the
same shared defaults, all endless loops that the check finds, and no handler without a type that the
check does not find, each on the same lines and in the same order.
-/

namespace HabitLens.Service.Fallback

open Source
open Review

def lines (found : List Remark) : List Value :=
  found.map fun r => (Entry.ofRemark r).line

def about (t : Topic) (found : List Remark) : List Remark :=
  found.filter fun r => t.words.toList.isPrefixOf r.message.toList

theorem Topic.eq_of_words {t u : Topic} (h : t.words.toList <+: u.words.toList) : t = u := by
  revert h
  cases t <;> cases u <;> simp [Topic.words]

theorem about_remarksOn (t : Topic) (nodes : List Node) (n : Node) :
    about t (remarksOn nodes n) = if topic n = t then remarksOn nodes n else [] := by
  unfold about
  split
  . next htopic =>
    rw [List.filter_eq_self]
    intro r hr
    rw [← htopic]
    apply List.isPrefixOf_iff_prefix.2
    exact (isRemarkOn_of_mem_remarksOn hr).begins
  . next htopic =>
    rw [List.filter_eq_nil_iff]
    intro r hr hwords
    have hwords := List.isPrefixOf_iff_prefix.1 hwords
    have hbegins := (isRemarkOn_of_mem_remarksOn hr).begins
    rcases List.prefix_or_prefix_of_prefix hbegins hwords with hle | hle
    . exact htopic (Topic.eq_of_words hle)
    . exact htopic (Topic.eq_of_words hle).symm

theorem lines_about_flatMap (t : Topic) (f : Node → List Remark) (ns : List Node) :
    lines (about t (ns.flatMap f)) = ns.flatMap fun n => lines (about t (f n)) := by
  unfold lines about
  rw [List.filter_flatMap, List.map_flatMap]

section

variable (nodes : List Node) (n : Node)

theorem lines_sharedDefault (functions : Table FunctionRecord) :
    lines (about .sharedDefault (remarksOn nodes n))
      =
    (MutableDefault.ofNode functions n).map (·.line) := by
  rw [about_remarksOn]
  cases n with
  | expr e => cases e <;> rfl
  | stmt s =>
    cases s with
    | functionDef line isAsync name params body decorators returns =>
      cases isAsync with
      | true => rfl
      | false =>
        rw [if_pos (by rfl)]
        unfold lines MutableDefault.ofNode
        rw [List.map_map]
        exact List.map_map
    | _ => rfl
  | _ => rfl

theorem lines_endlessLoop :
    ((InfiniteLoop.ofNode n).map (·.line)).Sublist
      (lines (about .endlessLoop (remarksOn nodes n))) := by
  rw [about_remarksOn]
  unfold InfiniteLoop.ofNode
  split
  . next line _ _ _ =>
    change List.Sublist _ [Value.int line]
    split
    . apply List.nil_sublist
    . apply List.Sublist.refl
  . apply List.nil_sublist

theorem lines_bareHandler (above : List Node) :
    (lines (about .bareHandler (remarksOn nodes n))).Sublist
      ((BroadHandler.ofVisit ⟨n, above⟩).map (·.line)) := by
  rw [about_remarksOn]
  cases n with
  | handler h =>
    obtain ⟨line, type, name, body⟩ := h
    cases type with
    | none =>
      have hall : BroadHandler.catchesAll (.mk line none name body) = true := rfl
      change List.Sublist [Value.int line] _
      unfold BroadHandler.ofVisit
      dsimp only
      rw [hall, if_neg (by decide)]
      split
      . apply List.Sublist.refl
      . apply List.Sublist.refl
    | some e => apply List.nil_sublist
  | expr e => cases e <;> apply List.nil_sublist
  | stmt s => cases s <;> apply List.nil_sublist
  | _ => apply List.nil_sublist

end

theorem flatMap_walk {α : Type} (p : Program) (f : Node → List α) :
    p.walk.flatMap f = p.visits.flatMap fun v => f v.node := by
  have hwalk : p.walk = p.visits.map (·.node) := (Node.node_visits p.linked p.root).symm
  rw [hwalk, List.flatMap_map]

/--
On a program that the simple analysis goes through to the end, its remarks on shared defaults stand
on the same lines as the issues of the check for them, in the same order. The check for endless
loops finds some of the loops that have a remark, and the check for broad handlers finds all
handlers that have one.
-/
theorem run_against_checks {p : Program} (h : (run p.body).2 = none)
    (functions : Table FunctionRecord) :
    let found := (run p.body).1
    let checked (c : Check) := (c.run functions p).map (·.line)
    lines (about .sharedDefault found) = checked .mutableDefaults ∧
    (checked .infiniteLoops).Sublist (lines (about .endlessLoop found)) ∧
    (lines (about .bareHandler found)).Sublist (checked .exceptionHandling) := by
  intro found checked
  have hfound : found = p.walk.flatMap (remarksOn p.walk) := by
    rcases run_cases p.body with ⟨_, _, _, hrun⟩ | ⟨-, hrun⟩
    . rw [hrun] at h
      cases h
    . exact congrArg Prod.fst hrun
  rw [hfound, lines_about_flatMap, lines_about_flatMap, lines_about_flatMap]
  refine ⟨?_, ?_, ?_⟩
  . simp only [lines_sharedDefault _ _ functions]
    exact List.map_flatMap.symm
  . have hloops : checked .infiniteLoops
        =
      p.walk.flatMap fun n => (InfiniteLoop.ofNode n).map (·.line) := List.map_flatMap
    rw [hloops]
    apply List.Sublist.flatMap_right
    intro n _
    exact lines_endlessLoop p.walk n
  . -- This check also looks at what stands above a handler, so it goes by visits.
    have hhandlers : checked .exceptionHandling
        =
      p.visits.flatMap fun v => (BroadHandler.ofVisit v).map (·.line) := List.map_flatMap
    rw [hhandlers, flatMap_walk]
    apply List.Sublist.flatMap_right
    intro v _
    exact lines_bareHandler p.walk v.node v.above

/-- The first loop is left by a break, which only the check looks for. -/
theorem run_against_checks_of_two_loops :
    let code := "def f(x=[]):\n while True:\n  break\n while True:\n  pass\n" ++
      "try:\n pass\nexcept:\n pass"
    ∃ p : Program, parseRunnable code = .ok p.body ∧
      (lines (about .sharedDefault (run p.body).1)).map Value.int? = [some 1] ∧
      (lines (about .endlessLoop (run p.body).1)).map Value.int? = [some 2, some 4] ∧
      [some 4].Sublist ((lines (about .endlessLoop (run p.body).1)).map Value.int?) ∧
      ((lines (about .bareHandler (run p.body).1)).map Value.int?).Sublist [some 8] := by
  intro code
  have heval : (parseRunnable code).toOption.any (fun body =>
      (run body).2 = none ∧
      (lines (about .endlessLoop (run body).1)).map Value.int? = [some 2, some 4] ∧
      ((Check.infiniteLoops.run [] { body }).map (·.line)).map Value.int? = [some 4] ∧
      ((Check.mutableDefaults.run [] { body }).map (·.line)).map Value.int? = [some 1] ∧
      ((Check.exceptionHandling.run [] { body }).map (·.line)).map Value.int? = [some 8])
        =
      true := by
    decide +kernel
  cases hcode : parseRunnable code with
  | error fault =>
    rw [hcode] at heval
    cases heval
  | ok body =>
    rw [hcode] at heval
    obtain ⟨hwhole, hlines, hloops, hdefaults, hhandlers⟩ := of_decide_eq_true heval
    obtain ⟨hsame, hfewer, hmore⟩ := run_against_checks (p := { body }) hwhole []
    refine ⟨{ body }, rfl, ?_, hlines, ?_, ?_⟩
    . rw [hsame]
      exact hdefaults
    . rw [← hloops]
      exact hfewer.map Value.int?
    . rw [← hhandlers]
      exact hmore.map Value.int?

end HabitLens.Service.Fallback
