import HabitLens.Proofs.SharedDefault

/-!
What stands in a block behind the first statement that leaves it. The check for unreachable code
reports the first of these statements, provided that there are at least two of them.
-/

namespace HabitLens

namespace Source

/-- A statement that leaves its block, whatever comes behind it. -/
inductive Stmt.Leaves : Stmt → Prop where
  | ret (line : Nat) (value : Option Expr) : Leaves (.ret line value)
  | breakLoop (line : Nat) : Leaves (.breakLoop line)
  | continueLoop (line : Nat) : Leaves (.continueLoop line)

theorem Stmt.leaves_iff {s : Stmt} : s.leaves = true ↔ s.Leaves := by
  constructor
  . intro h
    unfold leaves at h
    split at h
    . exact .ret _ _
    . exact .breakLoop _
    . exact .continueLoop _
    . cases h
  . intro h
    cases h <;> rfl

/-- The node is a function or loop with this body, and not an asynchronous one. -/
inductive Node.HasBlock : Node → List Stmt → Prop where
  | function (line : Nat) (name : String) (params : Params) (body : List Stmt)
      (decorators : List Expr) (returns : Option Expr) :
      HasBlock (.stmt (.functionDef line false name params body decorators returns)) body
  | forLoop (line : Nat) (target iter : Expr) (body orelse : List Stmt) :
      HasBlock (.stmt (.forLoop line false target iter body orelse)) body
  | whileLoop (line : Nat) (test : Expr) (body orelse : List Stmt) :
      HasBlock (.stmt (.whileLoop line test body orelse)) body

/-- A block is cut at the first statement that leaves it. -/
structure Stmt.CutAt (body before : List Stmt) (leaving : Stmt) (behind : List Stmt) : Prop where
  eq : body = before ++ leaving :: behind
  before : ∀ s ∈ before, ¬s.Leaves
  leaving : leaving.Leaves

theorem Stmt.exists_cutAt {body : List Stmt} {i : Nat} {s : Stmt} (hs : body[i]? = some s)
    (h : s.Leaves) :
    ∃ before leaving behind, CutAt body before leaving behind ∧ before.length ≤ i := by
  induction body generalizing i with
  | nil => cases hs
  | cons t body ih =>
    by_cases ht : t.Leaves
    . exact ⟨[], t, body, ⟨rfl, by simp, ht⟩, Nat.zero_le i⟩
    . cases i with
      | zero =>
        obtain rfl := Option.some.inj hs
        exact absurd h ht
      | succ i =>
        obtain ⟨before, leaving, behind, ⟨rfl, hbefore, hleaving⟩, hle⟩ := ih hs
        refine ⟨t :: before, leaving, behind, ⟨rfl, ?_, hleaving⟩, Nat.succ_le_succ hle⟩
        exact List.forall_mem_cons.2 ⟨ht, hbefore⟩

end Source

namespace Review

open Source

namespace Unreachable

theorem body?_eq_some_iff {n : Node} {body : List Stmt} :
    body? n = some body ↔ n.HasBlock body := by
  constructor
  . intro h
    unfold body? at h
    split at h
    . cases h
      exact .function _ _ _ _ _ _
    . cases h
      exact .forLoop _ _ _ _ _
    . cases h
      exact .whileLoop _ _ _ _
    . cases h
  . intro h
    cases h <;> rfl

theorem first?_of_cutAt {body before behind : List Stmt} {leaving : Stmt}
    (h : Stmt.CutAt body before leaving behind) :
    first? body = if 2 ≤ behind.length then behind.head? else none := by
  obtain ⟨rfl, hbefore, hleaving⟩ := h
  induction before with
  | nil =>
    rw [List.nil_append, first?.eq_def]
    dsimp only
    rw [if_pos (Stmt.leaves_iff.2 hleaving)]
    cases behind with
    | nil => rfl
    | cons next rest => cases rest <;> rfl
  | cons s before ih =>
    obtain ⟨hs, hbefore⟩ := List.forall_mem_cons.1 hbefore
    rw [List.cons_append, first?.eq_def]
    dsimp only
    rw [if_neg (mt Stmt.leaves_iff.1 hs), ih hbefore]

theorem ofNode_of_cutAt (shared : Bool) {n : Node} {body before rest : List Stmt}
    {leaving next : Stmt} (hbody : n.HasBlock body)
    (h : Stmt.CutAt body before leaving (next :: rest)) :
    ofNode shared n
      =
    if rest = [] then [] else [.found next.line message (category shared body)] := by
  unfold ofNode
  rw [body?_eq_some_iff.2 hbody]
  dsimp only
  rw [first?_of_cutAt h]
  cases rest <;> rfl

end Unreachable

namespace Analyzer

open Unreachable

/--
The issues of the check for unreachable code, node by node. Let the body of a function or loop hold
a statement that leaves it, not as the last one. Then the body can be cut at the first such
statement. If at least two statements are behind that, the node has one issue, on the line of the
first of them. If there is only one, the node has no issue.
-/
theorem check_statements_behind (a : Analyzer) (p : Program) :
    a.check p .unreachableCode = a.add (p.walk.flatMap (ofNode p.shared)) ∧
    ∀ n ∈ p.walk, ∀ body, n.HasBlock body →
      ∀ i s, body[i]? = some s → s.Leaves → i + 1 < body.length →
        ∃ before leaving next rest, Stmt.CutAt body before leaving (next :: rest) ∧
          (rest ≠ [] → ∃ category, ofNode p.shared n = [.found next.line message category]) ∧
          (rest = [] → ofNode p.shared n = []) := by
  refine ⟨rfl, ?_⟩
  intro n _ body hbody i s hs hleaves hi
  obtain ⟨before, leaving, behind, hcut, hle⟩ := Stmt.exists_cutAt hs hleaves
  cases behind with
  | nil =>
    rw [hcut.eq, List.length_append, List.length_singleton] at hi
    omega
  | cons next rest =>
    have hissues := ofNode_of_cutAt p.shared hbody hcut
    refine ⟨before, leaving, next, rest, hcut, ?_, ?_⟩
    . intro hrest
      exact ⟨_, hissues.trans (if_neg hrest)⟩
    . intro hrest
      exact hissues.trans (if_pos hrest)

/-- Two statements are behind the first one that leaves the loop, and one is before it. -/
theorem check_statements_behind_continue :
    let code := "while x:\n y\n continue\n z\n break"
    ∃ body, parse code = .ok body ∧
      ∃ i ∈ (({} : Analyzer).check { body } .unreachableCode).feedback,
        i.line = .int 4 ∧ i.message = .str message := by
  intro code
  have heval : (parse code).toOption.any (fun body =>
      (Node.module body).walk.any fun n =>
        (body? n).any fun block =>
          block.map (fun s => (s.line, s.leaves))
            == [(2, false), (3, true), (4, false), (5, true)]) = true := by
    decide +kernel
  obtain ⟨body, hparse, heval⟩ := exists_of_any_parse heval
  simp only [List.any_eq_true, Option.any_eq_true, beq_iff_eq] at heval
  obtain ⟨n, hn, block, hblock, hshape⟩ := heval
  have hlength : block.length = 4 := by
    rw [← block.length_map (fun s => (s.line, s.leaves)), hshape]
    rfl
  have hsecond : block[1]?.map (fun s => (s.line, s.leaves)) = some (3, true) := by
    rw [← List.getElem?_map, hshape]
    rfl
  obtain ⟨s, hs, hleaves⟩ := Option.map_eq_some_iff.1 hsecond
  obtain ⟨hcheck, hissues⟩ := check_statements_behind {} { body }
  obtain ⟨before, leaving, next, rest, hcut, hissue, -⟩ :=
    hissues n hn block (body?_eq_some_iff.1 hblock) 1 s hs
      (Stmt.leaves_iff.1 (congrArg Prod.snd hleaves)) (by omega)
  have hnext : next.line = 4 ∧ rest ≠ [] := by
    obtain ⟨rfl, hbefore, hleaving⟩ := hcut
    rcases before with _ | ⟨b, _ | ⟨c, before⟩⟩
    . simp [Stmt.leaves_iff.2 hleaving] at hshape
    . simp only [List.map_cons, List.cons_append, List.nil_append, List.cons.injEq,
        Prod.mk.injEq] at hshape
      refine ⟨hshape.2.2.1.1, ?_⟩
      rintro rfl
      cases hshape.2.2.2
    . simp [Stmt.leaves_iff, hbefore c (by simp)] at hshape
  obtain ⟨category, hissue⟩ := hissue hnext.2
  refine ⟨body, hparse, _, mem_feedback_check hcheck hn hissue, ?_, rfl⟩
  simp [Issue.found, hnext.1]

/-- One statement is behind the one that leaves the function, and it is not reported. -/
theorem check_overlooks_last_statement :
    let code := "def f():\n    return 1\n    x = 2\n"
    ∃ body, parse code = .ok body ∧
      (∃ n ∈ (Node.module body).walk, ∃ leaving next,
        n.HasBlock [leaving, next] ∧ leaving.Leaves) ∧
      (({} : Analyzer).check { body } .unreachableCode).feedback = [] := by
  intro code
  have heval : (parse code).toOption.any (fun body =>
      (Node.module body).walk.any (fun n =>
        (body? n).any fun block => block.map Stmt.leaves == [true, false]) &&
      (({} : Analyzer).check { body } .unreachableCode).feedback.isEmpty) = true := by
    decide +kernel
  obtain ⟨body, hparse, heval⟩ := exists_of_any_parse heval
  simp only [Bool.and_eq_true, List.any_eq_true, Option.any_eq_true, List.isEmpty_iff,
    beq_iff_eq] at heval
  obtain ⟨⟨n, hn, block, hblock, hshape⟩, hfeedback⟩ := heval
  obtain ⟨leaving, behind, rfl, hleaving, hbehind⟩ := List.map_eq_cons_iff.1 hshape
  obtain ⟨next, rfl, -⟩ := List.map_eq_singleton_iff.1 hbehind
  exact ⟨body, hparse, ⟨n, hn, leaving, next, body?_eq_some_iff.1 hblock,
    Stmt.leaves_iff.1 hleaving⟩, hfeedback⟩

end Analyzer

end Review

end HabitLens
