import Mathlib.Data.List.Forall2
import HabitLens.Proofs.StatementsBehind

/-!
The category of unreachable code. What decides on it are the statements that stand in a block twice,
as one and the same object, whether or not they can be reached. A program that was parsed has no
such statements.
-/

namespace HabitLens.Review

open Source

namespace Unreachable

/-- A node, and which places of its body hold one and the same statement. -/
structure Block where
  node : Node
  same : Nat → Nat → Bool

/-- A statement that decides on the category of an issue if it is repeated. -/
inductive Weighs : Stmt → Category → Prop where
  | assign (line : Nat) (targets : List Expr) (value : Expr) :
      Weighs (.assign line targets value) .potentialError
  | augAssign (line : Nat) (target : Expr) (op : BinaryOp) (value : Expr) :
      Weighs (.augAssign line target op value) .potentialError
  | ret (line : Nat) (value : Option Expr) : Weighs (.ret line value) .runtimeError

namespace Block

def Repeats (b : Block) (k : Nat) : Prop :=
  ∃ j < k, b.same j k = true

/-- The first repeated statement of the body that weighs decides, if there is one. -/
inductive Decided (b : Block) (body : List Stmt) : Category → Prop where
  | repeated {k : Nat} {s : Stmt} {c : Category} (hs : body[k]? = some s) (hrepeats : b.Repeats k)
      (hweighs : Weighs s c)
      (hfirst : ∀ l < k, ∀ t, body[l]? = some t → b.Repeats l → ∀ d, ¬Weighs t d) : Decided b body c
  | otherwise (h : ∀ l t, body[l]? = some t → b.Repeats l → ∀ d, ¬Weighs t d) :
      Decided b body .badHabit

structure Reports (b : Block) (i : Issue) : Prop where
  cut : ∃ body before leaving next rest, b.node.HasBlock body ∧
    Stmt.CutAt body before leaving (next :: rest) ∧ i = .found next.line message i.category
  decided : ∀ body, b.node.HasBlock body → b.Decided body i.category
  distinct : ∀ body, b.node.HasBlock body →
    (∀ j k, j < k → k < body.length → b.same j k = false) → i.category = .badHabit

instance (b : Block) (k : Nat) : Decidable (b.Repeats k) :=
  inferInstanceAs (Decidable (∃ j < k, b.same j k = true))

def repeated? (b : Block) (s : Stmt) (k : Nat) : Option Category :=
  if b.Repeats k then verdict? s else none

def category (b : Block) (body : List Stmt) : Category :=
  (body.zipIdx.findSome? fun e => b.repeated? e.1 e.2).getD .badHabit

def issues (b : Block) : List Issue :=
  match body? b.node with
  | none => []
  | some body =>
    match first? body with
    | none => []
    | some s => [.found s.line message (b.category body)]

/-- If equal statements are shared, the same ones are those that are alike. Else there are none. -/
def same? (shared : Bool) (body : List Stmt) (j k : Nat) : Bool :=
  if shared then body[j]?.any fun s => body[k]?.any fun t => (Node.stmt s).alike (.stmt t)
  else j == k

def ofNode (shared : Bool) (n : Node) : Block :=
  { node := n, same := same? shared ((body? n).getD []) }

end Block

theorem verdict?_eq_some_iff {s : Stmt} {c : Category} : verdict? s = some c ↔ Weighs s c := by
  constructor
  . intro h
    unfold verdict? at h
    split at h
    . cases h
      exact .assign _ _ _
    . cases h
      exact .augAssign _ _ _ _
    . cases h
      exact .ret _ _
    . cases h
  . intro h
    cases h <;> rfl

theorem exists_cutAt_of_first? {body : List Stmt} {s : Stmt} (h : first? body = some s) :
    ∃ before leaving rest, Stmt.CutAt body before leaving (s :: rest) := by
  induction body with
  | nil => cases h
  | cons t body ih =>
    rw [first?.eq_def] at h
    dsimp only at h
    split at h
    . next hleaves =>
      split at h
      . obtain rfl := Option.some.inj h
        exact ⟨[], t, _, rfl, by simp, Stmt.leaves_iff.1 hleaves⟩
      . cases h
    . next hstays =>
      obtain ⟨before, leaving, rest, rfl, hbefore, hleaving⟩ := ih h
      refine ⟨t :: before, leaving, rest, rfl, ?_, hleaving⟩
      exact List.forall_mem_cons.2 ⟨mt Stmt.leaves_iff.2 hstays, hbefore⟩

namespace Block

theorem repeated?_eq_some_iff {b : Block} {s : Stmt} {k : Nat} {c : Category} :
    b.repeated? s k = some c ↔ b.Repeats k ∧ Weighs s c := by
  unfold repeated?
  split
  . next h => simp [h, verdict?_eq_some_iff]
  . next h => simp [h]

theorem repeated?_eq_none_iff {b : Block} {s : Stmt} {k : Nat} :
    b.repeated? s k = none ↔ (b.Repeats k → ∀ d, ¬Weighs s d) := by
  rw [Option.eq_none_iff_forall_ne_some]
  constructor
  . intro h hrepeats d hd
    exact h d (repeated?_eq_some_iff.2 ⟨hrepeats, hd⟩)
  . intro h d hd
    obtain ⟨hrepeats, hweighs⟩ := repeated?_eq_some_iff.1 hd
    exact h hrepeats d hweighs

theorem decided_category (b : Block) (body : List Stmt) : b.Decided body (b.category body) := by
  unfold category
  cases hfind : body.zipIdx.findSome? (fun e => b.repeated? e.1 e.2) with
  | none =>
    apply Decided.otherwise
    intro l t ht
    rw [List.findSome?_eq_none_iff] at hfind
    exact repeated?_eq_none_iff.1 (hfind (t, l) (List.mem_zipIdx_iff_getElem?.2 ht))
  | some c =>
    obtain ⟨before, ⟨s, k⟩, after, hzip, hs, hbefore⟩ := List.findSome?_eq_some_iff.1 hfind
    obtain ⟨hrepeats, hweighs⟩ := repeated?_eq_some_iff.1 hs
    have hplace : body.zipIdx[before.length]? = some (s, k) := by simp [hzip]
    rw [List.getElem?_zipIdx, Option.map_eq_some_iff] at hplace
    obtain ⟨_, hget, heq⟩ := hplace
    obtain ⟨rfl, rfl⟩ := Prod.mk.inj heq
    rw [Nat.zero_add] at hrepeats
    refine .repeated hget hrepeats hweighs ?_
    intro l hl t ht
    have hmem : (t, l) ∈ before := by
      apply List.mem_of_getElem? (i := l)
      rw [← List.getElem?_append_left hl, ← hzip, List.getElem?_zipIdx, ht]
      simp
    exact repeated?_eq_none_iff.1 (hbefore _ hmem)

theorem Decided.eq_badHabit {b : Block} {body : List Stmt} {c : Category} (h : b.Decided body c)
    (hsame : ∀ j k, j < k → k < body.length → b.same j k = false) : c = .badHabit := by
  cases h with
  | otherwise _ => rfl
  | @repeated k _ _ hs hrepeats _ _ =>
    obtain ⟨j, hj, htrue⟩ := hrepeats
    obtain ⟨hk, -⟩ := List.getElem?_eq_some_iff.1 hs
    rw [hsame j k hj hk] at htrue
    cases htrue

theorem repeats_same?_iff (before rest : List Stmt) (s : Stmt) (n : Node) :
    Repeats ⟨n, same? true (before ++ s :: rest)⟩ before.length
      ↔
    before.any (fun e => (Node.stmt e).alike (.stmt s)) = true := by
  have hs : (before ++ s :: rest)[before.length]? = some s := by simp
  simp only [Repeats, same?, if_true, hs, Option.any_some, Option.any_eq_true, List.any_eq_true]
  constructor
  . rintro ⟨j, hj, e, he, halike⟩
    rw [List.getElem?_append_left hj] at he
    exact ⟨e, List.mem_of_getElem? he, halike⟩
  . rintro ⟨e, he, halike⟩
    obtain ⟨j, hj, rfl⟩ := List.getElem_of_mem he
    refine ⟨j, hj, before[j], ?_, halike⟩
    rw [List.getElem?_append_left hj, List.getElem?_eq_getElem hj]

theorem findSome?_repeated (before rest : List Stmt) (n : Node) :
    (repeated before rest).findSome? verdict?
      =
    (rest.zipIdx before.length).findSome? fun e =>
      repeated? ⟨n, same? true (before ++ rest)⟩ e.1 e.2 := by
  induction rest generalizing before with
  | nil => rfl
  | cons s rest ih =>
    have hnext := ih (before ++ [s])
    rw [List.append_assoc, List.singleton_append, List.length_append,
      List.length_singleton] at hnext
    have hagain := repeats_same?_iff before rest s n
    rw [repeated, List.zipIdx_cons, List.findSome?_cons, repeated?]
    dsimp only
    by_cases h : before.any (fun e => (Node.stmt e).alike (.stmt s)) = true
    . rw [if_pos h, if_pos (hagain.2 h), List.findSome?_cons, hnext]
    . rw [if_neg h, if_neg (mt hagain.1 h), hnext]

theorem category_ofNode {shared : Bool} {n : Node} {body : List Stmt} (h : body? n = some body) :
    (ofNode shared n).category body = Unreachable.category shared body := by
  unfold category Unreachable.category ofNode
  rw [h, Option.getD_some]
  cases shared with
  | true => exact congrArg (·.getD .badHabit) (findSome?_repeated [] body n).symm
  | false =>
    rw [List.findSome?_eq_none_iff.2]
    . rfl
    . rintro ⟨s, k⟩ _
      apply repeated?_eq_none_iff.2
      rintro ⟨j, hj, hsame⟩
      exact absurd (beq_iff_eq.1 hsame) (Nat.ne_of_lt hj)

theorem issues_ofNode (shared : Bool) (n : Node) :
    (ofNode shared n).issues = Unreachable.ofNode shared n := by
  have hnode : (ofNode shared n).node = n := rfl
  unfold issues Unreachable.ofNode
  rw [hnode]
  cases hbody : body? n with
  | none => rfl
  | some body =>
    dsimp only
    cases first? body with
    | none => rfl
    | some s => rw [category_ofNode hbody]

theorem issues_cases (b : Block) : b.issues = [] ∨ ∃ i, b.issues = [i] ∧ b.Reports i := by
  unfold issues
  cases hbody : body? b.node with
  | none => exact .inl rfl
  | some body =>
    dsimp only
    cases hfirst : first? body with
    | none => exact .inl rfl
    | some s =>
      obtain ⟨before, leaving, rest, hcut⟩ := exists_cutAt_of_first? hfirst
      have hdecided : ∀ body', b.node.HasBlock body' → b.Decided body' (b.category body) := by
        intro body' hbody'
        obtain rfl := Option.some.inj (hbody.symm.trans (body?_eq_some_iff.2 hbody'))
        exact b.decided_category body
      refine .inr ⟨_, rfl, ?_, hdecided, ?_⟩
      . exact ⟨body, before, leaving, s, rest, body?_eq_some_iff.1 hbody, hcut, rfl⟩
      . intro body' hbody'
        exact (hdecided body' hbody').eq_badHabit

theorem flatMap_issues_reports (bs : List Block) :
    ∃ reported : List Block,
      reported.Sublist bs ∧ List.Forall₂ Reports reported (bs.flatMap issues) := by
  induction bs with
  | nil => exact ⟨[], .slnil, .nil⟩
  | cons b bs ih =>
    obtain ⟨reported, hsub, hreports⟩ := ih
    rw [List.flatMap_cons]
    rcases b.issues_cases with hnone | ⟨i, hi, hreport⟩
    . rw [hnone]
      exact ⟨reported, hsub.cons b, hreports⟩
    . rw [hi]
      exact ⟨b :: reported, hsub.cons_cons b, .cons hreport hreports⟩

end Block

end Unreachable

theorem Unreachable.category_of_mem_check {body : List Stmt} {i : Issue}
    (h : i ∈ check { body }) : i.category = .badHabit := by
  obtain ⟨n, -, h⟩ := List.mem_flatMap.1 h
  unfold ofNode at h
  split at h
  . cases h
  . split at h
    . cases h
    . obtain rfl := List.mem_singleton.1 h
      rfl

theorem Unreachable.isPrefixOf_message : "Unreach".toList.isPrefixOf message.toList = true :=
  (isPrefixOf_ofList_append _ _ _).trans rfl

theorem Check.Says.eq_unreachableCode {c : Check} (h : c.Says Unreachable.message) :
    c = .unreachableCode := by
  apply beq_iff_eq.1
  rw [← Unreachable.isPrefixOf_message]
  symm
  apply h.isPrefixOf_eq
  intro c
  cases c <;> decide

theorem Issue.IsReport.origin_ne {i : Issue} (h : i.IsReport) : i.origin ≠ .tree := by
  cases h <;> intro horigin <;> cases horigin

namespace Analyzer

open Unreachable

theorem category_of_mem_analyze {a : Analyzer} {code : String} {run : LinterRun} {i : Issue}
    (hi : i ∈ (a.analyze (.str code) run).analyzer.feedback) (horigin : i.origin = .tree)
    (hmessage : i.message = .str message) : i.category = .badHabit := by
  cases hparse : parse code with
  | error fault =>
    by_cases hkind : fault.kind = .internal
    . rw [analyze_of_internal a run hparse hkind] at hi
      cases hi
    . rw [analyze_of_error a run hparse hkind] at hi
      rcases List.mem_cons.1 hi with rfl | hi
      . have hopens := isPrefixOf_message
        rw [← Value.str.inj hmessage, isPrefixOf_ofList_append] at hopens
        cases hopens
      . exact absurd horigin (LinterRun.isReport_of_mem_report hi).origin_ne
  | ok body =>
    rw [analyze_of_ok a run hparse] at hi
    rcases List.mem_append.1 hi with hi | hi
    . obtain ⟨c, -, hi⟩ := List.mem_flatMap.1 hi
      obtain ⟨line, words, category, rfl, hsaid, -, -⟩ := Check.finds_of_mem_run hi
      obtain rfl := Value.str.inj hmessage
      obtain rfl := hsaid.eq_unreachableCode
      exact category_of_mem_check hi
    . exact absurd horigin (LinterRun.isReport_of_mem_report hi).origin_ne

/--
The check for unreachable code goes through the blocks of a program. Whichever statements of them
are the same, the issues belong to some of the blocks, in their order and one to each. Such an issue
is on the statement behind the first one that leaves the block, and the first repeated statement
that weighs decides on its category. The analysis of a text only gives bad habits of this kind.
-/
theorem check_unreachable_sound (a : Analyzer) (p : Program) :
    a.check p .unreachableCode
      = a.add ((p.walk.map (Block.ofNode p.shared)).flatMap Block.issues) ∧
    (∀ blocks : List Block, ∃ reported : List Block,
      reported.Sublist blocks ∧
      List.Forall₂ Block.Reports reported (blocks.flatMap Block.issues)) ∧
    ∀ (code : String) (run : LinterRun), ∀ i ∈ (a.analyze (.str code) run).analyzer.feedback,
      i.origin = .tree → i.message = .str message → i.category = .badHabit := by
  refine ⟨?_, Block.flatMap_issues_reports, ?_⟩
  . rw [List.flatMap_map]
    simp only [Block.issues_ofNode]
    rfl
  . intro code run i
    exact category_of_mem_analyze

-- The assignment that stands there twice decides, although it is executed.
example :
    let twice : Stmt := .assign 2 [.name 2 "x" .store] (.constant 2 .none)
    let body := [twice, twice, .ret 3 none, .ret 4 none, .pass 5]
    (Unreachable.ofNode true (.stmt (.whileLoop 1 (.constant 1 .none) body []))).map (·.category)
      = [.potentialError] := by
  decide +kernel

end Analyzer

end HabitLens.Review
