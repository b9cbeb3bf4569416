import HabitLens.Proofs.EndlessLoop
import HabitLens.Proofs.SharedDefault

/-!
Which loop a `break` leaves: the nearest one in whose body it stands, unless a definition comes
between them. The check for infinite loops does not ask for it. A `break` of another loop that
stands in a loop without an end keeps the check from reporting that loop.
-/

namespace HabitLens

namespace Source

/-- What a child is to its node, as far as it matters to a `break` in the child. -/
inductive Role where
  | loopBody
  | definition
  | other

def Node.parts : Node → List (Role × Node)
  | stmt (.forLoop _ _ target iter body orelse) =>
    (.other, .expr target) :: (.other, .expr iter) ::
      (body.map (fun s => (.loopBody, .stmt s)) ++ orelse.map (fun s => (.other, .stmt s)))
  | stmt (.whileLoop _ test body orelse) =>
    (.other, .expr test) ::
      (body.map (fun s => (.loopBody, .stmt s)) ++ orelse.map (fun s => (.other, .stmt s)))
  | n@(stmt (.functionDef ..)) | n@(stmt (.classDef ..)) => n.children.map (.definition, ·)
  | n => n.children.map (.other, ·)

theorem Node.snd_parts (n : Node) : n.parts.map (·.2) = n.children := by
  unfold parts
  split <;> simp [children, Stmt.children, Function.comp_def]

structure Spot where
  node : Node
  depth : Nat
  /-- The depth of the loop that a `break` at this place leaves. -/
  loop : Option Nat

namespace Spot

def child (s : Spot) : Role × Node → Spot
  | (.loopBody, c) => { node := c, depth := s.depth + 1, loop := some s.depth }
  | (.definition, c) => { node := c, depth := s.depth + 1, loop := none }
  | (.other, c) => { node := c, depth := s.depth + 1, loop := s.loop }

def below (s : Spot) : List Spot :=
  s.node.parts.map s.child

theorem node_child (s : Spot) (c : Role × Node) : (s.child c).node = c.2 := by
  obtain ⟨role, n⟩ := c
  cases role <;> rfl

theorem node_flatMap_below (ss : List Spot) :
    (ss.flatMap below).map (·.node) = (ss.map (·.node)).flatMap Node.children := by
  simp only [below, List.map_flatMap, List.flatMap_map, List.map_map, Function.comp_def, node_child,
    Node.snd_parts]

def levels : List Spot → List Spot
  | [] => []
  | s :: ss => s :: ss ++ levels ((s :: ss).flatMap below)
termination_by ss => Node.totalWeight (ss.map (·.node))
decreasing_by
  rw [node_flatMap_below]
  exact Node.totalWeight_flatMap_children_lt s.node (ss.map (·.node))

theorem levels_eq (ss : List Spot) : levels ss = ss ++ levels (ss.flatMap below) := by
  cases ss with
  | nil => simp [levels]
  | cons s ss => rw [levels]

theorem node_levels (ss : List Spot) :
    (levels ss).map (·.node) = Node.levels (ss.map (·.node)) := by
  induction ss using levels.induct with
  | case1 => simp [levels, Node.levels]
  | case2 s ss ih => rw [levels_eq, List.map_append, ih, node_flatMap_below, ← Node.levels_eq]

def Within (t s : Spot) : Prop :=
  Relation.ReflTransGen (fun s c => c ∈ s.below) s t

theorem mem_levels_iff {ss : List Spot} {t : Spot} :
    t ∈ levels ss ↔ ∃ s ∈ ss, t.Within s := by
  apply mem_levels_iff_reached fun ss => Node.totalWeight (ss.map (·.node))
  . simp [levels]
  . exact levels_eq
  . intro s ss
    rw [node_flatMap_below]
    exact Node.totalWeight_flatMap_children_lt s.node (ss.map (·.node))

theorem Within.eq_or_below {t s : Spot} (h : t.Within s) : t = s ∨ ∃ c ∈ s.below, t.Within c := by
  rcases Relation.ReflTransGen.cases_head h with rfl | ⟨c, hc, hwithin⟩
  . exact .inl rfl
  . exact .inr ⟨c, hc, hwithin⟩

/--
The loop that a `break` leaves below a place: the same as at that place, none at all because of a
definition, or a loop that is not further up.
-/
theorem Within.loop_cases {t s : Spot} (h : t.Within s) :
    t.loop = s.loop ∨ t.loop = none ∨ ∃ d, s.depth ≤ d ∧ t.loop = some d := by
  induction h using Relation.ReflTransGen.head_induction_on with
  | refl => exact .inl rfl
  | @head s c hc _ ih =>
    obtain ⟨⟨role, n⟩, -, rfl⟩ := List.mem_map.1 hc
    rcases ih with hsame | hnone | ⟨d, hd, hloop⟩
    . cases role with
      | loopBody => exact .inr (.inr ⟨s.depth, Nat.le_refl _, hsame⟩)
      | definition => exact .inr (.inl hsame)
      | other => exact .inl hsame
    . exact .inr (.inl hnone)
    . refine .inr (.inr ⟨d, ?_, hloop⟩)
      cases role <;> exact Nat.le_of_succ_le hd

def breaks (w : Spot) : List Spot :=
  (levels [w]).filter (·.node.isBreak)

theorem breaks_eq_nil_iff (w : Spot) :
    w.breaks = [] ↔ ∀ m ∈ w.node.walk, m.isBreak = false := by
  have hwalk : w.node.walk = (levels [w]).map (·.node) := (node_levels [w]).symm
  simp [breaks, hwalk, List.filter_eq_nil_iff]

def elsePart (w : Spot) : List Spot :=
  match w.node with
  | .stmt (.whileLoop _ _ _ orelse) => levels (orelse.map fun s => w.child (.other, .stmt s))
  | _ => []

/--
A `while True` loop that nothing ends: neither does it hold anything else that may end it, nor a
`break` that leaves it, and every `break` in it leaves some loop.
-/
def IsNeverLeft (w : Spot) : Prop :=
  w.node.IsWhileTrue ∧ (∀ m ∈ w.node.walk, m.MayExit → m.isBreak = true) ∧
  ∀ b ∈ w.breaks, b.loop ≠ some w.depth ∧ b.loop ≠ none

theorem mem_elsePart_of_loop {w b : Spot} {d : Nat} (hw : w.node.IsWhileTrue)
    (hb : b ∈ w.breaks) (hloop : b.loop = some d) (hd : d < w.depth) : b ∈ w.elsePart := by
  obtain ⟨node, depth, loop⟩ := w
  obtain ⟨line, testLine, body, orelse⟩ := hw
  obtain ⟨hb, hbreak⟩ := List.mem_filter.1 hb
  obtain ⟨_, hw, hwithin⟩ := mem_levels_iff.1 hb
  obtain rfl := List.mem_singleton.1 hw
  rcases hwithin.eq_or_below with rfl | ⟨c, hc, hwithin⟩
  . cases hbreak
  . simp only [below, Node.parts, List.map_cons, List.map_append, List.map_map, List.mem_cons,
      List.mem_append] at hc
    rcases hc with rfl | hc | hc
    -- The condition is a constant, so there is nothing below it.
    . rcases hwithin.eq_or_below with rfl | ⟨_, hnone, -⟩
      . cases hbreak
      . cases hnone
    . obtain ⟨s, -, rfl⟩ := List.mem_map.1 hc
      rcases hwithin.loop_cases with hsame | hnone | ⟨e, he, hsome⟩
      . cases hloop.symm.trans hsame
        exact absurd hd (Nat.lt_irrefl _)
      . cases hloop.symm.trans hnone
      . cases hloop.symm.trans hsome
        exact absurd hd (Nat.not_lt.2 (Nat.le_of_succ_le he))
    . exact mem_levels_iff.2 ⟨c, hc, hwithin⟩

instance (w : Spot) : Decidable w.IsNeverLeft :=
  inferInstanceAs (Decidable (_ ∧ (∀ m ∈ w.node.walk, m.MayExit → m.isBreak = true) ∧
    ∀ b ∈ w.breaks, b.loop ≠ some w.depth ∧ b.loop ≠ none))

end Spot

def Node.spots (n : Node) : List Spot :=
  Spot.levels [{ node := n, depth := 0, loop := none }]

theorem Node.node_spots (n : Node) : n.spots.map (·.node) = n.walk :=
  Spot.node_levels [_]

end Source

namespace Review

open Source

namespace InfiniteLoop

theorem mayExit_of_isBreak {n : Node} (h : n.isBreak = true) : n.MayExit := by
  unfold Node.isBreak at h
  split at h
  . exact .breaks _
  . cases h

/-- Among the loops that nothing ends, those that hold no `break` are reported. -/
theorem isEndless_iff_of_isNeverLeft {w : Spot} (h : w.IsNeverLeft) :
    w.node.IsEndless ↔ w.breaks = [] := by
  obtain ⟨hwhile, hexits, -⟩ := h
  rw [w.breaks_eq_nil_iff]
  constructor
  . rintro ⟨-, hnone⟩ m hm
    apply Bool.eq_false_iff.2
    intro hbreak
    exact hnone m (Node.mem_walk_iff.1 hm) (mayExit_of_isBreak hbreak)
  . intro hbreaks
    refine ⟨hwhile, ?_⟩
    intro m hm hexit
    rw [← Node.mem_walk_iff] at hm
    have hbreak := hexits m hm hexit
    rw [hbreaks m hm] at hbreak
    cases hbreak

end InfiniteLoop

namespace Analyzer

open InfiniteLoop

/--
The issues of the check for infinite loops, place by place. A loop that nothing ends has an issue if
no `break` stands in it. Otherwise it has none, although each `break` in it leaves a loop further
down, or stands in the `else` part and leaves a loop further up.
-/
theorem check_loops_never_left (a : Analyzer) (p : Program) :
    let spots := p.root.spots
    spots.map (·.node) = p.walk ∧
    a.check p .infiniteLoops = a.add (spots.flatMap fun s => ofNode s.node) ∧
    ∀ w ∈ spots, w.IsNeverLeft →
      (w.breaks = [] → ofNode w.node = [issue w.node]) ∧
      ∀ b ∈ w.breaks, ofNode w.node = [] ∧
        ∃ d, b.loop = some d ∧ (w.depth < d ∨ b ∈ w.elsePart ∧ d < w.depth) := by
  intro spots
  have hwalk : spots.map (·.node) = p.walk := Node.node_spots p.root
  refine ⟨hwalk, ?_, ?_⟩
  . rw [← List.flatMap_map, hwalk]
    rfl
  . intro w _ hw
    have hendless := isEndless_iff_of_isNeverLeft hw
    refine ⟨fun hnone => ofNode_of_isEndless (hendless.2 hnone), ?_⟩
    intro b hb
    constructor
    . apply ofNode_of_not_isEndless
      rw [hendless]
      exact List.ne_nil_of_mem hb
    . obtain ⟨hwhile, -, hbreaks⟩ := hw
      obtain ⟨hown, hsome⟩ := hbreaks b hb
      obtain ⟨d, hd⟩ := Option.ne_none_iff_exists'.1 hsome
      refine ⟨d, hd, ?_⟩
      rcases Nat.lt_trichotomy d w.depth with hlt | rfl | hgt
      . exact .inr ⟨Spot.mem_elsePart_of_loop hwhile hb hd hlt, hlt⟩
      . exact absurd hd hown
      . exact .inl hgt

/-- Here the loop on line 2 holds no `break`: that of the loop around it comes behind it. -/
theorem check_loops_never_left_without_break :
    let code := "for x in y:\n while True:\n  for z in x: continue\n break"
    ∃ body, parse code = .ok body ∧
      ∃ i ∈ (({} : Analyzer).check { body } .infiniteLoops).feedback,
        i.line = .int 2 ∧ i.message = .str message := by
  intro code
  have heval : (parse code).toOption.any (fun body =>
      (Node.module body).spots.any fun w =>
        decide w.IsNeverLeft && w.breaks.isEmpty && w.node.line == 2) = true := by
    decide +kernel
  obtain ⟨body, hparse, heval⟩ := exists_of_any_parse heval
  simp only [List.any_eq_true, Bool.and_eq_true, decide_eq_true_eq, List.isEmpty_iff,
    beq_iff_eq] at heval
  obtain ⟨w, hw, ⟨hnever, hbreaks⟩, hline⟩ := heval
  obtain ⟨-, hcheck, hissues⟩ := check_loops_never_left {} { body }
  have hissue := (hissues w hw hnever).1 hbreaks
  refine ⟨body, hparse, _, mem_feedback_check hcheck hw hissue, ?_, rfl⟩
  simp [issue, Issue.found, hline]

/--
Nothing ends the two `while` loops of this program. In the one, a `break` leaves the loop in it; in
the `else` part of the other, a `break` leaves the loop around it. None of them is reported.
-/
theorem check_overlooks_loops_never_left :
    let code := "for x in y:\n  while True: pass\n  else: break\nwhile True:\n  for z in y: break"
    ∃ body, parse code = .ok body ∧
      ((Node.module body).spots.filter fun w => w.IsNeverLeft).map (·.node.line) = [4, 2] ∧
      (({} : Analyzer).check { body } .infiniteLoops).feedback = [] := by
  intro code
  have heval : (parse code).toOption.any (fun body =>
      ((Node.module body).spots.filter fun w => w.IsNeverLeft).map (·.node.line) == [4, 2] &&
      (({} : Analyzer).check { body } .infiniteLoops).feedback.isEmpty) = true := by
    decide +kernel
  obtain ⟨body, hparse, heval⟩ := exists_of_any_parse heval
  simp only [Bool.and_eq_true, List.isEmpty_iff, beq_iff_eq] at heval
  exact ⟨body, hparse, heval⟩

end Analyzer

end Review

end HabitLens
