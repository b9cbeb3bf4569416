import HabitLens.Proofs.EndlessLoop
import HabitLens.Proofs.SharedDefault
import Mathlib.Data.List.Pairwise

/-!
Files that are closed in the block in which they were opened. The walk meets all statements of a
block before it meets the parts of any of them, so it knows of the closing when it comes to the call
that opened the file. If nodes are linked, that call has no issue.
-/

namespace HabitLens

namespace Source

theorem exists_append_of_length_lt {α : Type} {xs xs' ys ys' : List α} {x y : α}
    (h : xs ++ x :: xs' = ys ++ y :: ys') (hlt : xs.length < ys.length) :
    ∃ between, ys = xs ++ x :: between ∧ xs' = between ++ y :: ys' := by
  rcases List.append_eq_append_iff.1 h with ⟨rest, rfl, hrest⟩ | ⟨rest, rfl, -⟩
  . cases rest with
    | nil => simp at hlt
    | cons z between =>
      obtain ⟨rfl, hbetween⟩ := List.cons.inj hrest
      exact ⟨between, rfl, hbetween⟩
  . rw [List.length_append] at hlt
    omega

/-- A statement gives an opened file to a name, and to nothing else. -/
inductive Stmt.Opens : Stmt → String → Expr → Prop where
  | intro (line nameLine callLine openLine : Nat) (name : String) (usage openUsage : Usage)
      (args : List Expr) (keywords : List Keyword) :
      Opens
        (.assign line [.name nameLine name usage]
          (.call callLine (.name openLine "open" openUsage) args keywords))
        name (.call callLine (.name openLine "open" openUsage) args keywords)

inductive Stmt.Closes : Stmt → String → Prop where
  | intro (line callLine attrLine nameLine : Nat) (name : String) (usage attrUsage : Usage)
      (args : List Expr) (keywords : List Keyword) :
      Closes
        (.expr line
          (.call callLine (.attr attrLine (.name nameLine name usage) "close" attrUsage) args
            keywords))
        name

def Stmt.opened? : Stmt → Option (String × Expr)
  | .assign _ [.name _ name _] (.call line (.name openLine "open" usage) args keywords) =>
    some (name, .call line (.name openLine "open" usage) args keywords)
  | _ => none

theorem Stmt.opened?_eq_some_iff {s : Stmt} {name : String} {file : Expr} :
    s.opened? = some (name, file) ↔ s.Opens name file := by
  constructor
  . intro h
    unfold opened? at h
    split at h
    . cases h
      exact .intro _ _ _ _ _ _ _ _ _
    . cases h
  . intro h
    cases h
    rfl

namespace Node

def blocks : Node → List (List Stmt)
  | module body => [body]
  | stmt s =>
    match s with
    | .functionDef _ _ _ _ body _ _ | .classDef _ _ _ _ body _ | .withBlock _ _ _ body => [body]
    | .forLoop _ _ _ _ body orelse | .whileLoop _ _ body orelse | .cond _ _ body orelse =>
      [body, orelse]
    | .tryBlock _ _ body _ orelse finalbody => [body, orelse, finalbody]
    | _ => []
  | handler h => [h.body]
  | matchCase c => [c.body]
  | _ => []

theorem sublist_children_of_mem_blocks {n : Node} {block : List Stmt} (h : block ∈ n.blocks) :
    (block.map stmt).Sublist n.children := by
  have hfirst (xs ys : List Node) : xs.Sublist (xs ++ ys) := List.sublist_append_left xs ys
  have hlast (xs ys : List Node) : ys.Sublist (xs ++ ys) := List.sublist_append_right xs ys
  cases n with
  | module body =>
    obtain rfl := List.mem_singleton.1 h
    apply List.Sublist.refl
  | handler h' =>
    obtain ⟨line, type, name, body⟩ := h'
    obtain rfl := List.mem_singleton.1 h
    apply hlast
  | matchCase c =>
    obtain ⟨pattern, guard, body⟩ := c
    obtain rfl := List.mem_singleton.1 h
    exact (hlast _ _).cons _
  | stmt s =>
    cases s with
    | functionDef line isAsync name params body decorators returns =>
      obtain rfl := List.mem_singleton.1 h
      exact ((hfirst _ _).trans (hfirst _ _)).cons _
    | classDef line name bases keywords body decorators =>
      obtain rfl := List.mem_singleton.1 h
      exact (hlast _ _).trans (hfirst _ _)
    | withBlock line isAsync items body =>
      obtain rfl := List.mem_singleton.1 h
      apply hlast
    | forLoop line isAsync target iter body orelse =>
      rcases List.mem_pair.1 h with rfl | rfl
      . exact ((hfirst _ _).cons _).cons _
      . exact ((hlast _ _).cons _).cons _
    | whileLoop line test body orelse =>
      rcases List.mem_pair.1 h with rfl | rfl
      . exact (hfirst _ _).cons _
      . exact (hlast _ _).cons _
    | cond line test body orelse =>
      rcases List.mem_pair.1 h with rfl | rfl
      . exact (hfirst _ _).cons _
      . exact (hlast _ _).cons _
    | tryBlock line isStar body handlers orelse finalbody =>
      rcases List.mem_cons.1 h with rfl | h
      . exact ((hfirst _ _).trans (hfirst _ _)).trans (hfirst _ _)
      . rcases List.mem_pair.1 h with rfl | rfl
        . exact (hlast _ _).trans (hfirst _ _)
        . apply hlast
    | _ => cases h
  | _ => cases h

def OpensTo (n : Node) (name : String) : Prop :=
  ∃ s file, n = .stmt s ∧ s.Opens name file

theorem opensTo_iff {n : Node} {name : String} :
    n.OpensTo name ↔ ∃ s, n = .stmt s ∧ ∃ file, s.opened? = some (name, file) := by
  simp only [OpensTo, Stmt.opened?_eq_some_iff, exists_and_left]

instance (n : Node) (name : String) : Decidable (n.OpensTo name) :=
  match n with
  | stmt s =>
    decidable_of_iff (s.opened?.map (·.1) = some name) (by
      simp [opensTo_iff, Option.map_eq_some_iff])
  | module _ | expr _ | params _ | param _ | keyword _ | comprehension _ | handler _
  | matchCase _ | withItem _ | pattern _ => .isFalse (by simp [opensTo_iff])

end Node

namespace Visit

theorem below_sublist_levels {linked : Bool} {vs : List Visit} {w : Visit}
    (h : w ∈ levels linked vs) : (w.below linked).Sublist (levels linked vs) := by
  induction vs using levels.induct linked with
  | case1 => simp [levels] at h
  | case2 v vs ih =>
    rw [levels_eq] at h ⊢
    refine List.Sublist.trans ?_ (List.sublist_append_right _ _)
    rcases List.mem_append.1 h with hw | hw
    . -- The next level consists of the children of this one.
      rw [levels_eq]
      refine List.Sublist.trans ?_ (List.sublist_append_left _ _)
      exact (List.infix_flatMap_of_mem hw (below linked)).sublist
    . exact ih hw

theorem mem_visits_of_above {n m : Node} {u : Visit} {rest : List Node} (hu : u ∈ n.visits true)
    (habove : u.above = m :: rest) : (⟨m, rest⟩ : Visit) ∈ n.visits true := by
  have hreached {v : Visit} :
      v ∈ n.visits true
        ↔
      ∃ x ∈ [(⟨n, []⟩ : Visit)], Relation.ReflTransGen (fun x c => c ∈ x.below true) x v := by
    apply mem_levels_iff_reached fun vs => Node.totalWeight (vs.map (·.node))
    . simp [levels]
    . exact levels_eq true
    . intro x xs
      rw [node_flatMap_below]
      exact Node.totalWeight_flatMap_children_lt x.node (xs.map (·.node))
  obtain ⟨root, hroot, hpath⟩ := hreached.1 hu
  rcases Relation.ReflTransGen.cases_tail hpath with rfl | ⟨parent, hparent, hmem⟩
  . rw [List.mem_singleton.1 hroot] at habove
    cases habove
  . obtain ⟨c, -, rfl⟩ := List.mem_map.1 hmem
    obtain ⟨rfl, rfl⟩ := List.cons.inj habove
    exact hreached.2 ⟨root, hroot, hparent⟩

theorem exists_visits_of_block {n m : Node} {block : List Stmt} {i k : Nat} {s t : Stmt}
    (hm : m ∈ n.walk) (hblock : block ∈ m.blocks) (hs : block[i]? = some s)
    (ht : block[k]? = some t) (hik : i < k) :
    ∃ above before between after,
      n.visits true = before ++ ⟨.stmt s, above⟩ :: between ++ ⟨.stmt t, above⟩ :: after := by
  rw [← Node.node_visits true] at hm
  obtain ⟨w, hw, rfl⟩ := List.mem_map.1 hm
  have hpair : [s, t].Sublist block := by
    obtain ⟨before, between, after, rfl, -⟩ := exists_append_of_lt hs ht hik
    simp
  have hvisits :
      [(⟨.stmt s, w.node :: w.above⟩ : Visit), ⟨.stmt t, w.node :: w.above⟩].Sublist
        (n.visits true) := by
    have hchildren := (hpair.map Node.stmt).trans (Node.sublist_children_of_mem_blocks hblock)
    exact (hchildren.map fun c => (⟨c, w.node :: w.above⟩ : Visit)).trans (below_sublist_levels hw)
  obtain ⟨front, back, hfront, hs, hback⟩ := List.cons_sublist_iff.1 hvisits
  obtain ⟨before, between, rfl⟩ := List.append_of_mem hs
  obtain ⟨between', after, rfl⟩ := List.append_of_mem (List.singleton_sublist.1 hback)
  refine ⟨w.node :: w.above, before, between ++ between', after, ?_⟩
  rw [hfront]
  simp

end Visit

end Source

namespace Review

open Source

namespace OpenFile

def known (files : Files) (vs : List Visit) : Files :=
  vs.foldl (fun files v => note files v.node) files

theorem ofVisits_append (files : Files) (us vs : List Visit) :
    ofVisits files (us ++ vs) = ofVisits files us ++ ofVisits (known files us) vs := by
  induction us generalizing files with
  | nil => rfl
  | cons u us ih =>
    rw [List.cons_append, ofVisits, ofVisits, ih, List.append_assoc]
    rfl

theorem opensTo_assign_iff {line : Nat} {targets : List Expr} {value : Expr} {name : String} :
    (Node.stmt (.assign line targets value)).OpensTo name
      ↔
    soleTarget? (.stmt (.assign line targets value)) = some name ∧
      value.calledName? = some "open" := by
  constructor
  . rintro ⟨s, file, heq, hopens⟩
    cases hopens
    cases heq
    exact ⟨rfl, rfl⟩
  . rintro ⟨htarget, hopen⟩
    refine ⟨_, value, rfl, ?_⟩
    unfold soleTarget? at htarget
    split at htarget
    . next heq =>
      cases heq
      unfold Expr.name? at htarget
      unfold Expr.calledName? at hopen
      split at htarget <;> cases htarget
      split at hopen <;> cases hopen
      exact .intro _ _ _ _ _ _ _ _ _
    . cases htarget

theorem not_opensTo_of_ne_assign {n : Node} {name : String}
    (h : ∀ line targets value, n ≠ .stmt (.assign line targets value)) : ¬n.OpensTo name := by
  rintro ⟨s, file, rfl, hopens⟩
  cases hopens
  exact h _ _ _ rfl

theorem get?_note_cases (files : Files) (n : Node) (name : String) :
    n.OpensTo name ∧ (note files n).get? name = some false ∨
    ¬n.OpensTo name ∧ (note files n).get? name = (files.get? name).map (fun _ => true) ∨
    ¬n.OpensTo name ∧ (note files n).get? name = files.get? name := by
  cases n with
  | stmt s =>
    cases s with
    | assign line targets value =>
      rw [opensTo_assign_iff]
      unfold note
      dsimp only
      split
      . next target htarget =>
        simp only [htarget, Option.some.injEq, beq_iff_eq]
        split
        . next hopen =>
          by_cases heq : target = name
          . simp [heq, hopen]
          . simp [heq]
        . next hother => simp [hother]
      . next hnone => simp [hnone]
    | expr line value =>
      refine .inr ?_
      unfold note
      dsimp only
      split
      . next target _ =>
        rw [Table.get?_modify]
        split
        . exact .inl ⟨not_opensTo_of_ne_assign (by simp), rfl⟩
        . exact .inr ⟨not_opensTo_of_ne_assign (by simp), rfl⟩
      . exact .inr ⟨not_opensTo_of_ne_assign (by simp), rfl⟩
    | _ => exact .inr (.inr ⟨not_opensTo_of_ne_assign (by simp), rfl⟩)
  | _ => exact .inr (.inr ⟨not_opensTo_of_ne_assign (by simp), rfl⟩)

theorem closes_of_closedName? {s : Stmt} {name : String} (h : closedName? s = some name) :
    s.Closes name := by
  unfold closedName? at h
  split at h
  . obtain rfl := Option.some.inj h
    exact .intro _ _ _ _ _ _ _ _ _
  . cases h

theorem get?_note_of_closes (files : Files) {s : Stmt} {name : String} (h : s.Closes name) :
    (note files (.stmt s)).get? name = (files.get? name).map fun _ => true := by
  cases h
  simp [note, closedName?, Table.get?_modify]

theorem isSome_get?_known {files : Files} {name : String} (h : (files.get? name).isSome = true)
    (vs : List Visit) : ((known files vs).get? name).isSome = true := by
  induction vs generalizing files with
  | nil => exact h
  | cons v vs ih =>
    apply ih
    rcases get?_note_cases files v.node name with ⟨-, heq⟩ | ⟨-, heq⟩ | ⟨-, heq⟩
    . rw [heq]
      rfl
    . rw [heq, Option.isSome_map]
      exact h
    . rw [heq]
      exact h

theorem get?_known_of_closed {files : Files} {name : String} (h : files.get? name = some true)
    {vs : List Visit} (hvs : ∀ v ∈ vs, ¬v.node.OpensTo name) :
    (known files vs).get? name = some true := by
  induction vs generalizing files with
  | nil => exact h
  | cons v vs ih =>
    obtain ⟨hv, hvs⟩ := List.forall_mem_cons.1 hvs
    apply ih _ hvs
    rcases get?_note_cases files v.node name with ⟨hopens, -⟩ | ⟨-, heq⟩ | ⟨-, heq⟩
    . exact absurd hopens hv
    . rw [heq, h]
      rfl
    . rw [heq, h]

/-- A file counts as closed once it was opened, then closed and not opened again. -/
theorem get?_known {name : String} {u v : Visit} {t : Stmt} (hu : u.node.OpensTo name)
    (hv : v.node = .stmt t) (ht : t.Closes name) (files : Files) (before between : List Visit)
    {after : List Visit} (hafter : ∀ w ∈ after, ¬w.node.OpensTo name) :
    (known files (before ++ u :: between ++ v :: after)).get? name = some true := by
  have hopened : ((known files (before ++ u :: between)).get? name).isSome = true := by
    unfold known
    rw [List.foldl_append, List.foldl_cons]
    apply isSome_get?_known
    rcases get?_note_cases (known files before) u.node name with ⟨-, heq⟩ | ⟨hnot, -⟩ | ⟨hnot, -⟩
    . exact congrArg Option.isSome heq
    . exact absurd hu hnot
    . exact absurd hu hnot
  unfold known at hopened ⊢
  rw [List.foldl_append, List.foldl_cons]
  apply get?_known_of_closed _ hafter
  rw [hv, get?_note_of_closes _ ht]
  obtain ⟨b, hb⟩ := Option.isSome_iff_exists.1 hopened
  rw [hb]
  rfl

def IsFileOf (s : Stmt) (file : Expr) (u : Visit) : Prop :=
  u.node = .expr file ∧ u.above.head? = some (.stmt s)

theorem ofVisit_of_closed {files : Files} {s : Stmt} {name : String} {file : Expr} {u : Visit}
    (hs : s.Opens name file) (hu : IsFileOf s file u) (hclosed : files.get? name = some true) :
    ofVisit files u = [] := by
  have hisClosed : isClosed files u = true := by
    unfold isClosed
    rw [hu.2]
    cases hs
    simp [soleTarget?, Expr.name?, hclosed]
  unfold ofVisit
  rw [hu.1, hisClosed]
  simp

theorem exists_isFileOf {n : Node} {s : Stmt} {name : String} {file : Expr} {above : List Node}
    (hs : s.Opens name file) (hmem : (⟨.stmt s, above⟩ : Visit) ∈ n.visits true) :
    ∃ u ∈ n.visits true, IsFileOf s file u := by
  refine ⟨⟨.expr file, .stmt s :: above⟩, ?_, rfl, rfl⟩
  apply (Visit.below_sublist_levels hmem).subset
  cases hs
  simp [Visit.below, Node.children, Stmt.children]

theorem above_of_isFileOf {n : Node} {s : Stmt} {name : String} {file : Expr} {above : List Node}
    {u : Visit} (hs : s.Opens name file)
    (honly : (n.visits true).Pairwise fun v w => ¬(v.node.OpensTo name ∧ w.node.OpensTo name))
    (hmem : (⟨.stmt s, above⟩ : Visit) ∈ n.visits true) (hu : u ∈ n.visits true)
    (hfile : IsFileOf s file u) : u.above = .stmt s :: above := by
  obtain ⟨rest, habove⟩ : ∃ rest, u.above = .stmt s :: rest := by
    rw [← List.head?_eq_some_iff]
    exact hfile.2
  have hopens : (Node.stmt s).OpensTo name := ⟨s, file, rfl, hs⟩
  have hsymm : Std.Symm fun v w : Visit => ¬(v.node.OpensTo name ∧ w.node.OpensTo name) := by
    constructor
    intro v w h hboth
    exact h ⟨hboth.2, hboth.1⟩
  have hsame : (⟨.stmt s, rest⟩ : Visit) = ⟨.stmt s, above⟩ := by
    by_contra hne
    exact honly.forall (Visit.mem_visits_of_above hu habove) hmem hne ⟨hopens, hopens⟩
  rw [habove, (Visit.mk.inj hsame).2]

end OpenFile

namespace Analyzer

open OpenFile

/--
Let nodes be linked, let a statement of a block give an opened file to a name and a later statement
of that block close it, and let no other statement of the program give an opened file to the name.
Then the call that opens the file is visited, it has no issue when it is, and the check finds what
it finds in the visits before that one and in those behind it.
-/
theorem check_closed_in_block (a : Analyzer) {p : Program} (hlinked : p.linked = true) {n : Node}
    {block : List Stmt} (hn : n ∈ p.walk) (hblock : block ∈ n.blocks) {i k : Nat} (hik : i < k)
    {opening closing : Stmt} {name : String} {file : Expr} (hopening : block[i]? = some opening)
    (hopens : opening.Opens name file) (hclosing : block[k]? = some closing)
    (hcloses : closing.Closes name)
    (honly : p.walk.Pairwise fun m m' => ¬(m.OpensTo name ∧ m'.OpensTo name)) :
    (∃ u ∈ p.visits, IsFileOf opening file u) ∧
    ∀ before u after, p.visits = before ++ u :: after → IsFileOf opening file u →
      ofVisit (known [] before) u = [] ∧
      a.check p .resourceManagement
        = a.add (ofVisits [] before ++ ofVisits (known [] before) after) := by
  have hvisits : p.visits = p.root.visits true := by
    unfold Program.visits
    rw [hlinked]
  have hpairs : (p.root.visits true).Pairwise fun v w =>
      ¬(v.node.OpensTo name ∧ w.node.OpensTo name) := by
    rw [Program.walk, ← Node.node_visits true] at honly
    exact List.pairwise_map.1 honly
  obtain ⟨above, first, between, last, hblocks⟩ :=
    Visit.exists_visits_of_block hn hblock hopening hclosing hik
  have hmem : (⟨.stmt opening, above⟩ : Visit) ∈ p.root.visits true := by
    rw [hblocks]
    simp
  rw [hvisits]
  refine ⟨exists_isFileOf hopens hmem, ?_⟩
  intro before u after hsplit hfile
  have hu : u ∈ p.root.visits true := by
    rw [hsplit]
    simp
  have habove := above_of_isFileOf hopens hpairs hmem hu hfile
  -- The file stands one level below the two statements, so both are visited before it.
  have hlt : (first ++ ⟨.stmt opening, above⟩ :: between).length < before.length := by
    apply Visit.lt_of_depth_lt (v := ⟨.stmt closing, above⟩) (w := u)
      (Node.levelOrder_visits p.root)
    . rw [hblocks, List.getElem?_append_right (Nat.le_refl _)]
      simp
    . rw [hsplit, List.getElem?_append_right (Nat.le_refl _)]
      simp
    . simp [Visit.depth, habove]
  obtain ⟨middle, hbefore, hlast⟩ := exists_append_of_length_lt (hblocks.symm.trans hsplit) hlt
  have hafter : ∀ w ∈ middle, ¬w.node.OpensTo name := by
    intro w hw hopened
    rw [hblocks] at hpairs
    refine hpairs.rel_of_mem_append (x := ⟨.stmt opening, above⟩) (y := w) ?_ ?_ ⟨?_, hopened⟩
    . simp
    . simp [hlast, hw]
    . exact ⟨opening, file, rfl, hopens⟩
  have hnone : ofVisit (known [] before) u = [] := by
    apply ofVisit_of_closed hopens hfile
    rw [hbefore]
    exact get?_known ⟨opening, file, rfl, hopens⟩ rfl hcloses [] first between hafter
  have hissues : OpenFile.check p = ofVisits [] before ++ ofVisits (known [] before) after := by
    unfold OpenFile.check
    rw [hvisits, hsplit, ofVisits_append, ofVisits, hnone, hfile.1]
    rfl
  exact ⟨hnone, congrArg a.add hissues⟩

/-- Another file is opened in between, and the block is the body of a loop. -/
theorem check_closed_in_block_of_loop :
    let code := "for x in y:\n f = open(x)\n g = open(x)\n f.close()"
    ∃ body, parse code = .ok body ∧
      let p : Program := { body, linked := true }
      ∃ before u after, p.visits = before ++ u :: after ∧
        (∃ file, u.node = .expr file ∧ file.line = 2 ∧ file.calledName? = some "open") ∧
        (({} : Analyzer).check p .resourceManagement).feedback
          = ofVisits [] before ++ ofVisits (known [] before) after := by
  intro code
  have heval : (parse code).toOption.any (fun body =>
      (Node.module body).walk.any (fun n => n.blocks.any fun block =>
        block.map (fun s =>
            (s.opened?.map fun e => (e.1, e.2.line, e.2.calledName?), closedName? s))
          == [(some ("f", 2, some "open"), none), (some ("g", 3, some "open"), none),
            (none, some "f")]) &&
      decide ((Node.module body).walk.Pairwise fun m m' =>
        ¬(m.OpensTo "f" ∧ m'.OpensTo "f"))) = true := by
    decide +kernel
  obtain ⟨body, hparse, heval⟩ := exists_of_any_parse heval
  simp only [Bool.and_eq_true, List.any_eq_true, beq_iff_eq, decide_eq_true_eq] at heval
  obtain ⟨⟨n, hn, block, hblock, hshape⟩, honly⟩ := heval
  obtain ⟨opening, rest, rfl, hopening, hrest⟩ := List.map_eq_cons_iff.1 hshape
  obtain ⟨other, rest, rfl, -, hrest⟩ := List.map_eq_cons_iff.1 hrest
  obtain ⟨closing, rfl, hclosing⟩ := List.map_eq_singleton_iff.1 hrest
  obtain ⟨⟨name, file⟩, hopened, hfile⟩ := Option.map_eq_some_iff.1 (congrArg Prod.fst hopening)
  obtain ⟨rfl, hline, hcalled⟩ : name = "f" ∧ file.line = 2 ∧ file.calledName? = some "open" := by
    simpa using hfile
  refine ⟨body, hparse, ?_⟩
  intro p
  obtain ⟨⟨u, hu, hisFile⟩, hall⟩ := check_closed_in_block {} (p := p) rfl hn hblock
    (i := 0) (k := 2) (by omega) rfl (Stmt.opened?_eq_some_iff.1 hopened) rfl
    (closes_of_closedName? (congrArg Prod.snd hclosing)) honly
  obtain ⟨before, after, hsplit⟩ := List.append_of_mem hu
  refine ⟨before, u, after, hsplit, ⟨file, hisFile.1, hline, hcalled⟩, ?_⟩
  rw [(hall before u after hsplit hisFile).2]
  rfl

-- A closing that stands one level further down is met too late.
example :
    (parse "f = open(x)\nif x:\n f.close()").toOption.any (fun body =>
      (OpenFile.check { body, linked := true }).map (·.category) == [.potentialError]) = true := by
  decide +kernel

end Analyzer

end Review

end HabitLens
