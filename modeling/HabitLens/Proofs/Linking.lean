import Mathlib.Data.List.Forall2
import HabitLens.Proofs.Depth
import HabitLens.Proofs.Merging

/-!
What the checks make of links, that is, of knowing the nodes above each node. Most of them do not
look at links. Handlers keep their issues, some of them in a milder category; opened files lose some
of their issues, and the function around a file decides on the category of those that stay.
-/

namespace HabitLens

namespace Source

def Visit.unlinked (v : Visit) : Visit :=
  ⟨v.node, []⟩

theorem Node.visits_eq_map_unlinked (n : Node) :
    n.visits false = (n.visits true).map Visit.unlinked := by
  rw [visits_unlinked, ← node_visits true, List.map_map]
  rfl

theorem Expr.eq_name_of_name? {e : Expr} {id : String} (h : e.name? = some id) :
    ∃ line usage, e = .name line id usage := by
  cases e with
  | name line id' usage =>
    cases h
    exact ⟨line, usage, rfl⟩
  | _ => cases h

theorem Expr.eq_call_of_calledName? {e : Expr} {id : String} (h : e.calledName? = some id) :
    ∃ line nameLine usage args keywords,
      e = .call line (.name nameLine id usage) args keywords := by
  cases e with
  | call line function args keywords =>
    cases function with
    | name nameLine id' usage =>
      cases h
      exact ⟨line, nameLine, usage, args, keywords, rfl⟩
    | _ => cases h
  | _ => cases h

end Source

namespace Review

open Source

namespace BroadHandler

def isBroad (v : Visit) : Bool :=
  match v.node with
  | .handler h => catchesAll h
  | _ => false

/-- A handler without a type, or for all exceptions. -/
inductive IsBroad : Visit → Prop where
  | bare (line : Nat) (name : Option String) (body : List Stmt) (above : List Node) :
      IsBroad ⟨.handler (.mk line none name body), above⟩
  | general (line typeLine : Nat) (usage : Usage) (name : Option String) (body : List Stmt)
      (above : List Node) :
      IsBroad ⟨.handler (.mk line (some (.name typeLine "Exception" usage)) name body), above⟩

theorem isBroad_iff {v : Visit} : isBroad v = true ↔ IsBroad v := by
  constructor
  . intro h
    obtain ⟨n, above⟩ := v
    cases n with
    | handler handler =>
      obtain ⟨line, type, name, body⟩ := handler
      cases type with
      | none => apply IsBroad.bare
      | some e =>
        obtain ⟨typeLine, usage, rfl⟩ := Expr.eq_name_of_name? (beq_iff_eq.1 h)
        apply IsBroad.general
    | _ => cases h
  . intro h
    cases h with
    | bare => rfl
    | general => rfl

instance (v : Visit) : Decidable (IsBroad v) :=
  decidable_of_iff _ isBroad_iff

/-- A handler that only passes, in a `try` statement with a `finally` block. -/
inductive CleansUp : Visit → Prop where
  | intro (line : Nat) (type : Option Expr) (name : Option String) (passLine tryLine : Nat)
      (isStar : Bool) (body : List Stmt) (handlers : List Handler) (orelse finalbody : List Stmt)
      (above : List Node) (h : finalbody ≠ []) :
      CleansUp
        ⟨.handler (.mk line type name [.pass passLine]),
          .stmt (.tryBlock tryLine isStar body handlers orelse finalbody) :: above⟩

/-- How the issues of a handler compare: the one found without links and the one found with them. -/
structure Compared (v : Visit) (found : Issue × Issue) : Prop where
  handler : ∃ h, v.node = .handler h ∧ found.1.line = .int h.line
  line : found.2.line = found.1.line
  message : found.2.message = found.1.message
  changed : found.2.category ≠ found.1.category ↔ CleansUp v
  category : found.2.category ≠ found.1.category →
    found.1.category = .runtimeError ∧ found.2.category = .badHabit

theorem cleansUp_iff {h : Handler} {above : List Node} :
    CleansUp ⟨.handler h, above⟩
      ↔
    onlyPasses h = true ∧ above.head?.any hasFinally = true := by
  constructor
  . intro hcleans
    cases hcleans with
    | intro line type name passLine tryLine isStar body handlers orelse finalbody above hfinal =>
      simp [onlyPasses, Handler.body, hasFinally, hfinal]
  . rintro ⟨hpasses, hfinally⟩
    obtain ⟨line, type, name, body⟩ := h
    unfold onlyPasses at hpasses
    split at hpasses
    . next passLine hbody =>
      obtain rfl : body = [.pass passLine] := hbody
      cases above with
      | nil => cases hfinally
      | cons n above =>
        replace hfinally : hasFinally n = true := hfinally
        unfold hasFinally at hfinally
        split at hfinally
        . next finalbody =>
          constructor
          intro hnil
          rw [hnil] at hfinally
          cases hfinally
        . cases hfinally
    . cases hpasses

theorem ofVisit_of_not_isBroad {v : Visit} (h : isBroad v = false) : ofVisit v = [] := by
  obtain ⟨n, above⟩ := v
  cases n with
  | handler h' =>
    replace h : catchesAll h' = false := h
    simp [ofVisit, h]
  | _ => rfl

theorem ofVisit_compared {v : Visit} (h : isBroad v = true) :
    ∃ found, ofVisit v.unlinked = [found.1] ∧ ofVisit v = [found.2] ∧ Compared v found := by
  obtain ⟨n, above⟩ := v
  cases n with
  | handler h' =>
    replace h : catchesAll h' = true := h
    cases hpasses : onlyPasses h' with
    | false =>
      let category := if h'.body.any tells then Category.badHabit else .potentialError
      let issue := Issue.found h'.line broadMessage category
      have hcleans : ¬CleansUp ⟨.handler h', above⟩ := by simp [cleansUp_iff, hpasses]
      refine ⟨(issue, issue), ?_, ?_, ⟨h', rfl, rfl⟩, rfl, rfl, by simp [hcleans], by simp⟩
      . simp [ofVisit, Visit.unlinked, h, hpasses, issue, category]
      . simp [ofVisit, h, hpasses, issue, category]
    | true =>
      let category := if above.head?.any hasFinally then Category.badHabit else .runtimeError
      refine ⟨(.found h'.line silentMessage .runtimeError, .found h'.line silentMessage category),
        ?_, ?_, ⟨h', rfl, rfl⟩, rfl, rfl, ?_, ?_⟩
      . simp [ofVisit, Visit.unlinked, h, hpasses]
      . simp [ofVisit, h, hpasses, category]
      . rw [cleansUp_iff]
        cases hfinally : above.head?.any hasFinally <;>
          simp [Issue.found, category, hpasses, hfinally]
      . cases hfinally : above.head?.any hasFinally <;> simp [Issue.found, category, hfinally]
  | _ => cases h

theorem flatMap_ofVisit_compared (vs : List Visit) :
    ∃ compared : List (Issue × Issue),
      (vs.map Visit.unlinked).flatMap ofVisit = compared.map (·.1) ∧
      vs.flatMap ofVisit = compared.map (·.2) ∧
      List.Forall₂ Compared (vs.filter IsBroad) compared := by
  induction vs with
  | nil => exact ⟨[], rfl, rfl, .nil⟩
  | cons v vs ih =>
    obtain ⟨compared, hplain, hlinked, hcompared⟩ := ih
    rw [List.map_cons, List.flatMap_cons, List.flatMap_cons, hplain, hlinked]
    cases h : isBroad v with
    | false =>
      have hunlinked : isBroad v.unlinked = false := h
      rw [ofVisit_of_not_isBroad h, ofVisit_of_not_isBroad hunlinked]
      rw [List.filter_cons_of_neg (by simp [← isBroad_iff, h])]
      exact ⟨compared, rfl, rfl, hcompared⟩
    | true =>
      obtain ⟨found, hplain, hlinked, hfound⟩ := ofVisit_compared h
      rw [hplain, hlinked, List.filter_cons_of_pos (by simp [← isBroad_iff, h])]
      exact ⟨found :: compared, rfl, rfl, .cons hfound hcompared⟩

end BroadHandler

namespace OpenFile

inductive Opens : Visit → Prop where
  | intro (line nameLine : Nat) (usage : Usage) (args : List Expr) (keywords : List Keyword)
      (above : List Node) :
      Opens ⟨.expr (.call line (.name nameLine "open" usage) args keywords), above⟩

inductive IsWith : Node → Prop where
  | intro (line : Nat) (items : List WithItem) (body : List Stmt) :
      IsWith (.stmt (.withBlock line false items body))

inductive IsFunction : Node → Prop where
  | intro (line : Nat) (name : String) (params : Params) (body : List Stmt)
      (decorators : List Expr) (returns : Option Expr) :
      IsFunction (.stmt (.functionDef line false name params body decorators returns))

/-- A `try` statement with a `finally` block. -/
inductive HasCleanup : Node → Prop where
  | intro (line : Nat) (body : List Stmt) (handlers : List Handler) (orelse finalbody : List Stmt)
      (h : finalbody ≠ []) :
      HasCleanup (.stmt (.tryBlock line false body handlers orelse finalbody))

theorem calls_iff {v : Visit} : v.node.calls "open" = true ↔ Opens v := by
  constructor
  . intro h
    obtain ⟨n, above⟩ := v
    cases n with
    | expr e =>
      obtain ⟨line, nameLine, usage, args, keywords, rfl⟩ :=
        Expr.eq_call_of_calledName? (beq_iff_eq.1 h)
      constructor
    | _ => cases h
  . intro h
    cases h
    rfl

instance (v : Visit) : Decidable (Opens v) :=
  decidable_of_iff _ calls_iff

theorem isWith_iff {n : Node} : isWith n = true ↔ IsWith n := by
  constructor
  . intro h
    unfold isWith at h
    split at h
    . rw [Bool.not_eq_true'] at h
      subst h
      constructor
    . cases h
  . intro h
    cases h
    rfl

theorem isFunction_iff {n : Node} : isFunction n = true ↔ IsFunction n := by
  constructor
  . intro h
    unfold isFunction at h
    split at h
    . rw [Bool.not_eq_true'] at h
      subst h
      constructor
    . cases h
  . intro h
    cases h
    rfl

theorem hasCleanup_iff {n : Node} : hasCleanup n = true ↔ HasCleanup n := by
  constructor
  . intro h
    unfold hasCleanup at h
    split at h
    . constructor
      simpa using h
    . cases h
  . intro h
    cases h with
    | intro line body handlers orelse finalbody h => simpa [hasCleanup] using h

theorem not_isFunction_iff {n : Node} : isFunction n = false ↔ ¬IsFunction n := by
  rw [← isFunction_iff, Bool.not_eq_true]

def Tells (category : Category) (v : Visit) (i : Issue) : Prop :=
  ∃ e, v.node = .expr e ∧ i = .found e.line message category

/-- The issue of an opened file that is found with links. -/
structure Judged (v : Visit) (i : Issue) : Prop where
  tells : Tells i.category v i
  outsideWith : ∀ n ∈ v.above, ¬IsWith n
  outsideFunction : i.category = .potentialError ↔ ∀ n ∈ v.above, ¬IsFunction n
  inFunction : ∀ inner f outer, v.above = inner ++ f :: outer → IsFunction f →
    (∀ n ∈ inner, ¬IsFunction n) →
    (i.category = .badHabit ↔ ∃ n ∈ f.walk, HasCleanup n) ∧
    (i.category = .runtimeError ↔ ∀ n ∈ f.walk, ¬HasCleanup n)

theorem category_eq_potentialError_iff (v : Visit) :
    category v = .potentialError ↔ ∀ n ∈ v.above, ¬IsFunction n := by
  simp only [← not_isFunction_iff]
  unfold category
  cases h : v.above.find? isFunction with
  | none => simpa using h
  | some f =>
    have hmem := List.mem_of_find?_eq_some h
    have hf := List.find?_some h
    constructor
    . dsimp only
      split <;> intro hcategory <;> cases hcategory
    . intro hnone
      rw [hnone f hmem] at hf
      cases hf

theorem category_of_nearest {v : Visit} {inner outer : List Node} {f : Node}
    (habove : v.above = inner ++ f :: outer) (hf : IsFunction f)
    (hinner : ∀ n ∈ inner, ¬IsFunction n) :
    category v = if f.walk.any hasCleanup then .badHabit else .runtimeError := by
  have hfind : v.above.find? isFunction = some f := by
    rw [habove, List.find?_append, List.find?_eq_none.2 (by simpa [isFunction_iff] using hinner)]
    simp [isFunction_iff.2 hf]
  rw [category, hfind]

theorem category_cleanup {f : Node} {category : Category}
    (h : category = if f.walk.any hasCleanup then .badHabit else .runtimeError) :
    (category = .badHabit ↔ ∃ n ∈ f.walk, HasCleanup n) ∧
      (category = .runtimeError ↔ ∀ n ∈ f.walk, ¬HasCleanup n) := by
  subst h
  simp only [← hasCleanup_iff]
  cases hany : f.walk.any hasCleanup with
  | true => simpa using hany
  | false => simpa using hany

theorem ofVisit_cases (files : Files) (v : Visit) :
    ofVisit files v = [] ∨ Opens v ∧ ∃ i, ofVisit files v = [i] ∧ Judged v i := by
  unfold ofVisit
  split
  . next e hnode =>
    split
    . next h =>
      simp only [Bool.and_eq_true, Bool.not_eq_true', List.any_eq_false] at h
      obtain ⟨⟨hcalls, hwith⟩, -⟩ := h
      refine .inr ⟨calls_iff.1 hcalls, _, rfl, ⟨e, hnode, rfl⟩, ?_, ?_, ?_⟩
      . intro n hn
        rw [← isWith_iff]
        exact hwith n hn
      . apply category_eq_potentialError_iff
      . intro inner f outer habove hf hinner
        exact category_cleanup (category_of_nearest habove hf hinner)
    . exact .inl rfl
  . exact .inl rfl

theorem ofVisits_judged (files : Files) (vs : List Visit) :
    ∃ kept : List Visit,
      kept.Sublist (vs.filter Opens) ∧ List.Forall₂ Judged kept (ofVisits files vs) := by
  -- Which files count as closed decides only on what is left out, so any `files` will do.
  induction vs generalizing files with
  | nil => exact ⟨[], .slnil, .nil⟩
  | cons v vs ih =>
    obtain ⟨kept, hsub, hkept⟩ := ih (note files v.node)
    rw [ofVisits]
    rcases ofVisit_cases files v with hnone | ⟨hopens, i, hi, hjudged⟩
    . rw [hnone]
      refine ⟨kept, hsub.trans ?_, hkept⟩
      exact (List.sublist_cons_self v vs).filter _
    . rw [hi, List.filter_cons_of_pos (by simpa using hopens)]
      exact ⟨v :: kept, hsub.cons_cons v, .cons hjudged hkept⟩

theorem ofVisit_unlinked_of_not_opens (files : Files) {v : Visit} (h : ¬Opens v) :
    ofVisit files v.unlinked = [] := by
  rw [← calls_iff, Bool.not_eq_true] at h
  obtain ⟨n, above⟩ := v
  replace h : n.calls "open" = false := h
  cases n with
  | expr e => simp [ofVisit, Visit.unlinked, h]
  | _ => rfl

theorem ofVisit_unlinked_of_opens (files : Files) {v : Visit} (h : Opens v) :
    ∃ i, ofVisit files v.unlinked = [i] ∧ Tells .potentialError v i := by
  have hcalls := calls_iff.2 h
  cases h with
  | intro line nameLine usage args keywords above =>
    refine ⟨.found line message .potentialError, ?_, _, rfl, rfl⟩
    simp only [ofVisit, Visit.unlinked, hcalls]
    rfl

theorem ofVisits_unlinked_tells (files : Files) (vs : List Visit) :
    List.Forall₂ (Tells .potentialError) (vs.filter Opens)
      (ofVisits files (vs.map Visit.unlinked)) := by
  induction vs generalizing files with
  | nil => exact .nil
  | cons v vs ih =>
    rw [List.map_cons, ofVisits]
    by_cases h : Opens v
    . obtain ⟨i, hi, htells⟩ := ofVisit_unlinked_of_opens files h
      rw [hi, List.filter_cons_of_pos (by simpa using h)]
      exact .cons htells (ih _)
    . rw [ofVisit_unlinked_of_not_opens files h, List.filter_cons_of_neg (by simpa using h)]
      exact ih _

end OpenFile

namespace Analyzer

/--
What links change for a program, whatever the analyzer knows. Four of the checks find the same.
Handlers that catch everything have one issue each either way, with the same line and message, and
in a milder category if and only if they only pass and their `try` statement has a `finally` block.
Without links every opened file has a potential error, in the order of the walk; with links some of
these issues stay, none of a file that is opened in a `with` statement, and the nearest function
around the file decides on their category.
-/
theorem check_linked (a : Analyzer) (body : List Stmt) (shared : Bool) :
    let plain : Program := { body, shared }
    let linked : Program := { body, shared, linked := true }
    (∀ c, c ≠ .exceptionHandling → c ≠ .resourceManagement →
      a.check linked c = a.check plain c) ∧
    (∃ compared : List (Issue × Issue),
      a.check plain .exceptionHandling = a.add (compared.map (·.1)) ∧
      a.check linked .exceptionHandling = a.add (compared.map (·.2)) ∧
      List.Forall₂ BroadHandler.Compared (linked.visits.filter BroadHandler.IsBroad) compared) ∧
    (∃ (opened reported : List Issue) (kept : List Visit),
      a.check plain .resourceManagement = a.add opened ∧
      a.check linked .resourceManagement = a.add reported ∧
      List.Forall₂ (OpenFile.Tells .potentialError) (linked.visits.filter OpenFile.Opens) opened ∧
      kept.Sublist (linked.visits.filter OpenFile.Opens) ∧
      List.Forall₂ OpenFile.Judged kept reported) := by
  intro plain linked
  have hvisits : plain.visits = linked.visits.map Visit.unlinked :=
    Node.visits_eq_map_unlinked (.module body)
  refine ⟨?_, ?_, ?_⟩
  . intro c hhandlers hfiles
    cases c with
    | exceptionHandling => exact absurd rfl hhandlers
    | resourceManagement => exact absurd rfl hfiles
    | _ => rfl
  . obtain ⟨compared, hplain, hlinked, hcompared⟩ :=
      BroadHandler.flatMap_ofVisit_compared linked.visits
    refine ⟨compared, ?_, ?_, hcompared⟩
    . rw [← hplain, ← hvisits]
      rfl
    . rw [← hlinked]
      rfl
  . obtain ⟨kept, hsub, hkept⟩ := OpenFile.ofVisits_judged [] linked.visits
    have hopened := OpenFile.ofVisits_unlinked_tells [] linked.visits
    rw [← hvisits] at hopened
    exact ⟨_, _, kept, rfl, rfl, hopened, hsub, hkept⟩

end Analyzer

end Review

end HabitLens
