import HabitLens.Proofs.Resilience

/-!
Where the simple analysis breaks off. It has the list of built-in names at hand only after it has
met a name that is read. So it breaks off at the first attribute of a name to which nothing is
assigned, unless a name that is read comes before on the walk. All nodes before that one have their
remarks.
-/

namespace HabitLens.Service

open Act
open Source
open Review

namespace Fallback

def Assigned (nodes : List Node) (name : String) : Prop :=
  ∃ line targets value nameLine usage,
    Node.stmt (.assign line targets value) ∈ nodes ∧ Expr.name nameLine name usage ∈ targets

/-- An attribute of a plain name to which nothing is assigned. -/
inductive IsStray (nodes : List Node) : Node → Prop where
  | intro (line nameLine : Nat) (object name : String) (objectUsage usage : Usage)
      (h : ¬Assigned nodes object) :
      IsStray nodes (.expr (.attr line (.name nameLine object objectUsage) name usage))

/-- An attribute of that kind comes behind these nodes, and none of them is a name that is read. -/
def BreaksBehind (nodes before : List Node) : Prop :=
  (∀ m ∈ before, readsName m = false) ∧
    ∃ n after, nodes = before ++ n :: after ∧ IsStray nodes n

/-- The remarks on a node once the list of built-in names is at hand. -/
def remarksOn (nodes : List Node) (n : Node) : List Remark :=
  match remarks (.ofNodes nodes) true n with
  | .ok found => found
  | .error _ => []

theorem mem_assigned_iff {nodes : List Node} {name : String} :
    name ∈ (Definitions.ofNodes nodes).assigned ↔ Assigned nodes name := by
  unfold Definitions.ofNodes
  rw [List.mem_flatMap]
  constructor
  . rintro ⟨n, hn, hname⟩
    cases n with
    | stmt s =>
      cases s with
      | assign line targets value =>
        obtain ⟨e, he, hname⟩ := List.mem_filterMap.1 hname
        cases e with
        | name nameLine id usage =>
          obtain rfl := Option.some.inj hname
          exact ⟨line, targets, value, nameLine, usage, hn, he⟩
        | _ => cases hname
      | _ => cases hname
    | _ => cases hname
  . rintro ⟨line, targets, value, nameLine, usage, hn, he⟩
    exact ⟨_, hn, List.mem_filterMap.2 ⟨_, he, rfl⟩⟩

theorem member_of_assigned {defs : Definitions} {object : String} (h : object ∈ defs.assigned)
    (seenName : Bool) (line : Nat) (name : String) :
    member defs seenName line object name = .ok [] :=
  if_pos (List.contains_iff_mem.2 h)

theorem member_of_not_assigned {defs : Definitions} {object : String} (h : object ∉ defs.assigned)
    (line : Nat) (name : String) :
    member defs false line object name = .error (.unbound "builtins") := by
  simp [member, h]

theorem exists_member (defs : Definitions) (line : Nat) (object name : String) :
    ∃ found, member defs true line object name = .ok found := by
  unfold member
  split
  . exact ⟨_, rfl⟩
  split
  . contradiction
  split
  . exact ⟨_, rfl⟩
  . exact ⟨_, rfl⟩

theorem remarks_cases (defs : Definitions) (n : Node) :
    (∃ line nameLine object name objectUsage usage,
      n = .expr (.attr line (.name nameLine object objectUsage) name usage)) ∨
    ∃ found, ∀ seenName, remarks defs seenName n = .ok found := by
  cases n with
  | expr e =>
    cases e with
    | name line id usage => cases usage <;> exact .inr ⟨_, fun _ => rfl⟩
    | attr line value name usage =>
      cases value with
      | name nameLine object objectUsage =>
        exact .inl ⟨line, nameLine, object, name, objectUsage, usage, rfl⟩
      | _ => exact .inr ⟨[], fun _ => rfl⟩
    | _ => exact .inr ⟨[], fun _ => rfl⟩
  | stmt s =>
    cases s with
    | whileLoop line test body orelse =>
      cases test with
      | constant constantLine value =>
        refine .inr ?_
        cases hone : isOne value <;> simp [remarks, hone]
      | _ => exact .inr ⟨[], fun _ => rfl⟩
    | functionDef line isAsync name params body decorators returns =>
      cases isAsync <;> exact .inr ⟨_, fun _ => rfl⟩
    | _ => exact .inr ⟨[], fun _ => rfl⟩
  | handler h =>
    refine .inr ?_
    cases hnone : h.type.isNone <;> simp [remarks, hnone]
  | _ => exact .inr ⟨[], fun _ => rfl⟩

theorem remarks_of_stray {nodes : List Node} {n : Node} (h : IsStray nodes n) :
    remarks (.ofNodes nodes) false n = .error (.unbound "builtins") := by
  cases h with
  | intro line nameLine object name objectUsage usage h =>
    rw [← mem_assigned_iff] at h
    exact member_of_not_assigned h line name

theorem remarks_eq_ok {nodes : List Node} {n : Node} {seenName : Bool}
    (h : seenName = false → ¬IsStray nodes n) :
    remarks (.ofNodes nodes) seenName n = .ok (remarksOn nodes n) := by
  unfold remarksOn
  rcases remarks_cases (.ofNodes nodes) n with
    ⟨line, nameLine, object, name, objectUsage, usage, rfl⟩ | ⟨found, hfound⟩
  . simp only [remarks]
    cases seenName with
    | true =>
      obtain ⟨found, hfound⟩ := exists_member (.ofNodes nodes) line object name
      rw [hfound]
    | false =>
      have hassigned : object ∈ (Definitions.ofNodes nodes).assigned := by
        rw [mem_assigned_iff]
        by_contra hnot
        exact h rfl (.intro line nameLine object name objectUsage usage hnot)
      rw [member_of_assigned hassigned, member_of_assigned hassigned]
  . rw [hfound, hfound]

section

variable {nodes : List Node}

theorem remarks_seen (n : Node) :
    remarks (.ofNodes nodes) true n = .ok (remarksOn nodes n) := by
  apply remarks_eq_ok
  intro hseen
  cases hseen

theorem readsName_of_stray {n : Node} (h : IsStray nodes n) : readsName n = false := by
  cases h
  rfl

theorem ofNodes_seen (ns : List Node) :
    ofNodes (.ofNodes nodes) true ns = (ns.flatMap (remarksOn nodes), none) := by
  induction ns with
  | nil => rfl
  | cons n ns ih =>
    rw [ofNodes, Bool.true_or, remarks_seen]
    dsimp only
    rw [ih]
    rfl

theorem ofNodes_reads {n : Node} (h : readsName n = true) (ns : List Node) :
    ofNodes (.ofNodes nodes) false (n :: ns) = ((n :: ns).flatMap (remarksOn nodes), none) := by
  rw [ofNodes, h, Bool.or_true, remarks_seen]
  dsimp only
  rw [ofNodes_seen]
  rfl

theorem ofNodes_stray {n : Node} (h : IsStray nodes n) (ns : List Node) :
    ofNodes (.ofNodes nodes) false (n :: ns) = ([], some (.unbound "builtins")) := by
  rw [ofNodes, readsName_of_stray h, Bool.or_false, remarks_of_stray h]

theorem ofNodes_append {before : List Node} (hreads : ∀ m ∈ before, readsName m = false)
    (hstray : ∀ m ∈ before, ¬IsStray nodes m) (ns : List Node) :
    ofNodes (.ofNodes nodes) false (before ++ ns)
      =
    (before.flatMap (remarksOn nodes) ++ (ofNodes (.ofNodes nodes) false ns).1,
      (ofNodes (.ofNodes nodes) false ns).2) := by
  induction before with
  | nil => rfl
  | cons m before ih =>
    rw [List.forall_mem_cons] at hreads hstray
    rw [List.cons_append, ofNodes, hreads.1, Bool.or_false, remarks_eq_ok fun _ => hstray.1]
    dsimp only
    rw [ih hreads.2 hstray.2, List.flatMap_cons, List.append_assoc]

theorem ofNodes_all {ns : List Node} (hreads : ∀ m ∈ ns, readsName m = false)
    (hstray : ∀ m ∈ ns, ¬IsStray nodes m) :
    ofNodes (.ofNodes nodes) false ns = (ns.flatMap (remarksOn nodes), none) := by
  have happend := ofNodes_append hreads hstray []
  rw [List.append_nil] at happend
  rw [happend, ofNodes, List.append_nil]

theorem not_breaksBehind {before after : List Node} {n : Node}
    (hnodes : nodes = before ++ n :: after)
    (hstray : ∀ m ∈ before, ¬IsStray nodes m) (hn : readsName n = true) :
    ¬∃ before', BreaksBehind nodes before' := by
  rintro ⟨before', hreads, n', after', hnodes', hn'⟩
  have hne : n' ≠ n := by
    rintro rfl
    rw [readsName_of_stray hn'] at hn
    cases hn
  -- Either the attribute stands among the nodes before the name, or the name among those before it.
  rcases List.append_eq_append_iff.1 (hnodes'.symm.trans hnodes) with
    ⟨between, hbefore, hcons⟩ | ⟨between, hbefore, hcons⟩
  . cases between with
    | nil => exact hne (List.cons.inj hcons).1
    | cons m between =>
      apply hstray n' _ hn'
      rw [hbefore, (List.cons.inj hcons).1]
      simp
  . cases between with
    | nil => exact hne (List.cons.inj hcons).1.symm
    | cons m between =>
      have hread : readsName n = false := by
        apply hreads
        rw [hbefore, (List.cons.inj hcons).1]
        simp
      rw [hread] at hn
      cases hn

end

theorem exists_first_or_none {α : Type} (p : α → Prop) (xs : List α) :
    (∃ before x after, xs = before ++ x :: after ∧ (∀ y ∈ before, ¬p y) ∧ p x) ∨
      ∀ x ∈ xs, ¬p x := by
  induction xs with
  | nil => exact .inr (by simp)
  | cons x xs ih =>
    by_cases hx : p x
    . exact .inl ⟨[], x, xs, rfl, by simp, hx⟩
    rcases ih with ⟨before, y, after, rfl, hbefore, hy⟩ | hnone
    . exact .inl ⟨x :: before, y, after, rfl, List.forall_mem_cons.2 ⟨hx, hbefore⟩, hy⟩
    . exact .inr (List.forall_mem_cons.2 ⟨hx, hnone⟩)

/-- The analysis breaks off at the first attribute that it cannot judge, or goes on to the end. -/
theorem run_cases (body : List Stmt) :
    let nodes := (Node.module body).walk
    (∃ before, BreaksBehind nodes before ∧ (∀ m ∈ before, ¬IsStray nodes m) ∧
      run body = (before.flatMap (remarksOn nodes), some (.unbound "builtins"))) ∨
    (¬∃ before, BreaksBehind nodes before) ∧
      run body = (nodes.flatMap (remarksOn nodes), none) := by
  intro nodes
  have hrun : run body = ofNodes (.ofNodes nodes) false nodes := rfl
  have hquiet : ∀ ns : List Node, (∀ m ∈ ns, ¬(readsName m = true ∨ IsStray nodes m)) →
      (∀ m ∈ ns, readsName m = false) ∧ ∀ m ∈ ns, ¬IsStray nodes m := by
    intro ns hns
    refine ⟨?_, fun m hm h => hns m hm (.inr h)⟩
    intro m hm
    simpa using fun h => hns m hm (.inl h)
  -- The first node that reads a name or cannot be judged decides how the analysis ends.
  rcases exists_first_or_none (fun n => readsName n = true ∨ IsStray nodes n) nodes with
    ⟨before, n, after, hnodes, hbefore, hn⟩ | hnone
  . obtain ⟨hreads, hstray⟩ := hquiet before hbefore
    have happend := ofNodes_append hreads hstray (n :: after)
    rw [← hnodes, ← hrun] at happend
    rcases hn with hn | hn
    . rw [ofNodes_reads hn, ← List.flatMap_append, ← hnodes] at happend
      exact .inr ⟨not_breaksBehind hnodes hstray hn, happend⟩
    . rw [ofNodes_stray hn, List.append_nil] at happend
      exact .inl ⟨before, ⟨hreads, n, after, hnodes, hn⟩, hstray, happend⟩
  . obtain ⟨hreads, hstray⟩ := hquiet nodes hnone
    refine .inr ⟨?_, hrun.trans (ofNodes_all hreads hstray)⟩
    rintro ⟨before, -, n, after, hnodes, hn⟩
    apply hstray n _ hn
    rw [hnodes]
    simp

inductive Topic where
  | undefinedName
  | missingMember
  | endlessLoop
  | bareHandler
  | sharedDefault
  deriving DecidableEq

def Topic.words : Topic → String
  | .undefinedName => "Undefined variable"
  | .missingMember => "Instance of"
  | .endlessLoop => "Infinite loop detected"
  | .bareHandler => "Catching all exceptions (bare except)"
  | .sharedDefault => "Using mutable default argument"

def topic : Node → Topic
  | .expr (.name ..) => .undefinedName
  | .expr _ => .missingMember
  | .stmt (.whileLoop ..) => .endlessLoop
  | .stmt _ => .sharedDefault
  | _ => .bareHandler

structure IsRemarkOn (n : Node) (r : Remark) : Prop where
  origin_eq : r.origin = "analyzer"
  begins : (topic n).words.toList <+: r.message.toList

theorem begins_of_append {s t : String} (h : s.toList <+: t.toList) (u v : String) :
    s.toList <+: (t ++ u ++ v).toList := by
  rw [String.append_assoc, String.toList_append]
  exact h.trans (List.prefix_append _ _)

theorem isRemarkOn_of_mem_undefined {defs : Definitions} {line : Nat} {id : String} {usage : Usage}
    {r : Remark} (h : r ∈ undefined defs line id) : IsRemarkOn (.expr (.name line id usage)) r := by
  unfold undefined at h
  split at h
  . cases h
  . have hwords : Topic.undefinedName.words.toList <+: "Undefined variable '".toList := by decide
    rw [List.mem_singleton.1 h]
    exact ⟨rfl, begins_of_append hwords _ _⟩

theorem isRemarkOn_of_mem_member {defs : Definitions} {seenName : Bool} {line : Nat}
    {value : Expr} {object name : String} {usage : Usage} {found : List Remark} {r : Remark}
    (h : member defs seenName line object name = .ok found) (hr : r ∈ found) :
    IsRemarkOn (.expr (.attr line value name usage)) r := by
  unfold member at h
  split at h
  . obtain rfl := Except.ok.inj h
    cases hr
  split at h
  . cases h
  split at h
  . obtain rfl := Except.ok.inj h
    cases hr
  . obtain rfl := Except.ok.inj h
    have hwords : Topic.missingMember.words.toList <+: "Instance of '".toList := by decide
    rw [List.mem_singleton.1 hr]
    exact ⟨rfl, begins_of_append (begins_of_append hwords _ _) _ _⟩

theorem isRemarkOn_of_mem_remarks {defs : Definitions} {seenName : Bool} {n : Node}
    {found : List Remark} {r : Remark} (h : remarks defs seenName n = .ok found) (hr : r ∈ found) :
    IsRemarkOn n r := by
  unfold remarks at h
  split at h
  . obtain rfl := Except.ok.inj h
    exact isRemarkOn_of_mem_undefined hr
  . exact isRemarkOn_of_mem_member h hr
  . split at h
    . obtain rfl := Except.ok.inj h
      have hwords : Topic.endlessLoop.words.toList <+: "Infinite loop detected".toList := by decide
      rw [List.mem_singleton.1 hr]
      exact ⟨rfl, hwords⟩
    . obtain rfl := Except.ok.inj h
      cases hr
  . split at h
    . obtain rfl := Except.ok.inj h
      have hwords : Topic.bareHandler.words.toList
          <+: "Catching all exceptions (bare except) is a bad practice".toList := by
        decide
      rw [List.mem_singleton.1 hr]
      exact ⟨rfl, hwords⟩
    . obtain rfl := Except.ok.inj h
      cases hr
  . obtain rfl := Except.ok.inj h
    have hwords : Topic.sharedDefault.words.toList
        <+: "Using mutable default argument in function '".toList := by
      decide
    obtain ⟨_, -, rfl⟩ := List.mem_map.1 hr
    exact ⟨rfl, begins_of_append hwords _ _⟩
  . obtain rfl := Except.ok.inj h
    cases hr

theorem isRemarkOn_of_mem_remarksOn {nodes : List Node} {n : Node} {r : Remark}
    (h : r ∈ remarksOn nodes n) : IsRemarkOn n r :=
  isRemarkOn_of_mem_remarks (remarks_seen n) h

end Fallback

namespace Hosted

theorem outcome_find_stopped {p : Parts} {code : String} {body : List Stmt} {f : Failure}
    {j j' : Journal} (hcode : parseRunnable code = .ok body) (hf : isAnswerable f = false)
    (hfailed : outcome (p.analyse (.str code)) j = (.error f, j')) :
    outcome (find p code) j = (.error f, j') := by
  unfold find
  rw [hcode]
  dsimp only
  rw [outcome_bind_ok (outcome_caught _ _), hfailed]
  dsimp only
  rw [hf]
  rfl

def listMissing : Value :=
  .dict
    [("line", .int 1),
     ("message", .str <|
        "Error analyzing code: cannot access local variable 'builtins' where it is not " ++
          "associated with a value"),
     ("category", .str "runtime_error"), ("source", .str "system")]

theorem isSystem_of_mem_remarksOn {nodes ns : List Node} {item : Value}
    (h : item ∈ (ns.flatMap (Fallback.remarksOn nodes)).map Remark.toValue) :
    isSystem item = .ok false := by
  obtain ⟨r, hr, rfl⟩ := List.mem_map.1 h
  obtain ⟨n, -, hr⟩ := List.mem_flatMap.1 hr
  have hsource : (Entry.ofRemark r).isSystem = false := by
    change decide (r.origin = Origin.system.name) = false
    rw [(Fallback.isRemarkOn_of_mem_remarksOn hr).origin_eq]
    rfl
  rw [← hsource]
  exact (Entry.ofRemark r).isSystem_toValue

/--
When the analysis of code fails, the simple analysis steps in, unless the failure is the order to
stop. It breaks off if and only if an attribute of a plain name to which nothing is assigned comes
on the walk before any name that is read. Then it has the items of all nodes before the first such
attribute, and one item more that tells of this; otherwise it has the items of all nodes. None of
these items is about the service.
-/
theorem find_falls_back {p : Parts} {code : String} {body : List Stmt} {f : Failure}
    {j j' : Journal} (hcode : parseRunnable code = .ok body)
    (hfailed : outcome (p.analyse (.str code)) j = (.error f, j')) :
    let nodes := (Node.module body).walk
    let items (ns : List Node) := (ns.flatMap (Fallback.remarksOn nodes)).map Remark.toValue
    let broken := (Fallback.run body).2 = some (.unbound "builtins")
    (broken ↔ ∃ before, Fallback.BreaksBehind nodes before) ∧
    (isAnswerable f = true → broken →
      ∃ before, Fallback.BreaksBehind nodes before ∧
        (∀ m ∈ before, ¬Fallback.IsStray nodes m) ∧
        (outcome (find p code) j).1 = .ok (items before ++ [listMissing])) ∧
    (isAnswerable f = true → ¬broken → (outcome (find p code) j).1 = .ok (items nodes)) ∧
    (∀ item ∈ items nodes, isSystem item = .ok false) ∧
    (isAnswerable f = false → outcome (find p code) j = (.error f, j')) := by
  intro nodes items broken
  have hfind (hf : isAnswerable f = true) :
      (outcome (find p code) j).1 = .ok ((Fallback.report body).map Remark.toValue) := by
    obtain ⟨j'', hfind⟩ := outcome_find_fallBack hcode hf hfailed
    rw [hfind, Entry.map_ofRemark]
  have hstopped (hf : isAnswerable f = false) := outcome_find_stopped hcode hf hfailed
  have hsystem : ∀ item ∈ items nodes, isSystem item = .ok false :=
    fun item hitem => isSystem_of_mem_remarksOn hitem
  rcases Fallback.run_cases body with ⟨before, hbreaks, hstray, hrun⟩ | ⟨hnone, hrun⟩
  . have hbroken : broken := by
      simp only [broken, hrun]
    have hreport : (Fallback.report body).map Remark.toValue = items before ++ [listMissing] := by
      unfold Fallback.report
      rw [hrun, List.map_append]
      rfl
    rw [hreport] at hfind
    refine ⟨⟨fun _ => ⟨before, hbreaks⟩, fun _ => hbroken⟩, ?_, ?_, hsystem, hstopped⟩
    . intro hf _
      exact ⟨before, hbreaks, hstray, hfind hf⟩
    . intro _ hwhole
      exact absurd hbroken hwhole
  . have hwhole : ¬broken := by
      simp [broken, hrun]
    have hreport : (Fallback.report body).map Remark.toValue = items nodes := by
      unfold Fallback.report
      rw [hrun, Option.toList_none, List.map_nil, List.append_nil]
    rw [hreport] at hfind
    refine ⟨⟨fun h => absurd h hwhole, fun h => absurd h hnone⟩, ?_, ?_, hsystem, hstopped⟩
    . intro _ hbroken
      exact absurd hbroken hwhole
    . intro hf _
      exact hfind hf

/-- The loop has its remark, and the attribute in it comes before the name on the walk. -/
theorem find_breaks_off_in_loop :
    let code := "while True:\n a.b"
    let p := (Parts.standard .hosted .missing false none).failingAnalysis (.outside "no analyzer")
    ∃ body before, parseRunnable code = .ok body ∧
      Fallback.BreaksBehind (Node.module body).walk before ∧
      (outcome (find p code) {}).1
        =
      .ok ((before.flatMap (Fallback.remarksOn (Node.module body).walk)).map Remark.toValue ++
        [listMissing]) := by
  intro code p
  have heval : (parseRunnable code).toOption.any (fun body =>
      (Fallback.run body).2 = some (.unbound "builtins")) = true := by
    decide +kernel
  have hfailed : outcome (p.analyse (.str code)) {} = (.error (.outside "no analyzer"), {}) := rfl
  cases hcode : parseRunnable code with
  | error fault =>
    rw [hcode] at heval
    cases heval
  | ok body =>
    rw [hcode] at heval
    obtain ⟨before, hbreaks, -, hfind⟩ :=
      (find_falls_back hcode hfailed).2.1 rfl (of_decide_eq_true heval)
    exact ⟨body, before, rfl, hbreaks, hfind⟩

end Hosted

end HabitLens.Service
