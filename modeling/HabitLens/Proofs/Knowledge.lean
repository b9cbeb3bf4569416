import HabitLens.Review.Analyzer

/-!
What an analyzer knows after it has taken note of programs, one after another. Assignments are
counted over all of them; a function is known by its last definition, and the calls that were met
before that definition do not count.
-/

namespace HabitLens

namespace Table

theorem mem_keys_iff (t : Table α) (key : String) :
    key ∈ t.keys ↔ (t.get? key).isSome = true := by
  induction t with
  | nil => simp [keys, get?]
  | cons e t ih =>
    obtain ⟨k, v⟩ := e
    by_cases h : k = key
    . simp [keys, get?, h]
    . simpa [keys, get?, h, Ne.symm h] using ih

theorem get?_modify (t : Table α) (key : String) (f : α → α) (other : String) :
    (t.modify key f).get? other = if key = other then (t.get? other).map f else t.get? other := by
  unfold modify
  by_cases h : key = other
  . subst h
    cases hkey : t.get? key <;> simp [hkey]
  . cases hkey : t.get? key <;> simp [h]

end Table

namespace Source

def Stmt.defaults : Stmt → List Expr
  | functionDef _ _ _ params .. => params.defaults
  | _ => []

theorem Expr.count_filterMap_name? (es : List Expr) (x : String) :
    (es.filterMap name?).count x = es.countP fun e => e.name? == some x := by
  induction es with
  | nil => rfl
  | cons e es ih =>
    rw [List.countP_cons, ← ih]
    cases h : e.name? <;> simp [h, List.count_cons]

namespace Node

def targets : Node → List Expr
  | stmt (.assign _ targets _) => targets
  | _ => []

def defines (name : String) : Node → Bool
  | stmt (.functionDef _ false other ..) => other == name
  | _ => false

def branching? : Node → Option Stmt
  | stmt s =>
    match s with
    | .forLoop _ false .. | .whileLoop .. | .cond .. => some s
    | _ => none
  | _ => none

def isHandler : Node → Bool
  | handler _ => true
  | _ => false

theorem map_handler_filterMap_handler? (ns : List Node) :
    (ns.filterMap handler?).map handler = ns.filter isHandler := by
  induction ns with
  | nil => rfl
  | cons n ns ih =>
    cases n with
    | handler h => exact congrArg (handler h :: ·) ih
    | _ => exact ih

end Node

end Source

namespace Review

open Source

/-- A record tells what stands in the definition of a function. -/
structure FunctionRecord.Describes (r : FunctionRecord) (d : Stmt) : Prop where
  definition : r.definition = d
  hasReturn : r.hasReturn = true ↔ ∃ line value, .stmt (.ret line value) ∈ (Node.stmt d).walk
  hasBreak : r.hasBreak = true ↔ ∃ line, .stmt (.breakLoop line) ∈ (Node.stmt d).walk
  hasMutableDefaults : r.hasMutableDefaults = true ↔ ∃ e ∈ d.defaults, e.isMutableDisplay = true
  handlers : r.handlers.map Node.handler = (Node.stmt d).walk.filter Node.isHandler

def FunctionRecord.calledAgain (r : FunctionRecord) (times : Nat) : FunctionRecord :=
  { r with calls := r.calls + times }

@[simp]
theorem FunctionRecord.calledAgain_zero (r : FunctionRecord) : r.calledAgain 0 = r := rfl

@[simp]
theorem FunctionRecord.calledAgain_calledAgain (r : FunctionRecord) (m n : Nat) :
    (r.calledAgain m).calledAgain n = r.calledAgain (m + n) := by
  simp [calledAgain, Nat.add_assoc]

theorem FunctionRecord.describes_ofDefinition {d : Stmt} {params : Params}
    (h : params.defaults = d.defaults) (calls : Nat) :
    { ofDefinition d params with calls }.Describes d where
  definition := rfl
  hasReturn := by
    simp only [ofDefinition, List.any_eq_true]
    constructor
    . rintro ⟨n, hn, hreturn⟩
      unfold Node.isReturn at hreturn
      split at hreturn
      . exact ⟨_, _, hn⟩
      . cases hreturn
    . rintro ⟨line, value, hn⟩
      exact ⟨_, hn, rfl⟩
  hasBreak := by
    simp only [ofDefinition, List.any_eq_true]
    constructor
    . rintro ⟨n, hn, hbreak⟩
      unfold Node.isBreak at hbreak
      split at hbreak
      . exact ⟨_, hn⟩
      . cases hbreak
    . rintro ⟨line, hn⟩
      exact ⟨_, hn, rfl⟩
  hasMutableDefaults := by
    simp only [ofDefinition, List.any_eq_true, h]
  handlers := Node.map_handler_filterMap_handler? _

namespace Context

theorem get?_foldl_countAssignment (names : List String) (t : Table Nat) (x : String) :
    (names.foldl countAssignment t).get? x
      =
    if x ∈ names then some ((t.get? x).getD 0 + names.count x) else t.get? x := by
  induction names generalizing t with
  | nil => simp
  | cons name names ih =>
    rw [List.foldl_cons, ih, countAssignment, Table.get?_set]
    by_cases h : name = x
    . subst h
      by_cases hmem : name ∈ names
      . simp [hmem, Nat.add_assoc, Nat.add_comm 1]
      . simp [hmem, List.count_eq_zero_of_not_mem hmem]
    . simp [h, Ne.symm h]

theorem assigned_note (c : Context) (n : Node) :
    (c.note n).assigned = (n.targets.filterMap Expr.name?).foldl countAssignment c.assigned := by
  cases n with
  | stmt s =>
    cases s with
    | functionDef line isAsync => cases isAsync <;> rfl
    | forLoop line isAsync => cases isAsync <;> rfl
    | _ => rfl
  | expr e =>
    dsimp only [note]
    split <;> rfl
  | _ => rfl

theorem controlFlow_note (c : Context) (n : Node) :
    (c.note n).controlFlow = c.controlFlow ++ n.branching?.toList := by
  cases n with
  | stmt s =>
    cases s with
    | functionDef line isAsync => cases isAsync <;> simp [note, Node.branching?, Stmt.isFlow]
    | forLoop line isAsync => cases isAsync <;> simp [note, Node.branching?, Stmt.isFlow]
    | _ => simp [note, Node.branching?, Stmt.isFlow]
  | expr e =>
    dsimp only [note]
    split <;> simp [Node.branching?]
  | _ => simp [note, Node.branching?]

theorem functions_note_of_defines {d : Stmt} {f : String} (h : (Node.stmt d).defines f = true) :
    ∃ params : Params, params.defaults = d.defaults ∧
      ∀ c : Context, (c.note (.stmt d)).functions = c.functions.set f (.ofDefinition d params) := by
  unfold Node.defines at h
  split at h
  . next heq =>
    obtain rfl := Node.stmt.inj heq
    obtain rfl := beq_iff_eq.1 h
    exact ⟨_, rfl, fun c => rfl⟩
  . cases h

theorem get?_functions_note (c : Context) {n : Node} {f : String} (h : n.defines f = false) :
    (c.note n).functions.get? f
      =
    (c.functions.get? f).map (·.calledAgain ([n].countP (Node.calls f))) := by
  cases n with
  | stmt s =>
    cases s with
    | functionDef line isAsync name =>
      cases isAsync with
      | false =>
        have hname : name ≠ f := by simpa [Node.defines] using h
        simp [note, Node.calls, hname]
      | true => simp [note, Node.calls, Stmt.isFlow]
    | forLoop line isAsync => cases isAsync <;> simp [note, Node.calls, Stmt.isFlow]
    | _ => simp [note, Node.calls, Stmt.isFlow]
  | expr e =>
    cases he : e.calledName? with
    | none => simp [note, Node.calls, he]
    | some name =>
      by_cases hname : name = f
      . simp [note, he, Table.get?_modify, hname, Node.calls]
        rfl
      . simp [note, he, Table.get?_modify, hname, Node.calls]
  | _ => simp [note, Node.calls]

theorem get?_functions_foldl_note (c : Context) {ns : List Node} {f : String}
    (h : ∀ n ∈ ns, n.defines f = false) :
    (ns.foldl note c).functions.get? f
      =
    (c.functions.get? f).map (·.calledAgain (ns.countP (Node.calls f))) := by
  induction ns generalizing c with
  | nil => simp
  | cons n ns ih =>
    rw [List.foldl_cons, ih _ (fun m hm => h m (List.mem_cons_of_mem n hm))]
    rw [get?_functions_note c (h n List.mem_cons_self)]
    simp [Function.comp_def, List.countP_cons, Nat.add_comm]

theorem get?_functions_of_last (c : Context) (before : List Node) {d : Stmt} {after : List Node}
    {f : String} (hdefines : (Node.stmt d).defines f = true)
    (hlast : ∀ n ∈ after, n.defines f = false) :
    ∃ r, ((before ++ .stmt d :: after).foldl note c).functions.get? f = some r ∧
      r.Describes d ∧ r.calls = after.countP (Node.calls f) := by
  obtain ⟨params, hdefaults, hset⟩ := functions_note_of_defines hdefines
  refine ⟨(FunctionRecord.ofDefinition d params).calledAgain (after.countP (Node.calls f)), ?_, ?_,
    ?_⟩
  -- The definition overwrites the record, so nothing is left of `before`.
  . rw [List.foldl_append, List.foldl_cons, get?_functions_foldl_note _ hlast, hset]
    simp
  . exact FunctionRecord.describes_ofDefinition hdefaults _
  . exact Nat.zero_add _

theorem isSome_get?_functions_note (c : Context) (n : Node) (f : String) :
    ((c.note n).functions.get? f).isSome = ((c.functions.get? f).isSome || n.defines f) := by
  cases h : n.defines f with
  | false => simp [get?_functions_note c h]
  | true =>
    cases n with
    | stmt d =>
      obtain ⟨params, -, hset⟩ := functions_note_of_defines h
      simp [hset]
    | _ => cases h

theorem mem_keys_functions_foldl_note (c : Context) (ns : List Node) (f : String) :
    f ∈ (ns.foldl note c).functions.keys
      ↔
    f ∈ c.functions.keys ∨ ∃ n ∈ ns, n.defines f = true := by
  simp only [Table.mem_keys_iff]
  induction ns generalizing c with
  | nil => simp
  | cons n ns ih =>
    rw [List.foldl_cons, ih, isSome_get?_functions_note]
    simp [or_assoc]

theorem assigned_foldl_note (c : Context) (ns : List Node) :
    (ns.foldl note c).assigned
      =
    ((ns.flatMap Node.targets).filterMap Expr.name?).foldl countAssignment c.assigned := by
  induction ns generalizing c with
  | nil => rfl
  | cons n ns ih =>
    rw [List.foldl_cons, ih, assigned_note]
    rw [List.flatMap_cons, List.filterMap_append, List.foldl_append]

theorem get?_assigned_foldl_note (ns : List Node) (x : String) :
    (ns.foldl note {}).assigned.get? x
      =
    if 0 < (ns.flatMap Node.targets).countP (fun e => e.name? == some x) then
      some ((ns.flatMap Node.targets).countP fun e => e.name? == some x)
    else none := by
  rw [assigned_foldl_note, get?_foldl_countAssignment, ← Expr.count_filterMap_name?]
  by_cases h : x ∈ (ns.flatMap Node.targets).filterMap Expr.name?
  . rw [if_pos h, if_pos (List.count_pos_iff.2 h)]
    simp [Table.get?]
  . rw [if_neg h, if_neg (h ∘ List.count_pos_iff.1)]
    rfl

theorem controlFlow_foldl_note (c : Context) (ns : List Node) :
    (ns.foldl note c).controlFlow = c.controlFlow ++ ns.filterMap Node.branching? := by
  induction ns generalizing c with
  | nil => simp
  | cons n ns ih =>
    rw [List.foldl_cons, ih, controlFlow_note, List.append_assoc]
    cases h : n.branching? <;> simp [h]

theorem foldl_extend (c : Context) (ps : List Program) :
    ps.foldl extend c = (ps.flatMap Program.walk).foldl note c := by
  rw [List.foldl_flatMap]
  rfl

end Context

namespace Analyzer

theorem context_foldl_buildContext (a : Analyzer) (ps : List Program) :
    (ps.foldl buildContext a).context = (ps.flatMap Program.walk).foldl Context.note a.context := by
  rw [← Context.foldl_extend]
  induction ps generalizing a with
  | nil => rfl
  | cons p ps ih => exact ih (a.buildContext p)

/--
What a new analyzer knows after any programs. Let `walked` be the nodes that it met on its walks
over them. A name is known as assigned if it is a target of an assignment, and as often as it is
one. The branching statements are kept in order. A function is known if it is defined, and what is
known of it is what its last definition says, with the number of calls met behind that definition.
-/
theorem context_after_programs (ps : List Program) :
    let context := (ps.foldl buildContext {}).context
    let walked := ps.flatMap Program.walk
    (∀ x : String,
      let times := (walked.flatMap Node.targets).countP fun e => e.name? == some x
      (x ∈ context.assigned.keys ↔ 0 < times) ∧
      (0 < times → context.assigned.get? x = some times)) ∧
    context.controlFlow = walked.filterMap Node.branching? ∧
    (∀ f, f ∈ context.functions.keys ↔ ∃ n ∈ walked, n.defines f = true) ∧
    (∀ f before d after,
      walked = before ++ .stmt d :: after →
      (Node.stmt d).defines f = true →
      (∀ n ∈ after, n.defines f = false) →
      ∃ r, context.functions.get? f = some r ∧ r.Describes d ∧
        r.calls = after.countP (Node.calls f)) := by
  intro context walked
  have hcontext : context = walked.foldl Context.note {} := context_foldl_buildContext {} ps
  refine ⟨?_, ?_, ?_, ?_⟩
  . intro x times
    have hget := Context.get?_assigned_foldl_note walked x
    rw [← hcontext] at hget
    rw [Table.mem_keys_iff, hget]
    by_cases htimes : 0 < times
    . simp [times, htimes]
    . simp [times, htimes]
  . rw [hcontext, Context.controlFlow_foldl_note]
    rfl
  . intro f
    rw [hcontext, Context.mem_keys_functions_foldl_note]
    simp [Table.keys]
  . intro f before d after hwalked hdefines hlast
    rw [hcontext, hwalked]
    exact Context.get?_functions_of_last {} before hdefines hlast

/-- A call in an earlier program does not count for a function that is defined anew. -/
theorem context_after_redefinition :
    let call := Stmt.expr 2 (.call 2 (.name 2 "f" .load) [] [])
    let old := Stmt.functionDef 1 false "f" .empty [call] [] none
    let new := Stmt.functionDef 1 false "f" .empty [.ret 1 none] [] none
    ∃ r, ([{ body := [old] }, { body := [new, call] }].foldl buildContext {}).context.functions.get?
        "f" = some r ∧
      r.Describes new ∧ r.calls = 1 := by
  intro call old new
  have hwalked : [({ body := [old] } : Program), { body := [new, call] }].flatMap Program.walk
      = [.module [old], .stmt old, .params .empty, .stmt call,
          .expr (.call 2 (.name 2 "f" .load) [] []), .expr (.name 2 "f" .load),
          .module [new, call]] ++ .stmt new :: [.stmt call, .params .empty, .stmt (.ret 1 none),
            .expr (.call 2 (.name 2 "f" .load) [] []), .expr (.name 2 "f" .load)] := by
    simp [Program.walk, Program.root, Node.walk, Node.levels, Node.children, Stmt.children,
      Expr.children, Params.empty, old, new, call]
  obtain ⟨-, -, -, hrecords⟩ := context_after_programs [{ body := [old] }, { body := [new, call] }]
  exact hrecords "f" _ new _ hwalked rfl (by simp [Node.defines, call])

end Analyzer

end Review

end HabitLens
