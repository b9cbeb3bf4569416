import HabitLens.Proofs.Outcome
import HabitLens.Review.Context

/-!
The context with its lookups spelled out: the record of a function is asked for by name whenever it
is changed, and to ask for a record that is not there is a failure. None of these lookups fails.
-/

namespace HabitLens

open Outcome

theorem Table.set_set (t : Table α) (key : String) (v w : α) :
    (t.set key v).set key w = t.set key w := by
  induction t with
  | nil => simp [set]
  | cons e t ih =>
    obtain ⟨k, u⟩ := e
    by_cases h : k = key
    . simp [set, h]
    . simp [set, h, ih]

namespace Lookup

def entry (t : Table α) (name : String) : Except Failure α :=
  match t.get? name with
  | some v => .ok v
  | none => .error (.missingKey name)

def item (xs : List α) (i : Nat) : Except Failure α :=
  match xs[i]? with
  | some x => .ok x
  | none => .error (.outOfRange "list")

theorem entry_of_get? {t : Table α} {name : String} {v : α} (h : t.get? name = some v) :
    entry t name = .ok v := by
  rw [entry, h]

theorem item_of_getElem? {xs : List α} {i : Nat} {x : α} (h : xs[i]? = some x) :
    item xs i = .ok x := by
  rw [item, h]

end Lookup

namespace Review

open Source

namespace FunctionRecord

def blank (definition : Stmt) : FunctionRecord :=
  { definition
    calls := 0
    hasReturn := false
    hasBreak := false
    hasMutableDefaults := false
    handlers := [] }

def meet (r : FunctionRecord) (n : Node) : FunctionRecord :=
  { r with
    hasReturn := r.hasReturn || n.isReturn
    hasBreak := r.hasBreak || n.isBreak
    handlers := r.handlers ++ n.handler?.toList }

def meetDefault (r : FunctionRecord) (e : Expr) : FunctionRecord :=
  { r with hasMutableDefaults := r.hasMutableDefaults || e.isMutableDisplay }

theorem foldl_meet (r : FunctionRecord) (ns : List Node) :
    ns.foldl meet r =
      { r with
        hasReturn := r.hasReturn || ns.any Node.isReturn
        hasBreak := r.hasBreak || ns.any Node.isBreak
        handlers := r.handlers ++ ns.filterMap Node.handler? } := by
  induction ns generalizing r with
  | nil => simp
  | cons n ns ih =>
    rw [List.foldl_cons, ih]
    cases h : n.handler? <;> simp [meet, h, Bool.or_assoc]

theorem foldl_meetDefault (r : FunctionRecord) (es : List Expr) :
    es.foldl meetDefault r =
      { r with
        hasMutableDefaults := r.hasMutableDefaults || es.any Expr.isMutableDisplay } := by
  induction es generalizing r with
  | nil => simp
  | cons e es ih =>
    rw [List.foldl_cons, ih]
    simp [meetDefault, Bool.or_assoc]

theorem ofDefinition_eq (s : Stmt) (params : Params) :
    ofDefinition s params
      =
    params.defaults.foldl meetDefault ((Node.stmt s).walk.foldl meet (blank s)) := by
  rw [foldl_meet, foldl_meetDefault]
  simp [ofDefinition, blank]

end FunctionRecord

end Review

namespace Lookup

open Source Review

def amend (functions : Table FunctionRecord) (name : String)
    (f : FunctionRecord → FunctionRecord) : Except Failure (Table FunctionRecord) := do
  let record ← entry functions name
  return functions.set name (f record)

def noteInner (name : String) (functions : Table FunctionRecord) (n : Node) :
    Except Failure (Table FunctionRecord) :=
  if n.isReturn then amend functions name fun r => { r with hasReturn := true }
  else if n.isBreak then amend functions name fun r => { r with hasBreak := true }
  else
    match n.handler? with
    | some h => amend functions name fun r => { r with handlers := r.handlers ++ [h] }
    | none => .ok functions

def noteDefault (name : String) (functions : Table FunctionRecord) (e : Expr) :
    Except Failure (Table FunctionRecord) :=
  if e.isMutableDisplay then amend functions name fun r => { r with hasMutableDefaults := true }
  else .ok functions

def define (functions : Table FunctionRecord) (s : Stmt) (name : String) (params : Params) :
    Except Failure (Table FunctionRecord) := do
  let functions ← (Node.stmt s).walk.foldlM (noteInner name) (functions.set name (.blank s))
  params.defaults.foldlM (noteDefault name) functions

def countCall (functions : Table FunctionRecord) (name : String) :
    Except Failure (Table FunctionRecord) :=
  if functions.contains name then amend functions name Context.countCall else .ok functions

def note (c : Context) (n : Node) : Except Failure Context :=
  match n with
  | .stmt s =>
    match s with
    | .functionDef _ false name params .. => do
      return { c with functions := ← define c.functions s name params }
    | _ => .ok (c.note n)
  | .expr e =>
    match e.calledName? with
    | some name => do return { c with functions := ← countCall c.functions name }
    | none => .ok c
  | _ => .ok c

def extend (c : Context) (p : Program) : Except Failure Context :=
  p.walk.foldlM note c

theorem amend_set (functions : Table FunctionRecord) (name : String) (r : FunctionRecord)
    (f : FunctionRecord → FunctionRecord) :
    amend (functions.set name r) name f = .ok (functions.set name (f r)) := by
  have hget : (functions.set name r).get? name = some r := by simp
  rw [amend, entry_of_get? hget, ok_bind, Table.set_set]
  rfl

theorem noteInner_set (functions : Table FunctionRecord) (name : String) (r : FunctionRecord)
    (n : Node) :
    noteInner name (functions.set name r) n = .ok (functions.set name (r.meet n)) := by
  unfold noteInner
  simp only [amend_set]
  split
  . next h =>
    unfold Node.isReturn at h
    split at h
    . simp [FunctionRecord.meet, Node.isReturn, Node.isBreak, Node.handler?]
    . cases h
  . next hreturn =>
    split
    . next h =>
      unfold Node.isBreak at h
      split at h
      . simp [FunctionRecord.meet, Node.isReturn, Node.isBreak, Node.handler?]
      . cases h
    . next hbreak =>
      split
      . next h hhandler => simp [FunctionRecord.meet, hreturn, hbreak, hhandler]
      . next hhandler => simp [FunctionRecord.meet, hreturn, hbreak, hhandler]

theorem noteDefault_set (functions : Table FunctionRecord) (name : String) (r : FunctionRecord)
    (e : Expr) :
    noteDefault name (functions.set name r) e = .ok (functions.set name (r.meetDefault e)) := by
  unfold noteDefault
  rw [amend_set]
  split
  . next h => simp [FunctionRecord.meetDefault, h]
  . next h => simp [FunctionRecord.meetDefault, h]

/-- A loop that changes one record of a table changes it as the record alone would be changed. -/
theorem foldlM_set {ν : Type} {name : String}
    {step : Table FunctionRecord → ν → Except Failure (Table FunctionRecord)}
    {f : FunctionRecord → ν → FunctionRecord}
    (h : ∀ (functions : Table FunctionRecord) r n,
      step (functions.set name r) n = .ok (functions.set name (f r n)))
    (functions : Table FunctionRecord) (r : FunctionRecord) (ns : List ν) :
    ns.foldlM step (functions.set name r) = .ok (functions.set name (ns.foldl f r)) := by
  induction ns generalizing r with
  | nil => rfl
  | cons n ns ih =>
    rw [List.foldlM_cons, h, ok_bind, ih, List.foldl_cons]

theorem define_eq (functions : Table FunctionRecord) (s : Stmt) (name : String)
    (params : Params) :
    define functions s name params = .ok (functions.set name (.ofDefinition s params)) := by
  rw [define, foldlM_set (fun functions r n => noteInner_set functions name r n), ok_bind]
  rw [foldlM_set (fun functions r e => noteDefault_set functions name r e)]
  rw [FunctionRecord.ofDefinition_eq]

theorem countCall_eq (functions : Table FunctionRecord) (name : String) :
    countCall functions name = .ok (functions.modify name Context.countCall) := by
  cases h : functions.get? name with
  | none => simp [countCall, Table.contains, Table.modify, h]
  | some r =>
    simp only [countCall, Table.contains, Table.modify, h, amend, entry_of_get? h, ok_bind]
    rfl

theorem note_eq (c : Context) (n : Node) : note c n = .ok (c.note n) := by
  cases n with
  | stmt s =>
    dsimp only [note]
    split
    . rw [define_eq]
      rfl
    . rfl
  | expr e =>
    cases h : e.calledName? with
    | none => simp only [note, Context.note, h]
    | some name =>
      simp only [note, Context.note, h, countCall_eq]
      rfl
  | _ => rfl

theorem extend_eq (c : Context) (p : Program) : extend c p = .ok (c.extend p) := by
  unfold extend Context.extend
  generalize p.walk = ns
  induction ns generalizing c with
  | nil => rfl
  | cons n ns ih =>
    rw [List.foldlM_cons, note_eq, ok_bind, ih, List.foldl_cons]

end Lookup

end HabitLens
