import HabitLens.Proofs.Lookup.Context
import HabitLens.Review.Analyzer

/-!
The checks with their lookups spelled out. A lookup that fails breaks a check off, and the analysis
with it; what was found before stays. No lookup fails, whatever the program and whatever is known
of it, so that the analysis with its lookups spelled out is the analysis.
-/

namespace HabitLens

open Outcome

theorem Source.Node.alike_refl (n : Node) : n.alike n = true := by
  unfold alike
  simp only [decide_true, Bool.true_and, List.all_eq_true]
  rintro ⟨⟨c, hc⟩, d⟩ hmem
  obtain ⟨i, hi, hpair⟩ := List.mem_iff_getElem.1 hmem
  simp only [List.getElem_zip, List.getElem_attach, Prod.mk.injEq, Subtype.mk.injEq] at hpair
  obtain ⟨rfl, rfl⟩ := hpair
  apply alike_refl
termination_by n.weight
decreasing_by exact weight_lt_of_mem_children hc

namespace Lookup

open Source Review

structure Report where
  issues : List Issue
  failure : Option Failure := none

/-- Goes over the parts of a program and remembers something on the way. -/
def scan {σ ν : Type} (step : σ → ν → Except Failure (σ × List Issue)) (memory : σ) :
    List ν → Report
  | [] => { issues := [] }
  | n :: ns =>
    match step memory n with
    | .error f => { issues := [], failure := some f }
    | .ok (memory, found) =>
      let later := scan step memory ns
      { later with issues := found ++ later.issues }

def scanEach {ν : Type} (look : ν → Except Failure (List Issue)) (ns : List ν) : Report :=
  scan (fun _ n => do return ((), ← look n)) () ns

theorem scanEach_eq {ν : Type} {look : ν → Except Failure (List Issue)} {found : ν → List Issue}
    (h : ∀ n, look n = .ok (found n)) (ns : List ν) :
    scanEach look ns = { issues := ns.flatMap found } := by
  unfold scanEach
  induction ns with
  | nil => rfl
  | cons n ns ih =>
    simp only [scan, h n, ok_bind, ih]
    rfl

def defaultCategory (functions : Table FunctionRecord) (definition : Stmt) (name : String)
    (params : Params) : Except Failure Category :=
  if functions.contains name then do
    let record ← entry functions name
    return if 1 < record.calls || MutableDefault.reassigned definition params then .potentialError
      else .badHabit
  else .ok .runtimeError

def mutableDefault (functions : Table FunctionRecord) : Node → Except Failure (List Issue)
  | .stmt s =>
    match s with
    | .functionDef line false name params .. =>
      (params.defaults.filter Expr.isMutableDisplay).mapM fun _ => do
        return .found line (MutableDefault.message name)
          (← defaultCategory functions s name params)
    | _ => .ok []
  | _ => .ok []

theorem defaultCategory_eq (functions : Table FunctionRecord) (definition : Stmt) (name : String)
    (params : Params) :
    defaultCategory functions definition name params
      =
    .ok (MutableDefault.category functions definition name params) := by
  unfold defaultCategory MutableDefault.category Table.contains
  cases h : functions.get? name with
  | none => rfl
  | some record =>
    rw [entry_of_get? h]
    rfl

theorem mutableDefault_eq (functions : Table FunctionRecord) (n : Node) :
    mutableDefault functions n = .ok (MutableDefault.ofNode functions n) := by
  cases n with
  | stmt s =>
    cases s with
    | functionDef line isAsync name params body decorators returns =>
      cases isAsync with
      | false =>
        apply mapM_eq_ok
        intro e _
        rw [defaultCategory_eq]
        rfl
      | true => rfl
    | _ => rfl
  | _ => rfl

def onlyPasses (h : Handler) : Except Failure Bool :=
  if h.body.length = 1 then do
    match ← item h.body 0 with
    | .pass _ => return true
    | _ => return false
  else .ok false

def broadHandler (v : Visit) : Except Failure (List Issue) :=
  match v.node with
  | .handler h =>
    if !BroadHandler.catchesAll h then .ok []
    else do
      if ← onlyPasses h then
        let category :=
          if v.above.head?.any BroadHandler.hasFinally then .badHabit else .runtimeError
        return [.found h.line BroadHandler.silentMessage category]
      else
        let category := if h.body.any BroadHandler.tells then .badHabit else .potentialError
        return [.found h.line BroadHandler.broadMessage category]
  | _ => .ok []

theorem onlyPasses_eq (h : Handler) : onlyPasses h = .ok (BroadHandler.onlyPasses h) := by
  unfold onlyPasses BroadHandler.onlyPasses
  cases h.body with
  | nil => rfl
  | cons s rest =>
    cases rest with
    | nil => cases s <;> rfl
    | cons t rest =>
      simp only [List.length_cons, Nat.add_eq_right, Nat.add_eq_zero_iff, Nat.one_ne_zero,
        and_false, if_false]

theorem broadHandler_eq (v : Visit) : broadHandler v = .ok (BroadHandler.ofVisit v) := by
  obtain ⟨n, above⟩ := v
  cases n with
  | handler h =>
    dsimp only [broadHandler, BroadHandler.ofVisit]
    rw [onlyPasses_eq, ok_bind]
    split
    . rfl
    . split
      . rfl
      . rfl
  | _ => rfl

def soleTarget? : Node → Except Failure (Option String)
  | .stmt (.assign _ targets _) =>
    if targets.length = 1 then do return (← item targets 0).name? else .ok none
  | _ => .ok none

def close (files : OpenFile.Files) (name : String) : Except Failure OpenFile.Files :=
  if files.contains name then do
    let _ ← entry files name
    return files.set name true
  else .ok files

def noteFile (files : OpenFile.Files) (n : Node) : Except Failure OpenFile.Files :=
  match n with
  | .stmt s =>
    match s with
    | .assign _ _ value => do
      match ← soleTarget? n with
      | some name => return if value.calledName? == some "open" then files.set name false else files
      | none => return files
    | _ =>
      match OpenFile.closedName? s with
      | some name => close files name
      | none => .ok files
  | _ => .ok files

def isClosed (files : OpenFile.Files) (v : Visit) : Except Failure Bool :=
  match v.above.head? with
  | none => .ok false
  | some n => do
    match ← soleTarget? n with
    | some name => if files.contains name then entry files name else .ok false
    | none => .ok false

def openFile (files : OpenFile.Files) (v : Visit) : Except Failure (List Issue) :=
  match v.node with
  | .expr e =>
    if v.node.calls "open" && !v.above.any OpenFile.isWith then do
      if ← isClosed files v then return []
      else return [.found e.line OpenFile.message (OpenFile.category v)]
    else .ok []
  | _ => .ok []

def fileStep (files : OpenFile.Files) (v : Visit) :
    Except Failure (OpenFile.Files × List Issue) := do
  let found ← openFile files v
  return (← noteFile files v.node, found)

theorem soleTarget?_eq (n : Node) : soleTarget? n = .ok (OpenFile.soleTarget? n) := by
  cases n with
  | stmt s =>
    cases s with
    | assign line targets value =>
      cases targets with
      | nil => rfl
      | cons target rest =>
        cases rest with
        | nil => rfl
        | cons other rest =>
          simp only [soleTarget?, OpenFile.soleTarget?, List.length_cons, Nat.add_eq_right,
            Nat.add_eq_zero_iff, Nat.one_ne_zero, and_false, if_false]
    | _ => rfl
  | _ => rfl

theorem close_eq (files : OpenFile.Files) (name : String) :
    close files name = .ok (files.modify name (fun _ => true)) := by
  cases h : files.get? name with
  | none => simp [close, Table.contains, Table.modify, h]
  | some closed =>
    simp only [close, Table.contains, Table.modify, h, entry_of_get? h, ok_bind]
    rfl

theorem noteFile_eq (files : OpenFile.Files) (n : Node) :
    noteFile files n = .ok (OpenFile.note files n) := by
  cases n with
  | stmt s =>
    cases s with
    | assign line targets value =>
      dsimp only [noteFile, OpenFile.note]
      rw [soleTarget?_eq, ok_bind]
      cases OpenFile.soleTarget? (.stmt (.assign line targets value)) with
      | none => rfl
      | some name => rfl
    | expr line value =>
      dsimp only [noteFile, OpenFile.note]
      cases OpenFile.closedName? (.expr line value) with
      | none => rfl
      | some name => apply close_eq
    | _ => rfl
  | _ => rfl

theorem isClosed_eq (files : OpenFile.Files) (v : Visit) :
    isClosed files v = .ok (OpenFile.isClosed files v) := by
  unfold isClosed OpenFile.isClosed
  cases v.above.head? with
  | none => rfl
  | some n =>
    dsimp only
    rw [soleTarget?_eq, ok_bind]
    cases OpenFile.soleTarget? n with
    | none => rfl
    | some name =>
      dsimp only [Option.bind]
      cases h : files.get? name with
      | none => simp [Table.contains, h]
      | some closed => simp [Table.contains, h, entry_of_get? h]

theorem openFile_eq (files : OpenFile.Files) (v : Visit) :
    openFile files v = .ok (OpenFile.ofVisit files v) := by
  obtain ⟨n, above⟩ := v
  cases n with
  | expr e =>
    dsimp only [openFile, OpenFile.ofVisit]
    rw [isClosed_eq, ok_bind]
    cases (Node.expr e).calls "open" && !above.any OpenFile.isWith with
    | false => rfl
    | true =>
      cases OpenFile.isClosed files ⟨.expr e, above⟩ with
      | false => rfl
      | true => rfl
  | _ => rfl

theorem scan_fileStep (files : OpenFile.Files) (vs : List Visit) :
    scan fileStep files vs = { issues := OpenFile.ofVisits files vs } := by
  induction vs generalizing files with
  | nil => rfl
  | cons v vs ih =>
    have hstep : fileStep files v = .ok (OpenFile.note files v.node, OpenFile.ofVisit files v) := by
      rw [fileStep, openFile_eq, ok_bind, noteFile_eq]
      rfl
    simp only [scan, hstep, ih]
    rfl

/-- The statement at a place `i` behind one that leaves the block, unless it is the last. -/
def firstFrom (body : List Stmt) (passed : Bool) (i : Nat) :
    List Stmt → Except Failure (Option Stmt)
  | [] => .ok none
  | s :: rest =>
    if passed && i < body.length - 1 then do return some (← item body i)
    else firstFrom body (passed || s.leaves) (i + 1) rest

/-- The first place of the statement at place `i`: it has another one only if it is shared. -/
def position (shared : Bool) (body : List Stmt) (i : Nat) (s : Stmt) : Except Failure Nat :=
  let found :=
    if shared then body.findIdx? fun t => (Node.stmt t).alike (.stmt s)
    else (List.range body.length).find? (· == i)
  match found with
  | some k => .ok k
  | none => .error (.outside "the statement is not in list")

def repeatedFrom (shared : Bool) (body : List Stmt) (i : Nat) :
    List Stmt → Except Failure (List Stmt)
  | [] => .ok []
  | s :: rest => do
    let k ← position shared body i s
    let later ← repeatedFrom shared body (i + 1) rest
    return if k < i then s :: later else later

def unreachable (shared : Bool) (n : Node) : Except Failure (List Issue) :=
  match Unreachable.body? n with
  | none => .ok []
  | some body => do
    match ← firstFrom body false 0 body with
    | none => return []
    | some s =>
      let again ← repeatedFrom shared body 0 body
      let category := (again.findSome? Unreachable.verdict?).getD .badHabit
      return [.found s.line Unreachable.message category]

theorem firstFrom_passed (before rest : List Stmt) :
    firstFrom (before ++ rest) true before.length rest
      =
    .ok (match rest with
      | t :: _ :: _ => some t
      | _ => none) := by
  cases rest with
  | nil => rfl
  | cons t rest =>
    cases rest with
    | nil => simp [firstFrom]
    | cons u rest =>
      have hitem : item (before ++ t :: u :: rest) before.length = .ok t := by
        apply item_of_getElem?
        simp
      have hlt : before.length < (before ++ t :: u :: rest).length - 1 := by
        simp only [List.length_append, List.length_cons]
        omega
      simp only [firstFrom, hlt, hitem, decide_true, Bool.and_true, if_true, ok_bind]
      rfl

theorem firstFrom_eq (before rest : List Stmt) :
    firstFrom (before ++ rest) false before.length rest = .ok (Unreachable.first? rest) := by
  induction rest generalizing before with
  | nil => rfl
  | cons s rest ih =>
    have hnext := ih (before ++ [s])
    have hpassed := firstFrom_passed (before ++ [s]) rest
    rw [List.append_assoc, List.singleton_append, List.length_append] at hnext hpassed
    rw [Unreachable.first?.eq_def]
    dsimp only
    split
    . next hleaves =>
      simp only [firstFrom, hleaves]
      exact hpassed
    . next hstays =>
      simp only [firstFrom, hstays]
      exact hnext

theorem position_unshared {body : List Stmt} {i : Nat} (h : i < body.length) (s : Stmt) :
    position false body i s = .ok i := by
  have hfound : (List.range body.length).find? (· == i) = some i := by
    rw [List.find?_range_eq_some]
    refine ⟨by simp, List.mem_range.2 h, ?_⟩
    intro k hk
    simp only [Bool.not_eq_true', beq_eq_false_iff_ne]
    omega
  simp [position, hfound]

theorem position_shared (before rest : List Stmt) (s : Stmt) :
    ∃ k, position true (before ++ s :: rest) before.length s = .ok k ∧
      (k < before.length ↔ before.any (fun e => (Node.stmt e).alike (.stmt s)) = true) := by
  have hself : (s :: rest).findIdx? (fun t => (Node.stmt t).alike (.stmt s)) = some 0 := by
    rw [List.findIdx?_cons, Node.alike_refl]
    rfl
  cases hbefore : before.findIdx? (fun t => (Node.stmt t).alike (.stmt s)) with
  | none =>
    refine ⟨before.length, ?_, ?_⟩
    . simp [position, List.findIdx?_append, hbefore, hself]
    . rw [List.findIdx?_eq_none_iff] at hbefore
      simp only [Nat.lt_irrefl, List.any_eq_true, false_iff]
      rintro ⟨e, he, halike⟩
      rw [hbefore e he] at halike
      cases halike
  | some k =>
    refine ⟨k, ?_, ?_⟩
    . simp [position, List.findIdx?_append, hbefore]
    . obtain ⟨hk, halike, -⟩ := List.findIdx?_eq_some_iff_getElem.1 hbefore
      simp only [hk, true_iff, List.any_eq_true]
      exact ⟨before[k], List.getElem_mem hk, halike⟩

theorem repeatedFrom_unshared (before rest : List Stmt) :
    repeatedFrom false (before ++ rest) before.length rest = .ok [] := by
  induction rest generalizing before with
  | nil => rfl
  | cons s rest ih =>
    have hnext := ih (before ++ [s])
    rw [List.append_assoc, List.singleton_append, List.length_append] at hnext
    have hlt : before.length < (before ++ s :: rest).length := by
      simp only [List.length_append, List.length_cons]
      omega
    rw [repeatedFrom, position_unshared hlt s, ok_bind]
    rw [show before.length + 1 = before.length + [s].length from rfl, hnext, ok_bind]
    simp only [Nat.lt_irrefl, if_false]
    rfl

theorem repeatedFrom_shared (before rest : List Stmt) :
    repeatedFrom true (before ++ rest) before.length rest
      =
    .ok (Unreachable.repeated before rest) := by
  induction rest generalizing before with
  | nil => rfl
  | cons s rest ih =>
    have hnext := ih (before ++ [s])
    rw [List.append_assoc, List.singleton_append, List.length_append] at hnext
    obtain ⟨k, hposition, hk⟩ := position_shared before rest s
    rw [repeatedFrom, hposition, ok_bind]
    rw [show before.length + 1 = before.length + [s].length from rfl, hnext, ok_bind]
    rw [Unreachable.repeated]
    simp only [hk]
    rfl

theorem unreachable_eq (shared : Bool) (n : Node) :
    unreachable shared n = .ok (Unreachable.ofNode shared n) := by
  unfold unreachable Unreachable.ofNode
  cases Unreachable.body? n with
  | none => rfl
  | some body =>
    have hfirst := firstFrom_eq [] body
    have hunshared := repeatedFrom_unshared [] body
    have hshared := repeatedFrom_shared [] body
    simp only [List.nil_append, List.length_nil] at hfirst hunshared hshared
    dsimp only
    rw [hfirst, ok_bind]
    cases Unreachable.first? body with
    | none => rfl
    | some s =>
      cases shared with
      | false =>
        dsimp only
        rw [hunshared]
        rfl
      | true =>
        dsimp only
        rw [hshared]
        rfl

def collect (groups : Table (List Shadowing.Occurrence)) (o : Shadowing.Occurrence) :
    Except Failure (Table (List Shadowing.Occurrence)) := do
  let groups := if groups.contains o.name then groups else groups.set o.name []
  let os ← entry groups o.name
  return groups.set o.name (os ++ [o])

def shadowing (p : Program) : Report :=
  match (p.walk.flatMap Shadowing.occurrences).foldlM collect [] with
  | .error f => { issues := [], failure := some f }
  | .ok groups => { issues := (groups.flatMap (·.2)).map Shadowing.issue }

theorem collect_eq (groups : Table (List Shadowing.Occurrence)) (o : Shadowing.Occurrence) :
    collect groups o = .ok (Shadowing.collect groups o) := by
  unfold collect Shadowing.collect
  cases h : groups.get? o.name with
  | none =>
    have hset : (groups.set o.name []).get? o.name = some [] := by simp
    simp only [Table.contains, h, Option.isSome_none, Bool.false_eq_true, if_false]
    rw [entry_of_get? hset, ok_bind, Table.set_set]
    rfl
  | some os =>
    simp only [Table.contains, h, Option.isSome_some, if_true]
    rw [entry_of_get? h, ok_bind]
    rfl

theorem foldlM_collect_eq (os : List Shadowing.Occurrence)
    (groups : Table (List Shadowing.Occurrence)) :
    os.foldlM collect groups = .ok (os.foldl Shadowing.collect groups) := by
  induction os generalizing groups with
  | nil => rfl
  | cons o os ih => rw [List.foldlM_cons, collect_eq, ok_bind, ih, List.foldl_cons]

theorem shadowing_eq (p : Program) : shadowing p = { issues := Shadowing.check p } := by
  rw [shadowing, foldlM_collect_eq]
  rfl

def run (functions : Table FunctionRecord) (p : Program) : Check → Report
  | .mutableDefaults => scanEach (mutableDefault functions) p.walk
  | .infiniteLoops => scanEach (fun n => .ok (InfiniteLoop.ofNode n)) p.walk
  | .exceptionHandling => scanEach broadHandler p.visits
  | .resourceManagement => scan fileStep [] p.visits
  | .unreachableCode => scanEach (unreachable p.shared) p.walk
  | .shadowingBuiltins => shadowing p

theorem run_eq (functions : Table FunctionRecord) (p : Program) (c : Check) :
    run functions p c = { issues := c.run functions p } := by
  cases c with
  | mutableDefaults => apply scanEach_eq (mutableDefault_eq functions)
  | infiniteLoops => apply scanEach_eq (fun n => rfl)
  | exceptionHandling => apply scanEach_eq broadHandler_eq
  | resourceManagement => apply scan_fileStep
  | unreachableCode => apply scanEach_eq (unreachable_eq p.shared)
  | shadowingBuiltins => apply shadowing_eq

def runAll (functions : Table FunctionRecord) (p : Program) : List Check → Report
  | [] => { issues := [] }
  | c :: cs =>
    let report := run functions p c
    match report.failure with
    | some _ => report
    | none =>
      let later := runAll functions p cs
      { later with issues := report.issues ++ later.issues }

theorem runAll_eq (functions : Table FunctionRecord) (p : Program) (cs : List Check) :
    runAll functions p cs = { issues := cs.flatMap (Check.run functions p) } := by
  induction cs with
  | nil => rfl
  | cons c cs ih =>
    simp only [runAll, run_eq, ih]
    rfl

end Lookup

end HabitLens
