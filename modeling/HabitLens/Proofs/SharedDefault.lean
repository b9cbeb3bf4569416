import HabitLens.Proofs.CallDepth

/-!
Issues on defaults that all calls of a function share. How bad they are depends on a record that an
earlier walk made under the bare name of the function, so definitions of one name share a record.
-/

namespace HabitLens

theorem Table.eq_of_keys_eq_singleton {t : Table α} {key only : String} {v : α}
    (hkeys : t.keys = [only]) (h : t.get? key = some v) : key = only := by
  have hkey : key ∈ t.keys := by
    rw [mem_keys_iff, h]
    rfl
  rw [hkeys] at hkey
  exact List.mem_singleton.1 hkey

theorem Source.exists_of_any_parse {code : String} {p : List Stmt → Bool}
    (h : (parse code).toOption.any p = true) : ∃ body, parse code = .ok body ∧ p body = true := by
  cases hparse : parse code with
  | error fault =>
    rw [hparse] at h
    cases h
  | ok body =>
    rw [hparse] at h
    exact ⟨body, rfl, h⟩

namespace Source.Node

def signature : Node → Params
  | stmt (.functionDef _ _ _ ps ..) => ps
  | _ => .empty

/-- Somewhere in a node, an assignment has a plain name as a target. -/
def AssignsTo (n : Node) (x : String) : Prop :=
  ∃ target ∈ n.walk.flatMap targets, target.name? = some x

instance (n : Node) (x : String) : Decidable (n.AssignsTo x) :=
  inferInstanceAs (Decidable (∃ target ∈ n.walk.flatMap targets, target.name? = some x))

theorem assigns_iff (n : Node) (x : String) :
    n.assigns x = true ↔ ∃ target ∈ n.targets, target.name? = some x := by
  cases n with
  | stmt s =>
    cases s with
    | assign line targets value => simp [assigns, Stmt.assignedNames, Node.targets]
    | _ => simp [assigns, Stmt.assignedNames, Node.targets]
  | _ => simp [assigns, Node.targets]

theorem any_assigns_iff (n : Node) (x : String) :
    n.walk.any (assigns x) = true ↔ n.AssignsTo x := by
  simp only [AssignsTo, List.any_eq_true, assigns_iff, List.mem_flatMap]
  constructor
  . rintro ⟨m, hm, target, htarget, hname⟩
    exact ⟨target, ⟨m, hm, htarget⟩, hname⟩
  . rintro ⟨target, ⟨m, hm, htarget⟩, hname⟩
    exact ⟨m, hm, target, htarget, hname⟩

end Source.Node

namespace Review

open Source

theorem isPrefixOf_ofList_append (words cs : List Char) (s : String) :
    words.isPrefixOf (String.ofList cs ++ s).toList = words.isPrefixOf (cs ++ s.toList) := by
  rw [String.toList_append, String.toList_ofList]

def Issue.isOnDefault (i : Issue) : Bool :=
  match i.message with
  | .str s => i.origin == .tree && "Function \"".toList.isPrefixOf s.toList
  | _ => false

theorem Issue.IsReport.isOnDefault_eq {i : Issue} (h : i.IsReport) : i.isOnDefault = false := by
  cases h with
  | entry line message h =>
    cases message with
    | _ => rfl
  | trouble h => rfl

namespace MutableDefault

/--
One issue for every display among the defaults of a definition, with its line and the name of the
function. All of them have the category that is given for the definition.
-/
def issuesOn (category : Node → Category) (n : Node) : List Issue :=
  match n with
  | .stmt (.functionDef line false name params ..) =>
    .replicate (params.defaults.countP Expr.isMutableDisplay)
      { line := .int line
        message := .str <|
          "Function \"" ++ name ++ "\" uses mutable default argument ([], \x7b\x7d, or set()). " ++
            "This will be shared across all function calls, causing unexpected behavior when " ++
            "modified."
        isBadHabit := true
        category := category n
        origin := .tree }
  | _ => []

theorem message_eq (name : String) :
    message name
      =
    "Function \"" ++ name ++ "\" uses mutable default argument ([], \x7b\x7d, or set()). " ++
      "This will be shared across all function calls, causing unexpected behavior when " ++
      "modified." := by
  unfold message
  simp only [String.append_assoc, String.reduceAppend]

def verdict (functions : Table FunctionRecord) : Node → Category
  | .stmt s =>
    match s with
    | .functionDef _ _ name params .. => category functions s name params
    | _ => .badHabit
  | _ => .badHabit

theorem ofNode_eq (functions : Table FunctionRecord) (n : Node) :
    ofNode functions n = issuesOn (verdict functions) n := by
  cases n with
  | stmt s =>
    cases s with
    | functionDef line isAsync =>
      cases isAsync with
      | false =>
        simp only [ofNode, issuesOn, verdict, List.countP_eq_length_filter, List.map_const',
          message_eq]
        rfl
      | true => rfl
    | _ => rfl
  | _ => rfl

theorem issuesOn_ne_nil_iff (category : Node → Category) {d : Stmt} {f : String}
    (h : (Node.stmt d).defines f = true) :
    issuesOn category (.stmt d) ≠ [] ↔ ∃ e ∈ d.defaults, e.isMutableDisplay = true := by
  cases d with
  | functionDef line isAsync =>
    cases isAsync with
    | false => simp [issuesOn, Stmt.defaults, List.countP_eq_zero]
    | true => cases h
  | _ => cases h

theorem flatMap_issuesOn_congr {category category' : Node → Category} {ns : List Node}
    (h : ∀ n ∈ ns, ∀ f, n.defines f = true → category n = category' n) :
    ns.flatMap (issuesOn category) = ns.flatMap (issuesOn category') := by
  apply List.flatMap_congr
  intro n hn
  unfold issuesOn
  split
  . next name _ _ _ _ => rw [h _ hn name (by simp [Node.defines])]
  . rfl

theorem reassigned_iff (d : Stmt) (ps : Params) :
    reassigned d ps = true
      ↔
    ∃ p ∈ ps.args.take ps.defaults.length, (Node.stmt d).AssignsTo p.name := by
  simp only [reassigned, List.any_eq_true (l := ps.args.take _), Node.any_assigns_iff]

theorem verdict_cases {functions : Table FunctionRecord} {n : Node} {f : String}
    {r : FunctionRecord} (hdefines : n.defines f = true) (hget : functions.get? f = some r) :
    (verdict functions n = .potentialError ∨ verdict functions n = .badHabit) ∧
    (verdict functions n = .potentialError
      ↔
    1 < r.calls ∨
      ∃ p ∈ n.signature.args.take n.signature.defaults.length, n.AssignsTo p.name) := by
  obtain ⟨d, rfl⟩ := Node.eq_stmt_of_defines hdefines
  unfold Node.defines at hdefines
  split at hdefines
  . next heq =>
    obtain rfl := Node.stmt.inj heq
    obtain rfl := beq_iff_eq.1 hdefines
    simp only [verdict, category, hget, Node.signature, ← reassigned_iff]
    split
    . next h => simpa using h
    . next h => simpa using h
  . cases hdefines

end MutableDefault

namespace Check

def openings : Check → List String
  | mutableDefaults => ["Function \""]
  | infiniteLoops => ["Infinite loop"]
  | exceptionHandling => ["Catching all"]
  | resourceManagement => ["File opened"]
  | unreachableCode => ["Unreachable"]
  | shadowingBuiltins => ["Variable name", "Function parameter"]

theorem Says.exists_opening {c : Check} {message : String} (h : c.Says message) :
    ∃ opening ∈ c.openings, opening.toList <+: message.toList := by
  simp only [← List.isPrefixOf_iff_prefix]
  cases h with
  | sharedDefault name =>
    refine ⟨_, List.mem_cons_self, ?_⟩
    unfold MutableDefault.message
    rw [String.append_assoc, String.append_assoc]
    exact (isPrefixOf_ofList_append _ _ _).trans rfl
  | shadowing o =>
    unfold Shadowing.message
    rw [String.append_assoc, String.append_assoc, String.append_assoc, String.append_assoc]
    split
    . refine ⟨_, List.mem_cons_of_mem _ List.mem_cons_self, ?_⟩
      exact (isPrefixOf_ofList_append _ _ _).trans rfl
    . refine ⟨_, List.mem_cons_self, ?_⟩
      exact (isPrefixOf_ofList_append _ _ _).trans rfl
  | _ =>
    refine ⟨_, List.mem_cons_self, ?_⟩
    exact (isPrefixOf_ofList_append _ _ _).trans rfl

theorem Says.isPrefixOf_eq {c target : Check} {message words : String} (h : c.Says message)
    (hwords : ∀ c : Check, ∀ opening ∈ c.openings, words.toList.length ≤ opening.toList.length ∧
      words.toList.isPrefixOf opening.toList = (c == target)) :
    words.toList.isPrefixOf message.toList = (c == target) := by
  obtain ⟨opening, hopening, hmessage⟩ := h.exists_opening
  obtain ⟨hlength, htells⟩ := hwords c opening hopening
  rw [← htells, Bool.eq_iff_iff, List.isPrefixOf_iff_prefix, List.isPrefixOf_iff_prefix]
  constructor
  . intro hbegins
    exact List.prefix_of_prefix_length_le hbegins hmessage hlength
  . intro hbegins
    exact hbegins.trans hmessage

theorem isOnDefault_of_mem_run {functions : Table FunctionRecord} {p : Program} {c : Check}
    {i : Issue} (h : i ∈ c.run functions p) : i.isOnDefault = (c == .mutableDefaults) := by
  obtain ⟨line, message, category, rfl, hwords, -, -⟩ := finds_of_mem_run h
  apply hwords.isPrefixOf_eq
  intro c
  cases c <;> decide

theorem filter_run (functions : Table FunctionRecord) (p : Program) (c : Check) :
    (c.run functions p).filter Issue.isOnDefault
      =
    if c = .mutableDefaults then MutableDefault.check functions p else [] := by
  split
  . next h =>
    subst h
    apply List.filter_eq_self.2
    intro i hi
    exact isOnDefault_of_mem_run hi
  . next h =>
    apply List.filter_eq_nil_iff.2
    intro i hi
    rw [isOnDefault_of_mem_run hi]
    simpa using h

end Check

namespace Context

theorem exists_get?_functions {p : Program} {n : Node} {f : String} (hn : n ∈ p.walk)
    (hdefines : n.defines f = true) : ∃ r, (extend {} p).functions.get? f = some r := by
  apply Option.isSome_iff_exists.1
  rw [← Table.mem_keys_iff, extend, mem_keys_functions_foldl_note]
  exact .inr ⟨n, hn, hdefines⟩

theorem describes_last {p : Program} {f : String} {r : FunctionRecord}
    (h : (extend {} p).functions.get? f = some r) :
    ∃ before d after, p.walk = before ++ .stmt d :: after ∧ (Node.stmt d).defines f = true ∧
      (∀ n ∈ after, n.defines f = false) ∧ r.Describes d := by
  have hdefined : ∃ n ∈ p.walk, n.defines f = true := by
    have hkey : f ∈ (extend {} p).functions.keys := by
      rw [Table.mem_keys_iff, h]
      rfl
    rw [extend, mem_keys_functions_foldl_note] at hkey
    apply hkey.resolve_left
    simp [Table.keys]
  obtain ⟨before, n, after, hwalk, hdefines, hlast⟩ := exists_last_of_exists hdefined
  obtain ⟨d, rfl⟩ := Node.eq_stmt_of_defines hdefines
  obtain ⟨r', hget, hdescribes, -⟩ := get?_functions_of_last {} before hdefines hlast
  rw [← hwalk] at hget
  obtain rfl := Option.some.inj (h.symm.trans hget)
  exact ⟨before, d, after, hwalk, hdefines, hlast, hdescribes⟩

end Context

namespace Analyzer

theorem mem_feedback_check {a : Analyzer} {p : Program} {c : Check} {α : Type} {xs : List α}
    {f : α → List Issue} (h : a.check p c = a.add (xs.flatMap f)) {x : α} (hx : x ∈ xs) {i : Issue}
    (hi : f x = [i]) : i ∈ (a.check p c).feedback := by
  rw [h]
  apply List.mem_append_right
  apply List.mem_flatMap_of_mem hx
  rw [hi]
  apply List.mem_singleton_self

theorem context_analyze_of_ok (a : Analyzer) {code : String} {body : List Stmt}
    (run : LinterRun) (hparse : parse code = .ok body) :
    (a.analyze (.str code) run).analyzer.context = Context.extend {} { body } := by
  rw [analyze_of_ok a run hparse]

theorem filter_feedback_analyze (a : Analyzer) {code : String} {body : List Stmt}
    (run : LinterRun) (hparse : parse code = .ok body) :
    (a.analyze (.str code) run).analyzer.feedback.filter Issue.isOnDefault
      =
    (Node.module body).walk.flatMap
      (MutableDefault.issuesOn (MutableDefault.verdict (Context.extend {} { body }).functions)) := by
  have hreport : run.report.issues.filter Issue.isOnDefault = [] := by
    apply List.filter_eq_nil_iff.2
    intro i hi
    rw [(LinterRun.isReport_of_mem_report hi).isOnDefault_eq]
    exact Bool.false_ne_true
  rw [analyze_of_ok a run hparse, List.filter_append, hreport, List.append_nil]
  rw [List.filter_flatMap]
  simp only [Check.all, List.flatMap_cons, List.flatMap_nil, Check.filter_run]
  simp only [reduceCtorEq, if_true, if_false, List.append_nil]
  apply List.flatMap_congr
  intro n _
  exact MutableDefault.ofNode_eq _ n

/--
Let a text be a program and `walked` the nodes of a walk over it. Then the issues on defaults in its
analysis are those on the definitions in `walked`, in order, for some category of each definition:
never that of an error at run time, and that of a potential error if the record that is found under
the name counts more than one call. A record says that a function has mutable defaults if and only
if there are issues on its last definition.
-/
theorem analyze_issues_on_defaults (a : Analyzer) {code : String} {body : List Stmt}
    (run : LinterRun) (hparse : parse code = .ok body) :
    let result := (a.analyze (.str code) run).analyzer
    let walked := (Node.module body).walk
    ∃ category : Node → Category,
      result.feedback.filter Issue.isOnDefault
        = walked.flatMap (MutableDefault.issuesOn category) ∧
      (∀ n ∈ walked, ∀ f, n.defines f = true →
        ∃ r, result.context.functions.get? f = some r ∧
          category n ≠ .runtimeError ∧ (1 < r.calls → category n = .potentialError)) ∧
      (∀ f r, result.context.functions.get? f = some r →
        ∃ before n after, walked = before ++ n :: after ∧ n.defines f = true ∧
          (∀ m ∈ after, m.defines f = false) ∧
          (r.hasMutableDefaults = true ↔ MutableDefault.issuesOn category n ≠ [])) := by
  intro result walked
  rw [context_analyze_of_ok a run hparse]
  refine ⟨_, filter_feedback_analyze a run hparse, ?_, ?_⟩
  . intro n hn f hdefines
    obtain ⟨r, hget⟩ := Context.exists_get?_functions (p := { body }) hn hdefines
    obtain ⟨hcases, hiff⟩ := MutableDefault.verdict_cases hdefines hget
    refine ⟨r, hget, ?_, fun hcalls => hiff.2 (.inl hcalls)⟩
    rcases hcases with h | h <;> simp [h]
  . intro f r hget
    obtain ⟨before, d, after, hwalk, hdefines, hlast, hdescribes⟩ := Context.describes_last hget
    refine ⟨before, .stmt d, after, hwalk, hdefines, hlast, ?_⟩
    rw [hdescribes.hasMutableDefaults, MutableDefault.issuesOn_ne_nil_iff _ hdefines]

/--
In this program both definitions of `f` share a record, which counts two calls and says that the
inner one has no mutable defaults. There are two issues on the outer one.
-/
theorem analyze_issues_on_defaults_nested :
    let code := "def f(a=[], b=\x7b\x7d):\n def f():f(f())"
    let result := (({} : Analyzer).analyze (.str code) .missing).analyzer
    (result.feedback.filter Issue.isOnDefault).map (fun i => (i.line.int?, i.category))
      = [(some 1, .potentialError), (some 1, .potentialError)] ∧
    ∃ r, result.context.functions.get? "f" = some r ∧ r.hasMutableDefaults = false := by
  intro code
  dsimp only
  have heval : (parse code).toOption.any (fun body =>
      let functions := (Context.extend {} { body }).functions
      functions.keys == ["f"] &&
      (functions.get? "f").any (fun r => r.calls == 2 && !r.hasMutableDefaults) &&
      ((Node.module body).walk.flatMap
        (MutableDefault.issuesOn fun _ => .potentialError)).map
          (fun i => (i.line.int?, i.category))
        == [(some 1, .potentialError), (some 1, .potentialError)]) = true := by
    decide +kernel
  obtain ⟨body, hparse, heval⟩ := exists_of_any_parse heval
  simp only [Bool.and_eq_true, beq_iff_eq, Option.any_eq_true, Bool.not_eq_true'] at heval
  obtain ⟨⟨hkeys, r, hget, hcalls, hmutable⟩, hissues⟩ := heval
  obtain ⟨category, hfeedback, hdefinitions, -⟩ := analyze_issues_on_defaults {} .missing hparse
  rw [← context_analyze_of_ok {} .missing hparse] at hkeys hget
  refine ⟨?_, r, hget, hmutable⟩
  rw [hfeedback, ← hissues]
  congr 1
  apply MutableDefault.flatMap_issuesOn_congr
  intro n hn f hf
  obtain ⟨r', hget', -, hcategory⟩ := hdefinitions n hn f hf
  rw [Table.eq_of_keys_eq_singleton hkeys hget', hget] at hget'
  apply hcategory
  rw [← Option.some.inj hget', hcalls]
  decide

end Analyzer

end Review

end HabitLens
