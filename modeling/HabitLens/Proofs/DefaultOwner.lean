import HabitLens.Proofs.SharedDefault

/-!
Which parameters the check of shared defaults looks at. The defaults of a function belong to the
last of its positional parameters, but the check looks at the first of the ordinary ones, as many as
there are defaults.
-/

namespace HabitLens

namespace Source

/-- The positional parameters that have a default, with it: the last ones. -/
def Params.withDefault (ps : Params) : List (Param × Expr) :=
  (ps.posOnly ++ ps.args).reverse.zip ps.defaults.reverse

theorem Params.exists_mem_withDefault {ps : Params} (h : ps.args.length ≤ ps.defaults.length)
    {p : Param} (hp : p ∈ ps.args) : ∃ e, (p, e) ∈ ps.withDefault := by
  -- Counted from the end, the place of the parameter is that of its default.
  obtain ⟨i, hi, hget⟩ := List.getElem_of_mem (List.mem_reverse.2 hp)
  rw [List.length_reverse] at hi
  have hdefault : i < ps.defaults.reverse.length := by
    rw [List.length_reverse]
    omega
  refine ⟨ps.defaults.reverse[i], ?_⟩
  rw [withDefault, ← hget]
  apply List.mem_of_getElem? (i := i)
  rw [List.getElem?_zip_eq_some]
  constructor
  . rw [List.reverse_append, List.getElem?_append_left (by simpa using hi)]
    exact List.getElem?_eq_getElem _
  . exact List.getElem?_eq_getElem hdefault

namespace Node

/-- A parameter whose own default is a display is assigned to in the function. -/
def ReassignsDisplay (n : Node) : Prop :=
  ∃ own ∈ n.signature.withDefault, own.2.isMutableDisplay = true ∧ n.AssignsTo own.1.name

/--
All ordinary parameters have a default, and of the parameters with a default only ordinary ones
whose default is a display are assigned to.
-/
def DefaultsInPlace (n : Node) : Prop :=
  n.signature.args.length ≤ n.signature.defaults.length ∧
  ∀ own ∈ n.signature.withDefault, n.AssignsTo own.1.name →
    own.2.isMutableDisplay = true ∧ own.1.name ∈ n.signature.args.map Param.name

instance (n : Node) : Decidable n.ReassignsDisplay :=
  inferInstanceAs (Decidable (∃ own ∈ n.signature.withDefault,
    own.2.isMutableDisplay = true ∧ n.AssignsTo own.1.name))

instance (n : Node) : Decidable n.DefaultsInPlace :=
  inferInstanceAs (Decidable (_ ∧ ∀ own ∈ n.signature.withDefault, n.AssignsTo own.1.name → _ ∧ _))

theorem DefaultsInPlace.reassignsDisplay_iff {n : Node} (h : n.DefaultsInPlace) :
    n.ReassignsDisplay
      ↔
    ∃ p ∈ n.signature.args.take n.signature.defaults.length, n.AssignsTo p.name := by
  obtain ⟨hlength, howners⟩ := h
  rw [List.take_of_length_le hlength]
  constructor
  . rintro ⟨own, hown, -, hassigns⟩
    obtain ⟨p, hp, hname⟩ := List.mem_map.1 (howners own hown hassigns).2
    rw [← hname] at hassigns
    exact ⟨p, hp, hassigns⟩
  . rintro ⟨p, hp, hassigns⟩
    obtain ⟨e, hown⟩ := Params.exists_mem_withDefault hlength hp
    exact ⟨(p, e), hown, (howners _ hown hassigns).1, hassigns⟩

end Node

end Source

namespace Review.Analyzer

open Source

/--
Let a text be a program with a definition of a function whose record counts at most one call. The
issues on its defaults are potential errors if one of the ordinary parameters that are looked at is
assigned to in it, and bad habits otherwise. If the defaults are in place, they are potential errors
if and only if a parameter whose own default is a display is assigned to.
-/
theorem analyze_reassigned_defaults (a : Analyzer) {code : String} {body : List Stmt}
    (run : LinterRun) (hparse : parse code = .ok body) :
    let result := (a.analyze (.str code) run).analyzer
    let walked := (Node.module body).walk
    ∃ category : Node → Category,
      result.feedback.filter Issue.isOnDefault
        = walked.flatMap (MutableDefault.issuesOn category) ∧
      ∀ n ∈ walked, ∀ f, n.defines f = true →
        ∃ r, result.context.functions.get? f = some r ∧
          (r.calls ≤ 1 →
            (category n = .potentialError ∨ category n = .badHabit) ∧
            (category n = .potentialError ↔
              ∃ p ∈ n.signature.args.take n.signature.defaults.length, n.AssignsTo p.name) ∧
            (n.DefaultsInPlace → (category n = .potentialError ↔ n.ReassignsDisplay))) := by
  intro result walked
  rw [context_analyze_of_ok a run hparse]
  refine ⟨_, filter_feedback_analyze a run hparse, ?_⟩
  intro n hn f hdefines
  obtain ⟨r, hget⟩ := Context.exists_get?_functions (p := { body }) hn hdefines
  obtain ⟨hcases, hiff⟩ := MutableDefault.verdict_cases hdefines hget
  refine ⟨r, hget, ?_⟩
  intro hcalls
  rw [or_iff_right (Nat.not_lt.2 hcalls)] at hiff
  refine ⟨hcases, hiff, ?_⟩
  intro hplace
  rw [hiff, hplace.reassignsDisplay_iff]

/-- The parameter before the slash has no default here, so the defaults are in place. -/
theorem analyze_reassigned_defaults_in_place :
    let code := "def f(a, /, b=[], c=\x7b\x7d):\n c = b\nf(0)"
    let result := (({} : Analyzer).analyze (.str code) .missing).analyzer
    (result.feedback.filter Issue.isOnDefault).map (fun i => (i.line.int?, i.category))
      = [(some 1, .potentialError), (some 1, .potentialError)] := by
  intro code
  dsimp only
  have heval : (parse code).toOption.any (fun body =>
      let functions := (Context.extend {} { body }).functions
      let walked := (Node.module body).walk
      functions.keys == ["f"] &&
      (functions.get? "f").any (fun r => r.calls == 1) &&
      walked.all (fun n => !n.defines "f" || decide (n.DefaultsInPlace ∧ n.ReassignsDisplay)) &&
      (walked.flatMap (MutableDefault.issuesOn fun _ => .potentialError)).map
          (fun i => (i.line.int?, i.category))
        == [(some 1, .potentialError), (some 1, .potentialError)]) = true := by
    decide +kernel
  obtain ⟨body, hparse, heval⟩ := exists_of_any_parse heval
  simp only [Bool.and_eq_true, beq_iff_eq, Option.any_eq_true, List.all_eq_true, Bool.or_eq_true,
    Bool.not_eq_true', decide_eq_true_eq] at heval
  obtain ⟨⟨⟨hkeys, r, hget, hcalls⟩, hall⟩, hissues⟩ := heval
  obtain ⟨category, hfeedback, hdefinitions⟩ := analyze_reassigned_defaults {} .missing hparse
  rw [← context_analyze_of_ok {} .missing hparse] at hkeys hget
  rw [hfeedback, ← hissues]
  congr 1
  apply MutableDefault.flatMap_issuesOn_congr
  intro n hn f hf
  obtain ⟨r', hget', hcategory⟩ := hdefinitions n hn f hf
  have hname := Table.eq_of_keys_eq_singleton hkeys hget'
  rw [hname, hget] at hget'
  rw [hname] at hf
  obtain ⟨hplace, hreassigns⟩ := (hall n hn).resolve_left (by simp [hf])
  have honce : r'.calls ≤ 1 := by
    rw [← Option.some.inj hget', hcalls]
  exact ((hcategory honce).2.2 hplace).2 hreassigns

/--
Here the default of `b` is a display and `b` is assigned to, but the parameter that is looked at is
`a`.
-/
theorem analyze_overlooks_reassigned_default :
    let code := "def f(a, b=[]):\n    b = 1\n"
    let result := (({} : Analyzer).analyze (.str code) .missing).analyzer
    (∃ body, parse code = .ok body ∧
      ∃ n ∈ (Node.module body).walk, n.defines "f" = true ∧ n.ReassignsDisplay) ∧
    (result.context.functions.get? "f").map (·.calls) = some 0 ∧
    (result.feedback.filter Issue.isOnDefault).map (·.category) = [.badHabit] := by
  intro code
  dsimp only
  have heval : (parse code).toOption.any (fun body =>
      let functions := (Context.extend {} { body }).functions
      let walked := (Node.module body).walk
      walked.any (fun n => n.defines "f" && decide n.ReassignsDisplay) &&
      (functions.get? "f").map (·.calls) == some 0 &&
      (walked.flatMap (MutableDefault.issuesOn (MutableDefault.verdict functions))).map (·.category)
        == [.badHabit]) = true := by
    decide +kernel
  obtain ⟨body, hparse, heval⟩ := exists_of_any_parse heval
  simp only [List.any_eq_true, Bool.and_eq_true, decide_eq_true_eq, beq_iff_eq] at heval
  obtain ⟨⟨hreassigns, hcalls⟩, hissues⟩ := heval
  refine ⟨⟨body, hparse, hreassigns⟩, ?_, ?_⟩
  . rw [context_analyze_of_ok {} .missing hparse, hcalls]
  . rw [filter_feedback_analyze {} .missing hparse, hissues]

end Review.Analyzer

end HabitLens
