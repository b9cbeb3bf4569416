import HabitLens.Review.Analyzer
import HabitLens.Proofs.Outcome
import HabitLens.Text.Cut

/-!
The entries that an external linter writes. Those about errors become issues, in order and up to the
first entry that cannot be read, which is told of instead. Neither the code nor what is known of it
makes a difference: the one rule that asks for a variable is for entries of which another rule
disposes before.
-/

namespace HabitLens.Review

namespace Linter

inductive IsEntry : Value → Table Value → String → Prop where
  | typed {fields : Table Value} {type : String} (h : fields.get? "type" = some (.str type)) :
      IsEntry (.dict fields) fields type
  | unpaired {fields : Table Value} {codes : List Nat}
      (h : fields.get? "type" = some (.unpaired codes)) :
      IsEntry (.dict fields) fields (Text.ofCodes codes)
  | untyped {fields : Table Value} (h : fields.get? "type" = none) :
      IsEntry (.dict fields) fields ""

inductive IsMalformed : Value → Failure → Prop where
  | noTable {v : Value} (h : ∀ fields, v ≠ .dict fields) : IsMalformed v (.noOperation v.kind "get")
  | noText {fields : Table Value} {type : Value} (htype : fields.get? "type" = some type)
      (h : type.kind ≠ .str) : IsMalformed (.dict fields) (.noOperation type.kind "lower")

def HasSymbol (fields : Table Value) (names : List String) : Prop :=
  ∃ name ∈ names, fields.get? "symbol" = some (.str name)

/-- An entry is about an error if its type says so or its symbol is on one of the lists. -/
def IsAboutError (fields : Table Value) (type : String) : Prop :=
  type.toLower = "error" ∨ HasSymbol fields definiteErrors ∨ HasSymbol fields potentialErrors

/-- The issue of an entry. -/
structure Reports (fields : Table Value) (type : String) (i : Issue) : Prop where
  line : i.line = (fields.get? "line").getD (.int 0)
  message : i.message = (fields.get? "message").getD (.str "")
  isBadHabit : i.isBadHabit = true
  origin : i.origin = .linter
  potential : i.category = .potentialError
    ↔ type.toLower ≠ "error" ∧ HasSymbol fields potentialErrors
  otherwise : i.category ≠ .potentialError → i.category = .runtimeError

/-- Entries that can be read lead to issues: one for each entry about an error, in order. -/
inductive Reads : List Value → List Issue → Prop where
  | nil : Reads [] []
  | reported {v : Value} {fields : Table Value} {type : String} {i : Issue} {vs : List Value}
      {is : List Issue} (hentry : IsEntry v fields type) (h : IsAboutError fields type)
      (hi : Reports fields type i) (hrest : Reads vs is) : Reads (v :: vs) (i :: is)
  | passed {v : Value} {fields : Table Value} {type : String} {vs : List Value} {is : List Issue}
      (hentry : IsEntry v fields type) (h : ¬IsAboutError fields type) (hrest : Reads vs is) :
      Reads (v :: vs) is

theorem isErrorType_iff (type : String) : isErrorType type = true ↔ type.toLower = "error" := by
  unfold isErrorType String.toLower
  rw [beq_iff_eq, ← String.toList_map, String.toList_inj]

theorem isOneOf_symbol_iff (fields : Table Value) (names : List String) (h : "" ∉ names) :
    isOneOf names ((fields.get? "symbol").getD (.str "")) = true ↔ HasSymbol fields names := by
  unfold HasSymbol
  cases fields.get? "symbol" with
  | none => simpa [isOneOf] using h
  | some v =>
    cases v with
    | str s => simp [isOneOf]
    | _ => simp [isOneOf]

theorem not_hasSymbol_of_potential {fields : Table Value} (h : HasSymbol fields potentialErrors) :
    ¬HasSymbol fields definiteErrors := by
  -- No name is on both lists.
  rintro ⟨name, hname, hsymbol⟩
  obtain ⟨other, hother, hsymbol'⟩ := h
  rw [hsymbol] at hsymbol'
  cases hsymbol'
  have hdisjoint : ∀ n ∈ potentialErrors, n ∉ definiteErrors := by decide
  exact hdisjoint name hother hname

section

variable {fields : Table Value} {type : String}

theorem definite_iff :
    (isErrorType type || isOneOf definiteErrors ((fields.get? "symbol").getD (.str ""))) = true
      ↔ type.toLower = "error" ∨ HasSymbol fields definiteErrors := by
  rw [Bool.or_eq_true, isErrorType_iff, isOneOf_symbol_iff fields definiteErrors (by decide)]

theorem about_iff :
    (isErrorType type || isOneOf definiteErrors ((fields.get? "symbol").getD (.str ""))
        || isOneOf potentialErrors ((fields.get? "symbol").getD (.str ""))) = true
      ↔ IsAboutError fields type := by
  rw [Bool.or_eq_true, definite_iff, isOneOf_symbol_iff fields potentialErrors (by decide)]
  exact or_assoc

theorem issue?_eq_none (h : ¬IsAboutError fields type) : issue? fields type = none :=
  if_neg (mt about_iff.1 h)

theorem exists_issue? (h : IsAboutError fields type) :
    ∃ i, issue? fields type = some i ∧ Reports fields type i := by
  refine ⟨_, if_pos (about_iff.2 h), rfl, rfl, rfl, rfl, ?_, ?_⟩
  . split
    next hdefinite =>
      refine ⟨nofun, ?_⟩
      rintro ⟨htype, hsymbol⟩
      rcases definite_iff.1 hdefinite with herror | hlisted
      . exact absurd herror htype
      . exact absurd hlisted (not_hasSymbol_of_potential hsymbol)
    next hdefinite =>
      rw [definite_iff, not_or] at hdefinite
      refine ⟨fun _ => ⟨hdefinite.1, ?_⟩, fun _ => rfl⟩
      rcases h with herror | hlisted | hlisted
      . exact absurd herror hdefinite.1
      . exact absurd hlisted hdefinite.2
      . exact hlisted
  . split
    . exact fun _ => rfl
    . exact fun hother => absurd rfl hother

end

theorem ofEntry_of_isEntry {v : Value} {fields : Table Value} {type : String}
    (h : IsEntry v fields type) : ofEntry v = .ok (issue? fields type) := by
  cases h with
  | typed h => simp only [ofEntry, h, Option.getD_some]
  | unpaired h => simp only [ofEntry, h, Option.getD_some]
  | untyped h => simp only [ofEntry, h, Option.getD_none]

theorem ofEntry_of_isMalformed {v : Value} {f : Failure} (h : IsMalformed v f) :
    ofEntry v = .error f := by
  cases h with
  | noTable h =>
    cases v with
    | dict fields => exact absurd rfl (h fields)
    | _ => rfl
  | @noText fields type htype h =>
    simp only [ofEntry, htype, Option.getD_some]
    cases type with
    | str s => exact absurd rfl h
    | unpaired codes => exact absurd rfl h
    | _ => rfl

theorem isEntry_or_isMalformed (v : Value) :
    (∃ fields type, IsEntry v fields type) ∨ ∃ f, IsMalformed v f := by
  cases v with
  | dict fields =>
    cases htype : Table.get? fields "type" with
    | none => exact Or.inl ⟨fields, "", .untyped htype⟩
    | some type =>
      cases type with
      | str s => exact Or.inl ⟨fields, s, .typed htype⟩
      | unpaired codes => exact Or.inl ⟨fields, _, .unpaired htype⟩
      | _ => exact Or.inr ⟨_, .noText htype nofun⟩
  | _ => exact Or.inr ⟨_, .noTable nofun⟩

theorem exists_reads_ofEntries (entries : List Value) :
    ∃ sound rest reported,
      entries = sound ++ rest ∧
      Reads sound reported ∧
      (rest = [] ∧ ofEntries entries = reported ∨
        ∃ bad behind f,
          rest = bad :: behind ∧
          IsMalformed bad f ∧
          ofEntries entries = reported ++ [failure f]) := by
  induction entries with
  | nil => exact ⟨[], [], [], rfl, .nil, Or.inl ⟨rfl, rfl⟩⟩
  | cons v vs ih =>
    rcases isEntry_or_isMalformed v with ⟨fields, type, hentry⟩ | ⟨f, hbad⟩
    . obtain ⟨sound, rest, reported, rfl, hreads, hend⟩ := ih
      by_cases habout : IsAboutError fields type
      . obtain ⟨i, hissue, hreports⟩ := exists_issue? habout
        refine ⟨v :: sound, rest, i :: reported, rfl, .reported hentry habout hreports hreads, ?_⟩
        simp only [ofEntries, ofEntry_of_isEntry hentry, hissue]
        rcases hend with ⟨rfl, hend⟩ | ⟨bad, behind, f, rfl, hbad, hend⟩
        . rw [hend]
          exact Or.inl ⟨rfl, rfl⟩
        . rw [hend]
          exact Or.inr ⟨bad, behind, f, rfl, hbad, rfl⟩
      . refine ⟨v :: sound, rest, reported, rfl, .passed hentry habout hreads, ?_⟩
        simp only [ofEntries, ofEntry_of_isEntry hentry, issue?_eq_none habout]
        exact hend
    . -- What is behind the first entry that cannot be read is not looked at.
      refine ⟨[], v :: vs, [], rfl, .nil, Or.inr ⟨v, vs, f, rfl, hbad, ?_⟩⟩
      simp only [ofEntries, ofEntry_of_isMalformed hbad, List.nil_append]

/-!
The same entries with the rule that asks for a variable. It stands under the second list of symbols,
and the symbol that it is for is on the first one.
-/

namespace InContext

def quotedParts : Value → Except Failure (List String)
  | .str s => .ok ((Text.splitAt '\'' s.toList).map String.ofList)
  | .unpaired codes => .ok ((Text.splitAt '\''.toNat codes).map Text.ofCodes)
  | v => .error (.noOperation v.kind "split")

def category (assigned : Table Nat) (type : String) (symbol message : Value) :
    Except Failure Category :=
  if isErrorType type || isOneOf definiteErrors symbol then .ok .runtimeError
  else if isOneOf potentialErrors symbol then
    if isOneOf ["undefined-variable"] symbol then do
      let parts ← quotedParts message
      return if parts[1]?.any assigned.contains then .potentialError else .runtimeError
    else .ok .potentialError
  else .ok .badHabit

def ofFields (assigned : Table Nat) (fields : Table Value) (type : String) :
    Except Failure (Option Issue) := do
  let message := (fields.get? "message").getD (.str "")
  let symbol := (fields.get? "symbol").getD (.str "")
  let category ← category assigned type symbol message
  if isErrorType type || isOneOf definiteErrors symbol || isOneOf potentialErrors symbol then
    return some
      { line := (fields.get? "line").getD (.int 0)
        message := message
        isBadHabit := true
        category := category
        origin := .linter }
  else return none

def ofEntry (assigned : Table Nat) : Value → Except Failure (Option Issue)
  | .dict fields =>
    match (Table.get? fields "type").getD (.str "") with
    | .str type => ofFields assigned fields type
    | .unpaired codes => ofFields assigned fields (Text.ofCodes codes)
    | v => .error (.noOperation v.kind "lower")
  | v => .error (.noOperation v.kind "get")

def ofEntries (assigned : Table Nat) : List Value → List Issue
  | [] => []
  | v :: vs =>
    match ofEntry assigned v with
    | .ok issue => issue.toList ++ ofEntries assigned vs
    | .error f => [failure f]

/-- The rule for undefined variables is never asked. -/
theorem not_isOneOf_undefined {symbol : Value} (h : isOneOf potentialErrors symbol = true) :
    isOneOf ["undefined-variable"] symbol = false := by
  cases symbol with
  | str s =>
    have hother : ∀ name ∈ potentialErrors, ["undefined-variable"].contains name = false := by
      decide
    exact hother s (List.contains_iff_mem.1 h)
  | _ => rfl

theorem category_eq (assigned : Table Nat) (type : String) (symbol message : Value) :
    category assigned type symbol message
      =
    .ok (if isErrorType type || isOneOf definiteErrors symbol then .runtimeError
      else if isOneOf potentialErrors symbol then .potentialError
      else .badHabit) := by
  unfold category
  split
  . rfl
  . split
    next hpotential =>
      rw [not_isOneOf_undefined hpotential]
      rfl
    . rfl

theorem ofFields_eq (assigned : Table Nat) (fields : Table Value) (type : String) :
    ofFields assigned fields type = .ok (issue? fields type) := by
  simp only [ofFields, category_eq, Outcome.ok_bind, issue?]
  generalize (fields.get? "symbol").getD (.str "") = symbol
  cases isErrorType type || isOneOf definiteErrors symbol with
  | true => rfl
  | false =>
    cases isOneOf potentialErrors symbol with
    | true => rfl
    | false => rfl

theorem ofEntry_eq (assigned : Table Nat) (v : Value) :
    ofEntry assigned v = Linter.ofEntry v := by
  cases v with
  | dict fields =>
    cases htype : (Table.get? fields "type").getD (.str "") with
    | str type => simp only [ofEntry, Linter.ofEntry, htype, ofFields_eq]
    | unpaired codes => simp only [ofEntry, Linter.ofEntry, htype, ofFields_eq]
    | _ => simp only [ofEntry, Linter.ofEntry, htype]
  | _ => rfl

theorem ofEntries_eq (assigned : Table Nat) (entries : List Value) :
    ofEntries assigned entries = Linter.ofEntries entries := by
  induction entries with
  | nil => rfl
  | cons v vs ih =>
    cases hentry : Linter.ofEntry v with
    | ok issue => simp only [ofEntries, Linter.ofEntries, ofEntry_eq, hentry, ih]
    | error f => simp only [ofEntries, Linter.ofEntries, ofEntry_eq, hentry]

end InContext

theorem ofOutput_list {text : String} {entries : List Value}
    (hread : Json.read text.toList = .ok (.list entries)) :
    ofOutput text = ofEntries entries := by
  have htext : text ≠ "" := by
    rintro rfl
    cases hread
  unfold ofOutput
  rw [if_neg (mt String.isEmpty_iff.1 htext), hread]
  rfl

end Linter

open Linter in
/--
The entries that a linter writes are gone through in order up to the first one that cannot be read.
What comes of them depends on nothing else: neither on the code nor on the variables known of it.
-/
theorem Analyzer.lint_filters_entries {text : String} {entries : List Value}
    (hread : Json.read text.toList = .ok (.list entries)) :
    ∃ issues,
      (∀ (a : Analyzer) (code : String),
        a.lint (.str code) (.output text) = { analyzer := a.add issues } ∧
        InContext.ofEntries a.context.assigned entries = issues) ∧
      ∃ sound rest reported,
        entries = sound ++ rest ∧
        Reads sound reported ∧
        (rest = [] ∧ issues = reported ∨
          ∃ bad behind f,
            rest = bad :: behind ∧
            IsMalformed bad f ∧
            issues = reported ++ [.trouble ("Error running pylint: " ++ f.message)]) := by
  refine ⟨ofEntries entries, ?_, exists_reads_ofEntries entries⟩
  intro a code
  refine ⟨?_, InContext.ofEntries_eq a.context.assigned entries⟩
  rw [← ofOutput_list hread]
  rfl

/-- Two entries about errors, one that is not, one that cannot be read and one behind it. -/
def Linter.mixedEntries : String :=
  "[\x7b\"symbol\":\"undefined-variable\",\"message\":\"'x'\"\x7d," ++
    "\x7b\"symbol\":\"missing-kwoa\",\"line\":4\x7d,\x7b\"type\":\"info\"\x7d," ++
    "\x7b\"type\":null\x7d,\x7b\"type\":\"error\"\x7d]"

theorem Linter.read_mixedEntries :
    Json.read mixedEntries.toList
      =
    .ok (.list
      [.dict [("symbol", .str "undefined-variable"), ("message", .str "'x'")],
       .dict [("symbol", .str "missing-kwoa"), ("line", .int 4)], .dict [("type", .str "info")],
       .dict [("type", .null)], .dict [("type", .str "error")]]) := by
  apply Outcome.toOption_eq_some.1
  decide +kernel

/-- The variable that the first entry names is known, which does not make its error less certain. -/
theorem Analyzer.lint_filters_mixedEntries :
    (({ context := { assigned := [("x", 1)] } } : Analyzer).lint (.str "x = 1")
        (.output Linter.mixedEntries)).analyzer.feedback
      =
    [{ line := .int 0, message := .str "'x'", isBadHabit := true, category := .runtimeError,
       origin := .linter },
     { line := .int 4, message := .str "", isBadHabit := true, category := .potentialError,
       origin := .linter },
     .trouble "Error running pylint: 'NoneType' object has no attribute 'lower'"] := by
  obtain ⟨issues, hlint, -⟩ := lint_filters_entries Linter.read_mixedEntries
  -- What comes of the entries is the same for all analyzers and can be read off at any of them.
  obtain rfl := (hlint {} "").2
  rw [(hlint _ _).1]
  rfl

end HabitLens.Review
