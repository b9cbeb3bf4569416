import HabitLens.Proofs.Inquiry
import HabitLens.Proofs.Marks

/-!
How an explanation and a fix are taken out of the text of a reply. Both ways to explain an issue
take out the same, and what they take out is decided by the first mark of explanations and the first
mark of fixes behind it.
-/

namespace HabitLens

open Act

/-- Code as it is handed over for an explanation: nothing, a text, or lines. -/
inductive IsCode : Value → Prop where
  | none : IsCode .null
  | text (s : String) : IsCode (.str s)
  | lines (ls : List Value) : IsCode (.list ls)

namespace Window

theorem exists_linesFrom {code : Value} {first count : Nat}
    (h : ∀ i < count, ∃ line, code.item (first + i) = .ok line) :
    ∃ lines, linesFrom code first count = .ok lines := by
  induction count generalizing first with
  | zero => exact ⟨[], rfl⟩
  | succ count ih =>
    obtain ⟨line, hline⟩ := h 0 (by omega)
    have hrest : ∀ i < count, ∃ line, code.item (first + 1 + i) = .ok line := by
      intro i hi
      rw [Nat.add_assoc, Nat.add_comm 1]
      apply h
      omega
    obtain ⟨lines, hlines⟩ := ih hrest
    rw [Nat.add_zero] at hline
    unfold linesFrom
    rw [hline, hlines]
    exact ⟨_, rfl⟩

theorem exists_item_str {s : String} {i : Nat} (h : i < s.length) :
    ∃ line, (Value.str s).item i = .ok line := by
  rw [← String.length_toList] at h
  simp only [Value.item, List.getElem?_eq_getElem h]
  exact ⟨_, rfl⟩

theorem exists_around {code : Value} (h : IsCode code) (line : Int) :
    ∃ window, around code (.int line) = .ok window := by
  cases h with
  | none => exact ⟨[], rfl⟩
  | lines ls => exact ⟨_, around_list ls line⟩
  | text s =>
    unfold around
    rw [isPositive_int]
    cases (Value.str s).truthy with
    | false => exact ⟨[], rfl⟩
    | true =>
      by_cases hline : 0 < line
      . rw [decide_eq_true hline]
        apply exists_linesFrom
        intro i hi
        apply exists_item_str
        omega
      . rw [decide_eq_false hline]
        exact ⟨[], rfl⟩

end Window

namespace Explain

variable {issue : Table Value} {line : Int} (hline : issue.get? "line" = some (.int line))
  {code : Value} (hcode : IsCode code) (j : Journal)

include hline hcode

theorem exists_leads_patientQuestion :
    ∃ q, Leads (attempt (patientQuestion (.dict issue) code)) j (.ok q) [] := by
  obtain ⟨window, hwindow⟩ := Window.exists_around hcode line
  unfold patientQuestion
  apply Exists.intro
  refine (leads_announce issue j).bind_ok fun j _ => ?_
  refine (Leads.ofExcept (fieldOr_line hline _) j).bind_ok fun j _ => ?_
  refine (Leads.ofExcept hwindow j).bind_ok fun j _ => ?_
  refine (Leads.ofExcept rfl j).bind_ok fun j _ => ?_
  refine (Leads.ofExcept rfl j).bind_ok fun j _ => ?_
  exact Leads.pure _ j

theorem exists_leads_briefQuestion :
    ∃ q, Leads (attempt (briefQuestion (.dict issue) code)) j (.ok q) [] := by
  obtain ⟨window, hwindow⟩ := Window.exists_around hcode line
  unfold briefQuestion
  apply Exists.intro
  refine (leads_announce issue j).bind_ok fun j _ => ?_
  refine (Leads.ofExcept rfl j).bind_ok fun j _ => ?_
  refine (Leads.ofExcept rfl j).bind_ok fun j _ => ?_
  refine (Leads.ofExcept (fieldOr_line hline _) j).bind_ok fun j _ => ?_
  refine (Leads.ofExcept hwindow j).bind_ok fun j _ => ?_
  exact Leads.pure _ j

end Explain

/-- The parts of a text before and behind the first mark, or the text if it has none. -/
def Text.parts (mark cs : List Char) : List (List Char) :=
  match cut? mark cs with
  | some (before, after) => [before, after]
  | none => [cs]

def Lacks (mark text : String) : Prop :=
  ¬mark.toList <:+: text.toList

instance (mark text : String) : Decidable (Lacks mark text) :=
  inferInstanceAs (Decidable (¬mark.toList <:+: text.toList))

theorem lacks_ofList {mark : String} {cs : List Char} :
    Lacks mark (String.ofList cs) ↔ ¬mark.toList <:+: cs := by
  unfold Lacks
  rw [String.toList_ofList]

namespace Advice

/-- The forms of a text with an explanation, and the advice that stands in it. -/
inductive Form (text : String) : Advice → Prop where
  | unfixed (before explanation : String) (hbefore : Lacks "Explanation:" before)
      (hexplanation : Lacks "Fix:" explanation)
      (htext : text = before ++ "Explanation:" ++ explanation) :
      Form text { explanation := stripped explanation.toList }
  | fixed (before explanation fix : String) (hbefore : Lacks "Explanation:" before)
      (hexplanation : Lacks "Fix:" explanation)
      (htext : text = before ++ "Explanation:" ++ explanation ++ "Fix:" ++ fix) :
      Form text { explanation := stripped explanation.toList, fix := some (stripped fix.toList) }

theorem cut?_explanation {before : String} (h : Lacks "Explanation:" before) (rest : List Char) :
    Text.cut? explanationMark.toList (before.toList ++ ("Explanation:".toList ++ rest))
      =
    some (before.toList, rest) :=
  Text.cut?_append (by decide) h rest

theorem cut?_fix {before : String} (h : Lacks "Fix:" before) (rest : List Char) :
    Text.cut? fixMark.toList (before.toList ++ ("Fix:".toList ++ rest))
      =
    some (before.toList, rest) :=
  Text.cut?_append (by decide) h rest

theorem Form.ofText?_eq {text : String} {advice : Advice} (h : Form text advice) :
    ofText? text = some advice := by
  unfold ofText?
  cases h with
  | unfixed before explanation hbefore hexplanation htext =>
    subst htext
    rw [String.toList_append, String.toList_append, List.append_assoc]
    rw [cut?_explanation hbefore]
    have hnone : Text.cut? fixMark.toList explanation.toList = none :=
      Text.cut?_eq_none_iff.2 hexplanation
    dsimp only
    rw [hnone]
  | fixed before explanation fix hbefore hexplanation htext =>
    subst htext
    simp only [String.toList_append, List.append_assoc]
    rw [cut?_explanation hbefore]
    dsimp only
    rw [cut?_fix hexplanation]

theorem form_of_ofText? {text : String} {advice : Advice} (h : ofText? text = some advice) :
    Form text advice := by
  unfold ofText? at h
  split at h
  . cases h
  . next before rest hcut =>
    have hbefore : Lacks "Explanation:" (String.ofList before) :=
      lacks_ofList.2 (Text.not_infix_of_cut? (by decide) hcut)
    have htext := Text.eq_of_cut? hcut
    split at h
    . next explanation fix hcut' =>
      have hexplanation : Lacks "Fix:" (String.ofList explanation) :=
        lacks_ofList.2 (Text.not_infix_of_cut? (by decide) hcut')
      have hform := Form.fixed _ _ (String.ofList fix) hbefore hexplanation (by
        rw [← String.toList_inj, htext, Text.eq_of_cut? hcut']
        simp [explanationMark, fixMark])
      rw [String.toList_ofList, String.toList_ofList, Option.some.inj h] at hform
      exact hform
    . next hnone =>
      have hexplanation : Lacks "Fix:" (String.ofList rest) :=
        lacks_ofList.2 (Text.cut?_eq_none_iff.1 hnone)
      have hform := Form.unfixed _ _ hbefore hexplanation (by
        rw [← String.toList_inj, htext]
        simp [explanationMark])
      rw [String.toList_ofList, Option.some.inj h] at hform
      exact hform

theorem exists_form {text : String} (h : "Explanation:".toList <:+: text.toList) :
    ∃ advice, Form text advice := by
  have hcut : (Text.cut? explanationMark.toList text.toList).isSome = true :=
    Text.isSome_cut?_iff.2 h
  have hsome : (ofText? text).isSome = true := by
    unfold ofText?
    split
    . next hnone =>
      rw [hnone] at hcut
      cases hcut
    . split
      . rfl
      . rfl
  obtain ⟨advice, hadvice⟩ := Option.isSome_iff_exists.1 hsome
  exact ⟨advice, form_of_ofText? hadvice⟩

/-- The advice that stands in a text, or what is told of a text without an explanation. -/
inductive Told (text : String) : Advice → Prop where
  | formed {advice : Advice} (h : Form text advice) : Told text advice
  | unmarked (h : Lacks "Explanation:" text) :
      Told text
        { explanation := "Claude did not return an explanation in the expected format." }

theorem ofText?_eq_none {text : String} (h : Lacks "Explanation:" text) : ofText? text = none := by
  have hnone : Text.cut? explanationMark.toList text.toList = none := Text.cut?_eq_none_iff.2 h
  unfold ofText?
  rw [hnone]

theorem told_received (text : String) : Told text (received text) := by
  unfold received
  by_cases h : Lacks "Explanation:" text
  . rw [ofText?_eq_none h]
    exact .unmarked h
  . obtain ⟨advice, hform⟩ := exists_form (not_not.1 h)
    rw [hform.ofText?_eq]
    exact .formed hform

/-- The advice of the text behind the mark of explanations, by its parts around the mark of fixes. -/
def ofParts : List (List Char) → Advice
  | explanation :: fix :: _ =>
    { explanation := stripped explanation, fix := some (stripped fix) }
  | [explanation] => { explanation := stripped explanation }
  | [] => unexplained

/-- Looks for the mark of explanations, and divides the text only if it is there. -/
def searched (text : String) : Advice :=
  if Text.occursIn explanationMark text then
    match Text.parts explanationMark.toList text.toList with
    | _ :: rest :: _ => ofParts (Text.parts fixMark.toList rest)
    | _ => ofParts (Text.parts fixMark.toList text.toList)
  else unexplained

/-- Divides the text at the mark of explanations, and counts the parts. -/
def divided (text : String) : Advice :=
  match Text.parts explanationMark.toList text.toList with
  | _ :: rest :: _ => ofParts (Text.parts fixMark.toList rest)
  | _ => unexplained

theorem divided_eq (text : String) : divided text = received text := by
  unfold divided received ofText? Text.parts
  cases Text.cut? explanationMark.toList text.toList with
  | none => rfl
  | some parts =>
    obtain ⟨before, rest⟩ := parts
    dsimp only
    cases Text.cut? fixMark.toList rest with
    | none => rfl
    | some parts => rfl

theorem searched_eq (text : String) : searched text = received text := by
  rw [← divided_eq]
  unfold searched divided Text.parts Text.occursIn
  cases Text.cut? explanationMark.toList text.toList with
  | none => rfl
  | some parts => rfl

theorem Form.received_eq {text : String} {advice : Advice} (h : Form text advice) :
    received text = advice := by
  unfold received
  rw [h.ofText?_eq]
  rfl

end Advice

namespace Explain

/--
A reply with a text is read alike in both ways, whether the mark of explanations is looked for first
or the text is divided at once. The explanation reaches from the first mark of explanations to the
first mark of fixes behind it, and the fix from there to the end, each without the blanks around it.
Every text with a mark of explanations is of one of these two forms.
-/
theorem reads_replies_alike {issue : Table Value} {line : Int}
    (hline : issue.get? "line" = some (.int line)) {code : Value} (hcode : IsCode code)
    {apiKey : Option String} (hkey : apiKey.getD "" ≠ "") {text : String} {j j' : Journal}
    (htext : j.replies.head?.bind Reply.text? = some text)
    (htext' : j'.replies.head?.bind Reply.text? = some text) :
    let patient := ((patient true (.dict issue) code).run j).1
    let brief := ((brief true apiKey (.dict issue) code).run j').1
    patient = .searched text ∧ brief = .divided text ∧ patient = brief ∧
    (∀ advice, Advice.Form text advice → patient = advice ∧ brief = advice) ∧
    ("Explanation:".toList <:+: text.toList → ∃ advice, Advice.Form text advice) ∧
    ∀ cs, Text.Strips Text.isBlank cs (Advice.stripped cs).toList := by
  intro patient brief
  have hpatient : patient = .received text := by
    obtain ⟨q, hquestion⟩ := exists_leads_patientQuestion hline hcode j
    obtain ⟨_, hrun, -⟩ := leads_patient_of_question hquestion htext
    exact congrArg Prod.fst hrun
  have hbrief : brief = .received text := by
    obtain ⟨q, hquestion⟩ := exists_leads_briefQuestion hline hcode j'
    obtain ⟨_, hrun, -⟩ := leads_brief_of_question hkey hquestion htext'
    exact congrArg Prod.fst hrun
  rw [hpatient, hbrief, Advice.searched_eq, Advice.divided_eq]
  refine ⟨rfl, rfl, rfl, ?_, Advice.exists_form, ?_⟩
  . intro advice hform
    exact ⟨hform.received_eq, hform.received_eq⟩
  . intro cs
    unfold Advice.stripped
    rw [String.toList_ofList]
    apply Text.strips_trim

/-- Marks may come back: only the first ones count. -/
theorem reads_repeated_marks :
    let text := "Fix: a Explanation: b Fix:\x0ac Explanation: d Fix: e\u00a0"
    let issue : Table Value := [("line", .int 2)]
    let j : Journal := { replies := [.blocks [.str text]] }
    ((patient true (.dict issue) (.str "x")).run j).1
        = { explanation := "b", fix := some "c Explanation: d Fix: e" } ∧
      ((brief true (some "key") (.dict issue) (.str "x")).run j).1
        = { explanation := "b", fix := some "c Explanation: d Fix: e" } := by
  intro text issue j
  have hbefore : Lacks "Explanation:" "Fix: a " := by decide +kernel
  have hexplanation : Lacks "Fix:" " b " := by decide +kernel
  have htext : text
      = "Fix: a " ++ "Explanation:" ++ " b " ++ "Fix:" ++ "\x0ac Explanation: d Fix: e\u00a0" := by
    decide +kernel
  have hform := Advice.Form.fixed _ _ _ hbefore hexplanation htext
  rw [show Advice.stripped " b ".toList = "b" by decide +kernel] at hform
  rw [show Advice.stripped "\x0ac Explanation: d Fix: e\u00a0".toList = "c Explanation: d Fix: e"
    by decide +kernel] at hform
  have hline : issue.get? "line" = some (.int 2) := by rfl
  have hreply : j.replies.head?.bind Reply.text? = some text := by rfl
  have hkey : (some "key").getD "" ≠ "" := by decide
  obtain ⟨-, -, -, hforms, -⟩ := reads_replies_alike hline (.text "x") hkey hreply hreply
  exact hforms _ hform

end Explain

end HabitLens
