import HabitLens.Proofs.Outcome
import HabitLens.Proofs.Wording
import HabitLens.Service.Parts

/-!
What the assistant is asked about an issue, and what becomes of its reply. An issue on a line leads
to one question, which shows the code around the line. An issue without a line leads to none.
-/

namespace HabitLens

open Act

namespace Window

def near (code : List Value) (line : Int) : List (Nat × Value) :=
  if 0 < line then
    ((code.zipIdx 1).filter fun (_, n) => line - 2 ≤ n ∧ n ≤ line + 3).map Prod.swap
  else []

theorem linesFrom_list (code : List Value) (first count : Nat)
    (h : ∀ i < count, first + i < code.length) :
    linesFrom (.list code) first count
      =
    .ok ((((code.drop first).take count).zipIdx (first + 1)).map Prod.swap) := by
  induction count generalizing first with
  | zero => simp [linesFrom]
  | succ count ih =>
    have hfirst : first < code.length := h 0 (by omega)
    have hrest := ih (first + 1) (by
      intro i hi
      have := h (i + 1) (by omega)
      omega)
    unfold linesFrom
    rw [hrest]
    simp only [Value.item, List.getElem?_eq_getElem hfirst]
    rw [List.drop_eq_getElem_cons hfirst]
    rfl

theorem filter_zipIdx {α : Type} (xs : List α) (k lo hi : Nat) :
    (xs.zipIdx k).filter (fun x => lo ≤ x.2 ∧ x.2 < hi)
      =
    ((xs.drop (lo - k)).take (hi - max lo k)).zipIdx (max lo k) := by
  induction xs generalizing k with
  | nil => simp
  | cons x xs ih =>
    rw [List.zipIdx_cons]
    rw [List.filter_cons]
    rw [ih]
    by_cases hlo : lo ≤ k
    . rw [Nat.max_eq_right hlo, Nat.max_eq_right (by omega : lo ≤ k + 1)]
      rw [Nat.sub_eq_zero_of_le hlo, Nat.sub_eq_zero_of_le (by omega : lo ≤ k + 1)]
      by_cases hhi : k < hi
      . obtain ⟨n, hn⟩ : ∃ n, hi - k = n + 1 := ⟨hi - k - 1, by omega⟩
        have hn' : hi - (k + 1) = n := by omega
        simp [hlo, hhi, hn, hn']
      . have hk : hi - k = 0 := by omega
        have hk' : hi - (k + 1) = 0 := by omega
        simp [hhi, hk, hk']
    . obtain ⟨n, hn⟩ : ∃ n, lo - k = n + 1 := ⟨lo - k - 1, by omega⟩
      have hn' : lo - (k + 1) = n := by omega
      rw [Nat.max_eq_left (by omega : k ≤ lo), Nat.max_eq_left (by omega : k + 1 ≤ lo)]
      simp [hlo, hn, hn']

theorem isPositive_int (line : Int) : (Value.int line).isPositive = .ok (decide (0 < line)) := by
  simp only [Value.isPositive, Value.isNumber, Value.compareNumbers?, Value.int?, Option.bind_some,
    Option.map_some]
  by_cases h : 0 < line <;> simp [h, Int.compare_eq_gt]

theorem near_of_pos {code : List Value} {line : Int} (h : 0 < line) :
    near code line
      =
    (((code.drop (line - 3).toNat).take ((line + 3).toNat - (line - 3).toNat)).zipIdx
      ((line - 3).toNat + 1)).map Prod.swap := by
  -- Numbers count from one and positions from zero, and there is no position below zero.
  have hbounds :
      (code.zipIdx 1).filter (fun x => line - 2 ≤ (x.2 : Int) ∧ (x.2 : Int) ≤ line + 3)
        =
      (code.zipIdx 1).filter
        (fun x => (line - 3).toNat + 1 ≤ x.2 ∧ x.2 < (line + 3).toNat + 1) := by
    apply List.filter_congr
    intro x hx
    have := List.le_snd_of_mem_zipIdx hx
    rw [decide_eq_decide]
    omega
  unfold near
  rw [if_pos h, hbounds, filter_zipIdx]
  simp

theorem around_list (code : List Value) (line : Int) :
    around (.list code) (.int line) = .ok (near code line) := by
  unfold around
  rw [isPositive_int]
  by_cases hcode : code = []
  . subst hcode
    simp [Value.truthy, near, pure, Except.pure]
  by_cases hline : 0 < line
  . rw [near_of_pos hline]
    have hlines := linesFrom_list code (line - 3).toNat
      (min code.length (line + 3).toNat - (line - 3).toNat) (by omega)
    have htake :
        (code.drop (line - 3).toNat).take (min code.length (line + 3).toNat - (line - 3).toNat)
          =
        (code.drop (line - 3).toNat).take ((line + 3).toNat - (line - 3).toNat) := by
      rw [List.take_eq_take_iff, List.length_drop]
      omega
    rw [htake] at hlines
    have htruthy : (Value.list code).truthy = true := by simp [Value.truthy, hcode]
    rw [htruthy, decide_eq_true hline]
    exact hlines
  . simp [hline, hcode, Value.truthy, near, pure, Except.pure]

theorem around_null {code : List Value} (h : code ≠ []) :
    around (.list code) .null = .error (.unordered ">" .null .int) := by
  have htruthy : (Value.list code).truthy = true := by simp [Value.truthy, h]
  unfold around
  rw [htruthy]
  rfl

end Window

def Reply.text? : Reply → Option String
  | .blocks (.str text :: _) => some text
  | _ => none

def Reply.firstBlock : Option Reply → Except Failure Value
  | none => .error (.outside "no reply left")
  | some (.refused message) => .error (.outside message)
  | some (.blocks []) => .error (.outOfRange "list")
  | some (.blocks (block :: _)) => .ok block

theorem Reply.firstBlock_of_text {reply : Option Reply} {text : String}
    (h : reply.bind text? = some text) : firstBlock reply = .ok (.str text) := by
  obtain ⟨reply, rfl, htext⟩ := Option.bind_eq_some_iff.1 h
  unfold text? at htext
  split at htext
  . rw [← Option.some.inj htext]
    rfl
  . cases htext

def Advice.unexplained : Advice :=
  { explanation := "Claude did not return an explanation in the expected format." }

def Advice.received (text : String) : Advice :=
  (ofText? text).getD .unexplained

/-- What is told of an issue that has no line to show code around. -/
def Advice.lineless : Advice :=
  { explanation :=
      "Failed to generate explanation: '>' not supported between instances of 'NoneType' and 'int'" }

theorem Advice.lineless_eq :
    lineless
      =
    { explanation :=
        "Failed to generate explanation: " ++ (Failure.unordered ">" .null .int).message } := by
  decide +kernel

namespace Journal

/--
A journal that goes on from another one with some questions, each of which uses up a reply, and
without pauses. What was logged is left open.
-/
structure Follows (j j' : Journal) (asked : List Question) : Prop where
  questions : j'.questions = j.questions ++ asked
  replies : j'.replies = j.replies.drop asked.length
  pauses : j'.pauses = j.pauses

theorem Follows.refl (j : Journal) : j.Follows j [] := by
  constructor <;> simp

theorem Follows.trans {j₁ j₂ j₃ : Journal} {asked asked' : List Question}
    (h : j₁.Follows j₂ asked) (h' : j₂.Follows j₃ asked') : j₁.Follows j₃ (asked ++ asked') := by
  constructor
  . rw [h'.questions, h.questions, List.append_assoc]
  . rw [h'.replies, h.replies, List.drop_drop, List.length_append]
  . rw [h'.pauses, h.pauses]

theorem follows_say (j : Journal) (line : String) : j.Follows ((say line).run j).2 [] := by
  constructor
  . exact (List.append_nil _).symm
  . rfl
  . rfl

end Journal

/-- Something done outside comes to a result, and the journal goes on with some questions. -/
def Leads {α : Type} (x : StateM Journal α) (j : Journal) (result : α) (asked : List Question) :
    Prop :=
  ∃ j', x.run j = (result, j') ∧ j.Follows j' asked

namespace Leads

variable {α β : Type} {j : Journal} {asked asked' : List Question}

theorem pure (a : α) (j : Journal) : Leads (Pure.pure a) j a [] :=
  ⟨j, rfl, .refl j⟩

theorem say (line : String) (j : Journal) : Leads (say line) j () [] :=
  ⟨_, rfl, j.follows_say line⟩

theorem sayAll (lines : List String) (j : Journal) : Leads (sayAll lines) j () [] := by
  refine ⟨_, rfl, ?_⟩
  constructor
  . exact (List.append_nil _).symm
  . rfl
  . rfl

theorem bind {x : StateM Journal α} {f : α → StateM Journal β} {a : α} {b : β}
    (hx : Leads x j a asked) (hf : ∀ j', j.Follows j' asked → Leads (f a) j' b asked') :
    Leads (x >>= f) j b (asked ++ asked') := by
  obtain ⟨j₁, hrun, hfollows⟩ := hx
  obtain ⟨j₂, hrun', hfollows'⟩ := hf j₁ hfollows
  exact ⟨j₂, (run_bind hrun).trans hrun', hfollows.trans hfollows'⟩

theorem exists_bind {x : StateM Journal α} {f : α → StateM Journal β} {a : α}
    (hx : Leads x j a asked) (hf : ∀ j', ∃ b, Leads (f a) j' b asked') :
    ∃ b, Leads (x >>= f) j b (asked ++ asked') := by
  obtain ⟨j₁, hrun, hfollows⟩ := hx
  obtain ⟨b, j₂, hrun', hfollows'⟩ := hf j₁
  exact ⟨b, j₂, (run_bind hrun).trans hrun', hfollows.trans hfollows'⟩

theorem bind_ok {act : Act α} {f : α → Act β} {a : α} {result : Except Failure β}
    (hact : Leads (attempt act) j (.ok a) asked)
    (hf : ∀ j', j.Follows j' asked → Leads (attempt (f a)) j' result asked') :
    Leads (attempt (act >>= f)) j result (asked ++ asked') := by
  obtain ⟨j₁, hrun, hfollows⟩ := hact
  obtain ⟨j₂, hrun', hfollows'⟩ := hf j₁ hfollows
  exact ⟨j₂, (outcome_bind_ok hrun).trans hrun', hfollows.trans hfollows'⟩

theorem bind_error {act : Act α} {f : α → Act β} {e : Failure}
    (hact : Leads (attempt act) j (.error e) asked) :
    Leads (attempt (act >>= f)) j (.error e) asked := by
  obtain ⟨j', hrun, hfollows⟩ := hact
  exact ⟨j', outcome_bind_error hrun, hfollows⟩

theorem ofExcept {x result : Except Failure α} (h : x = result) (j : Journal) :
    Leads (attempt (MonadExcept.ofExcept x)) j result [] := by
  subst h
  exact ⟨j, outcome_ofExcept x j, .refl j⟩

theorem lift {x : StateM Journal α} {a : α} (h : Leads x j a asked) :
    Leads (attempt (liftM x)) j (.ok a) asked := by
  obtain ⟨j', hrun, hfollows⟩ := h
  refine ⟨j', ?_, hfollows⟩
  exact (outcome_liftM x j).trans (by rw [hrun])

theorem unique {act : Act α} {result result' : Except Failure α} {j' : Journal}
    (h : Leads (attempt act) j result asked) (hact : outcome act j = (result', j')) :
    result' = result ∧ j.Follows j' asked := by
  obtain ⟨j'', hrun, hfollows⟩ := h
  obtain ⟨rfl, rfl⟩ := Prod.mk.inj (hact.symm.trans hrun)
  exact ⟨rfl, hfollows⟩

theorem ask (q : Question) (j : Journal) :
    Leads (attempt (ask q)) j (Reply.firstBlock j.replies.head?) [q] := by
  obtain ⟨log, questions, pauses, replies⟩ := j
  cases replies with
  | nil => exact ⟨_, rfl, by constructor <;> rfl⟩
  | cons reply rest =>
    cases reply with
    | refused message => exact ⟨_, rfl, by constructor <;> rfl⟩
    | blocks texts => cases texts <;> exact ⟨_, rfl, by constructor <;> rfl⟩

theorem ask_of_text (q : Question) {text : String}
    (h : j.replies.head?.bind Reply.text? = some text) :
    Leads (attempt (Act.ask q)) j (.ok (.str text)) [q] := by
  rw [← Reply.firstBlock_of_text h]
  apply ask

end Leads

open Service

def inquiry (d : Deployment) (issue : Table Value) (line : Int) (code : List Value) : Question :=
  let part (name : String) (default : String) := ((issue.get? name).getD (.str default)).display
  match d with
  | .development =>
    { prompt := Prompt.detailedText (part "category" "error") (part "message" "Unknown error")
        ((Window.near code line).map fun (n, text) => Window.markedLine line n text.display)
      maxTokens := 1000 }
  | .hosted =>
    { prompt := Prompt.shortText (part "category" "unknown") (part "message" "") (toString line)
        ((Window.near code line).map fun (n, text) => Window.numberedLine n text.display)
      maxTokens := 300
      role := some
        ("You are a helpful Python expert. Provide clear, concise explanations and fixes for " ++
          "Python code issues.") }

theorem inquiry_development (issue : Table Value) (line : Int) (code : List Value) :
    inquiry .development issue line code
      =
    { prompt := Prompt.detailed ((issue.get? "category").getD (.str "error"))
        ((issue.get? "message").getD (.str "Unknown error"))
        (Window.marked (.int line) (Window.near code line))
      maxTokens := 1000 } := by
  have hshown : ∀ s ∈ (Window.near code line).map
      (fun (n, text) => Window.markedLine line n text.display), s ≠ "" := by
    intro s hs
    obtain ⟨⟨n, text⟩, -, rfl⟩ := List.mem_map.1 hs
    apply Window.markedLine_ne_empty
  rw [Window.marked_eq, Prompt.detailed_eq _ _ hshown]
  rfl

theorem inquiry_hosted (issue : Table Value) (line : Int) (code : List Value) :
    inquiry .hosted issue line code
      =
    { prompt := Prompt.short ((issue.get? "category").getD (.str "unknown"))
        ((issue.get? "message").getD (.str "")) (.int line)
        (Window.numbered (Window.near code line))
      maxTokens := 300
      role := some Explain.role } := by
  have hrole : Explain.role
      = "You are a helpful Python expert. Provide clear, concise explanations and fixes for " ++
        "Python code issues." := by
    decide +kernel
  rw [Window.numbered_eq, Prompt.short_eq, Value.display_int, hrole]
  rfl

namespace Explain

theorem leads_announce (issue : Table Value) (j : Journal) :
    Leads (attempt (announce (.dict issue))) j (.ok ()) [] := by
  unfold announce
  refine (Leads.ofExcept rfl j).bind_ok fun j _ => ?_
  refine (Leads.ofExcept rfl j).bind_ok fun j _ => ?_
  refine (Leads.ofExcept rfl j).bind_ok fun j _ => ?_
  exact (Leads.say _ j).lift

theorem fieldOr_line {issue : Table Value} {line : Value} (h : issue.get? "line" = some line)
    (default : Value) : (Value.dict issue).fieldOr "line" default = .ok line := by
  dsimp only [Value.fieldOr]
  rw [h]
  rfl

theorem leads_patientQuestion {issue : Table Value} {line : Int}
    (hline : issue.get? "line" = some (.int line)) (code : List Value) (j : Journal) :
    Leads (attempt (patientQuestion (.dict issue) (.list code))) j
      (.ok (inquiry .development issue line code)) [] := by
  rw [inquiry_development]
  unfold patientQuestion
  refine (leads_announce issue j).bind_ok fun j _ => ?_
  refine (Leads.ofExcept (fieldOr_line hline _) j).bind_ok fun j _ => ?_
  refine (Leads.ofExcept (Window.around_list code line) j).bind_ok fun j _ => ?_
  refine (Leads.ofExcept rfl j).bind_ok fun j _ => ?_
  refine (Leads.ofExcept rfl j).bind_ok fun j _ => ?_
  exact Leads.pure _ j

theorem leads_briefQuestion {issue : Table Value} {line : Int}
    (hline : issue.get? "line" = some (.int line)) (code : List Value) (j : Journal) :
    Leads (attempt (briefQuestion (.dict issue) (.list code))) j
      (.ok (inquiry .hosted issue line code)) [] := by
  rw [inquiry_hosted]
  unfold briefQuestion
  refine (leads_announce issue j).bind_ok fun j _ => ?_
  refine (Leads.ofExcept rfl j).bind_ok fun j _ => ?_
  refine (Leads.ofExcept rfl j).bind_ok fun j _ => ?_
  refine (Leads.ofExcept (fieldOr_line hline _) j).bind_ok fun j _ => ?_
  refine (Leads.ofExcept (Window.around_list code line) j).bind_ok fun j _ => ?_
  exact Leads.pure _ j

theorem leads_patientQuestion_null {issue : Table Value} (hline : issue.get? "line" = some .null)
    {code : List Value} (hcode : code ≠ []) (j : Journal) :
    Leads (attempt (patientQuestion (.dict issue) (.list code))) j
      (.error (.unordered ">" .null .int)) [] := by
  unfold patientQuestion
  refine (leads_announce issue j).bind_ok fun j _ => ?_
  refine (Leads.ofExcept (fieldOr_line hline _) j).bind_ok fun j _ => ?_
  exact (Leads.ofExcept (Window.around_null hcode) j).bind_error

theorem leads_briefQuestion_null {issue : Table Value} (hline : issue.get? "line" = some .null)
    {code : List Value} (hcode : code ≠ []) (j : Journal) :
    Leads (attempt (briefQuestion (.dict issue) (.list code))) j
      (.error (.unordered ">" .null .int)) [] := by
  unfold briefQuestion
  refine (leads_announce issue j).bind_ok fun j _ => ?_
  refine (Leads.ofExcept rfl j).bind_ok fun j _ => ?_
  refine (Leads.ofExcept rfl j).bind_ok fun j _ => ?_
  refine (Leads.ofExcept (fieldOr_line hline _) j).bind_ok fun j _ => ?_
  exact (Leads.ofExcept (Window.around_null hcode) j).bind_error

theorem leads_unexplained (text : String) (j : Journal) :
    Leads (unexplained text) j .unexplained [] := by
  refine (Leads.say _ j).bind fun j _ => ?_
  exact Leads.pure _ j

theorem leads_interpret (text : String) (j : Journal) :
    Leads (interpret text) j (Advice.received text) [] := by
  unfold interpret Advice.received
  cases Advice.ofText? text with
  | none => apply leads_unexplained
  | some advice =>
    dsimp only
    split
    . refine (Leads.say _ j).bind fun j _ => ?_
      exact Leads.pure _ j
    . exact Leads.pure _ j

/--
What the patient way makes of the first block of a reply. A list or a table is not refused unless
the mark of explanations is found in it.
-/
def understood : Value → Except Failure Advice
  | .str text => .ok (.received text)
  | .unpaired codes => .ok (.received (Text.ofCodes codes))
  | .list items =>
    if items.any (Value.same (.str Advice.explanationMark)) then
      .error (.noOperation .list "split")
    else .ok .unexplained
  | .dict fields =>
    if Table.contains fields Advice.explanationMark then .error (.noOperation .dict "split")
    else .ok .unexplained
  | v => .error (.noLength v.kind)

/-- How an attempt of the patient way ends, by the reply that it gets. -/
def verdict (reply : Option Reply) : Except Failure Advice := do
  understood (← Reply.firstBlock reply)

theorem leads_verdict (q : Question) (j : Journal) :
    Leads (attempt (patientAttempt q)) j (verdict j.replies.head?) [q] := by
  have hask := Leads.ask q j
  unfold patientAttempt verdict
  cases hblock : Reply.firstBlock j.replies.head? with
  | error f =>
    rw [hblock] at hask
    exact hask.bind_error
  | ok block =>
    rw [hblock] at hask
    refine hask.bind_ok fun j _ => ?_
    cases block with
    | str text =>
      refine (Leads.say _ j).lift.bind_ok fun j _ => ?_
      exact (leads_interpret text j).lift
    | unpaired codes =>
      refine (Leads.say _ j).lift.bind_ok fun j _ => ?_
      exact (leads_interpret (Text.ofCodes codes) j).lift
    | list items =>
      refine (Leads.say _ j).lift.bind_ok fun j _ => ?_
      refine (Leads.ofExcept rfl j).bind_ok fun j _ => ?_
      dsimp only [Bind.bind, Except.bind, understood]
      split
      . exact Leads.pure _ j
      . exact (leads_unexplained _ j).lift
    | dict fields =>
      refine (Leads.say _ j).lift.bind_ok fun j _ => ?_
      refine (Leads.ofExcept rfl j).bind_ok fun j _ => ?_
      dsimp only [Bind.bind, Except.bind, understood]
      split
      . exact Leads.pure _ j
      . exact (leads_unexplained _ j).lift
    -- Other values have no length to tell.
    | null => exact Leads.pure _ j
    | bool b => exact Leads.pure _ j
    | int n => exact Leads.pure _ j
    | float x => exact Leads.pure _ j

theorem leads_patientAttempt (q : Question) {j : Journal} {text : String}
    (htext : j.replies.head?.bind Reply.text? = some text) :
    Leads (attempt (patientAttempt q)) j (.ok (Advice.received text)) [q] := by
  have hverdict : verdict j.replies.head? = .ok (Advice.received text) := by
    unfold verdict
    rw [Reply.firstBlock_of_text htext]
    rfl
  rw [← hverdict]
  apply leads_verdict

theorem leads_briefAttempt (q : Question) {j : Journal} {text : String}
    (htext : j.replies.head?.bind Reply.text? = some text) :
    Leads (attempt (briefAttempt q)) j (.ok (Advice.received text)) [q] := by
  unfold briefAttempt
  refine (Leads.ask_of_text q htext).bind_ok fun j _ => ?_
  refine (Leads.say _ j).lift.bind_ok fun j _ => ?_
  exact (leads_interpret text j).lift

theorem exists_leads_briefAttempt (q : Question) (j : Journal) :
    ∃ result, Leads (attempt (briefAttempt q)) j result [q] := by
  have hask := Leads.ask q j
  unfold briefAttempt
  cases hblock : Reply.firstBlock j.replies.head? with
  | error f =>
    rw [hblock] at hask
    exact ⟨.error f, hask.bind_error⟩
  | ok text =>
    rw [hblock] at hask
    cases text with
    | str s =>
      refine ⟨.ok (Advice.received s), hask.bind_ok fun j _ => ?_⟩
      refine (Leads.say _ j).lift.bind_ok fun j _ => ?_
      exact (leads_interpret s j).lift
    | unpaired codes =>
      refine ⟨.ok (Advice.received (Text.ofCodes codes)), hask.bind_ok fun j _ => ?_⟩
      refine (Leads.say _ j).lift.bind_ok fun j _ => ?_
      exact (leads_interpret _ j).lift
    | list items =>
      refine ⟨.error (.noOperation .list "split"), hask.bind_ok fun j _ => ?_⟩
      refine (Leads.say _ j).lift.bind_ok fun j _ => ?_
      exact Leads.pure _ j
    | dict fields => exact ⟨.error .noRange, hask.bind_ok fun j _ => Leads.pure _ j⟩
    | null => exact ⟨.error (.noItems .null), hask.bind_ok fun j _ => Leads.pure _ j⟩
    | bool b => exact ⟨.error (.noItems .bool), hask.bind_ok fun j _ => Leads.pure _ j⟩
    | int n => exact ⟨.error (.noItems .int), hask.bind_ok fun j _ => Leads.pure _ j⟩
    | float x => exact ⟨.error (.noItems .float), hask.bind_ok fun j _ => Leads.pure _ j⟩

theorem leads_patient_of_question {issue code : Value} {j : Journal} {q : Question} {text : String}
    (h : Leads (attempt (patientQuestion issue code)) j (.ok q) [])
    (htext : j.replies.head?.bind Reply.text? = some text) :
    Leads (patient true issue code) j (Advice.received text) [q] := by
  unfold patient
  refine h.bind fun j' hj' => ?_
  have htext' : j'.replies.head?.bind Reply.text? = some text := by
    rw [hj'.replies]
    exact htext
  refine (leads_patientAttempt q htext').bind fun j _ => ?_
  exact Leads.pure _ j

theorem leads_patient {issue : Table Value} {line : Int}
    (hline : issue.get? "line" = some (.int line)) (code : List Value) {j : Journal} {text : String}
    (htext : j.replies.head?.bind Reply.text? = some text) :
    Leads (patient true (.dict issue) (.list code)) j (Advice.received text)
      [inquiry .development issue line code] :=
  leads_patient_of_question (leads_patientQuestion hline code j) htext

theorem leads_unprepared (f : Failure) (j : Journal) :
    Leads (unprepared f) j
      { explanation := s!"Failed to generate explanation: {f.message}" } [] := by
  refine (Leads.say _ j).bind fun j _ => ?_
  exact Leads.pure _ j

theorem leads_patient_of_error {issue code : Value} {j : Journal} {f : Failure}
    (h : Leads (attempt (patientQuestion issue code)) j (.error f) []) :
    Leads (patient true issue code) j
      { explanation := s!"Failed to generate explanation: {f.message}" } [] := by
  unfold patient
  refine h.bind fun j _ => ?_
  exact leads_unprepared f j

theorem leads_patient_null {issue : Table Value} (hline : issue.get? "line" = some .null)
    {code : List Value} (hcode : code ≠ []) (j : Journal) :
    Leads (patient true (.dict issue) (.list code)) j Advice.lineless [] := by
  rw [Advice.lineless_eq]
  exact leads_patient_of_error (leads_patientQuestion_null hline hcode j)

theorem run_brief_of_no_key {apiKey : Option String} (hkey : apiKey.getD "" = "")
    (issue code : Value) (j : Journal) :
    (brief true apiKey issue code).run j
      =
    ({ explanation :=
        "API key is missing. Please set the ANTHROPIC_API_KEY environment variable in Vercel." },
      { j with log := j.log ++ ["API key missing when generating explanation"] }) := by
  unfold brief
  rw [hkey]
  rfl

section

variable {apiKey : Option String} (hkey : apiKey.getD "" ≠ "")

include hkey

theorem leads_brief_of_question {issue code : Value} {j : Journal} {q : Question} {text : String}
    (h : Leads (attempt (briefQuestion issue code)) j (.ok q) [])
    (htext : j.replies.head?.bind Reply.text? = some text) :
    Leads (brief true apiKey issue code) j (Advice.received text) [q] := by
  have hempty : (apiKey.getD "").isEmpty = false := by simpa using hkey
  unfold brief
  rw [hempty]
  refine h.bind fun j' hj' => ?_
  have htext' : j'.replies.head?.bind Reply.text? = some text := by
    rw [hj'.replies]
    exact htext
  refine (leads_briefAttempt q htext').bind fun j _ => ?_
  exact Leads.pure _ j

theorem leads_brief {issue : Table Value} {line : Int}
    (hline : issue.get? "line" = some (.int line)) (code : List Value) {j : Journal} {text : String}
    (htext : j.replies.head?.bind Reply.text? = some text) :
    Leads (brief true apiKey (.dict issue) (.list code)) j (Advice.received text)
      [inquiry .hosted issue line code] :=
  leads_brief_of_question hkey (leads_briefQuestion hline code j) htext

theorem exists_leads_brief_of_question {issue code : Value} {j : Journal} {q : Question}
    (h : Leads (attempt (briefQuestion issue code)) j (.ok q) []) :
    ∃ advice, Leads (brief true apiKey issue code) j advice [q] := by
  have hempty : (apiKey.getD "").isEmpty = false := by simpa using hkey
  unfold brief
  rw [hempty]
  refine h.exists_bind fun j => ?_
  obtain ⟨result, hattempt⟩ := exists_leads_briefAttempt q j
  refine hattempt.exists_bind fun j => ?_
  cases result with
  | ok advice => exact ⟨advice, Leads.pure _ j⟩
  | error f => exact ⟨_, (Leads.say _ j).bind fun j _ => Leads.pure _ j⟩

theorem exists_leads_brief {issue : Table Value} {line : Int}
    (hline : issue.get? "line" = some (.int line)) (code : List Value) (j : Journal) :
    ∃ advice, Leads (brief true apiKey (.dict issue) (.list code)) j advice
      [inquiry .hosted issue line code] :=
  exists_leads_brief_of_question hkey (leads_briefQuestion hline code j)

theorem leads_brief_of_error {issue code : Value} {j : Journal} {f : Failure}
    (h : Leads (attempt (briefQuestion issue code)) j (.error f) []) :
    Leads (brief true apiKey issue code) j
      { explanation := s!"Failed to generate explanation: {f.message}" } [] := by
  have hempty : (apiKey.getD "").isEmpty = false := by simpa using hkey
  unfold brief
  rw [hempty]
  refine h.bind fun j _ => ?_
  exact leads_unprepared f j

theorem leads_brief_null {issue : Table Value} (hline : issue.get? "line" = some .null)
    {code : List Value} (hcode : code ≠ []) (j : Journal) :
    Leads (brief true apiKey (.dict issue) (.list code)) j Advice.lineless [] := by
  rw [Advice.lineless_eq]
  exact leads_brief_of_error hkey (leads_briefQuestion_null hline hcode j)

end

end Explain

end HabitLens
