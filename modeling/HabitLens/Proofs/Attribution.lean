import HabitLens.Proofs.Answer
import HabitLens.Proofs.Extraction

/-!
Advice stays with its item. The assistant is asked once about every item on a line of the code, in
the order in which the items were found, and the advice in its first reply goes to the first of
these items, the advice in its second reply to the second one, and so on. Sorting moves items along
with their advice.
-/

namespace HabitLens

open Act
open Source
open Review

namespace Service

namespace Entry

def isAsked (e : Entry) : Bool :=
  !e.isSystem &&
    match e.line with
    | .int _ => true
    | _ => false

def question (d : Deployment) (code : List Value) (e : Entry) : Question :=
  inquiry d e.fields (lineNumber e.line) code

theorem isSystem_of_isAsked {e : Entry} (h : e.isAsked = true) : e.isSystem = false := by
  unfold isAsked at h
  rw [Bool.and_eq_true_iff, Bool.not_eq_true'] at h
  exact h.1

theorem line_of_isAsked {e : Entry} (h : e.isAsked = true) : ∃ n : Int, e.line = .int n := by
  unfold isAsked at h
  rw [Bool.and_eq_true_iff] at h
  cases hline : e.line with
  | int n => exact ⟨n, rfl⟩
  | _ => simp [hline] at h

theorem HasLine.eq_null {e : Entry} (h : e.HasLine) (hasked : e.isAsked = false)
    (hsystem : e.isSystem = false) : e.line = .null := by
  rcases h with hline | ⟨n, hline⟩
  . exact hline
  . simp [isAsked, hsystem, hline] at hasked

end Entry

def ExplainedEntry.isAsked (x : ExplainedEntry) : Bool :=
  x.entry.isAsked

def ExplainedEntry.AdvisedBy (text : String) (x : ExplainedEntry) : Prop :=
  ∃ advice, x.advice = some advice ∧ Advice.Told text advice

/-- Items with the advice of some texts, where each text is for one item. -/
structure Attributed (texts : List String) (xs : List ExplainedEntry) : Prop where
  asked : List.Forall₂ ExplainedEntry.AdvisedBy
    (texts.take (xs.filter ExplainedEntry.isAsked).length) (xs.filter ExplainedEntry.isAsked)
  system : ∀ x ∈ xs, x.entry.isSystem = true → x.advice = none
  lineless : ∀ x ∈ xs, x.entry.isSystem = false → x.isAsked = false →
    x.advice = some Advice.lineless

namespace Attributed

variable {texts : List String} {x : ExplainedEntry} {xs : List ExplainedEntry}

theorem nil (texts : List String) : Attributed texts [] := by
  constructor
  . exact .nil
  . intro x hx
    cases hx
  . intro x hx
    cases hx

theorem cons_asked {text : String} (h : Attributed texts xs) (hasked : x.isAsked = true)
    (hadvice : x.AdvisedBy text) : Attributed (text :: texts) (x :: xs) := by
  constructor
  . rw [List.filter_cons_of_pos hasked]
    exact .cons hadvice h.asked
  . rw [List.forall_mem_cons]
    refine ⟨?_, h.system⟩
    intro hsystem
    rw [Entry.isSystem_of_isAsked hasked] at hsystem
    cases hsystem
  . rw [List.forall_mem_cons]
    refine ⟨?_, h.lineless⟩
    intro _ hfalse
    rw [hasked] at hfalse
    cases hfalse

theorem cons_silent (h : Attributed texts xs) (hasked : x.isAsked = false)
    (hsystem : x.entry.isSystem = true → x.advice = none)
    (hlineless : x.entry.isSystem = false → x.advice = some Advice.lineless) :
    Attributed texts (x :: xs) := by
  constructor
  . rw [List.filter_cons_of_neg (Bool.not_eq_true _ ▸ hasked)]
    exact h.asked
  . rw [List.forall_mem_cons]
    exact ⟨hsystem, h.system⟩
  . rw [List.forall_mem_cons]
    exact ⟨fun hfalse _ => hlineless hfalse, h.lineless⟩

end Attributed

section

variable {d : Deployment} {run : LinterRun} {apiKey : Option String} {code : List Value}
  (hkey : d = .hosted → apiKey.getD "" ≠ "")

include hkey

theorem Parts.leads_explain {e : Entry} {n : Int} {j : Journal} {text : String}
    (hline : e.line = .int n) (htext : j.replies.head?.bind Reply.text? = some text) :
    Leads (attempt ((standard d run true apiKey).explain e.toValue (.list code))) j
      (.ok (Advice.received text)) [e.question d code] := by
  have hget := e.get?_line
  unfold Entry.question
  rw [hline] at hget ⊢
  cases d with
  | development => exact (Explain.leads_patient hget code htext).lift
  | hosted => exact (Explain.leads_brief (hkey rfl) hget code htext).lift

theorem Parts.leads_explain_null {e : Entry} (hcode : code ≠ []) (hline : e.line = .null)
    (j : Journal) :
    Leads (attempt ((standard d run true apiKey).explain e.toValue (.list code))) j
      (.ok Advice.lineless) [] := by
  have hget := e.get?_line
  rw [hline] at hget
  cases d with
  | development => exact (Explain.leads_patient_null hget hcode j).lift
  | hosted => exact (Explain.leads_brief_null (hkey rfl) hget hcode j).lift

/-- About a line of the code the assistant is asked once, and its reply is for that item. -/
theorem Treated.of_isAsked {x : ExplainedEntry} {j j' : Journal} {text : String}
    (h : Treated (.standard d run true apiKey) (.list code) x j j') (hasked : x.isAsked = true)
    (htext : j.replies.head?.bind Reply.text? = some text) :
    j.Follows j' [x.entry.question d code] ∧ x.AdvisedBy text := by
  obtain ⟨n, hline⟩ := Entry.line_of_isAsked hasked
  cases h with
  | skipped hsystem _ =>
    rw [Entry.isSystem_of_isAsked hasked] at hsystem
    cases hsystem
  | @explained _ _ _ j₁ _ _ hsystem hbefore h hafter =>
    have htext : j₁.replies.head?.bind Reply.text? = some text := by
      rw [hbefore.replies]
      exact htext
    obtain ⟨hadvice, hfollows⟩ := (Parts.leads_explain hkey hline htext).unique h
    refine ⟨(hbefore.trans hfollows).trans hafter, _, rfl, ?_⟩
    rw [Except.ok.inj hadvice]
    apply Advice.told_received

theorem Treated.of_not_isAsked {x : ExplainedEntry} {j j' : Journal}
    (h : Treated (.standard d run true apiKey) (.list code) x j j') (hcode : code ≠ [])
    (hasked : x.isAsked = false) (hline : x.entry.HasLine) :
    j.Follows j' [] ∧ (x.entry.isSystem = true → x.advice = none) ∧
      (x.entry.isSystem = false → x.advice = some Advice.lineless) := by
  cases h with
  | skipped hsystem hfollows =>
    refine ⟨hfollows, fun _ => rfl, ?_⟩
    intro hfalse
    rw [hsystem] at hfalse
    cases hfalse
  | explained hsystem hbefore h hafter =>
    have hnull := hline.eq_null hasked hsystem
    obtain ⟨hadvice, hfollows⟩ := (Parts.leads_explain_null hkey hcode hnull _).unique h
    refine ⟨(hbefore.trans hfollows).trans hafter, ?_, ?_⟩
    . intro htrue
      rw [hsystem] at htrue
      cases htrue
    . intro _
      exact congrArg some (Except.ok.inj hadvice)

/-- Over all items, the texts of the replies are used up in the order of the questions. -/
theorem TreatedAll.attributed {xs : List ExplainedEntry} {j j' : Journal} {texts : List String}
    (h : TreatedAll (.standard d run true apiKey) (.list code) xs j j') (hcode : code ≠ [])
    (hlines : ∀ x ∈ xs, x.entry.HasLine) (hreplies : j.replies.map Reply.text? = texts.map some)
    (hcount : (xs.filter ExplainedEntry.isAsked).length ≤ texts.length) :
    j.Follows j' ((xs.filter ExplainedEntry.isAsked).map (·.entry.question d code)) ∧
      Attributed texts xs := by
  induction h generalizing texts with
  | nil j => exact ⟨.refl j, .nil texts⟩
  | @cons x xs j j₁ j' hx hxs ih =>
    rw [List.forall_mem_cons] at hlines
    by_cases hasked : x.isAsked = true
    . rw [List.filter_cons_of_pos hasked] at hcount ⊢
      cases texts with
      | nil => cases hcount
      | cons text texts =>
        obtain ⟨reply, replies, hj, hreply, hrest⟩ := List.map_eq_cons_iff.1 hreplies
        have htext : j.replies.head?.bind Reply.text? = some text := by
          rw [hj]
          exact hreply
        obtain ⟨hfollows, hadvice⟩ := hx.of_isAsked hkey hasked htext
        -- The first reply is used up, and the other ones are left for the other items.
        have hreplies : j₁.replies.map Reply.text? = texts.map some := by
          rw [hfollows.replies, hj]
          exact hrest
        obtain ⟨hrun, hattributed⟩ := ih hlines.2 hreplies (Nat.le_of_succ_le_succ hcount)
        exact ⟨hfollows.trans hrun, hattributed.cons_asked hasked hadvice⟩
    . rw [List.filter_cons_of_neg hasked] at hcount ⊢
      rw [Bool.not_eq_true] at hasked
      obtain ⟨hfollows, hsystem, hlineless⟩ := hx.of_not_isAsked hkey hcode hasked hlines.1
      have hreplies : j₁.replies.map Reply.text? = texts.map some := by
        rw [hfollows.replies]
        exact hreplies
      obtain ⟨hrun, hattributed⟩ := ih hlines.2 hreplies hcount
      exact ⟨hfollows.trans hrun, hattributed.cons_silent hasked hsystem hlineless⟩

end

theorem map_filter_isAsked {β : Type} (f : Entry → β) (xs : List ExplainedEntry) :
    (xs.filter ExplainedEntry.isAsked).map (fun x => f x.entry)
      =
    ((xs.map (·.entry)).filter Entry.isAsked).map f := by
  rw [List.filter_map, List.map_map]
  rfl

/--
With an assistant whose replies are texts, a request to analyze code is answered, and every item on
a line of the code goes with a question and a reply of its own: the questions are asked in the
order of the items, and the advice of each reply stays with its item when the items are sorted. No
question is asked about code that cannot be read.
-/
theorem respond_attributes_advice {d : Deployment} {r : Request} {code : Value} {run : LinterRun}
    {apiKey : Option String} {texts : List String} {j : Journal} (hr : r.Submits code)
    (hrun : run.HasLines) (hkey : d = .hosted → apiKey.getD "" ≠ "")
    (hreplies : j.replies.map Reply.text? = texts.map some) :
    (∀ text, code = .str text → d.Reads text →
      ((found d run text).filter Entry.isAsked).length ≤ texts.length →
      ∃ (explained sorted : List ExplainedEntry) (j' : Journal),
        outcome (respond d (.standard d run true apiKey) r) j
          =
        (.ok { status := 200
               content := .data (.dict [("feedback", .list (sorted.map ExplainedEntry.toValue))]) },
          j') ∧
        explained.map (·.entry) = found d run text ∧
        j.Follows j'
          (((found d run text).filter Entry.isAsked).map
            (Entry.question d ((Text.lines text).map .str))) ∧
        Attributed texts explained ∧
        Feedback.ArrangedBy ExplainedEntry.key explained sorted) ∧
    (∀ f, Unreadable d code f →
      ∃ j', outcome (respond d (.standard d run true apiKey) r) j = (d.failing f, j') ∧
        j.Follows j' []) := by
  refine ⟨?_, fun f hunreadable => respond_unreadable hr hunreadable rfl j⟩
  rintro text rfl hreads hcount
  obtain ⟨j₁, hgather, hbefore⟩ := leads_gather hrun hreads true apiKey j
  have hexplains := Parts.explains_standard d run true apiKey
  obtain ⟨xs, sorted, j₂, j', hentries, hhandled, hafter, harranged, hrespond⟩ :=
    respond_entries hr hexplains hgather (orderly_found hrun d text)
  refine ⟨xs, sorted, j', hrespond, hentries, ?_⟩
  have hlines : ∀ x ∈ xs, x.entry.HasLine := by
    intro x hx
    apply hasLine_of_mem_found hrun
    rw [← hentries]
    exact List.mem_map_of_mem hx
  have hcode : (Text.lines text).map Value.str ≠ [] := by
    rw [ne_eq, List.map_eq_nil_iff]
    apply Text.lines_ne_nil
  rw [← hentries] at hcount ⊢
  rw [List.filter_map, List.length_map] at hcount
  cases hhandled with
  | bare hassistant _ => cases hassistant
  | @treated j₃ _ hstart htreated =>
    have hreplies : j₃.replies.map Reply.text? = texts.map some := by
      rw [(hbefore.trans hstart).replies]
      exact hreplies
    obtain ⟨hfollows, hattributed⟩ := htreated.attributed hkey hcode hlines hreplies hcount
    refine ⟨?_, hattributed, harranged⟩
    have hwhole := ((hbefore.trans hstart).trans hfollows).trans hafter
    rw [map_filter_isAsked, List.append_nil] at hwhole
    exact hwhole

/-- The second item comes first in the answer, and has the advice of the second reply. -/
theorem respond_attributes_two_replies :
    let d := Deployment.development
    let code := "def f(a=[]): pass\nwhile True: pass"
    let texts := ["Explanation: a\nFix: b", "c"]
    let j : Journal := { replies := texts.map fun text => .blocks [.str text] }
    let shared := "Function \"f\" uses mutable default argument ([], \x7b\x7d, or set()). This " ++
      "will be shared across all function calls, causing unexpected behavior when modified."
    let endless := "Infinite loop detected (while True without break). This will cause your " ++
      "program to hang indefinitely."
    ∃ (explained sorted : List ExplainedEntry) (j' : Journal),
      outcome
        (respond d (.standard d (.output "[]") true none)
          (posting "\x7b\"code\": \"def f(a=[]): pass\\nwhile True: pass\"\x7d")) j
        =
      (.ok { status := 200
             content := .data (.dict [("feedback", .list (sorted.map ExplainedEntry.toValue))]) },
        j') ∧
      sorted.map ExplainedEntry.toValue
        =
      [.dict
         [("line", .int 2), ("message", .str endless), ("is_bad_habit", .bool true),
          ("category", .str "fatal_error"), ("source", .str "ast"),
          ("explanation", .str "Claude did not return an explanation in the expected format."),
          ("fix", .null)],
       .dict
         [("line", .int 1), ("message", .str shared), ("is_bad_habit", .bool true),
          ("category", .str "bad_habit"), ("source", .str "ast"), ("explanation", .str "a"),
          ("fix", .str "b")]] ∧
      j'.questions
        =
      [{ prompt := Prompt.detailedText "bad_habit" shared
           ["--> 1: def f(a=[]): pass\n", "    2: while True: pass\n"]
         maxTokens := 1000 },
       { prompt := Prompt.detailedText "fatal_error" endless
           ["    1: def f(a=[]): pass\n", "--> 2: while True: pass\n"]
         maxTokens := 1000 }] ∧
      explained.map (·.entry) = found d (.output "[]") code ∧
      Attributed texts explained ∧
      Feedback.ArrangedBy ExplainedEntry.key explained sorted := by
  intro d code texts j shared endless
  let p := Parts.standard d (.output "[]") true none
  let r := posting "\x7b\"code\": \"def f(a=[]): pass\\nwhile True: pass\"\x7d"
  have hr : r.Submits (.str code) := by
    have hdata : r.data.toOption = some (.dict [("code", .str code)]) := by
      decide +kernel
    exact submits_posting hdata rfl
  have hrun : (LinterRun.output "[]").HasLines := by
    intro i hi
    cases hi
  obtain ⟨body, hparse⟩ : ∃ body, parse code = .ok body := by
    have hsome : (parse code).toOption.isSome = true := by
      decide +kernel
    obtain ⟨body, hbody⟩ := Option.isSome_iff_exists.1 hsome
    exact ⟨body, Outcome.toOption_eq_some.1 hbody⟩
  have hkey : d = .hosted → (none : Option String).getD "" ≠ "" := by
    intro h
    exact Deployment.noConfusion h
  have hcount : ((found d (.output "[]") code).filter Entry.isAsked).length ≤ texts.length := by
    decide +kernel
  obtain ⟨explained, sorted, j', hrespond, hentries, -, hattributed, harranged⟩ :=
    (respond_attributes_advice (j := j) hr hrun hkey rfl).1 code rfl
      (Deployment.reads_of_ok (d := d) hparse) hcount
  refine ⟨explained, sorted, j', hrespond, ?_, ?_, hentries, hattributed, harranged⟩
  . refine feedback_inj ((congrArg Prod.fst hrespond).symm.trans ?_)
    apply Outcome.toOption_eq_some.1
    decide +kernel
  . refine (congrArg (·.2.questions) hrespond).symm.trans ?_
    decide +kernel

end Service

end HabitLens
