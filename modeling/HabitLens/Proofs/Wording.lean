import HabitLens.Advice.Prompt
import HabitLens.Proofs.Arrangement

/-!
The prompts, line by line. The detailed one has a part about code only if there is code to show, and
the short one always has it.
-/

namespace HabitLens

theorem Value.display_int (n : Int) : (Value.int n).display = toString n := by
  cases n with
  | ofNat n => rfl
  | negSucc n =>
    change (if Int.negSucc n < 0 then _ else _) = _
    rw [if_pos (Int.negSucc_lt_zero n)]
    rfl

namespace Window

def markedLine (line : Int) (number : Nat) (text : String) : String :=
  (if number = line then "-->" else "   ") ++ " " ++ toString number ++ ": " ++ text ++ "\n"

def numberedLine (number : Nat) (text : String) : String :=
  toString number ++ " " ++ text ++ "\n"

theorem markedLine_ne_empty (line : Int) (number : Nat) (text : String) :
    markedLine line number text ≠ "" := by
  simp [markedLine]

theorem marked_eq (line : Int) (window : List (Nat × Value)) :
    marked (.int line) window
      =
    String.join (window.map fun (n, text) => markedLine line n text.display) := by
  unfold marked
  congr 2
  funext ⟨n, text⟩
  simp only [markedLine, Review.same_int, decide_eq_true_eq]
  rfl

theorem numbered_eq (window : List (Nat × Value)) :
    numbered window = String.join (window.map fun (n, text) => numberedLine n text.display) :=
  rfl

end Window

namespace Prompt

/-- The detailed prompt, line by line. The part about code is there only if code is shown. -/
def detailedText (category message : String) (shown : List String) : String :=
  String.join <|
    ["You are a Python expert helping a programmer understand and fix an issue in their code.\n",
      "\n",
      "Issue Type: " ++ category ++ "\n",
      "Issue Message: " ++ message ++ "\n",
      "\n"] ++
    (if shown = [] then []
      else
        ["Code Context (the problematic line is marked with '-->'):  \n", "```python\n"] ++ shown ++
          ["\n", "```\n", "\n"]) ++
    ["Please provide:\n",
      "1. A clear explanation of what's causing this issue in plain language that's easy to " ++
        "understand.\n",
      "2. A specific fix for the code.\n",
      "\n",
      "Format your response exactly like this:\n",
      "Explanation: [Your explanation here]\n",
      "\n",
      "Fix: [Your suggested fix here, with code examples if applicable]\n"]

def shortText (category message line : String) (shown : List String) : String :=
  String.join <|
    ["You are a Python expert helping a programmer understand and fix an issue in their code.\n",
      "        \n",
      "        Issue Category: " ++ category ++ "\n",
      "        Issue Message: " ++ message ++ "\n",
      "        Line Number: " ++ line ++ "\n",
      "        \n",
      "        Here is the actual code with the issue:\n",
      "        ```python\n"] ++
    shown ++
    ["\n",
      "        ```\n",
      "        \n",
      "        Please provide:\n",
      "        1. A very brief explanation (1-2 sentences max) of what this issue means in simple " ++
        "terms\n",
      "        2. A direct, specific code fix with EXACT code examples showing:\n",
      "           - The problematic code (labeled 'BEFORE:') with line numbers - USE THE EXACT CODE " ++
        "SHOWN ABOVE\n",
      "           - The fixed code (labeled 'AFTER:') with line numbers - MODIFY ONLY WHAT NEEDS TO " ++
        "BE CHANGED\n",
      "           - Show the EXACT code to replace, not just a description\n",
      "           - Use the same variable names and structure as in the original code\n",
      "        \n",
      "        Format your response exactly like this:\n",
      "        Explanation: [1-2 sentence explanation]\n",
      "        \n",
      "        Fix:\n",
      "        BEFORE:\n",
      "        ```python\n",
      "        # Exact problematic code with line numbers\n",
      "        ```\n",
      "        \n",
      "        AFTER:\n",
      "        ```python\n",
      "        # Exact fixed code with line numbers\n",
      "        ```\n",
      "        "]

theorem joinLines_eq {lines : List String} (h : lines ≠ []) :
    joinLines lines = String.join (lines.dropLast.map (· ++ "\n")) ++ lines.getLast h := by
  unfold joinLines
  induction lines with
  | nil => exact absurd rfl h
  | cons line lines ih =>
    cases lines with
    | nil => simp
    | cons next lines =>
      have hlines : next :: lines ≠ [] := List.cons_ne_nil next lines
      rw [String.intercalate_cons_cons, ih hlines]
      rw [List.dropLast_cons_cons, List.map_cons, String.join_cons, List.getLast_cons hlines]
      simp only [String.append_assoc]

theorem detailed_eq (category message : Value) {shown : List String} (h : ∀ s ∈ shown, s ≠ "") :
    detailed category message (String.join shown)
      =
    detailedText category.display message.display shown := by
  have hempty : (String.join shown).isEmpty = true ↔ shown = [] := by
    cases shown with
    | nil => simp
    | cons s shown => simp [String.join_cons, h s List.mem_cons_self]
  unfold detailed detailedText codeBlock greeting
  -- The texts of the lines agree one by one, so that no text is put together from several lines.
  simp only [hempty, joinLines_eq (List.cons_ne_nil _ _), List.dropLast, List.getLast,
    List.map_cons, List.map_nil, String.reduceAppend]
  by_cases hshown : shown = []
  . simp only [if_pos hshown, String.join_cons, String.join_append, String.join_nil,
      String.append_assoc, String.append_empty, List.append_nil]
  . simp only [if_neg hshown, String.join_cons, String.join_append, String.join_nil,
      String.append_assoc, String.append_empty]

theorem short_eq (category message line : Value) (shown : List String) :
    short category message line (String.join shown)
      =
    shortText category.display message.display line.display shown := by
  unfold short shortText greeting indented
  simp only [List.map_cons, List.map_nil, List.cons_append, List.nil_append,
    joinLines_eq (List.cons_ne_nil _ _), List.dropLast, List.getLast, ← String.append_assoc,
    String.reduceAppend]
  simp only [String.join_cons, String.join_append, String.join_nil, String.append_assoc,
    String.append_empty]

end Prompt

end HabitLens
