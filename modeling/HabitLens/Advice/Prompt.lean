import HabitLens.Advice.Window

/-!
What the assistant is asked about an issue.
-/

namespace HabitLens.Prompt

def joinLines (lines : List String) : String :=
  "\n".intercalate lines

def greeting : String :=
  "You are a Python expert helping a programmer understand and fix an issue in their code."

def codeBlock (window : String) : String :=
  joinLines
    ["Code Context (the problematic line is marked with '-->'):  ", "```python", window, "```", "",
      ""]

/-- The detailed prompt. It shows code only if there is any to show. -/
def detailed (category message : Value) (window : String) : String :=
  joinLines
    [greeting, "", "Issue Type: " ++ category.display, "Issue Message: " ++ message.display, "", ""]
  ++ (if window.isEmpty then "" else codeBlock window)
  ++ joinLines
    ["Please provide:",
      "1. A clear explanation of what's causing this issue in plain language that's easy to " ++
        "understand.",
      "2. A specific fix for the code.",
      "",
      "Format your response exactly like this:",
      "Explanation: [Your explanation here]",
      "",
      "Fix: [Your suggested fix here, with code examples if applicable]",
      ""]

def indented (line : String) : String :=
  "        " ++ line

def short (category message line : Value) (window : String) : String :=
  joinLines <|
    [greeting] ++
    (["",
      "Issue Category: " ++ category.display,
      "Issue Message: " ++ message.display,
      "Line Number: " ++ line.display,
      "",
      "Here is the actual code with the issue:",
      "```python"].map indented) ++
    [window] ++
    (["```",
      "",
      "Please provide:",
      "1. A very brief explanation (1-2 sentences max) of what this issue means in simple terms",
      "2. A direct, specific code fix with EXACT code examples showing:",
      "   - The problematic code (labeled 'BEFORE:') with line numbers - USE THE EXACT CODE " ++
        "SHOWN ABOVE",
      "   - The fixed code (labeled 'AFTER:') with line numbers - MODIFY ONLY WHAT NEEDS TO BE " ++
        "CHANGED",
      "   - Show the EXACT code to replace, not just a description",
      "   - Use the same variable names and structure as in the original code",
      "",
      "Format your response exactly like this:",
      "Explanation: [1-2 sentence explanation]",
      "",
      "Fix:",
      "BEFORE:",
      "```python",
      "# Exact problematic code with line numbers",
      "```",
      "",
      "AFTER:",
      "```python",
      "# Exact fixed code with line numbers",
      "```",
      ""].map indented)

end HabitLens.Prompt
