import HabitLens.Service.Request

/-!
The page of the service. It refers to files that lie where the service is mounted.
-/

namespace HabitLens.Service

namespace Document

def escaped (c : Char) : List Char :=
  match c with
  | '&' => "&amp;".toList
  | '<' => "&lt;".toList
  | '>' => "&gt;".toList
  | '\'' => "&#39;".toList
  | '"' => "&#34;".toList
  | c => [c]

/-- Splits a header at its commas, except for those in quotes. -/
def headerItems (quoted : Bool) : List Char → List (List Char)
  | [] => [[]]
  | c :: cs =>
    if c = ',' && !quoted then [] :: headerItems false cs
    else
      let quoted := if c = '"' then !quoted else quoted
      match headerItems quoted cs with
      | [] => [[c]]
      | item :: items => (c :: item) :: items

def dropEmptyLast (items : List (List Char)) : List (List Char) :=
  if (items.getLast?.getD []).isEmpty then items.dropLast else items

def unquoted (item : List Char) : List Char :=
  if 2 ≤ item.length && item.head? == some '"' && item.getLast? == some '"' then
    (item.drop 1).dropLast
  else item

/-- Where the service is mounted, as the last proxy in front of it tells. -/
def mount (r : Request) : String :=
  let value := (r.header? "X-Forwarded-Prefix").getD ""
  let items := (dropEmptyLast (headerItems false value.toList)).map (Text.trim Text.isBlank)
  let last := unquoted (items.getLast?.getD [])
  String.ofList (last.reverse.dropWhile (· == '/')).reverse

def fileAddress (mount file : String) : String :=
  String.ofList ((mount ++ "/static/" ++ file).toList.flatMap escaped)

def styles : String := "https://cdnjs.cloudflare.com/ajax/libs/codemirror/5.65.2/"

def highlighting : String := "https://cdnjs.cloudflare.com/ajax/libs/highlight.js/11.7.0/"

def stylesheet (address : String) : String :=
  s!"    <link rel=\"stylesheet\" href=\"{address}\">"

def script (address : String) : String :=
  s!"    <script src=\"{address}\"></script>"

def head (mount : String) : List String :=
  ["<!DOCTYPE html>",
   "<html lang=\"en\">",
   "<head>",
   "    <meta charset=\"UTF-8\">",
   "    <meta name=\"viewport\" content=\"width=device-width, initial-scale=1.0\">",
   "    <title>Python Runtime Analyzer</title>",
   stylesheet (fileAddress mount "css/style.css"),
   "    <!-- CodeMirror CSS -->",
   stylesheet (styles ++ "codemirror.min.css"),
   stylesheet (styles ++ "theme/monokai.min.css"),
   "    <!-- Highlight.js for code examples in feedback -->",
   stylesheet (highlighting ++ "styles/atom-one-dark.min.css"),
   "</head>"]

def body : List String :=
  ["    <div class=\"container\">",
   "        <header>",
   "            <h1>Python code analyzer</h1>",
   "            <p>Paste your Python code below to detect potential issues that could cause " ++
     "your code to fail or behave unexpectedly, (even if there are no syntax errors)</p>",
   "",
   "        </header>",
   "        ",
   "        <main>",
   "            <div class=\"code-input\">",
   "                <div class=\"code-editor-container\">",
   "                    <textarea id=\"code-editor\" placeholder=\"Paste your Python code " ++
     "here...\"></textarea>",
   "                </div>",
   "                <button id=\"analyze-btn\">Analyze code</button>",
   "            </div>",
   "            ",
   "            <div class=\"results-container\">",
   "                <h2>Analysis Results</h2>",
   "                <div id=\"loading\" class=\"hidden\">Analyzing your code for runtime " ++
     "issues...</div>",
   "                <div id=\"results\">",
   "                    <p class=\"initial-message\">Your analysis results will appear here</p>",
   "                </div>",
   "            </div>",
   "        </main>",
   "        ",
   "        <footer>",
   "            <p>Python code analyzer - A tool for detecting potential issues in your Python " ++
     "code. (Made by Bernardoserrano.com)</p>",
   "        </footer>",
   "    </div>",
   "    "]

def scripts (mount : String) : List String :=
  ["    <!-- CodeMirror JS -->",
   script (styles ++ "codemirror.min.js"),
   script (styles ++ "mode/python/python.min.js"),
   script (styles ++ "addon/edit/matchbrackets.min.js"),
   script (styles ++ "addon/edit/closebrackets.min.js"),
   "    <!-- Highlight.js for code examples in feedback -->",
   script (highlighting ++ "highlight.min.js"),
   script (highlighting ++ "languages/python.min.js"),
   script (fileAddress mount "js/script.js")]

def render (mount : String) : String :=
  "\n".intercalate
    (head mount ++ ["<body>"] ++ body ++ scripts mount ++ ["</body>", "</html>"])

end Document

end HabitLens.Service
