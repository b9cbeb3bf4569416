import HabitLens.Source.Escape
import HabitLens.Source.Token
import HabitLens.Source.Tree

/-!
The value of quoted literals. Neighbouring literals are joined into one, and the replacement fields
of formatted ones are parsed as expressions, by a parser that is given from outside.
-/

namespace HabitLens.Source.Literal

open Text

inductive Problem where
  /-- Reported where the reader of the program has got to. -/
  | message (text : String)
  | onLine (line : Nat) (text : String)
  | fault (f : Fault)

structure Quoted where
  isBytes : Bool
  isRaw : Bool
  isFormatted : Bool
  isMarked : Bool
  /-- The number of letters and quotes in front of the body. -/
  lead : Nat
  body : List Char
  line : Nat
  column : Nat

def Quoted.ofToken (text : String) (line column : Nat) : Quoted :=
  let cs := text.toList
  let letters := cs.takeWhile (fun c => c != '\'' && c != '"')
  let rest := cs.drop letters.length
  let has (c : Char) := letters.any (fun d => d.toLower == c)
  let (quotes, body) := match rest with
    | a :: b :: c :: more =>
      if a == b && b == c then (3, more.take (more.length - 3)) else (1, (b :: c :: more).dropLast)
    | _ => (1, [])
  { isBytes := has 'b', isRaw := has 'r', isFormatted := has 'f',
    isMarked := letters.head? == some 'u',
    lead := letters.length + quotes,
    body, line, column }

inductive Stretch where
  /-- A doubled brace: the text includes one of the two, and more text follows. -/
  | doubled (text rest : List Char)
  /-- A brace that is not part of the text, or the end. -/
  | ended (text rest : List Char)
  | loneBrace

/--
Takes plain text up to a brace that counts. `inName` says that the text is inside a character name,
whose braces do not count. In a nested format a brace is never doubled.
-/
def stretch (raw nested inName : Bool) (taken : List Char) : List Char → Stretch
  | [] => .ended taken.reverse []
  | c :: cs =>
    if inName then stretch raw nested (c != '}') (c :: taken) cs
    else if !raw && c == '\\' then
      match cs with
      | 'N' :: d :: ds => stretch raw nested (d == '{') (d :: 'N' :: c :: taken) ds
      | ['N'] => .ended ('N' :: c :: taken).reverse []
      | '{' :: ds => brace (c :: taken) '{' ds
      | '}' :: ds => brace (c :: taken) '}' ds
      | d :: ds => stretch raw nested false (d :: c :: taken) ds
      | [] => .ended (c :: taken).reverse []
    else if c == '{' || c == '}' then brace taken c cs
    else stretch raw nested false (c :: taken) cs
where
  brace (taken : List Char) (c : Char) (cs : List Char) : Stretch :=
    if nested then .ended taken.reverse (c :: cs)
    else
      match cs with
      | d :: ds =>
        if d == c then .doubled (c :: taken).reverse ds
        else if c == '}' then .loneBrace
        else .ended taken.reverse (c :: cs)
      | [] => if c == '}' then .loneBrace else .ended taken.reverse (c :: cs)

/-- The quotes that the text of a field is inside of. -/
structure Inside where
  quote : Char
  triple : Bool

/-- Where a field's expression ends: its text, latest character first, and what follows. -/
structure FieldEnd where
  taken : List Char
  rest : List Char
  inside : Option Inside
  open? : Option Char

def closes (opening c : Char) : Bool :=
  (opening == '(' && c == ')') || (opening == '[' && c == ']') || (opening == '{' && c == '}')

def isOneOf (cs : List Char) (c : Char) : Bool :=
  cs.contains c

def twoMore (c : Char) : List Char → Bool
  | d :: e :: _ => d == c && e == c
  | _ => false

/--
Takes the expression of a field up to the mark that ends it; `skip` characters are taken without
being looked at.
-/
def fieldText (skip : Nat) (inside : Option Inside) (stack : List Char) (taken : List Char) :
    List Char → Except String FieldEnd
  | [] => .ok ⟨taken, [], inside, stack.head?⟩
  | c :: cs =>
    if skip ≠ 0 then fieldText (skip - 1) inside stack (c :: taken) cs
    else if c == '\\' then .error "f-string expression part cannot include a backslash"
    else
      match inside with
      | some q =>
        if c != q.quote then fieldText 0 inside stack (c :: taken) cs
        else if !q.triple then fieldText 0 none stack (c :: taken) cs
        else if twoMore c cs then fieldText 2 none stack (c :: taken) cs
        else fieldText 0 inside stack (c :: taken) cs
      | none =>
        if c == '\'' || c == '"' then
          if twoMore c cs then fieldText 2 (some ⟨c, true⟩) stack (c :: taken) cs
          else fieldText 0 (some ⟨c, false⟩) stack (c :: taken) cs
        else if isOneOf ['[', '{', '('] c then
          if 200 ≤ stack.length then .error "f-string: too many nested parenthesis"
          else fieldText 0 none (c :: stack) (c :: taken) cs
        else if c == '#' then .error "f-string expression part cannot include '#'"
        else if stack.isEmpty && isOneOf ['!', ':', '}', '=', '>', '<'] c then
          if cs.head? == some '=' && isOneOf ['!', '=', '<', '>'] c then
            fieldText 1 none stack (c :: taken) cs
          else if c == '>' || c == '<' then fieldText 0 none stack (c :: taken) cs
          else .ok ⟨taken, c :: cs, none, none⟩
        else if isOneOf [']', '}', ')'] c then
          match stack with
          | [] => .error s!"f-string: unmatched '{c}'"
          | o :: outer =>
            if closes o c then fieldText 0 none outer (c :: taken) cs
            else
              .error <| s!"f-string: closing parenthesis '{c}' does not match opening " ++
                s!"parenthesis '{o}'"
        else fieldText 0 none stack (c :: taken) cs

def isFieldBlank (c : Char) : Bool :=
  isOneOf [' ', '\t', '\n', '\x0c'] c

def isSpace (c : Char) : Bool :=
  isOneOf [' ', '\t', '\n', '\x0b', '\x0c', '\r'] c

/--
The place of a field's expression, given all that stands behind its opening brace. A field that goes
on with the next line begins where the literal does.
-/
def Quoted.fieldText (q : Quoted) (text behind : List Char) : FieldText :=
  let before := q.body.take (q.body.length - behind.length - 1)
  let lines := before.count '\n'
  let next := (behind.dropWhile (isOneOf [' ', '\t', '\x0c'])).head?
  let column := if next == some '\n' then 0 else columnBehind q.lead before
  { text, line := q.line + lines, column := (if lines = 0 then q.column else 0) + column }

/-- What has been joined so far: the parts, latest first, and plain text that ends them. -/
structure Assembly where
  parts : List Expr := []
  text : List Nat := []

def Assembly.addText (a : Assembly) (codes : List Nat) : Assembly :=
  { a with text := a.text ++ codes }

section

-- `parse` is given the expression of a field and all that stands behind the opening brace.
variable (parse : List Char → List Char → Except Fault Expr) (line : Nat) (marked : Bool)

def Assembly.flush (a : Assembly) : List Expr :=
  if a.text.isEmpty then a.parts
  else .constant line (.text a.text marked) :: a.parts

def Assembly.addPart (a : Assembly) (e : Expr) : Assembly :=
  { parts := e :: a.flush line marked, text := [] }

def decode (raw : Bool) (cs : List Char) : Except Problem (List Nat) :=
  if raw then .ok (cs.map Char.toNat)
  else
    match Escape.decodeText cs with
    | .ok out => .ok out
    | .error e => .error (.message e)

def expecting : Problem :=
  .message "f-string: expecting '\x7d'"

def compileField (found : FieldEnd) (behind : List Char) : Except Problem Expr := do
  if found.inside.isSome then throw (.message "f-string: unterminated string")
  if let some o := found.open? then throw (.message s!"f-string: unmatched '{o}'")
  match found.rest with
  | [] => throw expecting
  | mark :: _ =>
    if found.taken.all isFieldBlank then
      if isOneOf ['!', ':', '='] mark then
        throw (.message s!"f-string: expression required before '{mark}'")
      throw (.message "f-string: empty expression not allowed")
    match parse found.taken.reverse behind with
    | .ok e => return e
    | .error f => throw (.fault f)

def conversion (cs : List Char) : Except Problem (Option Char × List Char) :=
  match cs with
  | '!' :: c :: rest =>
    if isOneOf ['s', 'r', 'a'] c then .ok (some c, rest)
    else
      .error (.message "f-string: invalid conversion character: expected 's', 'r', or 'a'")
  | ['!'] => .error expecting
  | _ => .ok (none, cs)

mutual

/--
Text and fields up to the end, or in a nested format up to the closing brace. Every round takes a
character, so the length of the text is fuel enough.
-/
def pieces (raw : Bool) (level : Nat) (a : Assembly) (cs : List Char) :
    Nat → Except Problem (Assembly × List Char)
  | 0 => .error expecting
  | fuel + 1 => do
    match stretch raw (level != 0) false [] cs with
    | .loneBrace => throw (.message "f-string: single '\x7d' is not allowed")
    | .doubled text rest =>
      let a := a.addText (← decode raw text)
      pieces raw level a rest fuel
    | .ended text rest =>
      let a := a.addText (← decode raw text)
      match rest with
      | '{' :: more =>
        let (a, rest) ← field raw level a more fuel
        pieces raw level a rest fuel
      | '}' :: _ => return (a, rest)
      | _ => if level = 0 then return (a, rest) else throw expecting

/-- One replacement field, whose opening brace has been taken. -/
def field (raw : Bool) (level : Nat) (a : Assembly) (cs : List Char) :
    Nat → Except Problem (Assembly × List Char)
  | 0 => .error expecting
  | fuel + 1 => do
    if 2 ≤ level then throw (.message "f-string: expressions nested too deeply")
    let found ← match fieldText 0 none [] [] cs with
      | .ok f => pure f
      | .error e => throw (.message e)
    let value ← compileField parse found cs
    -- An equals sign keeps the text of the expression, with the blanks around the sign.
    let (shown, rest) := match found.rest with
      | '=' :: more =>
        let blanks := more.takeWhile isSpace
        (some ((found.taken.reverse ++ '=' :: blanks).map Char.toNat), more.drop blanks.length)
      | _ => (none, found.rest)
    if rest.isEmpty then throw expecting
    let (conv, rest) ← conversion rest
    let (spec, rest) ← match rest with
      | ':' :: [] => throw expecting
      | ':' :: more => do
        let (inner, rest) ← pieces raw (level + 1) {} more fuel
        pure (some (Expr.joined line (inner.flush line marked).reverse), rest)
      | _ => pure (none, rest)
    match rest with
    | '}' :: rest =>
      let conv := if shown.isSome && spec.isNone && conv.isNone then some 'r' else conv
      let a := match shown with
        | some text => a.addText text
        | none => a
      return (a.addPart line marked (.formatted line value conv spec), rest)
    | _ => throw expecting

end

def plainValue (q : Quoted) : Except Problem (List Nat ⊕ List Nat) := do
  if q.isBytes then
    if q.body.any (fun c => 128 ≤ c.toNat) then
      throw (.onLine q.line "bytes can only contain ASCII literal characters")
    if q.isRaw then return .inl (q.body.map Char.toNat)
    match Escape.decodeBytes q.body with
    | .ok bs => return .inl bs
    | .error e => throw (.message e)
  else if q.isFormatted then return .inr []
  else return .inr (← decode q.isRaw q.body)

end

def joinFrom (parse : FieldText → Except Fault Expr) (line : Nat) (marked : Bool)
    (bytes : Option (List Nat)) (a : Assembly) (formatted : Bool) (first : Bool) :
    List Quoted → Except Problem Expr
  | [] =>
    match bytes with
    | some bs => .ok (.constant line (.bytes bs))
    | none =>
      if formatted then .ok (.joined line (a.flush line marked).reverse)
      else .ok (.constant line (.text a.text marked))
  | q :: qs => do
    let value ← plainValue q
    if !first && bytes.isSome != q.isBytes then
      throw (.message "cannot mix bytes and nonbytes literals")
    match value with
    | .inl bs => joinFrom parse line marked (some (bytes.getD [] ++ bs)) a formatted false qs
    | .inr text =>
      if q.isFormatted then
        let parseField (text behind : List Char) := parse (q.fieldText text behind)
        let (a, _) ← pieces parseField line marked q.isRaw 0 a q.body (q.body.length + 2)
        joinFrom parse line marked none a true false qs
      else joinFrom parse line marked none (a.addText text) formatted false qs

def join (parse : FieldText → Except Fault Expr) (qs : List Quoted) : Except Problem Expr :=
  let line := (qs.head?.map (·.line)).getD 0
  let marked := (qs.head?.map (·.isMarked)).getD false
  joinFrom parse line marked none {} false true qs

end HabitLens.Source.Literal
