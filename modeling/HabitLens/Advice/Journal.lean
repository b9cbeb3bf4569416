import HabitLens.Data.Failure

/-!
What happens outside while a request is served: lines are logged, an assistant is asked, and time
passes. A journal keeps record of it.
-/

namespace HabitLens

inductive Reply where
  | blocks (texts : List Value)
  | refused (message : String)

structure Question where
  prompt : String
  maxTokens : Nat
  /-- The role that the assistant is to play, and then without any chance. -/
  role : Option String := none
  deriving DecidableEq, Repr

namespace Question

def model : String := "claude-3-haiku-20240307"

def toValue (q : Question) : Value :=
  let message : Value := .dict [("role", .str "user"), ("content", .str q.prompt)]
  let fields : Table Value :=
    [("model", .str model), ("max_tokens", .int q.maxTokens), ("messages", .list [message])]
  match q.role with
  | some role => .dict (fields ++ [("temperature", .int 0), ("system", .str role)])
  | none => .dict fields

end Question

structure Journal where
  log : List String := []
  questions : List Question := []
  pauses : List Nat := []
  replies : List Reply := []

def Journal.logText (j : Journal) : String :=
  String.join (j.log.map (· ++ "\n"))

/-- Something that is done outside and may fail; what was recorded before a failure stays. -/
abbrev Act (α : Type) : Type := ExceptT Failure (StateM Journal) α

namespace Act

def say (line : String) : StateM Journal Unit :=
  modify fun j => { j with log := j.log ++ [line] }

def sayAll (lines : List String) : StateM Journal Unit :=
  modify fun j => { j with log := j.log ++ lines }

def pause (seconds : Nat) : StateM Journal Unit :=
  modify fun j => { j with pauses := j.pauses ++ [seconds] }

def attempt {α : Type} (act : Act α) : StateM Journal (Except Failure α) :=
  act.run

/-- Does something that may fail as part of something else, which goes on either way. -/
def caught {α : Type} (act : Act α) : Act (Except Failure α) :=
  ExceptT.lift (attempt act)

def ask (q : Question) : Act Value := do
  let j ← get
  match j.replies with
  | [] =>
    set { j with questions := j.questions ++ [q] }
    throw (.outside "no reply left")
  | reply :: rest =>
    set { j with questions := j.questions ++ [q], replies := rest }
    match reply with
    | .refused message => throw (.outside message)
    | .blocks [] => throw (.outOfRange "list")
    | .blocks (text :: _) => return text

end Act

end HabitLens
