import HabitLens.Review.Check.BroadHandler
import HabitLens.Review.Check.InfiniteLoop
import HabitLens.Review.Check.MutableDefault
import HabitLens.Review.Check.OpenFile
import HabitLens.Review.Check.Shadowing
import HabitLens.Review.Check.Unreachable
import HabitLens.Review.Linter
import HabitLens.Source.Parse

/-!
The analyzer: it keeps what it has found and what it knows of the program, and every step adds to
that. A whole analysis starts afresh.
-/

namespace HabitLens.Review

open Source

inductive Check where
  | mutableDefaults
  | infiniteLoops
  | exceptionHandling
  | resourceManagement
  | unreachableCode
  | shadowingBuiltins
  deriving DecidableEq, Repr

namespace Check

def all : List Check :=
  [mutableDefaults, infiniteLoops, exceptionHandling, resourceManagement, unreachableCode,
   shadowingBuiltins]

def run (functions : Table FunctionRecord) (p : Program) : Check → List Issue
  | mutableDefaults => MutableDefault.check functions p
  | infiniteLoops => InfiniteLoop.check p
  | exceptionHandling => BroadHandler.check p
  | resourceManagement => OpenFile.check p
  | unreachableCode => Unreachable.check p
  | shadowingBuiltins => Shadowing.check p

end Check

structure Analyzer where
  feedback : List Issue := []
  context : Context := {}

namespace Analyzer

/-- What a step leaves behind, with what it logged and why it broke off. -/
structure Result where
  analyzer : Analyzer
  log : List String := []
  failure : Option Failure := none

def add (a : Analyzer) (issues : List Issue) : Analyzer :=
  { a with feedback := a.feedback ++ issues }

def parseValue : Value → Except Failure (List Stmt)
  | .str code => (parse code).mapError .ofFault
  | .unpaired codes => .error (.unencodable codes)
  | _ => .error .notSource

def buildContext (a : Analyzer) (p : Program) : Analyzer :=
  { a with context := a.context.extend p }

def check (a : Analyzer) (p : Program) (c : Check) : Analyzer :=
  a.add (c.run a.context.functions p)

def runChecks (a : Analyzer) (p : Program) (checks : List Check) : Analyzer :=
  checks.foldl (fun a c => a.check p c) a

def syntaxIssue (fault : Fault) : Issue :=
  { line := (fault.line.map .int).getD .null
    message := .str ("Syntax error: " ++ fault.describe)
    isBadHabit := true
    category := .syntaxError
    origin := .tree }

def checkCode (a : Analyzer) (code : Value) : Analyzer :=
  match parseValue code with
  | .ok body => a.runChecks { body } Check.all
  | .error (.badSource fault) => a.add [syntaxIssue fault]
  | .error f => a.add [.trouble ("Error during AST analysis: " ++ f.message)]

def lint (a : Analyzer) (code : Value) (run : LinterRun) : Result :=
  match code with
  | .str _ =>
    let report := run.report
    { analyzer := a.add report.issues, log := report.log, failure := report.failure }
  | .unpaired codes => { analyzer := a, failure := some (.unencodable codes) }
  | v => { analyzer := a, failure := some (.noOperation v.kind "encode") }

def reset (a : Analyzer) : Analyzer :=
  { a with
    feedback := []
    context := { a.context with assigned := [], functions := [], controlFlow := [] } }

def analyze (a : Analyzer) (code : Value) (run : LinterRun) : Result :=
  let a := a.reset
  match parseValue code with
  | .ok body => ((a.buildContext { body }).checkCode code).lint code run
  | .error (.badSource _) => (a.checkCode code).lint code run
  | .error f => { analyzer := a, failure := some f }

end Analyzer

inductive Step where
  | fresh
  | analyze (code : Value) (run : LinterRun)
  | buildContext (code : Value) (linked shared : Bool)
  | checkCode (code : Value)
  | lint (code : Value) (run : LinterRun)
  | checks (code : Value) (checks : List Check) (linked shared : Bool)

namespace Analyzer

def withProgram (a : Analyzer) (code : Value) (linked shared : Bool) (f : Program → Analyzer) :
    Result :=
  match parseValue code with
  | .ok body => { analyzer := f (.make body linked shared) }
  | .error failure => { analyzer := a, failure := some failure }

def step (a : Analyzer) : Step → Result
  | .fresh => { analyzer := {} }
  | .analyze code run => a.analyze code run
  | .buildContext code linked shared => a.withProgram code linked shared a.buildContext
  | .checkCode code => { analyzer := a.checkCode code }
  | .lint code run => a.lint code run
  | .checks code checks linked shared =>
    a.withProgram code linked shared fun p => a.runChecks p checks

def session (a : Analyzer) : List Step → List Result
  | [] => []
  | s :: steps =>
    let result := a.step s
    result :: result.analyzer.session steps

end Analyzer

end HabitLens.Review
