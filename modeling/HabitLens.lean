import HabitLens.Advice.Basic
import HabitLens.Advice.Explain
import HabitLens.Advice.Journal
import HabitLens.Advice.Prompt
import HabitLens.Advice.Window
import HabitLens.Data.Display
import HabitLens.Data.Failure
import HabitLens.Data.Item
import HabitLens.Data.Json
import HabitLens.Data.Order
import HabitLens.Data.Sort
import HabitLens.Data.Table
import HabitLens.Data.Value
import HabitLens.Number.Binary64
import HabitLens.Number.Digits
import HabitLens.Number.Shortest
import HabitLens.Page.Fault
import HabitLens.Page.Fix
import HabitLens.Page.Item
import HabitLens.Page.Markup
import HabitLens.Page.Property
import HabitLens.Page.Results
import HabitLens.Page.Session
import HabitLens.Proofs.Findings
import HabitLens.Proofs.Lookup.Check
import HabitLens.Proofs.Lookup.Context
import HabitLens.Proofs.Merging
import HabitLens.Proofs.Outcome
import HabitLens.Proofs.StableSort
import HabitLens.Proofs.Walk
import HabitLens.Review.Analyzer
import HabitLens.Review.Check.BroadHandler
import HabitLens.Review.Check.InfiniteLoop
import HabitLens.Review.Check.MutableDefault
import HabitLens.Review.Check.OpenFile
import HabitLens.Review.Check.Shadowing
import HabitLens.Review.Check.Unreachable
import HabitLens.Review.Context
import HabitLens.Review.Issue
import HabitLens.Review.Linter
import HabitLens.Review.Program
import HabitLens.Service.Development
import HabitLens.Service.Document
import HabitLens.Service.Environment
import HabitLens.Service.EnvironmentReport
import HabitLens.Service.Fallback
import HabitLens.Service.Feedback
import HabitLens.Service.Hosted
import HabitLens.Service.Parts
import HabitLens.Service.Request
import HabitLens.Service.Response
import HabitLens.Service.Route
import HabitLens.Source.Escape
import HabitLens.Source.Fault
import HabitLens.Source.Feature
import HabitLens.Source.Grammar.Atom
import HabitLens.Source.Grammar.Compound
import HabitLens.Source.Grammar.Description
import HabitLens.Source.Grammar.Expression
import HabitLens.Source.Grammar.MatchPattern
import HabitLens.Source.Grammar.Parameter
import HabitLens.Source.Grammar.Parser
import HabitLens.Source.Grammar.Primary
import HabitLens.Source.Grammar.Rules
import HabitLens.Source.Grammar.Simple
import HabitLens.Source.Lexer
import HabitLens.Source.Literal
import HabitLens.Source.MatchKey
import HabitLens.Source.Node
import HabitLens.Source.Numeral
import HabitLens.Source.Parse
import HabitLens.Source.Placement.Basic
import HabitLens.Source.Placement.Check
import HabitLens.Source.Placement.Expression
import HabitLens.Source.Placement.MatchPattern
import HabitLens.Source.Placement.Statement
import HabitLens.Source.Runnable
import HabitLens.Source.Scope.Basic
import HabitLens.Source.Scope.Check
import HabitLens.Source.Scope.Walk
import HabitLens.Source.Sharing
import HabitLens.Source.Suspension
import HabitLens.Source.Token
import HabitLens.Source.Tree
import HabitLens.Text.Blank
import HabitLens.Text.CharacterName
import HabitLens.Text.Cut
import HabitLens.Text.Identifier
import HabitLens.Text.IdentifierTable
import HabitLens.Text.Names.Aliases
import HabitLens.Text.Names.Alphabets
import HabitLens.Text.Names.EastAsian
import HabitLens.Text.Names.Emblems
import HabitLens.Text.Names.Forms
import HabitLens.Text.Names.Historic
import HabitLens.Text.Names.Notations
import HabitLens.Text.Names.Pictures
import HabitLens.Text.Names.Symbols
import HabitLens.Text.Normal
import HabitLens.Text.NormalTable
import HabitLens.Text.PrintableTable
import HabitLens.Text.Ranges
import HabitLens.Proofs.Analysis
import HabitLens.Proofs.Arrangement
import HabitLens.Proofs.Inquiry
import HabitLens.Proofs.AssistantKey
import HabitLens.Proofs.Entry
import HabitLens.Proofs.Treatment
import HabitLens.Proofs.Explained
import HabitLens.Proofs.Delivery
import HabitLens.Proofs.Agreement
import HabitLens.Proofs.Depth
import HabitLens.Proofs.Knowledge
import HabitLens.Proofs.CallDepth
import HabitLens.Proofs.Linking
import HabitLens.Proofs.Shape
import HabitLens.Proofs.Answer
import HabitLens.Proofs.Attribution
import HabitLens.Proofs.Resilience
import HabitLens.Proofs.WholeNumber
import HabitLens.Proofs.LineOrder
import HabitLens.Proofs.Rendering
import HabitLens.Proofs.Showing
import HabitLens.Proofs.Quoting
import HabitLens.Proofs.Redaction
import HabitLens.Proofs.BreakOff
import HabitLens.Proofs.Overlap
import HabitLens.Proofs.Painting
import HabitLens.Proofs.Patience
import HabitLens.Proofs.Extraction
import HabitLens.Proofs.SharedDefault
import HabitLens.Proofs.DefaultOwner
import HabitLens.Proofs.Subtree
import HabitLens.Proofs.EndlessLoop
import HabitLens.Proofs.LeftLoop
import HabitLens.Proofs.StatementsBehind
import HabitLens.Proofs.RepeatedStatement
import HabitLens.Proofs.ShadowedName
import HabitLens.Proofs.ClosedFile
import HabitLens.Proofs.CodeWindow
import HabitLens.Proofs.LinterEntry
import HabitLens.Proofs.Completion
import HabitLens.Proofs.Containment
import HabitLens.Proofs.Fences
import HabitLens.Proofs.EditorLine
