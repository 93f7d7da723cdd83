import BlockScript.Text.Basic
import BlockScript.Text.Blank
import BlockScript.Text.Columns
import BlockScript.Text.Lines
import BlockScript.Text.Lowercase
import BlockScript.Text.Quoted
import BlockScript.Text.Replace
import BlockScript.Decimal.Shortest
import BlockScript.Keyword
import BlockScript.Instruction
import BlockScript.FrameStack
import BlockScript.Fault
import BlockScript.ValueType
import BlockScript.TypeTable
import BlockScript.Operands
import BlockScript.Builtin
import BlockScript.Context
import BlockScript.Backend
import BlockScript.Pseudocode
import BlockScript.CPlusPlus
import BlockScript.Compile
import BlockScript.Settings
import BlockScript.SettingsFile.Decode
import BlockScript.Failure
import BlockScript.Report
import BlockScript.CommandLine.Run
import BlockScript.Main
import BlockScript.Proofs.Line
import BlockScript.Proofs.BlockGrammar
import BlockScript.Proofs.Run
import BlockScript.Proofs.TwoRuns
import BlockScript.Proofs.BlockAction
import BlockScript.Proofs.LineFaults
import BlockScript.Proofs.Acceptance
import BlockScript.Proofs.Lockstep
import BlockScript.Proofs.Agreement
import BlockScript.Proofs.Braces
import BlockScript.Proofs.BraceWords
import BlockScript.Proofs.BraceBalance
import BlockScript.Proofs.Occurrence
import BlockScript.Proofs.Replacement
import BlockScript.Proofs.Renumbering
import BlockScript.Proofs.Concatenation
import BlockScript.Proofs.BlockPrefix
import BlockScript.Proofs.Openers
import BlockScript.Proofs.Hoisting
import BlockScript.Proofs.Closers
import BlockScript.Proofs.Marks
import BlockScript.Proofs.BlockMatching
import BlockScript.Proofs.FirstFault
import BlockScript.Proofs.LineSpans
import BlockScript.Proofs.LabelSpans
import BlockScript.Proofs.Qualifier
import BlockScript.Proofs.StackInvariant
import BlockScript.Proofs.PartialOperations
import BlockScript.Proofs.WithinBounds
import BlockScript.Proofs.FileSystem
import BlockScript.Proofs.FileTable
import BlockScript.Proofs.Effects
import BlockScript.Proofs.InputFile
import BlockScript.Proofs.FirstDifference
import BlockScript.Proofs.PointerGate
import BlockScript.Proofs.RelatedOutputs
import BlockScript.Proofs.BareLines
import BlockScript.Proofs.Indentation
import BlockScript.Proofs.StepwiseCalls
import BlockScript.Proofs.BlankLines
import BlockScript.Proofs.LineEnds
import BlockScript.Proofs.GivenOperands
import BlockScript.Proofs.Terminators
import BlockScript.Proofs.CommentLines
import BlockScript.Proofs.Words
import BlockScript.Proofs.AddedLine
import BlockScript.Proofs.IntegerExpressions
import BlockScript.Proofs.CompoundAssignments
import BlockScript.Proofs.CountedLoops
import BlockScript.Proofs.Declarators
import BlockScript.Proofs.ScopeDepth
import BlockScript.Proofs.Layout
import BlockScript.Proofs.InitialisedDeclarations
import BlockScript.Proofs.Literals
import BlockScript.Proofs.ArrayTokens
import BlockScript.Proofs.CalledNames
import BlockScript.Proofs.CallSites
import BlockScript.Proofs.Drafts
import BlockScript.Proofs.DeclaredNames
import BlockScript.Proofs.EntryPoint
import BlockScript.Proofs.UnusedCalls
import BlockScript.Proofs.CoveredCalls
import BlockScript.Proofs.LosslessTokens
import BlockScript.Proofs.KeywordOverlay
import BlockScript.Proofs.TypeTokens
import BlockScript.Proofs.LeftoverOperands
