import ExprLang.Analysis
import ExprLang.Lexical.Lossless
import ExprLang.Lexical.Scanner
import ExprLang.Proofs.Derivation
import ExprLang.Proofs.Acceptance
import ExprLang.Proofs.Attempts
import ExprLang.Proofs.Rounds
import ExprLang.Proofs.SafePoint
import ExprLang.Proofs.Resumption
import ExprLang.Proofs.Behind
import ExprLang.Proofs.Statements
import ExprLang.Proofs.Limits
import ExprLang.Proofs.Lookahead
import ExprLang.Proofs.DeadEnds
import ExprLang.Proofs.Rounding
import ExprLang.Proofs.SegmentForms
import ExprLang.Proofs.LongestMatch
import ExprLang.Proofs.Delimited
import ExprLang.Proofs.NumberText
import ExprLang.Proofs.Rendered
import ExprLang.Proofs.Reparse
import ExprLang.Proofs.UniqueReading
import ExprLang.Proofs.Ascending
import ExprLang.Proofs.Lines
import ExprLang.Proofs.LineBreaks
import ExprLang.Proofs.DiagnosticOrder
import ExprLang.Proofs.Corresponding
import ExprLang.Proofs.CorrespondingParsers
import ExprLang.Proofs.Respelling
import ExprLang.Proofs.ScannerSession
import ExprLang.Proofs.NestingCount
import ExprLang.Proofs.ParserSession
import ExprLang.Proofs.WithoutRecovery
import ExprLang.Proofs.EndsAlike
import ExprLang.Proofs.Places
import ExprLang.Proofs.AppendedText
import ExprLang.Proofs.UnexpectedCharacters
import ExprLang.Proofs.SteppingOn
import ExprLang.Proofs.CursorBounds
import ExprLang.Proofs.TokenIndices
import ExprLang.Proofs.EndOfInput
import ExprLang.Proofs.SameKinds
import ExprLang.Proofs.EqualTrees
import ExprLang.Proofs.TreeEquality
import ExprLang.Proofs.Calls
import ExprLang.Proofs.Frame
