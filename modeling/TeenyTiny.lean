import TeenyTiny.Main
import TeenyTiny.Pattern.Basic
import TeenyTiny.Pattern.Fault
import TeenyTiny.Pattern.Read
import TeenyTiny.Proofs.Acceptance
import TeenyTiny.Proofs.FirstFault
import TeenyTiny.Proofs.Translation
import TeenyTiny.Text.Controls
import TeenyTiny.Proofs.Layout
import TeenyTiny.Proofs.Lexemes
import TeenyTiny.Proofs.Seam
import TeenyTiny.Proofs.Concatenation
import TeenyTiny.Proofs.CTokens
import TeenyTiny.Proofs.ExpressionTokens
import TeenyTiny.Proofs.Arithmetic
import TeenyTiny.Proofs.TreeNames
import TeenyTiny.Proofs.Listing
import TeenyTiny.Proofs.Closed
import TeenyTiny.Proofs.Spelling
import TeenyTiny.Proofs.Tiling
import TeenyTiny.Proofs.Rendering
import TeenyTiny.Proofs.Verbatim
import TeenyTiny.Proofs.Replacement
import TeenyTiny.Proofs.Nesting
import TeenyTiny.Proofs.Indentation
import TeenyTiny.Proofs.Numerals
import TeenyTiny.Proofs.Truncation
import TeenyTiny.Proofs.Evaluation
import TeenyTiny.Proofs.Declarations
import TeenyTiny.Proofs.ReservedWords
import TeenyTiny.Proofs.Regrouping
import TeenyTiny.Proofs.Agreement
import TeenyTiny.Proofs.Progress
import TeenyTiny.Proofs.Pulls
import TeenyTiny.Proofs.Malformed
import TeenyTiny.Proofs.LexicalErrors
import TeenyTiny.Proofs.Targets
import TeenyTiny.Proofs.Pointing
import TeenyTiny.Proofs.Derivation
import TeenyTiny.Proofs.LabelHistory
import TeenyTiny.Proofs.LineBreaks
import TeenyTiny.Proofs.PageHistory
import TeenyTiny.Proofs.Log
import TeenyTiny.Proofs.Positions
import TeenyTiny.Proofs.Respelling
import TeenyTiny.Proofs.ReportLines
import TeenyTiny.Proofs.Headings
import TeenyTiny.Proofs.Turns
import TeenyTiny.Proofs.StatementTurns
import TeenyTiny.Proofs.EndOfSource
import TeenyTiny.Proofs.Records
