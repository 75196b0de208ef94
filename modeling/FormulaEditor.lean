import FormulaEditor.Expression.Cursor
import FormulaEditor.Main
import FormulaEditor.Proofs.Binary64.Nearest
import FormulaEditor.Proofs.Binary64.Parity
import FormulaEditor.Proofs.Binary64.Range
import FormulaEditor.Proofs.Binary64.Shortest
import FormulaEditor.Proofs.Decimal.Language
import FormulaEditor.Proofs.Decimal.Notation
import FormulaEditor.Proofs.Decimal.Numeral
import FormulaEditor.Proofs.Decimal.Quotient
import FormulaEditor.Proofs.Decimal.Rendered
import FormulaEditor.Proofs.Decimal.WrittenNumeral
import FormulaEditor.Proofs.Evaluation.Exactness
import FormulaEditor.Proofs.Evaluation.Machine
import FormulaEditor.Proofs.Evaluation.NegativeBase
import FormulaEditor.Proofs.Evaluation.Numeric
import FormulaEditor.Proofs.Evaluation.Power
import FormulaEditor.Proofs.Evaluation.PowerSize
import FormulaEditor.Proofs.Evaluation.Rational
import FormulaEditor.Proofs.Evaluation.Substitution
import FormulaEditor.Proofs.Evaluation.Turns
import FormulaEditor.Proofs.Evaluation.UnusedBindings
import FormulaEditor.Proofs.Evaluation.WellFormed
import FormulaEditor.Proofs.Formula.Display
import FormulaEditor.Proofs.Formula.Labels
import FormulaEditor.Proofs.Formula.Words
import FormulaEditor.Proofs.Grammar.Acceptance
import FormulaEditor.Proofs.Grammar.Derivation
import FormulaEditor.Proofs.Grammar.FirstFault
import FormulaEditor.Proofs.Grammar.Leaves
import FormulaEditor.Proofs.Grammar.Levels
import FormulaEditor.Proofs.Grammar.Locality
import FormulaEditor.Proofs.Grammar.Nesting
import FormulaEditor.Proofs.Grammar.Parentheses
import FormulaEditor.Proofs.Grammar.Reading
import FormulaEditor.Proofs.Grammar.Refusal
import FormulaEditor.Proofs.Grammar.Substitution
import FormulaEditor.Proofs.Grammar.Unambiguous
import FormulaEditor.Proofs.Json.Body
import FormulaEditor.Proofs.Json.Nesting
import FormulaEditor.Proofs.Json.ReadBack
import FormulaEditor.Proofs.Remote.Answer
import FormulaEditor.Proofs.Remote.Breakdown
import FormulaEditor.Proofs.Remote.Lookup
import FormulaEditor.Proofs.Server.Evaluation
import FormulaEditor.Proofs.Server.Reachable
import FormulaEditor.Proofs.Server.Rejection
import FormulaEditor.Proofs.Server.Target
import FormulaEditor.Proofs.Server.TokenRequest
import FormulaEditor.Proofs.Session.Accounting
import FormulaEditor.Proofs.Session.Confluence
import FormulaEditor.Proofs.Session.Highlight
import FormulaEditor.Proofs.Session.LastRequest
import FormulaEditor.Proofs.Session.Loading
import FormulaEditor.Proofs.Session.Operation
import FormulaEditor.Proofs.Session.Request
import FormulaEditor.Proofs.Session.Run
import FormulaEditor.Proofs.Session.SuggestionList
import FormulaEditor.Proofs.Session.Tokens
import FormulaEditor.Proofs.Suggestion.Search
import FormulaEditor.Proofs.Suggestion.Verbatim
import FormulaEditor.Proofs.Text.Blank
import FormulaEditor.Proofs.Text.RawText
import FormulaEditor.Proofs.Typing.Piece
import FormulaEditor.Proofs.Typing.Recognition
import FormulaEditor.Proofs.Typing.Relabelling
import FormulaEditor.Proofs.Typing.Retyping
import FormulaEditor.Proofs.Typing.Tokenizer
import FormulaEditor.Proofs.Typing.WholeNumber
import FormulaEditor.Proofs.Validation.Integer
import FormulaEditor.Server.App
import FormulaEditor.Validation.Session
