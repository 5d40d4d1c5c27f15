import RowQuery.Main
import RowQuery.Proofs.Query.Cutting
import RowQuery.Proofs.Query.Spelling
import RowQuery.Proofs.Query.Validity
import RowQuery.Query.Session
import RowQuery.Proofs.Parser.Suffix
import RowQuery.Proofs.Query.Session
import RowQuery.Proofs.Row.Evaluator
import RowQuery.Proofs.Regex.Span
import RowQuery.Proofs.Regex.Woven
import RowQuery.Proofs.Query.Narrowing
import RowQuery.Proofs.Command.Diagnostics
import RowQuery.Proofs.Command.Selection
import RowQuery.Proofs.Parser.Log
import RowQuery.Proofs.Query.Qualifier
import RowQuery.Proofs.Query.Unchecked
import RowQuery.Proofs.Query.UnknownColumn
import RowQuery.Proofs.Query.Negation
import RowQuery.Proofs.Query.Reordering
import RowQuery.Proofs.Command.Failure
import RowQuery.Proofs.Command.Rerun
import RowQuery.Proofs.Parser.Repetition
import RowQuery.Proofs.Query.Keyword
import RowQuery.Proofs.Query.Refusal
import RowQuery.Proofs.Parser.Anchored
import RowQuery.Proofs.Directory.Construction
import RowQuery.Proofs.Directory.Suggestion
import RowQuery.Proofs.Table.Columns
import RowQuery.Proofs.Table.Delimiter
import RowQuery.Proofs.Query.Description
import RowQuery.Proofs.Query.Trimming
import RowQuery.Proofs.Table.Qualifier
import RowQuery.Proofs.Command.Frame
import RowQuery.Proofs.Query.Pairing
import RowQuery.Proofs.Query.Composition
