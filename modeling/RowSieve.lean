import RowSieve.Text.Case
import RowSieve.Dictionary
import RowSieve.Decimal.Scaled
import RowSieve.Decimal.Remainder
import RowSieve.Token.Cursor
import RowSieve.Json.Document
import RowSieve.Value
import RowSieve.Request.Parser
import RowSieve.Grammar.Inspect
import RowSieve.Expr.Lowering
import RowSieve.Expr.Evaluation
import RowSieve.Function.Library
import RowSieve.Query
import RowSieve.Batch.Profile
import RowSieve.Store.Basic
import RowSieve.Load.Trial
import RowSieve.CommandLine.Command
import RowSieve.Main
import RowSieve.Batch.Network
import RowSieve.Grammar.Sharing
import RowSieve.Proofs.Grammar.Registration
import RowSieve.Proofs.Token.Reading
import RowSieve.Proofs.Grammar.Established
import RowSieve.Proofs.Grammar.Relabelling
import RowSieve.Proofs.Request.Acceptance
import RowSieve.Proofs.Expr.Acceptance
import RowSieve.Proofs.Batch.Conservation
import RowSieve.Proofs.Store.Sessions
import RowSieve.Proofs.Request.Rendering
import RowSieve.Proofs.Expr.Falls
import RowSieve.Proofs.Text.ByteOrder
import RowSieve.Proofs.Expr.Calls
import RowSieve.Proofs.Expr.Operands
import RowSieve.Proofs.Expr.Agreement
import RowSieve.Proofs.Request.Filtering
import RowSieve.Proofs.Request.Projection
import RowSieve.Proofs.Request.Quoting
import RowSieve.Proofs.Grammar.Patience
import RowSieve.Proofs.Grammar.Sharing
import RowSieve.Proofs.Token.Lineend
import RowSieve.Proofs.Grammar.Surroundings
import RowSieve.Proofs.Request.Copying
import RowSieve.Proofs.Request.Scripts
import RowSieve.Proofs.Request.Columns
import RowSieve.Proofs.Token.Covering
import RowSieve.Proofs.Batch.Limit
import RowSieve.Proofs.Decimal.Whole
import RowSieve.Proofs.Expr.Crashes
import RowSieve.Proofs.Grammar.Validation
import RowSieve.Proofs.Token.Quotation
import RowSieve.Proofs.Token.Joining
import RowSieve.Proofs.Request.Comments
import RowSieve.Proofs.Record.Spelling
import RowSieve.Proofs.Expr.Sequence
import RowSieve.Proofs.Grammar.Variants
import RowSieve.Proofs.Request.Incomplete
import RowSieve.Proofs.Request.Variants
import RowSieve.Proofs.Grammar.Backslashes
import RowSieve.Proofs.Request.Display
import RowSieve.Proofs.Expr.Demands
import RowSieve.Proofs.Expr.Integers
import RowSieve.Proofs.Json.Numbers
import RowSieve.Proofs.Layout.Decoding
import RowSieve.Proofs.Layout.Names
import RowSieve.Proofs.Expr.Progress
import RowSieve.Proofs.Request.Places
import RowSieve.Proofs.Expr.Literals
import RowSieve.Proofs.Load.Rounds
import RowSieve.Proofs.Request.Progress
