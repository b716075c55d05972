import Sqlwright.Command
import Sqlwright.Config.Toml
import Sqlwright.Entity
import Sqlwright.Proofs.Command.Closed
import Sqlwright.Proofs.Command.Incoming
import Sqlwright.Proofs.Command.Concurrency
import Sqlwright.Proofs.Predicate.Lowering
import Sqlwright.Text.Numeral
import Sqlwright.Proofs.Sql.Lexing
import Sqlwright.Proofs.Sql.Spacing
import Sqlwright.Proofs.Text.Identifier
import Sqlwright.Proofs.Text.Undoubling
import Sqlwright.Proofs.Sql.Lexemes
import Sqlwright.Proofs.Predicate.Vocabulary
import Sqlwright.Proofs.Command.Sorting
import Sqlwright.Proofs.Predicate.Markers
import Sqlwright.Proofs.Predicate.Renaming
import Sqlwright.Proofs.Command.Placing
import Sqlwright.Proofs.Predicate.Simplifying
import Sqlwright.Proofs.Command.Cells
import Sqlwright.Proofs.Command.Batch
import Sqlwright.Proofs.Command.Merging
import Sqlwright.Proofs.Predicate.Grouping
import Sqlwright.Proofs.Command.Filtering
import Sqlwright.Proofs.Command.Assigning
import Sqlwright.Proofs.Predicate.Skipping
import Sqlwright.Proofs.Sql.Query
import Sqlwright.Proofs.Command.Paging
import Sqlwright.Proofs.ParamSet.History
import Sqlwright.Proofs.ParamSet.Searching
import Sqlwright.Proofs.Predicate.Mirroring
import Sqlwright.Proofs.Predicate.Scanning
import Sqlwright.Proofs.Predicate.Splicing
import Sqlwright.Proofs.Number.Ranking
import Sqlwright.Proofs.Number.Rounding
import Sqlwright.Proofs.Value.Ordering
import Sqlwright.Proofs.Dialect.Naming
import Sqlwright.Proofs.Schema.Validation
import Sqlwright.Proofs.Text.Numerals
import Sqlwright.Proofs.Value.Literals
import Sqlwright.Proofs.Data.CalendarText
import Sqlwright.Proofs.Value.Moments
import Sqlwright.Proofs.Entity.Mapping
import Sqlwright.Proofs.Entity.Ignoring
import Sqlwright.Proofs.Predicate.Fields
import Sqlwright.Proofs.Command.Fields
import Sqlwright.Proofs.Entity.Access
import Sqlwright.Proofs.Predicate.Dialects
import Sqlwright.Proofs.Command.Dialects
