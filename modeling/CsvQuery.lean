import CsvQuery.Main
import CsvQuery.Proofs.Delivery
import CsvQuery.Proofs.Rows
import CsvQuery.Proofs.Joined
import CsvQuery.Proofs.Finish
import CsvQuery.Proofs.Pushdown
import CsvQuery.Proofs.Reordering
import CsvQuery.Proofs.EarlyProjection
import CsvQuery.Proofs.Distribution
import CsvQuery.Proofs.Estimates
import CsvQuery.Proofs.Ascending
import CsvQuery.Proofs.Notices
import CsvQuery.Proofs.Coverage
import CsvQuery.Proofs.Decimal
import CsvQuery.Proofs.Utf8
import CsvQuery.Proofs.Clauses
import CsvQuery.Proofs.Failures
import CsvQuery.Proofs.JsonText
import CsvQuery.Proofs.Stored
import CsvQuery.Proofs.QueryFiles
import CsvQuery.Proofs.SumNames
import CsvQuery.Proofs.Interruptions
import CsvQuery.Proofs.FailedResets
import CsvQuery.Proofs.Linked
import CsvQuery.Proofs.Grouping
import CsvQuery.Proofs.Stability
import CsvQuery.Proofs.Totals
import CsvQuery.Proofs.FirstArrivals
import CsvQuery.Proofs.Placements
import CsvQuery.Proofs.GreedyOrder
import CsvQuery.Proofs.FromClause
import CsvQuery.Proofs.QualifiedNames
import CsvQuery.Proofs.IntegerLiterals
import CsvQuery.Proofs.Regrouping
import CsvQuery.Proofs.Bags
import CsvQuery.Proofs.RowFiles
import CsvQuery.Proofs.Statistics
import CsvQuery.Proofs.ResultText
import CsvQuery.Proofs.Evaluation
import CsvQuery.Proofs.Conjunctions
