import SpanQuery.Archive
import SpanQuery.Cache
import SpanQuery.Calendar.Time
import SpanQuery.Command.Run
import SpanQuery.Csv.Samples
import SpanQuery.Database.Image
import SpanQuery.Database.Source
import SpanQuery.Expr.Json
import SpanQuery.Expr.Parser
import SpanQuery.Interval.Json
import SpanQuery.Main
import SpanQuery.Memory
import SpanQuery.Proofs.Compression.TrueRuns
import SpanQuery.Proofs.Course.Contract
import SpanQuery.Proofs.Evaluation.Coverage
import SpanQuery.Proofs.Evaluation.Kinds
import SpanQuery.Proofs.Evaluation.Pointwise
import SpanQuery.Proofs.Parser.Completeness
import SpanQuery.Proofs.Parser.Grammar
import SpanQuery.Proofs.Parser.Nesting
import SpanQuery.Proofs.Parser.Soundness
import SpanQuery.Proofs.Sample.Slice
import SpanQuery.Proofs.Sample.Window
import SpanQuery.Settings.Search
import SpanQuery.Source.File
import SpanQuery.Proofs.Cache.Transparency
import SpanQuery.Proofs.Database.Answers
import SpanQuery.Proofs.Archive.Agreement
import SpanQuery.Proofs.Archive.CacheSetting
import SpanQuery.Proofs.Parser.Printed
import SpanQuery.Proofs.Course.Draws
import SpanQuery.Proofs.Evaluation.Laziness
import SpanQuery.Proofs.Evaluation.Partition
import SpanQuery.Proofs.Archive.Fetch
import SpanQuery.Proofs.Cache.Prefetch
import SpanQuery.Proofs.Archive.OneHistory
import SpanQuery.Proofs.Archive.Recorded
import SpanQuery.Proofs.Archive.WiderAnswers
import SpanQuery.Proofs.Parser.Equivalence
import SpanQuery.Proofs.Cache.History
import SpanQuery.Proofs.Evaluation.Cut
import SpanQuery.Proofs.Parser.Canonical
import SpanQuery.Proofs.Compression.Streams
import SpanQuery.Proofs.Archive.Bounds
import SpanQuery.Proofs.Subsampling.Pulls
import SpanQuery.Proofs.Archive.Steps
import SpanQuery.Proofs.Parser.Located
import SpanQuery.Proofs.Parser.Spacing
import SpanQuery.Proofs.Interval.Duration
import SpanQuery.Proofs.Decimal.Pattern
import SpanQuery.Proofs.Decimal.Nearest
import SpanQuery.Proofs.Decimal.Arithmetic
import SpanQuery.Proofs.Decimal.Scaled
import SpanQuery.Proofs.Decimal.Digits
import SpanQuery.Proofs.Decimal.Display
import SpanQuery.Proofs.Calendar.Fraction
import SpanQuery.Proofs.Calendar.Dated
import SpanQuery.Proofs.Calendar.Shown
import SpanQuery.Proofs.Calendar.Written
import SpanQuery.Proofs.Json.Text
import SpanQuery.Proofs.Json.Number
import SpanQuery.Proofs.Json.Expression
import SpanQuery.Proofs.Token.Segmentation
import SpanQuery.Proofs.Settings.Search
