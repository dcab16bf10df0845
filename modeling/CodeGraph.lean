import CodeGraph.Main
import CodeGraph.Replay.Embedding
import CodeGraph.Replay.Files
import CodeGraph.Replay.Lookups
import CodeGraph.Replay.Scene
import CodeGraph.Schema.Held
import CodeGraph.TypeExpr.Description
import CodeGraph.Proofs.Decimal.Order
import CodeGraph.Proofs.Exchanges
import CodeGraph.Proofs.Graph.Answers
import CodeGraph.Proofs.Graph.Interleaved
import CodeGraph.Proofs.Hooks.Failing
import CodeGraph.Proofs.Hooks.Records
import CodeGraph.Proofs.Impact.Calls
import CodeGraph.Proofs.Linking.Counting
import CodeGraph.Proofs.Linking.Discovery
import CodeGraph.Proofs.Linking.Frame
import CodeGraph.Proofs.Linking.Relinking
import CodeGraph.Proofs.Linking.Weight
import CodeGraph.Proofs.Schema.Fields
import CodeGraph.Proofs.Structure.Placeholder
import CodeGraph.Proofs.Structure.Writing
import CodeGraph.Proofs.Text.Trimming
import CodeGraph.Proofs.Impact.Reporting
import CodeGraph.Proofs.Schema.Readers
import CodeGraph.Proofs.Impact.Settling
import CodeGraph.Proofs.Config.Overrides
import CodeGraph.Proofs.Config.Sections
import CodeGraph.Proofs.Config.Loading
import CodeGraph.Proofs.Files.NormalForm
import CodeGraph.Proofs.Schema.Dumps
import CodeGraph.Proofs.Decimal.Printed
import CodeGraph.Proofs.Config.Values
import CodeGraph.Proofs.Config.Revalidation
import CodeGraph.Proofs.Decimal.Bits
import CodeGraph.Proofs.Decimal.Rounding
import CodeGraph.Proofs.Decimal.Rows
import CodeGraph.Proofs.Decimal.Shortest
import CodeGraph.Proofs.Decimal.Spelling
import CodeGraph.Proofs.Decimal.ReadBack
import CodeGraph.Proofs.Json.Tokens
import CodeGraph.Proofs.Json.RoundTrip
import CodeGraph.Proofs.Files.Below
import CodeGraph.Proofs.Config.Filling
import CodeGraph.Proofs.Config.Saving
import CodeGraph.Proofs.Text.Lowering
import CodeGraph.Proofs.Structure.Registering
import CodeGraph.Proofs.Text.Letters
import CodeGraph.Proofs.Text.Searching
import CodeGraph.Proofs.TypeExpr.Cutting
import CodeGraph.Proofs.TypeExpr.Grammar
import CodeGraph.Proofs.TypeExpr.Spelling
import CodeGraph.Proofs.TypeExpr.Reading
import CodeGraph.Proofs.TypeExpr.Meaning
import CodeGraph.Proofs.TypeExpr.Contexts
import CodeGraph.Proofs.TypeExpr.Fitting
import CodeGraph.Proofs.TypeExpr.Quoting
import CodeGraph.Proofs.TypeExpr.Unions
import CodeGraph.Proofs.Linking.Pruning
import CodeGraph.Proofs.Graph.Upserting
import CodeGraph.Proofs.Schema.Given
import CodeGraph.Proofs.Structure.Nesting
import CodeGraph.Proofs.Structure.Leniency
import CodeGraph.Proofs.Linking.Visiting
import CodeGraph.Proofs.Structure.Naming
import CodeGraph.Proofs.Structure.Resolving
import CodeGraph.Proofs.Structure.Connecting
import CodeGraph.Proofs.Structure.Reordering
import CodeGraph.Proofs.Text.Decoding
import CodeGraph.Proofs.Files.Changing
import CodeGraph.Proofs.Hooks.Sparing
import CodeGraph.Proofs.Hooks.Installing
import CodeGraph.Proofs.Hooks.Scripts
import CodeGraph.Proofs.Linking.Batches
import CodeGraph.Proofs.Linking.Ends
import CodeGraph.Proofs.Linking.Repeating
import CodeGraph.Proofs.Linking.Suggesting
import CodeGraph.Proofs.Text.Lines
import CodeGraph.Proofs.Git.Joining
import CodeGraph.Proofs.Git.Printing
import CodeGraph.Proofs.Git.Remotes
import CodeGraph.Proofs.Impact.Risk
import CodeGraph.Proofs.Impact.Mentions
import CodeGraph.Proofs.Structure.Walking
import CodeGraph.Proofs.TypeExpr.Referring
import CodeGraph.Proofs.Impact.Entities
import CodeGraph.Proofs.Rates
import CodeGraph.Proofs.Hooks.Indexing
import CodeGraph.Proofs.Decimal.Comparing
import CodeGraph.Proofs.Time.Written
import CodeGraph.Proofs.Json.OneLine
import CodeGraph.Proofs.Hooks.Recalling
import CodeGraph.Proofs.Config.Escaping
import CodeGraph.Proofs.Config.Placing
import CodeGraph.Proofs.Schema.Replacing
import CodeGraph.Proofs.Config.Verbatim
import CodeGraph.Proofs.Embedding.Storing
import CodeGraph.Proofs.TypeExpr.Splitting
import CodeGraph.Proofs.Structure.Reports
import CodeGraph.Proofs.Files.Opening
import CodeGraph.Proofs.Text.Encoding
import CodeGraph.Proofs.CommandLine.Running
import CodeGraph.Proofs.CommandLine.Extracting
