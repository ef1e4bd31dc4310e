import Codemod.CharSet
import Codemod.Character.Age
import Codemod.Character.Boundary
import Codemod.Character.Casing
import Codemod.Character.Category
import Codemod.Character.Family
import Codemod.Character.Lookup
import Codemod.Character.Property
import Codemod.Character.Script
import Codemod.Character.Table
import Codemod.CommandLine
import Codemod.CommandLine.Given
import Codemod.CommandLine.Help
import Codemod.CommandLine.Option
import Codemod.Config
import Codemod.Decimal
import Codemod.Execution
import Codemod.Failure
import Codemod.Filter
import Codemod.Glob
import Codemod.Glob.Token
import Codemod.Ignore
import Codemod.Main
import Codemod.Migration
import Codemod.Number
import Codemod.Ordered
import Codemod.Output.Listing
import Codemod.Output.Record
import Codemod.Output.Report
import Codemod.Output.Style
import Codemod.Path
import Codemod.Pattern
import Codemod.Pattern.Error
import Codemod.Pattern.Expr
import Codemod.Pattern.Meaning
import Codemod.Pattern.Program
import Codemod.Pattern.Reader
import Codemod.Pattern.Search
import Codemod.Pattern.Tree
import Codemod.RelPath
import Codemod.Report
import Codemod.Rule
import Codemod.RuleSet
import Codemod.Starter
import Codemod.Template
import Codemod.Toml.Document
import Codemod.Toml.Item
import Codemod.Toml.Scalar
import Codemod.Toml.Shape
import Codemod.Tree
import Codemod.Tree.Change
import Codemod.Tree.Lookup
import Codemod.Utf8
import Codemod.Walk
import Codemod.Proofs.Apply
import Codemod.Proofs.Course
import Codemod.Proofs.Coverage
import Codemod.Proofs.Descent
import Codemod.Proofs.Discovery
import Codemod.Proofs.Edit
import Codemod.Proofs.Exactness
import Codemod.Proofs.Interleaving
import Codemod.Proofs.Lookup
import Codemod.Proofs.Order
import Codemod.Proofs.Parallel
import Codemod.Proofs.Rehearsal
import Codemod.Proofs.Report
import Codemod.Proofs.Run
import Codemod.Proofs.Selection
import Codemod.Proofs.Tree
import Codemod.Proofs.Undisturbed
import Codemod.Proofs.Utf8
import Codemod.Proofs.Walk
import Codemod.Proofs.Composition
import Codemod.Proofs.Canonical
import Codemod.Proofs.Exemption
import Codemod.Proofs.Json
import Codemod.Proofs.Records
import Codemod.Proofs.Rerun
import Codemod.Proofs.Fatal
import Codemod.Proofs.Listing
import Codemod.Proofs.Template
import Codemod.Proofs.Escape
import Codemod.Proofs.Search
import Codemod.Proofs.Literal
import Codemod.Proofs.Language
import Codemod.Proofs.Layout
import Codemod.Proofs.Preference
import Codemod.Proofs.Emptiness
import Codemod.Proofs.Replacement
import Codemod.Proofs.Quotation
import Codemod.Proofs.Idempotence
import Codemod.Proofs.NormalForm
import Codemod.Proofs.Unmatched
import Codemod.Proofs.Glob
import Codemod.Proofs.Construction
import Codemod.Proofs.Parts
import Codemod.Proofs.Location
import Codemod.Proofs.Spelling
import Codemod.Proofs.Filter
import Codemod.Proofs.Restriction
import Codemod.Proofs.SkipList
import Codemod.Proofs.Ignoring
import Codemod.Proofs.Decoding
import Codemod.Proofs.Grouping
import Codemod.Proofs.Sealing
import Codemod.Proofs.Writing
import Codemod.Proofs.Starter
import Codemod.Proofs.FilterSets
import Codemod.Proofs.Invocation
