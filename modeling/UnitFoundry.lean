import UnitFoundry.CommandLine.Arguments
import UnitFoundry.CommandLine.Paths
import UnitFoundry.CommandLine.Run
import UnitFoundry.Compile.Diagnostic
import UnitFoundry.Compile.Message
import UnitFoundry.Compile.Request
import UnitFoundry.Compile.Rustc
import UnitFoundry.Compile.Wat
import UnitFoundry.Config.Basic
import UnitFoundry.Config.Document
import UnitFoundry.Counting
import UnitFoundry.Decimal.Binary
import UnitFoundry.Decimal.Integer
import UnitFoundry.Decimal.Numeral
import UnitFoundry.Decimal.Shortest
import UnitFoundry.Emit.Dialect
import UnitFoundry.Emit.Guard
import UnitFoundry.Emit.Member
import UnitFoundry.Emit.Script
import UnitFoundry.Emit.Template
import UnitFoundry.Emit.Writer
import UnitFoundry.Engine.Basic
import UnitFoundry.Engine.Laws
import UnitFoundry.Engine.Texts
import UnitFoundry.Files.Basic
import UnitFoundry.Files.Path
import UnitFoundry.Files.Search
import UnitFoundry.Gateway.Basic
import UnitFoundry.Generator.Basic
import UnitFoundry.Json.Basic
import UnitFoundry.Json.Printer
import UnitFoundry.Json.Reader
import UnitFoundry.Main
import UnitFoundry.Outcome
import UnitFoundry.Program.Basic
import UnitFoundry.Program.Run
import UnitFoundry.Proofs.Lists
import UnitFoundry.Proofs.Text.Lines
import UnitFoundry.Proofs.Files.Leads
import UnitFoundry.Proofs.Files.Canonical
import UnitFoundry.Proofs.Files.Children
import UnitFoundry.Proofs.Files.WellFormed
import UnitFoundry.Proofs.Reference.Coherence
import UnitFoundry.Reference.Basic
import UnitFoundry.Reference.Handle
import UnitFoundry.Reference.Report
import UnitFoundry.Reference.Set
import UnitFoundry.Resolve.Closure
import UnitFoundry.Resolve.Inspector
import UnitFoundry.Resolve.Resolver
import UnitFoundry.Text.Alphanumeric
import UnitFoundry.Text.Blank
import UnitFoundry.Text.Digits
import UnitFoundry.Text.Lines
import UnitFoundry.Text.Printable
import UnitFoundry.Text.Quoted
import UnitFoundry.Toml.Number
import UnitFoundry.Toml.Reader
import UnitFoundry.Toml.Text
import UnitFoundry.Toml.Value
import UnitFoundry.Unit.Linking
import UnitFoundry.Unit.Loaded
import UnitFoundry.Wasm.Binary.Decode
import UnitFoundry.Wasm.Binary.Encode
import UnitFoundry.Wasm.Binary.Leb128
import UnitFoundry.Wasm.Bounds
import UnitFoundry.Wasm.Engine
import UnitFoundry.Wasm.Exec
import UnitFoundry.Wasm.Fault
import UnitFoundry.Wasm.Image
import UnitFoundry.Wasm.Linker
import UnitFoundry.Wasm.Module
import UnitFoundry.Wasm.Store
import UnitFoundry.Wasm.Text.Field
import UnitFoundry.Wasm.Text.Number
import UnitFoundry.Wasm.Text.Reader
import UnitFoundry.Wasm.Text.Sexp
import UnitFoundry.Wasm.Text.Token
import UnitFoundry.Wasm.Types
import UnitFoundry.Wasm.Validate
import UnitFoundry.Wasm.Wasi
import UnitFoundry.Proofs.Resolve.Chain
import UnitFoundry.Proofs.Resolve.Walk
import UnitFoundry.Proofs.Resolve.Baseline
import UnitFoundry.Proofs.Resolve.Layers
import UnitFoundry.Proofs.Resolve.BreadthFirst
import UnitFoundry.Proofs.Reference.Merge
import UnitFoundry.Proofs.Generator.Names
import UnitFoundry.Proofs.Linking.Gather
import UnitFoundry.Proofs.Linking.Graph
import UnitFoundry.Proofs.Wasm.Linker
import UnitFoundry.Proofs.Wasm.Execution
import UnitFoundry.Proofs.Wasm.Opening
import UnitFoundry.Proofs.Wasm.Instantiation
import UnitFoundry.Proofs.Wasm.Engine
import UnitFoundry.Proofs.Linking.Order
import UnitFoundry.Proofs.Linking.Soundness
import UnitFoundry.Proofs.Compile.Imports
import UnitFoundry.Proofs.Gateway.Agreement
import UnitFoundry.Proofs.Linking.Completeness
import UnitFoundry.Proofs.Linking.Relevance
import UnitFoundry.Proofs.Gateway.Relevance
import UnitFoundry.Proofs.Emit.Trees
import UnitFoundry.Proofs.Emit.Scripts
import UnitFoundry.Proofs.Emit.Delimiters
import UnitFoundry.Proofs.Emit.Layout
import UnitFoundry.Proofs.Resolve.Representation
import UnitFoundry.Proofs.Resolve.Inclusion
import UnitFoundry.Proofs.Emit.OpenBlocks
import UnitFoundry.Proofs.Emit.Guards
import UnitFoundry.Proofs.Generator.History
import UnitFoundry.Proofs.Wasm.Spelling
import UnitFoundry.Proofs.Wasm.Texts
import UnitFoundry.Proofs.Emit.ModuleScript
import UnitFoundry.Proofs.Unit.Members
import UnitFoundry.Proofs.Generator.Declared
import UnitFoundry.Proofs.Files.LeastMatch
import UnitFoundry.Proofs.Resolve.Visits
import UnitFoundry.Proofs.Compile.Report
import UnitFoundry.Proofs.Emit.Templates
import UnitFoundry.Proofs.Reference.Agreement
import UnitFoundry.Proofs.Compile.Directories
import UnitFoundry.Proofs.Generator.Permutation
import UnitFoundry.Proofs.Gateway.Failures
import UnitFoundry.Proofs.Json.Grammar
import UnitFoundry.Proofs.Json.Tokens
import UnitFoundry.Proofs.Json.Reading
import UnitFoundry.Proofs.Compile.Messages
import UnitFoundry.Proofs.Emit.Prototypes
import UnitFoundry.Proofs.Linking.Fallback
