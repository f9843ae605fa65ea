import Schemata.Build
import Schemata.Bundle
import Schemata.CommandLine.Arguments
import Schemata.CommandLine.Grammar
import Schemata.CommandLine.Help
import Schemata.CommandLine.Running
import Schemata.Compiled
import Schemata.Composition
import Schemata.Digest.Fingerprint
import Schemata.Digest.Sha256
import Schemata.Discovery
import Schemata.Engine
import Schemata.Entries
import Schemata.Failure
import Schemata.Files.Path
import Schemata.Files.Tree
import Schemata.Format.Guard
import Schemata.Format.Guarded
import Schemata.Format.Onset
import Schemata.Json.Cursor
import Schemata.Json.Likeness
import Schemata.Json.Numeral
import Schemata.Json.Overlay
import Schemata.Json.Pointer
import Schemata.Json.Printer
import Schemata.Json.Reader
import Schemata.Json.Value
import Schemata.JsonSchema.Address
import Schemata.JsonSchema.Compilation
import Schemata.JsonSchema.Draft
import Schemata.JsonSchema.Evaluation
import Schemata.JsonSchema.Format
import Schemata.JsonSchema.Scope
import Schemata.JsonSchema.Shape
import Schemata.JsonSchema.Standard
import Schemata.JsonSchema.Uri
import Schemata.JsonSchema.UriReference
import Schemata.JsonSchema.Validator
import Schemata.JsonSchema.Violation
import Schemata.Keyword
import Schemata.Ledger
import Schemata.Main
import Schemata.Number.Binary64
import Schemata.Number.Decimal
import Schemata.Number.Shortest
import Schemata.Pattern.Basic
import Schemata.Pattern.Brackets
import Schemata.Pattern.Ecma
import Schemata.Pattern.EcmaNode
import Schemata.Pattern.Escape
import Schemata.Pattern.Fault
import Schemata.Pattern.Footprint
import Schemata.Pattern.Matching
import Schemata.Pattern.Meaning
import Schemata.Pattern.Node
import Schemata.Pattern.Reader
import Schemata.Pattern.Refusal
import Schemata.Pattern.Scan
import Schemata.Registry
import Schemata.Schema
import Schemata.Settings
import Schemata.Settings.Document
import Schemata.Settings.Environment
import Schemata.Settings.Item
import Schemata.Settings.Layers
import Schemata.Settings.Loading
import Schemata.Settings.Reading
import Schemata.Settings.Written
import Schemata.Text.Fuzzy
import Schemata.Text.Quoted
import Schemata.Text.Words
import Schemata.Toml.Reader
import Schemata.Toml.Scalar
import Schemata.Toml.Scan
import Schemata.Toml.Tree
import Schemata.Toml.Writer
import Schemata.Unicode.Age
import Schemata.Unicode.BinaryProperty
import Schemata.Unicode.CaseFold
import Schemata.Unicode.CaseMap
import Schemata.Unicode.GeneralCategory
import Schemata.Unicode.LowerText
import Schemata.Unicode.PropertyName
import Schemata.Unicode.Runs
import Schemata.Unicode.Script
import Schemata.Unicode.SegmentBreak
import Schemata.Unicode.TextClasses
import Schemata.Proofs.EntryOrder
import Schemata.Proofs.Outcomes
import Schemata.Proofs.Ledger.Tidy
import Schemata.Proofs.Registry.Histories
import Schemata.Proofs.Registry.Resolution
import Schemata.Proofs.Registry.Views
import Schemata.Proofs.Registry.Registration
import Schemata.Proofs.Registry.Upkeep
import Schemata.Proofs.Registry.LinkLog
import Schemata.Proofs.Registry.RegistrationOrder
import Schemata.Proofs.Registry.CacheTransparency
import Schemata.Proofs.Bundle.Keys
import Schemata.Proofs.Bundle.References
import Schemata.Proofs.Bundle.Bundled
import Schemata.Proofs.Json.Overlay
import Schemata.Proofs.Json.Reading
import Schemata.Proofs.Registry.Identity
import Schemata.Proofs.Registry.RoundTrip
import Schemata.Proofs.Composition
import Schemata.Proofs.Registry.PatchCycles
import Schemata.Proofs.Bundle.Turned
import Schemata.Proofs.Bundle.Pointees
import Schemata.Proofs.Bundle.SelfContained
import Schemata.Proofs.Keyword.Expansion
import Schemata.Proofs.Preparation
import Schemata.Proofs.Pattern.Derivation
import Schemata.Proofs.Pattern.Unambiguous
import Schemata.Proofs.Pattern.Ambiguity
import Schemata.Proofs.Format.Onset
import Schemata.Proofs.Format.Outline
import Schemata.Proofs.Format.Guarded
import Schemata.Proofs.Pattern.Placement
import Schemata.Proofs.Pattern.Spans
import Schemata.Proofs.Pattern.Counts
import Schemata.Proofs.Format.Coherent
import Schemata.Proofs.Format.Cases
import Schemata.Proofs.Format.Rules
import Schemata.Proofs.Format.Harmless
import Schemata.Proofs.Registry.InPlace
import Schemata.Proofs.Bundle.Completion
import Schemata.Proofs.Keyword.Handed
import Schemata.Proofs.Keyword.PropertyNames
import Schemata.Proofs.Registry.Locality
import Schemata.Proofs.Registry.Addressing
import Schemata.Proofs.Keyword.Spent
import Schemata.Proofs.Discovery.Admission
import Schemata.Proofs.Keyword.Names
import Schemata.Proofs.Bundle.Data
import Schemata.Proofs.Bundle.Apart
import Schemata.Proofs.Unicode.CodeRanges
import Schemata.Proofs.Unicode.Mappings
import Schemata.Proofs.Unicode.CaseFold
import Schemata.Proofs.Unicode.LowerText
import Schemata.Proofs.Files.Writing
import Schemata.Proofs.Toml.Strings
import Schemata.Proofs.Toml.Values
import Schemata.Proofs.Toml.Lines
import Schemata.Proofs.Settings.Written
import Schemata.Proofs.Settings.Layers
import Schemata.Proofs.Settings.RoundTrip
import Schemata.Proofs.Bundle.Settled
import Schemata.Proofs.Bundle.PropertyNames
import Schemata.Proofs.Json.Steps
import Schemata.Proofs.Keyword.Complete
import Schemata.Proofs.Keyword.Constraints
import Schemata.Proofs.Registry.SharedSettings
import Schemata.Proofs.Bundle.AssignedKeys
import Schemata.Proofs.Merging
import Schemata.Proofs.Json.Readable
import Schemata.Proofs.Digest.CompilationBytes
import Schemata.Proofs.Ledger.Queues
