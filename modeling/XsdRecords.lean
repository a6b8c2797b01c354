import XsdRecords.Main
import XsdRecords.Sample
import XsdRecords.Proofs.Declaration.Shape
import XsdRecords.Proofs.Generation.Extension
import XsdRecords.Proofs.Generation.Outcomes
import XsdRecords.Proofs.Generation.Fields
import XsdRecords.Proofs.Generation.Types
import XsdRecords.Proofs.Session.Ends
import XsdRecords.Proofs.Declaration.Edit
import XsdRecords.Proofs.Session.Edits
import XsdRecords.Proofs.Declaration.Walk
import XsdRecords.Proofs.Generation.Naming
import XsdRecords.Proofs.Layout.WellFormed
import XsdRecords.Proofs.Compilation.WellFormed
import XsdRecords.Proofs.Generation.Roots
import XsdRecords.Proofs.Compilation.Records
import XsdRecords.Proofs.Declaration.Fresh
import XsdRecords.Proofs.Session.Forest
import XsdRecords.Proofs.Session.OpenElements
import XsdRecords.Proofs.Session.OpenTypes
import XsdRecords.Proofs.Session.Start
import XsdRecords.Proofs.Session.Frames
import XsdRecords.Proofs.Session.Standing
import XsdRecords.Proofs.Session.Visits
import XsdRecords.Proofs.Session.Brackets
import XsdRecords.Proofs.Session.Reads
import XsdRecords.Proofs.Generation.DeclaredFields
import XsdRecords.Proofs.Session.ComplexType
import XsdRecords.Proofs.Session.SkippedContent
import XsdRecords.Proofs.Generation.Steps
import XsdRecords.Proofs.Generation.Termination
import XsdRecords.Proofs.Generation.Once
import XsdRecords.Proofs.Generation.Wrappers
import XsdRecords.Proofs.Generation.Reach
import XsdRecords.Proofs.Session.Pushes
import XsdRecords.Proofs.Session.Stacks
import XsdRecords.Proofs.Declaration.Lineage
import XsdRecords.Proofs.Declaration.Reference
import XsdRecords.Proofs.Generation.Passes
import XsdRecords.Proofs.Session.References
import XsdRecords.Proofs.Namespace.Registry
import XsdRecords.Proofs.Markup.Scoping
import XsdRecords.Proofs.Session.Effects
import XsdRecords.Proofs.Worklist
import XsdRecords.Proofs.Session.Resolution
import XsdRecords.Proofs.Session.Documents
import XsdRecords.Proofs.Session.Namings
import XsdRecords.Proofs.Session.Listing
import XsdRecords.Proofs.Markup.Values
import XsdRecords.Proofs.Compilation.Progress
import XsdRecords.Proofs.Compilation.Requests
import XsdRecords.Proofs.Compilation.Cycles
import XsdRecords.Proofs.Markup.Calls
import XsdRecords.Proofs.Session.Completeness
import XsdRecords.Proofs.Session.Prefixes
import XsdRecords.Proofs.Compilation.Again
import XsdRecords.Proofs.Diagnostic.Journal
import XsdRecords.Proofs.Session.Steady
import XsdRecords.Proofs.Session.Variants
import XsdRecords.Proofs.Generation.Journal
import XsdRecords.Proofs.Compilation.Diagnostics
import XsdRecords.Proofs.Markup.Places
import XsdRecords.Proofs.Session.Positions
import XsdRecords.Proofs.Compilation.Positions
import XsdRecords.Proofs.Compilation.Tolerance
import XsdRecords.Proofs.Markup.Locality
import XsdRecords.Proofs.Markup.TagPair
import XsdRecords.Proofs.Markup.Pairs
import XsdRecords.Proofs.Markup.Respelling
import XsdRecords.Proofs.Session.Pairs
import XsdRecords.Proofs.Compilation.Pairs
import XsdRecords.Proofs.Generation.Checks
import XsdRecords.Proofs.Generation.Occurrences
import XsdRecords.Proofs.Declaration.Valued
import XsdRecords.Proofs.Session.Grounded
import XsdRecords.Proofs.Session.Guards
import XsdRecords.Proofs.Generation.Guards
import XsdRecords.Proofs.Compilation.Guards
import XsdRecords.Proofs.Declaration.Given
import XsdRecords.Proofs.Session.Given
import XsdRecords.Proofs.Session.Traced
import XsdRecords.Proofs.Session.DefaultValues
import XsdRecords.Proofs.Session.Bounds
import XsdRecords.Proofs.Compilation.Visited
import XsdRecords.Proofs.Compilation.DefaultValues
import XsdRecords.Proofs.Compilation.Bounds
import XsdRecords.Proofs.Text.Bytes
import XsdRecords.Proofs.Layout.Enumerators
import XsdRecords.Proofs.Declaration.Enumerators
import XsdRecords.Proofs.Session.Collected
import XsdRecords.Proofs.Generation.Enumerations
import XsdRecords.Proofs.Compilation.Enumerations
import XsdRecords.Proofs.Markup.Renaming
import XsdRecords.Proofs.Session.Renaming
import XsdRecords.Proofs.Session.Disguise
import XsdRecords.Proofs.Session.RenamedReading
import XsdRecords.Proofs.Generation.Echoes
import XsdRecords.Proofs.Compilation.Renaming
import XsdRecords.Proofs.Declaration.Typing
import XsdRecords.Proofs.Session.Typings
import XsdRecords.Proofs.Session.Sources
import XsdRecords.Proofs.Session.TopLevel
import XsdRecords.Proofs.Session.Choices
import XsdRecords.Proofs.Compilation.Choices
import XsdRecords.Proofs.Session.Completions
import XsdRecords.Proofs.Session.Support
import XsdRecords.Proofs.Compilation.Attributes
import XsdRecords.Proofs.Namespace.Numbers
import XsdRecords.Proofs.Layout.Histories
import XsdRecords.Proofs.Markup.Pieces
import XsdRecords.Proofs.Calendar.Offset
import XsdRecords.Proofs.Calendar.Scanning
import XsdRecords.Proofs.Layout.DefaultValues
import XsdRecords.Proofs.Declaration.CutOff
import XsdRecords.Proofs.Number.Digits
import XsdRecords.Proofs.Calendar.Rendering
import XsdRecords.Proofs.Declaration.Builtins
import XsdRecords.Proofs.Session.Builtins
import XsdRecords.Proofs.Session.Kept
import XsdRecords.Proofs.Compilation.Builtins
import XsdRecords.Proofs.Session.Bases
import XsdRecords.Proofs.Session.Redefinition
import XsdRecords.Proofs.Compilation.Redefinition
import XsdRecords.Proofs.Vocabulary.Lookup
import XsdRecords.Proofs.Calendar.Checked
import XsdRecords.Proofs.Declaration.Intact
import XsdRecords.Proofs.Session.Intact
import XsdRecords.Proofs.Compilation.Tables
import XsdRecords.Proofs.Session.Halfway
import XsdRecords.Proofs.Compilation.Permutation
import XsdRecords.Proofs.Compilation.SkippedContent
