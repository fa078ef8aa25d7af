import NativeRecords.Command.Arguments
import NativeRecords.Command.FileTree
import NativeRecords.Command.Run
import NativeRecords.Failure
import NativeRecords.Generation
import NativeRecords.Json.Basic
import NativeRecords.Json.Reader
import NativeRecords.Json.Text
import NativeRecords.Main
import NativeRecords.Measure
import NativeRecords.Number.Binary64
import NativeRecords.Number.Notation
import NativeRecords.Number.Shortest
import NativeRecords.Path
import NativeRecords.RawValue
import NativeRecords.Schema.Build
import NativeRecords.Schema.Declaration
import NativeRecords.Schema.Order
import NativeRecords.Schema.Resolve
import NativeRecords.Schema.Type
import NativeRecords.Settings
import NativeRecords.Source.Declaration
import NativeRecords.Source.Descriptor
import NativeRecords.Source.Document
import NativeRecords.Source.Outline
import NativeRecords.Source.Profile
import NativeRecords.Source.Reader
import NativeRecords.Source.TypeExpr
import NativeRecords.Target.Backend
import NativeRecords.Target.Identifier
import NativeRecords.Target.Language
import NativeRecords.Target.Render
import NativeRecords.Target.Session
import NativeRecords.Text.Blank
import NativeRecords.Text.ControlSequence
import NativeRecords.Text.Printable
import NativeRecords.Text.Quoted
import NativeRecords.Text.Ranges
import NativeRecords.Text.Upper
import NativeRecords.Text.Word
import NativeRecords.Proofs.Mentions
import NativeRecords.Proofs.FirstOccurrences
import NativeRecords.Proofs.Order
import NativeRecords.Proofs.Classification
import NativeRecords.Proofs.References
import NativeRecords.Proofs.Agreement
import NativeRecords.Proofs.Backends
import NativeRecords.Proofs.Layout
import NativeRecords.Proofs.Sessions
import NativeRecords.Proofs.Grammar
import NativeRecords.Proofs.Expansion
import NativeRecords.Proofs.Shorthand
import NativeRecords.Proofs.Emission
import NativeRecords.Proofs.TypeTexts
import NativeRecords.Proofs.TextLiterals
import NativeRecords.Proofs.PostOrder
import NativeRecords.Proofs.Stability
import NativeRecords.Proofs.Resolution
import NativeRecords.Proofs.Nullability
import NativeRecords.Proofs.Stripping
import NativeRecords.Proofs.Optionality
import NativeRecords.Proofs.FirstCase
import NativeRecords.Proofs.Identifiers
import NativeRecords.Proofs.Numbering
import NativeRecords.Proofs.Rearrangement
import NativeRecords.Proofs.MissingParts
import NativeRecords.Proofs.Meanings
import NativeRecords.Proofs.Flattening
import NativeRecords.Proofs.EnumMembers
import NativeRecords.Proofs.RawValues
import NativeRecords.Proofs.Aliases
import NativeRecords.Proofs.OutputPaths
import NativeRecords.Proofs.Runs
import NativeRecords.Proofs.Overriding
import NativeRecords.Proofs.Rounds
