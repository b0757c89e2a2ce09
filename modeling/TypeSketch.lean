import TypeSketch.ArrayType
import TypeSketch.CommandLine.FileSystem
import TypeSketch.CommandLine.Invocation
import TypeSketch.CommandLine.Path
import TypeSketch.CommandLine.Run
import TypeSketch.Console.Cells
import TypeSketch.Console.Cursor
import TypeSketch.Console.Emoji
import TypeSketch.Console.EmojiTable
import TypeSketch.Console.Markup
import TypeSketch.Console.Notice
import TypeSketch.Convert
import TypeSketch.Datum.Admission
import TypeSketch.Datum.Basic
import TypeSketch.Datum.Display
import TypeSketch.Declaration
import TypeSketch.Entries
import TypeSketch.Generator
import TypeSketch.Json.Basic
import TypeSketch.Json.Fault
import TypeSketch.Json.NumberLiteral
import TypeSketch.Json.Primitive
import TypeSketch.Json.Reader
import TypeSketch.Json.StringLiteral
import TypeSketch.Main
import TypeSketch.Nesting
import TypeSketch.Number.Basic
import TypeSketch.Number.Binary64
import TypeSketch.Number.Shortest
import TypeSketch.Proofs.Conversion
import TypeSketch.Proofs.Expansion
import TypeSketch.Proofs.FreeName
import TypeSketch.Proofs.Identifier
import TypeSketch.Proofs.Inhabitants
import TypeSketch.Proofs.Outline
import TypeSketch.Proofs.References
import TypeSketch.Proofs.Reservation
import TypeSketch.Proofs.Shape
import TypeSketch.Proofs.TwoPasses
import TypeSketch.Proofs.TypeText
import TypeSketch.Proofs.Walk
import TypeSketch.PropertyName
import TypeSketch.Registry
import TypeSketch.Sample
import TypeSketch.Text.Alphabetic
import TypeSketch.Text.Ascii
import TypeSketch.Text.Blank
import TypeSketch.Text.CodePoint
import TypeSketch.Text.Fields
import TypeSketch.Text.LineEnd
import TypeSketch.Text.Printable
import TypeSketch.Text.Quoted
import TypeSketch.Text.Runs
import TypeSketch.Text.Utf8
import TypeSketch.TypeExpr
import TypeSketch.TypeName
import TypeSketch.Proofs.BuiltInNames
import TypeSketch.Proofs.Ledger
import TypeSketch.Proofs.DeclarationText
import TypeSketch.Proofs.OutputText
import TypeSketch.Proofs.Grammar
import TypeSketch.Proofs.ReadingNumbers
import TypeSketch.Proofs.Reading
import TypeSketch.Proofs.Content
import TypeSketch.Proofs.Writing
import TypeSketch.Proofs.Lockstep
import TypeSketch.Proofs.SameShape
import TypeSketch.Proofs.Surface
import TypeSketch.Proofs.CheckedWalk
import TypeSketch.Proofs.Failures
import TypeSketch.Proofs.StoredText
import TypeSketch.Proofs.LineEndReading
import TypeSketch.Proofs.LoneSurrogates
import TypeSketch.Proofs.Runs
import TypeSketch.Proofs.FailedRuns
import TypeSketch.Proofs.InputSources
import TypeSketch.Proofs.SuggestedNames
import TypeSketch.Proofs.FirstElements
import TypeSketch.Proofs.MixedArrays
import TypeSketch.Proofs.PropertyNameMeaning
import TypeSketch.Proofs.AppendedMember
import TypeSketch.Proofs.Interruption
import TypeSketch.Proofs.UnreadableInput
import TypeSketch.Proofs.Delivery
import TypeSketch.Proofs.UnfinishedTexts
import TypeSketch.Proofs.FaultPlaces
import TypeSketch.Proofs.DisplayedData
import TypeSketch.Proofs.Admission
import TypeSketch.Proofs.AdmittedNumbers
import TypeSketch.Proofs.Frames
import TypeSketch.Proofs.NestingLimit
import TypeSketch.Proofs.Inspection
import TypeSketch.Proofs.ForeignPlaces
