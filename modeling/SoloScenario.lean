import SoloScenario.Command.Arguments
import SoloScenario.Command.Run
import SoloScenario.Command.Similar
import SoloScenario.Command.Usage
import SoloScenario.Document.Basic
import SoloScenario.Document.Settings
import SoloScenario.Files.Path
import SoloScenario.Files.Tree
import SoloScenario.Json.Reading
import SoloScenario.Json.Text
import SoloScenario.Log
import SoloScenario.Main
import SoloScenario.Markup.Fault
import SoloScenario.Markup.Lexeme
import SoloScenario.Markup.Load
import SoloScenario.Markup.Loader
import SoloScenario.Markup.Node
import SoloScenario.Markup.Scalar
import SoloScenario.Markup.Token
import SoloScenario.Number.Binary64
import SoloScenario.Number.Shortest
import SoloScenario.Proofs.Acceptance
import SoloScenario.Proofs.Alignment
import SoloScenario.Proofs.Clean
import SoloScenario.Proofs.CommandAgreement
import SoloScenario.Proofs.CommentLine
import SoloScenario.Proofs.Construction
import SoloScenario.Proofs.Delimiting
import SoloScenario.Proofs.Entries
import SoloScenario.Proofs.EnvelopeRuns
import SoloScenario.Proofs.Envelopes
import SoloScenario.Proofs.FileEffects
import SoloScenario.Proofs.FirstOffence
import SoloScenario.Proofs.FooterTime
import SoloScenario.Proofs.Invocation
import SoloScenario.Proofs.IssuePaths
import SoloScenario.Proofs.JsonFaithful
import SoloScenario.Proofs.JsonGrammar
import SoloScenario.Proofs.JsonRoundTrip
import SoloScenario.Proofs.JsonScalars
import SoloScenario.Proofs.JsonSpelling
import SoloScenario.Proofs.LetterCase
import SoloScenario.Proofs.LineBreaks
import SoloScenario.Proofs.LineCount
import SoloScenario.Proofs.LineStructure
import SoloScenario.Proofs.LoadedDocument
import SoloScenario.Proofs.NamedSource
import SoloScenario.Proofs.QuotedText
import SoloScenario.Proofs.ReadBack
import SoloScenario.Proofs.ReadingFiles
import SoloScenario.Proofs.RecordDisplay
import SoloScenario.Proofs.Redirection
import SoloScenario.Proofs.Respelling
import SoloScenario.Proofs.RunEnds
import SoloScenario.Proofs.ScalarText
import SoloScenario.Proofs.Separators
import SoloScenario.Proofs.SettledSettings
import SoloScenario.Proofs.Skeleton
import SoloScenario.Proofs.StepAccounts
import SoloScenario.Proofs.Steps
import SoloScenario.Proofs.TimeText
import SoloScenario.Proofs.TreeWrites
import SoloScenario.Proofs.TruthfulEnvelope
import SoloScenario.Proofs.WrittenRecord
import SoloScenario.Record.Basic
import SoloScenario.Record.Check
import SoloScenario.Record.File
import SoloScenario.Record.Load
import SoloScenario.Record.Printed
import SoloScenario.Report
import SoloScenario.Text.Blank
import SoloScenario.Text.Case
import SoloScenario.Text.Digits
import SoloScenario.Text.Lines
import SoloScenario.Text.Points
import SoloScenario.Text.Printable
import SoloScenario.Text.Quoted
import SoloScenario.Text.Utf8
import SoloScenario.Time.Pattern
import SoloScenario.Time.Reading
import SoloScenario.Time.Stamp
import SoloScenario.Value.Basic
import SoloScenario.Value.Display
