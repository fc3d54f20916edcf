import Marginalia.AnnotatedSource
import Marginalia.Child
import Marginalia.Classification
import Marginalia.CommandLine
import Marginalia.CommandLine.Argument
import Marginalia.Event
import Marginalia.File.Path
import Marginalia.File.Tree
import Marginalia.Host
import Marginalia.Host.Action
import Marginalia.Host.Setup
import Marginalia.Json.Reader
import Marginalia.Json.Rounded
import Marginalia.Json.Value
import Marginalia.Json.Writer
import Marginalia.Listener
import Marginalia.Log.Record
import Marginalia.Log.Registry
import Marginalia.Log.Template
import Marginalia.LogicalLine
import Marginalia.Main
import Marginalia.Margin
import Marginalia.Marker
import Marginalia.Module.Name
import Marginalia.Module.Resolution
import Marginalia.Number.Binary64
import Marginalia.Number.Fixed
import Marginalia.Number.Numeral
import Marginalia.Number.Reading
import Marginalia.Number.Shortest
import Marginalia.Preparation.ChainBreak
import Marginalia.Preparation.ConsoleCall
import Marginalia.Preparation.Document
import Marginalia.Preparation.ImportDeclaration
import Marginalia.Preparation.RequireCall
import Marginalia.Run
import Marginalia.Run.Failure
import Marginalia.Run.Pipe
import Marginalia.Script.Description
import Marginalia.Script.Formatted
import Marginalia.Script.Inspection
import Marginalia.Script.Promises
import Marginalia.Script.Serialized
import Marginalia.Script.Value
import Marginalia.Session
import Marginalia.Settings
import Marginalia.Text.Blank
import Marginalia.Text.Category
import Marginalia.Text.CodeSet
import Marginalia.Text.DigitTable
import Marginalia.Text.IdentifierPartTable
import Marginalia.Text.IdentifierStartTable
import Marginalia.Text.Line
import Marginalia.Text.PrintableTable
import Marginalia.Text.Quoted
import Marginalia.Text.Scan
import Marginalia.Text.Units
import Marginalia.Text.Utf8
import Marginalia.Text.WordTable
import Marginalia.Version
import Marginalia.Wire.Command
import Marginalia.Wire.Message
import Marginalia.Wire.Report
import Marginalia.Proofs.Host.Draining
import Marginalia.Proofs.Margin.Lines
import Marginalia.Proofs.Margin.Listening
import Marginalia.Proofs.Preparation.Attribution
import Marginalia.Proofs.Preparation.LineDelta
import Marginalia.Proofs.Preparation.Quotations
import Marginalia.Proofs.Preparation.Stability
import Marginalia.Proofs.Preparation.JoinedChains
import Marginalia.Proofs.Preparation.Tagging
import Marginalia.Proofs.Run.Protocol
import Marginalia.Proofs.Session.Hosts
import Marginalia.Proofs.Session.Isolation
import Marginalia.Proofs.Host.Buffering
import Marginalia.Proofs.Host.Settling
import Marginalia.Proofs.Host.Provenance
import Marginalia.Proofs.Run.Classifying
import Marginalia.Proofs.Json.Numbers
import Marginalia.Proofs.Json.Quoting
import Marginalia.Proofs.Json.RoundTrip
import Marginalia.Proofs.Wire.Framing
import Marginalia.Proofs.Preparation.Numbering
import Marginalia.Proofs.Wire.Decoding
import Marginalia.Proofs.Host.Reports
import Marginalia.Proofs.Session.Past
import Marginalia.Proofs.Session.Submissions
import Marginalia.Proofs.Session.Failures
import Marginalia.Proofs.Session.GivenMargin
import Marginalia.Proofs.Preparation.LineFeeds
import Marginalia.Proofs.Run.Feeding
import Marginalia.Proofs.Classification.Uncaught
import Marginalia.Proofs.Classification.Tags
import Marginalia.Proofs.Preparation.ImportLayouts
import Marginalia.Proofs.Preparation.ImportSyntax
import Marginalia.Proofs.Margin.Placement
import Marginalia.Proofs.Classification.Agreement
import Marginalia.Proofs.Preparation.Arguments
import Marginalia.Proofs.Module.Origins
import Marginalia.Proofs.Preparation.TaggedLines
import Marginalia.Proofs.Child.Reading
import Marginalia.Proofs.Child.Lifetime
import Marginalia.Proofs.Host.Past
import Marginalia.Proofs.Host.Strays
import Marginalia.Proofs.CommandLine.Conduct
import Marginalia.Proofs.Session.Delivery
import Marginalia.Proofs.CommandLine.Statuses
import Marginalia.Proofs.Text.Breaks
