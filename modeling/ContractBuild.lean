import ContractBuild.Artifact
import ContractBuild.Binary64.Basic
import ContractBuild.Binary64.Shortest
import ContractBuild.Cargo.Basic
import ContractBuild.Cargo.Build
import ContractBuild.Cargo.Failure
import ContractBuild.Cargo.Pump
import ContractBuild.Cargo.Schedule
import ContractBuild.Cargo.Version
import ContractBuild.CommandLine.Action
import ContractBuild.CommandLine.Arguments
import ContractBuild.CommandLine.Run
import ContractBuild.CommandLine.Usage
import ContractBuild.Diagnostic.Basic
import ContractBuild.Diagnostic.ByFile
import ContractBuild.Diagnostic.Documentation
import ContractBuild.Diagnostic.Extract
import ContractBuild.Disk
import ContractBuild.Encoding.Decoder
import ContractBuild.Encoding.Utf16
import ContractBuild.Encoding.Utf8
import ContractBuild.Json.Parser
import ContractBuild.Json.Printer
import ContractBuild.LineBuffer
import ContractBuild.Log
import ContractBuild.Log.Line
import ContractBuild.Log.Setup
import ContractBuild.Machine
import ContractBuild.Main
import ContractBuild.Message
import ContractBuild.Outcome
import ContractBuild.Path
import ContractBuild.Program
import ContractBuild.Project
import ContractBuild.Proofs.Affixes
import ContractBuild.Proofs.AlignedTables
import ContractBuild.Proofs.Announcements
import ContractBuild.Proofs.Arguments
import ContractBuild.Proofs.Arrivals
import ContractBuild.Proofs.Batch
import ContractBuild.Proofs.Blocks
import ContractBuild.Proofs.ByFile
import ContractBuild.Proofs.Complaints
import ContractBuild.Proofs.Completion
import ContractBuild.Proofs.Decimals
import ContractBuild.Proofs.DiagnosticCodes
import ContractBuild.Proofs.Documents
import ContractBuild.Proofs.Entries
import ContractBuild.Proofs.ExitStatus
import ContractBuild.Proofs.Findings
import ContractBuild.Proofs.FirstSeen
import ContractBuild.Proofs.HeldBack
import ContractBuild.Proofs.Hints
import ContractBuild.Proofs.Json.Expressible
import ContractBuild.Proofs.Json.Float
import ContractBuild.Proofs.Json.OneLine
import ContractBuild.Proofs.Json.Parsed
import ContractBuild.Proofs.Json.Quoted
import ContractBuild.Proofs.Json.RoundTrip
import ContractBuild.Proofs.Json.Scalar
import ContractBuild.Proofs.KeyPaths
import ContractBuild.Proofs.LastAnnouncement
import ContractBuild.Proofs.Lines
import ContractBuild.Proofs.LiveOutput
import ContractBuild.Proofs.Locations
import ContractBuild.Proofs.Markup.Reading
import ContractBuild.Proofs.Markup.Symbols
import ContractBuild.Proofs.Markup.Tags
import ContractBuild.Proofs.NormalForms
import ContractBuild.Proofs.NullSections
import ContractBuild.Proofs.Operations
import ContractBuild.Proofs.Origins
import ContractBuild.Proofs.Outputs
import ContractBuild.Proofs.OverlaidSettings
import ContractBuild.Proofs.Paths
import ContractBuild.Proofs.Presentation
import ContractBuild.Proofs.PublishedFiles
import ContractBuild.Proofs.ReadSizes
import ContractBuild.Proofs.RelativePaths
import ContractBuild.Proofs.Schedules
import ContractBuild.Proofs.Searches
import ContractBuild.Proofs.SettingsFile
import ContractBuild.Proofs.SpanDiagnostics
import ContractBuild.Proofs.SpanRanges
import ContractBuild.Proofs.StatusTexts
import ContractBuild.Proofs.StoppedStatus
import ContractBuild.Proofs.Surrogates
import ContractBuild.Proofs.Utf8
import ContractBuild.Proofs.Verbatim
import ContractBuild.Proofs.Wire
import ContractBuild.Report
import ContractBuild.Screen.Boxed
import ContractBuild.Screen.Call
import ContractBuild.Screen.Choice
import ContractBuild.Screen.Logged
import ContractBuild.Screen.Markup
import ContractBuild.Screen.Output
import ContractBuild.Screen.Plain
import ContractBuild.Session.Basic
import ContractBuild.Session.Findings
import ContractBuild.Session.Phase
import ContractBuild.Settings.Error
import ContractBuild.Settings.File
import ContractBuild.Settings.Integer
import ContractBuild.Settings.Overlay
import ContractBuild.Settings.Paths
import ContractBuild.Settings.Template
import ContractBuild.Sink.Call
import ContractBuild.Sink.Logged
import ContractBuild.Sink.Progress
import ContractBuild.SystemError
import ContractBuild.Text.Basic
import ContractBuild.Text.Case
import ContractBuild.Text.CaseRanges
import ContractBuild.Text.Colour
import ContractBuild.Text.PrintableRanges
import ContractBuild.Text.Quoted
import ContractBuild.Text.Ranges
import ContractBuild.Text.Space
import ContractBuild.Text.Width
import ContractBuild.Text.WidthRanges
import ContractBuild.Text.Word
import ContractBuild.Text.WordRanges
import ContractBuild.Toolchain
import ContractBuild.Value.Basic
import ContractBuild.Value.Display
import ContractBuild.Yaml.Cursor
import ContractBuild.Yaml.Node
import ContractBuild.Yaml.Plain
import ContractBuild.Yaml.Reader
import ContractBuild.Yaml.Scalar
import ContractBuild.Yaml.Token
