import CodingAgent.Json.Value
import CodingAgent.Json.Reader
import CodingAgent.Json.Bytes
import CodingAgent.Json.Equal
import CodingAgent.Json.Writer
import CodingAgent.Decimal.Binary
import CodingAgent.Decimal.Shortest
import CodingAgent.Decimal.Layout
import CodingAgent.Text.Ranges
import CodingAgent.Text.Combining
import CodingAgent.Text.CanonicalTable
import CodingAgent.Text.Normal
import CodingAgent.Text.Bidi
import CodingAgent.Text.Wide
import CodingAgent.Text.Word
import CodingAgent.Text.Printable
import CodingAgent.Text.Search
import CodingAgent.Text.Cased
import CodingAgent.Text.Digit
import CodingAgent.Text.LowerTable
import CodingAgent.Text.Case
import CodingAgent.Text.Blank
import CodingAgent.Text.CodePoints
import CodingAgent.Text.Encode
import CodingAgent.Text.Numeral
import CodingAgent.Json.Display
import CodingAgent.Json.Coerce
import CodingAgent.Conversation.ToolCall
import CodingAgent.Conversation.Message
import CodingAgent.Context.Estimate
import CodingAgent.Context.Truncate
import CodingAgent.Json.Shape
import CodingAgent.Json.Order
import CodingAgent.Json.Sort
import CodingAgent.Conversation.Ids
import CodingAgent.Stream.Chunk
import CodingAgent.Stream.Delta
import CodingAgent.Stream.Aggregator
import CodingAgent.Recovery.Sanitize
import CodingAgent.Recovery.Tagged
import CodingAgent.Recovery.Inline
import CodingAgent.Recovery.Signature
import CodingAgent.Recovery.Heuristics
import CodingAgent.Decimal.Literal
import CodingAgent.Settings.Schema
import CodingAgent.Settings.Options
import CodingAgent.Json.Lax
import CodingAgent.Settings.Read
import CodingAgent.Yaml.Error
import CodingAgent.Yaml.TextFile
import CodingAgent.Yaml.Reader
import CodingAgent.Yaml.Token
import CodingAgent.Yaml.Scanner
import CodingAgent.Yaml.Parser
import CodingAgent.Yaml.Resolve
import CodingAgent.Yaml.Compose
import CodingAgent.Yaml.Convert
import CodingAgent.Yaml.SetOrder
import CodingAgent.Yaml.Construct
import CodingAgent.Yaml.Document
import CodingAgent.Settings.Load
import CodingAgent.Model.Failure
import CodingAgent.Agent.Counters
import CodingAgent.Tool.Result
import CodingAgent.Tool.Size
import CodingAgent.Stream.Completion
import CodingAgent.Context.Condense
import CodingAgent.Text.Utf8
import CodingAgent.Text.Base64
import CodingAgent.Workspace.Files
import CodingAgent.Workspace.Workspace
import CodingAgent.Workspace.Setup
import CodingAgent.Text.Lines
import CodingAgent.Tool.Tool
import CodingAgent.Tool.FileTools
import CodingAgent.Tool.Listing
import CodingAgent.Tool.Catalog
import CodingAgent.Tool.Scripted
import CodingAgent.Tool.Registry
import CodingAgent.Tool.Spec
import CodingAgent.Model.Stream
import CodingAgent.Model.Http
import CodingAgent.Web.Punycode
import CodingAgent.Web.IdnaTable
import CodingAgent.Web.Idna
import CodingAgent.Web.Url
import CodingAgent.Json.Report
import CodingAgent.Model.Scripted
import CodingAgent.Agent.Step
import CodingAgent.Agent.Session
import CodingAgent.Agent.Loop
import CodingAgent.Proofs.Wp
import CodingAgent.Proofs.LoopRules
import CodingAgent.Proofs.Transcript
import CodingAgent.Proofs.Conversation
import CodingAgent.Proofs.Opening
import CodingAgent.Proofs.ToolPairing
import CodingAgent.Proofs.DuplicateCalls
import CodingAgent.Proofs.ToolNames
import CodingAgent.Proofs.Limits
import CodingAgent.Proofs.Replace
import CodingAgent.Proofs.FileWrites
import CodingAgent.Proofs.FileChanges
import CodingAgent.Proofs.Dispatch
import CodingAgent.Proofs.StreamRelease
import CodingAgent.Proofs.ReadingRoom
import CodingAgent.Proofs.StreamAgreement
import CodingAgent.Proofs.StreamEnd
import CodingAgent.Proofs.Confinement
import CodingAgent.Proofs.BudgetFit
import CodingAgent.Proofs.LineFaults
import CodingAgent.Proofs.Retries
import CodingAgent.Proofs.MistakeStreak
import CodingAgent.Proofs.ReplyText
import CodingAgent.Proofs.CleanValues
import CodingAgent.Proofs.Signatures
import CodingAgent.Proofs.Cancellation
import CodingAgent.Proofs.TaggedFormat
import CodingAgent.Proofs.LineWindows
import CodingAgent.Proofs.PlainWalks
import CodingAgent.Proofs.ListingCap
import CodingAgent.Proofs.ListingScope
import CodingAgent.Proofs.RegistryLaws
import CodingAgent.Proofs.FloatBits
import CodingAgent.Proofs.NearestDouble
import CodingAgent.Proofs.FloatOps
import CodingAgent.Proofs.SizeUnits
import CodingAgent.Proofs.ShortestDecimal
import CodingAgent.Proofs.NumberText
import CodingAgent.Proofs.StringText
import CodingAgent.Proofs.ValueText
import CodingAgent.Proofs.ArgumentText
import CodingAgent.Proofs.InlineObjects
