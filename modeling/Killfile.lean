import Killfile.CharSet
import Killfile.Client
import Killfile.CommandLine
import Killfile.Document
import Killfile.Failure
import Killfile.Feed
import Killfile.Feed.Decoding
import Killfile.Files
import Killfile.Http
import Killfile.Http.CodePage
import Killfile.Http.Status
import Killfile.Http.Text
import Killfile.Interval
import Killfile.Json
import Killfile.Json.Reader
import Killfile.KillSet
import Killfile.Log
import Killfile.Main
import Killfile.Matcher
import Killfile.Pass
import Killfile.Program
import Killfile.Proofs.Accounting
import Killfile.Proofs.Answers
import Killfile.Proofs.Cache
import Killfile.Proofs.CharSet
import Killfile.Proofs.Check
import Killfile.Proofs.Comparison
import Killfile.Proofs.Decoding
import Killfile.Proofs.Document
import Killfile.Proofs.Endings
import Killfile.Proofs.FirstPass
import Killfile.Proofs.IdleFeeds
import Killfile.Proofs.Insertion
import Killfile.Proofs.Interval
import Killfile.Proofs.Json.Grammar
import Killfile.Proofs.Json.Printing
import Killfile.Proofs.Json.Records
import Killfile.Proofs.Json.Texts
import Killfile.Proofs.KillSet
import Killfile.Proofs.Line
import Killfile.Proofs.Lines
import Killfile.Proofs.LivePass
import Killfile.Proofs.MatchLog
import Killfile.Proofs.Memory
import Killfile.Proofs.Options
import Killfile.Proofs.Pass
import Killfile.Proofs.PassLog
import Killfile.Proofs.Pieces
import Killfile.Proofs.Reading
import Killfile.Proofs.Regex.Choice
import Killfile.Proofs.Regex.Literal
import Killfile.Proofs.Regex.Search
import Killfile.Proofs.Regex.Turns
import Killfile.Proofs.Rendering
import Killfile.Proofs.Requests
import Killfile.Proofs.RuleSet
import Killfile.Proofs.Schedule
import Killfile.Proofs.SecondPass
import Killfile.Proofs.Selection
import Killfile.Proofs.Settings
import Killfile.Proofs.Simulation
import Killfile.Proofs.Terms
import Killfile.Proofs.Unanimity
import Killfile.Proofs.Uncompiled
import Killfile.Proofs.Unicode.Case
import Killfile.Proofs.Unicode.Normal
import Killfile.Proofs.Updates
import Killfile.Proofs.Url.Authority
import Killfile.Proofs.Url.Domain
import Killfile.Proofs.Url.Host
import Killfile.Proofs.Url.Ipv4
import Killfile.Proofs.Url.Ipv6
import Killfile.Proofs.Url.Path
import Killfile.Proofs.Url.Percent
import Killfile.Proofs.Url.Punycode
import Killfile.Proofs.Url.Web
import Killfile.Proofs.Utf8
import Killfile.Reader
import Killfile.Reader.Memory
import Killfile.Regex
import Killfile.Regex.Bracket
import Killfile.Regex.Escape
import Killfile.Regex.Meaning
import Killfile.Regex.Parse
import Killfile.Regex.Size
import Killfile.Regex.Syntax
import Killfile.Regex.Walk
import Killfile.Rule
import Killfile.Rule.Line
import Killfile.Rule.Selection
import Killfile.RuleSet
import Killfile.Schedule
import Killfile.Settings
import Killfile.Settings.File
import Killfile.Source
import Killfile.Task
import Killfile.Text.Blank
import Killfile.Text.Utf8
import Killfile.Timestamp
import Killfile.Toml
import Killfile.Toml.Reader
import Killfile.Toml.Scalar
import Killfile.Unicode.Ages
import Killfile.Unicode.BinaryProperties
import Killfile.Unicode.Breaks
import Killfile.Unicode.Case
import Killfile.Unicode.CaseTable
import Killfile.Unicode.Categories
import Killfile.Unicode.Direction
import Killfile.Unicode.DirectionTable
import Killfile.Unicode.DomainTable
import Killfile.Unicode.Normal
import Killfile.Unicode.NormalTable
import Killfile.Unicode.Property
import Killfile.Unicode.Scripts
import Killfile.Url
import Killfile.Url.Address
import Killfile.Url.Domain
import Killfile.Url.Percent
import Killfile.Url.Punycode
