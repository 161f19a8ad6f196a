import LuaSession.Bridge.Basic
import LuaSession.Bridge.Client
import LuaSession.Capture
import LuaSession.CommandLine.Arguments
import LuaSession.CommandLine.Run
import LuaSession.CommandLine.Similarity
import LuaSession.CommandLine.World
import LuaSession.Config.Document
import LuaSession.Config.Load
import LuaSession.Config.Settings
import LuaSession.Json.Basic
import LuaSession.Json.Printer
import LuaSession.Json.Reader
import LuaSession.Log.Event
import LuaSession.Log.Filter
import LuaSession.Lua.Arguments
import LuaSession.Lua.Arithmetic
import LuaSession.Lua.Builtin
import LuaSession.Lua.Bytes
import LuaSession.Lua.Eval
import LuaSession.Lua.Exchange
import LuaSession.Lua.Library
import LuaSession.Lua.Library.Basics
import LuaSession.Lua.Library.Codepoints
import LuaSession.Lua.Library.Coroutines
import LuaSession.Lua.Library.Files
import LuaSession.Lua.Library.Format
import LuaSession.Lua.Library.Host
import LuaSession.Lua.Library.Maths
import LuaSession.Lua.Library.Pack
import LuaSession.Lua.Library.Strings
import LuaSession.Lua.Library.System
import LuaSession.Lua.Library.Tables
import LuaSession.Lua.Machine
import LuaSession.Lua.Match
import LuaSession.Lua.Numeral
import LuaSession.Lua.Operators
import LuaSession.Lua.Random
import LuaSession.Lua.Reader
import LuaSession.Lua.Run
import LuaSession.Lua.Scope
import LuaSession.Lua.Syntax
import LuaSession.Lua.Table
import LuaSession.Lua.Task
import LuaSession.Lua.Token
import LuaSession.Lua.Value
import LuaSession.Main
import LuaSession.Number.Binary
import LuaSession.Number.Decimal
import LuaSession.Number.Digits
import LuaSession.Pattern.Basic
import LuaSession.Pattern.Matching
import LuaSession.Pattern.Program
import LuaSession.Pattern.Reader
import LuaSession.Pattern.Regex
import LuaSession.Pattern.Report
import LuaSession.Pattern.Syntax
import LuaSession.Pattern.Weight
import LuaSession.Search.Embedded
import LuaSession.Search.Hit
import LuaSession.Search.Line
import LuaSession.Search.Section
import LuaSession.Service.Dispatch
import LuaSession.Service.Server
import LuaSession.Service.World
import LuaSession.Session.Basic
import LuaSession.Session.Evaluation
import LuaSession.Storage.Path
import LuaSession.Storage.Tree
import LuaSession.Stream.Ports
import LuaSession.Stream.Transport
import LuaSession.Text.Blank
import LuaSession.Text.Chunk
import LuaSession.Text.Lines
import LuaSession.Text.Quoted
import LuaSession.Text.Utf8
import LuaSession.Toml.Document
import LuaSession.Toml.Reader
import LuaSession.Toml.Report
import LuaSession.Toml.Scan
import LuaSession.Unicode.Category
import LuaSession.Unicode.Classes
import LuaSession.Unicode.Fold
import LuaSession.Unicode.Property
import LuaSession.Unicode.Ranges
import LuaSession.Unicode.Script
import LuaSession.Wire.Envelope
import LuaSession.Wire.Error
import LuaSession.Proofs.Correspondence
import LuaSession.Proofs.Lua.Policy
import LuaSession.Proofs.Lua.Policy.Evaluation
import LuaSession.Proofs.Lua.Policy.Host
import LuaSession.Proofs.Lua.Policy.Machine
import LuaSession.Proofs.Lua.Policy.Run
import LuaSession.Proofs.Service.Accounting
import LuaSession.Proofs.Json.RoundTrip
import LuaSession.Proofs.Lua.Events
import LuaSession.Proofs.Service.Host
import LuaSession.Proofs.Session.Events
import LuaSession.Proofs.Lua.Table
import LuaSession.Proofs.Service.Output
import LuaSession.Proofs.Session.Bindings
import LuaSession.Proofs.Bridge.Calls
import LuaSession.Proofs.Json.Canonical
import LuaSession.Proofs.Json.Grammar
import LuaSession.Proofs.Service.Failure
import LuaSession.Proofs.Service.Forgetting
import LuaSession.Proofs.Service.Verdict
import LuaSession.Proofs.Capture
import LuaSession.Proofs.Capture.Guards
import LuaSession.Proofs.Config.Layers
import LuaSession.Proofs.Config.Documents
import LuaSession.Proofs.Service.Context
import LuaSession.Proofs.Service.Observing
import LuaSession.Proofs.Capture.Ledger
import LuaSession.Proofs.Lua.Contents
import LuaSession.Proofs.Session.Renewal
import LuaSession.Proofs.Service.Renewal
import LuaSession.Proofs.Text.Chunks
import LuaSession.Proofs.Search.Hits
import LuaSession.Proofs.Search.Sections
import LuaSession.Proofs.Search.Embedded
import LuaSession.Proofs.Text.Lines
import LuaSession.Proofs.Search.Lines
import LuaSession.Proofs.Text.Decoding
import LuaSession.Proofs.Stream.Decoded
import LuaSession.Proofs.Lua.Exchange
import LuaSession.Proofs.Service.Extracting
import LuaSession.Proofs.Search.SectionLines
import LuaSession.Proofs.Service.Parameters
import LuaSession.Proofs.Wire.Replies
import LuaSession.Proofs.Service.Batches
import LuaSession.Proofs.Service.Completeness
import LuaSession.Proofs.Config.Merging
import LuaSession.Proofs.Json.Figures
import LuaSession.Proofs.Json.Integers
import LuaSession.Proofs.Json.Members
import LuaSession.Proofs.Lua.NonFinite
import LuaSession.Proofs.Service.Echoing
import LuaSession.Proofs.Json.Significant
import LuaSession.Proofs.Number.Shortest
