import CompileSession.Binary64
import CompileSession.CommandLine.Arguments
import CompileSession.CommandLine.Help
import CompileSession.CommandLine.Run
import CompileSession.Config.Basic
import CompileSession.Config.Decode
import CompileSession.Config.Defines
import CompileSession.Config.Encode
import CompileSession.Config.Store
import CompileSession.Engine.Call
import CompileSession.Engine.Error
import CompileSession.Files
import CompileSession.Host
import CompileSession.Inline.Declaration
import CompileSession.Inline.Generator
import CompileSession.Journal
import CompileSession.Log
import CompileSession.Main
import CompileSession.Memory
import CompileSession.Native.Binding
import CompileSession.Native.EntryPoint
import CompileSession.Native.Library
import CompileSession.Native.Process
import CompileSession.Path
import CompileSession.Program
import CompileSession.Session.Basic
import CompileSession.Session.Creation
import CompileSession.Session.Delivery
import CompileSession.Session.Dispatch
import CompileSession.Session.Ensemble
import CompileSession.Session.Roster
import CompileSession.Session.Schedule
import CompileSession.Status
import CompileSession.Text.Column
import CompileSession.Text.Hidden
import CompileSession.Text.Quoted
import CompileSession.Text.Utf8
import CompileSession.Toml.Document
import CompileSession.Toml.Number
import CompileSession.Toml.Parser
import CompileSession.Toml.Printer
import CompileSession.Toml.Quoted
import CompileSession.Toml.Value
import CompileSession.Proofs.Session.Moves
import CompileSession.Proofs.Session.Ledger
import CompileSession.Proofs.Session.Run
import CompileSession.Proofs.Session.Conservation
import CompileSession.Proofs.Session.Compiles
import CompileSession.Proofs.Session.Desk
import CompileSession.Proofs.Session.Serialization
import CompileSession.Proofs.Session.Outcomes
import CompileSession.Proofs.Native.Script
import CompileSession.Proofs.Native.Translation
import CompileSession.Proofs.Session.Execution
import CompileSession.Proofs.Program.Ending
import CompileSession.Proofs.Program.Alike
import CompileSession.Proofs.Program.Pumping
import CompileSession.Proofs.Program.Agreement
import CompileSession.Proofs.CommandLine.Async
import CompileSession.Proofs.Session.Counter
import CompileSession.Proofs.Session.Queue
import CompileSession.Proofs.Native.Collecting
import CompileSession.Proofs.Session.Works
import CompileSession.Proofs.Native.Diagnostics
import CompileSession.Proofs.Session.Prospects
import CompileSession.Proofs.Session.Forgetting
import CompileSession.Proofs.Session.Futures
import CompileSession.Proofs.Session.Congruence
import CompileSession.Proofs.Session.Isolation
import CompileSession.Proofs.Config.Definitions
import CompileSession.Proofs.CommandLine.Spelling
import CompileSession.Proofs.Program.Plan
import CompileSession.Proofs.CommandLine.Plan
import CompileSession.Proofs.Toml.Strings
import CompileSession.Proofs.Toml.Numbers
import CompileSession.Proofs.Toml.Lines
import CompileSession.Proofs.Toml.Tables
import CompileSession.Proofs.Files
import CompileSession.Proofs.Config.Decoding
import CompileSession.Proofs.Config.RoundTrip
import CompileSession.Proofs.Session.Delivering
import CompileSession.Proofs.Session.GivingUp
import CompileSession.Proofs.Session.Interruption
import CompileSession.Proofs.Session.BreadthFirst
import CompileSession.Proofs.Session.Configuring
import CompileSession.Proofs.Inline.Bindings
import CompileSession.Proofs.Text.Lines
import CompileSession.Proofs.Inline.Layout
import CompileSession.Proofs.Inline.Lifetime
import CompileSession.Proofs.Toml.WellFormed
import CompileSession.Proofs.Config.Fields
import CompileSession.Proofs.Native.Relocation
import CompileSession.Proofs.Native.Handles
import CompileSession.Proofs.Program.Lookups
import CompileSession.Proofs.CommandLine.Symbols
import CompileSession.Proofs.Session.Warnings
import CompileSession.Proofs.Native.Warnings
