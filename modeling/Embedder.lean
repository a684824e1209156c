import Embedder.Binding
import Embedder.CInterface
import Embedder.CString
import Embedder.Config
import Embedder.Config.Environment
import Embedder.Config.Json
import Embedder.Exception
import Embedder.Failure
import Embedder.Guest
import Embedder.Handle
import Embedder.Handle.Object
import Embedder.Host
import Embedder.Interpreter
import Embedder.Invoke
import Embedder.Json.Fault
import Embedder.Json.Printer
import Embedder.Json.Reader
import Embedder.LastError
import Embedder.Log
import Embedder.Machine.Arity
import Embedder.Machine.Assignment
import Embedder.Machine.Attribute
import Embedder.Machine.Boot
import Embedder.Machine.Build
import Embedder.Machine.BuiltinCall
import Embedder.Machine.Call
import Embedder.Machine.Class
import Embedder.Machine.ClassCall
import Embedder.Machine.Codec
import Embedder.Machine.Collect
import Embedder.Machine.Compare
import Embedder.Machine.Convert
import Embedder.Machine.Docs
import Embedder.Machine.Error
import Embedder.Machine.Evaluate
import Embedder.Machine.Folder
import Embedder.Machine.FunctionTexts
import Embedder.Machine.Hashing
import Embedder.Machine.Import
import Embedder.Machine.Interpreter
import Embedder.Machine.Iteration
import Embedder.Machine.Layout
import Embedder.Machine.Library
import Embedder.Machine.Loading
import Embedder.Machine.MathCall
import Embedder.Machine.MemberTexts
import Embedder.Machine.Members
import Embedder.Machine.ModuleBody
import Embedder.Machine.ModuleSpec
import Embedder.Machine.ModuleTable
import Embedder.Machine.ModuleText
import Embedder.Machine.Namespace
import Embedder.Machine.Number
import Embedder.Machine.Operator
import Embedder.Machine.PathSearch
import Embedder.Machine.Pipeline
import Embedder.Machine.Printing
import Embedder.Machine.Program
import Embedder.Machine.Release
import Embedder.Machine.Run
import Embedder.Machine.Script
import Embedder.Machine.Shutdown
import Embedder.Machine.Sorting
import Embedder.Machine.StandIn
import Embedder.Machine.Subscript
import Embedder.Machine.Suggest
import Embedder.Machine.SystemCall
import Embedder.Machine.Table
import Embedder.Machine.Text
import Embedder.Machine.TraceText
import Embedder.Machine.World
import Embedder.Module
import Embedder.Number.Double
import Embedder.Number.Power
import Embedder.Number.Shortest
import Embedder.Registry
import Embedder.Scalar
import Embedder.Scenario
import Embedder.Scenario.HandleStep
import Embedder.Scenario.InterfaceCall
import Embedder.Scenario.Number
import Embedder.Scenario.Reply
import Embedder.Scenario.Request
import Embedder.Scenario.Setup
import Embedder.Sequence
import Embedder.Session
import Embedder.Text.Blank
import Embedder.Text.Digits
import Embedder.Text.Name
import Embedder.Text.NameTable
import Embedder.Text.Printable
import Embedder.Text.Quoted
import Embedder.Text.Utf8
import Embedder.Walk
import Embedder.Proofs.Conduct
import Embedder.Proofs.Conduct.Exception
import Embedder.Proofs.Conduct.Session
import Embedder.Proofs.Balance
import Embedder.Proofs.Conduct.Books
import Embedder.Proofs.Process
import Embedder.Proofs.Conduct.Operation
import Embedder.Proofs.Station
import Embedder.Proofs.Moves
import Embedder.Proofs.Lifecycle
import Embedder.Proofs.BindingIds
import Embedder.Proofs.Willing
import Embedder.Proofs.Shares
import Embedder.Proofs.Transfers
import Embedder.Proofs.Watched
import Embedder.Proofs.Custody
import Embedder.Proofs.KeptReferences
import Embedder.Proofs.Trait
import Embedder.Proofs.Trait.Session
import Embedder.Proofs.Trait.Books
import Embedder.Proofs.Likeness
import Embedder.Proofs.InterfaceRefinement
import Embedder.Proofs.Shelves
import Embedder.Proofs.Gate
import Embedder.Proofs.FatalFailures
import Embedder.Proofs.SpareReferences
import Embedder.Proofs.CallPaths
import Embedder.Proofs.RegisteredCalls
import Embedder.Proofs.References
import Embedder.Proofs.HandleSessions
import Embedder.Proofs.Partings
import Embedder.Proofs.HandleAccounts
import Embedder.Proofs.Answers
import Embedder.Proofs.Trait.Operation
import Embedder.Proofs.Raises
import Embedder.Proofs.Survival
import Embedder.Proofs.Printing
import Embedder.Proofs.PrintingRuns
import Embedder.Proofs.Owners
import Embedder.Proofs.Owners.Programs
import Embedder.Proofs.BindingScope
import Embedder.Proofs.Marshal.Heap
import Embedder.Proofs.Marshal.WholeNumbers
import Embedder.Proofs.Marshal.Standard
import Embedder.Proofs.Marshal.Bookkeeper
import Embedder.Proofs.Marshal.Runs
import Embedder.Proofs.Marshal.Lists
import Embedder.Proofs.Marshal.RoundTrip
import Embedder.Proofs.LatestCall
import Embedder.Proofs.RegistryMap
import Embedder.Proofs.Draining
import Embedder.Proofs.Reading
import Embedder.Proofs.Rejections
import Embedder.Proofs.Importing
import Embedder.Proofs.Resolution
import Embedder.Proofs.Lending
import Embedder.Proofs.BoundReferences
import Embedder.Proofs.LettingGo
import Embedder.Proofs.Deferrals
import Embedder.Proofs.SearchPaths
import Embedder.Proofs.Json.Tokens
import Embedder.Proofs.Json.ConfigText
import Embedder.Proofs.Marshal.Objects
import Embedder.Proofs.Marshal.ListMaking
import Embedder.Proofs.Marshal.Accounts
import Embedder.Proofs.Walking
import Embedder.Proofs.Json.Layout
import Embedder.Proofs.Json.Spelling
import Embedder.Proofs.Json.Passing
import Embedder.Proofs.Json.Members
import Embedder.Proofs.Json.ConfigLayout
import Embedder.Proofs.Conversions
import Embedder.Proofs.MachineNumbers
import Embedder.Proofs.Arguments
import Embedder.Proofs.Porter
import Embedder.Proofs.Threads.Ledger
import Embedder.Proofs.Threads.System
import Embedder.Proofs.Threads.Growth
import Embedder.Proofs.Threads.Guard
import Embedder.Proofs.Threads.Laws
import Embedder.Proofs.Environment
import Embedder.Proofs.Stores
import Embedder.Proofs.MachineHeap
import Embedder.Proofs.MachineStores
