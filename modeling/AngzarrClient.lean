import AngzarrClient.Convert
import AngzarrClient.Error
import AngzarrClient.Lib.Traced
import AngzarrClient.Proto
import AngzarrClient.Router.Builder
import AngzarrClient.Lib.EventFold
import AngzarrClient.Lib.FanOut
import AngzarrClient.Router.Dispatch
import AngzarrClient.Router.Extract
import AngzarrClient.Router.Runtime
import AngzarrClient.Macros.State
import AngzarrClient.Macros.Arms
import AngzarrClient.Macros.CommandHandler
import AngzarrClient.Macros.Saga
import AngzarrClient.Router.CommandRouting
import AngzarrClient.Macros.StateRebuild
import AngzarrClient.Compensation
import AngzarrClient.Router.Rejection
import AngzarrClient.Router.Isolation
import AngzarrClient.Macros.Checkpoint
import AngzarrClient.Macros.Snapshot
import AngzarrClient.Router.FactRouting
import AngzarrClient.Macros.Tokens
import AngzarrClient.Macros.Grammar
import AngzarrClient.Macros.Markers
import AngzarrClient.Macros.Reachability
import AngzarrClient.Router.TriggerFanOut
import AngzarrClient.Macros.Generate
import AngzarrClient.Lib.Pass
import AngzarrClient.Macros.Upcaster
import AngzarrClient.Router.Upcasting
import AngzarrClient.Router.UpcastChain
import AngzarrClient.Macros.Projector
import AngzarrClient.Router.Projection
import AngzarrClient.Grpc
import AngzarrClient.Router.ReplayGate
import AngzarrClient.Router.FactoryUse
import AngzarrClient.Router.RunningSequence
import AngzarrClient.Router.RejectionKey
import AngzarrClient.Lib.Machine
import AngzarrClient.Macros.FactBatch
import AngzarrClient.ProtoExt
import AngzarrClient.Server.Readiness
import AngzarrClient.Server.Supervision
import AngzarrClient.Client.Transport
import AngzarrClient.Lib.Text
import AngzarrClient.Client.Dial
import AngzarrClient.Client.Backoff
import AngzarrClient.Client.Retry
import AngzarrClient.Cover
import AngzarrClient.Lib.FirstSeen
import AngzarrClient.Lib.OrderedMap
import AngzarrClient.Router.Destinations
import AngzarrClient.Decode
import AngzarrClient.Router.OutputDomains
import AngzarrClient.Lib.LastWrite
import AngzarrClient.Uuid
import AngzarrClient.Client.CommandBuilder
import AngzarrClient.Client.QueryBuilder
import AngzarrClient.Client.Requests
import AngzarrClient.Client.Execute
import AngzarrClient.Lib.Blame
import AngzarrClient.Macros.Attribution
import AngzarrClient.Router.Attribution
import AngzarrClient.Server.Services
import AngzarrClient.Lib.View
import AngzarrClient.Router.Reads
import AngzarrClient.Lib.Journal
import AngzarrClient.Testing.Scenario
import AngzarrClient.Testing.GivenWhenThen
import AngzarrClient.Identity
import AngzarrClient.Server.Config
import AngzarrClient.Server.Runner
import AngzarrClient.Validation
import AngzarrClient.Router.Outbound
import AngzarrClient.Router.Compensating
import AngzarrClient.Router.PageRefinement
import AngzarrClient.Server.Refinement
import AngzarrClient.Lib.Session
import AngzarrClient.Router.EventLog
import AngzarrClient.Macros.Blocks
import AngzarrClient.Server.Progress
