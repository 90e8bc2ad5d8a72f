import Socks5Proxy.Library.Memory
import Socks5Proxy.Library.Run
import Socks5Proxy.Library.SortedList
import Socks5Proxy.Library.Framing
import Socks5Proxy.Library.LinkedList
import Socks5Proxy.Library.Fifo
import Socks5Proxy.Library.Stream
import Socks5Proxy.Shared.Buffer
import Socks5Proxy.Shared.BufferFifo
import Socks5Proxy.Shared.Selector
import Socks5Proxy.Shared.SelectorInvariant
import Socks5Proxy.Shared.Registry
import Socks5Proxy.Shared.TableBounds
import Socks5Proxy.Shared.Reentrancy
import Socks5Proxy.Shared.Stm
import Socks5Proxy.Shared.Text
import Socks5Proxy.Shared.Queue
import Socks5Proxy.Server.Users
import Socks5Proxy.Server.UserMap
import Socks5Proxy.Server.Logger
import Socks5Proxy.Server.LogFile
import Socks5Proxy.Server.AdminCounter
import Socks5Proxy.Server.PasswordChange
import Socks5Proxy.Server.Metrics
import Socks5Proxy.Server.Handlers
import Socks5Proxy.Shared.Readiness
import Socks5Proxy.Shared.Notifications
import Socks5Proxy.Socks.Connection
import Socks5Proxy.Socks.Greeting
import Socks5Proxy.Socks.Auth
import Socks5Proxy.Socks.ConnectionUtils
import Socks5Proxy.Socks.Request
import Socks5Proxy.Socks.Connect
import Socks5Proxy.Socks.Reply
import Socks5Proxy.Socks.Copy
import Socks5Proxy.Socks.StateMachine
import Socks5Proxy.Socks.Trace
import Socks5Proxy.Socks.CopyStreams
import Socks5Proxy.Socks.CopyFifo
import Socks5Proxy.Socks.CopyDelivery
import Socks5Proxy.Socks.HalfClose
import Socks5Proxy.Socks.FlowControl
import Socks5Proxy.Socks.Dispatch
import Socks5Proxy.Socks.Frame
import Socks5Proxy.Socks.GreetingDecoding
import Socks5Proxy.Socks.Accepted
import Socks5Proxy.Socks.AuthDecoding
import Socks5Proxy.Server.Login
import Socks5Proxy.Socks.AuthGate
import Socks5Proxy.Socks.RequestDecoding
import Socks5Proxy.Socks.ResolutionIsolation
import Socks5Proxy.Socks.PendingMessage
import Socks5Proxy.Socks.Pipelining
import Socks5Proxy.Socks.RequestSegmentation
import Socks5Proxy.Socks.AuthSegmentation
import Socks5Proxy.Socks.Decisions
import Socks5Proxy.Socks.Exhaustion
import Socks5Proxy.Socks.FatalErrors
import Socks5Proxy.Socks.AddressIteration
import Socks5Proxy.Socks.WireFrame
import Socks5Proxy.Socks.Wiring
import Socks5Proxy.Socks.Dialling
import Socks5Proxy.Socks.Keeping
import Socks5Proxy.Socks.MissingHandler
import Socks5Proxy.Socks.Teardown
import Socks5Proxy.Socks.ConnectSuccess
import Socks5Proxy.Socks.FailureReports
import Socks5Proxy.Socks.ReplyDelivery
import Socks5Proxy.Socks.ReplyRoundTrip
import Socks5Proxy.Socks.Refusals
import Socks5Proxy.Socks.ImmediateConnect
import Socks5Proxy.Socks.OriginSockets
import Socks5Proxy.Socks.ServerState
import Socks5Proxy.Socks.Counters
import Socks5Proxy.Socks.ConnectionCount
import Socks5Proxy.Socks.Isolation
import Socks5Proxy.Socks.Containment
import Socks5Proxy.Socks.ByteCounters
import Socks5Proxy.Socks.GreetingConsumption
import Socks5Proxy.Socks.EofProgress
import Socks5Proxy.Pam.Connection
import Socks5Proxy.Pam.Auth
import Socks5Proxy.Pam.Methods
import Socks5Proxy.Pam.Request
import Socks5Proxy.Pam.StateMachine
import Socks5Proxy.Pam.Administrators
import Socks5Proxy.Pam.Removal
import Socks5Proxy.Pam.Bodies
import Socks5Proxy.Pam.Handover
import Socks5Proxy.Pam.Dispatch
import Socks5Proxy.Pam.AuthDecoding
import Socks5Proxy.Pam.AuthReading
import Socks5Proxy.Pam.AuthSegmentation
import Socks5Proxy.Pam.Accepted
import Socks5Proxy.Pam.LocalArrays
import Socks5Proxy.Pam.StringStorage
import Socks5Proxy.Pam.Listing
import Socks5Proxy.Client.Credentials
import Socks5Proxy.Client.Commands
import Socks5Proxy.Client.Agreement
import Socks5Proxy.Client.Response
import Socks5Proxy.Pam.StatusCodes
import Socks5Proxy.Pam.RequestReading
import Socks5Proxy.Pam.Assertions
import Socks5Proxy.Pam.Gate
import Socks5Proxy.Pam.RecordMemory
import Socks5Proxy.Pam.ResponseMemory
import Socks5Proxy.Pam.MetricsText
import Socks5Proxy.Pam.Segmentation
import Socks5Proxy.Pam.TruncatedBodies
import Socks5Proxy.Pam.Effect
import Socks5Proxy.Socks.Verdict
import Socks5Proxy.Server.Proxy
import Socks5Proxy.Server.Startup
import Socks5Proxy.Server.Provenance
import Socks5Proxy.Shared.Parser
import Socks5Proxy.Shared.ListHeap
import Socks5Proxy.Server.UserHeap
import Socks5Proxy.Client.Outcome
