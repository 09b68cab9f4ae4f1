import Mistle.Lib.Handler
import Mistle.Lib.Text
import Mistle.Lib.Json
import Mistle.Protocol.Types
import Mistle.Protocol.Serde
import Mistle.Protocol.Validation
import Mistle.Protocol.Parse
import Mistle.Protocol.Frame
import Mistle.Protocol.Serialize
import Mistle.Lib.Run
import Mistle.Lib.CreditFlow
import Mistle.Lib.DataView
import Mistle.Lib.Split
import Mistle.Lib.Program
import Mistle.Lib.Rows
import Mistle.Lib.WorkflowRuns
import Mistle.Lifecycle.Transition
import Mistle.Lifecycle.Deadlines
import Mistle.Lifecycle.DeadlineGenerations
import Mistle.Lifecycle.DeadlineRuns
import Mistle.Lib.Noting
import Mistle.Lifecycle.Instance
import Mistle.Lifecycle.Writers
import Mistle.Lifecycle.Stops
import Mistle.Lifecycle.StatusEdges
import Mistle.Lifecycle.OwnerFence
import Mistle.Lifecycle.RowLock
import Mistle.Lifecycle.IdleStop
import Mistle.Schedule.Database
import Mistle.Schedule.Recurrence
import Mistle.Schedule.DueSchedules
import Mistle.Schedule.Dispatch
import Mistle.Schedule.System
import Mistle.SessionClient.Transport
import Mistle.SessionProtocol.DataFrame
import Mistle.Idempotency.Record
import Mistle.Idempotency.Files
import Mistle.Idempotency.Store
import Mistle.Idempotency.StoreAtomicity
import Mistle.Proxy.Decision
import Mistle.Tunnel.Telemetry
import Mistle.Gateway.FrameCodec
import Mistle.Gateway.TelemetrySession
import Mistle.Tunnel.TelemetryCredit
import Mistle.Tunnel.State
import Mistle.Tunnel.Writer
import Mistle.Tunnel.Footprint
import Mistle.Tunnel.Agent
import Mistle.Tunnel.AgentAccounting
import Mistle.Tunnel.Process
import Mistle.Tunnel.FileSearch
import Mistle.Tunnel.FileUpload
import Mistle.Tunnel.PortAccess
import Mistle.Tunnel.Operation
import Mistle.Tunnel.Requests
import Mistle.Tunnel.Router
import Mistle.Tunnel.ExecOutput
import Mistle.Tunnel.RouterFootprint
import Mistle.Tunnel.Connection
import Mistle.Tunnel.Removal
import Mistle.Tunnel.Refusal
import Mistle.Tunnel.OperationDrain
import Mistle.Tunnel.OperationDelivery
import Mistle.Tunnel.OperationOwing
import Mistle.Tunnel.OperationClose
import Mistle.Tunnel.Serving
import Mistle.Tunnel.Isolation
import Mistle.Tunnel.Sparing
import Mistle.Tunnel.SessionResources
import Mistle.Tunnel.SessionEnd
import Mistle.Proxy.CodexIdempotency
import Mistle.Proxy.OpenCodeIdempotency
import Mistle.Proxy.Calls
import Mistle.Proxy.AtMostOnce
import Mistle.Egress.TokenProvider
import Mistle.Egress.TokenIsolation
import Mistle.Egress.ForwardPath
import Mistle.Schedule.ActionMachine
import Mistle.Gateway.CredentialCache
import Mistle.Gateway.CredentialIndex
import Mistle.Gateway.CredentialInvalidation
import Mistle.Gateway.TranscriptBudget
import Mistle.Pagination.SandboxInstances
import Mistle.Control.ActivationState
import Mistle.Control.Server
import Mistle.Egress.RouteAgreement
import Mistle.Egress.RefreshAtomicity
import Mistle.Process.SingleProcess
import Mistle.Daemon.Close
import Mistle.Tunnel.OverlapPublication
import Mistle.Protocol.SendWindow
import Mistle.Triggers.ContainsToken
import Mistle.Triggers.PayloadFilter
import Mistle.Gateway.TunnelSession
import Mistle.Gateway.HealthMonitor
import Mistle.Gateway.TelemetryLines
import Mistle.Lib.Calendar
import Mistle.Usage.Aggregation
import Mistle.Usage.RunningTime
import Mistle.Schedule.Cursor
import Mistle.Schedule.DispatchLoop
import Mistle.Lib.KeyTree
import Mistle.Lib.PathWrites
import Mistle.Lib.Fallible
import Mistle.Integrations.RuntimeClient
import Mistle.Integrations.McpConfig
import Mistle.Integrations.McpTable
import Mistle.Integrations.McpFiles
import Mistle.Integrations.McpClients
import Mistle.Integrations.RuntimePlan
import Mistle.Integrations.Compiler
import Mistle.Integrations.McpServers
import Mistle.Schedule.Handoff
import Mistle.Schedule.LastOccurrence
import Mistle.Lib.Digest
import Mistle.Lib.Slices
import Mistle.Schedule.ChildBatches
import Mistle.Schedule.Redispatch
import Mistle.Delivery.Associations
import Mistle.Delivery.System
import Mistle.Delivery.Exclusive
import Mistle.Delivery.Settled
import Mistle.Delivery.Wakeups
import Mistle.SessionClient.Opens
import Mistle.SessionClient.Credit
