import AgentWorkflow.Act
import AgentWorkflow.Agent.Bounded
import AgentWorkflow.Agent.Reasoning
import AgentWorkflow.Chat.Arena
import AgentWorkflow.Chat.Model
import AgentWorkflow.Chat.Prompt
import AgentWorkflow.Chat.Provider
import AgentWorkflow.CommandLine
import AgentWorkflow.Config.Document
import AgentWorkflow.Config.Field
import AgentWorkflow.Config.Node
import AgentWorkflow.Config.NodeKind
import AgentWorkflow.Conversation
import AgentWorkflow.Decimal.Binary
import AgentWorkflow.Decimal.Digits
import AgentWorkflow.Decimal.Reading
import AgentWorkflow.Decimal.Rounding
import AgentWorkflow.Error
import AgentWorkflow.Fault
import AgentWorkflow.Graph.Reachability
import AgentWorkflow.Graph.Snapshot
import AgentWorkflow.Graph.SnapshotReader
import AgentWorkflow.Graph.Validation
import AgentWorkflow.Image.Download
import AgentWorkflow.Image.Preparation
import AgentWorkflow.Image.Prepared
import AgentWorkflow.Json.Reader
import AgentWorkflow.Json.Writer
import AgentWorkflow.Main
import AgentWorkflow.Node.HumanTurn
import AgentWorkflow.Node.Step
import AgentWorkflow.Node.Supervisor
import AgentWorkflow.Node.ToolCall
import AgentWorkflow.Node.Worker
import AgentWorkflow.Redaction
import AgentWorkflow.Rehearsal.Ledger
import AgentWorkflow.Rehearsal.Limits
import AgentWorkflow.Rehearsal.Network
import AgentWorkflow.Rehearsal.Reader
import AgentWorkflow.Rehearsal.Runtime
import AgentWorkflow.Rehearsal.Sockets
import AgentWorkflow.Rehearsal.World
import AgentWorkflow.Rehearsal.Writer
import AgentWorkflow.Run.Execution
import AgentWorkflow.Run.Superstep
import AgentWorkflow.Run.Trace
import AgentWorkflow.Run.Tracker
import AgentWorkflow.Settings
import AgentWorkflow.State.Reducer
import AgentWorkflow.State.Schema
import AgentWorkflow.Store.Database
import AgentWorkflow.Store.Graphs
import AgentWorkflow.Store.Runs
import AgentWorkflow.Text.Base64
import AgentWorkflow.Text.Blank
import AgentWorkflow.Text.CaseTable
import AgentWorkflow.Text.Digit
import AgentWorkflow.Text.Lower
import AgentWorkflow.Text.Order
import AgentWorkflow.Text.Printable
import AgentWorkflow.Text.Quoted
import AgentWorkflow.Text.Range
import AgentWorkflow.Text.Search
import AgentWorkflow.Timestamp
import AgentWorkflow.Tool.Client
import AgentWorkflow.Tool.Result
import AgentWorkflow.Tool.Schema
import AgentWorkflow.Tool.Transport
import AgentWorkflow.Uuid
import AgentWorkflow.Value.Basic
import AgentWorkflow.Value.Datum
import AgentWorkflow.Value.Display
import AgentWorkflow.Value.Plain
import AgentWorkflow.Value.Preview
import AgentWorkflow.Web.Address
import AgentWorkflow.Web.Reference
import AgentWorkflow.Web.Url
import AgentWorkflow.Workflow.Assembly
import AgentWorkflow.Workflow.Basic
import AgentWorkflow.Workflow.Supervision
import AgentWorkflow.Proofs.Graph.Search
import AgentWorkflow.Proofs.Graph.WellFormed
import AgentWorkflow.Proofs.Graph.Verdict
import AgentWorkflow.Proofs.Config.Legibility
import AgentWorkflow.Proofs.Config.Members
import AgentWorkflow.Proofs.Workflow.Assembly
import AgentWorkflow.Proofs.Workflow.Wiring
import AgentWorkflow.Proofs.State.Schema
import AgentWorkflow.Proofs.Node.Answers
import AgentWorkflow.Proofs.Node.Built
import AgentWorkflow.Proofs.Node.Consultation
import AgentWorkflow.Proofs.Node.CutOff
import AgentWorkflow.Proofs.Node.Writes
import AgentWorkflow.Proofs.Workflow.Tasks
import AgentWorkflow.Proofs.Run.History
import AgentWorkflow.Proofs.Run.Decision
import AgentWorkflow.Proofs.Run.Routing
import AgentWorkflow.Proofs.Node.Metering
import AgentWorkflow.Proofs.Node.NotedKeys
import AgentWorkflow.Proofs.Run.Counting
import AgentWorkflow.Proofs.Run.Iteration
import AgentWorkflow.Proofs.State.Merging
import AgentWorkflow.Proofs.Run.Members
import AgentWorkflow.Proofs.Run.Merging
import AgentWorkflow.Proofs.Run.Frame
import AgentWorkflow.Proofs.Graph.Columns
import AgentWorkflow.Proofs.Workflow.Columns
import AgentWorkflow.Proofs.Run.Rounds
import AgentWorkflow.Proofs.Run.Transcript
import AgentWorkflow.Proofs.Run.Recording
import AgentWorkflow.Proofs.Store.Runs
import AgentWorkflow.Proofs.Run.Execution
import AgentWorkflow.Proofs.Since
import AgentWorkflow.Proofs.Store.Sessions
import AgentWorkflow.Proofs.Store.Steps
import AgentWorkflow.Proofs.Run.Handling
import AgentWorkflow.Proofs.Run.Tracking
import AgentWorkflow.Proofs.Run.Steps
import AgentWorkflow.Proofs.Run.Endings
import AgentWorkflow.Proofs.Run.Queue
import AgentWorkflow.Proofs.Run.Publishing
import AgentWorkflow.Proofs.Run.Ordering
import AgentWorkflow.Proofs.Run.Calls
import AgentWorkflow.Proofs.Run.Audit
import AgentWorkflow.Proofs.Failure
import AgentWorkflow.Proofs.Workflow.Refusals
import AgentWorkflow.Proofs.Conversation
import AgentWorkflow.Proofs.Image.Faults
import AgentWorkflow.Proofs.Node.Faults
import AgentWorkflow.Proofs.Run.Faults
import AgentWorkflow.Proofs.Keeping
import AgentWorkflow.Proofs.Run.Bracket
import AgentWorkflow.Proofs.Graph.Relisting
import AgentWorkflow.Proofs.Workflow.Relisting
import AgentWorkflow.Proofs.Run.Relisting
import AgentWorkflow.Proofs.Workflow.Ownership
import AgentWorkflow.Proofs.Workflow.Readings
import AgentWorkflow.Proofs.Config.Limits
import AgentWorkflow.Proofs.Node.Limits
import AgentWorkflow.Proofs.Agent.Recording
import AgentWorkflow.Proofs.Agent.Turns
import AgentWorkflow.Proofs.Agent.Limit
import AgentWorkflow.Proofs.Decimal.Positive
import AgentWorkflow.Proofs.Tool.Decoding
import AgentWorkflow.Proofs.Node.Delivery
import AgentWorkflow.Proofs.Workflow.Requests
import AgentWorkflow.Proofs.Workflow.Stages
import AgentWorkflow.Proofs.Store.Ordering
import AgentWorkflow.Proofs.Store.Loading
import AgentWorkflow.Proofs.Redaction
import AgentWorkflow.Proofs.State.Appending
import AgentWorkflow.Proofs.Decimal.Exact
import AgentWorkflow.Proofs.Image.Passes
import AgentWorkflow.Proofs.Image.Reencoding
import AgentWorkflow.Proofs.Tool.Noted
import AgentWorkflow.Proofs.Tool.Sessions
import AgentWorkflow.Proofs.Value.Plain
