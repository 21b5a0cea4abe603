import ConstructEngine.Interaction.Program
import ConstructEngine.Interaction.Machine
import ConstructEngine.Interaction.Safety
import ConstructEngine.Interaction.Composition
import ConstructEngine.Interaction.Owned
import ConstructEngine.Interaction.Monitor
import ConstructEngine.Interaction.Evaluation
import ConstructEngine.Interaction.Pool
import ConstructEngine.Interaction.Trace
import ConstructEngine.Interaction.Journal
import ConstructEngine.Interaction.Balance
import ConstructEngine.Interaction.Framing
import ConstructEngine.Interaction.Wire
import ConstructEngine.Construction.Error
import ConstructEngine.Construction.Stun
import ConstructEngine.Construction.Events
import ConstructEngine.Construction.Proto
import ConstructEngine.Construction.Core
import ConstructEngine.Construction.Grpc
import ConstructEngine.Construction.Unary
import ConstructEngine.Construction.Pump
import ConstructEngine.Construction.World
import ConstructEngine.Construction.Operation
import ConstructEngine.Construction.Transport
import ConstructEngine.Construction.Stream
import ConstructEngine.Construction.Auth
import ConstructEngine.Construction.Messaging
import ConstructEngine.Construction.EventLoop
import ConstructEngine.Construction.Peer
import ConstructEngine.Construction.Handoff
import ConstructEngine.Proof.Reassembly
import ConstructEngine.Proof.UnaryCall
import ConstructEngine.Proof.Transaction
import ConstructEngine.Proof.Attributes
import ConstructEngine.Proof.Rehearsal
import ConstructEngine.Proof.Effect
import ConstructEngine.Proof.Handlers
import ConstructEngine.Proof.Topics
import ConstructEngine.Proof.Loop
import ConstructEngine.Proof.Link
import ConstructEngine.Proof.Login
import ConstructEngine.Proof.Bearer
import ConstructEngine.Proof.Watch
import ConstructEngine.Proof.Attachment
import ConstructEngine.Proof.Fate
import ConstructEngine.Proof.Silence
import ConstructEngine.Proof.Exclusive
import ConstructEngine.Proof.Keychain
import ConstructEngine.Proof.Trail
import ConstructEngine.Proof.Sections
import ConstructEngine.Proof.Persistence
import ConstructEngine.Proof.Receipt
import ConstructEngine.Proof.Actions
import ConstructEngine.Proof.Attribution
import ConstructEngine.Proof.Answers
import ConstructEngine.Proof.Outgoing
import ConstructEngine.Proof.Envelope
import ConstructEngine.Proof.Upstream
import ConstructEngine.Proof.Turn
import ConstructEngine.Proof.Status
import ConstructEngine.Proof.Identity
import ConstructEngine.Proof.Closing
import ConstructEngine.Proof.PreKeys
import ConstructEngine.Proof.Batch
import ConstructEngine.Proof.Freshness
import ConstructEngine.Proof.Timer
import ConstructEngine.Proof.Refresh
import ConstructEngine.Proof.Rearm
import ConstructEngine.Proof.Resubscription
import ConstructEngine.Proof.Retention
import ConstructEngine.Proof.Initiation
import ConstructEngine.Proof.Inbox
import ConstructEngine.Proof.Routing
import ConstructEngine.Proof.Responder
import ConstructEngine.Proof.Healing
import ConstructEngine.Proof.Recovery
import ConstructEngine.Proof.Delivery
import ConstructEngine.Proof.Redelivery
import ConstructEngine.Proof.Cursor
import ConstructEngine.Proof.Subscription
import ConstructEngine.Proof.Tables
import ConstructEngine.Proof.AddressText
import ConstructEngine.Proof.MappedAddress
import ConstructEngine.Proof.Bounds
import ConstructEngine.Proof.CandidateOrder
import ConstructEngine.Proof.Answered
import ConstructEngine.Proof.PeerFrame
import ConstructEngine.Proof.Accounts
import ConstructEngine.Proof.Announced
import ConstructEngine.Proof.Severance
import ConstructEngine.Proof.Served
import ConstructEngine.Proof.Reopening
import ConstructEngine.Proof.Agreement
import ConstructEngine.Proof.Attempt
import ConstructEngine.Proof.Backoff
