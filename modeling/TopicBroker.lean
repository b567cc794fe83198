import TopicBroker.Lib.Bytes
import TopicBroker.Lib.Vec
import TopicBroker.Lib.Blocks
import TopicBroker.Lib.Decimal
import TopicBroker.Lib.Runs
import TopicBroker.Lib.Loops
import TopicBroker.Lib.LineReader
import TopicBroker.Lib.Stream
import TopicBroker.Lib.Words
import TopicBroker.Lib.Reads
import TopicBroker.Lib.Registry
import TopicBroker.Lib.Service
import TopicBroker.Lib.Powers
import TopicBroker.Lib.Mailbox
import TopicBroker.Lib.Succession
import TopicBroker.Lib.Custody
import TopicBroker.Model.PollVec
import TopicBroker.Model.UdpType
import TopicBroker.Model.ClientVec
import TopicBroker.Model.Server
import TopicBroker.Model.ServerLoop
import TopicBroker.Model.IdBlock
import TopicBroker.Model.Heap
import TopicBroker.Model.Subscriber
import TopicBroker.Model.Network
import TopicBroker.Model.Programs
import TopicBroker.Model.Exchange
import TopicBroker.Model.Resources
import TopicBroker.Proof.Subscriptions
import TopicBroker.Proof.Rounds
import TopicBroker.Proof.IdBlock
import TopicBroker.Proof.ConnectionTable
import TopicBroker.Proof.Passes
import TopicBroker.Proof.Dispatch
import TopicBroker.Proof.Survival
import TopicBroker.Proof.References
import TopicBroker.Proof.Ledger
import TopicBroker.Proof.Framing
import TopicBroker.Proof.Requests
import TopicBroker.Proof.Bounds
import TopicBroker.Proof.Packing
import TopicBroker.Proof.Isolation
import TopicBroker.Proof.ClientTable
import TopicBroker.Proof.Refinement
import TopicBroker.Proof.Commands
import TopicBroker.Proof.Numbers
import TopicBroker.Proof.FanOut
import TopicBroker.Proof.Topics
import TopicBroker.Proof.Lines
import TopicBroker.Proof.Retransmission
import TopicBroker.Proof.Entries
import TopicBroker.Proof.Queues
import TopicBroker.Proof.Service
import TopicBroker.Proof.ArrivalOrder
import TopicBroker.Proof.Reconnection
import TopicBroker.Proof.Heap
import TopicBroker.Proof.Refusals
import TopicBroker.Proof.Attendance
import TopicBroker.Proof.Exchange
import TopicBroker.Proof.Settlement
import TopicBroker.Proof.Printing
import TopicBroker.Proof.Resources
import TopicBroker.Proof.Lifetimes
