import ProtoOs.Kernel.Programs
import ProtoOs.Kernel.Vectors
import ProtoOs.Proof.WaitRegistration
import ProtoOs.Proof.Faults
import ProtoOs.Proof.UserAccess
import ProtoOs.Proof.Protocol
import ProtoOs.Proof.Supervision
import ProtoOs.Proof.Recovery
import ProtoOs.Proof.UartProgress
import ProtoOs.Proof.FailedCalls
import ProtoOs.Proof.Tasks
import ProtoOs.Proof.Lifecycle
import ProtoOs.Proof.Resumption
import ProtoOs.Proof.Context
import ProtoOs.Proof.DeathCleanup
import ProtoOs.Proof.TimerTicks
import ProtoOs.Proof.RoutedWrites
import ProtoOs.Proof.Messages
import ProtoOs.Proof.Rendezvous
import ProtoOs.Proof.Orphans
import ProtoOs.Proof.DeathFrame
import ProtoOs.Proof.Decisions
import ProtoOs.Proof.Restarts
import ProtoOs.Lib.Numerals
import ProtoOs.Proof.Numbers
import ProtoOs.Proof.Statistics
import ProtoOs.Proof.PageTables
import ProtoOs.Lib.TextTools
import ProtoOs.Kernel.Aggregate
import ProtoOs.Proof.Extraction
import ProtoOs.Proof.EchoProgress
import ProtoOs.Proof.Resuming
import ProtoOs.Proof.Isolation
import ProtoOs.Proof.Reports
import ProtoOs.Proof.Specification
import ProtoOs.Lib.LineSearch
import ProtoOs.Kernel.Scripts
import ProtoOs.Proof.Validation
import ProtoOs.Lib.Rendezvous
import ProtoOs.Kernel.Uart
import ProtoOs.Proof.Uart
import ProtoOs.Proof.Delivery
import ProtoOs.Kernel.Interrupts
import ProtoOs.Proof.Interrupts
import ProtoOs.Proof.Deliveries
import ProtoOs.Proof.UartOutput
