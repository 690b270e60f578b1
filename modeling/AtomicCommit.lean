import AtomicCommit.Options
import AtomicCommit.Simulation.Network.Run
import AtomicCommit.Simulation.Rehearsal.Run
import AtomicCommit.Wire.Reply
import AtomicCommit.Proofs.Account
import AtomicCommit.Proofs.Landing
import AtomicCommit.Proofs.Acknowledgement
import AtomicCommit.Proofs.Atomicity
import AtomicCommit.Proofs.ClientPacket
import AtomicCommit.Proofs.Departure
import AtomicCommit.Proofs.Outsider
import AtomicCommit.Proofs.Severance
import AtomicCommit.Proofs.Delivery
import AtomicCommit.Proofs.Settlement
import AtomicCommit.Proofs.Promptness
import AtomicCommit.Proofs.ArrivalOrder
import AtomicCommit.Proofs.Arrears
import AtomicCommit.Proofs.LateInterrupt
import AtomicCommit.Proofs.Release
import AtomicCommit.Proofs.CommandOrder
import AtomicCommit.Proofs.Traffic
import AtomicCommit.Proofs.Identity
import AtomicCommit.Proofs.Ledger
import AtomicCommit.Proofs.Aftermath
import AtomicCommit.Proofs.Correspondence
import AtomicCommit.Proofs.Grammar
import AtomicCommit.Proofs.Tally
import AtomicCommit.Proofs.Blame
import AtomicCommit.Proofs.Namesake
import AtomicCommit.Proofs.Overtaking
import AtomicCommit.Proofs.Literal
import AtomicCommit.Proofs.ErrorPacket
import AtomicCommit.Proofs.Headroom
import AtomicCommit.Proofs.Closing
import AtomicCommit.Proofs.ByteQueue
import AtomicCommit.Proofs.Reason
import AtomicCommit.Proofs.Roster
import AtomicCommit.Proofs.Discard
import AtomicCommit.Proofs.Urgency
import AtomicCommit.Proofs.Continuation
import AtomicCommit.Proofs.Stocktaking
import AtomicCommit.Proofs.Spelling
import AtomicCommit.Proofs.Limits
import AtomicCommit.Proofs.Construction
import AtomicCommit.Proofs.ShortestForm
