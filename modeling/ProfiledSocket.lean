import ProfiledSocket.Accelerator
import ProfiledSocket.Digest
import ProfiledSocket.Scenario.Session
import ProfiledSocket.Scenario.Watch
import ProfiledSocket.Text.Hex
import ProfiledSocket.Proofs.Run
import ProfiledSocket.Proofs.Calls
import ProfiledSocket.Proofs.Transfer
import ProfiledSocket.Proofs.Stream.Transition
import ProfiledSocket.Proofs.Stream.Coherent
import ProfiledSocket.Proofs.Accounting
import ProfiledSocket.Proofs.Stream.Lifecycle
import ProfiledSocket.Proofs.Duration
import ProfiledSocket.Proofs.Deadline
import ProfiledSocket.Proofs.Stream.Handshake
import ProfiledSocket.Proofs.Delivery
import ProfiledSocket.Proofs.Ownership
import ProfiledSocket.Proofs.Datagram.Transition
import ProfiledSocket.Proofs.Datagram.Faithful
import ProfiledSocket.Proofs.Endpoint
import ProfiledSocket.Proofs.Mirror
import ProfiledSocket.Proofs.Stream.Anew
import ProfiledSocket.Proofs.Influence
import ProfiledSocket.Proofs.Mode
import ProfiledSocket.Proofs.Lineage
import ProfiledSocket.Proofs.Failure
import ProfiledSocket.Proofs.Network
import ProfiledSocket.Proofs.Stream.Attempt
import ProfiledSocket.Proofs.Datagram.Arrival
import ProfiledSocket.Proofs.Interruption
import ProfiledSocket.Proofs.Demand
import ProfiledSocket.Proofs.Refusal
import ProfiledSocket.Proofs.Address
import ProfiledSocket.Proofs.Datagram.Paths
import ProfiledSocket.Proofs.Knobs
import ProfiledSocket.Proofs.Datagram.Timestamps
import ProfiledSocket.Proofs.Stream.Acceptance
import ProfiledSocket.Proofs.Counterpart
import ProfiledSocket.Proofs.Creation
import ProfiledSocket.Proofs.Cause
import ProfiledSocket.Proofs.Initialisation
import ProfiledSocket.Proofs.Quotation
