/-
Accepted connections.

A peer connection belongs to whoever accepted it. It has no state of its own: a failed transfer
is reported and nothing else happens.

Main definitions:
* `Peer` — an accepted connection;
* `Peer.send`, `Peer.receive`, `Peer.close` — its operations.
-/
import ProfiledSocket.Setting
import ProfiledSocket.Transfer

namespace ProfiledSocket

variable {σ : Type} [Kernel σ]

/-- An accepted connection. -/
structure Peer where
  descriptor : Option Descriptor
  address : Endpoint
  traffic : Traffic
deriving DecidableEq

instance : Channel Peer where
  descriptor p := p.descriptor
  traffic p := p.traffic
  withTraffic p t := { p with traffic := t }
  obstacle? _ _ := none
  endsWithNothing := true
  afterFailure p := p
  failureReport? _ := none
  afterEnd p := p
  endReport? _ := none

namespace Peer

/-- The connection with a peer at `address` over a new descriptor. -/
def new (fd : Descriptor) (address : Endpoint) : Peer := ⟨some fd, address, .zero⟩

/-- Whether the connection has a descriptor. -/
def isOpen (p : Peer) : Bool := p.descriptor.isSome

/-- Sends data; the result is how much of it the kernel took. -/
def send (p : Peer) (data : List UInt8) : Act σ (Except SocketError Nat × Peer) :=
  Channel.send p data none

/-- Receives at most `capacity` bytes. -/
def receive (p : Peer) (capacity : Nat) (timeout : Timeout) :
    Act σ (Except SocketError (List UInt8) × Peer) :=
  Channel.receive p capacity timeout Channel.bytesOnly

/-- Gives the descriptor back. -/
def close (p : Peer) : Act σ (Except SocketError Unit × Peer) :=
  match p.descriptor with
  | none => return (.error (.invalidParam "connection is already closed"), p)
  | some fd => do
    note .debug ("closing connection to " ++ p.address.text ++ " on fd " ++ fd.text)
    closeDescriptor fd
    return (.ok (), { p with descriptor := none })

end Peer

end ProfiledSocket
