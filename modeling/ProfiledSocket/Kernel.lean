/-
The kernel as sockets see it: a machine that answers calls.

Nothing is assumed about the answers. A kernel is any state with an answer to every call in
every state, two clocks, and a bound on how often in a row signals may interrupt: a call that
is repeated as long as it is interrupted comes to an end.

The times of keepalive are several options to the kernel, but they are asked for in one call, and
how far that gets is not to be seen.

Main definitions:
* `Call` — what can be asked of the kernel;
* `Call.Value`, `Reply` — what a call answers when it succeeds, and its answer at large;
* `Kernel` — a machine that answers calls.
-/
import ProfiledSocket.Endpoint.Basic
import ProfiledSocket.Error.Errno
import ProfiledSocket.Profile

namespace ProfiledSocket

/-- The number by which the kernel knows an open file of the process. -/
structure Descriptor where
  number : Int
deriving DecidableEq

/-- The number in decimal. -/
def Descriptor.text (fd : Descriptor) : String := toString fd.number

/-- How a socket carries data: as one stream of bytes, or as datagrams. -/
inductive Transport
  | stream
  | datagram
deriving DecidableEq

/-- The word for a transport. -/
def Transport.name : Transport → String
  | stream => "stream"
  | datagram => "datagram"

/-- What a caller wants to do next with a descriptor. -/
inductive Interest
  | read
  | write
deriving DecidableEq

/-- The name of an interest. -/
def Interest.name : Interest → String
  | read => "Read"
  | write => "Write"

/-- A socket option: the protocol level it belongs to, and its number there. -/
structure OptionName where
  level : Int32
  name : Int32
deriving DecidableEq

/-- What is the case with a descriptor that a poll reports. -/
structure Revents where
  readable : Bool
  writable : Bool
  /-- An error is pending. -/
  error : Bool
  /-- The other end is gone. -/
  hangUp : Bool
  /-- There is no such descriptor. -/
  invalid : Bool
deriving DecidableEq

/-- Data taken from a socket, no more than there was room for, and where it came from if that
is an IPv4 endpoint. -/
structure Received (capacity : Nat) where
  bytes : List UInt8
  source : Option Endpoint
  length_le : bytes.length ≤ capacity

/-- What can be asked of the kernel. -/
inductive Call
  /-- A new socket, in blocking mode. -/
  | socket (transport : Transport)
  | close (fd : Descriptor)
  | bind (fd : Descriptor) (addr : Endpoint)
  | listen (fd : Descriptor) (backlog : Int32)
  | accept (fd : Descriptor)
  | connect (fd : Descriptor) (addr : Endpoint)
  | localAddress (fd : Descriptor)
  /-- Takes the error that a finished connection attempt left behind. -/
  | takeError (fd : Descriptor)
  | setOption (fd : Descriptor) (option : OptionName) (value : List UInt8)
  /-- Keepalive with given times, as far as that goes. -/
  | setKeepaliveTiming (fd : Descriptor) (timing : Keepalive)
  | setNonblocking (fd : Descriptor) (on : Bool)
  /-- Sends to the given destination or else to the peer, and raises no signal when the peer is
  gone if `quiet`. -/
  | send (fd : Descriptor) (data : List UInt8) (destination : Option Endpoint) (quiet : Bool)
  | receive (fd : Descriptor) (capacity : Nat)
  /-- Waits so many milliseconds, without end if the number is negative, until the interest can
  be served or something is wrong. -/
  | poll (fd : Descriptor) (interest : Option Interest) (millis : Int32)

/-- What a call answers when it succeeds. -/
@[reducible] def Call.Value : Call → Type
  | socket _ => Descriptor
  | accept _ => Descriptor × Option Endpoint
  | localAddress _ => Option Endpoint
  | takeError _ => Option Errno
  | send .. => Nat
  | receive _ capacity => Received capacity
  | poll .. => Option Revents
  | close _ | bind .. | listen .. | connect .. | setOption .. | setKeepaliveTiming ..
  | setNonblocking .. => Unit

/-- The answer to a call. -/
abbrev Reply (call : Call) := Except Errno call.Value

/-- A machine that answers calls, with states of type `σ`. -/
class Kernel (σ : Type) where
  answer : σ → (call : Call) → Reply call × σ
  /-- A clock that only runs forward, in nanoseconds. -/
  now : σ → Nat
  /-- The time since the epoch in nanoseconds, if the machine knows it. -/
  realtime : σ → Option UInt64
  /-- A bound on how many calls in a row signals can still interrupt. -/
  patience : σ → Nat
  patience_lt : ∀ (s : σ) (call : Call),
    (answer s call).1 = .error .interrupted → patience (answer s call).2 < patience s

end ProfiledSocket
