/-
Scenarios: sockets by name, and what is done with them.

Main definitions:
* `Scenario.Action` — something to do with a socket;
* `Scenario.Circumstances` — under which it is done;
* `Scenario.Step` — one step of a scenario.
-/
import ProfiledSocket.Datagram
import ProfiledSocket.Host.Control

namespace ProfiledSocket.Scenario

/-- A port in a step: a number, the local port that was last noted for a socket, or the port
from which a socket received its last datagram. -/
inductive PortRef
  | literal (port : UInt16)
  | ownOf (name : String)
  | sourceOf (name : String)

/-- What can be looked at on a descriptor. -/
inductive Probe
  | nonblocking
  | option (option : OptionName)

/-- The probe of a given name. -/
def Probe.ofName? : String → Option Probe
  | "nonblocking" => some .nonblocking
  | "keepalive" => some (.option .keepalive)
  | "reuseaddr" => some (.option .reuseAddress)
  | "broadcast" => some (.option .broadcast)
  | "timestampns" => some (.option .timestamps)
  | "sndbuf" => some (.option .sendBuffer)
  | "rcvbuf" => some (.option .receiveBuffer)
  | "nodelay" => some (.option .noDelay)
  | "keepidle" => some (.option .keepaliveIdle)
  | "keepintvl" => some (.option .keepaliveInterval)
  | "keepcnt" => some (.option .keepaliveCount)
  | _ => none

/-- Something to do with a socket. -/
inductive Action
  | newStream (profile : Profile)
  | newDatagram (profile : Profile) (clock : Clock)
  | bind (ip : String) (port : PortRef)
  | listen (backlog : Int32)
  | accept (name : String) (timeout : Timeout)
  | connect (ip : String) (port : PortRef) (timeout : Timeout)
  | reconnect (timeout : Timeout)
  | isConnected
  | send (data : List UInt8)
  | sendTo (data : List UInt8) (ip : String) (port : PortRef)
  | receive (capacity : Nat) (timeout : Timeout)
  | receiveFrom (capacity : Nat) (timeout : Timeout)
  | setOption (option : OptionName) (value : List UInt8)
  | close
  /-- Only looks at the socket. -/
  | look
  | profile
  /-- Forgets the socket. -/
  | drop
  /-- Sends the same data again and again, so many times or until an error. -/
  | fill (data : List UInt8) (times : Nat)
  /-- Receives until there are so many bytes, or until an error. -/
  | collect (capacity total : Nat) (timeout : Timeout)
  | probe (probes : List String)
  | shutdown (how : Host.Shutdown)
  /-- Makes the descriptor stand for something else. -/
  | replace (object : Host.Object)
  | waitReady (interest : Interest) (millis : Int32)
  | peerHungUp

/-- Signals during a step: after so many of them data is sent through the descriptor of a
socket. -/
structure Disturbance where
  untilDelivery : Option Nat
  through : Option String
  data : List UInt8

/-- Under which circumstances something is done. -/
structure Circumstances where
  /-- Whether a transient error is no answer yet. -/
  polled : Bool := false
  fileLimit : Option Nat := none
  disturbance : Option Disturbance := none

/-- One step of a scenario. -/
inductive Step
  | sleep (millis : Nat)
  | act (name : String) (action : Action) (circumstances : Circumstances)

/-- The port that a step states as a number. -/
def Action.literalPort? : Action → Option UInt16
  | bind _ (.literal port) | connect _ (.literal port) _ | sendTo _ _ (.literal port) => some port
  | _ => none

end ProfiledSocket.Scenario
