/-
Sending and receiving, as all sockets do it.

Sockets differ in what they demand before a transfer and in what a failure does to them; a
`Channel` says that. The rest is the same for all: arguments and state are checked before the
kernel is asked, an interrupted call is repeated, and a successful transfer is counted once.

Main definitions:
* `Channel` — what can transfer data;
* `Channel.send` — one piece of data, with or without a destination;
* `Channel.receive` — one piece of data within a time;
* `Channel.isAlive` — whether the connection still takes data.
-/
import ProfiledSocket.Error.Text
import ProfiledSocket.Readiness
import ProfiledSocket.Traffic

namespace ProfiledSocket

variable {σ : Type} [Kernel σ]

/-- Which way data goes. -/
inductive Direction
  | sending
  | receiving
deriving DecidableEq

/-- What can transfer data. -/
class Channel (C : Type) where
  descriptor : C → Option Descriptor
  traffic : C → Traffic
  withTraffic : C → Traffic → C
  /-- What stands in the way of a transfer without a destination. -/
  obstacle? : C → Direction → Option SocketError
  /-- Whether receiving nothing means that the other end is done. -/
  endsWithNothing : Bool
  /-- The channel after a failure that is not transient. -/
  afterFailure : C → C
  /-- What to report about such a failure. -/
  failureReport? : C → Option String
  /-- The channel after the other end is done. -/
  afterEnd : C → C
  /-- What to report about such an end. -/
  endReport? : C → Option String

namespace Channel

variable {C : Type} [Channel C]

/-! ### Checks -/

/-- The descriptor of an open channel. -/
def held (c : C) : Except SocketError Descriptor :=
  match descriptor c with
  | some fd => .ok fd
  | none => .error .socketClosed

/-- The descriptor for a transfer of `length` bytes. -/
def openDescriptor (c : C) (length : Nat) : Except SocketError Descriptor :=
  if length = 0 then .error .emptyBuffer else held c

/-- The descriptor for a transfer to or from the peer. -/
def readyDescriptor (c : C) (direction : Direction) (length : Nat) :
    Except SocketError Descriptor :=
  match openDescriptor c length with
  | .error e => .error e
  | .ok fd =>
    match obstacle? c direction with
    | some e => .error e
    | none => .ok fd

/-! ### Sending -/

/-- What the kernel's answer to a send means, for the caller and for the channel. -/
def afterSend (c : C) : Except Errno Nat → Except SocketError Nat × C
  | .ok n => (.ok n, withTraffic c ((traffic c).recordSent n))
  | .error e =>
    if e.kind = .wouldBlock then (.error .wouldBlock, c)
    else (.error (.send (.os e)), afterFailure c)

/-- Reports the kernel's answer to a send of `length` bytes. -/
def noteSend (c : C) (fd : Descriptor) (length : Nat) : Except Errno Nat → Act σ Unit
  | .ok n =>
    note .trace ("sent " ++ toString n ++ " of " ++ toString length ++ " bytes on fd " ++ fd.text)
  | .error e => if e.kind = .wouldBlock then return () else noteDebug (failureReport? c)

/-- What a send demands: data, an open channel and, without a destination, a peer. -/
def checkSend (c : C) (data : List UInt8) (destination : Option Endpoint) :
    Except SocketError Descriptor :=
  if destination.isSome then openDescriptor c data.length
  else readyDescriptor c .sending data.length

/-- Sends data once; the kernel may take less than all. -/
def send (c : C) (data : List UInt8) (destination : Option Endpoint) :
    Act σ (Except SocketError Nat × C) :=
  match checkSend c data destination with
  | .error e => return (.error e, c)
  | .ok fd => do
    let reply ← askUninterrupted (.send fd data destination true)
    noteSend c fd data.length reply
    return afterSend c reply

/-! ### Receiving -/

/-- Waits for data. No wait is made for a timeout of zero. -/
def awaitReadable (fd : Descriptor) (timeout : Timeout) : Act σ (Except SocketError Unit) := do
  if timeout.millis = 0 then return .ok ()
  else
    match ← waitReady fd .read timeout.millis with
    | .ok .ready => return .ok ()
    | .ok .timedOut => return .error .timeout
    | .error e => return .error (.recv e)

/-- How many bytes arrived and what the caller gets of them, or why there is nothing to get.
`view` is what the caller wants to see, or why the data is not usable. -/
def viewed {α : Type} {capacity : Nat} (view : Received capacity → Except IoError α) :
    Except Errno (Received capacity) → Except IoError (Nat × α)
  | .ok received => (view received).map fun value => (received.bytes.length, value)
  | .error e => .error (.os e)

/-- What a receive means, for the caller and for the channel. -/
def afterReceive {α : Type} (c : C) :
    Except IoError (Nat × α) → Except SocketError α × C
  | .ok (n, value) =>
    if n = 0 ∧ endsWithNothing C then (.error .closed, afterEnd c)
    else (.ok value, withTraffic c ((traffic c).recordReceived n))
  | .error e =>
    if e.kind = .wouldBlock then (.error .timeout, c) else (.error (.recv e), afterFailure c)

/-- Reports a receive. -/
def noteReceive {α : Type} (c : C) (fd : Descriptor) : Except IoError (Nat × α) → Act σ Unit
  | .ok (n, _) =>
    if n = 0 ∧ endsWithNothing C then do
      note .trace ("orderly shutdown by peer on fd " ++ fd.text)
      noteDebug (endReport? c)
    else note .trace ("received " ++ toString n ++ " bytes on fd " ++ fd.text)
  | .error e => if e.kind = .wouldBlock then return () else noteDebug (failureReport? c)

/-- Receives data, at most `capacity` bytes, waiting for it at most `timeout`. Without a wait
the call returns at once only if the descriptor is in non-blocking mode. -/
def receive {α : Type} (c : C) (capacity : Nat) (timeout : Timeout)
    (view : Received capacity → Except IoError α) : Act σ (Except SocketError α × C) :=
  match readyDescriptor c .receiving capacity with
  | .error e => return (.error e, c)
  | .ok fd => do
    match ← awaitReadable fd timeout with
    | .error e => return (.error e, c)
    | .ok () =>
      let result := viewed view (← askUninterrupted (.receive fd capacity))
      noteReceive c fd result
      return afterReceive c result

/-- The data of a receive, whoever sent it. -/
def bytesOnly {capacity : Nat} (received : Received capacity) : Except IoError (List UInt8) :=
  .ok received.bytes

/-! ### Liveness -/

/-- Whether a connection still takes data: the descriptor reports no hang-up, and sending
nothing does not fail. -/
def isAlive (fd : Descriptor) : Act σ Bool := do
  match ← peerHungUp fd with
  | .ok false =>
    match ← ask (.send fd [] none true) with
    | .ok _ => return true
    | .error e => return e.kind = .wouldBlock
  | .ok true | .error _ => return false

end Channel

end ProfiledSocket
