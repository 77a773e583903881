/-
Datagram sockets.

A datagram socket may have a default peer, to which `send` goes. Received datagrams come with
their source and the time of a clock that belongs to the socket.

Main definitions:
* `Clock` — where the times of received datagrams come from;
* `Datagram` — a datagram socket;
* `Datagram.new` — a socket for a profile;
* `Datagram.bind`, `Datagram.connect` — its own address and its default peer;
* `Datagram.send`, `Datagram.sendTo`, `Datagram.receive`, `Datagram.receiveFrom` — transfers;
* `Datagram.readClock` — the time that a received datagram comes with;
* `Datagram.setOption`, `Datagram.close` — the rest.
-/
import ProfiledSocket.Stream

namespace ProfiledSocket

variable {σ : Type} [Kernel σ]

/-- Where the times of received datagrams come from: the machine's clock, or given readings, one
after the other. A reading may fail. -/
inductive Clock
  | system
  | readings (values : Nat → Option UInt64)

/-- A datagram socket. -/
structure Datagram where
  descriptor : Option Descriptor
  localAddress : Option Endpoint
  defaultPeer : Option Endpoint
  isBound : Bool
  traffic : Traffic
  profile : Profile
  clock : Clock
  /-- How often the clock has been read. -/
  clockReads : Nat

instance : Channel Datagram where
  descriptor d := d.descriptor
  traffic d := d.traffic
  withTraffic d t := { d with traffic := t }
  obstacle? d
    | .sending =>
      if d.defaultPeer.isSome then none
      else some (.notInitialized "no default peer - use send_to or connect first")
    | .receiving => none
  endsWithNothing := false
  afterFailure d := d
  failureReport? _ := none
  afterEnd d := d
  endReport? _ := none

/-- A received datagram. -/
structure Delivery where
  data : List UInt8
  source : Endpoint
  /-- Nanoseconds since the epoch; 0 if the clock could not be read. -/
  timestamp : UInt64
deriving DecidableEq

namespace Datagram

/-! ### Creation -/

/-- The socket with a new descriptor for a profile. -/
def ofDescriptor (fd : Descriptor) (profile : Profile) (clock : Clock) : Datagram where
  descriptor := some fd
  localAddress := none
  defaultPeer := none
  isBound := false
  traffic := .zero
  profile := profile
  clock := clock
  clockReads := 0

/-- A socket for a profile, with a clock. -/
def new (profile : Profile) (clock : Clock) : Act σ (Except SocketError Datagram) :=
  match profile.fault? with
  | some fault => do
    note .warn ("rejecting tuning profile: " ++ fault.message)
    return .error .invalidProfile
  | none => do
    match ← openSocket .datagram profile.datagramSettings with
    | .error e => return .error e
    | .ok fd =>
      note .debug ("created datagram socket on fd " ++ fd.text)
      return .ok (ofDescriptor fd profile clock)

/-- Whether the socket has a descriptor. -/
def isOpen (d : Datagram) : Bool := d.descriptor.isSome

/-- Whether the socket has a default peer. -/
def isConnected (d : Datagram) : Bool := d.defaultPeer.isSome

/-! ### Addresses -/

/-- What `bind` demands: an open socket that is not bound, and an address. -/
def checkBind (d : Datagram) (ip : String) (port : UInt16) :
    Except SocketError (Descriptor × Endpoint) := do
  let fd ← Channel.held d
  if d.isBound then throw (.invalidParam "socket is already bound")
  let addr ← Endpoint.read ip port
  return (fd, addr)

/-- Binds a descriptor and reports it. -/
def bindTo (fd : Descriptor) (addr : Endpoint) : Act σ (Except SocketError Endpoint) := do
  match ← bindDescriptor fd addr with
  | .error e => return .error e
  | .ok own =>
    note .debug ("bound datagram fd " ++ fd.text ++ " to " ++ own.text)
    return .ok own

/-- The socket after an attempt to bind it, and what the caller is told. -/
def afterBind (d : Datagram) : Except SocketError Endpoint → Except SocketError Unit × Datagram
  | .error e => (.error e, d)
  | .ok own => (.ok (), { d with localAddress := some own, isBound := true })

/-- Takes an address. -/
def bind (d : Datagram) (ip : String) (port : UInt16) :
    Act σ (Except SocketError Unit × Datagram) :=
  match d.checkBind ip port with
  | .error e => return (.error e, d)
  | .ok (fd, addr) => do return d.afterBind (← bindTo fd addr)

/-- What `connect` demands: an open socket and an address. -/
def checkConnect (d : Datagram) (ip : String) (port : UInt16) :
    Except SocketError (Descriptor × Endpoint) := do
  let fd ← Channel.held d
  let addr ← Endpoint.read ip port
  return (fd, addr)

/-- Gives a descriptor a default peer. The result is the address that it has now, if the kernel
tells. -/
def connectDescriptor (fd : Descriptor) (addr : Endpoint) :
    Act σ (Except SocketError (Option Endpoint)) := do
  match ← ask (.connect fd addr) with
  | .error e => return .error (.connect addr (.os e))
  | .ok () =>
    let own ← localEndpoint fd
    note .debug ("datagram fd " ++ fd.text ++ " now sends to " ++ addr.text ++ " by default")
    return .ok own

/-- The socket after an attempt to connect it to `addr`, and what the caller is told. -/
def afterConnect (d : Datagram) (addr : Endpoint) :
    Except SocketError (Option Endpoint) → Except SocketError Unit × Datagram
  | .error e => (.error e, d)
  | .ok own =>
    (.ok (), { d with defaultPeer := some addr, localAddress := own.or d.localAddress })

/-- Makes an endpoint the default peer. Datagrams from elsewhere no longer arrive then. -/
def connect (d : Datagram) (ip : String) (port : UInt16) :
    Act σ (Except SocketError Unit × Datagram) :=
  match d.checkConnect ip port with
  | .error e => return (.error e, d)
  | .ok (fd, addr) => do return d.afterConnect addr (← connectDescriptor fd addr)

/-! ### Transfers -/

/-- Sends a datagram to the default peer. -/
def send (d : Datagram) (data : List UInt8) : Act σ (Except SocketError Nat × Datagram) :=
  Channel.send d data none

/-- What `sendTo` demands of its arguments: data, then an address. -/
def checkDestination (data : List UInt8) (ip : String) (port : UInt16) :
    Except SocketError Endpoint :=
  if data.isEmpty then .error .emptyBuffer else Endpoint.read ip port

/-- Sends a datagram to an endpoint. -/
def sendTo (d : Datagram) (data : List UInt8) (ip : String) (port : UInt16) :
    Act σ (Except SocketError Nat × Datagram) :=
  match checkDestination data ip port with
  | .error e => return (.error e, d)
  | .ok destination => Channel.send d data (some destination)

/-- Receives a datagram, of which at most `capacity` bytes are kept. An empty one is a datagram
like any other. -/
def receive (d : Datagram) (capacity : Nat) (timeout : Timeout) :
    Act σ (Except SocketError (List UInt8) × Datagram) :=
  Channel.receive d capacity timeout Channel.bytesOnly

/-- The bytes of a datagram and its source, which has to be an IPv4 endpoint. -/
def bytesAndSource {capacity : Nat} (received : Received capacity) :
    Except IoError (List UInt8 × Endpoint) :=
  match received.source with
  | some source => .ok (received.bytes, source)
  | none => .error (.custom .invalidData "received from a non-IPv4 address")

/-- The socket after its clock has been read once more. -/
def clockRead (d : Datagram) : Datagram := { d with clockReads := d.clockReads + 1 }

/-- Reads the clock of the socket. The next time it is read, it is a reading further. -/
def readClock (d : Datagram) : Act σ (Option UInt64 × Datagram) := fun w =>
  match d.clock with
  | .system => ((Kernel.realtime w.kernel, d.clockRead), w)
  | .readings values => ((values d.clockReads, d.clockRead), w)

@[simp] theorem readClock_socket (d : Datagram) (w : World σ) :
    (d.readClock w).1.2 = d.clockRead := by
  unfold readClock
  split <;> rfl

@[simp] theorem readClock_world (d : Datagram) (w : World σ) : (d.readClock w).2 = w := by
  unfold readClock
  split <;> rfl

/-- Receives a datagram together with its source and the time. -/
def receiveFrom (d : Datagram) (capacity : Nat) (timeout : Timeout) :
    Act σ (Except SocketError Delivery × Datagram) := do
  match ← Channel.receive d capacity timeout bytesAndSource with
  | (.error e, d) => return (.error e, d)
  | (.ok (data, source), d) =>
    let (reading, d) ← d.readClock
    return (.ok ⟨data, source, reading.getD 0⟩, d)

/-! ### Options and closing -/

/-- Gives a socket option a value as it stands. -/
def setOption (d : Datagram) (option : OptionName) (value : List UInt8) :
    Act σ (Except SocketError Unit) :=
  setRawOption (Channel.held d) option value

/-- The socket without its descriptor. The local address stays on record. -/
def released (d : Datagram) : Datagram :=
  { d with descriptor := none, isBound := false, defaultPeer := none }

/-- Gives the descriptor back. -/
def close (d : Datagram) : Act σ (Except SocketError Unit × Datagram) :=
  match d.descriptor with
  | none => return (.error (.invalidParam "socket is already closed"), d)
  | some fd => do
    note .debug ("closing datagram fd " ++ fd.text)
    closeDescriptor fd
    return (.ok (), d.released)

end Datagram

end ProfiledSocket
