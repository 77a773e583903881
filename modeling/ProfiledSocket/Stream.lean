/-
Stream sockets.

A stream socket keeps track of its own state. It can listen for connections or have one itself,
and a connection that was lost can be made again. All waiting goes through readiness with the
caller's timeout, so waiting and non-waiting descriptors behave the same.

Every operation has three parts: checks on the arguments and the state, a talk with the kernel,
and the change of the socket that the outcome of the talk calls for.

Main definitions:
* `Stream` — a stream socket;
* `Stream.new` — a socket for a profile;
* `Stream.bind`, `Stream.listen`, `Stream.accept` — being found;
* `Stream.connect`, `Stream.reconnect`, `Stream.isConnected` — having a connection;
* `Stream.send`, `Stream.receive` — using it;
* `Stream.setOption`, `Stream.close` — the rest.
-/
import ProfiledSocket.Endpoint.Read
import ProfiledSocket.Peer
import ProfiledSocket.State

namespace ProfiledSocket

variable {σ : Type} [Kernel σ]

/-- A stream socket. -/
structure Stream where
  descriptor : Option Descriptor
  localAddress : Option Endpoint
  /-- The endpoint of the latest connection, kept for making it again. -/
  remote : Option Endpoint
  isBound : Bool
  state : ConnectionState
  traffic : Traffic
  backlog : Option Int32
  profile : Profile
deriving DecidableEq

/-- An address in a message, if there is one. -/
def Endpoint.optionText (addr : Option Endpoint) : String :=
  Text.optional (addr.map Endpoint.text)

instance : Channel Stream where
  descriptor s := s.descriptor
  traffic s := s.traffic
  withTraffic s t := { s with traffic := t }
  obstacle? s _ :=
    if s.state = .connected then none else some (.notInitialized "socket is not connected")
  endsWithNothing := true
  afterFailure s := { s with state := .disconnected }
  failureReport? s :=
    some ("transfer failed - connection to " ++ Endpoint.optionText s.remote ++
      " is considered lost")
  afterEnd s := { s with state := .disconnected }
  endReport? s := some ("connection closed by " ++ Endpoint.optionText s.remote)

/-! ### Talks with the kernel -/

/-- The address that the kernel gave a descriptor, if it tells one. -/
def localEndpoint (fd : Descriptor) : Act σ (Option Endpoint) := do
  match ← ask (.localAddress fd) with
  | .ok addr => return addr
  | .error _ => return none

/-- Binds a descriptor. The result is the address it got, or the one asked for if the kernel
does not tell. -/
def bindDescriptor (fd : Descriptor) (addr : Endpoint) : Act σ (Except SocketError Endpoint) := do
  match ← ask (.bind fd addr) with
  | .error e => return .error (.bind addr (.os e))
  | .ok () => return .ok ((← localEndpoint fd).getD addr)

/-- Brings a connection attempt to its end. One that goes on in the background is waited for,
even if the timeout is zero, and then asked how it went. -/
def establish (fd : Descriptor) (addr : Endpoint) (timeout : Timeout) :
    Act σ (Except SocketError Unit) := do
  match ← ask (.connect fd addr) with
  | .ok () => return .ok ()
  | .error e =>
    if e = .inProgress ∨ e.kind = .wouldBlock ∨ e.kind = .interrupted then
      match ← waitReady fd .write timeout.millis with
      | .ok .timedOut => return .error .timeout
      | .error e => return .error (.connect addr e)
      | .ok .ready =>
        match ← ask (.takeError fd) with
        | .ok none => return .ok ()
        | .ok (some e) => return .error (.connect addr (.os e))
        | .error e => return .error (.connect addr (.os e))
    else return .error (.connect addr (.os e))

/-- Puts a descriptor into non-blocking mode. -/
def makeNonblocking (fd : Descriptor) : Act σ (Except SocketError Unit) := do
  match ← ask (.setNonblocking fd true) with
  | .ok () => return .ok ()
  | .error e => return .error (.socketOption "O_NONBLOCK" (.os e))

/-- Puts a descriptor into non-blocking mode for a while, unless it always is. -/
def enterNonblocking (fd : Descriptor) (always : Bool) : Act σ (Except SocketError Unit) :=
  if always then return .ok () else makeNonblocking fd

/-- Puts a descriptor back into blocking mode, unless it is never to be in it. If that fails
after something else has failed, it is only reported. -/
def leaveNonblocking (fd : Descriptor) (always : Bool) (outcome : Except SocketError Unit) :
    Act σ (Except SocketError Unit) := do
  if always then return outcome
  else
    match ← ask (.setNonblocking fd false), outcome with
    | .ok (), _ => return outcome
    | .error e, .ok () => return .error (.socketOption "O_NONBLOCK" (.os e))
    | .error e, .error cause =>
      note .warn ("failed to restore blocking mode on fd " ++ fd.text ++ ": " ++
        (IoError.os e).message)
      return .error cause

namespace Stream

/-! ### Creation -/

/-- The socket with a new descriptor for a profile. -/
def ofDescriptor (fd : Descriptor) (profile : Profile) : Stream where
  descriptor := some fd
  localAddress := none
  remote := none
  isBound := false
  state := .disconnected
  traffic := .zero
  backlog := none
  profile := profile

/-- A socket for a profile. -/
def new (profile : Profile) : Act σ (Except SocketError Stream) :=
  match profile.fault? with
  | some fault => do
    note .warn ("rejecting tuning profile: " ++ fault.message)
    return .error .invalidProfile
  | none => do
    match ← openSocket .stream profile.streamSettings with
    | .error e => return .error e
    | .ok fd =>
      note .debug ("created stream socket on fd " ++ fd.text)
      return .ok (ofDescriptor fd profile)

/-- Whether the socket has a descriptor. -/
def isOpen (s : Stream) : Bool := s.descriptor.isSome

/-! ### Being found -/

/-- What `bind` demands: an open socket that is neither bound nor in use, and an address. -/
def checkBind (s : Stream) (ip : String) (port : UInt16) :
    Except SocketError (Descriptor × Endpoint) := do
  let fd ← Channel.held s
  if s.state ≠ .disconnected ∨ s.isBound then
    throw (.invalidParam "bind requires an unbound, disconnected socket")
  let addr ← Endpoint.read ip port
  return (fd, addr)

/-- Allows the address to be taken again as soon as the socket is gone, then binds. -/
def bindReusable (fd : Descriptor) (addr : Endpoint) : Act σ (Except SocketError Endpoint) := do
  match ← ask (setInt fd .reuseAddress 1) with
  | .error e => return .error (.socketOption "SO_REUSEADDR" (.os e))
  | .ok () =>
    match ← bindDescriptor fd addr with
    | .error e => return .error e
    | .ok own =>
      note .debug ("bound fd " ++ fd.text ++ " to " ++ own.text)
      return .ok own

/-- The socket after an attempt to bind it, and what the caller is told. -/
def afterBind (s : Stream) : Except SocketError Endpoint → Except SocketError Unit × Stream
  | .error e => (.error e, s)
  | .ok own => (.ok (), { s with localAddress := some own, isBound := true })

/-- Takes an address. -/
def bind (s : Stream) (ip : String) (port : UInt16) : Act σ (Except SocketError Unit × Stream) :=
  match s.checkBind ip port with
  | .error e => return (.error e, s)
  | .ok (fd, addr) => do return s.afterBind (← bindReusable fd addr)

/-- What `listen` demands: an open, bound socket without a connection. -/
def checkListen (s : Stream) : Except SocketError Descriptor := do
  let fd ← Channel.held s
  if !s.isBound then throw (.invalidParam "listen requires a bound socket")
  if s.state = .connecting ∨ s.state = .connected then
    throw (.invalidParam "cannot listen on a connected socket")
  return fd

/-- Lets a descriptor take connections. `own` is its address, for the report. -/
def listenOn (fd : Descriptor) (own : Option Endpoint) (backlog : Int32) :
    Act σ (Except SocketError Unit) := do
  match ← ask (.listen fd backlog) with
  | .error e => return .error (.listen (.os e))
  | .ok () =>
    note .debug ("listening on " ++ Endpoint.optionText own ++ " with backlog " ++
      toString backlog.toInt)
    return .ok ()

/-- The socket after an attempt to listen, and what the caller is told. -/
def afterListen (s : Stream) (backlog : Int32) :
    Except SocketError Unit → Except SocketError Unit × Stream
  | .error e => (.error e, s)
  | .ok () => (.ok (), { s with state := .listening, backlog := some backlog })

/-- Takes connections from now on, `backlog` of them before the first is accepted. -/
def listen (s : Stream) (backlog : Int32) : Act σ (Except SocketError Unit × Stream) :=
  match s.checkListen with
  | .error e => return (.error e, s)
  | .ok fd => do return s.afterListen backlog (← listenOn fd s.localAddress backlog)

/-- What `accept` demands: a listening socket. -/
def checkAccept (s : Stream) : Except SocketError Descriptor := do
  if s.state ≠ .listening then
    throw (.invalidParam "accept requires a listening socket")
  Channel.held s

/-- Waits for a connection, unless the timeout is zero. -/
def awaitConnection (fd : Descriptor) (timeout : Timeout) : Act σ (Except SocketError Unit) := do
  if timeout.millis = 0 then return .ok ()
  else
    match ← waitReady fd .read timeout.millis with
    | .ok .ready => return .ok ()
    | .ok .timedOut => return .error .timeout
    | .error e => return .error (.accept e)

/-- Makes a peer connection of an accepted descriptor, which is closed if that fails. -/
def adopt (fd : Descriptor) (address : Option Endpoint) (nonblocking : Bool) :
    Act σ (Except SocketError Peer) := do
  match ← (if nonblocking then makeNonblocking fd else return .ok ()) with
  | .error e =>
    closeDescriptor fd
    return .error e
  | .ok () =>
    match address with
    | none =>
      closeDescriptor fd
      return .error (.accept (.custom .invalidData "peer is not IPv4"))
    | some address =>
      note .debug ("accepted connection from " ++ address.text ++ " on fd " ++ fd.text)
      return .ok (.new fd address)

/-- Takes over a connection, waiting for one at most `timeout`. The listener stays as it is,
and an interrupted attempt counts as one that ran out of time, so this can be repeated. -/
def accept (s : Stream) (timeout : Timeout) : Act σ (Except SocketError Peer) :=
  match s.checkAccept with
  | .error e => return .error e
  | .ok fd => do
    match ← awaitConnection fd timeout with
    | .error e => return .error e
    | .ok () =>
      match ← ask (.accept fd) with
      | .ok (accepted, address) => adopt accepted address s.profile.wantsNonblocking
      | .error e =>
        if e.kind = .wouldBlock ∨ e.kind = .interrupted then return .error .timeout
        else return .error (.accept (.os e))

/-! ### Having a connection -/

/-- What `connect` demands: an open socket that neither is connected nor listens, and an
address. -/
def checkConnect (s : Stream) (ip : String) (port : UInt16) :
    Except SocketError (Descriptor × Endpoint) := do
  if s.state = .connected then throw .alreadyConnected
  if s.state = .listening then
    throw (.invalidParam "cannot connect a listening socket")
  let fd ← Channel.held s
  let addr ← Endpoint.read ip port
  return (fd, addr)

/-- Makes a connection attempt on a descriptor that does not wait, then puts it back into
blocking mode unless it is never to be in it. The result is the address that the descriptor has
now, if the kernel tells. -/
def attempt (fd : Descriptor) (addr : Endpoint) (timeout : Timeout) (always : Bool) :
    Act σ (Except SocketError (Option Endpoint)) := do
  note .trace ("connecting fd " ++ fd.text ++ " to " ++ addr.text)
  let outcome ← establish fd addr timeout
  match ← leaveNonblocking fd always outcome with
  | .ok () =>
    let own ← localEndpoint fd
    note .debug ("connected " ++ Endpoint.optionText own ++ " -> " ++ addr.text)
    return .ok own
  | .error e =>
    note .debug ("connecting to " ++ addr.text ++ " failed: " ++ e.message)
    return .error e

/-- A connecting socket after its attempt to reach `addr`, and what the caller is told. -/
def afterAttempt (s : Stream) (addr : Endpoint) :
    Except SocketError (Option Endpoint) → Except SocketError Unit × Stream
  | .error e => (.error e, { s with state := .disconnected })
  | .ok own =>
    (.ok (), { s with localAddress := own, remote := some addr, state := .connected })

/-- Connects the descriptor of a socket. The socket is connecting while the attempt lasts. -/
def connectTo (s : Stream) (fd : Descriptor) (addr : Endpoint) (timeout : Timeout) :
    Act σ (Except SocketError Unit × Stream) := do
  match ← enterNonblocking fd s.profile.wantsNonblocking with
  | .error e => return (.error e, s)
  | .ok () =>
    let outcome ← attempt fd addr timeout s.profile.wantsNonblocking
    return { s with state := .connecting }.afterAttempt addr outcome

/-- Connects to an endpoint, waiting for it at most `timeout`. -/
def connect (s : Stream) (ip : String) (port : UInt16) (timeout : Timeout) :
    Act σ (Except SocketError Unit × Stream) :=
  match s.checkConnect ip port with
  | .error e => return (.error e, s)
  | .ok (fd, addr) => s.connectTo fd addr timeout

/-- The socket without its descriptor and all that belongs to it. -/
def released (s : Stream) : Stream :=
  { s with
    descriptor := none
    localAddress := none
    isBound := false
    state := .disconnected
    backlog := none }

/-- Gives a descriptor back, if there is one. -/
def release : Option Descriptor → Act σ Unit
  | none => return ()
  | some fd => do
    note .debug ("closing fd " ++ fd.text)
    closeDescriptor fd

/-- Connects a socket without a descriptor over a new one. -/
def connectAnew (s : Stream) (addr : Endpoint) (timeout : Timeout) :
    Act σ (Except SocketError Unit × Stream) := do
  match ← openSocket .stream s.profile.streamSettings with
  | .error e => return (.error e, s)
  | .ok fd => connectTo { s with descriptor := some fd } fd addr timeout

/-- Makes the latest connection again over a new descriptor. A socket that is connected stays
as it is. -/
def reconnect (s : Stream) (timeout : Timeout) : Act σ (Except SocketError Unit × Stream) :=
  match s.remote with
  | none => return (.error (.notInitialized "no endpoint to reconnect to"), s)
  | some addr =>
    if s.state = .connected then return (.ok (), s)
    else do
      note .debug ("reconnecting to " ++ addr.text)
      release s.descriptor
      let (result, s) ← s.released.connectAnew addr timeout
      return (result.mapError (.reconnect addr), s)

/-- Whether a connection can still be used; a report if not. -/
def probe (fd : Descriptor) (remote : Option Endpoint) : Act σ Bool := do
  if ← Channel.isAlive fd then return true
  else
    note .debug ("connection to " ++ Endpoint.optionText remote ++ " is broken")
    return false

/-- The descriptor of a connected socket. -/
def connectedDescriptor? (s : Stream) : Option Descriptor :=
  if s.state = .connected then s.descriptor else none

/-- Whether the connection can still be used. If not, the socket is disconnected from now on. -/
def isConnected (s : Stream) : Act σ (Bool × Stream) :=
  match s.connectedDescriptor? with
  | none => return (false, s)
  | some fd => do
    if ← probe fd s.remote then return (true, s)
    else return (false, { s with state := .disconnected })

/-! ### Using it -/

/-- Sends data; the result is how much of it the kernel took. -/
def send (s : Stream) (data : List UInt8) : Act σ (Except SocketError Nat × Stream) :=
  Channel.send s data none

/-- Receives at most `capacity` bytes. -/
def receive (s : Stream) (capacity : Nat) (timeout : Timeout) :
    Act σ (Except SocketError (List UInt8) × Stream) :=
  Channel.receive s capacity timeout Channel.bytesOnly

/-! ### Options and closing -/

/-- Gives a socket option a value as it stands. -/
def setOption (s : Stream) (option : OptionName) (value : List UInt8) :
    Act σ (Except SocketError Unit) :=
  setRawOption (Channel.held s) option value

/-- Gives the descriptor back. The endpoint of the latest connection stays known. -/
def close (s : Stream) : Act σ (Except SocketError Unit × Stream) :=
  match s.descriptor with
  | none => return (.error (.invalidParam "socket is already closed"), s)
  | some fd => do
    release (some fd)
    return (.ok (), s.released)

end Stream

end ProfiledSocket
