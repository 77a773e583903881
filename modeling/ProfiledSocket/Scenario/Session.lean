/-
Running scenarios.

A session holds sockets by name on a host without a network. Every step is done with one of
them and gives an answer, which shows how it went, the socket afterwards and what was reported
meanwhile.

Main definitions:
* `Scenario.Session` — the state between two steps;
* `Scenario.Answer` — the answer to a step;
* `Scenario.Session.step`, `Scenario.run` — one step, and all of them.
-/
import ProfiledSocket.Scenario.PortNames
import ProfiledSocket.Scenario.Step

namespace ProfiledSocket.Scenario

/-! ### Sockets of any sort -/

/-- A socket of any sort. -/
inductive Handle
  | stream (socket : Stream)
  | peer (socket : Peer)
  | datagram (socket : Datagram)

namespace Handle

/-- The descriptor of a socket. -/
def descriptor : Handle → Option Descriptor
  | stream s => s.descriptor
  | peer p => p.descriptor
  | datagram d => d.descriptor

/-- Lets go of a socket. Its descriptor is closed without a word. -/
def drop {σ : Type} [Kernel σ] (h : Handle) : Act σ Unit :=
  match h.descriptor with
  | none => return ()
  | some fd => closeDescriptor fd

/-- The address of a socket itself. -/
def localAddress : Handle → Option Endpoint
  | stream s => s.localAddress
  | peer _ => none
  | datagram d => d.localAddress

/-- The counters of a socket. -/
def traffic : Handle → Traffic
  | stream s => s.traffic
  | peer p => p.traffic
  | datagram d => d.traffic

/-- The word for the sort of a socket. -/
def sort : Handle → String
  | stream _ => "stream"
  | peer _ => "peer"
  | datagram _ => "datagram"

/-- Sends data to the peer. -/
def send (h : Handle) (data : List UInt8) : Act Host (Except SocketError Nat × Handle) := do
  match h with
  | stream s => let (result, s) ← s.send data; return (result, stream s)
  | peer p => let (result, p) ← p.send data; return (result, peer p)
  | datagram d => let (result, d) ← d.send data; return (result, datagram d)

/-- Receives data. -/
def receive (h : Handle) (capacity : Nat) (timeout : Timeout) :
    Act Host (Except SocketError (List UInt8) × Handle) := do
  match h with
  | stream s => let (result, s) ← s.receive capacity timeout; return (result, stream s)
  | peer p => let (result, p) ← p.receive capacity timeout; return (result, peer p)
  | datagram d => let (result, d) ← d.receive capacity timeout; return (result, datagram d)

end Handle

/-! ### Answers -/

/-- An error as an answer shows it. -/
structure Failure where
  kind : String
  message : String

/-- What was seen of a probe. -/
inductive Reading
  | flag (value : Bool)
  | number (value : Option Nat)

/-- The value of a step that went well. -/
inductive Value
  | nothing
  /-- There is no answer yet. -/
  | transient
  | flag (value : Bool)
  | number (value : Int)
  | text (value : String)
  | received (data : List UInt8)
  /-- The time is left out if it is the machine's own. -/
  | delivered (data : List UInt8) (source : String) (timestamp : Option UInt64)
  | profile (profile : Profile)
  | filled (ended : Option Failure) (shortWrite anySent countersMatch : Bool)
  | collected (ended : Option Failure) (data : List UInt8) (countersMatch : Bool)
  | readings (readings : List (String × Reading))

/-- How a step went. -/
inductive Outcome
  | ok (value : Value)
  | failed (failure : Failure)
  /-- There was nothing to do it with. -/
  | skipped (reason : String)

/-- A socket as an answer shows it. Its counters are left out once they depend on how much the
system took at a time. -/
inductive View
  | stream (isOpen isBound : Bool) (state : String) (own remote : Option String)
      (backlog : Option Int) (traffic : Option Traffic)
  | peer (isOpen : Bool) (address : String) (traffic : Option Traffic)
  | datagram (isOpen isBound isConnected : Bool) (own defaultPeer : Option String)
      (traffic : Option Traffic)

/-- The answer to a step. -/
structure Answer where
  outcome : Outcome
  /-- The socket after the step, if the step is done with one. -/
  view : Option (Option View)
  log : List String

/-! ### Sessions -/

/-- The state between two steps. -/
structure Session where
  world : World Host := ⟨{}, []⟩
  sockets : List (String × Handle) := []
  names : PortNames := {}
  /-- The source port of the last datagram that each socket received. -/
  sources : List (String × UInt16) := []
  /-- The names of which the counters are left out. -/
  uncounted : List String := []

/-- A computation that changes a session. -/
abbrev SessionM := StateM Session

namespace Session

/-- Lets something happen in the world of the session. -/
def act {α : Type} (action : Act Host α) : SessionM α := fun s =>
  let (value, world) := action s.world
  (value, { s with world })

/-- Changes the host behind the back of the sockets. -/
def onHost {α : Type} (change : Host → α × Host) : SessionM α :=
  act fun w =>
    let (value, kernel) := change w.kernel
    (value, { w with kernel })

/-- Gives a name to a socket, in place of the one that had it. -/
def put (name : String) (handle : Handle) : SessionM Unit :=
  modify fun s => { s with
    sockets := (name, handle) :: s.sockets.filter fun entry => entry.1 != name }

/-- Forgets a socket, which lets go of it. -/
def forget (name : String) : SessionM Unit := do
  match (← get).sockets.lookup name with
  | none => return ()
  | some handle =>
    act handle.drop
    modify fun s => { s with sockets := s.sockets.filter fun entry => entry.1 != name }

/-- An error as shown. -/
def failure (e : SocketError) : Failure := ⟨e.kind.name, e.message⟩

/-- The outcome of an operation that has a value. -/
def outcome {α : Type} (result : Except SocketError α) (value : α → Value) : Outcome :=
  match result with
  | .ok a => .ok (value a)
  | .error e => .failed (failure e)

/-- The outcome of an operation that has none. -/
def done (result : Except SocketError Unit) : Outcome := outcome result fun _ => .nothing

/-- A step that asks for something that cannot be. -/
def refused (message : String) : Outcome := .failed ⟨"BadRequest", message⟩

/-- The port that a step means. -/
def resolve (port : PortRef) (s : Session) : Except String UInt16 :=
  match port with
  | .literal n => .ok n
  | .ownOf name =>
    match s.names.ownPort? name with
    | some n => .ok n
    | none => .error (name ++ " has no port yet")
  | .sourceOf name =>
    match s.sources.lookup name with
    | some n => .ok n
    | none => .error (name ++ " has no source yet")

/-! ### Repeated transfers -/

/-- The counters after a fill, if all agrees. -/
def sentAlso (before : Traffic) (calls bytes : Nat) : Traffic :=
  { before with
    txPackets := before.txPackets + UInt64.ofNat calls
    txBytes := before.txBytes + UInt64.ofNat bytes }

/-- The counters after a collection, if all agrees. -/
def receivedAlso (before : Traffic) (calls bytes : Nat) : Traffic :=
  { before with
    rxPackets := before.rxPackets + UInt64.ofNat calls
    rxBytes := before.rxBytes + UInt64.ofNat bytes }

/-- The sizes that were sent of `data`, at most so many times, and the error that ended it. -/
def sendAgain (data : List UInt8) : Nat → Handle →
    Act Host (List Nat × Option SocketError × Handle)
  | 0, h => return ([], none, h)
  | times + 1, h => do
    match ← h.send data with
    | (.error e, h) => return ([], some e, h)
    | (.ok n, h) =>
      let (sizes, ended, h) ← sendAgain data times h
      return (n :: sizes, ended, h)

/-- The pieces that were received until there are `total` bytes, and the error that ended it.
`tries` bounds the number of pieces. -/
def receiveAgain (capacity : Nat) (timeout : Timeout) : Nat → Nat → Handle →
    Act Host (List (List UInt8) × Option SocketError × Handle)
  | 0, _, h => return ([], none, h)
  | tries + 1, total, h => do
    if total = 0 then return ([], none, h)
    else
      match ← h.receive capacity timeout with
      | (.error e, h) => return ([], some e, h)
      | (.ok data, h) =>
        let (pieces, ended, h) ← receiveAgain capacity timeout tries (total - data.length) h
        return (data :: pieces, ended, h)

/-- Leaves the counters of a name out from now on. -/
def uncount (name : String) : SessionM Unit :=
  modify fun s => { s with uncounted := name :: s.uncounted }

/-- Sends the same data again and again. -/
def fill (name : String) (h : Handle) (data : List UInt8) (times : Nat) : SessionM Outcome := do
  let (sizes, ended, after) ← act (sendAgain data times h)
  put name after
  uncount name
  return .ok (.filled (ended.map failure) (sizes.any (· < data.length)) (!sizes.isEmpty)
    (after.traffic = sentAlso h.traffic sizes.length (sizes.foldl (· + ·) 0)))

/-- Receives until there are so many bytes. -/
def collect (name : String) (h : Handle) (capacity total : Nat) (timeout : Timeout) :
    SessionM Outcome := do
  let (pieces, ended, after) ← act (receiveAgain capacity timeout (total + 1) total h)
  put name after
  uncount name
  let data := pieces.flatten
  return .ok (.collected (ended.map failure) data
    (after.traffic = receivedAlso h.traffic pieces.length data.length))

/-! ### Looking past the sockets -/

/-- What a probe shows of a descriptor. -/
def reading (host : Host) (fd : Descriptor) (name : String) : Reading :=
  match Probe.ofName? name with
  | some .nonblocking => .flag (host.isNonblocking fd)
  | some (.option option) => .number (host.option? fd option)
  | none => .number none

/-- What is done with a descriptor, if the action is one that is done so. -/
def onDescriptor? (fd : Descriptor) : Action → Option (SessionM Outcome)
  | .probe probes => some do
    let host := (← get).world.kernel
    return .ok (.readings (probes.map fun name => (name, reading host fd name)))
  | .shutdown how => some do
    let succeeded ← onHost fun h => h.shutdown fd how
    return .ok (.number (if succeeded then 0 else -1))
  | .replace object => some do
    onHost fun h => ((), h.replace fd object)
    return .ok (.flag true)
  | .waitReady interest millis => some do
    match ← act (waitReady fd interest millis) with
    | .ok .ready => return .ok (.text "Ready")
    | .ok .timedOut => return .ok (.text "TimedOut")
    | .error e => return .ok (.text e.message)
  | .peerHungUp => some do
    match ← act (peerHungUp fd) with
    | .ok hungUp => return .ok (.text (Text.bool hungUp))
    | .error e => return .ok (.text e.message)
  | _ => none

/-! ### Actions -/

/-- What is done with a stream socket. -/
def onStream (name : String) (s : Stream) (session : Session) : Action → SessionM Outcome
  | .bind ip port =>
    match session.resolve port with
    | .error message => return refused message
    | .ok port => do
      let (result, s) ← act (s.bind ip port)
      put name (.stream s)
      return done result
  | .listen backlog => do
    let (result, s) ← act (s.listen backlog)
    put name (.stream s)
    return done result
  | .accept as timeout => do
    let result ← act (s.accept timeout)
    if let .ok peer := result then
      forget as
      put as (.peer peer)
    return outcome result fun _ => .nothing
  | .connect ip port timeout =>
    match session.resolve port with
    | .error message => return refused message
    | .ok port => do
      let (result, s) ← act (s.connect ip port timeout)
      put name (.stream s)
      return done result
  | .reconnect timeout => do
    let (result, s) ← act (s.reconnect timeout)
    put name (.stream s)
    return done result
  | .isConnected => do
    let (alive, s) ← act s.isConnected
    put name (.stream s)
    return .ok (.flag alive)
  | .send data => do
    let (result, s) ← act (s.send data)
    put name (.stream s)
    return outcome result fun n => .number n
  | .receive capacity timeout => do
    let (result, s) ← act (s.receive capacity timeout)
    put name (.stream s)
    return outcome result .received
  | .setOption option value => do
    let result ← act (s.setOption option value)
    return done result
  | .close => do
    let (result, s) ← act s.close
    put name (.stream s)
    return done result
  | .profile => return .ok (.profile s.profile)
  | _ => return refused (name ++ " is a stream")

/-- What is done with a peer connection. -/
def onPeer (name : String) (p : Peer) : Action → SessionM Outcome
  | .send data => do
    let (result, p) ← act (p.send data)
    put name (.peer p)
    return outcome result fun n => .number n
  | .receive capacity timeout => do
    let (result, p) ← act (p.receive capacity timeout)
    put name (.peer p)
    return outcome result .received
  | .close => do
    let (result, p) ← act p.close
    put name (.peer p)
    return done result
  | _ => return refused (name ++ " is a peer")

/-- What is done with a datagram socket. -/
def onDatagram (name : String) (d : Datagram) (session : Session) : Action → SessionM Outcome
  | .bind ip port =>
    match session.resolve port with
    | .error message => return refused message
    | .ok port => do
      let (result, d) ← act (d.bind ip port)
      put name (.datagram d)
      return done result
  | .connect ip port _ =>
    match session.resolve port with
    | .error message => return refused message
    | .ok port => do
      let (result, d) ← act (d.connect ip port)
      put name (.datagram d)
      return done result
  | .isConnected => return .ok (.flag d.isConnected)
  | .send data => do
    let (result, d) ← act (d.send data)
    put name (.datagram d)
    return outcome result fun n => .number n
  | .sendTo data ip port =>
    match session.resolve port with
    | .error message => return refused message
    | .ok port => do
      let (result, d) ← act (d.sendTo data ip port)
      put name (.datagram d)
      return outcome result fun n => .number n
  | .receive capacity timeout => do
    let (result, d) ← act (d.receive capacity timeout)
    put name (.datagram d)
    return outcome result .received
  | .receiveFrom capacity timeout => do
    let (result, d) ← act (d.receiveFrom capacity timeout)
    put name (.datagram d)
    if let .ok delivery := result then
      modify fun s => { s with sources := (name, delivery.source.port) :: s.sources }
    return outcome result fun delivery =>
      let timestamp :=
        match d.clock with
        | .system => if delivery.timestamp = 0 then some 0 else none
        | .readings _ => some delivery.timestamp
      .delivered delivery.data (session.names.endpoint delivery.source) timestamp
  | .setOption option value => do
    let result ← act (d.setOption option value)
    return done result
  | .close => do
    let (result, d) ← act d.close
    put name (.datagram d)
    return done result
  | .profile => return .ok (.profile d.profile)
  | _ => return refused (name ++ " is a datagram")

/-- Stores a new socket, after which the one that had the name is forgotten. -/
def store (name : String) (result : Except SocketError Handle) : SessionM Outcome := do
  match result with
  | .error e => return .failed (failure e)
  | .ok handle =>
    forget name
    put name handle
    return .ok .nothing

/-- What is done with a socket that there is. -/
def onHandle (name : String) (h : Handle) (action : Action) : SessionM Outcome := do
  match action with
  | .look => return .ok .nothing
  | .drop => forget name; return .ok .nothing
  | .fill data times => fill name h data times
  | .collect capacity total timeout => collect name h capacity total timeout
  | .probe _ | .shutdown _ | .replace _ | .waitReady .. | .peerHungUp =>
    match h.descriptor with
    | none => return .skipped "closed"
    | some fd => (onDescriptor? fd action).getD (return .skipped "closed")
  | action =>
    match h with
    | .stream s => onStream name s (← get) action
    | .peer p => onPeer name p action
    | .datagram d => onDatagram name d (← get) action

/-- Does something with the socket of a name. -/
def perform (name : String) (action : Action) : SessionM Outcome := do
  match action with
  | .newStream profile =>
    let result ← act (Stream.new profile)
    store name (result.map .stream)
  | .newDatagram profile clock =>
    let result ← act (Datagram.new profile clock)
    store name (result.map .datagram)
  | action =>
    match (← get).sockets.lookup name with
    | none => return .skipped "no such socket"
    | some h => onHandle name h action

/-! ### Steps -/

/-- Does something under the given circumstances, which end with it. -/
def underCircumstances (c : Circumstances) (body : SessionM Outcome) : SessionM Outcome := do
  let before := (← get).world.kernel.fileLimit
  if let some limit := c.fileLimit then
    onHost fun h => ((), h.withFileLimit limit)
  if let some d := c.disturbance then
    let sockets := (← get).sockets
    let through := do (← sockets.lookup (← d.through)).descriptor
    onHost fun h => ((), h.withSignals d.untilDelivery through d.data)
  let result ← body
  onHost fun h => ((), (h.withFileLimit before).withoutSignals)
  return result

/-- An outcome in which a transient error is no answer yet. -/
def Outcome.polled : Outcome → Outcome
  | .failed f =>
    if f.kind = SocketError.Kind.name .timeout ∨ f.kind = SocketError.Kind.name .wouldBlock then
      .ok .transient
    else .failed f
  | outcome => outcome

/-- Notes the local port of a socket after a step. -/
def recordPort (name : String) (action : Action) : SessionM Unit := do
  let s ← get
  match (s.sockets.lookup name).bind Handle.localAddress with
  | none => return ()
  | some own =>
    let asked :=
      match action with
      | .bind _ port => (s.resolve port).toOption.any (· ≠ 0)
      | _ => false
    set { s with names := s.names.record name own.port asked }

/-- A failure with its message as shown. -/
def showFailure (names : PortNames) (f : Failure) : Failure :=
  { f with message := names.message f.message }

/-- An outcome with its messages as shown. -/
def showOutcome (names : PortNames) : Outcome → Outcome
  | .failed f => .failed (showFailure names f)
  | .ok (.filled ended shortWrite anySent countersMatch) =>
    .ok (.filled (ended.map (showFailure names)) shortWrite anySent countersMatch)
  | .ok (.collected ended data countersMatch) =>
    .ok (.collected (ended.map (showFailure names)) data countersMatch)
  | outcome => outcome

/-- The socket of a name as shown. -/
def view (s : Session) (name : String) : Option View :=
  (s.sockets.lookup name).map fun h =>
    let traffic := if s.uncounted.contains name then none else some h.traffic
    let shown := Option.map s.names.endpoint
    match h with
    | .stream x =>
      .stream x.isOpen x.isBound x.state.text (shown x.localAddress) (shown x.remote)
        (x.backlog.map Int32.toInt) traffic
    | .peer p => .peer p.isOpen (s.names.endpoint p.address) traffic
    | .datagram d =>
      .datagram d.isOpen d.isBound d.isConnected (shown d.localAddress) (shown d.defaultPeer)
        traffic

/-- What was reported since this was asked last, as shown. -/
def takeLog : SessionM (List String) := fun s =>
  let lines := s.world.log.reverse.map fun e => s.names.message e.line
  (lines, { s with world := { s.world with log := [] } })

/-- Takes one step. -/
def step (step : Step) : SessionM Answer := do
  match step with
  | .sleep millis =>
    onHost fun h => ((), h.sleep millis)
    return ⟨.ok .nothing, none, ← takeLog⟩
  | .act name action circumstances =>
    modify fun s => { s with names := s.names.state action.literalPort? }
    let outcome ← underCircumstances circumstances (perform name action)
    let outcome := if circumstances.polled then Outcome.polled outcome else outcome
    recordPort name action
    let s ← get
    return ⟨showOutcome s.names outcome, some (s.view name), ← takeLog⟩

end Session

/-- Takes all steps of a scenario. -/
def run (steps : List Step) : List Answer :=
  (steps.mapM Session.step {}).1

end ProfiledSocket.Scenario
