/-
The answers of the host.

Main definitions:
* `Host.answer` — what the host does when it is called;
* the host is a `Kernel`.
-/
import ProfiledSocket.Host.Options
import ProfiledSocket.Host.Waiting

namespace ProfiledSocket.Host

/-- The longest datagram, with its headers and without. -/
def datagramLimit : Nat × Nat := (65535, 65507)

/-- A new socket. -/
def openNew (h : Host) (transport : Transport) : Except Errno Descriptor × Host :=
  match h.allocate with
  | .error e => (.error e, h)
  | .ok fd => (.ok fd, h.putFile fd ⟨.socket (.new transport), false⟩)

/-- Takes a connection from a listener. None ever comes. -/
def accept (h : Host) (fd : Descriptor) : Errno × Host :=
  match h.usable fd with
  | .error e => (e, h)
  | .ok file =>
    match h.allocate, file with
    | .error e, _ => (e, h)
    | .ok _, ⟨.socket s, nonblocking⟩ =>
      if s.transport = .datagram then (.notSupported, h)
      else if !s.listening then (.invalidArgument, h)
      else if nonblocking then (.again, h)
      else h.waitForever
    | .ok _, _ => (.notSocket, h)

/-- Connects a socket. No network is reachable, but a datagram socket gets an address first. -/
def connect (h : Host) (fd : Descriptor) : Errno × Host :=
  match h.socket fd with
  | .error e => (e, h)
  | .ok (s, _) =>
    match s.transport with
    | .datagram => (.networkUnreachable, h.bindAnywhere fd s)
    | .stream => (if s.listening then .alreadyConnected else .networkUnreachable, h)

/-- Whether data can be sent as a datagram to an endpoint. What is sent to no address in
particular is dropped, everything else has no way to go. -/
def sendDatagram (s : Socket) (length : Nat) : Option Endpoint → Except Errno Nat
  | none => .error (if length > datagramLimit.1 then .messageTooLong else .destinationRequired)
  | some destination =>
    if length > datagramLimit.1 then .error .messageTooLong
    else if destination.port = 0 then .error .invalidArgument
    else if destination.ip ≠ .any then .error .networkUnreachable
    else if length > datagramLimit.2 then .error .messageTooLong
    else if s.writeShut then .error .brokenPipe
    else .ok length

/-- Sends data. -/
def send (h : Host) (fd : Descriptor) (data : List UInt8) (destination : Option Endpoint) :
    Except Errno Nat × Host :=
  match h.socket fd with
  | .error e => (.error e, h)
  | .ok (s, _) =>
    match s.transport with
    | .stream => (.error .brokenPipe, h)
    | .datagram => (sendDatagram s data.length destination, h.bindAnywhere fd s)

/-- Nothing at all, from nowhere. -/
def nothing (capacity : Nat) : Received capacity := ⟨[], none, Nat.zero_le _⟩

/-- Receives data. None ever comes, but a datagram socket that was shut for reading no longer
waits for it. -/
def receive (h : Host) (fd : Descriptor) (capacity : Nat) :
    Except Errno (Received capacity) × Host :=
  match h.socket fd with
  | .error e => (.error e, h)
  | .ok (s, nonblocking) =>
    match s.transport with
    | .stream => (.error .notConnected, h)
    | .datagram =>
      if nonblocking then (.error .again, h)
      else if s.readShut then (.ok (nothing capacity), h)
      else
        let (e, h) := h.waitForever
        (.error e, h)

/-- Gives an option of a socket a value. -/
def setOption (h : Host) (fd : Descriptor) (option : OptionName) (value : List UInt8) :
    Except Errno Unit × Host :=
  match h.socket fd with
  | .error e => (.error e, h)
  | .ok (s, _) =>
    match s.options.set s.transport option value with
    | .error e => (.error e, h)
    | .ok options => (.ok (), h.putSocket fd { s with options })

/-- Gives the options of keepalive of a socket their values. -/
def setKeepaliveTiming (h : Host) (fd : Descriptor) (timing : Keepalive) :
    Except Errno Unit × Host :=
  match h.socket fd with
  | .error e => (.error e, h)
  | .ok (s, _) =>
    let (result, options) := s.options.setTiming s.transport timing
    (result, h.putSocket fd { s with options })

/-- Changes whether calls on a descriptor wait. -/
def setNonblocking (h : Host) (fd : Descriptor) (on : Bool) : Except Errno Unit × Host :=
  match h.file? fd with
  | none => (.error .badDescriptor, h)
  | some file =>
    if file.nonblocking = on then (.ok (), h)
    else
      match h.usable fd with
      | .error e => (.error e, h)
      | .ok file => (.ok (), h.putFile fd { file with nonblocking := on })

/-- What the host does when it is called. -/
def answer (h : Host) : (call : Call) → Reply call × Host
  | .socket transport => h.openNew transport
  | .close fd => (.ok (), h.remove fd)
  | .bind fd addr =>
    match h.socket fd with
    | .error e => (.error e, h)
    | .ok (s, _) => h.bind fd s addr
  | .listen fd _ => h.listen fd
  | .accept fd =>
    let (e, h) := h.accept fd
    (.error e, h)
  | .connect fd _ =>
    let (e, h) := h.connect fd
    (.error e, h)
  | .localAddress fd => ((h.socket fd).map fun s => some s.1.address, h)
  | .takeError fd => ((h.socket fd).map fun _ => none, h)
  | .setOption fd option value => h.setOption fd option value
  | .setKeepaliveTiming fd timing => h.setKeepaliveTiming fd timing
  | .setNonblocking fd on => h.setNonblocking fd on
  | .send fd data destination _ => h.send fd data destination
  | .receive fd capacity => h.receive fd capacity
  | .poll fd interest millis => h.poll fd interest millis

/-- How many signals can still come. -/
def patience (h : Host) : Nat := (h.pendingSignals.map Signals.left).getD 0

/-- The time at which the host was started, in nanoseconds since the epoch. -/
def bootTime : Nat := 1750000000000000000

end ProfiledSocket.Host
