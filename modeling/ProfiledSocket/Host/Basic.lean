/-
A host without a network: what its files are.

The host is a kernel that can be computed. It has sockets, pipes and a few special files, a
clock that runs only while somebody waits, and signals that interrupt waits. It has no route
to anywhere, not even to itself: its loopback interface is down.

Main definitions:
* `Host` — the state of the host;
* `Host.File`, `Host.Socket`, `Host.Pipe` — what a descriptor can stand for;
* `Host.Signals` — signals at fixed intervals;
* `Host.file?`, `Host.putFile`, `Host.allocate` — the table of descriptors.
-/
import ProfiledSocket.Kernel

namespace ProfiledSocket

namespace Host

/-- The values of the options of a socket. -/
structure Options where
  reuseAddress : Bool := false
  broadcast : Bool := false
  keepalive : Bool := false
  timestamps : Bool := false
  sendBuffer : Nat
  receiveBuffer : Nat
  noDelay : Bool := false
  keepaliveIdle : Nat := 7200
  keepaliveInterval : Nat := 75
  keepaliveCount : Nat := 9

/-- The options of a new socket. -/
def Options.initial : Transport → Options
  | .stream => { sendBuffer := 16384, receiveBuffer := 131072 }
  | .datagram => { sendBuffer := 212992, receiveBuffer := 212992 }

/-- A socket. It never has a connection, since no peer can be reached. -/
structure Socket where
  transport : Transport
  /-- The address it is bound to; port 0 if it is not bound. -/
  address : Endpoint := ⟨.any, 0⟩
  /-- Whether the port was asked for. Another one is given up when a listener is shut down. -/
  portIsFixed : Bool := false
  listening : Bool := false
  readShut : Bool := false
  writeShut : Bool := false
  options : Options

/-- Whether a socket has an address. -/
def Socket.isBound (s : Socket) : Bool := s.address.port != 0

/-- A new socket. -/
def Socket.new (transport : Transport) : Socket :=
  { transport, options := .initial transport }

/-- What a descriptor stands for. -/
inductive Object
  | socket (socket : Socket)
  /-- A device that takes everything and holds nothing. -/
  | nullDevice
  /-- A directory opened for its name only. -/
  | path
  /-- The reading end of the pipe of that number. -/
  | pipeReader (pipe : Nat)
  /-- The writing end of the pipe of that number. -/
  | pipeWriter (pipe : Nat)

/-- An open file: what it is, and whether calls on it wait. -/
structure File where
  object : Object
  nonblocking : Bool := false

/-- A pipe. -/
structure Pipe where
  /-- How many bytes are in it. -/
  bytes : Nat := 0
  hasReader : Bool := true
  hasWriter : Bool := true

/-- How many bytes a pipe holds. -/
def Pipe.capacity : Nat := 65536

/-- Signals at fixed intervals, for as long as a call lasts. -/
structure Signals where
  /-- When the next signal comes. -/
  next : Nat
  /-- How many may still come. -/
  left : Nat
  /-- How many more it takes until the delivery is made. -/
  untilDelivery : Option Nat
  /-- The descriptor on which the delivery is sent. -/
  through : Option Descriptor
  /-- What is sent. -/
  data : List UInt8

/-- The time between two signals, in nanoseconds. -/
def Signals.interval : Nat := 3000000

end Host

/-- The state of a host without a network. -/
structure Host where
  files : List (Descriptor × Host.File) := []
  pipes : List Host.Pipe := []
  /-- The smallest descriptor number that may not be handed out. -/
  fileLimit : Nat := 1024
  /-- The port to try first when the host chooses one. -/
  nextPort : Nat := 32768
  /-- The time since the host was started, in nanoseconds. -/
  now : Nat := 0
  signals : Option Host.Signals := none

namespace Host

/-- The file of a descriptor. -/
def file? (h : Host) (fd : Descriptor) : Option File :=
  (h.files.find? fun entry => entry.1 = fd).map (·.2)

/-- Removes a descriptor. -/
def remove (h : Host) (fd : Descriptor) : Host :=
  { h with files := h.files.filter fun entry => entry.1 ≠ fd }

/-- Makes a descriptor stand for a file. -/
def putFile (h : Host) (fd : Descriptor) (file : File) : Host :=
  { h with files := (fd, file) :: (h.remove fd).files }

/-- The smallest descriptor from `n` on that is not in use, if there is one within so many
steps. -/
def freeFrom (h : Host) : Nat → Nat → Descriptor
  | 0, n => ⟨n⟩
  | steps + 1, n => if (h.file? ⟨n⟩).isSome then freeFrom h steps (n + 1) else ⟨n⟩

/-- The smallest descriptor that is not in use; the three standard streams are. -/
def freeDescriptor (h : Host) : Descriptor := h.freeFrom h.files.length 3

/-- A descriptor for a new file, if the process may have one more. -/
def allocate (h : Host) : Except Errno Descriptor :=
  if h.freeDescriptor.number < h.fileLimit then .ok h.freeDescriptor else .error .tooManyFiles

/-- The sockets of a host with their descriptors. -/
def sockets (h : Host) : List (Descriptor × Socket) :=
  h.files.filterMap fun entry =>
    match entry.2.object with
    | .socket s => some (entry.1, s)
    | _ => none

/-- A descriptor that a call can use; one that was opened for its name only is of no use. -/
def usable (h : Host) (fd : Descriptor) : Except Errno File :=
  match h.file? fd with
  | some ⟨.path, _⟩ | none => .error .badDescriptor
  | some file => .ok file

/-- The socket of a descriptor. -/
def socket (h : Host) (fd : Descriptor) : Except Errno (Socket × Bool) :=
  match h.usable fd with
  | .error e => .error e
  | .ok ⟨.socket s, nonblocking⟩ => .ok (s, nonblocking)
  | .ok _ => .error .notSocket

/-- Changes the socket of a descriptor. -/
def putSocket (h : Host) (fd : Descriptor) (s : Socket) : Host :=
  match h.file? fd with
  | some file => h.putFile fd { file with object := .socket s }
  | none => h

end Host

end ProfiledSocket
