/-
Addresses and ports of the host.

Every address may be bound, whether it is one of the host or not. Streams and datagrams have
their ports apart.

Main definitions:
* `Host.conflicts` — whether two sockets may not have their addresses at the same time;
* `Host.bind` — gives a socket an address, with a free port if none is asked for;
* `Host.bindAnywhere` — gives a socket that has none an address of the host's choice;
* `Host.listen` — lets a stream take connections.
-/
import ProfiledSocket.Host.Basic

namespace ProfiledSocket.Host

/-- The first and the last port that the host chooses by itself. -/
def chosenPorts : Nat × Nat := (32768, 60999)

/-- Whether two addresses stand for a common one. -/
def overlap (a b : Ipv4) : Bool := a == b || a == .any || b == .any

/-- Whether `s` may not have `addr` while `other` has its own: they overlap and the two do not
share. Datagram sockets share if both allow it, streams if besides neither listens. -/
def conflicts (s : Socket) (addr : Endpoint) (other : Socket) : Bool :=
  s.transport == other.transport && addr.port == other.address.port &&
  overlap addr.ip other.address.ip &&
  !(s.options.reuseAddress && other.options.reuseAddress && !other.listening)

/-- Whether a socket may have an address, the others being as they are. -/
def isFree (h : Host) (fd : Descriptor) (s : Socket) (addr : Endpoint) : Bool :=
  h.sockets.all fun entry => entry.1 = fd || !conflicts s addr entry.2

/-- Whether no socket of a transport has a port. -/
def isUnusedPort (h : Host) (transport : Transport) (port : Nat) : Bool :=
  h.sockets.all fun entry =>
    entry.2.transport ≠ transport || entry.2.address.port.toNat ≠ port

/-- The port after `port` among those that the host chooses. -/
def portAfter (port : Nat) : Nat :=
  if port < chosenPorts.2 then port + 1 else chosenPorts.1

/-- The first unused port from `port` on, within so many steps. -/
def unusedPortFrom (h : Host) (transport : Transport) : Nat → Nat → Nat
  | 0, port => port
  | steps + 1, port =>
    if h.isUnusedPort transport port then port
    else unusedPortFrom h transport steps (portAfter port)

/-- A port that no socket of the transport has. The ports are handed out in turn. -/
def choosePort (h : Host) (transport : Transport) : UInt16 × Host :=
  let port := h.unusedPortFrom transport h.files.length h.nextPort
  (UInt16.ofNat port, { h with nextPort := portAfter port })

/-- Gives an unbound socket an address. -/
def bind (h : Host) (fd : Descriptor) (s : Socket) (addr : Endpoint) : Except Errno Unit × Host :=
  if s.isBound || s.listening then (.error .invalidArgument, h)
  else if addr.port = 0 then
    let (port, h) := h.choosePort s.transport
    (.ok (), h.putSocket fd { s with address := ⟨addr.ip, port⟩ })
  else if h.isFree fd s addr then
    (.ok (), h.putSocket fd { s with address := addr, portIsFixed := true })
  else (.error .addressInUse, h)

/-- Gives a socket an address of the host's choice, unless it has one. -/
def bindAnywhere (h : Host) (fd : Descriptor) (s : Socket) : Host :=
  if s.isBound then h else (h.bind fd s ⟨s.address.ip, 0⟩).2

/-- Lets a stream take connections. Of the sockets with a common address only one may. -/
def listen (h : Host) (fd : Descriptor) : Except Errno Unit × Host :=
  match h.socket fd with
  | .error e => (.error e, h)
  | .ok (s, _) =>
    if s.transport = .datagram then (.error .notSupported, h)
    else if s.listening then (.ok (), h)
    else
      let h := h.bindAnywhere fd s
      match h.socket fd with
      | .error e => (.error e, h)
      | .ok (s, _) =>
        if h.isFree fd s s.address then (.ok (), h.putSocket fd { s with listening := true })
        else (.error .addressInUse, h)

/-- Ends the listening of a stream. It keeps its address, but the port only if that was asked
for. -/
def unlisten (s : Socket) : Socket :=
  let port := if s.portIsFixed then s.address.port else 0
  { s with listening := false, address := ⟨s.address.ip, port⟩ }

end ProfiledSocket.Host
