/-
Waiting on the host.

Nothing that arrives from elsewhere ever ends a wait, so a wait that cannot be served at once
ends at its deadline, or with a signal before that. A wait with neither would last for ever;
the host reports a deadlock instead.

Main definitions:
* `Host.revents` — what a poll reports about a file;
* `Host.wait` — how a wait ends;
* `Host.poll` — waits until a file is ready.
-/
import ProfiledSocket.Host.Basic
import ProfiledSocket.Host.Ports

namespace ProfiledSocket.Host

/-! ### What a poll reports -/

/-- Nothing to report. -/
def quiet : Revents := ⟨false, false, false, false, false⟩

/-- The state of a file as a poll sees it, if all were asked for. -/
def condition (h : Host) (file : File) : Revents :=
  match file.object with
  | .nullDevice => { quiet with readable := true, writable := true }
  | .path => { quiet with invalid := true }
  | .pipeReader pipe =>
    match h.pipes[pipe]? with
    | some p => { quiet with readable := p.bytes > 0, hangUp := !p.hasWriter }
    | none => quiet
  | .pipeWriter pipe =>
    match h.pipes[pipe]? with
    | some p => { quiet with writable := p.bytes < Pipe.capacity, error := !p.hasReader }
    | none => quiet
  | .socket s =>
    match s.transport with
    | .stream => if s.listening then quiet else { quiet with writable := true, hangUp := true }
    | .datagram =>
      { quiet with
        readable := s.readShut
        writable := true
        hangUp := s.readShut && s.writeShut }

/-- The part of a condition that a poll with an interest reports: trouble always, the rest only
if asked for. -/
def reported (interest : Option Interest) (c : Revents) : Revents :=
  { c with
    readable := c.readable && interest = some .read
    writable := c.writable && interest = some .write }

/-- Whether there is anything to report. -/
def isEvent (r : Revents) : Bool := r ≠ quiet

/-- What a poll reports about a descriptor. A negative number stands for none, and nothing is
reported about it. -/
def revents (h : Host) (fd : Descriptor) (interest : Option Interest) : Revents :=
  if fd.number < 0 then quiet
  else
    match h.file? fd with
    | none => { quiet with invalid := true }
    | some file => reported interest (h.condition file)

/-! ### Signals -/

/-- What becomes of data that a process sends by itself: one end of a pipe takes it, and from
a socket it goes nowhere. -/
def deliver (h : Host) (fd : Descriptor) (data : List UInt8) : Host :=
  match h.file? fd with
  | some ⟨.pipeWriter pipe, _⟩ =>
    { h with pipes := h.pipes.modify pipe fun p =>
        { p with bytes := min Pipe.capacity (p.bytes + data.length) } }
  | some ⟨.socket s, _⟩ => if s.transport = .datagram then h.bindAnywhere fd s else h
  | _ => h

/-- The next signal comes. -/
def signal (h : Host) (signals : Signals) : Host :=
  let h := { h with
    now := signals.next
    signals := some { signals with
      next := signals.next + Signals.interval
      left := signals.left - 1
      untilDelivery := signals.untilDelivery.map (· - 1) } }
  if signals.untilDelivery = some 1 then
    match signals.through with
    | some fd => h.deliver fd signals.data
    | none => h
  else h

/-- The signals that are still to come. -/
def pendingSignals (h : Host) : Option Signals :=
  h.signals.filter fun s => s.left > 0

/-! ### Waits -/

/-- How a wait ended. -/
inductive WaitEnd
  | expired
  | interrupted
  | stuck
deriving DecidableEq

/-- Waits until a time, or without end. A deadline comes before a signal of the same moment. -/
def wait (h : Host) (deadline : Option Nat) : WaitEnd × Host :=
  match h.pendingSignals, deadline with
  | none, none => (.stuck, h)
  | none, some time => (.expired, { h with now := max h.now time })
  | some signals, none => (.interrupted, h.signal signals)
  | some signals, some time =>
    if time ≤ signals.next then (.expired, { h with now := max h.now time })
    else (.interrupted, h.signal signals)

/-- Waits without end, for something that never comes. -/
def waitForever (h : Host) : Errno × Host :=
  match h.wait none with
  | (.interrupted, h) => (.interrupted, h)
  | (_, h) => (.deadlock, h)

/-- When a wait of so many milliseconds ends, if it does. -/
def deadline (h : Host) (millis : Int32) : Option Nat :=
  if millis < 0 then none else some (h.now + millis.toInt.toNat * 1000000)

/-- Waits until there is something to report about a descriptor. A process that may have no
descriptor may not wait for one either. -/
def poll (h : Host) (fd : Descriptor) (interest : Option Interest) (millis : Int32) :
    Except Errno (Option Revents) × Host :=
  if h.fileLimit = 0 then (.error .invalidArgument, h)
  else if isEvent (h.revents fd interest) then (.ok (some (h.revents fd interest)), h)
  else if millis = 0 then (.ok none, h)
  else
    match h.wait (h.deadline millis) with
    | (.expired, h) => (.ok none, h)
    | (.interrupted, h) => (.error .interrupted, h)
    | (.stuck, h) => (.error .deadlock, h)

end ProfiledSocket.Host
