/-
What else can be done on the host, past the sockets that hold a descriptor.

Main definitions:
* `Host.shutdown` — ends one or both directions of a socket;
* `Host.replace` — makes a descriptor stand for something else;
* `Host.option?`, `Host.isNonblocking` — looks at a descriptor;
* `Host.withSignals`, `Host.withFileLimit`, `Host.sleep` — the circumstances of a call;
* `Host.withPipe` — a pipe to wait on.
-/
import ProfiledSocket.Host.Instance

namespace ProfiledSocket.Host

/-- The directions of a shutdown. -/
inductive Shutdown
  | read
  | write
  | both
deriving DecidableEq

/-- Ends directions of a socket and says whether that succeeded. Without a connection it does
not, but it is remembered. A listener that is shut for reading no longer listens. -/
def shutdown (h : Host) (fd : Descriptor) (how : Shutdown) : Bool × Host :=
  match h.socket fd with
  | .error _ => (false, h)
  | .ok (s, _) =>
    if s.listening then
      if how = .write then (true, h) else (true, h.putSocket fd (unlisten s))
    else
      (false, h.putSocket fd { s with
        readShut := s.readShut || how ≠ .write
        writeShut := s.writeShut || how ≠ .read })

/-- Makes a descriptor stand for something else. -/
def replace (h : Host) (fd : Descriptor) (object : Object) : Host :=
  h.putFile fd ⟨object, false⟩

/-- The value of an option, if the descriptor has it. -/
def option? (h : Host) (fd : Descriptor) (option : OptionName) : Option Nat :=
  match h.socket fd with
  | .ok (s, _) => s.options.get? s.transport option
  | .error _ => none

/-- Whether calls on a descriptor do not wait. -/
def isNonblocking (h : Host) (fd : Descriptor) : Bool :=
  ((h.file? fd).map File.nonblocking).getD false

/-! ### Circumstances -/

/-- How many signals come before the host gives up on a call. -/
def signalBudget : Nat := 100000

/-- Sends signals from now on. After so many of them data is sent through a descriptor. -/
def withSignals (h : Host) (untilDelivery : Option Nat) (through : Option Descriptor)
    (data : List UInt8) : Host :=
  let signals : Signals :=
    { next := h.now + Signals.interval, left := signalBudget, untilDelivery, through, data }
  { h with signals := some signals }

/-- Sends no more signals. -/
def withoutSignals (h : Host) : Host := { h with signals := none }

/-- Bounds the descriptors that may be handed out. -/
def withFileLimit (h : Host) (limit : Nat) : Host := { h with fileLimit := limit }

/-- Lets time pass. -/
def sleep (h : Host) (millis : Nat) : Host := { h with now := h.now + millis * 1000000 }

/-! ### A pipe to wait on -/

/-- The reading end of the pipe of `withPipe`. -/
def readerDescriptor : Descriptor := ⟨3⟩

/-- The writing end of the pipe of `withPipe`. -/
def writerDescriptor : Descriptor := ⟨4⟩

/-- A host with one pipe, of which the ends are open that the pipe has. -/
def withPipe (pipe : Pipe) : Host :=
  let reader := if pipe.hasReader then [(readerDescriptor, ⟨.pipeReader 0, false⟩)] else []
  let writer := if pipe.hasWriter then [(writerDescriptor, ⟨.pipeWriter 0, false⟩)] else []
  { files := reader ++ writer, pipes := [pipe] }

end ProfiledSocket.Host
