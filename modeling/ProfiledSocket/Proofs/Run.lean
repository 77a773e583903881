/-
Runs: what may happen to a socket from its creation on.

A run is a list of operations, each with its result and the talk with the kernel that it took.
Every operation of a run starts in a world of its own: between two operations anything may have
happened elsewhere, and the kernel may answer as it likes.

* `Operated` — a kind of socket: its operations, and what they do;
* `Deed`, `Entry` — an operation that was carried out, without and with its talk;
* `Run` — the histories of a kind of socket, and the sockets that they lead to;
* `Onward` — what has been done to a socket since a given moment.

Design notes: operations are carried out on a kernel that keeps a record, which answers as the
kernel that it records; that is how the talks get into the history.  The three kinds of sockets
have operations of their own, and the type of a result depends on the operation; a run is the
same for all of them.  Streams, accepted connections and datagram sockets are the instances.
-/
import ProfiledSocket.Datagram
import ProfiledSocket.Proofs.Talk

namespace ProfiledSocket

/-! ### Kinds of sockets -/

/-- A kind of socket as its callers see it. -/
class Operated (S : Type) where
  Operation : Type
  Result : Operation → Type
  perform : {σ : Type} → [Kernel σ] → S → (op : Operation) → Act σ (Result op × S)
  /-- Whether a socket can be the outcome of a successful creation. -/
  IsNew : S → Prop
  /-- How many bytes an operation reports as sent, if it has sent something. -/
  sent? : (op : Operation) → Result op → Option Nat
  /-- How many bytes an operation reports as received, if it has received something. -/
  received? : (op : Operation) → Result op → Option Nat

/-- An operation and what it returned. -/
structure Deed (S : Type) [Operated S] where
  op : Operated.Operation S
  result : Operated.Result op

/-- An operation that was carried out: what it returned, and the talk that it took. -/
structure Entry (S : Type) [Operated S] extends Deed S where
  talk : Talk

/-- What has been done to a socket, the latest first. -/
abbrev History (S : Type) [Operated S] := List (Entry S)

variable {S : Type} [Operated S]

/-- Carries out an operation in a world and notes it down. -/
def carryOut {σ : Type} [Kernel σ] (s : S) (op : Operated.Operation S) (w : World σ) :
    Entry S × S :=
  let ((result, s), w) := Operated.perform s op w.recorded
  ({ op, result, talk := w.kernel.talk }, s)

/-- What is ensured of an operation holds of the entry that notes it down. -/
theorem carryOut_ensures {σ : Type} [Kernel σ] (s : S) (op : Operated.Operation S)
    {Q : Talk → Operated.Result op × S → Prop}
    (h : (Operated.perform s op : Act (Recorded σ) _).Ensures Q) (w : World σ) :
    Q (carryOut s op w).1.talk ((carryOut s op w).1.result, (carryOut s op w).2) :=
  h.recorded w

/-- A history, and a socket that it leads to. -/
inductive Run : History S → S → Prop
  | new {s : S} (h : Operated.IsNew s) : Run [] s
  | step {σ : Type} [Kernel σ] {history : History S} {s : S} (h : Run history s)
      (op : Operated.Operation S) (w : World σ) :
      Run ((carryOut s op w).1 :: history) (carryOut s op w).2

/-- A history that begins with the socket `s₀`, and a socket that it leads to. -/
inductive Onward (s₀ : S) : History S → S → Prop
  | start : Onward s₀ [] s₀
  | step {σ : Type} [Kernel σ] {history : History S} {s : S} (h : Onward s₀ history s)
      (op : Operated.Operation S) (w : World σ) :
      Onward s₀ ((carryOut s op w).1 :: history) (carryOut s op w).2

/-- What begins with a new socket is a run. -/
theorem Onward.run {s₀ s : S} {history : History S} (h : Onward s₀ history s)
    (hnew : Operated.IsNew s₀) : Run history s := by
  induction h with
  | start => exact .new hnew
  | step _ op w ih => exact ih.step op w

/-- The whole talk that a history took. -/
def wholeTalk : History S → Talk
  | [] => []
  | entry :: history => wholeTalk history ++ entry.talk

/-! ### Streams -/

namespace Stream

/-- What can be done with a stream socket. -/
inductive Operation
  | bind (ip : String) (port : UInt16)
  | listen (backlog : Int32)
  | accept (timeout : Timeout)
  | connect (ip : String) (port : UInt16) (timeout : Timeout)
  | reconnect (timeout : Timeout)
  | isConnected
  | send (data : List UInt8)
  | receive (capacity : Nat) (timeout : Timeout)
  | setOption (option : OptionName) (value : List UInt8)
  | close

/-- What an operation of a stream socket returns. -/
@[reducible] def Operation.Result : Operation → Type
  | bind .. | listen _ | connect .. | reconnect _ | setOption .. | close => Except SocketError Unit
  | accept _ => Except SocketError Peer
  | isConnected => Bool
  | send _ => Except SocketError Nat
  | receive .. => Except SocketError (List UInt8)

/-- Carries out an operation. Accepting a connection and setting an option leave the socket as
it is. -/
def perform {σ : Type} [Kernel σ] (s : Stream) : (op : Operation) → Act σ (op.Result × Stream)
  | .bind ip port => s.bind ip port
  | .listen backlog => s.listen backlog
  | .accept timeout => do return (← s.accept timeout, s)
  | .connect ip port timeout => s.connect ip port timeout
  | .reconnect timeout => s.reconnect timeout
  | .isConnected => s.isConnected
  | .send data => s.send data
  | .receive capacity timeout => s.receive capacity timeout
  | .setOption option value => do return (← s.setOption option value, s)
  | .close => s.close

instance : Operated Stream where
  Operation := Operation
  Result := Operation.Result
  perform := perform
  IsNew s := ∃ (σ : Type) (_ : Kernel σ) (w : World σ) (profile : Profile),
    (Stream.new profile w).1 = .ok s
  sent?
    | .send _, result => result.toOption
    | _, _ => none
  received?
    | .receive .., result => result.toOption.map List.length
    | _, _ => none

end Stream

/-! ### Accepted connections -/

namespace Peer

/-- What can be done with an accepted connection. -/
inductive Operation
  | send (data : List UInt8)
  | receive (capacity : Nat) (timeout : Timeout)
  | close

/-- What an operation of an accepted connection returns. -/
@[reducible] def Operation.Result : Operation → Type
  | send _ => Except SocketError Nat
  | receive .. => Except SocketError (List UInt8)
  | close => Except SocketError Unit

/-- Carries out an operation. -/
def perform {σ : Type} [Kernel σ] (p : Peer) : (op : Operation) → Act σ (op.Result × Peer)
  | .send data => p.send data
  | .receive capacity timeout => p.receive capacity timeout
  | .close => p.close

instance : Operated Peer where
  Operation := Operation
  Result := Operation.Result
  perform := perform
  IsNew p := ∃ (σ : Type) (_ : Kernel σ) (w : World σ) (s : Stream) (timeout : Timeout),
    (s.accept timeout w).1 = .ok p
  sent?
    | .send _, result => result.toOption
    | _, _ => none
  received?
    | .receive .., result => result.toOption.map List.length
    | _, _ => none

end Peer

/-! ### Datagram sockets -/

namespace Datagram

/-- What can be done with a datagram socket. -/
inductive Operation
  | bind (ip : String) (port : UInt16)
  | connect (ip : String) (port : UInt16)
  | send (data : List UInt8)
  | sendTo (data : List UInt8) (ip : String) (port : UInt16)
  | receive (capacity : Nat) (timeout : Timeout)
  | receiveFrom (capacity : Nat) (timeout : Timeout)
  | setOption (option : OptionName) (value : List UInt8)
  | close

/-- What an operation of a datagram socket returns. -/
@[reducible] def Operation.Result : Operation → Type
  | bind .. | connect .. | setOption .. | close => Except SocketError Unit
  | send _ | sendTo .. => Except SocketError Nat
  | receive .. => Except SocketError (List UInt8)
  | receiveFrom .. => Except SocketError Delivery

/-- Carries out an operation. Setting an option leaves the socket as it is. -/
def perform {σ : Type} [Kernel σ] (d : Datagram) :
    (op : Operation) → Act σ (op.Result × Datagram)
  | .bind ip port => d.bind ip port
  | .connect ip port => d.connect ip port
  | .send data => d.send data
  | .sendTo data ip port => d.sendTo data ip port
  | .receive capacity timeout => d.receive capacity timeout
  | .receiveFrom capacity timeout => d.receiveFrom capacity timeout
  | .setOption option value => do return (← d.setOption option value, d)
  | .close => d.close

instance : Operated Datagram where
  Operation := Operation
  Result := Operation.Result
  perform := perform
  IsNew d := ∃ (σ : Type) (_ : Kernel σ) (w : World σ) (profile : Profile) (clock : Clock),
    (Datagram.new profile clock w).1 = .ok d
  sent?
    | .send _, result | .sendTo .., result => result.toOption
    | _, _ => none
  received?
    | .receive .., result => result.toOption.map List.length
    | .receiveFrom .., result => result.toOption.map fun delivery => delivery.data.length
    | _, _ => none

end Datagram

end ProfiledSocket
