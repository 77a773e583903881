/-
The errors of socket operations.

An error says which operation failed and keeps what it failed for, so that the whole chain of
causes can be shown. The two types hold each other: an operation can fail for an input or
output error, and an input or output error can be made from a failed operation.

Main definitions:
* `SocketError`, `IoError` — the two sorts of error;
* `SocketError.Kind` — which operation failed, with a stable number;
* `SocketError.isTransient` — whether trying again later makes sense;
* `SocketError.ioKind` — the kind of the input or output error made from it;
* `transientAsNone` — a result in which a transient error is no answer yet.
-/
import ProfiledSocket.Endpoint.Basic
import ProfiledSocket.Error.Errno

namespace ProfiledSocket

mutual

/-- An error of input or output. -/
inductive IoError
  /-- The kernel reported it. -/
  | os (errno : Errno)
  /-- Only its kind is known. -/
  | bare (kind : IoKind)
  /-- A kind and a text of its own. -/
  | custom (kind : IoKind) (text : String)
  /-- It was made from a failed socket operation. -/
  | wrapped (error : SocketError)

/-- Why a socket operation failed. -/
inductive SocketError
  /-- The operation makes no sense with these arguments or in this state. -/
  | invalidParam (text : String)
  /-- The text is no IPv4 address. -/
  | invalidAddress (text : String)
  | socketCreate (source : IoError)
  | socketOption (option : String) (source : IoError)
  | bind (addr : Endpoint) (source : IoError)
  | listen (source : IoError)
  | accept (source : IoError)
  | connect (addr : Endpoint) (source : IoError)
  | reconnect (addr : Endpoint) (source : SocketError)
  | send (source : IoError)
  | recv (source : IoError)
  /-- A bounded wait ran out. -/
  | timeout
  /-- The operation would have had to wait. -/
  | wouldBlock
  /-- The peer ended the connection in good order. -/
  | closed
  /-- Something that the operation needs is not there yet. -/
  | notInitialized (text : String)
  | alreadyConnected

end

namespace SocketError

/-- Which operation failed, or in which general way. -/
inductive Kind
  | socketCreate
  | socketOption
  | bind
  | listen
  | accept
  | connect
  | reconnect
  | send
  | recv
  | timeout
  | invalidParam
  | notInitialized
  | closed
  | wouldBlock
  | alreadyConnected
deriving DecidableEq

namespace Kind

/-- The stable number of a kind. -/
def code : Kind → Int8
  | socketCreate => -1
  | socketOption => -2
  | bind => -3
  | listen => -4
  | accept => -5
  | connect => -6
  | reconnect => -7
  | send => -8
  | recv => -9
  | timeout => -10
  | invalidParam => -11
  | notInitialized => -12
  | closed => -13
  | wouldBlock => -14
  | alreadyConnected => -15

/-- The name of a kind. -/
def name : Kind → String
  | socketCreate => "SocketCreate"
  | socketOption => "SocketOption"
  | bind => "Bind"
  | listen => "Listen"
  | accept => "Accept"
  | connect => "Connect"
  | reconnect => "Reconnect"
  | send => "Send"
  | recv => "Recv"
  | timeout => "Timeout"
  | invalidParam => "InvalidParam"
  | notInitialized => "NotInitialized"
  | closed => "Closed"
  | wouldBlock => "WouldBlock"
  | alreadyConnected => "AlreadyConnected"

/-- All kinds, by number. -/
def all : List Kind :=
  [socketCreate, socketOption, bind, listen, accept, connect, reconnect, send, recv, timeout,
    invalidParam, notInitialized, closed, wouldBlock, alreadyConnected]

/-- The kind of a given number. -/
def ofCode? (code : Int8) : Option Kind := all.find? fun k => k.code == code

/-- Whether an error of this kind goes away by waiting. -/
def isTransient : Kind → Bool
  | timeout | wouldBlock => true
  | _ => false

end Kind

/-- The kind of an error; a refused address is an invalid parameter. -/
def kind : SocketError → Kind
  | invalidParam _ | invalidAddress _ => .invalidParam
  | socketCreate _ => .socketCreate
  | socketOption .. => .socketOption
  | bind .. => .bind
  | listen _ => .listen
  | accept _ => .accept
  | connect .. => .connect
  | reconnect .. => .reconnect
  | send _ => .send
  | recv _ => .recv
  | timeout => .timeout
  | wouldBlock => .wouldBlock
  | closed => .closed
  | notInitialized _ => .notInitialized
  | alreadyConnected => .alreadyConnected

/-- Whether trying again later makes sense. -/
def isTransient (e : SocketError) : Bool := e.kind.isTransient

/-- The kind of the input or output error that is made from a failed operation. -/
def ioKind (e : SocketError) : IoKind :=
  match e.kind with
  | .socketCreate => .other
  | .socketOption | .invalidParam => .invalidInput
  | .bind => .addrInUse
  | .listen | .accept | .connect | .reconnect => .connectionRefused
  | .send => .brokenPipe
  | .recv => .connectionReset
  | .timeout => .timedOut
  | .notInitialized => .notConnected
  | .closed => .connectionAborted
  | .wouldBlock => .wouldBlock
  | .alreadyConnected => .alreadyExists

/-! ### The refusals that sockets give without asking the kernel -/

/-- The socket has no descriptor. -/
def socketClosed : SocketError := invalidParam "socket is closed"

/-- There is nothing to send, or no room to receive into. -/
def emptyBuffer : SocketError := invalidParam "buffer must not be empty"

/-- The profile is not valid. -/
def invalidProfile : SocketError := invalidParam "invalid tuning profile"

end SocketError

/-- The kind of an input or output error. -/
def IoError.kind : IoError → IoKind
  | .os errno => errno.kind
  | .bare kind => kind
  | .custom kind _ => kind
  | .wrapped error => error.ioKind

/-- A result in which a transient error is no answer yet, and no failure. -/
def transientAsNone {α : Type} : Except SocketError α → Except SocketError (Option α)
  | .ok value => .ok (some value)
  | .error e => if e.isTransient then .ok none else .error e

end ProfiledSocket
