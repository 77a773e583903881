/-
How errors are shown.

Main definitions:
* `SocketError.message`, `IoError.message` — the sentence for a reader; it ends with the
  sentence of the cause;
* `SocketError.causes`, `IoError.causes` — the sentences of the chain of causes;
* `SocketError.detail`, `IoError.detail` — the value written out with all its parts.
-/
import ProfiledSocket.Error
import ProfiledSocket.Text.Quoted
import ProfiledSocket.Text.Record

namespace ProfiledSocket

open Text (quoted record tuple)

mutual

/-- The sentence for a reader. -/
def IoError.message : IoError → String
  | .os errno => errno.text ++ " (os error " ++ toString errno.code ++ ")"
  | .bare kind => kind.text
  | .custom _ text => text
  | .wrapped error => error.message

/-- The sentence for a reader. -/
def SocketError.message : SocketError → String
  | .invalidParam text => "invalid parameter: " ++ text
  | .invalidAddress text => "invalid IPv4 address " ++ quoted text
  | .socketCreate source => "failed to create socket: " ++ source.message
  | .socketOption option source =>
    "failed to set socket option " ++ option ++ ": " ++ source.message
  | .bind addr source => "failed to bind to " ++ addr.text ++ ": " ++ source.message
  | .listen source => "failed to listen: " ++ source.message
  | .accept source => "failed to accept connection: " ++ source.message
  | .connect addr source => "failed to connect to " ++ addr.text ++ ": " ++ source.message
  | .reconnect addr source => "failed to reconnect to " ++ addr.text ++ ": " ++ source.message
  | .send source => "send failed: " ++ source.message
  | .recv source => "receive failed: " ++ source.message
  | .timeout => "operation timed out"
  | .wouldBlock => "operation would block"
  | .closed => "connection closed by peer"
  | .notInitialized text => "not initialized: " ++ text
  | .alreadyConnected => "socket is already connected"

end

mutual

/-- The sentences of the causes, nearest first. An error made from a failed operation speaks
for that operation, so its causes are those of the operation. -/
def IoError.causes : IoError → List String
  | .os _ | .bare _ | .custom _ _ => []
  | .wrapped error => error.causes

/-- The sentences of the causes, nearest first. -/
def SocketError.causes : SocketError → List String
  | .socketCreate source | .socketOption _ source | .bind _ source | .listen source
  | .accept source | .connect _ source | .send source | .recv source =>
    source.message :: source.causes
  | .reconnect _ source => source.message :: source.causes
  | .invalidParam _ | .invalidAddress _ | .timeout | .wouldBlock | .closed | .notInitialized _
  | .alreadyConnected => []

end

mutual

/-- The value with all its parts. -/
def IoError.detail : IoError → String
  | .os errno =>
    record "Os" [("code", toString errno.code), ("kind", errno.kind.name),
      ("message", quoted errno.text)]
  | .bare kind => tuple "Kind" [kind.name]
  | .custom kind text => record "Custom" [("kind", kind.name), ("error", quoted text)]
  | .wrapped error => record "Custom" [("kind", error.ioKind.name), ("error", error.detail)]

/-- The value with all its parts. -/
def SocketError.detail : SocketError → String
  | .invalidParam text => tuple "InvalidParam" [quoted text]
  | .invalidAddress text => tuple "InvalidAddress" [quoted text]
  | .socketCreate source => tuple "SocketCreate" [source.detail]
  | .socketOption option source =>
    record "SocketOption" [("option", quoted option), ("source", source.detail)]
  | .bind addr source => record "Bind" [("addr", addr.text), ("source", source.detail)]
  | .listen source => tuple "Listen" [source.detail]
  | .accept source => tuple "Accept" [source.detail]
  | .connect addr source => record "Connect" [("addr", addr.text), ("source", source.detail)]
  | .reconnect addr source =>
    record "Reconnect" [("addr", addr.text), ("source", source.detail)]
  | .send source => tuple "Send" [source.detail]
  | .recv source => tuple "Recv" [source.detail]
  | .timeout => "Timeout"
  | .wouldBlock => "WouldBlock"
  | .closed => "Closed"
  | .notInitialized text => tuple "NotInitialized" [quoted text]
  | .alreadyConnected => "AlreadyConnected"

end

end ProfiledSocket
