/-
Where a stream socket stands between its creation and a connection.

Main definitions:
* `ConnectionState` — the four states;
* `ConnectionState.code`, `ConnectionState.text` — their numbers and words.
-/

namespace ProfiledSocket

/-- Where a stream socket stands. -/
inductive ConnectionState
  | disconnected
  | connecting
  | connected
  | listening
deriving DecidableEq, Inhabited

namespace ConnectionState

/-- The stable number of a state. -/
def code : ConnectionState → UInt8
  | disconnected => 0
  | connecting => 1
  | connected => 2
  | listening => 3

/-- The word for a state. -/
def text : ConnectionState → String
  | disconnected => "disconnected"
  | connecting => "connecting"
  | connected => "connected"
  | listening => "listening"

/-- The name of a state. -/
def name : ConnectionState → String
  | disconnected => "Disconnected"
  | connecting => "Connecting"
  | connected => "Connected"
  | listening => "Listening"

/-- All states, by number. -/
def all : List ConnectionState := [disconnected, connecting, connected, listening]

/-- The state of a given number. -/
def ofCode? (code : UInt8) : Option ConnectionState := all.find? fun s => s.code == code

end ConnectionState

end ProfiledSocket
