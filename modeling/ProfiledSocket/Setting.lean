/-
The settings that a socket gets when it is created.

A profile turns into a list of settings in a fixed order. Some are required: if one of them
fails, the descriptor is closed again and the error names it. The others are tried, and a
failure is only reported.

Main definitions:
* `Setting`, `Setting.policy` — one setting, and what its failure means;
* `Profile.streamSettings`, `Profile.datagramSettings` — the settings of a profile;
* `Setting.call` — how a setting is put to the kernel;
* `openSocket` — a new descriptor with its settings;
* `setRawOption` — an option by its number, as a caller gives it.
-/
import ProfiledSocket.Error.Text
import ProfiledSocket.Profile.Text
import ProfiledSocket.World

namespace ProfiledSocket

variable {σ : Type} [Kernel σ]

/-! ### Socket options -/

namespace OptionName

/-- Options of all sockets. -/
def socketLevel : Int32 := 1

/-- Options of streams. -/
def streamLevel : Int32 := 6

def reuseAddress : OptionName := ⟨socketLevel, 2⟩
def broadcast : OptionName := ⟨socketLevel, 6⟩
def sendBuffer : OptionName := ⟨socketLevel, 7⟩
def receiveBuffer : OptionName := ⟨socketLevel, 8⟩
def keepalive : OptionName := ⟨socketLevel, 9⟩
def timestamps : OptionName := ⟨socketLevel, 35⟩
def noDelay : OptionName := ⟨streamLevel, 1⟩

end OptionName

/-- The four bytes of a number as options hold it, the least significant first. -/
def intBytes (n : Int32) : List UInt8 :=
  let bits := n.toUInt32
  [bits.toUInt8, (bits >>> 8).toUInt8, (bits >>> 16).toUInt8, (bits >>> 24).toUInt8]

/-- The call that gives an option a number. -/
def setInt (fd : Descriptor) (option : OptionName) (n : Int32) : Call :=
  .setOption fd option (intBytes n)

/-! ### Settings -/

/-- One setting of a new socket. -/
inductive Setting
  | sendBuffer (size : UInt64)
  | receiveBuffer (size : UInt64)
  | keepalive
  | keepaliveTiming (timing : Keepalive)
  | noDelay
  | timestamps
  | nonblocking

namespace Setting

/-- What happens when a setting fails: the socket is given up, and the error names the setting,
or there is a report and the socket does without. -/
inductive Policy
  | required (name : String)
  | tried (complaint : Errno → String)

/-- Buffer sizes, keepalive and the mode are required; the rest is tried. -/
def policy : Setting → Policy
  | sendBuffer _ => .required "SO_SNDBUF"
  | receiveBuffer _ => .required "SO_RCVBUF"
  | keepalive => .required "SO_KEEPALIVE"
  | keepaliveTiming timing => .tried fun e =>
    "could not configure keepalive timing " ++ timing.detail ++ ": " ++ (IoError.os e).message
  | noDelay => .tried fun e => "could not set TCP_NODELAY: " ++ (IoError.os e).message
  | timestamps => .tried fun e =>
    "could not enable SO_TIMESTAMPNS: " ++
      (SocketError.socketOption "raw option" (.os e)).message
  | nonblocking => .required "O_NONBLOCK"

/-- The call that makes a setting. -/
def call (fd : Descriptor) : Setting → Call
  | sendBuffer size => setInt fd .sendBuffer (Int32.ofNat size.toNat)
  | receiveBuffer size => setInt fd .receiveBuffer (Int32.ofNat size.toNat)
  | keepalive => setInt fd .keepalive 1
  | keepaliveTiming timing => .setKeepaliveTiming fd timing
  | noDelay => setInt fd .noDelay 1
  | timestamps => setInt fd .timestamps 1
  | nonblocking => .setNonblocking fd true

end Setting

namespace Profile

/-- The buffer sizes of a profile. -/
def bufferSettings (p : Profile) : List Setting :=
  if p.bufferSize > 0 then [.sendBuffer p.bufferSize, .receiveBuffer p.bufferSize] else []

/-- The mode of a profile. -/
def modeSettings (p : Profile) : List Setting :=
  if p.wantsNonblocking then [.nonblocking] else []

/-- The settings of a stream socket. -/
def streamSettings (p : Profile) : List Setting :=
  p.bufferSettings ++
  (match p.tcpKeepalive with
    | some timing => [.keepalive, .keepaliveTiming timing]
    | none => []) ++
  (if p.tcpNodelay then [.noDelay] else []) ++
  p.modeSettings

/-- The settings of a datagram socket. -/
def datagramSettings (p : Profile) : List Setting :=
  p.bufferSettings ++ (if p.enableTimestamps then [.timestamps] else []) ++ p.modeSettings

end Profile

/-! ### New descriptors -/

/-- Makes settings until a required one fails. -/
def applySettings (fd : Descriptor) : List Setting → Act σ (Except SocketError Unit)
  | [] => return .ok ()
  | setting :: rest => do
    match ← ask (setting.call fd) with
    | .ok _ => applySettings fd rest
    | .error e =>
      match setting.policy with
      | .required name => return .error (.socketOption name (.os e))
      | .tried complaint =>
        note .warn (complaint e)
        applySettings fd rest

/-- Closes a descriptor. What the kernel answers makes no difference: the descriptor is gone. -/
def closeDescriptor (fd : Descriptor) : Act σ Unit := do
  let _ ← ask (.close fd)

/-- A new descriptor with its settings. No descriptor stays open if a required one fails. -/
def openSocket (transport : Transport) (settings : List Setting) :
    Act σ (Except SocketError Descriptor) := do
  match ← ask (.socket transport) with
  | .error e => return .error (.socketCreate (.os e))
  | .ok fd =>
    match ← applySettings fd settings with
    | .error e =>
      closeDescriptor fd
      return .error e
    | .ok () =>
      note .trace ("created " ++ transport.name ++ " descriptor " ++ fd.text)
      return .ok fd

/-! ### Options by number -/

/-- What setting an option by its number demands: a descriptor, and a value that is neither
empty nor longer than a length can say. -/
def checkRawOption (held : Except SocketError Descriptor) (value : List UInt8) :
    Except SocketError Descriptor := do
  let fd ← held
  if value.isEmpty then throw (.invalidParam "option value must not be empty")
  if value.length ≥ UInt32.size then throw (.invalidParam "option value too long")
  return fd

/-- Gives an option a value as it stands. `held` is the descriptor, or why there is none. -/
def setRawOption (held : Except SocketError Descriptor) (option : OptionName)
    (value : List UInt8) : Act σ (Except SocketError Unit) :=
  match checkRawOption held value with
  | .error e => return .error e
  | .ok fd => do
    match ← ask (.setOption fd option value) with
    | .ok () => return .ok ()
    | .error e => return .error (.socketOption "raw option" (.os e))

end ProfiledSocket
