/-
The socket options of the host.

Main definitions:
* `Host.Options.set` — gives an option a value;
* `Host.Options.setTiming` — gives the options of keepalive their values;
* `Host.Options.get?` — the value of an option.
-/
import ProfiledSocket.Host.Basic
import ProfiledSocket.Setting

namespace ProfiledSocket

namespace OptionName

def keepaliveIdle : OptionName := ⟨streamLevel, 4⟩
def keepaliveInterval : OptionName := ⟨streamLevel, 5⟩
def keepaliveCount : OptionName := ⟨streamLevel, 6⟩

end OptionName

/-- The whole seconds of a duration, cut to what an option can hold. -/
def Duration.optionSecs (d : Duration) : Int32 :=
  Int32.ofNat (min d.secs.toNat 2147483647)

namespace Host

/-- The number in the first four bytes of a value, the least significant byte first. -/
def readInt : List UInt8 → Option Int32
  | a :: b :: c :: d :: _ =>
    some (a.toUInt32 ||| b.toUInt32 <<< 8 ||| c.toUInt32 <<< 16 ||| d.toUInt32 <<< 24).toInt32
  | _ => none

/-- The largest buffer a process may ask for. -/
def bufferLimit : Nat := 212992

/-- The size of a buffer for which `n` bytes were asked: twice as much, within bounds. -/
def bufferSize (floor : Nat) (n : Int32) : Nat :=
  max floor (2 * min n.toUInt32.toNat bufferLimit)

/-- `n` if it lies between 1 and `limit`. -/
def bounded (limit : Nat) (n : Int32) : Except Errno Nat :=
  if 1 ≤ n.toInt ∧ n.toInt ≤ limit then .ok n.toInt.toNat else .error .invalidArgument

/-- Options of all sockets that the host takes and that make no difference on it. -/
def idleCommon : List Int := [1, 5, 10, 11, 12, 15]

/-- Options of streams that the host takes and that make no difference on it. -/
def idleStream : List Int := [3, 8, 9, 12]

/-- Gives one of the options of all sockets a value of `length` bytes that starts with the
number `n`. -/
def Options.setCommon (o : Options) (name : Int32) (length : Nat) (n : Int32) :
    Except Errno Options :=
  match name.toInt with
  | 2 => .ok { o with reuseAddress := n ≠ 0 }
  | 6 => .ok { o with broadcast := n ≠ 0 }
  | 7 => .ok { o with sendBuffer := bufferSize 4608 n }
  | 8 => .ok { o with receiveBuffer := bufferSize 2304 n }
  | 9 => .ok { o with keepalive := n ≠ 0 }
  | 13 => if length < 8 then .error .invalidArgument else .ok o
  | 35 => .ok { o with timestamps := n ≠ 0 }
  | other => if idleCommon.contains other then .ok o else .error .noSuchOption

/-- Gives one of the options of streams the number `n`. -/
def Options.setStream (o : Options) (name : Int32) (n : Int32) : Except Errno Options :=
  match name.toInt with
  | 1 => .ok { o with noDelay := n ≠ 0 }
  | 4 => (bounded 32767 n).map fun idle => { o with keepaliveIdle := idle }
  | 5 => (bounded 32767 n).map fun interval => { o with keepaliveInterval := interval }
  | 6 => (bounded 127 n).map fun count => { o with keepaliveCount := count }
  | other => if idleStream.contains other then .ok o else .error .noSuchOption

/-- Gives an option of a socket a value. -/
def Options.set (o : Options) (transport : Transport) (option : OptionName)
    (value : List UInt8) : Except Errno Options :=
  if option.level = OptionName.socketLevel then
    match readInt value with
    | some n => o.setCommon option.name value.length n
    | none => .error .invalidArgument
  else if option.level = OptionName.streamLevel ∧ transport = .stream then
    match readInt value with
    | some n => o.setStream option.name n
    | none => .error .invalidArgument
  else .error .noSuchOption

/-- The options of keepalive with given times, in the order in which they get their values. -/
def timingValues (timing : Keepalive) : List (OptionName × Int32) :=
  [(.keepalive, 1), (.keepaliveIdle, timing.idle.optionSecs),
    (.keepaliveInterval, timing.interval.optionSecs),
    (.keepaliveCount, Int32.ofNat timing.retries.toNat)]

/-- Gives options numbers until one is refused. What was set before that stays. -/
def Options.setEach (o : Options) (transport : Transport) :
    List (OptionName × Int32) → Except Errno Unit × Options
  | [] => (.ok (), o)
  | (option, n) :: rest =>
    match o.set transport option (intBytes n) with
    | .error e => (.error e, o)
    | .ok o => o.setEach transport rest

/-- Gives the options of keepalive their values. -/
def Options.setTiming (o : Options) (transport : Transport) (timing : Keepalive) :
    Except Errno Unit × Options :=
  o.setEach transport (timingValues timing)

/-- 1 for yes and 0 for no. -/
def ofBool (b : Bool) : Nat := if b then 1 else 0

/-- The value of an option of a socket. -/
def Options.get? (o : Options) (transport : Transport) (option : OptionName) : Option Nat :=
  if option = .reuseAddress then some (ofBool o.reuseAddress)
  else if option = .broadcast then some (ofBool o.broadcast)
  else if option = .sendBuffer then some o.sendBuffer
  else if option = .receiveBuffer then some o.receiveBuffer
  else if option = .keepalive then some (ofBool o.keepalive)
  else if option = .timestamps then some (ofBool o.timestamps)
  else if transport = .datagram then none
  else if option = .noDelay then some (ofBool o.noDelay)
  else if option = .keepaliveIdle then some o.keepaliveIdle
  else if option = .keepaliveInterval then some o.keepaliveInterval
  else if option = .keepaliveCount then some o.keepaliveCount
  else none

end Host

end ProfiledSocket
