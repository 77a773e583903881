/-
Lengths of time, and the waiting times made from them.

Main definitions:
* `Duration` — whole seconds and nanoseconds below a second;
* `Duration.ceilMillis` — the least number of milliseconds that is no shorter;
* `Duration.text` — the value in the largest unit that has a whole part;
* `Timeout.millis` — the waiting time that the kernel is given: -1 waits for ever.
-/
import ProfiledSocket.Text.Record

namespace ProfiledSocket

/-- A length of time. -/
structure Duration where
  secs : UInt64
  /-- Nanoseconds beyond the whole seconds. -/
  nanos : Nat
  nanos_lt : nanos < 1000000000 := by decide
deriving DecidableEq

namespace Duration

/-- A whole number of seconds. -/
def ofSecs (secs : UInt64) : Duration := ⟨secs, 0, by decide⟩

/-- The duration of `n` microseconds. -/
def ofMicros (n : Nat) : Duration :=
  ⟨UInt64.ofNat (n / 1000000), n % 1000000 * 1000, by omega⟩

/-- The whole length in nanoseconds. -/
def totalNanos (d : Duration) : Nat := d.secs.toNat * 1000000000 + d.nanos

/-- Whether the duration is empty. -/
def isZero (d : Duration) : Bool := d.secs == 0 && d.nanos == 0

/-- The milliseconds of `d`, a started one counting as a whole one. -/
def ceilMillis (d : Duration) : Nat :=
  let whole := d.secs.toNat * 1000 + d.nanos / 1000000
  if d.nanos % 1000000 = 0 then whole else whole + 1

/-! ### Text -/

/-- The digits of a fraction of `width` places, without the zeros at its end. -/
def fractionDigits (width fraction : Nat) : List Char :=
  let digits := Nat.toDigits 10 fraction
  let padded := List.replicate (width - digits.length) '0' ++ digits
  (padded.reverse.dropWhile (· == '0')).reverse

/-- A whole part, a fraction of `width` places if it is not zero, and the unit. -/
def decimal (whole width fraction : Nat) (unit : String) : String :=
  match fractionDigits width fraction with
  | [] => toString whole ++ unit
  | digits => toString whole ++ "." ++ String.ofList digits ++ unit

/-- The duration in the largest of the units s, ms, µs and ns that has a whole part. -/
def text (d : Duration) : String :=
  if d.secs ≠ 0 then decimal d.secs.toNat 9 d.nanos "s"
  else if d.nanos ≥ 1000000 then decimal (d.nanos / 1000000) 6 (d.nanos % 1000000) "ms"
  else if d.nanos ≥ 1000 then decimal (d.nanos / 1000) 3 (d.nanos % 1000) "µs"
  else decimal d.nanos 0 0 "ns"

end Duration

/-! ### Waiting times -/

/-- How long a caller is willing to wait; `none` is for ever. -/
abbrev Timeout := Option Duration

/-- The longest waiting time the kernel can be given, in milliseconds. -/
def maxMillis : Nat := 2147483647

/-- The timeout as the kernel takes it: -1 for no limit, else milliseconds, rounded up so that
a short wait never turns into none, and cut to the longest that fits. -/
def Timeout.millis : Timeout → Int32
  | none => -1
  | some d => Int32.ofNat (min d.ceilMillis maxMillis)

end ProfiledSocket
