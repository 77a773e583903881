/-
Waiting until a descriptor is ready.

A wait that a signal interrupts goes on for the time that is left. A hang-up or an error makes
a descriptor ready: the operation that follows finds out what is the matter.

Main definitions:
* `waitReady` — waits for a descriptor, at most so many milliseconds;
* `peerHungUp` — whether a descriptor reports a hang-up or an error right now.
-/
import ProfiledSocket.Duration
import ProfiledSocket.Error
import ProfiledSocket.World

namespace ProfiledSocket

variable {σ : Type} [Kernel σ]

/-- How a wait ended. -/
inductive Readiness
  | ready
  | timedOut
deriving DecidableEq

/-- The whole milliseconds from `start` to `now`, cut to what a waiting time can hold. -/
def elapsedMillis (start now : Nat) : Nat := min ((now - start) / 1000000) maxMillis

/-- The wait of `waitReady`, begun at `start`, of which `left` is still to come. -/
def waitFrom (fd : Descriptor) (interest : Interest) (millis : Int32) (start : Nat)
    (left : Int32) (w : World σ) : Except IoError Readiness × World σ :=
  match _h : Kernel.answer w.kernel (.poll fd (some interest) left) with
  | (.ok (some revents), kernel) =>
    if revents.invalid then (.error (.os .badDescriptor), { w with kernel })
    else (.ok .ready, { w with kernel })
  | (.ok none, kernel) =>
    (do
      note .trace ("readiness wait on fd " ++ fd.text ++ " for " ++ interest.name ++
        " timed out after " ++ toString millis.toInt ++ " ms")
      return .ok .timedOut : Act σ _) { w with kernel }
  | (.error e, kernel) =>
    if _he : e = .interrupted then
      if 0 < millis then
        let elapsed := elapsedMillis start (Kernel.now kernel)
        if millis.toInt ≤ elapsed then (.ok .timedOut, { w with kernel })
        else waitFrom fd interest millis start (millis - Int32.ofNat elapsed) { w with kernel }
      else waitFrom fd interest millis start left { w with kernel }
    else (.error (.os e), { w with kernel })
termination_by Kernel.patience w.kernel
decreasing_by
  all_goals
    have := Kernel.patience_lt w.kernel (.poll fd (some interest) left) (by rw [_h, _he])
    rwa [_h] at this

/-- Waits until `fd` can serve `interest`, at most `millis` milliseconds, for ever if that is
negative. -/
def waitReady (fd : Descriptor) (interest : Interest) (millis : Int32) :
    Act σ (Except IoError Readiness) := do
  let start ← clock
  waitFrom fd interest millis start millis

/-- Whether a descriptor reports a hang-up or an error right now. -/
def peerHungUp (fd : Descriptor) : Act σ (Except IoError Bool) := do
  match ← ask (.poll fd none 0) with
  | .ok none => return .ok false
  | .ok (some revents) => return .ok (revents.hangUp || revents.error || revents.invalid)
  | .error e => return .error (.os e)

end ProfiledSocket
