/-
Traffic counters.

Main definitions:
* `Traffic` — packets and bytes in both directions;
* `Traffic.recordSent`, `Traffic.recordReceived` — one more successful transfer.
-/

namespace ProfiledSocket

/-- What a socket has transferred so far. Every successful transfer is one packet. -/
structure Traffic where
  rxPackets : UInt64
  txPackets : UInt64
  rxBytes : UInt64
  txBytes : UInt64
deriving DecidableEq

namespace Traffic

/-- The counters of a new socket. -/
def zero : Traffic := ⟨0, 0, 0, 0⟩

/-- Counts a transfer that sent `n` bytes. -/
def recordSent (t : Traffic) (n : Nat) : Traffic :=
  { t with txPackets := t.txPackets + 1, txBytes := t.txBytes + UInt64.ofNat n }

/-- Counts a transfer that received `n` bytes. -/
def recordReceived (t : Traffic) (n : Nat) : Traffic :=
  { t with rxPackets := t.rxPackets + 1, rxBytes := t.rxBytes + UInt64.ofNat n }

end Traffic

end ProfiledSocket
