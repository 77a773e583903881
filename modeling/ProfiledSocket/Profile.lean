/-
Tuning profiles: the settings that a socket is created with, and the knobs of the accelerated
transport.

Main definitions:
* `Profile`, `Keepalive` — the settings;
* `Profile.standard`, `Profile.lowLatency`, `Profile.highThroughput`, `Profile.conservative` —
  the presets;
* `Profile.wantsNonblocking` — whether sockets of the profile never wait in a call;
* `Profile.fault?` — the first thing wrong with a profile, if any.
-/
import ProfiledSocket.Duration

namespace ProfiledSocket

/-- How an idle stream finds out that the other end is gone. -/
structure Keepalive where
  /-- The idle time before the first probe. -/
  idle : Duration
  /-- The time between two probes. -/
  interval : Duration
  /-- How many probes may stay unanswered. -/
  retries : UInt32
deriving DecidableEq

/-- A probe after a minute, then up to five, ten seconds apart. -/
def Keepalive.standard : Keepalive := ⟨.ofSecs 60, .ofSecs 10, 5⟩

/-- The settings of a socket and of the accelerated transport. -/
structure Profile where
  useSocketxtreme : Bool
  /-- Else for throughput. -/
  optimizeForLatency : Bool
  /-- Poll busily instead of sleeping in the kernel. -/
  usePolling : Bool
  nonBlocking : Bool
  ringCount : UInt32
  /-- The size of the send and the receive buffer in bytes; 0 keeps what the system gives. -/
  bufferSize : UInt64
  enableTimestamps : Bool
  useHugepages : Bool
  txBufs : UInt32
  rxBufs : UInt32
  disablePollYield : Bool
  skipOsSelect : Bool
  keepQpFull : Bool
  /-- The cores that the transport's own thread may run on; none for no choice. -/
  cpuCores : List UInt32
  tcpNodelay : Bool
  tcpKeepalive : Option Keepalive
deriving DecidableEq

namespace Profile

/-! ### Presets -/

/-- Busy polling, for latency. -/
def standard : Profile where
  useSocketxtreme := true
  optimizeForLatency := true
  usePolling := true
  nonBlocking := false
  ringCount := 4
  bufferSize := 65536
  enableTimestamps := true
  useHugepages := false
  txBufs := 0
  rxBufs := 0
  disablePollYield := false
  skipOsSelect := false
  keepQpFull := false
  cpuCores := []
  tcpNodelay := true
  tcpKeepalive := some .standard

/-- Polling that never yields and never asks the operating system. -/
def lowLatency : Profile :=
  { standard with disablePollYield := true, skipOsSelect := true }

/-- Large buffers and many rings. -/
def highThroughput : Profile :=
  { standard with
    usePolling := false
    optimizeForLatency := false
    ringCount := 8
    bufferSize := 4194304
    useHugepages := true
    txBufs := 10000
    rxBufs := 10000
    keepQpFull := true }

/-- Plain waiting sockets with small buffers. -/
def conservative : Profile :=
  { standard with
    useSocketxtreme := false
    usePolling := false
    ringCount := 1
    bufferSize := 4096
    enableTimestamps := false }

/-- The presets by name, in the order of the names. -/
def presets : List (String × Profile) :=
  [("conservative", conservative), ("default", standard), ("high_throughput", highThroughput),
    ("low_latency", lowLatency)]

/-! ### What a profile asks for -/

/-- Whether sockets of the profile are kept in non-blocking mode. -/
def wantsNonblocking (p : Profile) : Bool := p.usePolling || p.nonBlocking

/-! ### Validity -/

/-- What can be wrong with a profile. -/
inductive Fault
  | bufferTooLarge (size : UInt64)
  | tooManyRings (count : UInt32)
  | noKeepaliveInterval
  | noKeepaliveRetries
  | repeatedCores (cores : List UInt32)
deriving DecidableEq

/-- The sentence for a reader. -/
def Fault.message : Fault → String
  | bufferTooLarge size =>
    "buffer size " ++ toString size.toNat ++ " does not fit into a socket option"
  | tooManyRings count => "ring count must be at most 64, was " ++ toString count.toNat
  | noKeepaliveInterval => "keepalive interval must be non-zero"
  | noKeepaliveRetries => "keepalive retries must be > 0"
  | repeatedCores cores =>
    "duplicate entries in cpu core list " ++ Text.list (cores.map fun c => toString c.toNat)

/-- The set of the numbers in a list: each of them once. -/
def distinct (cores : List UInt32) : List UInt32 := cores.foldr List.insert []

/-- What is wrong with a keepalive setting, the interval first. -/
def keepaliveFault? (k : Keepalive) : Option Fault :=
  if k.interval.isZero then some .noKeepaliveInterval
  else if k.retries = 0 then some .noKeepaliveRetries
  else none

/-- The first fault of a profile: a buffer size that no socket option can hold, more than 64
rings, a useless keepalive, a core named twice. -/
def fault? (p : Profile) : Option Fault :=
  if p.bufferSize > 2147483647 then some (.bufferTooLarge p.bufferSize)
  else if p.ringCount > 64 then some (.tooManyRings p.ringCount)
  else
    match p.tcpKeepalive.bind keepaliveFault? with
    | some fault => some fault
    | none =>
      if (distinct p.cpuCores).length ≠ p.cpuCores.length then some (.repeatedCores p.cpuCores)
      else none

end Profile

end ProfiledSocket
