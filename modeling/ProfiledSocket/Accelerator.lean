/-
The environment of the accelerated transport.

The transport reads its knobs from environment variables when it is loaded, so they belong to
the process and not to a socket, and they can be set only once.

Main definitions:
* `Profile.knobs` — the variables that a profile sets, in order;
* `Accelerator` — a process environment and whether its knobs are set;
* `Accelerator.initialise` — sets the knobs the first time, and never again.
-/
import ProfiledSocket.Event
import ProfiledSocket.Profile

namespace ProfiledSocket

/-- The receive window of an accelerated stream, in bytes. -/
def streamWindow : Nat := 16777216

/-- `entries` if `condition` holds, else nothing. -/
def knobsIf (condition : Bool) (entries : List (String × String)) : List (String × String) :=
  if condition then entries else []

/-- The variable `name` with a number that is set only if it is not zero. -/
def countKnob (name : String) (n : UInt32) : List (String × String) :=
  knobsIf (n > 0) [(name, toString n.toNat)]

/-- The numbers of the cores with commas between them. -/
def coreList (cores : List UInt32) : String :=
  ",".intercalate (cores.map fun c => toString c.toNat)

/-- The environment variables that configure the transport for a profile. -/
def Profile.knobs (p : Profile) : List (String × String) :=
  knobsIf p.useSocketxtreme [("VMA_SOCKETXTREME", "1")] ++
  [("VMA_SPEC", if p.optimizeForLatency then "latency" else "throughput")] ++
  knobsIf p.usePolling (
    [("VMA_RX_POLL", "1"), ("VMA_SELECT_POLL", "1")] ++
    knobsIf p.disablePollYield [("VMA_RX_POLL_YIELD", "0")] ++
    knobsIf p.skipOsSelect [("VMA_SELECT_SKIP_OS", "1")]) ++
  countKnob "VMA_RING_ALLOCATION_LOGIC_RX" p.ringCount ++
  (if p.useSocketxtreme then
    [("VMA_RING_ALLOCATION_LOGIC_TX", "0"), ("VMA_THREAD_MODE", "1")] ++
    knobsIf p.keepQpFull [("VMA_CQ_KEEP_QP_FULL", "1")]
  else [("VMA_THREAD_MODE", "3")]) ++
  knobsIf p.useHugepages [("VMA_MEMORY_ALLOCATION_TYPE", "2")] ++
  countKnob "VMA_TX_BUFS" p.txBufs ++
  countKnob "VMA_RX_BUFS" p.rxBufs ++
  knobsIf (!p.cpuCores.isEmpty)
    [("VMA_THREAD_AFFINITY", "1"), ("VMA_THREAD_AFFINITY_ID", coreList p.cpuCores)] ++
  [("VMA_TCP_STREAM_RX_SIZE", toString streamWindow), ("VMA_TCP_RX_ZERO_COPY", "1")] ++
  knobsIf p.enableTimestamps [("VMA_TIMESTAMP", "1")]

/-! ### The process environment -/

/-- The variables of a process with their values, each at most once. -/
abbrev Environment := List (String × String)

namespace Environment

/-- The value of a variable. -/
def get? (env : Environment) (name : String) : Option String :=
  (env.find? fun v => v.1 == name).map (·.2)

/-- Gives a variable a value, in place of the one it had. -/
def set (env : Environment) (name value : String) : Environment :=
  match env with
  | [] => [(name, value)]
  | v :: rest => if v.1 == name then (name, value) :: rest else v :: set rest name value

end Environment

/-- The transport in a process: the environment it will read, and whether its knobs are set. -/
structure Accelerator where
  environment : Environment
  initialised : Bool := false

/-- Sets the knobs of the transport and reports each. A second time changes nothing. The
result says whether anything was set. -/
def Accelerator.initialise (a : Accelerator) (p : Profile) :
    Bool × Accelerator × List Event :=
  if a.initialised then
    (false, a, [⟨.debug, "accelerator environment already initialized - ignoring"⟩])
  else
    let knobs := p.knobs
    let settings := knobs.map fun k => ⟨.debug, k.1 ++ "=" ++ k.2⟩
    let summary := "initialized accelerator environment (" ++ toString knobs.length ++ " settings)"
    (true,
      { environment := knobs.foldl (fun env k => env.set k.1 k.2) a.environment
        initialised := true },
      settings ++ [⟨.info, summary⟩])

end ProfiledSocket
