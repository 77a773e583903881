/-
Waiting on a descriptor made for the purpose.

Main definitions:
* `Scenario.Watched` — the descriptors to wait on;
* `Scenario.watch` — a wait on one of them, and then a look for a hang-up.
-/
import ProfiledSocket.Scenario.Step

namespace ProfiledSocket.Scenario

/-- A descriptor to wait on. -/
inductive Watched
  /-- The reading end of a pipe. -/
  | reader (pipe : Host.Pipe)
  /-- The writing end of a pipe. -/
  | writer (pipe : Host.Pipe)
  /-- A directory opened for its name only. -/
  | path
  /-- A number that is no descriptor. -/
  | negative

namespace Watched

/-- The descriptor of a given name. -/
def ofName? : String → Option Watched
  | "pipe_read_empty" => some (.reader {})
  | "pipe_read_data" => some (.reader { bytes := 1 })
  | "pipe_read_hup" => some (.reader { hasWriter := false })
  | "pipe_read_data_hup" => some (.reader { bytes := 1, hasWriter := false })
  | "pipe_write" => some (.writer {})
  | "pipe_write_full" => some (.writer { bytes := Host.Pipe.capacity })
  | "pipe_write_broken" => some (.writer { hasReader := false })
  | "path" => some .path
  | "negative" => some .negative
  | _ => none

/-- A host with the descriptor. -/
def host : Watched → Host
  | reader pipe | writer pipe => .withPipe pipe
  | path => ({} : Host).replace Host.readerDescriptor .path
  | negative => {}

/-- The number of the descriptor. -/
def descriptor : Watched → Descriptor
  | reader _ | path => Host.readerDescriptor
  | writer _ => Host.writerDescriptor
  | negative => ⟨-1⟩

end Watched

/-- Waits on a descriptor and then looks whether it reports a hang-up. Of the circumstances,
the file limit and the number of signals count; after the signals a byte goes into the pipe. -/
def watch (watched : Watched) (interest : Interest) (millis : Int32)
    (circumstances : Circumstances) : Except IoError Readiness × Except IoError Bool :=
  let host := watched.host
  let host :=
    match circumstances.fileLimit with
    | some limit => host.withFileLimit limit
    | none => host
  let host :=
    match circumstances.disturbance with
    | some d => host.withSignals d.untilDelivery (some Host.writerDescriptor) [0]
    | none => host
  let waits : Act Host (Except IoError Readiness × Except IoError Bool) := do
    let ready ← waitReady watched.descriptor interest millis
    let hungUp ← peerHungUp watched.descriptor
    return (ready, hungUp)
  (waits.run ⟨host, []⟩).1

end ProfiledSocket.Scenario
