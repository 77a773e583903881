/-
How profiles are shown.

Main definitions:
* `Keepalive.detail`, `Profile.detail` — the settings with their names.
-/
import ProfiledSocket.Profile

namespace ProfiledSocket

open Text (record optional bool list)

/-- The settings with their names. -/
def Keepalive.detail (k : Keepalive) : String :=
  record "KeepaliveConfig" [("idle", k.idle.text), ("interval", k.interval.text),
    ("retries", toString k.retries.toNat)]

/-- The settings with their names. -/
def Profile.detail (p : Profile) : String :=
  record "TuningProfile" [
    ("use_socketxtreme", bool p.useSocketxtreme),
    ("optimize_for_latency", bool p.optimizeForLatency),
    ("use_polling", bool p.usePolling),
    ("non_blocking", bool p.nonBlocking),
    ("ring_count", toString p.ringCount.toNat),
    ("buffer_size", toString p.bufferSize.toNat),
    ("enable_timestamps", bool p.enableTimestamps),
    ("use_hugepages", bool p.useHugepages),
    ("tx_bufs", toString p.txBufs.toNat),
    ("rx_bufs", toString p.rxBufs.toNat),
    ("disable_poll_yield", bool p.disablePollYield),
    ("skip_os_select", bool p.skipOsSelect),
    ("keep_qp_full", bool p.keepQpFull),
    ("cpu_cores", list (p.cpuCores.map fun c => toString c.toNat)),
    ("tcp_nodelay", bool p.tcpNodelay),
    ("tcp_keepalive", optional (p.tcpKeepalive.map Keepalive.detail))]

end ProfiledSocket
