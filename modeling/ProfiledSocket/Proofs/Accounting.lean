/-
What the counters of a socket say.

Every kind of socket has four counters, and the same code counts for all.  Over a whole run they
say how many transfers succeeded and how many bytes went through, as far as a counter can hold
it; nothing else moves them.

* `sentCounts`, `receivedCounts` — the transfers of a history, by the bytes they reported;
* `Accounted` — a kind of socket whose operations count what they report;
* **`Accounted.run_traffic`** — the counters of a socket are the totals of its history;
* **`traffic_exact`** — for streams, accepted connections and datagram sockets.

Design notes: the counters wrap around, so that the totals are first compared as 64-bit numbers,
without any condition.  A total that fits into 64 bits is what its counter says.
-/
import Mathlib
import ProfiledSocket.Proofs.Stream.Transition
import ProfiledSocket.Proofs.Datagram.Transition

namespace ProfiledSocket

variable {σ : Type} [Kernel σ]

/-! ### Totals -/

namespace Traffic

/-- The counters of a socket that has sent and received in pieces of such lengths. -/
def total (sent received : List Nat) : Traffic where
  rxPackets := .ofNat received.length
  txPackets := .ofNat sent.length
  rxBytes := .ofNat received.sum
  txBytes := .ofNat sent.sum

/-- Counts what an operation reports as sent and as received, if it reports anything. -/
def after (t : Traffic) (sent received : Option Nat) : Traffic :=
  let t := match sent with
    | some n => t.recordSent n
    | none => t
  match received with
  | some n => t.recordReceived n
  | none => t

theorem recordSent_total (n : Nat) (sent received : List Nat) :
    (total sent received).recordSent n = total (n :: sent) received := by
  simp [total, recordSent, UInt64.ofNat_add, UInt64.add_comm]

theorem recordReceived_total (n : Nat) (sent received : List Nat) :
    (total sent received).recordReceived n = total sent (n :: received) := by
  simp [total, recordReceived, UInt64.ofNat_add, UInt64.add_comm]

end Traffic

section Totals

variable {S : Type} [Operated S]

/-- The lengths that the operations of a history reported as sent. -/
def sentCounts (history : History S) : List Nat :=
  history.filterMap fun entry => Operated.sent? entry.op entry.result

/-- The lengths that the operations of a history reported as received. -/
def receivedCounts (history : History S) : List Nat :=
  history.filterMap fun entry => Operated.received? entry.op entry.result

theorem total_cons (entry : Entry S) (history : History S) :
    Traffic.total (sentCounts (entry :: history)) (receivedCounts (entry :: history)) =
      (Traffic.total (sentCounts history) (receivedCounts history)).after
        (Operated.sent? entry.op entry.result) (Operated.received? entry.op entry.result) := by
  cases hsent : Operated.sent? entry.op entry.result with
  | none =>
    cases hreceived : Operated.received? entry.op entry.result with
    | none => simp [sentCounts, receivedCounts, hsent, hreceived, Traffic.after]
    | some n =>
      simp [sentCounts, receivedCounts, hsent, hreceived, Traffic.after,
        Traffic.recordReceived_total]
  | some n =>
    cases hreceived : Operated.received? entry.op entry.result with
    | none =>
      simp [sentCounts, receivedCounts, hsent, hreceived, Traffic.after, Traffic.recordSent_total]
    | some m =>
      simp [sentCounts, receivedCounts, hsent, hreceived, Traffic.after, Traffic.recordSent_total,
        Traffic.recordReceived_total]

end Totals

/-! ### Counting sockets -/

/-- A kind of socket that counts what its operations report, and nothing else. -/
class Accounted (S : Type) [Operated S] [Channel S] : Prop where
  traffic_new : ∀ {s : S}, Operated.IsNew s → Channel.traffic s = .zero
  traffic_perform : ∀ {σ : Type} [Kernel σ] (s : S) (op : Operated.Operation S) (w : World σ),
    Channel.traffic (Operated.perform s op w).1.2 = (Channel.traffic s).after
      (Operated.sent? op (Operated.perform s op w).1.1)
      (Operated.received? op (Operated.perform s op w).1.1)

namespace Accounted

variable {S : Type} [Operated S] [Channel S] [Accounted S] {s : S} {history : History S}

/-- **The counters are the totals of the history**, as far as 64 bits hold them. -/
theorem run_traffic (h : Run history s) :
    Channel.traffic s = .total (sentCounts history) (receivedCounts history) := by
  -- by induction on the run: what a step counts is what its entry adds to the totals
  induction h with
  | new h => exact traffic_new h
  | step _ op w ih =>
    rw [total_cons, ← ih]
    exact traffic_perform _ op w.recorded

end Accounted

/-! ### Transfers -/

/-- A channel whose counters change only where a transfer is counted. -/
class LawfulChannel (C : Type) [Channel C] : Prop where
  traffic_withTraffic : ∀ (c : C) (t : Traffic), Channel.traffic (Channel.withTraffic c t) = t
  traffic_afterFailure : ∀ c : C, Channel.traffic (Channel.afterFailure c) = Channel.traffic c
  traffic_afterEnd : ∀ c : C, Channel.traffic (Channel.afterEnd c) = Channel.traffic c

instance : LawfulChannel Stream := ⟨fun _ _ => rfl, fun _ => rfl, fun _ => rfl⟩

instance : LawfulChannel Peer := ⟨fun _ _ => rfl, fun _ => rfl, fun _ => rfl⟩

instance : LawfulChannel Datagram := ⟨fun _ _ => rfl, fun _ => rfl, fun _ => rfl⟩

section Transfers

variable {C : Type} [Channel C] [LawfulChannel C] {c c' : C}

/-- A send that succeeds is counted, and no other. -/
theorem traffic_of_sendCase {data : List UInt8} {destination : Option Endpoint}
    {result : Except SocketError Nat} (h : Channel.SendCase c data destination result c') :
    Channel.traffic c' = (Channel.traffic c).after result.toOption none := by
  cases h with
  | refused _ => rfl
  | sent _ n => exact LawfulChannel.traffic_withTraffic c _
  | wouldBlock _ => rfl
  | failed _ e => exact LawfulChannel.traffic_afterFailure c

/-- A receive that succeeds is counted, and no other. `size` is the length of what the caller gets
to see. -/
theorem traffic_of_receiveCase {α : Type} {capacity : Nat} {timeout : Timeout}
    {view : Received capacity → Except IoError α} {w : World σ} {result : Except SocketError α}
    (size : α → Nat)
    (hsize : ∀ data value, view data = .ok value → size value = data.bytes.length)
    (h : Channel.ReceiveCase c capacity timeout view w result c') :
    Channel.traffic c' = (Channel.traffic c).after none (result.toOption.map size) := by
  cases h with
  | refused _ => rfl
  | unready _ _ => rfl
  | received _ _ data hview _ =>
    rw [LawfulChannel.traffic_withTraffic, ← hsize data _ hview]
    rfl
  | nothing _ _ => rfl
  | ended _ _ _ => exact LawfulChannel.traffic_afterEnd c
  | failed _ _ e => exact LawfulChannel.traffic_afterFailure c

theorem bytesOnly_size {capacity : Nat} (data : Received capacity) (bytes : List UInt8)
    (h : Channel.bytesOnly data = .ok bytes) : bytes.length = data.bytes.length := by
  cases h
  rfl

theorem bytesAndSource_size {capacity : Nat} (data : Received capacity)
    (value : List UInt8 × Endpoint) (h : Datagram.bytesAndSource data = .ok value) :
    value.1.length = data.bytes.length := by
  rw [Datagram.bytesAndSource] at h
  split at h
  · cases h
    rfl
  · cases h

end Transfers

/-! ### Streams -/

theorem Stream.Transition.traffic_eq {s s' : Stream} {op : Stream.Operation} {result : op.Result}
    (h : s.Transition op result s') :
    s'.traffic = s.traffic.after (Operated.sent? (S := Stream) op result)
      (Operated.received? (S := Stream) op result) := by
  cases h with
  | sent hcase => exact traffic_of_sendCase hcase
  | received hcase => exact traffic_of_receiveCase List.length bytesOnly_size hcase
  | reconnected _ _ hre => cases hre <;> rfl
  | _ => rfl

instance : Accounted Stream where
  traffic_new h := by
    obtain ⟨σ, _, w, profile, hnew⟩ := h
    obtain ⟨fd, rfl⟩ := Stream.eq_ofDescriptor_of_new hnew
    rfl
  traffic_perform s op w := (Stream.perform_transition s op w).traffic_eq

/-! ### Accepted connections -/

namespace Peer

theorem traffic_adopt {fd : Descriptor} {address : Option Endpoint} {nonblocking : Bool}
    {w : World σ} {p : Peer} (h : (Stream.adopt fd address nonblocking w).1 = .ok p) :
    p.traffic = .zero := by
  simp only [Stream.adopt, Act.bind_apply] at h
  generalize (if nonblocking then makeNonblocking fd else pure (.ok ()) : Act σ _) w = mode at h
  obtain ⟨e | _, w⟩ := mode
  · simp at h
  · cases address with
    | none => simp at h
    | some address =>
      simp only [Act.bind_apply, Act.pure_apply, Except.ok.injEq] at h
      rw [← h, new]

/-- A connection that is accepted has transferred nothing yet. -/
theorem traffic_accept {s : Stream} {timeout : Timeout} {w : World σ} {p : Peer}
    (h : (s.accept timeout w).1 = .ok p) : p.traffic = .zero := by
  cases hcheck : s.checkAccept with
  | error e => simp [Stream.accept, hcheck] at h
  | ok fd =>
    simp only [Stream.accept, hcheck, Act.bind_apply] at h
    generalize Stream.awaitConnection fd timeout w = waited at h
    obtain ⟨e | _, w⟩ := waited
    · simp at h
    · simp only [Act.bind_apply] at h
      generalize ask (.accept fd) w = reply at h
      obtain ⟨e | ⟨accepted, address⟩, w⟩ := reply
      · by_cases hagain : e.kind = .wouldBlock ∨ e.kind = .interrupted
        · simp [hagain] at h
        · simp [hagain] at h
      · exact traffic_adopt h

theorem traffic_close (p : Peer) (w : World σ) : (p.close w).1.2.traffic = p.traffic := by
  cases hfd : p.descriptor with
  | none => simp only [close, hfd, Act.pure_apply]
  | some fd => simp only [close, hfd, Act.bind_apply, Act.pure_apply]

end Peer

instance : Accounted Peer where
  traffic_new h := by
    obtain ⟨σ, _, w, s, timeout, hnew⟩ := h
    exact Peer.traffic_accept hnew
  traffic_perform p op w := by
    cases op with
    | send data => exact traffic_of_sendCase (Channel.send_case p data none w)
    | receive capacity timeout =>
      exact traffic_of_receiveCase List.length bytesOnly_size
        (Channel.receive_case p capacity timeout Channel.bytesOnly w)
    | close => exact Peer.traffic_close p w

/-! ### Datagram sockets -/

theorem Datagram.Transition.traffic_eq {d d' : Datagram} {op : Datagram.Operation}
    {result : op.Result} (h : d.Transition op result d') :
    d'.traffic = d.traffic.after (Operated.sent? (S := Datagram) op result)
      (Operated.received? (S := Datagram) op result) := by
  cases h with
  | sent hcase => exact traffic_of_sendCase hcase
  | sentTo hcase => exact traffic_of_sendCase hcase
  | received hcase => exact traffic_of_receiveCase List.length bytesOnly_size hcase
  -- the clock is none of the counters, so that it does not matter whether it is read
  | undelivered hcase =>
    exact traffic_of_receiveCase (fun value => value.1.length) bytesAndSource_size hcase
  | delivered hcase _ =>
    exact traffic_of_receiveCase (fun value => value.1.length) bytesAndSource_size hcase
  | _ => rfl

theorem Datagram.traffic_receiveFrom (d : Datagram) (w : World σ) (capacity : Nat)
    (timeout : Timeout) : (d.receiveFrom capacity timeout w).1.2.traffic = d.traffic.after none
      ((d.receiveFrom capacity timeout w).1.1.toOption.map
        fun delivery => delivery.data.length) :=
  (d.receiveFrom_transition w capacity timeout).traffic_eq

instance : Accounted Datagram where
  traffic_new h := by
    obtain ⟨σ, _, w, profile, clock, hnew⟩ := h
    obtain ⟨fd, rfl⟩ := Datagram.eq_ofDescriptor_of_new hnew
    rfl
  traffic_perform d op w := (d.perform_transition w op).traffic_eq

/-! ### Exact counters -/

section Exact

variable {S : Type} [Operated S]

/-- What the counters say of the totals of a history. -/
structure Exact (history : History S) (t : Traffic) : Prop where
  txPackets : (sentCounts history).length < UInt64.size →
    t.txPackets.toNat = (sentCounts history).length
  txBytes : (sentCounts history).sum < UInt64.size → t.txBytes.toNat = (sentCounts history).sum
  rxPackets : (receivedCounts history).length < UInt64.size →
    t.rxPackets.toNat = (receivedCounts history).length
  rxBytes : (receivedCounts history).sum < UInt64.size →
    t.rxBytes.toNat = (receivedCounts history).sum

theorem total_exact (history : History S) :
    Exact history (.total (sentCounts history) (receivedCounts history)) where
  txPackets h := UInt64.toNat_ofNat_of_lt' h
  txBytes h := UInt64.toNat_ofNat_of_lt' h
  rxPackets h := UInt64.toNat_ofNat_of_lt' h
  rxBytes h := UInt64.toNat_ofNat_of_lt' h

/-- Whether all totals of a history fit into their counters. -/
structure Fits (history : History S) : Prop where
  txPackets : (sentCounts history).length < UInt64.size
  txBytes : (sentCounts history).sum < UInt64.size
  rxPackets : (receivedCounts history).length < UInt64.size
  rxBytes : (receivedCounts history).sum < UInt64.size

theorem sentCounts_append (later earlier : History S) :
    sentCounts (later ++ earlier) = sentCounts later ++ sentCounts earlier :=
  List.filterMap_append

theorem receivedCounts_append (later earlier : History S) :
    receivedCounts (later ++ earlier) = receivedCounts later ++ receivedCounts earlier :=
  List.filterMap_append

/-- No counter of `t` is beyond that of `t'`. -/
structure Traffic.NoMore (t t' : Traffic) : Prop where
  txPackets : t.txPackets ≤ t'.txPackets
  txBytes : t.txBytes ≤ t'.txBytes
  rxPackets : t.rxPackets ≤ t'.rxPackets
  rxBytes : t.rxBytes ≤ t'.rxBytes

/-- Totals that fit only grow. -/
theorem Exact.noMore {later earlier : History S} {t t' : Traffic} (h : Exact earlier t)
    (h' : Exact (later ++ earlier) t') (hfits : Fits (later ++ earlier)) : t.NoMore t' := by
  have htxPackets : (sentCounts (later ++ earlier)).length =
      (sentCounts later).length + (sentCounts earlier).length := by
    rw [sentCounts_append, List.length_append]
  have htxBytes : (sentCounts (later ++ earlier)).sum =
      (sentCounts later).sum + (sentCounts earlier).sum := by
    rw [sentCounts_append, List.sum_append]
  have hrxPackets : (receivedCounts (later ++ earlier)).length =
      (receivedCounts later).length + (receivedCounts earlier).length := by
    rw [receivedCounts_append, List.length_append]
  have hrxBytes : (receivedCounts (later ++ earlier)).sum =
      (receivedCounts later).sum + (receivedCounts earlier).sum := by
    rw [receivedCounts_append, List.sum_append]
  obtain ⟨hfit₁, hfit₂, hfit₃, hfit₄⟩ := hfits
  constructor
  · rw [UInt64.le_iff_toNat_le, h'.txPackets hfit₁, h.txPackets (by omega)]
    omega
  · rw [UInt64.le_iff_toNat_le, h'.txBytes hfit₂, h.txBytes (by omega)]
    omega
  · rw [UInt64.le_iff_toNat_le, h'.rxPackets hfit₃, h.rxPackets (by omega)]
    omega
  · rw [UInt64.le_iff_toNat_le, h'.rxBytes hfit₄, h.rxBytes (by omega)]
    omega

/-- What the counters of a kind of socket are good for. -/
structure ExactlyCounted (S : Type) [Operated S] [Channel S] : Prop where
  exact : ∀ (history : History S) (s : S), Run history s → Exact history (Channel.traffic s)
  /-- An operation that reports no transfer leaves the counters as they are. -/
  unchanged : ∀ {σ : Type} [Kernel σ] (s : S) (op : Operated.Operation S) (w : World σ),
    Operated.sent? op (Operated.perform s op w).1.1 = none →
    Operated.received? op (Operated.perform s op w).1.1 = none →
    Channel.traffic (Operated.perform s op w).1.2 = Channel.traffic s
  never_less : ∀ (later earlier : History S) (s s' : S), Run earlier s →
    Run (later ++ earlier) s' → Fits (later ++ earlier) →
    (Channel.traffic s).NoMore (Channel.traffic s')

theorem Accounted.exactlyCounted [Channel S] [Accounted S] : ExactlyCounted S := by
  have hexact (history : History S) (s : S) (h : Run history s) :
      Exact history (Channel.traffic s) := by
    rw [run_traffic h]
    exact total_exact history
  refine ⟨hexact, fun s op w hsent hreceived => ?_, fun later earlier s s' h h' hfits => ?_⟩
  · rw [traffic_perform, hsent, hreceived]
    rfl
  · exact (hexact earlier s h).noMore (hexact _ s' h') hfits

end Exact

/-- An empty datagram is a packet of no bytes. -/
def Traffic.withEmptyPacket (t : Traffic) : Traffic := { t with rxPackets := t.rxPackets + 1 }

theorem Traffic.recordReceived_zero (t : Traffic) : t.recordReceived 0 = t.withEmptyPacket := by
  simp [recordReceived, withEmptyPacket]

/-- **Counters are exact.**  Whatever is done to a socket in whatever order, and whatever the
kernel answers: as long as the totals fit, its counters are the totals of the transfers that
succeeded; nothing else changes them, and they never go back.  An empty datagram is a transfer. -/
theorem traffic_exact :
    ExactlyCounted Stream ∧ ExactlyCounted Peer ∧ ExactlyCounted Datagram ∧
      ∀ {σ : Type} [Kernel σ] (d : Datagram) (capacity : Nat) (timeout : Timeout) (w : World σ),
        ((d.receive capacity timeout w).1.1 = .ok [] →
          (d.receive capacity timeout w).1.2.traffic = d.traffic.withEmptyPacket) ∧
        ∀ delivery, (d.receiveFrom capacity timeout w).1.1 = .ok delivery → delivery.data = [] →
          (d.receiveFrom capacity timeout w).1.2.traffic = d.traffic.withEmptyPacket := by
  refine ⟨Accounted.exactlyCounted, Accounted.exactlyCounted, Accounted.exactlyCounted,
    fun {_} _ d capacity timeout w => ⟨fun hresult => ?_, fun delivery hresult hempty => ?_⟩⟩
  · have hcounted := traffic_of_receiveCase List.length bytesOnly_size
      (Channel.receive_case d capacity timeout Channel.bytesOnly w)
    rw [show Channel.receive d capacity timeout Channel.bytesOnly w = d.receive capacity timeout w
      from rfl, hresult] at hcounted
    exact hcounted.trans (Traffic.recordReceived_zero _)
  · have hcounted := d.traffic_receiveFrom w capacity timeout
    rw [hresult] at hcounted
    simp only [Except.toOption, Option.map_some, hempty, List.length_nil] at hcounted
    exact hcounted.trans (Traffic.recordReceived_zero _)

/-- An accepted connection that sends three bytes and receives two, and an empty datagram. -/
theorem traffic_exact_transfers :
    let w := World.granting false [7, 7]
    let p := Peer.new ⟨4⟩ ⟨⟨127, 0, 0, 1⟩, 40000⟩
    let sent := carryOut p (Peer.Operation.send [1, 2, 3]) w
    let received := carryOut sent.2 (Peer.Operation.receive 8 none) w
    let d := Datagram.ofDescriptor ⟨3⟩ .conservative .system
    Run [received.1, sent.1] received.2 ∧
      received.2.traffic.txPackets.toNat = 1 ∧ received.2.traffic.txBytes.toNat = 3 ∧
      received.2.traffic.rxPackets.toNat = 1 ∧ received.2.traffic.rxBytes.toNat = 2 ∧
      (d.receive 8 none (World.granting false [])).1.2.traffic = Traffic.zero.withEmptyPacket := by
  intro w p sent received d
  let listener := { Stream.ofDescriptor ⟨3⟩ .conservative with state := .listening }
  have hnew : Run [] p :=
    .new ⟨Granting, inferInstance, w, listener, some (.ofSecs 0), rfl⟩
  have hrun : Run [received.1, sent.1] received.2 :=
    .step (.step hnew (Peer.Operation.send [1, 2, 3]) w) (Peer.Operation.receive 8 none) w
  have hsent : sentCounts [received.1, sent.1] = [3] := by cbv
  have hreceived : receivedCounts [received.1, sent.1] = [2] := by cbv
  have hempty : (d.receive 8 none (World.granting false [])).1.1 = .ok [] := by cbv
  obtain ⟨-, hpeer, -, hdatagram⟩ := traffic_exact
  obtain ⟨htxPackets, htxBytes, hrxPackets, hrxBytes⟩ := hpeer.exact _ _ hrun
  rw [hsent] at htxPackets htxBytes
  rw [hreceived] at hrxPackets hrxBytes
  exact ⟨hrun, htxPackets (by decide), htxBytes (by decide), hrxPackets (by decide),
    hrxBytes (by decide), (hdatagram d 8 none _).1 hempty⟩

end ProfiledSocket
