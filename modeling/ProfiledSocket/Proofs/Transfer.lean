/-
How transfers end.

A send or a receive ends in one of a few ways, and they are the same for all channels: its checks
refuse it, the data goes and is counted, the kernel would have made it wait, or it fails.  What
the last two mean for the channel is the channel's own business.

* **`Channel.send_case`**, **`Channel.receive_case`** — the ways in which transfers end;
* `Channel.Spared` — what a transfer that fails leaves of a channel;
* `TransferFailed` — the results that should end a connection;
* **`Stream.transfer_outcome`** — which transfers do cost a stream its connection.

Design notes: a receive waits first, and how the wait goes depends on the world it starts in.  The
cases of a receive therefore keep that world, so that a wait that fails can be told apart from a
receive that fails.
-/
import Mathlib
import ProfiledSocket.Proofs.Talk
import ProfiledSocket.Stream

namespace ProfiledSocket

variable {σ : Type} [Kernel σ]

namespace Channel

variable {C : Type} [Channel C]

/-! ### Sending -/

/-- The ways in which a send can end: what the caller is told, and the channel afterwards. -/
inductive SendCase (c : C) (data : List UInt8) (destination : Option Endpoint) :
    Except SocketError Nat → C → Prop
  /-- The kernel is not asked. -/
  | refused {e : SocketError} (h : checkSend c data destination = .error e) :
      SendCase c data destination (.error e) c
  /-- The kernel took `n` bytes. -/
  | sent {fd : Descriptor} (h : checkSend c data destination = .ok fd) (n : Nat) :
      SendCase c data destination (.ok n) (withTraffic c ((traffic c).recordSent n))
  | wouldBlock {fd : Descriptor} (h : checkSend c data destination = .ok fd) :
      SendCase c data destination (.error .wouldBlock) c
  | failed {fd : Descriptor} (h : checkSend c data destination = .ok fd) (e : Errno) :
      SendCase c data destination (.error (.send (.os e))) (afterFailure c)

theorem send_case (c : C) (data : List UInt8) (destination : Option Endpoint) (w : World σ) :
    SendCase c data destination (send c data destination w).1.1
      (send c data destination w).1.2 := by
  cases hcheck : checkSend c data destination with
  | error e =>
    simp only [send, hcheck]
    exact .refused hcheck
  | ok fd =>
    simp only [send, hcheck, Act.bind_apply, Act.pure_apply, afterSend]
    split
    · exact .sent hcheck _
    · split
      · exact .wouldBlock hcheck
      · exact .failed hcheck _

/-! ### Receiving -/

/-- The ways in which a receive that starts in a world can end. -/
inductive ReceiveCase {α : Type} (c : C) (capacity : Nat) (timeout : Timeout)
    (view : Received capacity → Except IoError α) (w : World σ) : Except SocketError α → C → Prop
  /-- The kernel is not asked. -/
  | refused {e : SocketError} (h : readyDescriptor c .receiving capacity = .error e) :
      ReceiveCase c capacity timeout view w (.error e) c
  /-- The wait for data ran out or failed. -/
  | unready {fd : Descriptor} (h : readyDescriptor c .receiving capacity = .ok fd)
      {e : SocketError} (hwait : (awaitReadable fd timeout w).1 = .error e) :
      ReceiveCase c capacity timeout view w (.error e) c
  | received {fd : Descriptor} (h : readyDescriptor c .receiving capacity = .ok fd)
      (hwait : (awaitReadable fd timeout w).1 = .ok ()) (data : Received capacity) {value : α}
      (hview : view data = .ok value)
      (hsome : ¬ (data.bytes.length = 0 ∧ endsWithNothing C = true)) :
      ReceiveCase c capacity timeout view w (.ok value)
        (withTraffic c ((traffic c).recordReceived data.bytes.length))
  /-- Nothing was there although the wait had not run out. -/
  | nothing {fd : Descriptor} (h : readyDescriptor c .receiving capacity = .ok fd)
      (hwait : (awaitReadable fd timeout w).1 = .ok ()) :
      ReceiveCase c capacity timeout view w (.error .timeout) c
  /-- The other end is done. -/
  | ended {fd : Descriptor} (h : readyDescriptor c .receiving capacity = .ok fd)
      (hwait : (awaitReadable fd timeout w).1 = .ok ()) (hend : endsWithNothing C = true) :
      ReceiveCase c capacity timeout view w (.error .closed) (afterEnd c)
  | failed {fd : Descriptor} (h : readyDescriptor c .receiving capacity = .ok fd)
      (hwait : (awaitReadable fd timeout w).1 = .ok ()) (e : IoError) :
      ReceiveCase c capacity timeout view w (.error (.recv e)) (afterFailure c)

/-- What the caller gets to see is a view of what arrived. -/
theorem viewed_ok {α : Type} {capacity : Nat} {view : Received capacity → Except IoError α}
    {reply : Except Errno (Received capacity)} {n : Nat} {value : α}
    (h : viewed view reply = .ok (n, value)) :
    ∃ data, view data = .ok value ∧ data.bytes.length = n := by
  cases reply with
  | error e => cases h
  | ok data =>
    simp only [viewed] at h
    cases hview : view data with
    | error e => rw [hview] at h; cases h
    | ok shown =>
      rw [hview] at h
      cases h
      exact ⟨data, hview, rfl⟩

theorem receive_case {α : Type} (c : C) (capacity : Nat) (timeout : Timeout)
    (view : Received capacity → Except IoError α) (w : World σ) :
    ReceiveCase c capacity timeout view w (receive c capacity timeout view w).1.1
      (receive c capacity timeout view w).1.2 := by
  cases hcheck : readyDescriptor c .receiving capacity with
  | error e =>
    simp only [receive, hcheck]
    exact .refused hcheck
  | ok fd =>
    cases hwait : (awaitReadable fd timeout w).1 with
    | error e =>
      simp only [receive, hcheck, Act.bind_apply, hwait]
      exact .unready hcheck hwait
    | ok _ =>
      simp only [receive, hcheck, Act.bind_apply, hwait, Act.pure_apply]
      -- the wait is over, and the rest is up to the kernel's answer
      cases hviewed : viewed view (askUninterrupted (.receive fd capacity)
          (awaitReadable fd timeout w).2).1 with
      | error e =>
        simp only [afterReceive]
        split
        · exact .nothing hcheck hwait
        · exact .failed hcheck hwait e
      | ok arrived =>
        obtain ⟨n, value⟩ := arrived
        obtain ⟨data, hview, rfl⟩ := viewed_ok hviewed
        simp only [afterReceive]
        split
        · rename_i hnone
          exact .ended hcheck hwait hnone.2
        · rename_i hsome
          exact .received hcheck hwait data hview hsome

/-- A wait that does not end well runs out or fails. -/
theorem awaitReadable_error {fd : Descriptor} {timeout : Timeout} {w : World σ} {e : SocketError}
    (h : (awaitReadable fd timeout w).1 = .error e) : e = .timeout ∨ ∃ cause, e = .recv cause := by
  by_cases hzero : timeout.millis = 0
  · simp [awaitReadable, hzero] at h
  · simp only [awaitReadable, if_neg hzero, Act.bind_apply] at h
    match hwait : (waitReady fd .read timeout.millis w).1 with
    | .ok .ready => simp [hwait] at h
    | .ok .timedOut =>
      have : SocketError.timeout = e := by simpa [hwait] using h
      exact .inl this.symm
    | .error cause =>
      have : SocketError.recv cause = e := by simpa [hwait] using h
      exact .inr ⟨cause, this.symm⟩

/-! ### Failing -/

/-- A channel after a transfer that failed: it is as it was, unless the failure is one that waiting
does not help against. -/
inductive Spared (c : C) (e : SocketError) : C → Prop
  | unchanged : Spared c e c
  | failed (h : e.isTransient = false) : Spared c e (afterFailure c)
  | ended (h : e.isTransient = false) : Spared c e (afterEnd c)

theorem SendCase.spared {c c' : C} {data : List UInt8} {destination : Option Endpoint}
    {e : SocketError} (h : SendCase c data destination (.error e) c') : Spared c e c' := by
  cases h with
  | refused _ => exact .unchanged
  | wouldBlock _ => exact .unchanged
  | failed _ e => exact .failed rfl

theorem ReceiveCase.spared {α : Type} {c c' : C} {capacity : Nat} {timeout : Timeout}
    {view : Received capacity → Except IoError α} {w : World σ} {e : SocketError}
    (h : ReceiveCase c capacity timeout view w (.error e) c') : Spared c e c' := by
  cases h with
  | refused _ => exact .unchanged
  | unready _ _ => exact .unchanged
  | nothing _ _ => exact .unchanged
  | ended _ _ _ => exact .ended rfl
  | failed _ _ e => exact .failed rfl

end Channel

/-! ### What transfers cost a stream -/

/-- A transfer that failed for good: the kernel refused it, or the other end is done. -/
def TransferFailed {α : Type} : Except SocketError α → Prop
  | .ok _ => False
  | .error e => e.kind = .send ∨ e.kind = .recv ∨ e.kind = .closed

namespace Stream

variable {s : Stream} {fd : Descriptor}

theorem readyDescriptor_eq (hstate : s.state = .connected) (hfd : s.descriptor = some fd)
    (direction : Direction) {length : Nat} (hlength : length ≠ 0) :
    Channel.readyDescriptor s direction length = .ok fd := by
  simp [Channel.readyDescriptor, Channel.openDescriptor, Channel.held, Channel.descriptor,
    Channel.obstacle?, hlength, hstate, hfd]

/-- Only a stream with a connection gets as far as a transfer. -/
theorem state_of_readyDescriptor {direction : Direction} {length : Nat}
    (h : Channel.readyDescriptor s direction length = .ok fd) : s.state = .connected := by
  rw [Channel.readyDescriptor] at h
  split at h
  · cases h
  · split at h
    · cases h
    · rename_i hnone
      simpa [Channel.obstacle?] using hnone

/-- A send changes nothing but the state and the counters. -/
theorem frame_of_sendCase {s' : Stream} {data : List UInt8} {destination : Option Endpoint}
    {result : Except SocketError Nat} (h : Channel.SendCase s data destination result s') :
    s' = { s with state := s'.state, traffic := s'.traffic } := by
  cases h <;> rfl

/-- Nor does a receive. -/
theorem frame_of_receiveCase {s' : Stream} {α : Type} {capacity : Nat} {timeout : Timeout}
    {view : Received capacity → Except IoError α} {w : World σ} {result : Except SocketError α}
    (h : Channel.ReceiveCase s capacity timeout view w result s') :
    s' = { s with state := s'.state, traffic := s'.traffic } := by
  cases h <;> rfl

/-- A stream that had a connection has lost it if `failed`, and else still has it. -/
def Outcome (failed : Prop) (s : Stream) : Prop :=
  (s.state = .disconnected ↔ failed) ∧ (s.state = .connected ↔ ¬ failed)

theorem outcome_of_failed {failed : Prop} (h : failed) (hstate : s.state = .disconnected) :
    s.Outcome failed := by
  simp [Outcome, h, hstate]

theorem outcome_of_not_failed {failed : Prop} (h : ¬ failed) (hstate : s.state = .connected) :
    s.Outcome failed := by
  simp [Outcome, h, hstate]

theorem send_outcome (hstate : s.state = .connected) (hfd : s.descriptor = some fd)
    {data : List UInt8} (hdata : data ≠ []) {w : World σ} {result : Except SocketError Nat}
    {s' : Stream} (h : (s.send data w).1 = (result, s')) : s'.Outcome (TransferFailed result) := by
  have hcheck : Channel.checkSend s data none = .ok fd :=
    readyDescriptor_eq hstate hfd .sending (by simpa using hdata)
  have hcase := Channel.send_case s data none w
  rw [show Channel.send s data none w = s.send data w from rfl, h] at hcase
  cases hcase with
  | refused hrefused =>
    rw [hcheck] at hrefused
    cases hrefused
  | sent _ n => exact outcome_of_not_failed id hstate
  | wouldBlock _ => exact outcome_of_not_failed (by simp [TransferFailed, SocketError.kind]) hstate
  | failed _ e => exact outcome_of_failed (.inl rfl) rfl

/-- Whether a wait for data fails. -/
def WaitFails (fd : Descriptor) (timeout : Timeout) (w : World σ) : Prop :=
  ∃ cause, (Channel.awaitReadable fd timeout w).1 = .error (.recv cause)

theorem receive_outcome (hstate : s.state = .connected) (hfd : s.descriptor = some fd)
    {capacity : Nat} (hcapacity : capacity ≠ 0) {timeout : Timeout} {w : World σ}
    {result : Except SocketError (List UInt8)} {s' : Stream}
    (h : (s.receive capacity timeout w).1 = (result, s')) :
    s'.Outcome (TransferFailed result ∧ ¬ WaitFails fd timeout w) ∧
      ∀ cause, (Channel.awaitReadable fd timeout w).1 = .error (.recv cause) →
        result = .error (.recv cause) ∧ s' = s := by
  have hcheck : Channel.readyDescriptor s .receiving capacity = .ok fd :=
    readyDescriptor_eq hstate hfd .receiving hcapacity
  have hcase := Channel.receive_case s capacity timeout Channel.bytesOnly w
  rw [show Channel.receive s capacity timeout Channel.bytesOnly w = s.receive capacity timeout w
    from rfl, h] at hcase
  -- the descriptor that the checks let through is the one of the stream
  have hsame {fd' : Descriptor} (h : Channel.readyDescriptor s .receiving capacity = .ok fd') :
      fd' = fd := by
    rw [hcheck] at h
    exact (Except.ok.inj h).symm
  cases hcase with
  | refused hrefused =>
    rw [hcheck] at hrefused
    cases hrefused
  | unready hready hwait =>
    obtain rfl := hsame hready
    refine ⟨outcome_of_not_failed ?_ hstate, fun cause hcause => ⟨?_, rfl⟩⟩
    · -- an error of a wait that did not fail is that time ran out
      rintro ⟨hfailed, hnot⟩
      rcases Channel.awaitReadable_error hwait with rfl | ⟨cause, rfl⟩
      · simp [TransferFailed, SocketError.kind] at hfailed
      · exact hnot ⟨cause, hwait⟩
    · rw [hwait] at hcause
      cases hcause
      rfl
  | received hready hwait data hview hsome =>
    obtain rfl := hsame hready
    exact ⟨outcome_of_not_failed And.left hstate, by simp [hwait]⟩
  | nothing hready hwait =>
    obtain rfl := hsame hready
    refine ⟨outcome_of_not_failed ?_ hstate, by simp [hwait]⟩
    simp [TransferFailed, SocketError.kind]
  | ended hready hwait hend =>
    obtain rfl := hsame hready
    exact ⟨outcome_of_failed ⟨.inr (.inr rfl), by simp [WaitFails, hwait]⟩ rfl, by simp [hwait]⟩
  | failed hready hwait e =>
    obtain rfl := hsame hready
    exact ⟨outcome_of_failed ⟨.inr (.inl rfl), by simp [WaitFails, hwait]⟩ rfl, by simp [hwait]⟩

/-- **What transfers cost a stream.** A stream that has a connection loses it by a transfer that
fails for good, and by no other; except that it keeps the connection if it is the wait for data
that fails. -/
theorem transfer_outcome (hstate : s.state = .connected) (hfd : s.descriptor = some fd)
    (w : World σ) :
    (∀ data ≠ [], ∀ result s', (s.send data w).1 = (result, s') →
      (s'.state = .disconnected ↔ TransferFailed result) ∧
      (s'.state = .connected ↔ ¬ TransferFailed result)) ∧
    (∀ capacity ≠ 0, ∀ timeout result s', (s.receive capacity timeout w).1 = (result, s') →
      (s'.state = .disconnected ↔ TransferFailed result ∧ ¬ WaitFails fd timeout w) ∧
      (s'.state = .connected ↔ ¬ (TransferFailed result ∧ ¬ WaitFails fd timeout w)) ∧
      ∀ cause, (Channel.awaitReadable fd timeout w).1 = .error (.recv cause) →
        result = .error (.recv cause) ∧ s' = s) := by
  constructor
  · intro data hdata result s' h
    exact send_outcome hstate hfd hdata h
  · intro capacity hcapacity timeout result s' h
    obtain ⟨⟨hdisconnected, hconnected⟩, hfails⟩ := receive_outcome hstate hfd hcapacity h
    exact ⟨hdisconnected, hconnected, hfails⟩

/-- A stream that a friendly kernel has connected. -/
def granted : Stream :=
  { ofDescriptor ⟨3⟩ .conservative with
    localAddress := some ⟨⟨127, 0, 0, 1⟩, 40001⟩
    remote := some ⟨⟨127, 0, 0, 1⟩, 7⟩
    state := .connected }

/-- The stream keeps its connection when the wait for data fails. -/
theorem transfer_outcome_granted :
    granted.state = .connected ∧ granted.descriptor = some ⟨3⟩ ∧
      (granted.receive 4 none (World.granting true [])).1 =
        (.error (.recv (.os .invalidArgument)), granted) := by
  have hconnected : granted.state = .connected := rfl
  have hfd : granted.descriptor = some ⟨3⟩ := rfl
  obtain ⟨-, hreceive⟩ := transfer_outcome hconnected hfd (World.granting true [])
  obtain ⟨-, -, hfails⟩ := hreceive 4 (by decide) none _ _ rfl
  obtain ⟨hresult, hs⟩ := hfails (.os .invalidArgument) (by cbv)
  exact ⟨hconnected, hfd, Prod.ext hresult hs⟩

/-- A new stream gets a connection, and then a receive fails because its wait does.  The error is
one of those that end a connection, but the stream still counts as connected. -/
theorem failed_wait_keeps_connection :
    (Stream.new .conservative (World.granting false [])).1 =
        .ok (ofDescriptor ⟨3⟩ .conservative) ∧
      ((ofDescriptor ⟨3⟩ .conservative).connect "127.0.0.1" 7 none (World.granting false [])).1 =
        (.ok (), granted) ∧
      granted.state = .connected ∧ granted.descriptor = some ⟨3⟩ ∧
      ¬ ((granted.receive 4 none (World.granting true [])).1.2.state = .disconnected ↔
        TransferFailed (granted.receive 4 none (World.granting true [])).1.1) := by
  have hreceive : (granted.receive 4 none (World.granting true [])).1 =
      (.error (.recv (.os .invalidArgument)), granted) := by cbv
  refine ⟨rfl, rfl, rfl, rfl, ?_⟩
  rw [hreceive]
  simp [granted, TransferFailed, SocketError.kind]

end Stream

end ProfiledSocket
