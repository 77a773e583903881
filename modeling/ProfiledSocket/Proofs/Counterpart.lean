/-
The two ends of a connection transfer data alike.

A stream that has a connection and an accepted connection send and receive in the same way.  As long
as the kernel answers both alike, their callers are told the same and their counters agree.  They
part when a transfer costs the stream its connection: it refuses everything after that, while an
accepted connection goes on as long as it is open.

* `Lockstep`, `AnsweredAlike` — kernels that answer the transfers over two descriptors alike;
* **`Channel.transfer_parallels`** — a transfer over channels with nothing in the way;
* `Channel.transferEach` — transfers one after the other;
* **`Stream.transferEach_together`** — all transfers, while the stream has its connection;
* `Stream.Alongside` — how transfers of a stream and of an accepted connection compare;
* **`Stream.run_alongside`** — they do so whatever the kernels answer.

Design notes: the two ends have descriptors of their own, and may have kernels of their own, so that
their calls are not the same; the answers are, and so are the times at which they are given.  The
transfer that costs the stream its connection still has the same outcome for both: only the one that
comes after it shows the difference.
-/
import Mathlib
import ProfiledSocket.Proofs.Delivery
import ProfiledSocket.Proofs.Interruption
import ProfiledSocket.Proofs.Mirror
import ProfiledSocket.Proofs.Stream.Coherent

namespace ProfiledSocket

variable {σ τ : Type} [Kernel σ] [Kernel τ]

open Act

/-! ### Kernels that answer alike -/

/-- Kernels in related states answer the calls of transfers over two descriptors alike, and are in
related states then. -/
structure Lockstep (fd fd' : Descriptor) (K : σ → τ → Prop) : Prop where
  now_eq : ∀ k k', K k k' → Kernel.now k = Kernel.now k'
  send : ∀ k k' data, K k k' →
    SameAnswer K (Kernel.answer k (.send fd data none true))
      (Kernel.answer k' (.send fd' data none true))
  receive : ∀ k k' capacity, K k k' →
    SameAnswer K (Kernel.answer k (.receive fd capacity)) (Kernel.answer k' (.receive fd' capacity))
  poll : ∀ k k' left, K k k' →
    SameAnswer K (Kernel.answer k (.poll fd (some .read) left))
      (Kernel.answer k' (.poll fd' (some .read) left))

/-- The two kernels answer all transfers over the two descriptors alike from now on. -/
def AnsweredAlike (fd fd' : Descriptor) (k : σ) (k' : τ) : Prop :=
  ∃ K : σ → τ → Prop, Lockstep fd fd' K ∧ K k k'

/-- Calls that are answered alike are repeated equally often. -/
theorem askUninterrupted_parallels {K : σ → τ → Prop} {call call' : Call}
    {R : Reply call → Reply call' → Prop}
    (hanswer : ∀ k k', K k k' → R (Kernel.answer k call).1 (Kernel.answer k' call').1 ∧
      K (Kernel.answer k call).2 (Kernel.answer k' call').2)
    (hR : ∀ reply reply', R reply reply' →
      (reply = .error .interrupted ↔ reply' = .error .interrupted)) :
    (askUninterrupted call : Act σ _).Parallels K (askUninterrupted call' : Act τ _) R := by
  intro w
  rw [askUninterrupted, askUninterrupted]
  -- by induction on the interruptions, which the other kernel reports as well
  fun_induction askFrom call w with
  | case1 w value kernel hk =>
    intro w' hw
    obtain ⟨hreply, hkernel⟩ := hanswer _ _ hw
    rw [hk] at hreply hkernel
    rw [askFrom_of_answer (mt (hR _ _ hreply).2 (by simp)) rfl]
    exact ⟨hkernel, hreply⟩
  | case2 w kernel hk ih =>
    intro w' hw
    obtain ⟨hreply, hkernel⟩ := hanswer _ _ hw
    rw [hk] at hreply hkernel
    rw [askFrom_of_interrupted (Prod.ext ((hR _ _ hreply).1 rfl) rfl)]
    exact ih hkernel
  | case3 w e kernel hk he =>
    intro w' hw
    obtain ⟨hreply, hkernel⟩ := hanswer _ _ hw
    rw [hk] at hreply hkernel
    rw [askFrom_of_answer (mt (hR _ _ hreply).2 fun h => he (Except.error.inj h)) rfl]
    exact ⟨hkernel, hreply⟩

/-! ### Single transfers -/

/-- How much data a transfer is about. -/
def Transfer.length : Transfer → Nat
  | send data => data.length
  | receive capacity _ => capacity

/-- A transfer that fails. -/
def Transfer.failed (e : SocketError) : (t : Transfer) → t.Result
  | send _ => .error e
  | receive .. => .error e

namespace Channel

variable {C D : Type} [Channel C] [Channel D]

/-- There is a descriptor, and nothing in the way of a transfer. -/
structure Clear (c : C) (fd : Descriptor) : Prop where
  descriptor_eq : descriptor c = some fd
  obstacle_eq : ∀ direction, obstacle? c direction = none

theorem Clear.readyDescriptor_eq {c : C} {fd : Descriptor} (h : Clear c fd) (direction : Direction)
    (length : Nat) : readyDescriptor c direction length =
      if length = 0 then .error .emptyBuffer else .ok fd := by
  split
  · rename_i hzero
    rw [readyDescriptor, openDescriptor, if_pos hzero]
  · rename_i hlength
    exact readyDescriptor_of_descriptor h.descriptor_eq (h.obstacle_eq direction) hlength

/-- What the callers are told is the same, and so is what is counted. -/
def Agree {α : Type} (a : α × C) (b : α × D) : Prop := a.1 = b.1 ∧ traffic a.2 = traffic b.2

section Agreement

variable [LawfulChannel C] [LawfulChannel D] {c : C} {d : D}

theorem afterSend_agree (htraffic : traffic c = traffic d) (reply : Except Errno Nat) :
    Agree (afterSend c reply) (afterSend d reply) := by
  cases reply with
  | ok n =>
    refine ⟨rfl, ?_⟩
    simp only [afterSend, LawfulChannel.traffic_withTraffic, htraffic]
  | error e =>
    rw [afterSend, afterSend]
    split
    · exact ⟨rfl, htraffic⟩
    · refine ⟨rfl, ?_⟩
      rw [LawfulChannel.traffic_afterFailure, LawfulChannel.traffic_afterFailure, htraffic]

theorem afterReceive_agree {α : Type} (hends : endsWithNothing C = endsWithNothing D)
    (htraffic : traffic c = traffic d) (result : Except IoError (Nat × α)) :
    Agree (afterReceive c result) (afterReceive d result) := by
  match result with
  | .ok (n, value) =>
    rw [afterReceive, afterReceive, hends]
    split
    · refine ⟨rfl, ?_⟩
      rw [LawfulChannel.traffic_afterEnd, LawfulChannel.traffic_afterEnd, htraffic]
    · refine ⟨rfl, ?_⟩
      simp only [LawfulChannel.traffic_withTraffic, htraffic]
  | .error e =>
    rw [afterReceive, afterReceive]
    split
    · exact ⟨rfl, htraffic⟩
    · refine ⟨rfl, ?_⟩
      rw [LawfulChannel.traffic_afterFailure, LawfulChannel.traffic_afterFailure, htraffic]

variable {fd fd' : Descriptor} {K : σ → τ → Prop}

theorem send_parallels (hK : Lockstep fd fd' K) (hc : Clear c fd) (hd : Clear d fd')
    (htraffic : traffic c = traffic d) (data : List UInt8) :
    (send c data none : Act σ _).Parallels K (send d data none : Act τ _) Agree := by
  have hcheck : checkSend c data none = _ := hc.readyDescriptor_eq .sending data.length
  have hcheck' : checkSend d data none = _ := hd.readyDescriptor_eq .sending data.length
  rw [send, send, hcheck, hcheck']
  by_cases hzero : data.length = 0
  · simp only [if_pos hzero]
    exact .pure ⟨rfl, htraffic⟩
  · simp only [if_neg hzero]
    have hasked : (askUninterrupted (.send fd data none true) :
          Act σ (Except Errno Nat)).Parallels K
        (askUninterrupted (.send fd' data none true) : Act τ (Except Errno Nat)) Eq :=
      askUninterrupted_parallels (fun k k' => hK.send k k' data) (by rintro _ _ rfl; rfl)
    refine .bind hasked ?_
    rintro reply _ rfl
    have hnoted : (noteSend c fd data.length reply : Act σ Unit).Parallels K
        (noteSend d fd' data.length reply : Act τ Unit) Eq := by
      intro w w' hw
      rw [noteSend_kernel, noteSend_kernel]
      exact ⟨hw, rfl⟩
    exact .bind hnoted fun _ _ _ => .pure (afterSend_agree htraffic reply)

theorem awaitReadable_parallels (hK : Lockstep fd fd' K) (timeout : Timeout) :
    (awaitReadable fd timeout : Act σ _).Parallels K (awaitReadable fd' timeout : Act τ _) Eq := by
  rw [awaitReadable, awaitReadable]
  split
  · exact .pure rfl
  · refine .bind (waitReady_parallels hK.now_eq hK.poll _) ?_
    rintro readiness _ rfl
    cases readiness with
    | error e => exact .pure rfl
    | ok reached => cases reached <;> exact .pure rfl

theorem receive_parallels (hends : endsWithNothing C = endsWithNothing D)
    (hK : Lockstep fd fd' K) (hc : Clear c fd) (hd : Clear d fd')
    (htraffic : traffic c = traffic d) {α : Type} (capacity : Nat) (timeout : Timeout)
    (view : Received capacity → Except IoError α) :
    (receive c capacity timeout view : Act σ _).Parallels K
      (receive d capacity timeout view : Act τ _) Agree := by
  rw [receive, receive, hc.readyDescriptor_eq, hd.readyDescriptor_eq]
  by_cases hzero : capacity = 0
  · simp only [if_pos hzero]
    exact .pure ⟨rfl, htraffic⟩
  · simp only [if_neg hzero]
    refine .bind (awaitReadable_parallels hK timeout) ?_
    rintro waited _ rfl
    cases waited with
    | error e => exact .pure ⟨rfl, htraffic⟩
    | ok _ =>
      have hasked : (askUninterrupted (.receive fd capacity) :
            Act σ (Except Errno (Received capacity))).Parallels K
          (askUninterrupted (.receive fd' capacity) : Act τ (Except Errno (Received capacity)))
          Eq :=
        askUninterrupted_parallels (fun k k' => hK.receive k k' capacity) (by rintro _ _ rfl; rfl)
      refine .bind hasked ?_
      rintro reply _ rfl
      have hnoted : (noteReceive c fd (viewed view reply) : Act σ Unit).Parallels K
          (noteReceive d fd' (viewed view reply) : Act τ Unit) Eq := by
        intro w w' hw
        rw [noteReceive_kernel, noteReceive_kernel]
        exact ⟨hw, rfl⟩
      exact .bind hnoted fun _ _ _ => .pure (afterReceive_agree hends htraffic _)

/-- **Channels with nothing in the way transfer alike**, if they are answered alike. -/
theorem transfer_parallels (hends : endsWithNothing C = endsWithNothing D)
    (hK : Lockstep fd fd' K) (hc : Clear c fd) (hd : Clear d fd')
    (htraffic : traffic c = traffic d) (t : Transfer) :
    (transfer c t : Act σ _).Parallels K (transfer d t : Act τ _) Agree := by
  cases t with
  | send data => exact send_parallels hK hc hd htraffic data
  | receive capacity timeout => exact receive_parallels hends hK hc hd htraffic capacity timeout _

end Agreement

/-- The talks of a transfer, and what comes of it. -/
def Transfers (c : C) : (t : Transfer) → Talk → t.Result × C → Prop
  | .send data => Sends c data none
  | .receive capacity timeout => Receives c capacity timeout bytesOnly

theorem transfer_talks [Transferring C] (c : C) (t : Transfer) :
    (Transferring.transfer c t : Act σ _).Ensures (Transfers c t) := by
  rw [Transferring.transfer_eq]
  cases t with
  | send data => exact send_talks c data none
  | receive capacity timeout => exact receive_talks c capacity timeout bytesOnly

/-- A transfer of something is not refused if there is nothing in the way. -/
theorem Clear.talk_ne_nil {c : C} {fd : Descriptor} (h : Clear c fd) {t : Transfer}
    (hlength : t.length ≠ 0) {talk : Talk} {out : t.Result × C} (ht : Transfers c t talk out) :
    talk ≠ [] := by
  cases t with
  | send data =>
    cases ht with
    | refused hrefused =>
      have hcheck : checkSend c data none = _ := h.readyDescriptor_eq .sending data.length
      rw [hcheck, if_neg (show data.length ≠ 0 from hlength)] at hrefused
      cases hrefused
    | answered _ n reply _ => simp [repeated]
  | receive capacity timeout =>
    cases ht with
    | refused hrefused =>
      rw [h.readyDescriptor_eq, if_neg (show capacity ≠ 0 from hlength)] at hrefused
      cases hrefused
    | unready _ hwait =>
      -- a wait that does not end well has taken place
      rintro rfl
      cases hwait with
      | ranOut _ hpolled => cases hpolled
      | failed _ hpolled => cases hpolled
    | answered _ _ n reply _ => simp [repeated]

/-- Transfers that are refused for the same reason whatever they are about. -/
theorem transfer_of_refused [Transferring C] {c : C} {e : SocketError} {t : Transfer}
    (hcheck : ∀ direction, readyDescriptor c direction t.length = .error e) (w : World σ) :
    Transferring.transfer c t w = ((t.failed e, c), w) := by
  rw [Transferring.transfer_eq]
  cases t with
  | send data =>
    have hsend : checkSend c data none = .error e := hcheck .sending
    rw [transfer, send, hsend]
    rfl
  | receive capacity timeout =>
    have hreceive : readyDescriptor c .receiving capacity = .error e := hcheck .receiving
    rw [transfer, receive, hreceive]
    rfl

/-! ### Any number of transfers -/

/-- Carries out one transfer after the other. -/
def transferEach [Transferring C] (c : C) : List Transfer → Act σ (List Report × C)
  | [] => return ([], c)
  | t :: ts => do
    let (result, c) ← Transferring.transfer c t
    let (reports, c) ← transferEach c ts
    return (⟨t, result⟩ :: reports, c)

section Preservation

variable [Transferring C] {P : C → Prop} (htraffic : ∀ c t, P c → P (withTraffic c t))
  (hfailure : ∀ c, P c → P (afterFailure c)) (hend : ∀ c, P c → P (afterEnd c))

include htraffic hfailure hend

theorem transfer_preserves (t : Transfer) (w : World σ) {c : C} (hc : P c) :
    P (Transferring.transfer c t w).1.2 := by
  rw [Transferring.transfer_eq]
  cases t with
  | send data =>
    have hcase {result : Except SocketError Nat} {c' : C} (h : SendCase c data none result c') :
        P c' := by
      cases h with
      | refused _ => exact hc
      | sent _ _ => exact htraffic _ _ hc
      | wouldBlock _ => exact hc
      | failed _ _ => exact hfailure _ hc
    exact hcase (send_case c data none w)
  | receive capacity timeout =>
    have hcase {result : Except SocketError (List UInt8)} {c' : C}
        (h : ReceiveCase c capacity timeout bytesOnly w result c') : P c' := by
      cases h with
      | refused _ => exact hc
      | unready _ _ => exact hc
      | received _ _ _ _ _ => exact htraffic _ _ hc
      | nothing _ _ => exact hc
      | ended _ _ _ => exact hend _ hc
      | failed _ _ _ => exact hfailure _ hc
    exact hcase (receive_case c capacity timeout bytesOnly w)

/-- What counting, failing and ending leave as it is no transfers change. -/
theorem transferEach_preserves (ts : List Transfer) (w : World σ) {c : C} (hc : P c) :
    P (transferEach c ts w).1.2 := by
  induction ts generalizing c w with
  | nil => exact hc
  | cons t ts ih => exact ih _ (transfer_preserves htraffic hfailure hend t w hc)

end Preservation

end Channel

/-! ### Accepted connections -/

namespace Peer

variable {p : Peer} {fd : Descriptor}

theorem clear (hopen : p.descriptor = some fd) : Channel.Clear p fd := ⟨hopen, fun _ => rfl⟩

/-- An accepted connection keeps its descriptor, whatever is transferred. -/
theorem descriptor_transferEach (hopen : p.descriptor = some fd) (ts : List Transfer)
    (w : World σ) : (Channel.transferEach p ts w).1.2.descriptor = some fd :=
  Channel.transferEach_preserves (P := fun p : Peer => p.descriptor = some fd) (fun _ _ => id)
    (fun _ => id) (fun _ => id) ts w hopen

/-- An accepted connection that is closed transfers nothing more. -/
theorem transfer_of_closed (hclosed : p.descriptor = none) {t : Transfer} (hlength : t.length ≠ 0)
    (w : World σ) : Transferring.transfer p t w = ((t.failed .socketClosed, p), w) := by
  refine Channel.transfer_of_refused (fun direction => ?_) w
  have hheld : Channel.held p = .error .socketClosed := by
    rw [Channel.held, show Channel.descriptor p = none from hclosed]
  rw [Channel.readyDescriptor, Channel.openDescriptor, if_neg hlength, hheld]

end Peer

/-! ### Streams -/

namespace Stream

variable {s : Stream} {fd : Descriptor}

theorem clear (hstate : s.state = .connected) (hfd : s.descriptor = some fd) :
    Channel.Clear s fd := ⟨hfd, fun _ => if_pos hstate⟩

/-- A stream keeps its descriptor, too, even if it loses its connection. -/
theorem descriptor_transferEach (hfd : s.descriptor = some fd) (ts : List Transfer)
    (w : World σ) : (Channel.transferEach s ts w).1.2.descriptor = some fd :=
  Channel.transferEach_preserves (P := fun s : Stream => s.descriptor = some fd) (fun _ _ => id)
    (fun _ => id) (fun _ => id) ts w hfd

/-- No transfer gives a stream a connection. -/
theorem state_transferEach (hstate : s.state ≠ .connected) (ts : List Transfer) (w : World σ) :
    (Channel.transferEach s ts w).1.2.state ≠ .connected :=
  Channel.transferEach_preserves (P := fun s : Stream => s.state ≠ .connected) (fun _ _ => id)
    (fun _ _ => nofun) (fun _ _ => nofun) ts w hstate

/-- Without a connection a stream transfers nothing, and the kernel is not asked. -/
theorem transfer_of_parted (hfd : s.descriptor = some fd) (hstate : s.state ≠ .connected)
    {t : Transfer} (hlength : t.length ≠ 0) (w : World σ) :
    Transferring.transfer s t w =
      ((t.failed (.notInitialized "socket is not connected"), s), w) := by
  refine Channel.transfer_of_refused (fun direction => ?_) w
  have hheld : Channel.held s = .ok fd := by
    rw [Channel.held, show Channel.descriptor s = some fd from hfd]
  have hobstacle : Channel.obstacle? s direction =
    some (.notInitialized "socket is not connected") := if_neg hstate
  rw [Channel.readyDescriptor, Channel.openDescriptor, if_neg hlength, hheld]
  simp only [hobstacle]

/-- A stream and an accepted connection transfer alike while the stream has its connection. -/
theorem transfer_parallels {fd' : Descriptor} {K : σ → τ → Prop} (hK : Lockstep fd fd' K) {p : Peer}
    (hstate : s.state = .connected) (hfd : s.descriptor = some fd) (hopen : p.descriptor = some fd')
    (htraffic : s.traffic = p.traffic) (t : Transfer) :
    (Transferring.transfer s t : Act σ _).Parallels K (Transferring.transfer p t : Act τ _)
      Channel.Agree := by
  rw [Transferring.transfer_eq, Transferring.transfer_eq]
  have hends : Channel.endsWithNothing Stream = Channel.endsWithNothing Peer := rfl
  exact Channel.transfer_parallels hends hK (clear hstate hfd) (Peer.clear hopen) htraffic t

/-- **While the stream has its connection, all transfers have the same results**, and are counted
alike; and the kernels still answer alike after them. -/
theorem transferEach_together {fd' : Descriptor} {K : σ → τ → Prop} (hK : Lockstep fd fd' K)
    {p : Peer} (hfd : s.descriptor = some fd) (hopen : p.descriptor = some fd')
    (htraffic : s.traffic = p.traffic) (ts : List Transfer) {w : World σ} {w' : World τ}
    (hw : K w.kernel w'.kernel)
    (hstate : (Channel.transferEach s ts w).1.2.state = .connected) :
    K (Channel.transferEach s ts w).2.kernel (Channel.transferEach p ts w').2.kernel ∧
      Channel.Agree (Channel.transferEach s ts w).1 (Channel.transferEach p ts w').1 := by
  -- by induction on the transfers; a stream that is connected in the end has been so all the time
  induction ts generalizing s p w w' with
  | nil => exact ⟨hw, rfl, htraffic⟩
  | cons t ts ih =>
    have hconnected : s.state = .connected :=
      not_not.1 fun hparted => state_transferEach hparted (t :: ts) w hstate
    obtain ⟨hkernel, hresult, hcounted⟩ :=
      transfer_parallels hK hconnected hfd hopen htraffic t hw
    have hfd₁ := descriptor_transferEach hfd [t] w
    have hopen₁ := Peer.descriptor_transferEach hopen [t] w'
    obtain ⟨hkernel', hreports, hcounted'⟩ := ih hfd₁ hopen₁ hcounted hkernel hstate
    refine ⟨hkernel', ?_, hcounted'⟩
    exact congrArg₂ (fun result reports => (⟨t, result⟩ : Report) :: reports) hresult hreports

/-- How transfers of a stream and of an accepted connection compare. -/
structure Alongside (fd' : Descriptor) (a : (List Report × Stream) × World σ)
    (b : (List Report × Peer) × World τ) : Prop where
  /-- While the stream has its connection, all results are the same, and so are the counters. -/
  together : a.1.2.state = .connected → Channel.Agree a.1 b.1
  /-- So they are after the next transfer, even if that costs the stream its connection. -/
  next : a.1.2.state = .connected → ∀ t,
    Channel.Agree (Transferring.transfer a.1.2 t a.2).1 (Transferring.transfer b.1.2 t b.2).1
  /-- After that the stream refuses to transfer anything, and does not ask the kernel. -/
  parted : a.1.2.state ≠ .connected → ∀ t : Transfer, t.length ≠ 0 →
    ∀ {ρ : Type} [Kernel ρ] (w : World ρ), Transferring.transfer a.1.2 t w =
      ((t.failed (.notInitialized "socket is not connected"), a.1.2), w)
  /-- The accepted connection keeps its descriptor. -/
  keeps : b.1.2.descriptor = some fd'
  /-- It asks the kernel for each transfer of something, and answers as the kernel does. -/
  goes_on : ∀ t : Transfer, t.length ≠ 0 → ∀ {ρ : Type} [Kernel ρ],
    (Transferring.transfer b.1.2 t : Act ρ _).Ensures fun talk out =>
      talk ≠ [] ∧ Channel.Transfers b.1.2 t talk out
  /-- It does so until it is closed. -/
  until_closed : ∀ {ρ : Type} [Kernel ρ] (w : World ρ), ∃ p : Peer,
    (b.1.2.close w).1 = (.ok (), p) ∧ p.descriptor = none ∧
      ∀ t : Transfer, t.length ≠ 0 → ∀ {ρ' : Type} [Kernel ρ'] (w' : World ρ'),
        Transferring.transfer p t w' = ((t.failed .socketClosed, p), w')

/-- **An owner and an accepted connection transfer alike.**  If a stream has a connection, an
accepted connection has counted as much, and the kernel answers both alike, then all transfers have
the same results and are counted alike, up to the one that costs the stream its connection.  After
that only the accepted connection goes on. -/
theorem run_alongside {history : History Stream} (h : Run history s) (hstate : s.state = .connected)
    {p : Peer} {fd' : Descriptor} (hopen : p.descriptor = some fd')
    (htraffic : p.traffic = s.traffic) :
    ∃ fd, s.descriptor = some fd ∧
      ∀ {σ τ : Type} [Kernel σ] [Kernel τ] (w : World σ) (w' : World τ),
        AnsweredAlike fd fd' w.kernel w'.kernel → ∀ ts : List Transfer,
          Alongside fd' (Channel.transferEach s ts w) (Channel.transferEach p ts w') := by
  obtain ⟨fd, hfd⟩ := Option.isSome_iff_exists.1 ((run_consistent h).of_connected hstate).1
  refine ⟨fd, hfd, fun {σ τ} _ _ w w' ⟨K, hK, hw⟩ ts => ?_⟩
  -- both keep their descriptors, so what holds of single transfers holds after all of these
  have hfd₁ := descriptor_transferEach hfd ts w
  have hopen₁ := Peer.descriptor_transferEach hopen ts w'
  have htogether := transferEach_together hK hfd hopen htraffic.symm ts hw
  constructor
  · exact fun hconnected => (htogether hconnected).2
  · intro hconnected t
    obtain ⟨hkernel, -, hcounted⟩ := htogether hconnected
    exact (transfer_parallels hK hconnected hfd₁ hopen₁ hcounted t hkernel).2
  · exact fun hparted t hlength _ _ w => transfer_of_parted hfd₁ hparted hlength w
  · exact hopen₁
  · exact fun t hlength _ _ => (Channel.transfer_talks _ t).mono fun talk out htransfers =>
      ⟨(Peer.clear hopen₁).talk_ne_nil hlength htransfers, htransfers⟩
  · intro ρ _ w
    refine ⟨{ (Channel.transferEach p ts w').1.2 with descriptor := none }, ?_, rfl, ?_⟩
    · rw [Peer.close, hopen₁]
      rfl
    · exact fun t hlength _ _ w => Peer.transfer_of_closed rfl hlength w

/-- A friendly kernel answers alike whatever the descriptor is. -/
theorem granting_answeredAlike (fd fd' : Descriptor) (k : Granting) : AnsweredAlike fd fd' k k := by
  refine ⟨Eq, ⟨?_, ?_, ?_, ?_⟩, rfl⟩
  · rintro k _ rfl
    rfl
  · rintro k _ data rfl
    exact ⟨rfl, rfl⟩
  · rintro k _ capacity rfl
    exact ⟨rfl, rfl⟩
  · rintro k _ left rfl
    exact ⟨rfl, rfl⟩

/-- Both send something and are told that the other end is done.  Then only one of them can send
more. -/
theorem run_alongside_ended :
    let w := World.granting false []
    let p := Peer.new ⟨4⟩ ⟨⟨127, 0, 0, 1⟩, 40000⟩
    let s' := (Channel.transferEach granted [.send [1, 2], .receive 4 none] w).1.2
    let p' := (Channel.transferEach p [.send [1, 2], .receive 4 none] w).1.2
    (∃ history, Run history granted) ∧ granted.state = .connected ∧ p.descriptor = some ⟨4⟩ ∧
      p.traffic = granted.traffic ∧ AnsweredAlike ⟨3⟩ ⟨4⟩ w.kernel w.kernel ∧
      s'.traffic = p'.traffic ∧ s'.state ≠ .connected ∧
      (Transferring.transfer s' (.send [1]) w).1.1 =
        .error (.notInitialized "socket is not connected") ∧
      p'.descriptor = some ⟨4⟩ ∧ (Transferring.transfer p' (.send [1]) w).1.1 = .ok 1 := by
  intro w p s' p'
  obtain ⟨history, hrun⟩ := run_granted
  have halike := granting_answeredAlike ⟨3⟩ ⟨4⟩ w.kernel
  have hopen : p.descriptor = some ⟨4⟩ := rfl
  have htraffic : p.traffic = granted.traffic := rfl
  obtain ⟨fd, hfd, halongside⟩ := run_alongside hrun rfl hopen htraffic
  obtain rfl : ⟨3⟩ = fd := Option.some.inj hfd
  have hconnected : (Channel.transferEach granted [.send [1, 2]] w).1.2.state = .connected := by
    cbv
  have hended : (Channel.transferEach granted [.send [1, 2], .receive 4 none] w).1.2.state =
      .disconnected := by
    cbv
  have hparted : s'.state ≠ .connected := fun hstate => by cases hended.symm.trans hstate
  have hsent : (Transferring.transfer (Channel.transferEach (Peer.new ⟨4⟩ ⟨⟨127, 0, 0, 1⟩, 40000⟩)
      [.send [1, 2], .receive 4 none] w).1.2 (.send [1]) w).1.1 = .ok 1 := by
    cbv
  have hcounted := ((halongside w w halike [.send [1, 2]]).next hconnected (.receive 4 none)).2
  have hends := halongside w w halike [.send [1, 2], .receive 4 none]
  have hrefused := hends.parted hparted (.send [1]) (by decide) w
  refine ⟨⟨history, hrun⟩, rfl, hopen, htraffic, halike, hcounted, hparted, ?_, hends.keeps, hsent⟩
  exact congrArg (fun out => out.1.1) hrefused

end Stream

end ProfiledSocket
