/-
Signals that interrupt transfers.

A transfer whose call a signal interrupts makes the same call again.  However often that happens,
the caller does not notice: what comes of the transfer, for the caller and for the socket, is up to
the first answer that is no interruption, as if it had come at once.

* **`askUninterrupted_of_talked`** — a call that is repeated comes to its last answer;
* `SendMeans`, `ReceiveMeans` — what the answers to a send and to a receive mean;
* `Act.Persists` — a computation that waits, then repeats one call and makes no other;
* **`Channel.send_persists`**, **`Channel.receive_persists`** — transfers are like that;
* **`signals_unnoticed`** — all transfers of all kinds of sockets, with any number of signals;
* `Signalled` — a kernel with that number of signals.

Design notes: interruptions are answers of the kernel, any number of them, and the transfers are
made on a kernel that keeps a record, which shows the calls one by one.  What an answer means is
listed apart from how a transfer comes to it; of the socket, the list only knows what it is after a
failure and after the other end is done.
-/
import Mathlib
import ProfiledSocket.Proofs.Dialogue

namespace ProfiledSocket

variable {σ : Type} [Kernel σ]

/-! ### Calls that are repeated -/

theorem Talked.of_nil {k k' : σ} (h : Talked k [] k') : k' = k := by
  cases h
  rfl

/-- The first exchange of a talk is what the kernel answers, and the others follow on it. -/
theorem Talked.of_cons {k k'' : σ} {call : Call} {reply : Reply call} {talk : Talk}
    (h : Talked k (⟨call, reply⟩ :: talk) k'') :
    ∃ k', Kernel.answer k call = (reply, k') ∧ Talked k' talk k'' := by
  generalize hall : (⟨call, reply⟩ :: talk : Talk) = all at h
  cases h with
  | silent _ => cases hall
  | call call' hrest =>
    obtain ⟨hfirst, rfl⟩ := List.cons.inj hall
    cases hfirst
    exact ⟨_, rfl, hrest⟩

/-- A kernel that keeps a record gives the answers of the kernel that it records. -/
theorem Talked.recorded {k k' : σ} {talk : Talk} (h : Talked k talk k') (before : Talk) :
    Talked (⟨k, before⟩ : Recorded σ) talk ⟨k', before ++ talk⟩ := by
  induction h generalizing before with
  | silent k =>
    rw [List.append_nil]
    exact .silent _
  | @call k k' call talk h ih =>
    have hrest := ih (before ++ [⟨call, (Kernel.answer k call).1⟩])
    rw [List.append_assoc] at hrest
    exact .of_answer rfl hrest

theorem askFrom_of_interrupted {call : Call} {w : World σ} {kernel : σ}
    (h : Kernel.answer w.kernel call = (.error .interrupted, kernel)) :
    askFrom call w = askFrom call { w with kernel } := by
  rw [askFrom]
  split
  all_goals
    rename_i hk
    obtain ⟨hreply, rfl⟩ := Prod.mk.inj (h.symm.trans hk)
  · cases hreply
  · cases hreply
    exact dif_pos rfl

theorem askFrom_of_answer {call : Call} {w : World σ} {reply : Reply call} {kernel : σ}
    (hreply : reply ≠ .error .interrupted) (h : Kernel.answer w.kernel call = (reply, kernel)) :
    askFrom call w = (reply, { w with kernel }) := by
  rw [askFrom]
  split
  all_goals
    rename_i hk
    obtain ⟨rfl, rfl⟩ := Prod.mk.inj (h.symm.trans hk)
  · rfl
  · exact dif_neg fun he => hreply (congrArg Except.error he)

/-- **A call that is repeated comes to its last answer**, however often it was interrupted. -/
theorem askUninterrupted_of_talked {call : Call} {w : World σ} {n : Nat} {reply : Reply call}
    {kernel : σ} (hreply : reply ≠ .error .interrupted)
    (h : Talked w.kernel (repeated call n reply) kernel) :
    askUninterrupted call w = (reply, { w with kernel }) := by
  rw [askUninterrupted]
  -- by induction on the interruptions: each is followed by the same call in the next state
  induction n generalizing w with
  | zero =>
    obtain ⟨k, hanswer, hrest⟩ := Talked.of_cons h
    rw [askFrom_of_answer hreply hanswer, hrest.of_nil]
  | succ n ih =>
    obtain ⟨k, hanswer, hrest⟩ := Talked.of_cons h
    rw [askFrom_of_interrupted hanswer]
    exact ih hrest

/-! ### What answers mean -/

section Meaning

variable {C : Type} [Channel C]

/-- What an answer to a send means for the caller and for the channel `c`, which is `lost` after a
failure. -/
inductive SendMeans (c lost : C) : Except Errno Nat → Except SocketError Nat × C → Prop
  /-- The kernel took `n` bytes, which are counted as one packet. -/
  | taken (n : Nat) : SendMeans c lost (.ok n)
      (.ok n, Channel.withTraffic c ((Channel.traffic c).recordSent n))
  | full : SendMeans c lost (.error .again) (.error .wouldBlock, c)
  | failed {e : Errno} (h : e ≠ .again) :
      SendMeans c lost (.error e) (.error (.send (.os e)), lost)

/-- What an answer to a receive means for the caller, who sees what `view` shows of the data, and
for the channel `c`, which is `lost` after a failure. If receiving nothing means that the other end
is done, the channel is what `ended?` says then. -/
inductive ReceiveMeans {α : Type} {capacity : Nat} (view : Received capacity → Except IoError α)
    (c lost : C) (ended? : Option C) :
    Except Errno (Received capacity) → Except SocketError α × C → Prop
  /-- The data is counted as one packet, even if it is empty. -/
  | arrived {data : Received capacity} {value : α} (hview : view data = .ok value)
      (h : data.bytes = [] → ended? = none) :
      ReceiveMeans view c lost ended? (.ok data) (.ok value,
        Channel.withTraffic c ((Channel.traffic c).recordReceived data.bytes.length))
  | done {data : Received capacity} {value : α} (hview : view data = .ok value)
      (h : data.bytes = []) {ended : C} (hend : ended? = some ended) :
      ReceiveMeans view c lost ended? (.ok data) (.error .closed, ended)
  /-- There is data that the caller cannot use. -/
  | unusable {data : Received capacity} {e : IoError} (hview : view data = .error e) :
      ReceiveMeans view c lost ended? (.ok data) (.error (.recv e), lost)
  | nothing : ReceiveMeans view c lost ended? (.error .again) (.error .timeout, c)
  | failed {e : Errno} (h : e ≠ .again) :
      ReceiveMeans view c lost ended? (.error e) (.error (.recv (.os e)), lost)

namespace Channel

theorem afterSend_means (c : C) (reply : Except Errno Nat) :
    SendMeans c (afterFailure c) reply (afterSend c reply) := by
  cases reply with
  | ok n => exact .taken n
  | error e =>
    by_cases hagain : e = .again
    · subst hagain
      exact .full
    · rw [afterSend, if_neg (mt e.kind_eq_wouldBlock_iff.1 hagain)]
      exact .failed hagain

/-- What the channel is after the other end is done, if it can tell that. -/
def ended? (c : C) : Option C := if endsWithNothing C then some (afterEnd c) else none

theorem afterReceive_means {α : Type} {capacity : Nat} {view : Received capacity → Except IoError α}
    (hview : ∀ data e, view data = .error e → e.kind ≠ .wouldBlock) (c : C)
    (reply : Except Errno (Received capacity)) :
    ReceiveMeans view c (afterFailure c) (ended? c) reply (afterReceive c (viewed view reply)) := by
  cases reply with
  | error e =>
    by_cases hagain : e = .again
    · subst hagain
      exact .nothing
    · have hkind : (IoError.os e).kind ≠ .wouldBlock := mt e.kind_eq_wouldBlock_iff.1 hagain
      rw [viewed, afterReceive, if_neg hkind]
      exact .failed hagain
  | ok data =>
    cases hdata : view data with
    | error e =>
      simp only [viewed, hdata, Except.map, afterReceive, if_neg (hview data e hdata)]
      exact .unusable hdata
    | ok value =>
      simp only [viewed, hdata, Except.map, afterReceive, List.length_eq_zero_iff]
      split
      · rename_i hnone
        exact .done hdata hnone.1 (if_pos hnone.2)
      · rename_i hsome
        refine .arrived hdata fun hempty => if_neg fun hend => hsome ⟨hempty, hend⟩

end Channel

end Meaning

/-! ### Transfers -/

/-- After the wait, `x` makes one call, once more than signals interrupt it, and no other call, and
comes to what `means` says of the first answer that is no interruption. -/
def Act.Persists {β : Type} (x : Act (Recorded σ) β)
    (wait : Act (Recorded σ) (Except SocketError Unit)) (call : Call)
    (means : Reply call → β → Prop) : Prop :=
  ∀ ⦃w w' : World (Recorded σ)⦄, wait w = (.ok (), w') →
    ∀ (n : Nat) (reply : Reply call) (kernel : σ), reply ≠ .error .interrupted →
      Talked w'.kernel.kernel (repeated call n reply) kernel →
        (x w).2.kernel = ⟨kernel, w'.kernel.talk ++ repeated call n reply⟩ ∧ means reply (x w).1

namespace Channel

variable {C : Type} [Channel C] {c : C} {fd : Descriptor}

/-- The descriptor of a channel with nothing in the way of a transfer. -/
theorem readyDescriptor_of_descriptor (hfd : descriptor c = some fd) {direction : Direction}
    (hnone : obstacle? c direction = none) {length : Nat} (hlength : length ≠ 0) :
    readyDescriptor c direction length = .ok fd := by
  simp [readyDescriptor, openDescriptor, held, hfd, hnone, hlength]

/-- A report is not part of the talk. -/
theorem noteSend_kernel (c : C) (fd : Descriptor) (length : Nat) (reply : Except Errno Nat)
    (w : World σ) : (noteSend c fd length reply w).2.kernel = w.kernel := by
  obtain ⟨talk, ht, rfl⟩ := (noteSend_makes c fd length reply).silent w
  exact ht.of_nil

theorem noteReceive_kernel {α : Type} (c : C) (fd : Descriptor)
    (result : Except IoError (Nat × α)) (w : World σ) :
    (noteReceive c fd result w).2.kernel = w.kernel := by
  obtain ⟨talk, ht, rfl⟩ := (noteReceive_makes c fd result).silent w
  exact ht.of_nil

/-- **A send repeats one call.** -/
theorem send_persists {data : List UInt8} {destination : Option Endpoint}
    (hcheck : checkSend c data destination = .ok fd) :
    (send c data destination : Act (Recorded σ) _).Persists (pure (.ok ()))
      (.send fd data destination true) (SendMeans c (afterFailure c)) := by
  rintro w _ ⟨⟩ n reply kernel hreply htalk
  have hasked := askUninterrupted_of_talked hreply (htalk.recorded w.kernel.talk)
  simp only [send, hcheck, Act.bind_apply, Act.pure_apply, hasked, noteSend_kernel]
  exact ⟨trivial, afterSend_means c reply⟩

/-- **A receive waits and repeats one call.** -/
theorem receive_persists {α : Type} {capacity : Nat} {view : Received capacity → Except IoError α}
    (hview : ∀ data e, view data = .error e → e.kind ≠ .wouldBlock)
    (hcheck : readyDescriptor c .receiving capacity = .ok fd) (timeout : Timeout) :
    (receive c capacity timeout view : Act (Recorded σ) _).Persists (awaitReadable fd timeout)
      (.receive fd capacity) (ReceiveMeans view c (afterFailure c) (ended? c)) := by
  intro w w' hwait n reply kernel hreply htalk
  have hasked := askUninterrupted_of_talked hreply (htalk.recorded w'.kernel.talk)
  simp only [receive, hcheck, Act.bind_apply, Act.pure_apply, hwait, hasked, noteReceive_kernel]
  exact ⟨trivial, afterReceive_means hview c reply⟩

theorem bytesOnly_usable {capacity : Nat} (data : Received capacity) (e : IoError)
    (h : bytesOnly data = .error e) : e.kind ≠ .wouldBlock := by
  cases h

end Channel

namespace Datagram

theorem bytesAndSource_usable {capacity : Nat} (data : Received capacity) (e : IoError)
    (h : bytesAndSource data = .error e) : e.kind ≠ .wouldBlock := by
  rw [bytesAndSource] at h
  split at h
  · cases h
  · cases h
    decide

/-- What is delivered when data and its source have been received: the same, with a time. -/
inductive Delivers :
    Except SocketError (List UInt8 × Endpoint) × Datagram →
      Except SocketError Delivery × Datagram → Prop
  | undelivered (e : SocketError) (d : Datagram) : Delivers (.error e, d) (.error e, d)
  | delivered (data : List UInt8) (source : Endpoint) (d : Datagram) (timestamp : UInt64) :
      Delivers (.ok (data, source), d) (.ok ⟨data, source, timestamp⟩, d.clockRead)

/-- What a delivery is made of. -/
theorem receiveFrom_delivers (d : Datagram) (capacity : Nat) (timeout : Timeout) (w : World σ) :
    (d.receiveFrom capacity timeout w).2.kernel =
        (Channel.receive d capacity timeout bytesAndSource w).2.kernel ∧
      Delivers (Channel.receive d capacity timeout bytesAndSource w).1
        (d.receiveFrom capacity timeout w).1 := by
  simp only [receiveFrom, Act.bind_apply]
  generalize Channel.receive d capacity timeout bytesAndSource w = outcome
  obtain ⟨⟨e | ⟨data, source⟩, d'⟩, w'⟩ := outcome
  · exact ⟨rfl, .undelivered e d'⟩
  · simp only [Act.bind_apply, Act.pure_apply, readClock_socket, readClock_world]
    exact ⟨trivial, .delivered data source d' _⟩

variable {fd : Descriptor}

/-- A send to an endpoint repeats one call, too. -/
theorem sendTo_persists {d : Datagram} (hfd : d.descriptor = some fd) {data : List UInt8}
    (hdata : data ≠ []) {ip : String} {port : UInt16} {destination : Endpoint}
    (hread : Endpoint.read ip port = .ok destination) :
    (d.sendTo data ip port : Act (Recorded σ) _).Persists (pure (.ok ()))
      (.send fd data (some destination) true) (SendMeans d d) := by
  have hdestination : checkDestination data ip port = .ok destination := by
    simp [checkDestination, hdata, hread]
  have hcheck : Channel.checkSend d data (some destination) = .ok fd := by
    simp [Channel.checkSend, Channel.openDescriptor, Channel.held, Channel.descriptor, hfd, hdata]
  rw [sendTo, hdestination]
  exact Channel.send_persists hcheck

/-- The clock is read when the data is there, and without a call. -/
theorem receiveFrom_persists {d : Datagram} (hfd : d.descriptor = some fd) {capacity : Nat}
    (hcapacity : capacity ≠ 0) (timeout : Timeout) :
    (d.receiveFrom capacity timeout : Act (Recorded σ) _).Persists
      (Channel.awaitReadable fd timeout) (.receive fd capacity)
      fun reply out => ∃ received, ReceiveMeans bytesAndSource d d none reply received ∧
        Delivers received out := by
  intro w w' hwait n reply kernel hreply htalk
  have hready : Channel.readyDescriptor d .receiving capacity = .ok fd :=
    Channel.readyDescriptor_of_descriptor hfd rfl hcapacity
  obtain ⟨hkernel, hmeans⟩ := Channel.receive_persists bytesAndSource_usable hready timeout hwait n
    reply kernel hreply htalk
  obtain ⟨hsame, hdelivers⟩ := d.receiveFrom_delivers capacity timeout w
  exact ⟨hsame.trans hkernel, _, hmeans, hdelivers⟩

end Datagram

/-! ### All sockets -/

/-- **Signals go unnoticed.**  A transfer that its socket allows, and that has waited if it was to,
makes its call until a signal does not interrupt it, always with the same arguments, and sends go
without a signal of their own.  What comes of it is what the last answer means, however many signals
there were: a stream is disconnected by a failure or by the end of the data, and other sockets stay
as they are; only for datagram sockets nothing at all may arrive. -/
theorem signals_unnoticed :
    (∀ (s : Stream) (fd : Descriptor), s.descriptor = some fd → s.state = .connected →
      let lost := { s with state := .disconnected }
      (∀ data ≠ [], (s.send data : Act (Recorded σ) _).Persists (pure (.ok ()))
        (.send fd data none true) (SendMeans s lost)) ∧
      ∀ capacity ≠ 0, ∀ timeout, (s.receive capacity timeout : Act (Recorded σ) _).Persists
        (Channel.awaitReadable fd timeout) (.receive fd capacity)
        (ReceiveMeans Channel.bytesOnly s lost (some lost))) ∧
    (∀ (p : Peer) (fd : Descriptor), p.descriptor = some fd →
      (∀ data ≠ [], (p.send data : Act (Recorded σ) _).Persists (pure (.ok ()))
        (.send fd data none true) (SendMeans p p)) ∧
      ∀ capacity ≠ 0, ∀ timeout, (p.receive capacity timeout : Act (Recorded σ) _).Persists
        (Channel.awaitReadable fd timeout) (.receive fd capacity)
        (ReceiveMeans Channel.bytesOnly p p (some p))) ∧
    ∀ (d : Datagram) (fd : Descriptor), d.descriptor = some fd →
      (d.defaultPeer.isSome → ∀ data ≠ [], (d.send data : Act (Recorded σ) _).Persists
        (pure (.ok ())) (.send fd data none true) (SendMeans d d)) ∧
      (∀ data ≠ [], ∀ ip port destination, Endpoint.read ip port = .ok destination →
        (d.sendTo data ip port : Act (Recorded σ) _).Persists (pure (.ok ()))
          (.send fd data (some destination) true) (SendMeans d d)) ∧
      ∀ capacity ≠ 0, ∀ timeout,
        (d.receive capacity timeout : Act (Recorded σ) _).Persists
          (Channel.awaitReadable fd timeout) (.receive fd capacity)
          (ReceiveMeans Channel.bytesOnly d d none) ∧
        (d.receiveFrom capacity timeout : Act (Recorded σ) _).Persists
          (Channel.awaitReadable fd timeout) (.receive fd capacity)
          fun reply out => ∃ received,
            ReceiveMeans Datagram.bytesAndSource d d none reply received ∧
              Datagram.Delivers received out := by
  refine ⟨fun s fd hfd hstate => ?_, fun p fd hfd => ?_, fun d fd hfd => ?_⟩
  · have hready (direction : Direction) {length : Nat} (hlength : length ≠ 0) :
        Channel.readyDescriptor s direction length = .ok fd :=
      Channel.readyDescriptor_of_descriptor hfd (if_pos hstate) hlength
    exact ⟨fun data hdata => Channel.send_persists (hready .sending (by simpa using hdata)),
      fun capacity hcapacity timeout =>
        Channel.receive_persists Channel.bytesOnly_usable (hready .receiving hcapacity) timeout⟩
  · have hready (direction : Direction) {length : Nat} (hlength : length ≠ 0) :
        Channel.readyDescriptor p direction length = .ok fd :=
      Channel.readyDescriptor_of_descriptor hfd rfl hlength
    exact ⟨fun data hdata => Channel.send_persists (hready .sending (by simpa using hdata)),
      fun capacity hcapacity timeout =>
        Channel.receive_persists Channel.bytesOnly_usable (hready .receiving hcapacity) timeout⟩
  · refine ⟨fun hpeer data hdata => ?_, fun data hdata ip port destination hread => ?_,
      fun capacity hcapacity timeout => ⟨?_, ?_⟩⟩
    · exact Channel.send_persists (Channel.readyDescriptor_of_descriptor hfd (if_pos hpeer)
        (by simpa using hdata))
    · exact d.sendTo_persists hfd hdata hread
    · exact Channel.receive_persists Channel.bytesOnly_usable
        (Channel.readyDescriptor_of_descriptor hfd rfl hcapacity) timeout
    · exact d.receiveFrom_persists hfd hcapacity timeout

/-! ### A kernel with signals -/

/-- A kernel in which signals interrupt the next transfers, so many in a row. -/
structure Signalled (σ : Type) where
  signals : Nat
  kernel : σ

/-- Whether a call transfers data. -/
def Call.isTransfer : Call → Bool
  | .send .. | .receive .. => true
  | _ => false

instance : Kernel (Signalled σ) where
  answer k call :=
    match k.signals, call.isTransfer with
    | n + 1, true => (.error .interrupted, { k with signals := n })
    | _, _ =>
      ((Kernel.answer k.kernel call).1, { k with kernel := (Kernel.answer k.kernel call).2 })
  now k := Kernel.now k.kernel
  realtime k := Kernel.realtime k.kernel
  patience k := k.signals + Kernel.patience k.kernel
  patience_lt k call h := by
    split at h
    · simp [*]
    · have := Kernel.patience_lt k.kernel call h
      simp [*]

/-- The signals come first, and then the answer of the kernel that they are in. -/
theorem talked_signalled {call : Call} (hcall : call.isTransfer = true) (n : Nat) (k : σ) :
    Talked (⟨n, k⟩ : Signalled σ) (repeated call n (Kernel.answer k call).1)
      ⟨0, (Kernel.answer k call).2⟩ := by
  induction n with
  | zero => exact .call call (.silent _)
  | succ n ih => exact .of_answer (by simp [Kernel.answer, hcall]) ih

/-- A wait that ends at once, in a world in which two signals are to come. -/
theorem awaitReadable_signalled :
    Channel.awaitReadable ⟨3⟩ none (⟨⟨2, ⟨false, []⟩⟩, []⟩ : World (Signalled Granting)).recorded =
      (.ok (), ⟨⟨⟨2, ⟨false, []⟩⟩, [⟨.poll ⟨3⟩ (some .read) (-1),
        .ok (some ⟨true, true, false, false, false⟩)⟩]⟩, []⟩) := by cbv

/-- After two signals there is nothing to receive: a stream is disconnected, and a datagram socket
has received an empty datagram.  Both have polled once and asked for the data three times. -/
theorem signals_unnoticed_twice :
    let s := { Stream.ofDescriptor ⟨3⟩ .conservative with state := .connected }
    let d := Datagram.ofDescriptor ⟨3⟩ .conservative .system
    let w := (⟨⟨2, ⟨false, []⟩⟩, []⟩ : World (Signalled Granting)).recorded
    let nothing : Received 8 := ⟨[], some ⟨⟨127, 0, 0, 1⟩, 40000⟩, Nat.zero_le 8⟩
    let talk := [⟨.poll ⟨3⟩ (some .read) (-1), .ok (some ⟨true, true, false, false, false⟩)⟩] ++
      repeated (.receive ⟨3⟩ 8) 2 (.ok nothing)
    (s.receive 8 none w).2.kernel.talk = talk ∧
      (s.receive 8 none w).1 = (.error .closed, { s with state := .disconnected }) ∧
      (d.receive 8 none w).2.kernel.talk = talk ∧
      (d.receive 8 none w).1 = (.ok [], { d with traffic := ⟨1, 0, 0, 0⟩ }) := by
  intro s d w nothing talk
  have hreply : (.ok nothing : Reply (.receive ⟨3⟩ 8)) ≠ .error .interrupted := by simp
  have htalk : Talked (⟨2, ⟨false, []⟩⟩ : Signalled Granting)
      (repeated (.receive ⟨3⟩ 8) 2 (.ok nothing)) ⟨0, ⟨false, []⟩⟩ :=
    talked_signalled rfl 2 (⟨false, []⟩ : Granting)
  obtain ⟨hstreams, -, hdatagrams⟩ := signals_unnoticed (σ := Signalled Granting)
  obtain ⟨hkernel, hmeans⟩ := (hstreams s ⟨3⟩ rfl rfl).2 8 (by decide) none
    awaitReadable_signalled 2 _ _ hreply htalk
  obtain ⟨hkernel', hmeans'⟩ := ((hdatagrams d ⟨3⟩ rfl).2.2 8 (by decide) none).1
    awaitReadable_signalled 2 _ _ hreply htalk
  refine ⟨congrArg Recorded.talk hkernel, ?_, congrArg Recorded.talk hkernel', ?_⟩
  · generalize (s.receive 8 none w).1 = out at hmeans ⊢
    cases hmeans with
    | arrived _ h => cases h rfl
    | done _ _ hend =>
      cases hend
      rfl
    | unusable hview => cases hview
  · generalize (d.receive 8 none w).1 = out at hmeans' ⊢
    cases hmeans' with
    | arrived hview _ =>
      cases hview
      rfl
    | done _ _ hend => cases hend
    | unusable hview => cases hview

end ProfiledSocket
