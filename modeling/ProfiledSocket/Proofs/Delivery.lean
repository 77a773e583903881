/-
What arrives at the other end of a connection.

A connection carries bytes in order and loses none, as long as both ends hand over what they are
told was handed over.  Sends may be cut short, receives may get a part of what was sent, and both
may be interrupted, run out of time and fail, on either end and at any moment.  What the callers
were told still adds up.

* `Transfer`, `Transferring` — the operations of a socket that transfer data;
* `Report`, `Conversation` — the transfers of one end, and what was said to its caller;
* `Pipe` — the bytes on their way in one direction of a connection;
* **`Conversation.told`** — the callers are told what the kernel was told;
* **`Pipe.conserves`** — what was sent is what was received, and what is still on its way;
* **`bytes_delivered`** — so streams and accepted connections deliver, and count, what is sent.

Design notes: the ends take turns whenever the kernel is talked to, not just between transfers, so
a connection changes with the exchanges of both ends, in any order.  Each end may send and receive;
a pipe is about what one of them sends and the other receives.
-/
import ProfiledSocket.Proofs.Accounting
import ProfiledSocket.Proofs.Dialogue

namespace ProfiledSocket

variable {σ : Type} [Kernel σ]

/-! ### What a talk moves -/

namespace Exchange

/-- The bytes that the kernel has taken. -/
def sentBytes : Exchange → List UInt8
  | ⟨.send _ data _ _, .ok n⟩ => data.take n
  | _ => []

/-- How many bytes the kernel says that it has taken. -/
def sentCount : Exchange → Nat
  | ⟨.send _ _ _ _, .ok n⟩ => n
  | _ => 0

/-- The bytes that the kernel has handed over. -/
def receivedBytes : Exchange → List UInt8
  | ⟨.receive _ _, .ok received⟩ => received.bytes
  | _ => []

/-- Whether the kernel says that there will never be anything to hand over. -/
def sawEnd : Exchange → Bool
  | ⟨.receive _ _, .ok received⟩ => received.bytes.isEmpty
  | _ => false

/-- An exchange that moves nothing. -/
structure Still (e : Exchange) : Prop where
  sentBytes_eq : e.sentBytes = []
  sentCount_eq : e.sentCount = 0
  receivedBytes_eq : e.receivedBytes = []

/-- A call that fails moves nothing. -/
theorem still_of_error (call : Call) (e : Errno) : Still ⟨call, .error e⟩ := by
  cases call <;> exact ⟨rfl, rfl, rfl⟩

theorem still_of_poll {e : Exchange} {fd : Descriptor} {interest : Option Interest}
    {millis : Int32} (h : e.call = .poll fd interest millis) : Still e := by
  obtain ⟨call, reply⟩ := e
  obtain rfl : call = _ := h
  exact ⟨rfl, rfl, rfl⟩

end Exchange

namespace Talk

/-- The bytes that the kernel has taken in a talk. -/
def sentBytes (talk : Talk) : List UInt8 := talk.flatMap Exchange.sentBytes

/-- How many bytes the kernel says that it has taken in a talk. -/
def sentCount (talk : Talk) : Nat := (talk.map Exchange.sentCount).sum

/-- The bytes that the kernel has handed over in a talk. -/
def receivedBytes (talk : Talk) : List UInt8 := talk.flatMap Exchange.receivedBytes

section Append

variable (talk more : Talk)

@[simp] theorem sentBytes_append :
    sentBytes (talk ++ more) = sentBytes talk ++ sentBytes more := by simp [sentBytes]

@[simp] theorem sentCount_append :
    sentCount (talk ++ more) = sentCount talk + sentCount more := by simp [sentCount]

@[simp] theorem receivedBytes_append :
    receivedBytes (talk ++ more) = receivedBytes talk ++ receivedBytes more := by
  simp [receivedBytes]

end Append

/-- Exchanges that move nothing make a talk that moves nothing. -/
theorem of_still {talk : Talk} (h : ∀ e ∈ talk, e.Still) :
    sentBytes talk = [] ∧ sentCount talk = 0 ∧ receivedBytes talk = [] := by
  induction talk with
  | nil => exact ⟨rfl, rfl, rfl⟩
  | cons e talk ih =>
    rw [List.forall_mem_cons] at h
    obtain ⟨hsent, hcount, hreceived⟩ := ih h.2
    refine ⟨?_, ?_, ?_⟩
    · rw [sentBytes, List.flatMap_cons, h.1.sentBytes_eq, List.nil_append]
      exact hsent
    · rw [sentCount, List.map_cons, List.sum_cons, h.1.sentCount_eq, Nat.zero_add]
      exact hcount
    · rw [receivedBytes, List.flatMap_cons, h.1.receivedBytes_eq, List.nil_append]
      exact hreceived

end Talk

/-! ### What the callers are told -/

/-- A transfer that a caller asks for. -/
inductive Transfer
  | send (data : List UInt8)
  | receive (capacity : Nat) (timeout : Timeout)

/-- What a transfer returns. -/
@[reducible] def Transfer.Result : Transfer → Type
  | send _ => Except SocketError Nat
  | receive .. => Except SocketError (List UInt8)

/-- Carries out a transfer over a channel. -/
def Channel.transfer {C : Type} [Channel C] (c : C) : (t : Transfer) → Act σ (t.Result × C)
  | .send data => Channel.send c data none
  | .receive capacity timeout => Channel.receive c capacity timeout Channel.bytesOnly

/-- A kind of socket with operations that transfer data, and that leave this to its channel. -/
class Transferring (C : Type) [Channel C] where
  /-- Carries out a transfer by the operation for it. -/
  transfer {σ : Type} [Kernel σ] (c : C) : (t : Transfer) → Act σ (t.Result × C)
  transfer_eq {σ : Type} [Kernel σ] (c : C) (t : Transfer) :
    (transfer c t : Act σ _) = Channel.transfer c t

instance : Transferring Stream where
  transfer s
    | .send data => s.perform (.send data)
    | .receive capacity timeout => s.perform (.receive capacity timeout)
  transfer_eq s t := by cases t <;> rfl

instance : Transferring Peer where
  transfer p
    | .send data => p.perform (.send data)
    | .receive capacity timeout => p.perform (.receive capacity timeout)
  transfer_eq p t := by cases t <;> rfl

/-- A transfer and what the caller was told. -/
structure Report where
  transfer : Transfer
  result : transfer.Result

namespace Report

/-- The bytes that the caller was told were sent. -/
def sentBytes : Report → List UInt8
  | ⟨.send data, .ok n⟩ => data.take n
  | _ => []

/-- The bytes that the caller got. -/
def receivedBytes : Report → List UInt8
  | ⟨.receive .., .ok bytes⟩ => bytes
  | _ => []

/-- Whether the caller was told that the other end is done. -/
def isClosed : Report → Bool
  | ⟨.receive .., .error .closed⟩ => true
  | _ => false

theorem isClosed_error {capacity : Nat} {timeout : Timeout} {e : SocketError} (h : e ≠ .closed) :
    isClosed ⟨.receive capacity timeout, .error e⟩ = false := by
  cases e <;> first | rfl | exact absurd rfl h

end Report

/-- The reports about what was done to a socket, in order, and the talk that it took. -/
inductive Conversation {C : Type} [Channel C] [Transferring C] (c : C) :
    List Report → Talk → C → Prop
  | start : Conversation c [] [] c
  | transfer {σ : Type} [Kernel σ] {reports : List Report} {talk : Talk} {c' : C}
      (h : Conversation c reports talk c') (t : Transfer) (w : World σ) :
      Conversation c (reports ++ [⟨t, (Transferring.transfer c' t w.recorded).1.1⟩])
        (talk ++ (Transferring.transfer c' t w.recorded).2.kernel.talk)
        (Transferring.transfer c' t w.recorded).1.2

/-- The callers were told what the kernel has said, and so was the counter. -/
structure Told {C : Type} [Channel C] (c : C) (reports : List Report) (talk : Talk) (c' : C) :
    Prop where
  sent : talk.sentBytes = reports.flatMap Report.sentBytes
  received : talk.receivedBytes = reports.flatMap Report.receivedBytes
  txBytes : (Channel.traffic c').txBytes = (Channel.traffic c).txBytes + .ofNat talk.sentCount
  rxBytes : (Channel.traffic c').rxBytes =
    (Channel.traffic c).rxBytes + .ofNat talk.receivedBytes.length
  closed : (∃ r ∈ reports, r.isClosed = true) → ∃ e ∈ talk, e.sawEnd = true

section Told

variable {C : Type} [Channel C] {c c' c'' : C} {reports more : List Report} {talk talk' : Talk}

theorem Told.refl (c : C) : Told c [] [] c where
  sent := rfl
  received := rfl
  txBytes := by simp [Talk.sentCount]
  rxBytes := by simp [Talk.receivedBytes]
  closed := by simp

theorem Told.append (h : Told c reports talk c') (h' : Told c' more talk' c'') :
    Told c (reports ++ more) (talk ++ talk') c'' where
  sent := by rw [Talk.sentBytes_append, h.sent, h'.sent, List.flatMap_append]
  received := by rw [Talk.receivedBytes_append, h.received, h'.received, List.flatMap_append]
  txBytes := by
    rw [h'.txBytes, h.txBytes, Talk.sentCount_append, UInt64.ofNat_add, UInt64.add_assoc]
  rxBytes := by
    rw [h'.rxBytes, h.rxBytes, Talk.receivedBytes_append, List.length_append, UInt64.ofNat_add,
      UInt64.add_assoc]
  closed := by
    rintro ⟨r, hr, hclosed⟩
    rcases List.mem_append.1 hr with hr | hr
    · obtain ⟨e, he, hend⟩ := h.closed ⟨r, hr, hclosed⟩
      exact ⟨e, List.mem_append_left _ he, hend⟩
    · obtain ⟨e, he, hend⟩ := h'.closed ⟨r, hr, hclosed⟩
      exact ⟨e, List.mem_append_right _ he, hend⟩

/-- Exchanges that move nothing make no difference. -/
theorem Told.prepend (h : Told c reports talk c') {before : Talk} (hb : ∀ e ∈ before, e.Still) :
    Told c reports (before ++ talk) c' := by
  have hbefore : Told c [] before c := by
    obtain ⟨hsent, hcount, hreceived⟩ := Talk.of_still hb
    exact ⟨hsent, hreceived, by simp [hcount], by simp [hreceived], by simp⟩
  simpa using hbefore.append h

/-- Nor do interruptions. -/
theorem Told.repeated {call : Call} {reply : Reply call} (h : Told c reports [⟨call, reply⟩] c')
    (n : Nat) : Told c reports (repeated call n reply) c' := by
  refine h.prepend fun e he => ?_
  rw [List.eq_of_mem_replicate he]
  exact Exchange.still_of_error _ _

/-- Nothing was moved, and nothing was said to have been. -/
theorem Told.of_nothing {r : Report} (hsent : r.sentBytes = []) (hreceived : r.receivedBytes = [])
    (hclosed : r.isClosed = false) (htraffic : Channel.traffic c' = Channel.traffic c)
    (htalk : ∀ e ∈ talk, e.Still) : Told c [r] talk c' := by
  have hsame : Told c [r] [] c' :=
    ⟨by simp [Talk.sentBytes, hsent], by simp [Talk.receivedBytes, hreceived],
      by simp [Talk.sentCount, htraffic], by simp [Talk.receivedBytes, htraffic],
      by simp [hclosed]⟩
  simpa using hsame.prepend htalk

end Told

section Transfers

variable {C : Type} [Channel C] [LawfulChannel C]

/-- A send tells what the last answer of the kernel was. -/
theorem Channel.send_told (c : C) (data : List UInt8) :
    (Channel.send c data none : Act σ _).Ensures fun talk out =>
      Told c [⟨.send data, out.1⟩] talk out.2 := by
  refine .mono (Channel.send_talks c data none) fun talk out hsends => ?_
  cases hsends with
  | refused _ => exact .of_nothing rfl rfl rfl rfl (by simp)
  | @answered fd _ n reply _ =>
    refine Told.repeated ?_ n
    cases reply with
    | ok taken =>
      refine ⟨by simp [Talk.sentBytes, Exchange.sentBytes, Report.sentBytes, Channel.afterSend],
        rfl, ?_, ?_, by simp [Report.isClosed]⟩
      · simp [Channel.afterSend, LawfulChannel.traffic_withTraffic, Traffic.recordSent,
          Talk.sentCount, Exchange.sentCount]
      · simp [Channel.afterSend, LawfulChannel.traffic_withTraffic, Traffic.recordSent,
          Talk.receivedBytes, Exchange.receivedBytes]
    | error e =>
      have hstill : ∀ e' ∈ [(⟨.send fd data none true, .error e⟩ : Exchange)], e'.Still := by
        simpa using Exchange.still_of_error (.send fd data none true) e
      rw [Channel.afterSend]
      split
      · exact .of_nothing rfl rfl rfl rfl hstill
      · exact .of_nothing rfl rfl rfl (LawfulChannel.traffic_afterFailure c) hstill

/-- Waiting for data moves none. -/
theorem Channel.Waits.still {fd : Descriptor} {timeout : Timeout} {talk : Talk}
    {result : Except SocketError Unit} (h : Channel.Waits fd timeout talk result) :
    ∀ e ∈ talk, e.Still := by
  intro e he
  obtain ⟨left, hcall⟩ := h.polls e he
  exact Exchange.still_of_poll hcall

/-- What has arrived is handed on, or the other end is done. -/
theorem Channel.arrived_told (c : C) (fd : Descriptor) {capacity : Nat} (timeout : Timeout)
    (data : Received capacity) :
    Told c [⟨.receive capacity timeout,
        (Channel.afterReceive c (Channel.viewed Channel.bytesOnly (.ok data))).1⟩]
      [⟨.receive fd capacity, .ok data⟩]
      (Channel.afterReceive c (Channel.viewed Channel.bytesOnly (.ok data))).2 := by
  have hviewed : Channel.viewed Channel.bytesOnly (.ok data) =
      .ok (data.bytes.length, data.bytes) := rfl
  rw [hviewed, Channel.afterReceive]
  split
  · rename_i hend
    obtain hnothing : data.bytes = [] := List.length_eq_zero_iff.1 hend.1
    have htraffic := LawfulChannel.traffic_afterEnd c
    refine ⟨rfl, by simp [Talk.receivedBytes, Exchange.receivedBytes, Report.receivedBytes,
      hnothing], ?_, ?_, ?_⟩
    · simp [htraffic, Talk.sentCount, Exchange.sentCount]
    · simp [htraffic, Talk.receivedBytes, Exchange.receivedBytes, hnothing]
    · simp [Exchange.sawEnd, hnothing]
  · refine ⟨rfl, by simp [Talk.receivedBytes, Exchange.receivedBytes, Report.receivedBytes],
      ?_, ?_, by simp [Report.isClosed]⟩
    · simp [LawfulChannel.traffic_withTraffic, Traffic.recordReceived, Talk.sentCount,
        Exchange.sentCount]
    · simp [LawfulChannel.traffic_withTraffic, Traffic.recordReceived, Talk.receivedBytes,
        Exchange.receivedBytes]

/-- So does a receive. -/
theorem Channel.receive_told (c : C) (capacity : Nat) (timeout : Timeout)
    (hobstacle : Channel.obstacle? c .receiving ≠ some .closed) :
    (Channel.receive c capacity timeout Channel.bytesOnly : Act σ _).Ensures fun talk out =>
      Told c [⟨.receive capacity timeout, out.1⟩] talk out.2 := by
  refine .mono (Channel.receive_talks c capacity timeout Channel.bytesOnly)
    fun talk out hreceives => ?_
  cases hreceives with
  | @refused e herror =>
    have hclosed : e ≠ .closed := by
      rintro rfl
      exact Channel.readyDescriptor_ne (by simp) hobstacle capacity herror
    exact .of_nothing rfl rfl (Report.isClosed_error hclosed) rfl (by simp)
  | unready _ hwait =>
    refine .of_nothing rfl rfl (Report.isClosed_error ?_) rfl hwait.still
    cases hwait <;> simp
  | @answered fd _ _ hwait n reply _ =>
    refine Told.prepend (Told.repeated ?_ n) hwait.still
    cases reply with
    | ok data => exact Channel.arrived_told c fd timeout data
    | error e =>
      have hstill : ∀ e' ∈ [(⟨.receive fd capacity, .error e⟩ : Exchange)], e'.Still := by
        simpa using Exchange.still_of_error (.receive fd capacity) e
      rw [Channel.viewed, Channel.afterReceive]
      split
      · exact .of_nothing rfl rfl rfl rfl hstill
      · exact .of_nothing rfl rfl rfl (LawfulChannel.traffic_afterFailure c) hstill

end Transfers

/-- A channel that has counters, and does not take its own state for the end of the other. -/
class Carrier (C : Type) [Channel C] : Prop extends LawfulChannel C where
  obstacle_ne_closed : ∀ c : C, Channel.obstacle? c .receiving ≠ some .closed

instance : Carrier Stream where
  obstacle_ne_closed s := by
    simp only [Channel.obstacle?]
    split <;> simp

instance : Carrier Peer where
  obstacle_ne_closed _ := by simp [Channel.obstacle?]

/-- **The caller is told what the kernel was told**, in every conversation. -/
theorem Conversation.told {C : Type} [Channel C] [Transferring C] [Carrier C] {c c' : C}
    {reports : List Report} {talk : Talk} (h : Conversation c reports talk c') :
    Told c reports talk c' := by
  induction h with
  | start => exact .refl c
  | transfer _ t w ih =>
    refine ih.append ?_
    rw [Transferring.transfer_eq]
    cases t with
    | send data => exact (Channel.send_told _ data).recorded w
    | receive capacity timeout =>
      exact (Channel.receive_told _ capacity timeout (Carrier.obstacle_ne_closed _)).recorded w

/-! ### Pipes -/

/-- One of the two ends of a connection. -/
inductive Party
  | sender
  | receiver
deriving DecidableEq

/-- What one end and the kernel say to each other. -/
abbrev Turn := Party × Exchange

/-- The talk of one end. -/
def talkOf (party : Party) (turns : List Turn) : Talk :=
  turns.filterMap fun turn => if turn.1 = party then some turn.2 else none

/-- One direction of a connection: the bytes on their way, and whether the sending end is closed. -/
structure Pipe where
  queue : List UInt8
  ended : Bool

namespace Pipe

/-- A connection that was just made. -/
def empty : Pipe := ⟨[], false⟩

/-- Whether a turn is about the bytes in the pipe. -/
def Concerns : Turn → Bool
  | (.sender, ⟨.send _ _ _ _, .ok _⟩) | (.receiver, ⟨.receive _ _, .ok _⟩) => true
  | _ => false

/-- What a turn does to the pipe. -/
inductive Step : Pipe → Turn → Pipe → Prop
  /-- The bytes that a send takes go to the end of the queue. -/
  | sent {queue data : List UInt8} {fd : Descriptor} {destination : Option Endpoint}
      {quiet : Bool} {n : Nat} (h : n ≤ data.length) :
      Step ⟨queue, false⟩ (.sender, ⟨.send fd data destination quiet, .ok n⟩)
        ⟨queue ++ data.take n, false⟩
  /-- A receive takes bytes from the front of the queue. -/
  | received {rest : List UInt8} {ended : Bool} {fd : Descriptor} {capacity : Nat}
      (data : Received capacity) (h : data.bytes ≠ []) :
      Step ⟨data.bytes ++ rest, ended⟩ (.receiver, ⟨.receive fd capacity, .ok data⟩) ⟨rest, ended⟩
  /-- It gets nothing only if there is nothing, and nothing will come. -/
  | sawEnd {fd : Descriptor} {capacity : Nat} (data : Received capacity) (h : data.bytes = []) :
      Step ⟨[], true⟩ (.receiver, ⟨.receive fd capacity, .ok data⟩) ⟨[], true⟩
  /-- All other calls, and all that fail, leave the bytes alone. -/
  | other (p : Pipe) {turn : Turn} (h : Concerns turn = false) : Step p turn p

/-- The sending end may be closed at any time. -/
inductive Drift : Pipe → Pipe → Prop
  | ends (queue : List UInt8) : Drift ⟨queue, false⟩ ⟨queue, true⟩

/-- The pipe while both ends talk. -/
abbrev Follows : Pipe → List Turn → Pipe → Prop := Evolves Step Drift

section Turns

variable {p p' : Pipe} {turn : Turn} {turns : List Turn}

theorem talkOf_cons_self (party : Party) (e : Exchange) (turns : List Turn) :
    talkOf party ((party, e) :: turns) = e :: talkOf party turns := by
  simp [talkOf]

theorem talkOf_cons_ne {party party' : Party} (h : party' ≠ party) (e : Exchange)
    (turns : List Turn) : talkOf party ((party', e) :: turns) = talkOf party turns := by
  simp [talkOf, h]

/-- A turn of the sender adds the bytes that the kernel has taken. -/
theorem Step.of_sender {e : Exchange} (h : Step p (.sender, e) p') :
    p'.queue = p.queue ++ e.sentBytes ∧ e.sentCount = e.sentBytes.length := by
  cases h with
  | sent hle => exact ⟨rfl, by simp [Exchange.sentCount, Exchange.sentBytes, hle]⟩
  | other p hnot =>
    have hnone : e.sentBytes = [] ∧ e.sentCount = 0 := by
      obtain ⟨call, reply⟩ := e
      cases call with
      | send fd data destination quiet =>
        cases reply with
        | ok n => cases hnot
        | error e => exact ⟨rfl, rfl⟩
      | _ => exact ⟨rfl, rfl⟩
    rw [hnone.1, hnone.2]
    exact ⟨(List.append_nil _).symm, rfl⟩

/-- A turn of the receiver takes away the bytes that the kernel hands over. -/
theorem Step.of_receiver {e : Exchange} (h : Step p (.receiver, e) p') :
    p.queue = e.receivedBytes ++ p'.queue ∧ (e.sawEnd = true → p' = ⟨[], true⟩) := by
  cases h with
  | received data hsome => exact ⟨rfl, fun hend => absurd (List.isEmpty_iff.1 hend) hsome⟩
  | sawEnd data hnone => exact ⟨by simp [Exchange.receivedBytes, hnone], fun _ => rfl⟩
  | other p hnot =>
    have hnone : e.receivedBytes = [] ∧ e.sawEnd = false := by
      obtain ⟨call, reply⟩ := e
      cases call with
      | receive fd capacity =>
        cases reply with
        | ok data => cases hnot
        | error e => exact ⟨rfl, rfl⟩
      | _ => exact ⟨rfl, rfl⟩
    rw [hnone.1, hnone.2]
    exact ⟨rfl, by simp⟩

/-- **What was sent is what was received, and what is still on its way.** -/
theorem conserves (h : Follows p turns p') :
    p.queue ++ (talkOf .sender turns).sentBytes =
      (talkOf .receiver turns).receivedBytes ++ p'.queue := by
  induction h with
  | done p => simp [talkOf, Talk.sentBytes, Talk.receivedBytes]
  | drift hdrift _ ih =>
    cases hdrift
    exact ih
  | @event p mid p' turn turns hstep _ ih =>
    obtain ⟨party, e⟩ := turn
    cases party with
    | sender =>
      rw [talkOf_cons_self, talkOf_cons_ne (by decide), ← ih, hstep.of_sender.1, List.append_assoc]
      rfl
    | receiver =>
      rw [talkOf_cons_self, talkOf_cons_ne (by decide), hstep.of_receiver.1, List.append_assoc, ih,
        ← List.append_assoc]
      rfl

/-- The kernel takes as many bytes as it says. -/
theorem sentCount_eq (h : Follows p turns p') :
    (talkOf .sender turns).sentCount = (talkOf .sender turns).sentBytes.length := by
  induction h with
  | done p => rfl
  | drift _ _ ih => exact ih
  | @event p mid p' turn turns hstep _ ih =>
    obtain ⟨party, e⟩ := turn
    cases party with
    | sender =>
      rw [talkOf_cons_self, Talk.sentCount, List.map_cons, List.sum_cons, Talk.sentBytes,
        List.flatMap_cons, List.length_append, hstep.of_sender.2]
      exact congrArg _ ih
    | receiver => rwa [talkOf_cons_ne (by decide)]

/-- Nothing happens any more to a pipe that is empty and has no sender. -/
theorem done (h : Follows ⟨[], true⟩ turns p') : p' = ⟨[], true⟩ := by
  refine h.preserves (P := fun p => p = ⟨[], true⟩) ?_ ?_ rfl
  · rintro _ _ ⟨queue⟩ heq
    cases heq
  · rintro turn - _ p' hstep rfl
    generalize hp : (⟨[], true⟩ : Pipe) = p at hstep
    cases hstep with
    | sent _ => cases hp
    | received data hsome =>
      have hnone := congrArg queue hp
      exact absurd (List.append_eq_nil_iff.1 hnone.symm).1 hsome
    | sawEnd data _ => rfl
    | other p _ => rfl

/-- Once the receiver has seen the end, there is nothing and nothing will come. -/
theorem ended_of_sawEnd (h : Follows p turns p')
    (hend : ∃ e ∈ talkOf .receiver turns, e.sawEnd = true) : p' = ⟨[], true⟩ := by
  induction h with
  | done p => simp [talkOf] at hend
  | drift _ _ ih => exact ih hend
  | @event p mid p' turn turns hstep hrest ih =>
    obtain ⟨party, e⟩ := turn
    cases party with
    | sender =>
      rw [talkOf_cons_ne (by decide)] at hend
      exact ih hend
    | receiver =>
      rw [talkOf_cons_self] at hend
      obtain ⟨e', he', hsaw⟩ := hend
      rcases List.mem_cons.1 he' with rfl | he'
      · obtain rfl := hstep.of_receiver.2 hsaw
        exact done hrest
      · exact ih ⟨e', he', hsaw⟩

end Turns

end Pipe

/-! ### Delivery -/

/-- What the reports about the two ends of a connection, the increase of the sender's and of the
receiver's counter, and the pipe between them have to do with each other. -/
structure Delivered (sent received : List Report) (tx rx : UInt64) (pipe : Pipe) : Prop where
  bytes : sent.flatMap Report.sentBytes = received.flatMap Report.receivedBytes ++ pipe.queue
  counters : tx - rx = .ofNat pipe.queue.length
  /-- As long as the counters have not wrapped around. -/
  counted : (sent.flatMap Report.sentBytes).length < UInt64.size →
    tx.toNat = rx.toNat + pipe.queue.length
  closed : (∃ r ∈ received, r.isClosed = true) → pipe.ended = true ∧ pipe.queue = [] ∧
    sent.flatMap Report.sentBytes = received.flatMap Report.receivedBytes

/-- The ends of a connection, of such kinds, deliver what is sent, however they take turns. -/
def Delivers (C D : Type) [Channel C] [Channel D] [Transferring C] [Transferring D] : Prop :=
  ∀ (c c' : C) (d d' : D) (sent received : List Report) (turns : List Turn) (pipe : Pipe),
    Conversation c sent (talkOf .sender turns) c' →
    Conversation d received (talkOf .receiver turns) d' →
    Pipe.Follows .empty turns pipe →
    Delivered sent received
      ((Channel.traffic c').txBytes - (Channel.traffic c).txBytes)
      ((Channel.traffic d').rxBytes - (Channel.traffic d).rxBytes) pipe

theorem delivers {C D : Type} [Channel C] [Channel D] [Transferring C] [Transferring D] [Carrier C]
    [Carrier D] : Delivers C D := by
  intro c c' d d' sent received turns pipe hsender hreceiver hpipe
  have hsent := hsender.told
  have hreceived := hreceiver.told
  have hbytes : sent.flatMap Report.sentBytes =
      received.flatMap Report.receivedBytes ++ pipe.queue := by
    have hconserved := Pipe.conserves hpipe
    rwa [hsent.sent, hreceived.received] at hconserved
  -- both counters have gone up by as many bytes as the callers know of
  have htx : (Channel.traffic c').txBytes - (Channel.traffic c).txBytes =
      .ofNat (sent.flatMap Report.sentBytes).length := by
    rw [hsent.txBytes, Pipe.sentCount_eq hpipe, hsent.sent]
    exact add_sub_cancel_left _ _
  have hrx : (Channel.traffic d').rxBytes - (Channel.traffic d).rxBytes =
      .ofNat (received.flatMap Report.receivedBytes).length := by
    rw [hreceived.rxBytes, hreceived.received]
    exact add_sub_cancel_left _ _
  refine ⟨hbytes, ?_, fun hfits => ?_, fun hclosed => ?_⟩
  · rw [htx, hrx, hbytes, List.length_append, UInt64.ofNat_add]
    exact add_sub_cancel_left _ _
  · have hlength := congrArg List.length hbytes
    rw [List.length_append] at hlength
    rw [htx, hrx, UInt64.toNat_ofNat_of_lt' hfits,
      UInt64.toNat_ofNat_of_lt' (by omega), hlength]
  · obtain rfl := Pipe.ended_of_sawEnd hpipe (hreceiver.told.closed hclosed)
    exact ⟨rfl, rfl, by simpa using hbytes⟩

/-- **Bytes are delivered in order, without loss, and once.** -/
theorem bytes_delivered : Delivers Stream Stream ∧ Delivers Stream Peer ∧ Delivers Peer Stream ∧
    Delivers Peer Peer := ⟨delivers, delivers, delivers, delivers⟩

/-- One more transfer, of which it is known how it went. -/
theorem Conversation.next {C : Type} [Channel C] [Transferring C] {c c' c'' : C}
    {reports : List Report} {talk more : Talk} (h : Conversation c reports talk c') (t : Transfer)
    {result : t.Result} (w : World σ)
    (hresult : (Transferring.transfer c' t w.recorded).1 = (result, c''))
    (hmore : (Transferring.transfer c' t w.recorded).2.kernel.talk = more) :
    Conversation c (reports ++ [⟨t, result⟩]) (talk ++ more) c'' := by
  have hnext := h.transfer t w
  rw [hresult, hmore] at hnext
  exact hnext

/-- A stream sends three bytes and then one; the other end gets two and two, and sees the end. -/
theorem bytes_delivered_inTurns :
    let s := Stream.granted
    let p := Peer.new ⟨4⟩ ⟨⟨127, 0, 0, 1⟩, 40000⟩
    let sent := [⟨.send [1, 2, 3], .ok 3⟩, ⟨.send [4], .ok 1⟩]
    let received := [⟨.receive 2 none, .ok [1, 2]⟩, ⟨.receive 8 none, .ok [3, 4]⟩,
      ⟨.receive 8 none, .error .closed⟩]
    ∃ turns s' p', Conversation s sent (talkOf .sender turns) s' ∧
      Conversation p received (talkOf .receiver turns) p' ∧
      Pipe.Follows .empty turns ⟨[], true⟩ ∧
      Delivered sent received (s'.traffic.txBytes - s.traffic.txBytes)
        (p'.traffic.rxBytes - p.traffic.rxBytes) ⟨[], true⟩ := by
  intro s p sent received
  let took (data : List UInt8) : Exchange := ⟨.send ⟨3⟩ data none true, .ok data.length⟩
  let polled : Exchange :=
    ⟨.poll ⟨4⟩ (some .read) (-1), .ok (some ⟨true, true, false, false, false⟩)⟩
  let gave (capacity : Nat) (bytes : List UInt8) (h : bytes.length ≤ capacity) : Exchange :=
    ⟨.receive ⟨4⟩ capacity, .ok ⟨bytes, some ⟨⟨127, 0, 0, 1⟩, 40000⟩, h⟩⟩
  let turns : List Turn := [(.sender, took [1, 2, 3]), (.receiver, polled),
    (.receiver, gave 2 [1, 2] (by decide)), (.sender, took [4]), (.receiver, polled),
    (.receiver, gave 8 [3, 4] (by decide)), (.receiver, polled),
    (.receiver, gave 8 [] (by decide))]
  have hfirst : Conversation s ([] ++ [⟨.send [1, 2, 3], .ok 3⟩]) ([] ++ [took [1, 2, 3]])
      { s with traffic := ⟨0, 1, 0, 3⟩ } :=
    .next .start _ (World.granting false []) (by cbv) (by cbv)
  have hsender : Conversation s ([] ++ [⟨.send [1, 2, 3], .ok 3⟩] ++ [⟨.send [4], .ok 1⟩])
      ([] ++ [took [1, 2, 3]] ++ [took [4]]) { s with traffic := ⟨0, 2, 0, 4⟩ } :=
    .next hfirst _ (World.granting false []) (by cbv) (by cbv)
  have htwo : Conversation p ([] ++ [⟨.receive 2 none, .ok [1, 2]⟩])
      ([] ++ [polled, gave 2 [1, 2] (by decide)]) { p with traffic := ⟨1, 0, 2, 0⟩ } :=
    .next .start _ (World.granting false [1, 2, 3]) (by cbv) (by cbv)
  have hfour : Conversation p ([] ++ [⟨.receive 2 none, .ok [1, 2]⟩] ++
      [⟨.receive 8 none, .ok [3, 4]⟩]) ([] ++ [polled, gave 2 [1, 2] (by decide)] ++
        [polled, gave 8 [3, 4] (by decide)]) { p with traffic := ⟨2, 0, 4, 0⟩ } :=
    .next htwo _ (World.granting false [3, 4]) (by cbv) (by cbv)
  have hreceiver : Conversation p ([] ++ [⟨.receive 2 none, .ok [1, 2]⟩] ++
      [⟨.receive 8 none, .ok [3, 4]⟩] ++ [⟨.receive 8 none, .error .closed⟩])
      ([] ++ [polled, gave 2 [1, 2] (by decide)] ++ [polled, gave 8 [3, 4] (by decide)] ++
        [polled, gave 8 [] (by decide)]) { p with traffic := ⟨2, 0, 4, 0⟩ } :=
    .next hfour _ (World.granting false []) (by cbv) (by cbv)
  have hpipe : Pipe.Follows .empty turns ⟨[], true⟩ := by
    have hfront : Pipe.Step ⟨[1, 2, 3], false⟩ (.receiver, gave 2 [1, 2] (by decide))
        ⟨[3], false⟩ := @Pipe.Step.received [3] _ _ _ ⟨[1, 2], _, _⟩ (by decide)
    have hrest : Pipe.Step ⟨[3, 4], false⟩ (.receiver, gave 8 [3, 4] (by decide)) ⟨[], false⟩ :=
      @Pipe.Step.received [] _ _ _ ⟨[3, 4], _, _⟩ (by decide)
    refine .event (.sent (by decide)) (.event (.other _ rfl) (.event hfront ?_))
    refine .event (.sent (by decide)) (.event (.other _ rfl) (.event hrest ?_))
    exact .drift (.ends []) (.event (.other _ rfl) (.event (.sawEnd _ rfl) (.done _)))
  exact ⟨turns, _, _, hsender, hreceiver, hpipe,
    bytes_delivered.2.1 _ _ _ _ _ _ turns _ hsender hreceiver hpipe⟩

end ProfiledSocket
