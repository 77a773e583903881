/-
Which datagrams arrive.

Any number of datagram sockets send, to their default peers or to endpoints that they name, and one
of them receives, with or without being told the source.  Whatever is interrupted, fails, is cut
short or gets lost on the way, the receiver gets datagrams that were sent to it, in order and none
of them twice, and its counter knows how many.

* `Datagram.posted`, `Datagram.fetched` — what the callers of a socket were told;
* `Datagram.Booked` — what an operation tells of its talk;
* **`Datagram.perform_booked`** — every operation tells what the kernel has said;
* **`Datagram.accounts_of_onward`** — so does all that is done to a socket;
* `Datagram.Delivered`, **`Datagram.datagrams_delivered`** — what becomes of the datagrams between
  sockets.

Design notes: the callers of a socket know its default peer from what they have done, and the kernel
knows it from the calls to connect.  The two agree as long as the socket is open, and nothing is
sent when it no longer is.
-/
import ProfiledSocket.Proofs.Accounting
import ProfiledSocket.Proofs.Dialogue
import ProfiledSocket.Proofs.Network

namespace ProfiledSocket

variable {σ : Type} [Kernel σ]

/-- The talk of a computation that makes idle calls only. -/
theorem Act.Makes.idle {α : Type} {x : Act σ α} (h : x.Makes Call.Idle) :
    x.Ensures fun talk _ => ∀ e ∈ talk, e.Idle :=
  .mono h fun _ _ htalk e he => Exchange.idle_of_call (htalk e he)

namespace Datagram

/-! ### What callers are told -/

/-- The default peer after an operation. -/
def peerAfter (peer : Option Endpoint) : (op : Operation) → op.Result → Option Endpoint
  | .connect ip port, .ok () => (Endpoint.read ip port).toOption
  | .close, .ok () => none
  | _, _ => peer

/-- The datagram that an operation reports as sent. -/
def posted? (peer : Option Endpoint) : (op : Operation) → op.Result → Option Posted
  | .send data, .ok _ => some ⟨data, peer⟩
  | .sendTo data ip port, .ok _ => some ⟨data, (Endpoint.read ip port).toOption⟩
  | _, _ => none

/-- The datagram that an operation returns. -/
def fetched? : (op : Operation) → op.Result → Option Fetched
  | .receive capacity _, .ok bytes => some ⟨capacity, bytes, none⟩
  | .receiveFrom capacity _, .ok delivery => some ⟨capacity, delivery.data, some delivery.source⟩
  | _, _ => none

/-- The default peer of a socket after a history. -/
def peerThen (peer : Option Endpoint) : History Datagram → Option Endpoint
  | [] => peer
  | entry :: history => peerAfter (peerThen peer history) entry.op entry.result

/-- The datagrams that were sent in a history, in order. -/
def posted (peer : Option Endpoint) : History Datagram → List Posted
  | [] => []
  | entry :: history =>
    posted peer history ++ (posted? (peerThen peer history) entry.op entry.result).toList

/-- The datagrams that were returned in a history, in order. -/
def fetched : History Datagram → List Fetched
  | [] => []
  | entry :: history => fetched history ++ (fetched? entry.op entry.result).toList

/-- What a caller is told of a datagram that the kernel has handed over. -/
structure Shows (told raw : Fetched) : Prop where
  capacity_eq : told.capacity = raw.capacity
  bytes_eq : told.bytes = raw.bytes
  source_eq : ∀ source ∈ told.source, raw.source = some source

/-! ### One operation -/

/-- What an operation of a socket tells of its talk, if the socket has such a peer as far as the
kernel knows. -/
structure Booked (peer : Option Endpoint) (d : Datagram) (op : Operation) (talk : Talk)
    (out : op.Result × Datagram) : Prop where
  posted_eq : talk.posted peer = (posted? d.defaultPeer op out.1).toList
  peer_eq : out.2.descriptor.isSome → talk.peerAfter peer = out.2.defaultPeer
  /-- A datagram whose source is not told may be refused. -/
  fetched : (∀ f ∈ talk.fetched, f.source.isSome) →
    List.Forall₂ Shows (fetched? op out.1).toList talk.fetched

section Booking

variable {peer : Option Endpoint} {d : Datagram} {op : Operation} {talk : Talk}
  {out : op.Result × Datagram}

/-- Idle exchanges make no difference. -/
theorem Booked.prepend (h : Booked peer d op talk out) {before : Talk}
    (hbefore : ∀ e ∈ before, e.Idle) : Booked peer d op (before ++ talk) out where
  posted_eq := by
    rw [Talk.posted_append, Talk.posted_of_idle hbefore, Talk.peerAfter_of_idle hbefore]
    exact h.posted_eq
  peer_eq := by
    rw [Talk.peerAfter_append, Talk.peerAfter_of_idle hbefore]
    exact h.peer_eq
  fetched := by
    rw [Talk.fetched_append, Talk.fetched_of_idle hbefore]
    exact h.fetched

/-- A call that signals interrupt is idle each time. -/
theorem idle_of_interrupted (call : Call) (n : Nat) :
    ∀ e ∈ List.replicate n (⟨call, .error .interrupted⟩ : Exchange), e.Idle := by
  intro e he
  rw [List.eq_of_mem_replicate he]
  exact Exchange.idle_of_error call .interrupted

theorem Booked.repeated {call : Call} {reply : Reply call}
    (h : Booked peer d op [⟨call, reply⟩] out) (n : Nat) :
    Booked peer d op (repeated call n reply) out :=
  h.prepend (idle_of_interrupted call n)

/-- An operation that neither sends nor returns a datagram, and whose talk is idle. -/
theorem Booked.of_idle (hposted : posted? d.defaultPeer op out.1 = none)
    (hfetched : fetched? op out.1 = none)
    (hpeer : out.2.descriptor.isSome → peer = out.2.defaultPeer) (htalk : ∀ e ∈ talk, e.Idle) :
    Booked peer d op talk out where
  posted_eq := by rw [Talk.posted_of_idle htalk, hposted]; rfl
  peer_eq := by rw [Talk.peerAfter_of_idle htalk]; exact hpeer
  fetched _ := by rw [Talk.fetched_of_idle htalk, hfetched]; exact .nil

end Booking

/-! ### Receives -/

/-- The part of the talk of a receive that is about datagrams, and what comes of it. -/
inductive Answered {α : Type} (d : Datagram) {capacity : Nat}
    (view : Received capacity → Except IoError α) : Talk → Except SocketError α × Datagram → Prop
  | nothing (e : SocketError) : Answered d view [] (.error e, d)
  | unusable {fd : Descriptor} {received : Received capacity} {cause : IoError}
      (hview : view received = .error cause) (e : SocketError) :
      Answered d view [⟨.receive fd capacity, .ok received⟩] (.error e, d)
  | usable {fd : Descriptor} {received : Received capacity} {value : α}
      (hview : view received = .ok value) (t : Traffic) :
      Answered d view [⟨.receive fd capacity, .ok received⟩] (.ok value, { d with traffic := t })

theorem Answered.of_receives {α : Type} {d : Datagram} {capacity : Nat} {timeout : Timeout}
    {view : Received capacity → Except IoError α} {talk : Talk}
    {out : Except SocketError α × Datagram}
    (h : Channel.Receives d capacity timeout view talk out) :
    ∃ before answer, talk = before ++ answer ∧ (∀ e ∈ before, e.Idle) ∧
      Answered d view answer out := by
  have hpolls {fd : Descriptor} {polls : Talk} {result : Except SocketError Unit}
      (hwait : Channel.Waits fd timeout polls result) : ∀ e ∈ polls, e.Idle := by
    intro e he
    obtain ⟨left, hcall⟩ := hwait.polls e he
    exact Exchange.idle_of_call (by rw [hcall]; trivial)
  -- all that stands before the answer is idle: it waits, or is interrupted
  cases h with
  | refused _ => exact ⟨[], [], rfl, by simp, .nothing _⟩
  | unready _ hwait => exact ⟨_, [], (List.append_nil _).symm, hpolls hwait, .nothing _⟩
  | @answered fd _ polls hwait n reply _ =>
    cases reply with
    | error e =>
      refine ⟨polls ++ repeated _ n (.error e), [], (List.append_nil _).symm, ?_, ?_⟩
      · refine List.forall_mem_append.2 ⟨hpolls hwait, ?_⟩
        refine List.forall_mem_append.2 ⟨idle_of_interrupted _ n, ?_⟩
        simpa using Exchange.idle_of_error _ e
      · rw [Channel.viewed, Channel.afterReceive]
        split <;> exact .nothing _
    | ok received =>
      refine ⟨_, [⟨.receive fd capacity, .ok received⟩], (List.append_assoc ..).symm,
        List.forall_mem_append.2 ⟨hpolls hwait, idle_of_interrupted _ n⟩, ?_⟩
      cases hview : view received with
      | error cause =>
        simp only [Channel.viewed, hview, Except.map, Channel.afterReceive]
        split <;> exact .unusable hview _
      | ok value =>
        -- an empty datagram is a datagram like any other
        have hsome : ¬ (received.bytes.length = 0 ∧ Channel.endsWithNothing Datagram = true) :=
          fun hend => Bool.noConfusion hend.2
        simp only [Channel.viewed, hview, Except.map, Channel.afterReceive, if_neg hsome]
        exact .usable hview _

/-! ### All operations -/

section Operations

variable {peer : Option Endpoint} {d : Datagram}

/-- A call that fails leaves the datagrams and the peers alone. -/
theorem idle_of_error {call : Call} (e : Errno) :
    ∀ exchange ∈ [(⟨call, .error e⟩ : Exchange)], exchange.Idle := by
  simpa using Exchange.idle_of_error call e

variable (hpeer : d.descriptor.isSome → peer = d.defaultPeer)

include hpeer

theorem bind_booked (ip : String) (port : UInt16) :
    (d.bind ip port : Act σ _).Ensures (Booked peer d (.bind ip port)) := by
  cases hcheck : d.checkBind ip port with
  | error e =>
    rw [bind, hcheck]
    exact .pure (.of_idle rfl rfl hpeer (by simp))
  | ok checked =>
    obtain ⟨fd, addr⟩ := checked
    have hidle : (bindTo fd addr : Act σ _).Makes Call.Idle := by
      refine .bind (.bind (.ask trivial) fun reply => ?_) fun bound => ?_
      · cases reply with
        | error e => exact .pure _
        | ok _ =>
          refine .bind (.bind (.ask trivial) fun reply => ?_) fun own => .pure _
          cases reply <;> exact .pure _
      · cases bound with
        | error e => exact .pure _
        | ok own => exact .bind (.note _ _) fun _ => .pure _
    rw [bind, hcheck]
    refine .bind (.mono hidle.idle fun talk bound htalk => .pure ?_)
    rw [List.append_nil]
    cases bound with
    | error e => exact .of_idle rfl rfl hpeer htalk
    | ok own => exact .of_idle rfl rfl hpeer htalk

theorem connect_booked (ip : String) (port : UInt16) :
    (d.connect ip port : Act σ _).Ensures (Booked peer d (.connect ip port)) := by
  cases hcheck : d.checkConnect ip port with
  | error e =>
    rw [connect, hcheck]
    exact .pure (.of_idle rfl rfl hpeer (by simp))
  | ok checked =>
    obtain ⟨fd, addr⟩ := checked
    rw [connect, hcheck]
    refine .bind (.bind (.ask fun reply => ?_))
    cases reply with
    | error e => exact .pure (.pure (.of_idle rfl rfl hpeer (idle_of_error e)))
    | ok _ =>
      refine .bind (.mono (localEndpoint_talks fd) fun talk own hown => ?_)
      obtain ⟨reply, rfl, -⟩ := hown
      exact .bind (.note (.pure (.pure ⟨rfl, fun _ => rfl, fun _ => .nil⟩)))

theorem send_booked (data : List UInt8) :
    (d.send data : Act σ _).Ensures (Booked peer d (.send data)) := by
  refine .mono (Channel.send_talks d data none) fun talk out hsends => ?_
  cases hsends with
  | refused _ => exact .of_idle rfl rfl hpeer (by simp)
  | @answered fd hcheck n reply _ =>
    have hfd : d.descriptor = some fd := Channel.descriptor_of_checkSend hcheck
    -- the socket is open, so that the kernel and the callers mean the same peer
    obtain rfl := hpeer (by rw [hfd]; rfl)
    refine Booked.repeated ?_ n
    cases reply with
    | ok taken => exact ⟨rfl, fun _ => rfl, fun _ => .nil⟩
    | error e =>
      rw [Channel.afterSend]
      split <;> exact .of_idle rfl rfl (fun _ => rfl) (idle_of_error e)

theorem sendTo_booked (data : List UInt8) (ip : String) (port : UInt16) :
    (d.sendTo data ip port : Act σ _).Ensures (Booked peer d (.sendTo data ip port)) := by
  cases hcheck : checkDestination data ip port with
  | error e =>
    rw [sendTo, hcheck]
    exact .pure (.of_idle rfl rfl hpeer (by simp))
  | ok destination =>
    have hread : Endpoint.read ip port = .ok destination := by
      rw [checkDestination] at hcheck
      split at hcheck
      · cases hcheck
      · exact hcheck
    rw [sendTo, hcheck]
    refine .mono (Channel.send_talks d data (some destination)) fun talk out hsends => ?_
    cases hsends with
    | refused _ => exact .of_idle rfl rfl hpeer (by simp)
    | answered _ n reply _ =>
      refine Booked.repeated ?_ n
      cases reply with
      | ok taken =>
        refine ⟨?_, hpeer, fun _ => .nil⟩
        show [(⟨data, some destination⟩ : Posted)] = [⟨data, (Endpoint.read ip port).toOption⟩]
        rw [hread]
        rfl
      | error e =>
        rw [Channel.afterSend]
        split <;> exact .of_idle rfl rfl hpeer (idle_of_error e)

theorem receive_booked (capacity : Nat) (timeout : Timeout) :
    (d.receive capacity timeout : Act σ _).Ensures (Booked peer d (.receive capacity timeout)) := by
  refine .mono (Channel.receive_talks d capacity timeout Channel.bytesOnly)
    fun talk out hreceives => ?_
  obtain ⟨before, answer, rfl, hidle, hanswered⟩ := Answered.of_receives hreceives
  refine Booked.prepend ?_ hidle
  cases hanswered with
  | nothing e => exact .of_idle rfl rfl hpeer (by simp)
  | unusable hview e => cases hview
  | @usable fd received value hview t =>
    obtain rfl : received.bytes = value := Except.ok.inj hview
    exact ⟨rfl, hpeer, fun _ => .cons ⟨rfl, rfl, by simp⟩ .nil⟩

theorem receiveFrom_booked (capacity : Nat) (timeout : Timeout) :
    (d.receiveFrom capacity timeout : Act σ _).Ensures
      (Booked peer d (.receiveFrom capacity timeout)) := by
  refine .bind (.mono (Channel.receive_talks d capacity timeout bytesAndSource)
    fun talk out hreceives => ?_)
  obtain ⟨before, answer, rfl, hidle, hanswered⟩ := Answered.of_receives hreceives
  cases hanswered with
  | nothing e =>
    refine .pure ?_
    rw [List.append_nil, List.append_nil]
    exact .of_idle rfl rfl hpeer hidle
  | @unusable fd received cause hview e =>
    refine .pure ?_
    rw [List.append_nil]
    refine Booked.prepend ⟨rfl, hpeer, fun hsources => ?_⟩ hidle
    -- only a datagram without a source is refused
    have hsource : received.source.isSome := hsources _ (List.mem_singleton_self _)
    obtain ⟨source, hsource⟩ := Option.isSome_iff_exists.1 hsource
    rw [bytesAndSource, hsource] at hview
    cases hview
  | @usable fd received value hview t =>
    obtain ⟨bytes, source⟩ := value
    refine .bind (.mono (Datagram.readClock_ensures _) ?_)
    rintro _ ⟨reading, _⟩ ⟨rfl, rfl⟩
    refine .pure ?_
    rw [List.append_nil, List.append_nil]
    rw [bytesAndSource] at hview
    split at hview
    · rename_i source' hsource
      cases hview
      refine Booked.prepend ⟨rfl, hpeer, fun _ => .cons ⟨rfl, rfl, ?_⟩ .nil⟩ hidle
      simpa using hsource
    · cases hview

theorem setOption_booked (option : OptionName) (value : List UInt8) :
    (d.perform (.setOption option value) : Act σ _).Ensures
      (Booked peer d (.setOption option value)) := by
  have hidle : (d.setOption option value : Act σ _).Makes Call.Idle := by
    rw [setOption, setRawOption]
    split
    · exact .pure _
    · refine .bind (.ask trivial) fun reply => ?_
      cases reply <;> exact .pure _
  refine .bind (.mono hidle.idle fun talk result htalk => .pure ?_)
  rw [List.append_nil]
  refine .of_idle ?_ ?_ hpeer htalk
  · cases result <;> rfl
  · cases result <;> rfl

theorem close_booked : (d.close : Act σ _).Ensures (Booked peer d .close) := by
  rw [close]
  split
  · exact .pure (.of_idle rfl rfl hpeer (by simp))
  · rename_i fd _
    have hidle : (closeDescriptor fd : Act σ Unit).Makes Call.Idle :=
      .bind (.ask trivial) fun _ => .pure _
    refine .bind (.note (.bind (.mono hidle.idle fun talk _ htalk => .pure ?_)))
    refine .of_idle rfl rfl (fun hopen => by cases hopen) ?_
    simpa using htalk

/-- **Every operation tells what the kernel has said.** -/
theorem perform_booked (op : Operation) :
    (d.perform op : Act σ _).Ensures (Booked peer d op) := by
  cases op with
  | bind ip port => exact bind_booked hpeer ip port
  | connect ip port => exact connect_booked hpeer ip port
  | send data => exact send_booked hpeer data
  | sendTo data ip port => exact sendTo_booked hpeer data ip port
  | receive capacity timeout => exact receive_booked hpeer capacity timeout
  | receiveFrom capacity timeout => exact receiveFrom_booked hpeer capacity timeout
  | setOption option value => exact setOption_booked hpeer option value
  | close => exact close_booked hpeer

end Operations

/-! ### All that is done to a socket -/

/-- The default peer is the one that the callers know. -/
theorem Transition.defaultPeer_eq {d d' : Datagram} {op : Operation} {result : op.Result}
    (ht : Transition d op result d') : d'.defaultPeer = peerAfter d.defaultPeer op result := by
  cases ht with
  | connected _ hread _ =>
    rw [peerAfter, hread]
    rfl
  | sent hcase =>
    rw [frame_of_sendCase hcase]
    rfl
  | sentTo hcase =>
    rw [frame_of_sendCase hcase]
    rfl
  | received hcase =>
    rw [frame_of_receiveCase hcase]
    rfl
  | undelivered hcase =>
    rw [frame_of_receiveCase hcase]
    rfl
  | delivered hcase _ =>
    rw [clockRead, frame_of_receiveCase hcase]
    rfl
  | _ => rfl

/-- What the callers of a socket know of the talk that its history took. -/
structure Accounts (start : Datagram) (history : History Datagram) (d : Datagram) : Prop where
  defaultPeer_eq : d.defaultPeer = peerThen start.defaultPeer history
  peer_eq : d.descriptor.isSome → (wholeTalk history).peerAfter start.defaultPeer = d.defaultPeer
  posted_eq : (wholeTalk history).posted start.defaultPeer = posted start.defaultPeer history
  fetched : (∀ f ∈ (wholeTalk history).fetched, f.source.isSome) →
    List.Forall₂ Shows (Datagram.fetched history) (wholeTalk history).fetched

/-- **The callers of a socket know what the kernel has said**, whatever is done to the socket. -/
theorem accounts_of_onward {start d : Datagram} {history : History Datagram}
    (h : Onward start history d) : Accounts start history d := by
  induction h with
  | start => exact ⟨rfl, fun _ => rfl, rfl, fun _ => .nil⟩
  | @step σ _ history d _ op w ih =>
    have hbooked := carryOut_ensures d op (perform_booked ih.peer_eq op) w
    refine ⟨?_, ?_, ?_, ?_⟩
    · rw [(carryOut_transition d w op).defaultPeer_eq, ih.defaultPeer_eq]
      rfl
    · rw [wholeTalk, Talk.peerAfter_append]
      exact hbooked.peer_eq
    · rw [wholeTalk, Talk.posted_append, ih.posted_eq, hbooked.posted_eq, ih.defaultPeer_eq]
      rfl
    · rw [wholeTalk, Talk.fetched_append, List.forall_mem_append]
      rintro ⟨hearlier, hlatest⟩
      exact List.rel_append (ih.fetched hearlier) (hbooked.fetched hlatest)

/-- The datagrams that were returned are those that were counted. -/
theorem length_fetched (history : History Datagram) :
    (fetched history).length = (receivedCounts history).length := by
  induction history with
  | nil => rfl
  | cons entry history ih =>
    obtain ⟨⟨op, result⟩, talk⟩ := entry
    have hsame : (fetched? op result).toList.length =
        (Operated.received? (S := Datagram) op result).toList.length := by
      cases op with
      | receive capacity timeout => cases result <;> rfl
      | receiveFrom capacity timeout => cases result <;> rfl
      | _ => rfl
    have hcons : receivedCounts (⟨⟨op, result⟩, talk⟩ :: history) =
        (Operated.received? (S := Datagram) op result).toList ++ receivedCounts history := by
      rw [receivedCounts, List.filterMap_cons]
      cases Operated.received? (S := Datagram) op result <;> rfl
    rw [fetched, List.length_append, hsame, ih, hcons, List.length_append, Nat.add_comm]

/-! ### Between sockets -/

/-- A datagram was returned as it was sent, cut to the room that there was, and with its source if
the source was told. -/
structure CutTo {ι : Type} (f : Fetched) (m : Message ι) : Prop where
  bytes_eq : f.bytes = m.payload.take f.capacity
  source_eq : ∀ source ∈ f.source, source = m.source

/-- What the kernel has handed over is shown to the callers. -/
theorem forall₂_cutTo {ι : Type} {told raw : List Fetched} {arrived : List (Message ι)}
    (hshows : List.Forall₂ Shows told raw) (hgets : List.Forall₂ Network.Gets raw arrived) :
    List.Forall₂ CutTo told arrived := by
  induction hshows generalizing arrived with
  | nil =>
    cases hgets
    exact .nil
  | cons hshow _ ih =>
    cases hgets with
    | cons hget hrest =>
      refine .cons ⟨?_, fun source hsource => ?_⟩ (ih hrest)
      · rw [hshow.bytes_eq, hshow.capacity_eq, hget.bytes_eq]
      · have hraw := hshow.source_eq source hsource
        rw [hget.source_eq] at hraw
        exact (Option.some.inj hraw).symm

section Network

variable {ι : Type} [DecidableEq ι] [Fintype ι]

/-- How many datagrams all sockets together were told were sent to endpoints of a kind. -/
def postedTo (leads : Endpoint → Bool) (start : ι → Datagram) (histories : ι → History Datagram) :
    Nat :=
  ∑ i, (posted (start i).defaultPeer (histories i)).countP (Posted.reaches leads)

/-- What the callers of a receiver and of those that send to it are told, and how it adds up. -/
structure Delivered (leads : Endpoint → Bool) (receiver : ι) (start : ι → Datagram)
    (histories : ι → History Datagram) (d : Datagram) (net : Network ι) : Prop where
  /-- The network has taken the datagrams of each socket in their order. -/
  sent : ∀ i, net.sentBy i = posted (start i).defaultPeer (histories i)
  /-- The receiver has got some of those for it in their order. -/
  received : List.SublistForall₂ CutTo (fetched (histories receiver)) (net.sentTo leads)
  counted : d.traffic.rxPackets + .ofNat (net.queue.length + net.lost) =
    .ofNat (postedTo leads start histories)
  /-- As long as the counter has not wrapped around. -/
  exactly : postedTo leads start histories < UInt64.size →
    d.traffic.rxPackets.toNat + net.queue.length + net.lost = postedTo leads start histories

/-- **Datagrams arrive in order, whole up to the room there is, and at most once.** -/
theorem datagrams_delivered {leads : Endpoint → Bool} {receiver : ι} {start sockets : ι → Datagram}
    {histories : ι → History Datagram} {turns : List (ι × Exchange)} {net : Network ι}
    (hnew : Operated.IsNew (start receiver))
    (hsockets : ∀ i, Onward (start i) (histories i) (sockets i))
    (hturns : ∀ i, Network.ownTalk i turns = wholeTalk (histories i))
    (hnet : Network.Follows leads receiver (.idle fun i => (start i).defaultPeer) turns net) :
    Delivered leads receiver start histories (sockets receiver) net := by
  have hsent (i : ι) : net.sentBy i = posted (start i).defaultPeer (histories i) := by
    rw [Network.sentBy_eq hnet i, hturns i, ← (accounts_of_onward (hsockets i)).posted_eq]
    rfl
  have hposted : postedTo leads start histories = (net.sentTo leads).length := by
    rw [postedTo, ← net.sum_sentBy leads]
    simp only [hsent]
  obtain ⟨arrived, hgets, hbalanced⟩ := Network.balanced hnet (Network.idle_balanced leads _)
  rw [hturns receiver] at hgets
  rw [List.nil_append] at hbalanced
  -- all that the kernel has handed over came with a source
  have hsources : ∀ f ∈ (wholeTalk (histories receiver)).fetched, f.source.isSome :=
    ((List.forall₂_and_left _ _).1
      (hgets.imp fun f m hget => ⟨by rw [hget.source_eq]; rfl, hget⟩)).1
  have hcut : List.Forall₂ CutTo (fetched (histories receiver)) arrived :=
    forall₂_cutTo ((accounts_of_onward (hsockets receiver)).fetched hsources) hgets
  have hrx : (sockets receiver).traffic.rxPackets = .ofNat arrived.length := by
    have htraffic := Accounted.run_traffic ((hsockets receiver).run hnew)
    have hcounted : (receivedCounts (histories receiver)).length = arrived.length := by
      rw [← length_fetched, hcut.length_eq]
    rw [show (sockets receiver).traffic = _ from htraffic, Traffic.total, hcounted]
  have hcount : arrived.length + net.queue.length + net.lost = postedTo leads start histories := by
    rw [hposted]
    exact hbalanced.count
  refine ⟨hsent, ?_, ?_, fun hfits => ?_⟩
  · exact List.sublistForall₂_iff.2
      ⟨arrived, hcut, (List.sublist_append_left _ _).trans hbalanced.sublist⟩
  · rw [hrx, ← hcount, ← UInt64.ofNat_add, Nat.add_assoc]
  · rw [hrx, UInt64.toNat_ofNat_of_lt' (by omega)]
    exact hcount

end Network

/-! ### Three sockets -/

/-- One more operation, of which it is known how it went. -/
theorem onward_next {start d d' : Datagram} {history : History Datagram}
    (h : Onward start history d) (w : World σ) {op : Operation} {result : op.Result} {talk : Talk}
    (hentry : carryOut d op w = (⟨⟨op, result⟩, talk⟩, d')) :
    Onward start (⟨⟨op, result⟩, talk⟩ :: history) d' := by
  have hstep := h.step op w
  rwa [hentry] at hstep

/-- The endpoint of a receiver. -/
def wellKnown : Endpoint := ⟨⟨127, 0, 0, 1⟩, 7⟩

/-- A receiver and two senders, which have not sent anything yet. -/
def trio (i : Fin 3) : Datagram := ofDescriptor ⟨3 + i.val⟩ .conservative .system

/-- What they talk about in turn: one of the senders has a default peer, the other names a
destination, and the receiver has little room. -/
def trioTurns : List (Fin 3 × Exchange) :=
  [(1, ⟨.connect ⟨4⟩ wellKnown, .ok ()⟩),
    (1, ⟨.localAddress ⟨4⟩, .ok (some ⟨⟨127, 0, 0, 1⟩, 40001⟩)⟩),
    (2, ⟨.send ⟨5⟩ [4] (some wellKnown) true, .ok 1⟩),
    (0, ⟨.poll ⟨3⟩ (some .read) (-1), .ok (some ⟨true, true, false, false, false⟩)⟩),
    (1, ⟨.send ⟨4⟩ [1, 2, 3] none true, .ok 3⟩),
    (2, ⟨.send ⟨5⟩ [5, 6] (some wellKnown) true, .ok 2⟩),
    (0, ⟨.receive ⟨3⟩ 2, .ok ⟨[1, 2], some ⟨⟨127, 0, 0, 1⟩, 40000⟩, by decide⟩⟩)]

/-- What their callers are told. -/
def trioHistories : Fin 3 → History Datagram
  | 0 => [⟨⟨Operation.receiveFrom 2 none, .ok ⟨[1, 2], ⟨⟨127, 0, 0, 1⟩, 40000⟩, 0⟩⟩,
      Network.ownTalk 0 trioTurns⟩]
  | 1 => [⟨⟨Operation.send [1, 2, 3], .ok 3⟩, (Network.ownTalk 1 trioTurns).drop 2⟩,
      ⟨⟨Operation.connect "127.0.0.1" 7, .ok ()⟩, (Network.ownTalk 1 trioTurns).take 2⟩]
  | 2 => [⟨⟨Operation.sendTo [5, 6] "127.0.0.1" 7, .ok 2⟩, (Network.ownTalk 2 trioTurns).drop 1⟩,
      ⟨⟨Operation.sendTo [4] "127.0.0.1" 7, .ok 1⟩, (Network.ownTalk 2 trioTurns).take 1⟩]

/-- What becomes of them. -/
def trioAfter : Fin 3 → Datagram
  | 0 => { (trio 0).clockRead with traffic := ⟨1, 0, 2, 0⟩ }
  | 1 => { trio 1 with
      localAddress := some ⟨⟨127, 0, 0, 1⟩, 40001⟩
      defaultPeer := some wellKnown
      traffic := ⟨0, 1, 0, 3⟩ }
  | 2 => { trio 2 with traffic := ⟨0, 2, 0, 3⟩ }

theorem trio_onward (i : Fin 3) : Onward (trio i) (trioHistories i) (trioAfter i) := by
  fin_cases i
  · exact onward_next .start (World.granting false [1, 2]) (by cbv)
  · have hconnected : Onward (trio 1)
        [⟨⟨Operation.connect "127.0.0.1" 7, .ok ()⟩, (Network.ownTalk 1 trioTurns).take 2⟩]
        { trioAfter 1 with traffic := .zero } := onward_next .start (World.granting false []) rfl
    exact onward_next hconnected (World.granting false []) (by cbv)
  · have hfirst : Onward (trio 2)
        [⟨⟨Operation.sendTo [4] "127.0.0.1" 7, .ok 1⟩, (Network.ownTalk 2 trioTurns).take 1⟩]
        { trio 2 with traffic := ⟨0, 1, 0, 1⟩ } :=
      onward_next .start (World.granting false []) (by cbv)
    exact onward_next hfirst (World.granting false []) (by cbv)

/-- A datagram for the receiver. -/
def trioMessage (i : Fin 3) (data : List UInt8) : Message (Fin 3) :=
  ⟨⟨data, some wellKnown⟩, i, ⟨⟨127, 0, 0, 1⟩, 40000⟩⟩

/-- The network after that: the first datagram got lost, and the last one is still in the queue. -/
def trioNetwork : Network (Fin 3) where
  peers := Function.update (fun _ => none) 1 (some wellKnown)
  taken := [trioMessage 2 [4], trioMessage 1 [1, 2, 3], trioMessage 2 [5, 6]]
  queue := [trioMessage 2 [5, 6]]
  lost := 1

theorem trio_follows : Network.Follows (fun addr => addr = wellKnown) 0 (.idle fun _ => none)
    trioTurns trioNetwork := by
  refine .event (.connected wellKnown) (.event (.other rfl) ?_)
  refine .event (.lost (m := trioMessage 2 [4]) ⟨rfl, rfl, rfl⟩ rfl) (.event (.other rfl) ?_)
  refine .event (.queued (m := trioMessage 1 [1, 2, 3]) ⟨rfl, rfl, rfl⟩ rfl) ?_
  refine .event (.queued (m := trioMessage 2 [5, 6]) ⟨rfl, rfl, rfl⟩ rfl) ?_
  exact .event (.fetched _ rfl ⟨rfl, rfl⟩) (.done _)

/-- The receiver gets two bytes of one of three datagrams. -/
theorem datagrams_delivered_trio :
    Operated.IsNew (trio 0) ∧ (∀ i, Onward (trio i) (trioHistories i) (trioAfter i)) ∧
      (∀ i, Network.ownTalk i trioTurns = wholeTalk (trioHistories i)) ∧
      Network.Follows (fun addr => addr = wellKnown) 0 (.idle fun i => (trio i).defaultPeer)
        trioTurns trioNetwork ∧
      Delivered (fun addr => addr = wellKnown) 0 trio trioHistories (trioAfter 0) trioNetwork := by
  have hnew : Operated.IsNew (trio 0) :=
    ⟨Granting, inferInstance, World.granting false [], .conservative, .system, rfl⟩
  have hturns (i : Fin 3) : Network.ownTalk i trioTurns = wholeTalk (trioHistories i) := by
    fin_cases i <;> rfl
  exact ⟨hnew, trio_onward, hturns, trio_follows,
    datagrams_delivered hnew trio_onward hturns trio_follows⟩

end Datagram

end ProfiledSocket
