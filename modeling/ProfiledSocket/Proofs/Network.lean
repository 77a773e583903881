/-
Datagrams on their way to one socket.

Any number of sockets send datagrams, some of them to one receiver, for which the kernel keeps a
queue.  A datagram that is sent to the receiver joins the queue or gets lost; a receive takes the
first one away and cuts it to the room that there is.  All of this happens while the sockets talk
to the kernel in any order.

* `Network` — the queue of the receiver, and what has become of all that was sent;
* `Network.Step`, `Network.Drift` — what exchanges do to it, and what happens in between;
* `Talk.posted`, `Talk.fetched` — the datagrams that were sent and received in a talk;
* **`Network.sentBy_eq`** — the kernel has taken from every socket what was sent in its talk;
* **`Network.balanced`** — what the receiver gets is in order, and nothing is unaccounted for.

Design notes: a network remembers more than a kernel does.  All that it has taken is kept in order,
and what is lost is counted, so that what the receiver gets can be compared with what was sent.
Where a datagram goes that names no destination depends on the peer that its socket has, as the
kernel knows it; the fields of a socket are not looked at here.
-/
import Mathlib
import ProfiledSocket.Proofs.Talk

namespace ProfiledSocket

/-- A datagram that was sent, and where to. -/
structure Posted where
  payload : List UInt8
  destination : Option Endpoint
deriving DecidableEq

/-- Whether it goes to an endpoint of a kind. -/
def Posted.reaches (leads : Endpoint → Bool) (p : Posted) : Bool := p.destination.any leads

/-- What a receive of at most so many bytes has got, and where from if that is told. -/
structure Fetched where
  capacity : Nat
  bytes : List UInt8
  source : Option Endpoint
deriving DecidableEq

/-! ### Talks -/

namespace Exchange

/-- The datagram that the kernel has taken from a socket with such a peer. -/
def posted? (peer : Option Endpoint) : Exchange → Option Posted
  | ⟨.send _ data destination _, .ok _⟩ => some ⟨data, destination.or peer⟩
  | _ => none

/-- The peer of the socket afterwards. -/
def peerAfter (peer : Option Endpoint) : Exchange → Option Endpoint
  | ⟨.connect _ addr, .ok _⟩ => some addr
  | _ => peer

/-- The datagram that the kernel has handed over. -/
def fetched? : Exchange → Option Fetched
  | ⟨.receive _ capacity, .ok received⟩ => some ⟨capacity, received.bytes, received.source⟩
  | _ => none

end Exchange

namespace Talk

/-- The datagrams that the kernel has taken in a talk, in order. -/
def posted : Option Endpoint → Talk → List Posted
  | _, [] => []
  | peer, e :: talk => (e.posted? peer).toList ++ posted (e.peerAfter peer) talk

/-- The peer of the socket after a talk. -/
def peerAfter (peer : Option Endpoint) (talk : Talk) : Option Endpoint :=
  talk.foldl Exchange.peerAfter peer

/-- The datagrams that the kernel has handed over in a talk, in order. -/
def fetched (talk : Talk) : List Fetched := talk.filterMap Exchange.fetched?

theorem posted_append (peer : Option Endpoint) (talk more : Talk) :
    posted peer (talk ++ more) = posted peer talk ++ posted (peerAfter peer talk) more := by
  induction talk generalizing peer with
  | nil => rfl
  | cons e talk ih =>
    rw [List.cons_append, posted, posted, ih, List.append_assoc]
    rfl

@[simp] theorem peerAfter_append (peer : Option Endpoint) (talk more : Talk) :
    peerAfter peer (talk ++ more) = peerAfter (peerAfter peer talk) more := List.foldl_append

theorem fetched_cons (e : Exchange) (talk : Talk) :
    fetched (e :: talk) = e.fetched?.toList ++ fetched talk := by
  rw [fetched, List.filterMap_cons]
  cases e.fetched? <;> rfl

@[simp] theorem fetched_append (talk more : Talk) :
    fetched (talk ++ more) = fetched talk ++ fetched more := List.filterMap_append

end Talk

/-! ### Idle talk -/

/-- An exchange that moves no datagram and changes no peer. -/
structure Exchange.Idle (e : Exchange) : Prop where
  posted?_eq : ∀ peer, e.posted? peer = none
  peerAfter_eq : ∀ peer, e.peerAfter peer = peer
  fetched?_eq : e.fetched? = none

/-- A call that fails moves no datagram. -/
theorem Exchange.idle_of_error (call : Call) (e : Errno) : Idle ⟨call, .error e⟩ := by
  cases call <;> exact ⟨fun _ => rfl, fun _ => rfl, rfl⟩

/-- A call that has nothing to do with datagrams, or with who sends where. -/
def Call.Idle : Call → Prop
  | .send .. | .receive .. | .connect .. => False
  | _ => True

theorem Exchange.idle_of_call {e : Exchange} (h : e.call.Idle) : e.Idle := by
  obtain ⟨call, reply⟩ := e
  cases call <;> first | exact h.elim | exact ⟨fun _ => rfl, fun _ => rfl, rfl⟩

namespace Talk

variable {talk : Talk}

theorem posted_of_idle (h : ∀ e ∈ talk, e.Idle) (peer : Option Endpoint) :
    posted peer talk = [] := by
  induction talk with
  | nil => rfl
  | cons e talk ih =>
    rw [List.forall_mem_cons] at h
    rw [posted, h.1.posted?_eq, h.1.peerAfter_eq]
    exact ih h.2

theorem peerAfter_of_idle (h : ∀ e ∈ talk, e.Idle) (peer : Option Endpoint) :
    peerAfter peer talk = peer := by
  induction talk with
  | nil => rfl
  | cons e talk ih =>
    rw [List.forall_mem_cons] at h
    rw [peerAfter, List.foldl_cons, h.1.peerAfter_eq]
    exact ih h.2

theorem fetched_of_idle (h : ∀ e ∈ talk, e.Idle) : fetched talk = [] :=
  List.filterMap_eq_nil_iff.2 fun e he => (h e he).fetched?_eq

end Talk

/-! ### Networks -/

/-- A datagram on its way. -/
structure Message (ι : Type) extends Posted where
  sender : ι
  source : Endpoint

/-- The sockets of a network and the way to one of them. -/
structure Network (ι : Type) where
  peers : ι → Option Endpoint
  /-- All datagrams that were sent, in order. -/
  taken : List (Message ι)
  /-- The datagrams that wait for the receiver. -/
  queue : List (Message ι)
  /-- How many datagrams for the receiver got lost. -/
  lost : Nat

namespace Network

variable {ι : Type} {leads : Endpoint → Bool} {net net' : Network ι}

/-- Sockets with such peers, of which none has sent anything yet. -/
def idle (peers : ι → Option Endpoint) : Network ι := ⟨peers, [], [], 0⟩

/-- `m` is a datagram with such data that a socket sends.  Without a destination it goes to the
peer; what the kernel takes for its source is left open. -/
structure Sends (net : Network ι) (i : ι) (data : List UInt8) (destination : Option Endpoint)
    (m : Message ι) : Prop where
  sender_eq : m.sender = i
  payload_eq : m.payload = data
  destination_eq : m.destination = destination.or (net.peers i)

theorem Sends.posted_eq {i : ι} {fd : Descriptor} {data : List UInt8} {quiet : Bool} {n : Nat}
    {destination : Option Endpoint} {m : Message ι} (h : net.Sends i data destination m) :
    Exchange.posted? (net.peers i) ⟨.send fd data destination quiet, .ok n⟩ = some m.toPosted := by
  rw [Exchange.posted?, ← h.payload_eq, ← h.destination_eq]

/-! ### Being in balance -/

/-- The datagrams that were sent to the receiver, in order.  Some endpoints lead to it. -/
def sentTo (leads : Endpoint → Bool) (net : Network ι) : List (Message ι) :=
  net.taken.filter fun m => m.reaches leads

theorem sentTo_snoc (net : Network ι) {m : Message ι} (hreaches : m.reaches leads = true) :
    (net.taken ++ [m]).filter (fun m => m.reaches leads) = net.sentTo leads ++ [m] := by
  simp [sentTo, hreaches]

/-- A receive has got a datagram, as far as there was room. -/
structure Gets (f : Fetched) (m : Message ι) : Prop where
  bytes_eq : f.bytes = m.payload.take f.capacity
  source_eq : f.source = some m.source

/-- What has arrived and what waits in the queue was sent in this order, and with what is lost it is
all that was sent. -/
structure Balanced (sent arrived queue : List (Message ι)) (lost : Nat) : Prop where
  sublist : (arrived ++ queue).Sublist sent
  count : arrived.length + queue.length + lost = sent.length

namespace Balanced

variable {sent arrived queue before after : List (Message ι)} {m : Message ι} {lost : Nat}

theorem enqueue (h : Balanced sent arrived queue lost) (m : Message ι) :
    Balanced (sent ++ [m]) arrived (queue ++ [m]) lost where
  sublist := by
    rw [← List.append_assoc]
    exact h.sublist.append_right [m]
  count := by
    rw [List.length_append, List.length_append, ← h.count]
    omega

theorem drop (h : Balanced sent arrived queue lost) (m : Message ι) :
    Balanced (sent ++ [m]) arrived queue (lost + 1) where
  sublist := h.sublist.trans (List.sublist_append_left sent [m])
  count := by
    rw [List.length_append, ← h.count]
    rfl

theorem fetch (h : Balanced sent arrived (m :: queue) lost) :
    Balanced sent (arrived ++ [m]) queue lost where
  sublist := by
    rw [List.append_assoc]
    exact h.sublist
  count := by
    rw [← h.count]
    simp only [List.length_append, List.length_cons, List.length_nil]
    omega

/-- What gets lost while it waits is accounted for, too. -/
theorem lose (h : Balanced sent arrived (before ++ m :: after) lost) :
    Balanced sent arrived (before ++ after) (lost + 1) where
  sublist := by
    refine List.Sublist.trans ?_ h.sublist
    refine (List.Sublist.refl arrived).append ?_
    exact (List.Sublist.refl before).append (List.sublist_cons_self m after)
  count := by
    rw [← h.count, List.length_append, List.length_append, List.length_cons]
    omega

end Balanced

theorem idle_balanced (leads : Endpoint → Bool) (peers : ι → Option Endpoint) :
    Balanced ((idle peers).sentTo leads) [] (idle peers).queue (idle peers).lost :=
  ⟨List.nil_sublist _, rfl⟩

/-- A datagram that waits may get lost at any time. -/
inductive Drift : Network ι → Network ι → Prop
  | loses {net : Network ι} {before after : List (Message ι)} {m : Message ι}
      (hqueue : net.queue = before ++ m :: after) :
      Drift net { net with queue := before ++ after, lost := net.lost + 1 }

/-! ### Taking turns -/

variable [DecidableEq ι] {receiver : ι}

/-- Whether a turn is about datagrams for the receiver, or about who sends where. -/
def Concerns (receiver : ι) : ι × Exchange → Bool
  | (_, ⟨.send .., .ok _⟩) | (_, ⟨.connect .., .ok _⟩) => true
  | (i, ⟨.receive .., .ok _⟩) => i = receiver
  | _ => false

/-- A turn that is no concern of the network moves no datagram and changes no peer. -/
theorem of_not_concerns {i : ι} {e : Exchange} (h : Concerns receiver (i, e) = false)
    (peer : Option Endpoint) :
    e.posted? peer = none ∧ e.peerAfter peer = peer ∧ (i = receiver → e.fetched? = none) := by
  obtain ⟨call, reply⟩ := e
  cases call with
  | send fd data destination quiet =>
    cases reply with
    | ok n => cases h
    | error e => exact ⟨rfl, rfl, fun _ => rfl⟩
  | connect fd addr =>
    cases reply with
    | ok _ => cases h
    | error e => exact ⟨rfl, rfl, fun _ => rfl⟩
  | receive fd capacity =>
    cases reply with
    | ok received => exact ⟨rfl, rfl, fun hi => absurd hi (by simpa [Concerns] using h)⟩
    | error e => exact ⟨rfl, rfl, fun _ => rfl⟩
  | _ => exact ⟨rfl, rfl, fun _ => rfl⟩

section Steps

variable (leads receiver)

/-- What a turn does to a network. -/
inductive Step (net : Network ι) : ι × Exchange → Network ι → Prop
  /-- A datagram for the receiver is taken as a whole, and joins the queue. -/
  | queued {i : ι} {fd : Descriptor} {data : List UInt8} {destination : Option Endpoint}
      {quiet : Bool} {m : Message ι} (hm : net.Sends i data destination m)
      (hreaches : m.reaches leads = true) :
      Step net (i, ⟨.send fd data destination quiet, .ok data.length⟩)
        { net with taken := net.taken ++ [m], queue := net.queue ++ [m] }
  /-- It may also get lost. -/
  | lost {i : ι} {fd : Descriptor} {data : List UInt8} {destination : Option Endpoint}
      {quiet : Bool} {m : Message ι} (hm : net.Sends i data destination m)
      (hreaches : m.reaches leads = true) :
      Step net (i, ⟨.send fd data destination quiet, .ok data.length⟩)
        { net with taken := net.taken ++ [m], lost := net.lost + 1 }
  /-- Where a datagram for somebody else gets to is of no interest. -/
  | elsewhere {i : ι} {fd : Descriptor} {data : List UInt8} {destination : Option Endpoint}
      {quiet : Bool} {n : Nat} {m : Message ι} (hm : net.Sends i data destination m)
      (hreaches : m.reaches leads = false) :
      Step net (i, ⟨.send fd data destination quiet, .ok n⟩) { net with taken := net.taken ++ [m] }
  /-- The receiver gets the first datagram, as far as there is room. -/
  | fetched {fd : Descriptor} {capacity : Nat} (received : Received capacity) {m : Message ι}
      {rest : List (Message ι)} (hqueue : net.queue = m :: rest)
      (hgets : Gets ⟨capacity, received.bytes, received.source⟩ m) :
      Step net (receiver, ⟨.receive fd capacity, .ok received⟩) { net with queue := rest }
  | connected {i : ι} {fd : Descriptor} (addr : Endpoint) :
      Step net (i, ⟨.connect fd addr, .ok ()⟩)
        { net with peers := Function.update net.peers i (some addr) }
  /-- All other calls, and all that fail, leave the datagrams and the peers alone. -/
  | other {turn : ι × Exchange} (h : Concerns receiver turn = false) : Step net turn net

/-- A network while its sockets talk. -/
abbrev Follows : Network ι → List (ι × Exchange) → Network ι → Prop :=
  Evolves (Step leads receiver) Drift

end Steps

/-- The talk of one of several sockets that take turns. -/
def ownTalk (i : ι) (turns : List (ι × Exchange)) : Talk :=
  turns.filterMap fun turn => if turn.1 = i then some turn.2 else none

theorem ownTalk_cons_self (i : ι) (e : Exchange) (turns : List (ι × Exchange)) :
    ownTalk i ((i, e) :: turns) = e :: ownTalk i turns := by
  simp [ownTalk]

theorem ownTalk_cons_ne {i j : ι} (h : j ≠ i) (e : Exchange) (turns : List (ι × Exchange)) :
    ownTalk i ((j, e) :: turns) = ownTalk i turns := by
  simp [ownTalk, h]

/-! ### Senders -/

section Senders

variable {i j : ι} {e : Exchange}

/-- A turn changes the peer of its own socket at most. -/
theorem Step.peers_eq (h : Step leads receiver net (j, e) net') :
    net'.peers = Function.update net.peers j (e.peerAfter (net.peers j)) := by
  cases h with
  | connected addr => rfl
  | other hnot => rw [(of_not_concerns hnot _).2.1, Function.update_eq_self]
  | _ => exact (Function.update_eq_self _ net.peers).symm

/-- What is taken in a turn comes from the socket whose turn it is. -/
theorem Step.taken_eq (h : Step leads receiver net (j, e) net') :
    ∃ new, net'.taken = net.taken ++ new ∧ (∀ m ∈ new, m.sender = j) ∧
      new.map Message.toPosted = (e.posted? (net.peers j)).toList := by
  cases h with
  | @queued _ _ _ _ _ m hm _ =>
    exact ⟨[m], rfl, by simp [hm.sender_eq], by rw [hm.posted_eq]; rfl⟩
  | @lost _ _ _ _ _ m hm _ =>
    exact ⟨[m], rfl, by simp [hm.sender_eq], by rw [hm.posted_eq]; rfl⟩
  | @elsewhere _ _ _ _ _ _ m hm _ =>
    exact ⟨[m], rfl, by simp [hm.sender_eq], by rw [hm.posted_eq]; rfl⟩
  | fetched _ _ _ => exact ⟨[], by simp, by simp, rfl⟩
  | connected _ => exact ⟨[], by simp, by simp, rfl⟩
  | other hnot => exact ⟨[], by simp, by simp, by rw [(of_not_concerns hnot _).1]; rfl⟩

/-- The datagrams of one sender, in order. -/
def sentBy (net : Network ι) (i : ι) : List Posted :=
  (net.taken.filter fun m => m.sender = i).map Message.toPosted

theorem Step.sentBy_self (h : Step leads receiver net (j, e) net') :
    net'.sentBy j = net.sentBy j ++ (e.posted? (net.peers j)).toList := by
  obtain ⟨new, htaken, howned, hposted⟩ := h.taken_eq
  have hnew : new.filter (fun m => m.sender = j) = new :=
    List.filter_eq_self.2 fun m hm => by simpa using howned m hm
  rw [sentBy, htaken, List.filter_append, List.map_append, hnew, hposted, sentBy]

theorem Step.sentBy_ne (hne : j ≠ i) (h : Step leads receiver net (j, e) net') :
    net'.sentBy i = net.sentBy i := by
  obtain ⟨new, htaken, howned, -⟩ := h.taken_eq
  have hnew : new.filter (fun m => m.sender = i) = [] :=
    List.filter_eq_nil_iff.2 fun m hm => by simpa [howned m hm] using hne
  rw [sentBy, htaken, List.filter_append, hnew, List.append_nil, sentBy]

end Senders

/-- **The kernel has taken from every socket what was sent in its talk**, in order. -/
theorem sentBy_eq {turns : List (ι × Exchange)} (h : Follows leads receiver net turns net')
    (i : ι) : net'.sentBy i = net.sentBy i ++ (ownTalk i turns).posted (net.peers i) := by
  induction h with
  | done net => simp [ownTalk, Talk.posted]
  | drift hdrift _ ih =>
    -- what gets lost later has been taken all the same
    cases hdrift
    exact ih
  | @event net mid net' turn turns hstep _ ih =>
    obtain ⟨j, e⟩ := turn
    by_cases hj : j = i
    · subst hj
      rw [ih, hstep.sentBy_self, hstep.peers_eq, Function.update_self, ownTalk_cons_self,
        Talk.posted, List.append_assoc]
    · rw [ih, hstep.sentBy_ne hj, hstep.peers_eq, Function.update_of_ne (Ne.symm hj),
        ownTalk_cons_ne hj]

/-- All that was sent to the receiver was sent by somebody. -/
theorem sum_sentBy [Fintype ι] (net : Network ι) (leads : Endpoint → Bool) :
    ∑ i, (net.sentBy i).countP (Posted.reaches leads) = (net.sentTo leads).length := by
  have hsum (sent : List (Message ι)) : ∑ i, ((sent.filter fun m => m.sender = i).map
      Message.toPosted).countP (Posted.reaches leads) =
        (sent.filter fun m => m.reaches leads).length := by
    induction sent with
    | nil => simp
    | cons m sent ih =>
      -- a datagram counts for its sender, and for nobody else
      have hcons (i : ι) : (((m :: sent).filter fun m => m.sender = i).map
          Message.toPosted).countP (Posted.reaches leads) =
          ((sent.filter fun m => m.sender = i).map Message.toPosted).countP
            (Posted.reaches leads) +
              if m.sender = i then (if m.reaches leads then 1 else 0) else 0 := by
        by_cases hi : m.sender = i
        · simp [hi, List.countP_cons]
        · simp [hi]
      simp only [hcons, Finset.sum_add_distrib, ih, Finset.sum_ite_eq, Finset.mem_univ, if_true]
      by_cases hreaches : m.reaches leads = true
      · simp [hreaches]
      · simp [hreaches]
  exact hsum net.taken

/-! ### The receiver -/

/-- A turn moves what it says, and leaves a network in balance. -/
theorem Step.balanced {j : ι} {e : Exchange} (h : Step leads receiver net (j, e) net')
    {arrived : List (Message ι)} (hnet : Balanced (net.sentTo leads) arrived net.queue net.lost) :
    ∃ new, List.Forall₂ Gets (if j = receiver then e.fetched?.toList else []) new ∧
      Balanced (net'.sentTo leads) (arrived ++ new) net'.queue net'.lost := by
  cases h with
  | @queued _ _ _ _ _ m hm hreaches =>
    refine ⟨[], by simp [Exchange.fetched?], ?_⟩
    rw [List.append_nil, sentTo, sentTo_snoc net hreaches]
    exact hnet.enqueue m
  | @lost _ _ _ _ _ m hm hreaches =>
    refine ⟨[], by simp [Exchange.fetched?], ?_⟩
    rw [List.append_nil, sentTo, sentTo_snoc net hreaches]
    exact hnet.drop m
  | @elsewhere _ _ _ _ _ _ m hm hreaches =>
    refine ⟨[], by simp [Exchange.fetched?], ?_⟩
    simpa [sentTo, hreaches] using hnet
  | @fetched _ _ received m rest hqueue hgets =>
    rw [hqueue] at hnet
    exact ⟨[m], by simpa [Exchange.fetched?] using hgets, hnet.fetch⟩
  | connected addr =>
    refine ⟨[], by simp [Exchange.fetched?], ?_⟩
    rw [List.append_nil]
    exact hnet
  | other hnot =>
    refine ⟨[], ?_, by simpa using hnet⟩
    by_cases hj : j = receiver
    · simp [(of_not_concerns hnot none).2.2 hj]
    · simp [hj]

/-- **What the receiver gets is in order**, and nothing is unaccounted for. -/
theorem balanced {turns : List (ι × Exchange)} (h : Follows leads receiver net turns net')
    {arrived : List (Message ι)} (hnet : Balanced (net.sentTo leads) arrived net.queue net.lost) :
    ∃ new, List.Forall₂ Gets (ownTalk receiver turns).fetched new ∧
      Balanced (net'.sentTo leads) (arrived ++ new) net'.queue net'.lost := by
  induction h generalizing arrived with
  | done net => exact ⟨[], .nil, by simpa using hnet⟩
  | drift hdrift _ ih =>
    cases hdrift with
    | loses hqueue =>
      rw [hqueue] at hnet
      exact ih hnet.lose
  | @event net mid net' turn turns hstep _ ih =>
    obtain ⟨j, e⟩ := turn
    obtain ⟨new, hgets, hmid⟩ := hstep.balanced hnet
    obtain ⟨more, hmore, hnet'⟩ := ih hmid
    rw [List.append_assoc] at hnet'
    refine ⟨new ++ more, ?_, hnet'⟩
    by_cases hj : j = receiver
    · subst hj
      rw [if_pos rfl] at hgets
      rw [ownTalk_cons_self, Talk.fetched_cons]
      exact List.rel_append hgets hmore
    · -- the turns of the others hand nothing over to the receiver
      rw [if_neg hj] at hgets
      obtain rfl := List.forall₂_nil_left_iff.1 hgets
      rwa [ownTalk_cons_ne hj]

end Network

end ProfiledSocket
