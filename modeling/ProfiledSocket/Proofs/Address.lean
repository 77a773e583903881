/-
Whose address a socket reports.

The kernel is asked which address a descriptor has when that address may have changed, and the
socket keeps what it was told.  An open socket never reports an address that was told of another
descriptor: whatever gives up the descriptor of a stream forgets the address as well.  A datagram
socket that is closed does not forget it, so that it goes on reporting an address that it no longer
has.

* `Talk.EndsTelling` — a talk that ends with the address of a descriptor;
* `Addressed` — kinds of sockets with an address of their own, and what they learn of it;
* `ToldAddress` — a history in which the latest address that was told belongs to the present
  descriptor;
* `Updates` — what an operation does to the address of a socket;
* **`run_knowsAddress`** — operations that do nothing else keep the address right;
* **`Stream.carryOut_updates`**, **`Datagram.carryOut_updates`** — those of streams and of datagram
  sockets do nothing else;
* **`addresses_told`** — the addresses of all sockets, and what closing does to them.

Design notes: the kernel may hand out a descriptor again that was closed, so that its number does
not say which socket an address belongs to.  What counts is that no socket was made and none was
closed since the address was told.
-/
import ProfiledSocket.Proofs.Datagram.Faithful
import ProfiledSocket.Proofs.Stream.Coherent

namespace ProfiledSocket

variable {σ : Type} [Kernel σ]

open Act

/-! ### What the kernel tells -/

/-- A talk that ends with the question which address a descriptor has.  There may be no answer. -/
def Talk.EndsTelling (talk : Talk) (fd : Descriptor) (answer : Option Endpoint) : Prop :=
  ∃ (before : Talk) (reply : Reply (.localAddress fd)),
    talk = before ++ [⟨.localAddress fd, reply⟩] ∧ answer = reply.toOption.join

namespace Talk.EndsTelling

variable {talk : Talk} {fd fd' : Descriptor} {answer answer' : Option Endpoint}

theorem append_left (h : talk.EndsTelling fd answer) (before : Talk) :
    EndsTelling (before ++ talk) fd answer := by
  obtain ⟨middle, reply, rfl, hanswer⟩ := h
  exact ⟨before ++ middle, reply, (List.append_assoc _ _ _).symm, hanswer⟩

/-- A talk has one end. -/
theorem unique (h : talk.EndsTelling fd answer) (h' : talk.EndsTelling fd' answer') :
    answer = answer' := by
  obtain ⟨before, reply, rfl, rfl⟩ := h
  obtain ⟨before', reply', heq, rfl⟩ := h'
  obtain ⟨-, hlast⟩ := List.append_inj' heq rfl
  cases hlast
  rfl

theorem ne_nil (h : talk.EndsTelling fd answer) : talk ≠ [] := by
  obtain ⟨before, reply, rfl, -⟩ := h
  simp

end Talk.EndsTelling

section Telling

variable (fd : Descriptor) (addr : Endpoint)

theorem localEndpoint_tells :
    (localEndpoint fd : Act σ _).Ensures fun talk answer => talk.EndsTelling fd answer :=
  .mono (localEndpoint_talks fd) fun _ _ ⟨reply, htalk, hanswer⟩ => ⟨[], reply, htalk, hanswer⟩

/-- What is known of a descriptor that was bound is what the kernel tells, or else what it was asked
for. -/
def TellsBound (talk : Talk) (bound : Except SocketError Endpoint) : Prop :=
  ∀ own, bound = .ok own → ∃ answer, talk.EndsTelling fd answer ∧ own = answer.getD addr

theorem TellsBound.learnt {fd : Descriptor} {addr own : Endpoint} {talk : Talk}
    (h : TellsBound fd addr talk (.ok own)) {ip : String} {port : UInt16}
    (hread : Endpoint.read ip port = .ok addr) : ∃ answer, talk.EndsTelling fd answer ∧
      some own = answer.or (Endpoint.read ip port).toOption := by
  obtain ⟨answer, hends, rfl⟩ := h own rfl
  refine ⟨answer, hends, ?_⟩
  rw [hread]
  cases answer <;> rfl

theorem bindDescriptor_tells :
    (bindDescriptor fd addr : Act σ _).Ensures (TellsBound fd addr) := by
  refine .bind (.ask fun reply => ?_)
  cases reply with
  | error e => exact .pure nofun
  | ok _ =>
    refine .bind (.mono (localEndpoint_tells fd) fun talk answer htells => .pure ?_)
    rw [List.append_nil]
    rintro own ⟨⟩
    exact ⟨answer, htells.append_left _, rfl⟩

theorem Stream.bindReusable_tells :
    (Stream.bindReusable fd addr : Act σ _).Ensures (TellsBound fd addr) := by
  refine .bind (.ask fun reply => ?_)
  cases reply with
  | error e => exact .pure nofun
  | ok _ =>
    refine .bind (.mono (bindDescriptor_tells fd addr) fun talk bound htells => ?_)
    cases bound with
    | error e => exact .pure nofun
    | ok own =>
      refine .bind (.note (.pure ?_))
      simp only [List.append_nil]
      rintro own ⟨⟩
      obtain ⟨answer, hends, hown⟩ := htells own rfl
      exact ⟨answer, hends.append_left _, hown⟩

theorem Datagram.bindTo_tells :
    (Datagram.bindTo fd addr : Act σ _).Ensures (TellsBound fd addr) := by
  refine .bind (.mono (bindDescriptor_tells fd addr) fun talk bound htells => ?_)
  cases bound with
  | error e => exact .pure nofun
  | ok own =>
    refine .bind (.note (.pure ?_))
    simpa using htells

theorem Datagram.connectDescriptor_tells :
    (Datagram.connectDescriptor fd addr : Act σ _).Ensures fun talk connected =>
      ∀ own, connected = .ok own → talk.EndsTelling fd own := by
  refine .bind (.ask fun reply => ?_)
  cases reply with
  | error e => exact .pure nofun
  | ok _ =>
    refine .bind (.mono (localEndpoint_tells fd) fun talk own htells => .bind (.note (.pure ?_)))
    simp only [List.append_nil]
    rintro own ⟨⟩
    exact htells.append_left _

theorem Stream.attempt_tells (timeout : Timeout) (always : Bool) :
    (Stream.attempt fd addr timeout always : Act σ _).Ensures fun talk connected =>
      ∀ own, connected = .ok own → talk.EndsTelling fd own := by
  have hestablish : (establish fd addr timeout : Act σ _).Makes (Call.Uses fd) :=
    establish_makes fd addr timeout rfl (fun _ => rfl) rfl
  refine .bind (.note (.bind (.mono hestablish fun before outcome _ => ?_)))
  refine .bind (.mono (leaveNonblocking_ensures fd always outcome) fun middle left _ => ?_)
  cases left with
  | error e => exact .bind (.note (.pure nofun))
  | ok _ =>
    refine .bind (.mono (localEndpoint_tells fd) fun talk own htells => .bind (.note (.pure ?_)))
    simp only [List.append_nil, List.nil_append]
    rintro own ⟨⟩
    exact (htells.append_left middle).append_left before

theorem Stream.connectTo_tells (s : Stream) (timeout : Timeout) :
    (s.connectTo fd addr timeout : Act σ _).Ensures fun talk out =>
      out.1 = .ok () → talk.EndsTelling fd out.2.localAddress := by
  refine .bind (.mono (enterNonblocking_ensures fd _) fun before entered _ => ?_)
  cases entered with
  | error e => exact .pure nofun
  | ok _ =>
    refine .bind (.mono (attempt_tells fd addr timeout _) fun talk connected htells => .pure ?_)
    rw [List.append_nil]
    cases connected with
    | error e => exact nofun
    | ok own => exact fun _ => (htells own rfl).append_left before

end Telling

/-- Connecting a stream again ends with the address of the descriptor that it has then. -/
theorem Stream.reconnect_tells {s : Stream} {addr : Endpoint} (hremote : s.remote = some addr)
    (hstate : s.state ≠ .connected) (timeout : Timeout) :
    (s.reconnect timeout : Act σ _).Ensures fun talk out => out.1 = .ok () →
      ∃ fd, out.2.descriptor = some fd ∧ talk.EndsTelling fd out.2.localAddress := by
  have hanew : (s.released.connectAnew addr timeout : Act σ _).Ensures fun talk out =>
      out.1 = .ok () → ∃ fd, out.2.descriptor = some fd ∧
        talk.EndsTelling fd out.2.localAddress := by
    refine .bind (.mono (openSocket_ensures .stream _) fun before opened _ => ?_)
    cases opened with
    | error e => exact .pure nofun
    | ok fd =>
      refine .mono (Ensures.and_result (connectTo_tells fd addr _ timeout)
        (R := fun out => out.2.descriptor = some fd)
        fun w => (connectTo_connecting _ fd addr timeout w).descriptor_eq) fun talk out h => ?_
      exact fun hok => ⟨fd, h.2, (h.1 hok).append_left before⟩
  simp only [reconnect, hremote, if_neg hstate]
  refine .bind (.note (.bind (.mono (release_makes s.descriptor) fun before _ _ => ?_)))
  refine .bind (.mono hanew fun talk out h => .pure ?_)
  intro hok
  obtain ⟨result, s'⟩ := out
  cases result with
  | error e => cases hok
  | ok _ =>
    obtain ⟨fd, hfd, htells⟩ := h rfl
    exact ⟨fd, hfd, by simpa using htells.append_left before⟩

/-! ### What sockets know -/

/-- A kind of socket with an address of its own. -/
class Addressed (S : Type) [Operated S] where
  held : S → Option Descriptor
  known : S → Option Endpoint
  /-- The address that an operation with such a result lets the socket know, if it ends with this
  answer of the kernel. -/
  learnt? : (op : Operated.Operation S) → Operated.Result op → (answer : Option Endpoint) →
    Option Endpoint
  /-- Whether an operation with such a result has closed the socket. -/
  closes : (op : Operated.Operation S) → Operated.Result op → Bool

instance : Addressed Stream where
  held s := s.descriptor
  known s := s.localAddress
  learnt?
    | .bind ip port, .ok (), answer => answer.or (Endpoint.read ip port).toOption
    | .connect .., .ok (), answer | .reconnect _, .ok (), answer => answer
    | _, _, _ => none
  closes
    | .close, .ok () => true
    | _, _ => false

instance : Addressed Datagram where
  held d := d.descriptor
  known d := d.localAddress
  learnt?
    | .bind ip port, .ok (), answer => answer.or (Endpoint.read ip port).toOption
    | .connect .., .ok (), answer => answer
    | _, _, _ => none
  closes
    | .close, .ok () => true
    | _, _ => false

section Addressed

variable {S : Type} [Operated S] [Addressed S] {s s' : S} {history : History S} {entry : Entry S}

/-- An operation lets its socket know the address `a` of the descriptor `fd`. -/
def Entry.Tells (entry : Entry S) (fd : Descriptor) (a : Endpoint) : Prop :=
  ∃ answer, entry.talk.EndsTelling fd answer ∧
    Addressed.learnt? entry.op entry.result answer = some a

/-- The latest address that the socket got to know is the address `a` of the descriptor `fd`, and
since then no socket has been made, and this one has not been closed. -/
inductive ToldAddress (fd : Descriptor) (a : Endpoint) : History S → Prop
  | now {entry : Entry S} (h : entry.Tells fd a) (earlier : History S) :
      ToldAddress fd a (entry :: earlier)
  | since {entry : Entry S} {earlier : History S} (hopens : ¬ entry.talk.Opens)
      (hcloses : Addressed.closes entry.op entry.result = false)
      (hnothing : ∀ fd' b, ¬ entry.Tells fd' b) (h : ToldAddress fd a earlier) :
      ToldAddress fd a (entry :: earlier)

/-- An operation tells nothing that its result says nothing about. -/
theorem Entry.not_tells
    (h : ∀ answer, Addressed.learnt? entry.op entry.result answer = none)
    (fd : Descriptor) (a : Endpoint) : ¬ entry.Tells fd a := by
  rintro ⟨answer, -, hlearnt⟩
  rw [h answer] at hlearnt
  cases hlearnt

/-- What an operation does to the address of a socket. -/
inductive Updates (s : S) (entry : Entry S) (s' : S) : Prop
  | kept (hheld : Addressed.held s' = Addressed.held s)
      (hknown : Addressed.known s' = Addressed.known s) (hopens : ¬ entry.talk.Opens)
      (hcloses : Addressed.closes entry.op entry.result = false)
      (hnothing : ∀ fd a, ¬ entry.Tells fd a)
  | told {fd : Descriptor} {a : Endpoint} (hheld : Addressed.held s' = some fd)
      (hknown : Addressed.known s' = some a) (h : entry.Tells fd a)
  /-- There is no descriptor, or no address is known of it. -/
  | unknown (h : Addressed.held s' = none ∨ Addressed.known s' = none)

/-- What the kernel answers is what the socket knows, if it knows anything. -/
theorem Updates.of_answer {fd : Descriptor} {answer : Option Endpoint}
    (hheld : Addressed.held s' = some fd) (htells : entry.talk.EndsTelling fd answer)
    (hknown : Addressed.known s' = Addressed.learnt? entry.op entry.result answer) :
    Updates s entry s' := by
  cases hlearnt : Addressed.learnt? entry.op entry.result answer with
  | none => exact .unknown (.inr (hknown.trans hlearnt))
  | some a => exact .told hheld (hknown.trans hlearnt) ⟨answer, htells, hlearnt⟩

/-- The address of an open socket is the one that was told of its descriptor. -/
def KnowsAddress (history : History S) (s : S) : Prop :=
  ∀ fd a, Addressed.held s = some fd → Addressed.known s = some a → ToldAddress fd a history

theorem KnowsAddress.updates (h : KnowsAddress history s) (hu : Updates s entry s') :
    KnowsAddress (entry :: history) s' := by
  intro fd a hfd ha
  cases hu with
  | kept hheld hknown hopens hcloses hnothing =>
    exact .since hopens hcloses hnothing (h fd a (hheld ▸ hfd) (hknown ▸ ha))
  | told hheld hknown htells =>
    obtain rfl := Option.some.inj (hheld.symm.trans hfd)
    obtain rfl := Option.some.inj (hknown.symm.trans ha)
    exact .now htells history
  | unknown hnone =>
    rcases hnone with hnone | hnone
    · rw [hnone] at hfd
      cases hfd
    · rw [hnone] at ha
      cases ha

/-- **Operations that do nothing else keep the address right**, if new sockets know none. -/
theorem run_knowsAddress (hnew : ∀ s : S, Operated.IsNew s → Addressed.known s = none)
    (hupdates : ∀ {σ : Type} [Kernel σ] (s : S) (op : Operated.Operation S) (w : World σ),
      Updates s (carryOut s op w).1 (carryOut s op w).2)
    (h : Run history s) : KnowsAddress history s := by
  induction h with
  | new h =>
    intro fd a _ ha
    rw [hnew _ h] at ha
    cases ha
  | step _ op w ih => exact ih.updates (hupdates _ op w)

end Addressed

/-! ### Streams -/

namespace Stream

variable {s s' : Stream} {op : Operation} {result : op.Result}

/-- Whether an operation may change the address of a stream. -/
def Operation.Readdresses : Operation → Prop
  | .bind .. | .connect .. | .reconnect _ | .close => True
  | _ => False

theorem Transition.address_eq (ht : Transition s op result s') (hop : ¬ op.Readdresses) :
    s'.descriptor = s.descriptor ∧ s'.localAddress = s.localAddress := by
  cases ht with
  | sent hcase => rw [frame_of_sendCase hcase]; exact ⟨rfl, rfl⟩
  | received hcase => rw [frame_of_receiveCase hcase]; exact ⟨rfl, rfl⟩
  | _ => first | exact ⟨rfl, rfl⟩ | exact absurd trivial hop

theorem bind_tells (s : Stream) (ip : String) (port : UInt16) :
    (s.bind ip port : Act σ _).Ensures fun talk out => out.1 = .ok () →
      ∃ fd answer, out.2.descriptor = some fd ∧ talk.EndsTelling fd answer ∧
        out.2.localAddress = answer.or (Endpoint.read ip port).toOption := by
  rw [bind]
  split
  · exact .pure (by rintro ⟨⟩)
  · rename_i fd addr hcheck
    obtain ⟨hfd, -, -, hread⟩ := checkBind_ok hcheck
    refine .bind (.mono (bindReusable_tells fd addr) fun talk bound htells => .pure ?_)
    rw [List.append_nil]
    cases bound with
    | error e => rintro ⟨⟩
    | ok own =>
      obtain ⟨answer, hends, hlocal⟩ := htells.learnt hread
      exact fun _ => ⟨fd, answer, hfd, hends, hlocal⟩

theorem connect_tells (s : Stream) (ip : String) (port : UInt16) (timeout : Timeout) :
    (s.connect ip port timeout : Act σ _).Ensures fun talk out => out.1 = .ok () →
      ∃ fd, out.2.descriptor = some fd ∧ talk.EndsTelling fd out.2.localAddress := by
  rw [connect]
  split
  · exact .pure (by rintro ⟨⟩)
  · rename_i fd addr hcheck
    refine .mono (Ensures.and_result (connectTo_tells fd addr s timeout)
      (R := fun out => out.2.descriptor = s.descriptor)
      fun w => (connectTo_connecting s fd addr timeout w).descriptor_eq) fun talk out h hok => ?_
    exact ⟨fd, h.2.trans (checkConnect_ok hcheck).1, h.1 hok⟩

section Updates

variable {talk : Talk}

theorem Transition.updates_of_bind {ip : String} {port : UInt16}
    {result : Except SocketError Unit} (ht : Transition s (.bind ip port) result s')
    (hopens : ¬ talk.Opens)
    (htells : result = .ok () → ∃ fd answer, s'.descriptor = some fd ∧
      talk.EndsTelling fd answer ∧ s'.localAddress = answer.or (Endpoint.read ip port).toOption) :
    Updates s ⟨⟨Operation.bind ip port, result⟩, talk⟩ s' := by
  cases ht with
  | bindFailed e => exact .kept rfl rfl hopens rfl (Entry.not_tells fun _ => rfl)
  | bound _ _ own =>
    obtain ⟨fd, answer, hfd, hends, hlocal⟩ := htells rfl
    exact .of_answer hfd hends hlocal

theorem Transition.updates_of_connect {ip : String} {port : UInt16} {timeout : Timeout}
    {result : Except SocketError Unit} (ht : Transition s (.connect ip port timeout) result s')
    (hopens : ¬ talk.Opens)
    (htells : result = .ok () → ∃ fd, s'.descriptor = some fd ∧
      talk.EndsTelling fd s'.localAddress) :
    Updates s ⟨⟨Operation.connect ip port timeout, result⟩, talk⟩ s' := by
  cases ht with
  | connectRefused e => exact .kept rfl rfl hopens rfl (Entry.not_tells fun _ => rfl)
  | connectFailed _ _ _ e => exact .kept rfl rfl hopens rfl (Entry.not_tells fun _ => rfl)
  | connected _ _ _ own =>
    obtain ⟨fd, hfd, hends⟩ := htells rfl
    exact .of_answer hfd hends rfl

/-- A stream that is connected again knows the address of its new descriptor, or none. -/
theorem Reconnecting.updates {addr : Endpoint} {timeout : Timeout}
    {result : Except SocketError Unit} (h : Reconnecting s addr result s')
    (htells : result = .ok () → ∃ fd, s'.descriptor = some fd ∧
      talk.EndsTelling fd s'.localAddress) :
    Updates s ⟨⟨Operation.reconnect timeout, result⟩, talk⟩ s' := by
  cases h with
  | closed e => exact .unknown (.inl rfl)
  | failed e fd => exact .unknown (.inr rfl)
  | connected fd own =>
    obtain ⟨fd', hfd, hends⟩ := htells rfl
    exact .of_answer hfd hends rfl

theorem Transition.updates_of_close {result : Except SocketError Unit}
    (ht : Transition s .close result s') (hopens : ¬ talk.Opens) :
    Updates s ⟨⟨Operation.close, result⟩, talk⟩ s' := by
  cases ht with
  | closeRefused _ e => exact .kept rfl rfl hopens rfl (Entry.not_tells fun _ => rfl)
  | closed => exact .unknown (.inl rfl)

variable (s) (w : World σ)

theorem carryOut_reconnect_updates (timeout : Timeout) :
    Updates s (carryOut s (Operation.reconnect timeout) w).1
      (carryOut s (Operation.reconnect timeout) w).2 := by
  have ht := carryOut_transition s (.reconnect timeout) w
  rcases ht.of_reconnect with ⟨hnothing, hs⟩ | ⟨addr, hremote, hstate, hre⟩
  · -- the kernel was not asked for anything, and least of all for an address
    have hsilent := carryOut_ensures s (Operation.reconnect timeout)
      (reconnect_makes hnothing timeout).silent w
    refine .kept (by rw [hs]) (by rw [hs]) ?_ rfl fun fd a htells => ?_
    · rw [hsilent]
      exact Talk.not_opens (by simp)
    · obtain ⟨answer, hends, -⟩ := htells
      exact hends.ne_nil hsilent
  · exact hre.updates (carryOut_ensures s (Operation.reconnect timeout)
      (reconnect_tells hremote hstate timeout) w)

/-- **What operations do to the address of a stream.** -/
theorem carryOut_updates (s : Stream) (op : Operation) (w : World σ) :
    Updates s (carryOut s op w).1 (carryOut s op w).2 := by
  have ht := carryOut_transition s op w
  have hopens (hop : ∀ timeout, op ≠ .reconnect timeout) : ¬ (carryOut s op w).1.talk.Opens :=
    Talk.not_opens (carryOut_ensures s op (perform_makes s hop) w)
  cases op with
  | bind ip port =>
    exact ht.updates_of_bind (hopens nofun)
      (carryOut_ensures s (Operation.bind ip port) (s.bind_tells ip port) w)
  | connect ip port timeout =>
    exact ht.updates_of_connect (hopens nofun)
      (carryOut_ensures s (Operation.connect ip port timeout) (s.connect_tells ip port timeout) w)
  | reconnect timeout => exact carryOut_reconnect_updates s w timeout
  | close => exact ht.updates_of_close (hopens nofun)
  | _ =>
    obtain ⟨hfd, hlocal⟩ := ht.address_eq id
    exact .kept hfd hlocal (hopens nofun) rfl (Entry.not_tells fun _ => rfl)

end Updates

/-- A stream without a descriptor knows no address. -/
theorem Transition.localAddress_eq_none (ht : Transition s op result s')
    (h : s.descriptor = none → s.localAddress = none) (hclosed : s'.descriptor = none) :
    s'.localAddress = none := by
  cases ht with
  | bound hopen _ _ => rw [hclosed] at hopen; cases hopen
  | connected hopen _ _ _ => rw [hclosed] at hopen; cases hopen
  | reconnected _ _ hre =>
    cases hre with
    | closed e => rfl
    | failed e fd => rfl
    | connected fd own => cases hclosed
  | sent hcase =>
    rw [frame_of_sendCase hcase] at hclosed ⊢
    exact h hclosed
  | received hcase =>
    rw [frame_of_receiveCase hcase] at hclosed ⊢
    exact h hclosed
  | closed => rfl
  | _ => exact h hclosed

theorem isNew_known (s : Stream) (h : Operated.IsNew s) : Addressed.known s = none := by
  obtain ⟨σ, _, w, profile, hnew⟩ := h
  obtain ⟨fd, rfl⟩ := eq_ofDescriptor_of_new hnew
  rfl

theorem run_localAddress_eq_none {history : History Stream} (h : Run history s) :
    s.descriptor = none → s.localAddress = none := by
  induction h with
  | new h => exact fun _ => isNew_known _ h
  | step _ op w ih => exact (carryOut_transition _ op w).localAddress_eq_none ih

end Stream

/-! ### Datagram sockets -/

namespace Datagram

variable {d d' : Datagram} {op : Operation} {result : op.Result}

/-- Whether an operation may change the address of a datagram socket. -/
def Operation.Readdresses : Operation → Prop
  | .bind .. | .connect .. | .close => True
  | _ => False

theorem Transition.address_eq (ht : Transition d op result d') (hop : ¬ op.Readdresses) :
    d'.descriptor = d.descriptor ∧ d'.localAddress = d.localAddress := by
  cases ht with
  | sent hcase => rw [frame_of_sendCase hcase]; exact ⟨rfl, rfl⟩
  | sentTo hcase => rw [frame_of_sendCase hcase]; exact ⟨rfl, rfl⟩
  | received hcase => rw [frame_of_receiveCase hcase]; exact ⟨rfl, rfl⟩
  | undelivered hcase => rw [frame_of_receiveCase hcase]; exact ⟨rfl, rfl⟩
  | delivered hcase _ => rw [clockRead, frame_of_receiveCase hcase]; exact ⟨rfl, rfl⟩
  | _ => first | exact ⟨rfl, rfl⟩ | exact absurd trivial hop

theorem bind_tells (d : Datagram) (ip : String) (port : UInt16) :
    (d.bind ip port : Act σ _).Ensures fun talk out => out.1 = .ok () →
      ∃ fd answer, out.2.descriptor = some fd ∧ talk.EndsTelling fd answer ∧
        out.2.localAddress = answer.or (Endpoint.read ip port).toOption := by
  rw [Datagram.bind]
  split
  · exact .pure (by rintro ⟨⟩)
  · rename_i fd addr hcheck
    obtain ⟨hfd, -, hread⟩ := checkBind_ok hcheck
    refine .bind (.mono (bindTo_tells fd addr) fun talk bound htells => .pure ?_)
    rw [List.append_nil]
    cases bound with
    | error e => rintro ⟨⟩
    | ok own =>
      obtain ⟨answer, hends, hlocal⟩ := htells.learnt hread
      exact fun _ => ⟨fd, answer, hfd, hends, hlocal⟩

theorem connect_tells (d : Datagram) (ip : String) (port : UInt16) :
    (d.connect ip port : Act σ _).Ensures fun talk out => out.1 = .ok () →
      ∃ fd answer, out.2.descriptor = some fd ∧ talk.EndsTelling fd answer ∧
        out.2.localAddress = answer.or d.localAddress := by
  rw [connect]
  split
  · exact .pure (by rintro ⟨⟩)
  · rename_i fd addr hcheck
    refine .bind (.mono (connectDescriptor_tells fd addr) fun talk connected htells => .pure ?_)
    rw [List.append_nil]
    cases connected with
    | error e => rintro ⟨⟩
    | ok own => exact fun _ => ⟨fd, own, (checkConnect_ok hcheck).1, htells own rfl, rfl⟩

section Updates

variable {talk : Talk}

theorem Transition.updates_of_bind {ip : String} {port : UInt16}
    {result : Except SocketError Unit} (ht : Transition d (.bind ip port) result d')
    (hopens : ¬ talk.Opens)
    (htells : result = .ok () → ∃ fd answer, d'.descriptor = some fd ∧
      talk.EndsTelling fd answer ∧ d'.localAddress = answer.or (Endpoint.read ip port).toOption) :
    Updates d ⟨⟨Operation.bind ip port, result⟩, talk⟩ d' := by
  cases ht with
  | bindFailed e => exact .kept rfl rfl hopens rfl (Entry.not_tells fun _ => rfl)
  | bound _ own =>
    obtain ⟨fd, answer, hfd, hends, hlocal⟩ := htells rfl
    exact .of_answer hfd hends hlocal

/-- A socket that gets a default peer keeps the address that it knows, if the kernel does not tell
the one that it has now. -/
theorem Transition.updates_of_connect {ip : String} {port : UInt16}
    {result : Except SocketError Unit} (ht : Transition d (.connect ip port) result d')
    (hopens : ¬ talk.Opens)
    (htells : result = .ok () → ∃ fd answer, d'.descriptor = some fd ∧
      talk.EndsTelling fd answer ∧ d'.localAddress = answer.or d.localAddress) :
    Updates d ⟨⟨Operation.connect ip port, result⟩, talk⟩ d' := by
  cases ht with
  | connectFailed e => exact .kept rfl rfl hopens rfl (Entry.not_tells fun _ => rfl)
  | connected _ _ own =>
    obtain ⟨fd, answer, hfd, hends, hlocal⟩ := htells rfl
    cases answer with
    | none =>
      refine .kept rfl hlocal hopens rfl fun fd' a htold => ?_
      obtain ⟨answer', hends', hlearnt⟩ := htold
      obtain rfl := hends.unique hends'
      cases hlearnt
    | some a => exact .told hfd hlocal ⟨_, hends, rfl⟩

theorem Transition.updates_of_close {result : Except SocketError Unit}
    (ht : Transition d .close result d') (hopens : ¬ talk.Opens) :
    Updates d ⟨⟨Operation.close, result⟩, talk⟩ d' := by
  cases ht with
  | closeRefused _ e => exact .kept rfl rfl hopens rfl (Entry.not_tells fun _ => rfl)
  | closed => exact .unknown (.inl rfl)

/-- **What operations do to the address of a datagram socket.** -/
theorem carryOut_updates (d : Datagram) (op : Operation) (w : World σ) :
    Updates d (carryOut d op w).1 (carryOut d op w).2 := by
  have ht := d.carryOut_transition w op
  have hopens := Talk.not_opens (carryOut_ensures d op (d.perform_makes
    (fun _ _ hcall => hcall.uses.plain) (fun _ _ => trivial) (fun _ => trivial) op) w)
  cases op with
  | bind ip port =>
    exact ht.updates_of_bind hopens
      (carryOut_ensures d (Operation.bind ip port) (d.bind_tells ip port) w)
  | connect ip port =>
    exact ht.updates_of_connect hopens
      (carryOut_ensures d (Operation.connect ip port) (d.connect_tells ip port) w)
  | close => exact ht.updates_of_close hopens
  | _ =>
    obtain ⟨hfd, hlocal⟩ := ht.address_eq id
    exact .kept hfd hlocal hopens rfl (Entry.not_tells fun _ => rfl)

end Updates

theorem isNew_known (d : Datagram) (h : Operated.IsNew d) : Addressed.known d = none := by
  obtain ⟨σ, _, w, profile, clock, hnew⟩ := h
  obtain ⟨fd, rfl⟩ := eq_ofDescriptor_of_new hnew
  rfl

/-- A socket that is closed afterwards has kept its address. -/
theorem Transition.localAddress_eq (ht : Transition d op result d')
    (hclosed : d'.descriptor = none) : d'.localAddress = d.localAddress := by
  cases ht with
  | bound hopen _ => rw [hclosed] at hopen; cases hopen
  | connected hopen _ _ => rw [hclosed] at hopen; cases hopen
  | sent hcase => rw [frame_of_sendCase hcase]
  | sentTo hcase => rw [frame_of_sendCase hcase]
  | received hcase => rw [frame_of_receiveCase hcase]
  | undelivered hcase => rw [frame_of_receiveCase hcase]
  | delivered hcase _ => rw [clockRead, frame_of_receiveCase hcase]
  | _ => rfl

/-- The address of a datagram socket was told of its descriptor, even if that is gone. -/
theorem run_told {history : History Datagram} (h : Run history d) {a : Endpoint}
    (ha : d.localAddress = some a) :
    ∃ fd earlier, earlier <:+ history ∧ ToldAddress fd a earlier := by
  induction h with
  | new h =>
    have hnone := isNew_known _ h
    rw [show Addressed.known _ = some a from ha] at hnone
    cases hnone
  | @step σ _ history d hrun op w ih =>
    cases hfd : (carryOut d op w).2.descriptor with
    | some fd =>
      have hknows := run_knowsAddress isNew_known carryOut_updates (hrun.step op w)
      exact ⟨fd, _, List.suffix_rfl, hknows fd a hfd ha⟩
    | none =>
      rw [(d.carryOut_transition w op).localAddress_eq hfd] at ha
      obtain ⟨fd, earlier, hsuffix, htold⟩ := ih ha
      exact ⟨fd, earlier, hsuffix.trans (List.suffix_cons _ _), htold⟩

theorem close_released (d : Datagram) (w : World σ) :
    (d.close w).1.2.descriptor = none ∧ (d.close w).1.2.localAddress = d.localAddress := by
  cases hfd : d.descriptor with
  | none =>
    simp only [close, hfd]
    exact ⟨hfd, rfl⟩
  | some fd =>
    simp only [close, hfd]
    exact ⟨rfl, rfl⟩

end Datagram

/-! ### All sockets -/

/-- **Addresses are told of the descriptor that a socket has.**  A stream that reports an address
has a descriptor, and the address is the latest that was told of that descriptor, by a bind or a
connect or a reconnect that succeeded, and since when the descriptor has not been given up.  The
same holds of datagram sockets as long as they are open; but they go on reporting the address when
they are closed. -/
theorem addresses_told :
    (∀ (history : History Stream) (s : Stream), Run history s →
      ∀ a, s.localAddress = some a → ∃ fd, s.descriptor = some fd ∧ ToldAddress fd a history) ∧
    ∀ (history : History Datagram) (d : Datagram), Run history d →
      ∀ a, d.localAddress = some a →
        (∀ fd, d.descriptor = some fd → ToldAddress fd a history) ∧
        (d.descriptor = none → ∃ fd earlier, earlier <:+ history ∧ ToldAddress fd a earlier) ∧
        ∀ w : World σ, (d.close w).1.2.descriptor = none ∧
          (d.close w).1.2.localAddress = some a := by
  refine ⟨fun history s hrun a ha => ?_, fun history d hrun a ha => ⟨fun fd hfd => ?_,
    fun _ => Datagram.run_told hrun ha, fun w => ?_⟩⟩
  · have hopen : s.descriptor ≠ none := fun hclosed => by
      rw [Stream.run_localAddress_eq_none hrun hclosed] at ha
      cases ha
    obtain ⟨fd, hfd⟩ := Option.ne_none_iff_exists'.1 hopen
    exact ⟨fd, hfd, run_knowsAddress Stream.isNew_known Stream.carryOut_updates hrun fd a hfd ha⟩
  · exact run_knowsAddress Datagram.isNew_known Datagram.carryOut_updates hrun fd a hfd ha
  · rw [← ha]
    exact d.close_released w

/-- A stream and a datagram socket that were bound: what they report was told of their
descriptors. -/
theorem addresses_told_bound :
    let w := World.granting false []
    let own : Endpoint := ⟨⟨127, 0, 0, 1⟩, 40001⟩
    let s := carryOut (Stream.ofDescriptor ⟨3⟩ .conservative)
      (Stream.Operation.bind "127.0.0.1" 0) w
    let d := carryOut (Datagram.ofDescriptor ⟨3⟩ .conservative .system)
      (Datagram.Operation.bind "127.0.0.1" 0) w
    (Run [s.1] s.2 ∧ s.2.localAddress = some own ∧ ToldAddress ⟨3⟩ own [s.1]) ∧
      Run [d.1] d.2 ∧ d.2.localAddress = some own ∧ ToldAddress ⟨3⟩ own [d.1] := by
  intro w own s d
  have hs : Run [s.1] s.2 := by
    have hnew : Run [] (Stream.ofDescriptor ⟨3⟩ .conservative) :=
      .new ⟨Granting, inferInstance, w, .conservative, rfl⟩
    exact hnew.step (Stream.Operation.bind "127.0.0.1" 0) w
  have hd : Run [d.1] d.2 := by
    have hnew : Run [] (Datagram.ofDescriptor ⟨3⟩ .conservative .system) :=
      .new ⟨Granting, inferInstance, w, .conservative, .system, rfl⟩
    exact hnew.step (Datagram.Operation.bind "127.0.0.1" 0) w
  obtain ⟨hstreams, hdatagrams⟩ := addresses_told (σ := Granting)
  obtain ⟨fd, hfd, htold⟩ := hstreams [s.1] s.2 hs own rfl
  obtain rfl : ⟨3⟩ = fd := Option.some.inj hfd
  obtain ⟨hopen, -, -⟩ := hdatagrams [d.1] d.2 hd own rfl
  exact ⟨⟨hs, rfl, htold⟩, hd, rfl, hopen ⟨3⟩ rfl⟩

/-- A datagram socket that was bound and then closed has no descriptor, and yet it reports an
address. -/
theorem closed_reports_address :
    ∃ (history : History Datagram) (d : Datagram), Run history d ∧ d.descriptor = none ∧
      d.localAddress = some ⟨⟨127, 0, 0, 1⟩, 40001⟩ := by
  have hnew : Run [] (Datagram.ofDescriptor ⟨3⟩ .conservative .system) :=
    .new ⟨Granting, inferInstance, World.granting false [], .conservative, .system, rfl⟩
  have hbound := hnew.step (Datagram.Operation.bind "127.0.0.1" 0) (World.granting false [])
  exact ⟨_, _, hbound.step Datagram.Operation.close (World.granting false []), rfl, rfl⟩

end ProfiledSocket
