/-
Which calls the operations make.

An operation on an open socket works on the descriptor of the socket alone: it neither opens nor
closes anything.  The exceptions are those that are there for it: accepting a connection, making
a connection anew, and closing.

* `Call.Uses` — a call that works on a descriptor and leaves it open;
* `Call.Quiet`, `Call.Ordinary` — one that leaves its connection attempts alone, too, and one that
  also leaves its mode alone;
* `Act.Makes` — all calls of a computation are of a kind, whatever the kernel answers;
* **`Channel.send_makes`, `Channel.receive_makes`** — transfers use the descriptor they hold;
* **`Stream.attempt_makes`** — so do connection attempts, however they end;
* **`openSocket_ensures`** — a new descriptor comes from a call that made a new socket;
* `createSocket` — how sockets of either sort come about;
* **`Stream.reconnect_ensures`** — a stream that is connected again has a new descriptor, too.
-/
import ProfiledSocket.Datagram
import ProfiledSocket.Proofs.Talk

namespace ProfiledSocket

variable {σ α β : Type} [Kernel σ]

/-- A call that works on a descriptor and neither opens nor closes one. -/
def Call.Uses (fd : Descriptor) : Call → Prop
  | .socket _ | .close _ | .accept _ => False
  | .bind fd' _ | .listen fd' _ | .connect fd' _ | .localAddress fd' | .takeError fd'
  | .setOption fd' _ _ | .setKeepaliveTiming fd' _ | .setNonblocking fd' _ | .send fd' _ _ _
  | .receive fd' _ | .poll fd' _ _ => fd' = fd

/-- A call that works on a descriptor and has nothing to do with how it gets connected. -/
def Call.Quiet (fd : Descriptor) : Call → Prop
  | .bind fd' _ | .listen fd' _ | .localAddress fd' | .setOption fd' _ _
  | .setKeepaliveTiming fd' _ | .setNonblocking fd' _ | .send fd' _ _ _ | .receive fd' _
  | .poll fd' _ _ => fd' = fd
  | .socket _ | .close _ | .accept _ | .connect .. | .takeError _ => False

/-- A quiet call that does not change whether the descriptor waits, either. -/
def Call.Ordinary (fd : Descriptor) : Call → Prop
  | .bind fd' _ | .listen fd' _ | .localAddress fd' | .setOption fd' _ _
  | .setKeepaliveTiming fd' _ | .send fd' _ _ _ | .receive fd' _ | .poll fd' _ _ => fd' = fd
  | .socket _ | .close _ | .accept _ | .connect .. | .takeError _ | .setNonblocking .. => False

theorem Call.Ordinary.quiet {fd : Descriptor} {call : Call} (h : call.Ordinary fd) :
    call.Quiet fd := by
  cases call <;> first | exact h | exact h.elim

theorem Call.Quiet.uses {fd : Descriptor} {call : Call} (h : call.Quiet fd) : call.Uses fd := by
  cases call <;> first | exact h | exact h.elim

theorem Call.Ordinary.uses {fd : Descriptor} {call : Call} (h : call.Ordinary fd) :
    call.Uses fd := h.quiet.uses

/-- Whether a new socket was made in a talk. -/
def Talk.Opens (talk : Talk) : Prop :=
  ∃ transport fd, (⟨.socket transport, .ok fd⟩ : Exchange) ∈ talk

theorem Talk.Opens.append_left {talk : Talk} (h : Talk.Opens talk) (more : Talk) :
    Talk.Opens (talk ++ more) := by
  obtain ⟨transport, fd, hmem⟩ := h
  exact ⟨transport, fd, List.mem_append_left _ hmem⟩

theorem Talk.Opens.append_right {talk : Talk} (h : Talk.Opens talk) (before : Talk) :
    Talk.Opens (before ++ talk) := by
  obtain ⟨transport, fd, hmem⟩ := h
  exact ⟨transport, fd, List.mem_append_right _ hmem⟩

/-- A call that makes no new socket. -/
def Call.Plain : Call → Prop
  | .socket _ => False
  | _ => True

theorem Call.Uses.plain {fd : Descriptor} {call : Call} (h : call.Uses fd) : call.Plain := by
  cases call with
  | socket _ => exact h
  | _ => trivial

theorem Talk.not_opens {talk : Talk} (h : ∀ e ∈ talk, e.call.Plain) : ¬ Talk.Opens talk := by
  rintro ⟨transport, fd, hmem⟩
  exact h _ hmem

/-! ### Calls of a kind -/

namespace Act

/-- Whatever the kernel answers, `x` makes calls of kind `P` only. -/
def Makes (x : Act σ α) (P : Call → Prop) : Prop := x.Ensures fun talk _ => ∀ e ∈ talk, P e.call

namespace Makes

variable {P P' : Call → Prop}

theorem mono {x : Act σ α} (h : x.Makes P) (hP : ∀ call, P call → P' call) : x.Makes P' :=
  Ensures.mono h fun _ _ hall e he => hP _ (hall e he)

theorem pure (a : α) : (Pure.pure a : Act σ α).Makes P := Ensures.pure (by simp)

theorem note (level : Level) (message : String) :
    (ProfiledSocket.note level message : Act σ Unit).Makes P := Ensures.note (by simp)

theorem noteDebug (message : Option String) :
    (ProfiledSocket.noteDebug message : Act σ Unit).Makes P := by
  cases message with
  | none => exact pure ()
  | some message => exact note _ _

theorem ask {call : Call} (h : P call) : (ProfiledSocket.ask call : Act σ _).Makes P :=
  Ensures.ask fun _ => by simpa using h

theorem askUninterrupted {call : Call} (h : P call) :
    (ProfiledSocket.askUninterrupted call : Act σ _).Makes P := by
  refine Ensures.askUninterrupted fun n reply _ e he => ?_
  rcases List.mem_append.1 he with hmem | hmem
  · rw [List.eq_of_mem_replicate hmem]
    exact h
  · rw [List.mem_singleton.1 hmem]
    exact h

theorem waitReady {fd : Descriptor} {interest : Interest} {millis : Int32}
    (h : ∀ left, P (.poll fd (some interest) left)) :
    (ProfiledSocket.waitReady fd interest millis : Act σ _).Makes P := by
  refine Ensures.waitReady fun talk _ hpolled e he => ?_
  obtain ⟨left, hleft⟩ := hpolled.polls e he
  rw [hleft]
  exact h left

theorem bind {x : Act σ α} {f : α → Act σ β} (h : x.Makes P) (hf : ∀ a, (f a).Makes P) :
    (x >>= f).Makes P := by
  refine Ensures.bind (Ensures.mono h fun talk a htalk => ?_)
  refine Ensures.mono (hf a) fun more _ hmore e he => ?_
  rcases List.mem_append.1 he with hmem | hmem
  · exact htalk e hmem
  · exact hmore e hmem

/-- Where there are no calls, there is no talk. -/
theorem silent {x : Act σ α} (h : x.Makes fun _ => False) : x.Ensures fun talk _ => talk = [] :=
  Ensures.mono h fun _ _ hnone => List.eq_nil_iff_forall_not_mem.2 hnone

end Makes

end Act

open Act

/-! ### Checks in several parts -/

section Checks

variable {ε : Type} {x : Except ε α} {f : α → Except ε β}

/-- A check that passes has passed its first part. -/
theorem Except.ok_of_bind {b : β} (h : x >>= f = .ok b) : ∃ a, x = .ok a ∧ f a = .ok b := by
  cases x with
  | error e => cases h
  | ok a => exact ⟨a, rfl, h⟩

/-- A check that fails has failed in its first part or in the rest. -/
theorem Except.error_of_bind {e : ε} (h : x >>= f = .error e) :
    x = .error e ∨ ∃ a, x = .ok a ∧ f a = .error e := by
  cases x with
  | error e' =>
    cases h
    exact .inl rfl
  | ok a => exact .inr ⟨a, rfl, h⟩

end Checks

/-! ### Talks over one descriptor -/

section OneDescriptor

variable (fd : Descriptor)

theorem localEndpoint_makes : (localEndpoint fd : Act σ _).Makes (Call.Ordinary fd) := by
  refine .bind (.ask rfl) fun reply => ?_
  cases reply <;> exact .pure _

/-- The address of a descriptor is what the kernel tells, if it tells anything. -/
theorem localEndpoint_talks : (localEndpoint fd : Act σ _).Ensures fun talk own =>
    ∃ reply : Reply (.localAddress fd), talk = [⟨.localAddress fd, reply⟩] ∧
      own = reply.toOption.join := by
  refine .bind (.ask fun reply => ?_)
  cases reply with
  | ok own => exact .pure ⟨.ok own, rfl, rfl⟩
  | error e => exact .pure ⟨.error e, rfl, rfl⟩

theorem bindDescriptor_makes (addr : Endpoint) :
    (bindDescriptor fd addr : Act σ _).Makes (Call.Ordinary fd) := by
  refine .bind (.ask rfl) fun reply => ?_
  cases reply with
  | error e => exact .pure _
  | ok _ => exact .bind (localEndpoint_makes fd) fun own => .pure _

theorem establish_makes {P : Call → Prop} (addr : Endpoint) (timeout : Timeout)
    (hconnect : P (.connect fd addr)) (hpoll : ∀ left, P (.poll fd (some .write) left))
    (htake : P (.takeError fd)) : (establish fd addr timeout : Act σ _).Makes P := by
  refine .bind (.ask hconnect) fun reply => ?_
  cases reply with
  | ok _ => exact .pure _
  | error e =>
    dsimp only
    split
    · -- the attempt goes on in the background: wait for it, then ask how it went
      refine .bind (.waitReady hpoll) fun readiness => ?_
      match readiness with
      | .ok .timedOut => exact .pure _
      | .error e => exact .pure _
      | .ok .ready =>
        refine .bind (.ask htake) fun pending => ?_
        match pending with
        | .ok none => exact .pure _
        | .ok (some e) => exact .pure _
        | .error e => exact .pure _
    · exact .pure _

theorem makeNonblocking_ensures : (makeNonblocking fd : Act σ _).Ensures fun talk result =>
    (∀ e ∈ talk, e.call = .setNonblocking fd true) ∧
      (result = .ok () ∨ ∃ e, result = .error (.socketOption "O_NONBLOCK" e)) := by
  refine .bind (.ask fun reply => ?_)
  cases reply with
  | ok _ => exact .pure ⟨by simp, .inl rfl⟩
  | error e => exact .pure ⟨by simp, .inr ⟨_, rfl⟩⟩

theorem makeNonblocking_makes : (makeNonblocking fd : Act σ _).Makes (Call.Uses fd) :=
  (makeNonblocking_ensures fd).mono fun _ _ h e he => by rw [h.1 e he]; rfl

/-- Nothing but the change of the mode can go wrong. -/
theorem enterNonblocking_ensures (always : Bool) :
    (enterNonblocking fd always : Act σ _).Ensures fun talk result =>
      (∀ e ∈ talk, e.call = .setNonblocking fd true) ∧
        (result = .ok () ∨ ∃ e, result = .error (.socketOption "O_NONBLOCK" e)) := by
  rw [enterNonblocking]
  split
  · exact .pure ⟨by simp, .inl rfl⟩
  · exact makeNonblocking_ensures fd

/-- What has gone wrong before is not hidden by what goes wrong now. -/
theorem leaveNonblocking_ensures (always : Bool) (outcome : Except SocketError Unit) :
    (leaveNonblocking fd always outcome : Act σ _).Ensures fun talk result =>
      (∀ e ∈ talk, e.call = .setNonblocking fd false) ∧ (result = outcome ∨
        outcome = .ok () ∧ ∃ e, result = .error (.socketOption "O_NONBLOCK" e)) := by
  rw [leaveNonblocking]
  split
  · exact .pure ⟨by simp, .inl rfl⟩
  · refine .bind (.ask fun reply => ?_)
    match reply, outcome with
    | .ok (), _ => exact .pure ⟨by simp, .inl rfl⟩
    | .error e, .ok () => exact .pure ⟨by simp, .inr ⟨rfl, _, rfl⟩⟩
    | .error e, .error cause => exact .bind (.note (.pure ⟨by simp, .inl rfl⟩))

/-- A connection attempt works on its descriptor, however it ends. -/
theorem Stream.attempt_makes (addr : Endpoint) (timeout : Timeout) (always : Bool) :
    (Stream.attempt fd addr timeout always : Act σ _).Makes (Call.Uses fd) := by
  have hestablish : (establish fd addr timeout : Act σ _).Makes (Call.Uses fd) :=
    establish_makes fd addr timeout rfl (fun _ => rfl) rfl
  refine .bind (.note _ _) fun _ => .bind hestablish fun outcome => ?_
  have hleave : (leaveNonblocking fd always outcome : Act σ _).Makes (Call.Uses fd) :=
    (leaveNonblocking_ensures fd always outcome).mono fun _ _ h e he => by rw [h.1 e he]; rfl
  refine .bind hleave fun left => ?_
  cases left with
  | error e => exact .bind (.note _ _) fun _ => .pure _
  | ok _ =>
    refine .bind ((localEndpoint_makes fd).mono fun _ => Call.Ordinary.uses) fun own => ?_
    exact .bind (.note _ _) fun _ => .pure _

theorem Stream.connectTo_makes (s : Stream) (addr : Endpoint) (timeout : Timeout) :
    (s.connectTo fd addr timeout : Act σ _).Makes (Call.Uses fd) := by
  have henter : (enterNonblocking fd s.profile.wantsNonblocking : Act σ _).Makes (Call.Uses fd) :=
    (enterNonblocking_ensures fd _).mono fun _ _ h e he => by rw [h.1 e he]; rfl
  refine .bind henter fun entered => ?_
  cases entered with
  | error e => exact .pure _
  | ok _ => exact .bind (Stream.attempt_makes fd addr timeout _) fun outcome => .pure _

theorem Stream.bindReusable_makes (addr : Endpoint) :
    (Stream.bindReusable fd addr : Act σ _).Makes (Call.Ordinary fd) := by
  refine .bind (.ask rfl) fun reply => ?_
  cases reply with
  | error e => exact .pure _
  | ok _ =>
    refine .bind (bindDescriptor_makes fd addr) fun bound => ?_
    cases bound with
    | error e => exact .pure _
    | ok own => exact .bind (.note _ _) fun _ => .pure _

theorem Stream.listenOn_makes (own : Option Endpoint) (backlog : Int32) :
    (Stream.listenOn fd own backlog : Act σ _).Makes (Call.Ordinary fd) := by
  refine .bind (.ask rfl) fun reply => ?_
  cases reply with
  | error e => exact .pure _
  | ok _ => exact .bind (.note _ _) fun _ => .pure _

theorem Stream.awaitConnection_makes (timeout : Timeout) :
    (Stream.awaitConnection fd timeout : Act σ _).Makes (Call.Ordinary fd) := by
  rw [Stream.awaitConnection]
  split
  · exact .pure _
  · refine .bind (.waitReady fun left => rfl) fun readiness => ?_
    match readiness with
    | .ok .ready => exact .pure _
    | .ok .timedOut => exact .pure _
    | .error e => exact .pure _

theorem peerHungUp_makes : (peerHungUp fd : Act σ _).Makes (Call.Ordinary fd) := by
  refine .bind (.ask rfl) fun reply => ?_
  match reply with
  | .ok none => exact .pure _
  | .ok (some revents) => exact .pure _
  | .error e => exact .pure _

theorem Channel.isAlive_makes : (Channel.isAlive fd : Act σ _).Makes (Call.Ordinary fd) := by
  refine .bind (peerHungUp_makes fd) fun hungUp => ?_
  match hungUp with
  | .ok true => exact .pure _
  | .error e => exact .pure _
  | .ok false =>
    refine .bind (.ask rfl) fun reply => ?_
    cases reply <;> exact .pure _

theorem Stream.probe_makes (remote : Option Endpoint) :
    (Stream.probe fd remote : Act σ _).Makes (Call.Ordinary fd) := by
  refine .bind (Channel.isAlive_makes fd) fun alive => ?_
  cases alive with
  | true => exact .pure _
  | false => exact .bind (.note _ _) fun _ => .pure _

theorem Channel.awaitReadable_makes (timeout : Timeout) :
    (Channel.awaitReadable fd timeout : Act σ _).Makes (Call.Ordinary fd) := by
  rw [Channel.awaitReadable]
  split
  · exact .pure _
  · refine .bind (.waitReady fun left => rfl) fun readiness => ?_
    match readiness with
    | .ok .ready => exact .pure _
    | .ok .timedOut => exact .pure _
    | .error e => exact .pure _

end OneDescriptor

/-! ### Transfers -/

section Transfers

variable {C : Type} [Channel C] {c : C} {fd : Descriptor}

theorem Channel.descriptor_of_held (h : Channel.held c = .ok fd) :
    Channel.descriptor c = some fd := by
  rw [Channel.held] at h
  split at h
  · rename_i fd' hfd
    rw [hfd, Except.ok.inj h]
  · cases h

theorem Channel.descriptor_of_openDescriptor {length : Nat}
    (h : Channel.openDescriptor c length = .ok fd) : Channel.descriptor c = some fd := by
  rw [Channel.openDescriptor] at h
  split at h
  · cases h
  · exact Channel.descriptor_of_held h

theorem Channel.descriptor_of_readyDescriptor {direction : Direction} {length : Nat}
    (h : Channel.readyDescriptor c direction length = .ok fd) :
    Channel.descriptor c = some fd := by
  rw [Channel.readyDescriptor] at h
  split at h
  · cases h
  · rename_i fd' hopen
    split at h
    · cases h
    · rw [Channel.descriptor_of_openDescriptor hopen, Except.ok.inj h]

/-- A channel that is ready for nothing says so itself, or there is something wrong with what it
was asked for. -/
theorem Channel.readyDescriptor_ne {e : SocketError} (he : ∀ text, e ≠ .invalidParam text)
    {direction : Direction} (hobstacle : Channel.obstacle? c direction ≠ some e) (length : Nat) :
    Channel.readyDescriptor c direction length ≠ .error e := by
  intro h
  rw [Channel.readyDescriptor] at h
  split at h
  · rename_i e' hopen
    obtain rfl : e' = e := Except.error.inj h
    rw [Channel.openDescriptor] at hopen
    split at hopen
    · exact he _ (Except.error.inj hopen).symm
    · rw [Channel.held] at hopen
      split at hopen
      · cases hopen
      · exact he _ (Except.error.inj hopen).symm
  · split at h
    · rename_i e' hsome
      obtain rfl : e' = e := Except.error.inj h
      exact hobstacle hsome
    · cases h

theorem Channel.descriptor_of_checkSend {data : List UInt8} {destination : Option Endpoint}
    (h : Channel.checkSend c data destination = .ok fd) : Channel.descriptor c = some fd := by
  rw [Channel.checkSend] at h
  split at h
  · exact Channel.descriptor_of_openDescriptor h
  · exact Channel.descriptor_of_readyDescriptor h

theorem Channel.noteSend_makes (c : C) (fd : Descriptor) (length : Nat)
    (reply : Except Errno Nat) {P : Call → Prop} :
    (Channel.noteSend c fd length reply : Act σ Unit).Makes P := by
  unfold Channel.noteSend
  split
  · exact .note _ _
  · split
    · exact .pure _
    · exact .noteDebug _

theorem Channel.noteReceive_makes {α : Type} (c : C) (fd : Descriptor)
    (result : Except IoError (Nat × α)) {P : Call → Prop} :
    (Channel.noteReceive c fd result : Act σ Unit).Makes P := by
  unfold Channel.noteReceive
  split
  · split
    · exact .bind (.note _ _) fun _ => .noteDebug _
    · exact .note _ _
  · split
    · exact .pure _
    · exact .noteDebug _

/-- A send uses the descriptor that the channel holds. -/
theorem Channel.send_makes (data : List UInt8) (destination : Option Endpoint)
    {P : Call → Prop}
    (h : ∀ fd, Channel.descriptor c = some fd → ∀ call, call.Ordinary fd → P call) :
    (Channel.send c data destination : Act σ _).Makes P := by
  rw [Channel.send]
  split
  · exact .pure _
  · rename_i fd hcheck
    have hP := h fd (Channel.descriptor_of_checkSend hcheck)
    exact .bind (.askUninterrupted (hP _ rfl)) fun reply =>
      .bind (Channel.noteSend_makes c fd _ reply) fun _ => .pure _

/-- A receive uses the descriptor that the channel holds. -/
theorem Channel.receive_makes {α : Type} (capacity : Nat) (timeout : Timeout)
    (view : Received capacity → Except IoError α)
    {P : Call → Prop}
    (h : ∀ fd, Channel.descriptor c = some fd → ∀ call, call.Ordinary fd → P call) :
    (Channel.receive c capacity timeout view : Act σ _).Makes P := by
  rw [Channel.receive]
  split
  · exact .pure _
  · rename_i fd hcheck
    have hP := h fd (Channel.descriptor_of_readyDescriptor hcheck)
    refine .bind ((Channel.awaitReadable_makes fd timeout).mono hP) fun waited => ?_
    cases waited with
    | error e => exact .pure _
    | ok _ =>
      exact .bind (.askUninterrupted (hP _ rfl)) fun reply =>
        .bind (Channel.noteReceive_makes c fd _) fun _ => .pure _

end Transfers

/-! ### Options, clocks, closing and accepted connections -/

/-- The check hands on the descriptor that it was given. -/
theorem held_of_checkRawOption {held : Except SocketError Descriptor} {value : List UInt8}
    {fd : Descriptor} (h : checkRawOption held value = .ok fd) : held = .ok fd := by
  obtain ⟨fd', hheld, h⟩ := Except.ok_of_bind h
  by_cases hempty : value.isEmpty
  · rw [if_pos hempty] at h
    cases h
  · rw [if_neg hempty] at h
    by_cases hlong : value.length ≥ UInt32.size
    · rw [if_pos hlong] at h
      cases h
    · rw [if_neg hlong] at h
      cases h
      exact hheld

theorem setRawOption_makes {held : Except SocketError Descriptor} (option : OptionName)
    (value : List UInt8) {P : Call → Prop}
    (h : ∀ fd, held = .ok fd → ∀ call, call.Ordinary fd → P call) :
    (setRawOption held option value : Act σ _).Makes P := by
  rw [setRawOption]
  split
  · exact .pure _
  · rename_i fd hcheck
    refine .bind (.ask (h fd (held_of_checkRawOption hcheck) _ rfl)) fun reply => ?_
    cases reply <;> exact .pure _

/-- The clock of a socket is read without a call. -/
theorem Datagram.readClock_ensures (d : Datagram) :
    (d.readClock : Act σ _).Ensures fun talk out => talk = [] ∧ out.2 = d.clockRead := by
  intro w
  rw [d.readClock_world w]
  exact ⟨[], .silent _, rfl, d.readClock_socket w⟩

theorem Datagram.readClock_makes (d : Datagram) {P : Call → Prop} :
    (d.readClock : Act σ _).Makes P :=
  d.readClock_ensures.mono fun talk _ h => by simp [h.1]

theorem Datagram.bindTo_makes (fd : Descriptor) (addr : Endpoint) :
    (Datagram.bindTo fd addr : Act σ _).Makes (Call.Ordinary fd) := by
  refine .bind (bindDescriptor_makes fd addr) fun bound => ?_
  cases bound with
  | error e => exact .pure _
  | ok own => exact .bind (.note _ _) fun _ => .pure _

/-- Giving a descriptor a default peer connects it at once. -/
theorem Datagram.connectDescriptor_makes (fd : Descriptor) (addr : Endpoint) :
    (Datagram.connectDescriptor fd addr : Act σ _).Makes fun call =>
      call = .connect fd addr ∨ call.Ordinary fd := by
  refine .bind (.ask (.inl rfl)) fun reply => ?_
  cases reply with
  | error e => exact .pure _
  | ok _ =>
    refine .bind ((localEndpoint_makes fd).mono fun _ => .inr) fun own => ?_
    exact .bind (.note _ _) fun _ => .pure _

theorem closeDescriptor_asks (fd : Descriptor) {P : Call → Prop} (h : P (.close fd)) :
    (closeDescriptor fd : Act σ Unit).Makes P :=
  .bind (.ask h) fun _ => .pure _

theorem closeDescriptor_makes (fd : Descriptor) :
    (closeDescriptor fd : Act σ Unit).Makes Call.Plain :=
  closeDescriptor_asks fd trivial

theorem Stream.release_makes (held : Option Descriptor) :
    (Stream.release held : Act σ Unit).Makes Call.Plain := by
  cases held with
  | none => exact .pure _
  | some fd => exact .bind (.note _ _) fun _ => closeDescriptor_makes fd

/-- The mode of an accepted descriptor. -/
theorem Stream.adoptMode_makes (fd : Descriptor) (nonblocking : Bool) :
    (if nonblocking then makeNonblocking fd else pure (.ok ()) : Act σ _).Makes
      (Call.Uses fd) := by
  split
  · exact makeNonblocking_makes fd
  · exact .pure _

theorem Stream.adopt_makes (fd : Descriptor) (address : Option Endpoint) (nonblocking : Bool) :
    (Stream.adopt fd address nonblocking : Act σ _).Makes Call.Plain := by
  refine .bind ((adoptMode_makes fd nonblocking).mono fun _ => Call.Uses.plain) fun mode => ?_
  cases mode with
  | error e => exact .bind (closeDescriptor_makes fd) fun _ => .pure _
  | ok _ =>
    cases address with
    | none => exact .bind (closeDescriptor_makes fd) fun _ => .pure _
    | some address => exact .bind (.note _ _) fun _ => .pure _

/-- Accepting a connection makes no new socket: the kernel has made it. -/
theorem Stream.accept_makes (s : Stream) (timeout : Timeout) :
    (s.accept timeout : Act σ _).Makes Call.Plain := by
  rw [Stream.accept]
  split
  · exact .pure _
  · rename_i fd _
    refine .bind ((Stream.awaitConnection_makes fd timeout).mono fun _ h => h.uses.plain)
      fun waited => ?_
    cases waited with
    | error e => exact .pure _
    | ok _ =>
      refine .bind (.ask trivial) fun reply => ?_
      match reply with
      | .ok (accepted, address) => exact Stream.adopt_makes _ _ _
      | .error e =>
        dsimp only
        split <;> exact .pure _

/-! ### New descriptors -/

theorem Setting.call_quiet (fd : Descriptor) (setting : Setting) : (setting.call fd).Quiet fd := by
  cases setting <;> rfl

theorem applySettings_makes (fd : Descriptor) (settings : List Setting) :
    (applySettings fd settings : Act σ _).Makes (Call.Quiet fd) := by
  induction settings with
  | nil => exact .pure _
  | cons setting rest ih =>
    refine .bind (.ask (setting.call_quiet fd)) fun reply => ?_
    cases reply with
    | ok _ => exact ih
    | error e =>
      dsimp only
      split
      · exact .pure _
      · exact .bind (.note _ _) fun _ => ih

/-- A descriptor is the outcome of a call that made a new socket. -/
theorem openSocket_ensures (transport : Transport) (settings : List Setting) :
    (openSocket transport settings : Act σ _).Ensures fun talk result =>
      ∀ fd, result = .ok fd → talk.Opens := by
  refine .bind (.ask fun reply => ?_)
  cases reply with
  | error e => exact .pure (by simp)
  | ok fd =>
    have hopens : Talk.Opens [⟨.socket transport, .ok fd⟩] := ⟨transport, fd, by simp⟩
    -- the rest of the talk matters no more
    refine .bind (.mono (applySettings_makes fd settings) fun talk outcome _ => ?_)
    cases outcome with
    | error e => exact .bind (.mono (closeDescriptor_makes fd) fun _ _ _ => .pure (by simp))
    | ok _ => exact .bind (.note (.pure fun _ _ => hopens.append_left _))

/-! ### New sockets -/

section Creation

variable {S : Type} (transport : Transport) (settings : List Setting) (profile : Profile)
  (report : String) (make : Descriptor → S)

/-- Makes a socket of a new descriptor, if the profile is valid. -/
def createSocket : Act σ (Except SocketError S) :=
  match profile.fault? with
  | some fault => do
    note .warn ("rejecting tuning profile: " ++ fault.message)
    return .error .invalidProfile
  | none => do
    match ← openSocket transport settings with
    | .error e => return .error e
    | .ok fd =>
      note .debug (report ++ fd.text)
      return .ok (make fd)

theorem Stream.new_eq : (Stream.new profile : Act σ _) =
    createSocket .stream profile.streamSettings profile "created stream socket on fd "
      fun fd => Stream.ofDescriptor fd profile := rfl

theorem Datagram.new_eq (clock : Clock) : (Datagram.new profile clock : Act σ _) =
    createSocket .datagram profile.datagramSettings profile "created datagram socket on fd "
      fun fd => Datagram.ofDescriptor fd profile clock := rfl

variable {transport settings profile report make}

/-- A new socket is what is made of its descriptor, and its profile is valid. -/
theorem createSocket_ok {s : S} {w : World σ}
    (h : (createSocket transport settings profile report make w).1 = .ok s) :
    profile.fault? = none ∧ ∃ fd, s = make fd := by
  cases hfault : profile.fault? with
  | some fault => simp [createSocket, hfault] at h
  | none =>
    cases hopened : (openSocket transport settings w).1 with
    | error e => simp [createSocket, hfault, hopened] at h
    | ok fd =>
      simp only [createSocket, hfault, Act.bind_apply, hopened, Act.pure_apply,
        Except.ok.injEq] at h
      exact ⟨rfl, fd, h.symm⟩

end Creation

/-! ### Connecting anew -/

/-- A socket that had no descriptor and now has one made a new socket. -/
theorem Stream.connectAnew_ensures {s : Stream} (h : s.descriptor = none) (addr : Endpoint)
    (timeout : Timeout) : (s.connectAnew addr timeout : Act σ _).Ensures fun talk out =>
      out.2.descriptor.isSome → talk.Opens := by
  refine .bind (.mono (openSocket_ensures .stream s.profile.streamSettings)
    fun talk opened hopen => ?_)
  cases opened with
  | error e => exact .pure (by simp [h])
  | ok fd =>
    refine .mono (Stream.connectTo_makes fd _ addr timeout) fun more out _ _ => ?_
    exact (hopen fd rfl).append_left more

/-- Connecting again makes a new socket, or leaves the stream without a descriptor. -/
theorem Stream.reconnect_ensures {s : Stream} {addr : Endpoint} (hremote : s.remote = some addr)
    (hstate : s.state ≠ .connected) (timeout : Timeout) :
    (s.reconnect timeout : Act σ _).Ensures fun talk out =>
      out.2.descriptor.isSome → talk.Opens := by
  simp only [Stream.reconnect, hremote, if_neg hstate]
  refine .bind (.note (.bind (.mono (Stream.release_makes s.descriptor) fun before _ _ => ?_)))
  refine .bind (.mono (Stream.connectAnew_ensures rfl addr timeout) fun talk out hopen => ?_)
  exact .pure fun hsome => by simpa using (hopen hsome).append_right before

/-- There is no talk if nothing is to be connected again. -/
theorem Stream.reconnect_makes {s : Stream} (h : s.remote = none ∨ s.state = .connected)
    (timeout : Timeout) {P : Call → Prop} : (s.reconnect timeout : Act σ _).Makes P := by
  rw [Stream.reconnect]
  split
  · exact .pure _
  · rename_i addr hremote
    rw [if_pos (h.resolve_left (by simp [hremote]))]
    exact .pure _

end ProfiledSocket
