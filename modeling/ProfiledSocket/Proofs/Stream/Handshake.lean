/-
Who is at the other end of a stream.

A stream writes down the endpoint that it asked to be connected to.  An attempt that it has given
up goes on behind its back, and when it succeeds after all, the next attempt succeeds at once,
whatever endpoint it is an attempt at: then the record is wrong.

* `Stream.Course` — a stream and the links of all descriptors, side by side;
* `Stream.KnowsPeer` — the endpoint on record is the peer;
* **`Stream.connect_peer`**, **`Stream.reconnect_peer`** — who the peer of a successful connect is;
* **`Stream.course_remote`** — the record is right if every connect agrees with what is pending;
* **`Stream.connect_mistakes_peer`** — otherwise it may be wrong.

Design notes: nothing has to be known of other sockets but that they leave the descriptor of the
stream alone.  The stream is never told what is pending; the courses that agree with it are those
of a caller who does not change the mind about where to connect a descriptor.
-/
import ProfiledSocket.Proofs.Link
import ProfiledSocket.Proofs.Stream.Lifecycle

namespace ProfiledSocket

variable {σ : Type} [Kernel σ]

open Act Link

namespace Stream

theorem connectAnew_moves (s : Stream) (fd : Descriptor) (addr : Endpoint) (timeout : Timeout) :
    Moves fd (fun _ => True) (s.connectAnew addr timeout : Act σ _)
      fun out l => out.1 = .ok () → out.2.descriptor = some fd → l.peer? = some addr := by
  refine .bind (openSocket_moves fd _ _) fun opened => ?_
  cases opened with
  | error e => exact .regardless (.pure (by simp))
  | ok fd' =>
    by_cases hfd : fd' = fd
    · subst hfd
      have hmoves : Moves fd' (Expects addr addr)
          (connectTo { s with descriptor := some fd' } fd' addr timeout : Act σ _)
          fun out l => out.1 = .ok () → l.peer? = some addr := connectTo_moves _ timeout
      refine hmoves.mono (fun l hl => ?_) fun _ _ h hok _ => h hok
      rw [hl rfl]
      exact expects_fresh addr
    · -- the stream has another descriptor then
      have hanywhere : Moves fd (fun _ => True)
          (connectTo { s with descriptor := some fd' } fd' addr timeout : Act σ _)
          fun _ _ => True :=
        .regardless (.mono (connectTo_makes fd' _ addr timeout) fun _ _ _ _ => trivial)
      refine (hanywhere.and_result (R := fun out => out.2.descriptor = some fd') fun w =>
        (connectTo_connecting _ fd' addr timeout w).descriptor_eq).mono (fun _ _ => trivial) ?_
      rintro out l ⟨-, hout⟩ - hsome
      rw [hout] at hsome
      exact absurd (Option.some.inj hsome) hfd

/-- The peer of a stream that is connected again is the one that it was connected to before. -/
theorem reconnect_moves {s : Stream} {addr : Endpoint} (hremote : s.remote = some addr)
    (hstate : s.state ≠ .connected) (fd : Descriptor) (timeout : Timeout) :
    Moves fd (fun _ => True) (s.reconnect timeout : Act σ _)
      fun out l => out.1 = .ok () → out.2.descriptor = some fd → l.peer? = some addr := by
  simp only [reconnect, hremote, if_neg hstate]
  refine .bind (.note (fun _ _ _ h => h) _ _) fun _ => ?_
  refine .bind (.regardless (Q := fun _ _ => True)
    (.mono (release_makes s.descriptor) fun _ _ _ _ => trivial)) fun _ => ?_
  refine .bind (connectAnew_moves _ fd addr timeout) fun out => ?_
  obtain ⟨result, s'⟩ := out
  cases result with
  | error e => exact .regardless (.pure (by simp [Except.mapError]))
  | ok _ =>
    exact .pure (((lasting_peer addr).imp _).imp _) fun l hl _ hsome => hl rfl hsome

/-! ### Courses -/

/-- The links of all descriptors. -/
abbrev Links := Descriptor → Link

/-- What may be done in the light of a link: to connect to the endpoint of the pending handshake,
if there is one. -/
def Agrees (l : Link) : Operation → Prop
  | .connect ip port _ => ∀ addr current, Endpoint.read ip port = .ok addr →
      l.pending? = some current → addr = current
  | _ => True

theorem agrees_connect {l : Link} {ip : String} {port : UInt16} {timeout : Timeout}
    {addr : Endpoint} (hread : Endpoint.read ip port = .ok addr) :
    Agrees l (.connect ip port timeout) ↔ l.pending?.getD addr = addr := by
  cases hpending : l.pending? with
  | none => simp [Agrees, hpending]
  | some current =>
    simp only [Agrees, hread, hpending, Except.ok.injEq, Option.some.injEq, Option.getD_some]
    exact ⟨fun h => (h addr current rfl rfl).symm, by rintro rfl _ _ rfl rfl; rfl⟩

/-- A stream and the links of all descriptors, of which the stream has seen nothing but answers.
`Allowed` says which operations may be carried out. -/
inductive Course (Allowed : Link → Operation → Prop) : Links → Stream → Prop
  | new {links : Links} {s : Stream} (h : Operated.IsNew s)
      (hfresh : ∀ fd, s.descriptor = some fd → links fd = .fresh) : Course Allowed links s
  /-- The links change as the talk of the operation tells. -/
  | step {σ : Type} [Kernel σ] {links links' : Links} {s : Stream} (h : Course Allowed links s)
      (op : Operation) (hop : ∀ fd, s.descriptor = some fd → Allowed (links fd) op) (w : World σ)
      (hlinks : ∀ fd, Follows fd (links fd) (carryOut s op w).1.talk (links' fd)) :
      Course Allowed links' (carryOut s op w).2
  /-- Other sockets do what they like with other descriptors. -/
  | pass {links links' : Links} {s : Stream} (h : Course Allowed links s)
      (hlinks : ∀ fd, s.descriptor = some fd → Follows fd (links fd) [] (links' fd)) :
      Course Allowed links' s

/-- A stream that is connected has recorded the peer of its descriptor. -/
def KnowsPeer (links : Links) (s : Stream) : Prop :=
  s.state = .connected → ∃ fd addr, s.descriptor = some fd ∧ s.remote = some addr ∧
    (links fd).peer? = some addr

section Step

variable {links links' : Links} {s s' : Stream} {op : Operation} {w : World σ}

/-- An operation on a stream that is connected either is an ordinary one, or closes the stream, or
does nothing. -/
theorem perform_of_connected (hstate : s.state = .connected) :
    op.Ordinary ∨ op = .close ∨ ∃ result, (s.perform op : Act σ _) = pure (result, s) := by
  cases op with
  | accept timeout =>
    have hcheck : s.checkAccept = .error (.invalidParam "accept requires a listening socket") := by
      simp [checkAccept, hstate]
      rfl
    exact .inr (.inr ⟨_, by simp only [perform, accept, hcheck]; rfl⟩)
  | connect ip port timeout =>
    have hcheck : s.checkConnect ip port = .error .alreadyConnected := by
      simp [checkConnect, hstate]
      rfl
    exact .inr (.inr ⟨_, by simp only [perform, connect, hcheck]; rfl⟩)
  | reconnect timeout =>
    cases hremote : s.remote with
    | none => exact .inr (.inr ⟨_, by simp only [perform, reconnect, hremote]; rfl⟩)
    | some addr =>
      exact .inr (.inr ⟨_, by simp only [perform, reconnect, hremote, if_pos hstate]; rfl⟩)
  | close => exact .inr (.inl rfl)
  | _ => exact .inl trivial

/-- A stream that stays connected keeps its peer. -/
theorem KnowsPeer.stay (h : KnowsPeer links s) (hstate : s.state = .connected)
    (hlinks : ∀ fd, Follows fd (links fd) (carryOut s op w).1.talk (links' fd)) :
    KnowsPeer links' (carryOut s op w).2 := by
  intro hstate'
  obtain ⟨fd, addr, hfd, hremote, hpeer⟩ := h hstate
  have hcases : op.Ordinary ∨ op = .close ∨
      ∃ result, (s.perform op : Act (Recorded σ) _) = pure (result, s) :=
    perform_of_connected hstate
  have ht := carryOut_transition s op w
  rcases hcases with hop | rfl | ⟨result, hnothing⟩
  · have hquiet : (s.perform op : Act (Recorded σ) _).Makes (Call.Quiet fd) := by
      refine ordinary_makes hop fun fd' hfd' call hcall => ?_
      rw [hfd] at hfd'
      rw [Option.some.inj hfd']
      exact hcall.quiet
    have hmoves := carryOut_ensures s op (Moves.of_makes (lasting_peer addr)
      (fun l hl => by simpa using hl) hquiet) w
    obtain ⟨hdescriptor, hremote'⟩ := ht.of_ordinary hop
    exact ⟨fd, addr, hdescriptor.trans hfd, hremote'.trans hremote, hmoves _ _ hpeer (hlinks fd)⟩
  · -- a stream that has been closed is not connected
    generalize (carryOut s Operation.close w).2 = s' at ht hstate'
    generalize (carryOut s Operation.close w).1.result = result at ht
    cases ht with
    | closeRefused hnone e => simp [hfd] at hnone
    | closed => cases hstate'
  · have hsame : (carryOut s op w).1.talk = [] ∧ (carryOut s op w).2 = s := by
      refine carryOut_ensures s op (Q := fun talk out => talk = [] ∧ out.2 = s) ?_ w
      show (s.perform op : Act (Recorded σ) _).Ensures _
      rw [hnothing]
      exact .pure ⟨rfl, rfl⟩
    obtain ⟨htalk, hs'⟩ := hsame
    rw [htalk] at hlinks
    rw [hs']
    exact ⟨fd, addr, hfd, hremote, (hlinks fd).preserves (lasting_peer addr) (by simp) hpeer⟩

/-- A successful connect is a connection to the endpoint of the pending handshake, if there was
one, whatever endpoint was asked for and is on record now. -/
theorem connect_peer {ip : String} {port : UInt16} {timeout : Timeout}
    (hok : (carryOut s (Operation.connect ip port timeout) w).1.result = .ok ())
    (hlinks : ∀ fd, Follows fd (links fd) (carryOut s (Operation.connect ip port timeout) w).1.talk
      (links' fd)) :
    ∃ fd addr, s.descriptor = some fd ∧ Endpoint.read ip port = .ok addr ∧
      (carryOut s (Operation.connect ip port timeout) w).2.descriptor = some fd ∧
      (carryOut s (Operation.connect ip port timeout) w).2.remote = some addr ∧
      (links' fd).peer? = some ((links fd).pending?.getD addr) := by
  have ht := carryOut_transition s (.connect ip port timeout) w
  rw [hok] at ht
  cases hcheck : s.checkConnect ip port with
  | error e =>
    have hresult : (s.connect ip port timeout w.recorded).1.1 = .ok () := hok
    simp only [connect, hcheck] at hresult
    cases hresult
  | ok checked =>
    obtain ⟨fd, addr⟩ := checked
    obtain ⟨hfd, -, -, hread⟩ := checkConnect_ok hcheck
    have hmoves : Moves fd (Expects addr ((links fd).pending?.getD addr))
        (s.perform (.connect ip port timeout) : Act (Recorded σ) _)
        fun out l => out.1 = .ok () → l.peer? = some ((links fd).pending?.getD addr) := by
      simp only [perform, connect, hcheck]
      exact connectTo_moves s timeout
    have hpeer := carryOut_ensures s (Operation.connect ip port timeout) hmoves w _ _
      (expects_getD (links fd) addr) (hlinks fd) hok
    refine ⟨fd, addr, hfd, hread, ?_, ?_, hpeer⟩
    · generalize (carryOut s (Operation.connect ip port timeout) w).2 = s' at ht ⊢
      cases ht with
      | connected _ _ _ _ => exact hfd
    · obtain ⟨-, addr', hread', hremote⟩ := ht.of_connect
      rw [hread] at hread'
      rw [hremote, Except.ok.inj hread']

/-- A successful reconnect is a connection to the endpoint on record. -/
theorem reconnect_peer {timeout : Timeout} (hstate : s.state ≠ .connected)
    (hok : (carryOut s (Operation.reconnect timeout) w).1.result = .ok ())
    (hlinks : ∀ fd, Follows fd (links fd) (carryOut s (Operation.reconnect timeout) w).1.talk
      (links' fd)) :
    ∃ fd addr, (carryOut s (Operation.reconnect timeout) w).2.descriptor = some fd ∧
      (carryOut s (Operation.reconnect timeout) w).2.remote = some addr ∧
      (links' fd).peer? = some addr := by
  have ht := carryOut_transition s (.reconnect timeout) w
  rw [hok] at ht
  have hmoves (fd : Descriptor) {addr : Endpoint} (hremote : s.remote = some addr) :=
    carryOut_ensures s (Operation.reconnect timeout) (reconnect_moves hremote hstate fd timeout) w
      _ _ trivial (hlinks fd) hok
  generalize (carryOut s (Operation.reconnect timeout) w).2 = s' at ht hmoves ⊢
  cases ht with
  | stillConnected hconnected => exact absurd hconnected hstate
  | reconnected hremote _ hre =>
    cases hre with
    | connected fd own => exact ⟨fd, _, rfl, rfl, hmoves fd hremote rfl⟩

/-- A stream that gets connected knows its peer if it has agreed with what was pending. -/
theorem KnowsPeer.enter (hstate : s.state ≠ .connected)
    (hop : ∀ fd, s.descriptor = some fd → Agrees (links fd) op)
    (hlinks : ∀ fd, Follows fd (links fd) (carryOut s op w).1.talk (links' fd)) :
    KnowsPeer links' (carryOut s op w).2 := by
  intro hstate'
  have hedge := (carryOut_transition s op w).edge.resolve_left
    (by rw [hstate']; exact Ne.symm hstate)
  rw [hstate'] at hedge
  rcases hedge.to_connected with ⟨ip, port, timeout, hdeed⟩ | ⟨timeout, hdeed⟩
  · obtain ⟨rfl, hresult⟩ := Deed.mk.inj hdeed
    obtain ⟨fd, addr, hfd, hread, hfd', hremote, hpeer⟩ := connect_peer (eq_of_heq hresult) hlinks
    exact ⟨fd, addr, hfd', hremote, by rw [hpeer, (agrees_connect hread).1 (hop fd hfd)]⟩
  · obtain ⟨rfl, hresult⟩ := Deed.mk.inj hdeed
    exact reconnect_peer hstate (eq_of_heq hresult) hlinks

end Step

/-- A stream that agrees with what is pending whenever it connects knows its peer. -/
theorem course_knowsPeer {links : Links} {s : Stream} (h : Course Agrees links s) :
    KnowsPeer links s := by
  induction h with
  | new hnew _ =>
    obtain ⟨σ, _, w, profile, heq⟩ := hnew
    obtain ⟨fd, rfl⟩ := eq_ofDescriptor_of_new heq
    intro hstate
    cases hstate
  | @step σ _ links links' s _ op hop w hlinks ih =>
    by_cases hstate : s.state = .connected
    · exact ih.stay hstate hlinks
    · exact KnowsPeer.enter hstate hop hlinks
  | pass _ hlinks ih =>
    intro hstate
    obtain ⟨fd, addr, hfd, hremote, hpeer⟩ := ih hstate
    exact ⟨fd, addr, hfd, hremote, (hlinks fd hfd).preserves (lasting_peer addr) (by simp) hpeer⟩

/-- **The endpoint on record is the peer**, in every course in which no connect disagrees with a
handshake that is pending on the descriptor; and a connect that succeeds is recorded rightly only
if it has agreed. -/
theorem course_remote :
    (∀ (links : Links) (s : Stream), Course Agrees links s → KnowsPeer links s) ∧
    ∀ (links links' : Links) (s : Stream) (ip : String) (port : UInt16) (timeout : Timeout)
      (w : World σ), (carryOut s (Operation.connect ip port timeout) w).1.result = .ok () →
      (∀ fd, Follows fd (links fd) (carryOut s (Operation.connect ip port timeout) w).1.talk
        (links' fd)) →
      (KnowsPeer links' (carryOut s (Operation.connect ip port timeout) w).2 ↔
        ∀ fd, s.descriptor = some fd → Agrees (links fd) (.connect ip port timeout)) := by
  refine ⟨fun links s h => course_knowsPeer h, ?_⟩
  intro links links' s ip port timeout w hok hlinks
  obtain ⟨fd, addr, hfd, hread, hfd', hremote, hpeer⟩ := connect_peer hok hlinks
  have hstate' : (carryOut s (Operation.connect ip port timeout) w).2.state = .connected := by
    have ht := carryOut_transition s (.connect ip port timeout) w
    rw [hok] at ht
    exact ht.of_connect.1
  constructor
  · intro hknows fd₁ hfd₁
    obtain ⟨fd₂, addr₂, hfd₂, hremote₂, hpeer₂⟩ := hknows hstate'
    -- all this is about one descriptor and one endpoint
    obtain rfl : fd = fd₁ := Option.some.inj (hfd.symm.trans hfd₁)
    obtain rfl : fd = fd₂ := Option.some.inj (hfd'.symm.trans hfd₂)
    obtain rfl : addr = addr₂ := Option.some.inj (hremote.symm.trans hremote₂)
    exact (agrees_connect hread).2 (Option.some.inj (hpeer.symm.trans hpeer₂))
  · intro hagrees _
    exact ⟨fd, addr, hfd', hremote, by rw [hpeer, (agrees_connect hread).1 (hagrees fd hfd)]⟩

/-! ### A handshake that nobody waits for -/

/-- A kernel far away from everybody: attempts to connect go on in the background, where no poll
sees them end, until the other end is `reached`. -/
structure Remote where
  reached : Bool

instance : Kernel Remote where
  answer k call :=
    (match call with
      | .connect .. => if k.reached then .ok () else .error .inProgress
      | .poll .. => .ok none
      | call => (Kernel.answer (Granting.mk false []) call).1, k)
  now _ := 0
  realtime _ := none
  patience _ := 0
  patience_lt k call h := by
    cases call with
    | connect fd addr => 
      simp only at h
      split at h <;> simp [Errno.inProgress, Errno.interrupted] at h
    | poll fd interest millis => simp at h
    | _ => simp [Kernel.answer] at h

/-- Links when only descriptor 3 has one to speak of. -/
def onlyLink (l : Link) : Links := fun fd => if fd = ⟨3⟩ then l else .fresh

/-- A talk that begins with a call to connect descriptor 3, and settles nothing after that. -/
theorem follows_onlyLink {l l' : Link} {addr : Endpoint} {reply : Reply (.connect ⟨3⟩ addr)}
    {talk : Talk} (hstep : Step ⟨3⟩ l ⟨.connect ⟨3⟩ addr, reply⟩ l')
    (htalk : ∀ e ∈ talk, ∀ fd, Settles fd e = false) (fd : Descriptor) :
    Follows fd (onlyLink l fd) (⟨.connect ⟨3⟩ addr, reply⟩ :: talk) (onlyLink l' fd) := by
  have hrest (l : Link) : Follows fd l talk l := by
    induction talk with
    | nil => exact .done l
    | cons e talk ih =>
      rw [List.forall_mem_cons] at htalk
      exact .event (.other l (htalk.1 fd)) (ih htalk.2)
  rw [onlyLink, onlyLink]
  by_cases hfd : fd = ⟨3⟩
  · subst hfd
    exact .event hstep (hrest l')
  · rw [if_neg hfd, if_neg hfd]
    exact .event (.other _ (by simp [Settles, Ne.symm hfd])) (hrest .fresh)

/-- No wait sees the end of a handshake that has not been reached. -/
theorem establish_remote (fd : Descriptor) (addr : Endpoint) (timeout : Timeout)
    (w : World (Recorded Remote)) (h : w.kernel.kernel = ⟨false⟩) :
    (establish fd addr timeout w).1 = .error .timeout ∧
      (establish fd addr timeout w).2.kernel = ⟨⟨false⟩,
        w.kernel.talk ++ [⟨.connect fd addr, .error .inProgress⟩,
          ⟨.poll fd (some .write) timeout.millis, .ok none⟩]⟩ := by
  obtain ⟨⟨k, talk⟩, log⟩ := w
  obtain rfl : k = ⟨false⟩ := h
  have hask : (ask (.connect fd addr) : Act (Recorded Remote) _) ⟨⟨⟨false⟩, talk⟩, log⟩ =
    (.error .inProgress, ⟨⟨⟨false⟩, talk ++ [⟨.connect fd addr, .error .inProgress⟩]⟩, log⟩) := rfl
  simp only [establish, Act.bind_apply, hask, true_or, if_true, waitReady, clock]
  rw [waitFrom]
  simp [Kernel.answer, note]

/-- So an attempt to connect is given up. -/
theorem connect_remote : carryOut (ofDescriptor ⟨3⟩ .standard)
      (Operation.connect "127.0.0.1" 7 (some (.ofMicros 100000))) (⟨⟨false⟩, []⟩ : World Remote) =
    (⟨⟨Operation.connect "127.0.0.1" 7 (some (.ofMicros 100000)), .error .timeout⟩,
      [⟨.connect ⟨3⟩ ⟨⟨127, 0, 0, 1⟩, 7⟩, .error .inProgress⟩,
        ⟨.poll ⟨3⟩ (some .write) 100, .ok none⟩]⟩, ofDescriptor ⟨3⟩ .standard) := by
  have hcheck : (ofDescriptor ⟨3⟩ .standard).checkConnect "127.0.0.1" 7 =
    .ok (⟨3⟩, ⟨⟨127, 0, 0, 1⟩, 7⟩) := rfl
  have halways : (ofDescriptor ⟨3⟩ .standard).profile.wantsNonblocking = true := rfl
  simp only [carryOut, Operated.perform, perform, connect, hcheck, connectTo, halways,
    enterNonblocking, Act.bind_apply, if_true, attempt, leaveNonblocking, Act.pure_apply]
  generalize hw : (note Level.trace _ (World.recorded (⟨⟨false⟩, []⟩ : World Remote))).2 = w
  have htalk : w.kernel.talk = [] := by rw [← hw]; rfl
  obtain ⟨hresult, hkernel⟩ := establish_remote ⟨3⟩ ⟨⟨127, 0, 0, 1⟩, 7⟩ (some (.ofMicros 100000)) w
    (by rw [← hw]; rfl)
  simp only [hresult, Act.bind_apply, Act.pure_apply, note, hkernel, htalk]
  rfl

/-- A stream that has recorded `addr` as its peer. -/
def connectedTo (addr : Endpoint) : Stream :=
  { ofDescriptor ⟨3⟩ .standard with
    localAddress := some ⟨⟨127, 0, 0, 1⟩, 40001⟩
    remote := some addr
    state := .connected }

/-- An attempt succeeds at once when the other end has been reached, whatever it is an attempt
at. -/
theorem connect_reached {ip : String} {addr : Endpoint} (hread : Endpoint.read ip 7 = .ok addr) :
    carryOut (ofDescriptor ⟨3⟩ .standard) (Operation.connect ip 7 none)
      (⟨⟨true⟩, []⟩ : World Remote) =
    (⟨⟨Operation.connect ip 7 none, .ok ()⟩, [⟨.connect ⟨3⟩ addr, .ok ()⟩,
      ⟨.localAddress ⟨3⟩, .ok (some ⟨⟨127, 0, 0, 1⟩, 40001⟩)⟩]⟩, connectedTo addr) := by
  have hcheck : (ofDescriptor ⟨3⟩ .standard).checkConnect ip 7 = .ok (⟨3⟩, addr) := by
    rw [checkConnect, hread]
    rfl
  simp only [carryOut, Operated.perform, perform, connect, hcheck]
  rfl

theorem follows_reached {ip : String} {addr : Endpoint} (hread : Endpoint.read ip 7 = .ok addr)
    (fd : Descriptor) : Follows fd (onlyLink (.completed ⟨⟨127, 0, 0, 1⟩, 7⟩ false) fd)
      (carryOut (ofDescriptor ⟨3⟩ .standard) (Operation.connect ip 7 none)
        (⟨⟨true⟩, []⟩ : World Remote)).1.talk
      (onlyLink (.completed ⟨⟨127, 0, 0, 1⟩, 7⟩ true) fd) := by
  rw [connect_reached hread]
  exact follows_onlyLink (.noticed _ addr) (by simp [Settles]) fd

/-- A stream gives up an attempt to connect, which succeeds later, and then makes another. -/
theorem course_late {Allowed : Link → Operation → Prop} {ip : String} {addr : Endpoint}
    (hread : Endpoint.read ip 7 = .ok addr)
    (hfirst : Allowed .fresh (.connect "127.0.0.1" 7 (some (.ofMicros 100000))))
    (hsecond : Allowed (.completed ⟨⟨127, 0, 0, 1⟩, 7⟩ false) (.connect ip 7 none)) :
    Course Allowed (onlyLink (.completed ⟨⟨127, 0, 0, 1⟩, 7⟩ true)) (connectedTo addr) := by
  have hnew : Course Allowed (onlyLink .fresh) (ofDescriptor ⟨3⟩ .standard) := by
    refine .new ⟨Granting, inferInstance, World.granting false [], .standard, rfl⟩ ?_
    simp [onlyLink]
  have hrunning : Course Allowed (onlyLink (.running ⟨⟨127, 0, 0, 1⟩, 7⟩))
      (carryOut (ofDescriptor ⟨3⟩ .standard)
        (Operation.connect "127.0.0.1" 7 (some (.ofMicros 100000)))
        (⟨⟨false⟩, []⟩ : World Remote)).2 := by
    refine hnew.step _ (fun fd _ => by simpa [onlyLink] using hfirst) _ fun fd => ?_
    rw [connect_remote]
    exact follows_onlyLink (.started _ (.inl rfl)) (by simp [Settles]) fd
  rw [connect_remote] at hrunning
  have hcompleted : Course Allowed (onlyLink (.completed ⟨⟨127, 0, 0, 1⟩, 7⟩ false))
      (ofDescriptor ⟨3⟩ .standard) := by
    refine .pass hrunning fun fd hfd => ?_
    obtain rfl : fd = ⟨3⟩ := (Option.some.inj hfd).symm
    exact .drift (.completes _) (.done _)
  have hconnected := hcompleted.step (.connect ip 7 none) (fun fd hfd => by
    obtain rfl : fd = ⟨3⟩ := (Option.some.inj hfd).symm
    exact hsecond) (⟨⟨true⟩, []⟩ : World Remote) (follows_reached hread)
  rwa [connect_reached hread] at hconnected

/-- A second attempt at the same endpoint is recorded rightly. -/
theorem course_remote_late :
    Course Agrees (onlyLink (.completed ⟨⟨127, 0, 0, 1⟩, 7⟩ true))
        (connectedTo ⟨⟨127, 0, 0, 1⟩, 7⟩) ∧
      KnowsPeer (onlyLink (.completed ⟨⟨127, 0, 0, 1⟩, 7⟩ true))
        (connectedTo ⟨⟨127, 0, 0, 1⟩, 7⟩) ∧
      (connectedTo ⟨⟨127, 0, 0, 1⟩, 7⟩).state = .connected ∧
      Agrees (.completed ⟨⟨127, 0, 0, 1⟩, 7⟩ false) (.connect "127.0.0.1" 7 none) := by
  have hread : Endpoint.read "127.0.0.1" 7 = .ok ⟨⟨127, 0, 0, 1⟩, 7⟩ := rfl
  have hcourse : Course Agrees (onlyLink (.completed ⟨⟨127, 0, 0, 1⟩, 7⟩ true))
      (connectedTo ⟨⟨127, 0, 0, 1⟩, 7⟩) :=
    course_late hread (by simp [Agrees, pending?]) ((agrees_connect hread).2 rfl)
  obtain ⟨hright, hexactly⟩ := @course_remote Remote _
  have hknows := hright _ _ hcourse
  refine ⟨hcourse, hknows, rfl, ?_⟩
  have hiff := hexactly (onlyLink (.completed ⟨⟨127, 0, 0, 1⟩, 7⟩ false)) _
    (ofDescriptor ⟨3⟩ .standard) "127.0.0.1" 7 none ⟨⟨true⟩, []⟩
    rfl (follows_reached hread)
  rw [connect_reached hread] at hiff
  exact hiff.1 hknows ⟨3⟩ rfl

/-- **A second attempt at another endpoint is not:** the stream has recorded that endpoint, while
it is connected to the first. -/
theorem connect_mistakes_peer : ¬ ∀ (links : Links) (s : Stream),
    Course (fun _ _ => True) links s → KnowsPeer links s := by
  intro h
  have hread : Endpoint.read "127.0.0.2" 7 = .ok ⟨⟨127, 0, 0, 2⟩, 7⟩ := rfl
  obtain ⟨fd, addr, hfd, hremote, hpeer⟩ := h _ _ (course_late hread trivial trivial) rfl
  obtain rfl : fd = ⟨3⟩ := (Option.some.inj hfd).symm
  obtain rfl : addr = ⟨⟨127, 0, 0, 2⟩, 7⟩ := (Option.some.inj hremote).symm
  simp [onlyLink, peer?] at hpeer

end Stream

end ProfiledSocket
