/-
Connecting again is connecting anew.

A stream that is connected again gives up its descriptor and then does what a new stream of the
same profile would do to reach the same endpoint: it asks the kernel for the same, in the same
order, and comes to the same.  Only what was counted and the endpoint itself outlive the old
descriptor; whether the stream was bound or listened makes no difference.

* `Stream.startOver` — a new stream in place of an old one;
* `Stream.carriedOver` — the old stream, after that has been tried;
* `SocketError.OfConnecting` — what can go wrong on the way;
* `Stream.connectTo_mirrors` — what connecting a stream asks depends on its profile only;
* **`Stream.reconnect_mirrors`** — connecting again mirrors starting over;
* **`Stream.reconnect_anew`** — the same for all streams there are, and what becomes of those that
  have nothing to connect again.

Design notes: the two ways differ in what they check and in what they report.  A new stream checks
its profile and reads the address from its text, and neither can fail here: the profile is that of
a stream, and the text is that of an endpoint.
-/
import ProfiledSocket.Proofs.Endpoint
import ProfiledSocket.Proofs.Mirror
import ProfiledSocket.Proofs.Stream.Coherent

namespace ProfiledSocket

variable {σ : Type} [Kernel σ]

open Act

/-! ### What can go wrong -/

/-- An error that getting a descriptor and a connection over it can end with. -/
def SocketError.OfConnecting (e : SocketError) : Prop :=
  e.kind = .socketCreate ∨ e.kind = .socketOption ∨ e.kind = .connect ∨ e.kind = .timeout

/-- If this is an error, it is one of connecting. -/
def FailsConnecting {α : Type} (result : Except SocketError α) : Prop :=
  ∀ e, result = .error e → e.OfConnecting

namespace FailsConnecting

variable {α : Type} {e : SocketError} {source : IoError}

theorem ok (a : α) : FailsConnecting (.ok a) := fun _ h => by cases h

theorem error (h : e.OfConnecting) : FailsConnecting (.error e : Except SocketError α) := by
  rintro _ ⟨⟩
  exact h

theorem socketOption (option : String) :
    FailsConnecting (.error (.socketOption option source) : Except SocketError α) :=
  error (.inr (.inl rfl))

theorem connect (addr : Endpoint) :
    FailsConnecting (.error (.connect addr source) : Except SocketError α) :=
  error (.inr (.inr (.inl rfl)))

theorem timeout : FailsConnecting (.error .timeout : Except SocketError α) :=
  error (.inr (.inr (.inr rfl)))

end FailsConnecting

theorem applySettings_fails (fd : Descriptor) (settings : List Setting) :
    (applySettings fd settings : Act σ _).Ensures fun _ => FailsConnecting := by
  induction settings with
  | nil => exact .pure (.ok _)
  | cons setting rest ih =>
    refine .bind (.ask fun reply => ?_)
    cases reply with
    | ok _ => exact ih
    | error e =>
      dsimp only
      split
      · exact .pure (.socketOption _)
      · exact .bind (.note ih)

theorem openSocket_fails (transport : Transport) (settings : List Setting) :
    (openSocket transport settings : Act σ _).Ensures fun _ => FailsConnecting := by
  refine .bind (.ask fun reply => ?_)
  cases reply with
  | error e => exact .pure (.error (.inl rfl))
  | ok fd =>
    refine .bind (.mono (applySettings_fails fd settings) fun talk outcome hfails => ?_)
    cases outcome with
    | error e =>
      refine .bind (.mono (closeDescriptor_makes fd) fun _ _ _ => ?_)
      exact .pure (.error (hfails e rfl))
    | ok _ => exact .bind (.note (.pure (.ok _)))

theorem establish_fails (fd : Descriptor) (addr : Endpoint) (timeout : Timeout) :
    (establish fd addr timeout : Act σ _).Ensures fun _ => FailsConnecting := by
  refine .bind (.ask fun reply => ?_)
  cases reply with
  | ok _ => exact .pure (.ok _)
  | error e =>
    dsimp only
    split
    · refine .bind (.waitReady fun talk readiness _ => ?_)
      match readiness with
      | .ok .timedOut => exact .pure .timeout
      | .error e => exact .pure (.connect addr)
      | .ok .ready =>
        refine .bind (.ask fun pending => ?_)
        match pending with
        | .ok none => exact .pure (.ok _)
        | .ok (some e) => exact .pure (.connect addr)
        | .error e => exact .pure (.connect addr)
    · exact .pure (.connect addr)

namespace Stream

theorem attempt_fails (fd : Descriptor) (addr : Endpoint) (timeout : Timeout) (always : Bool) :
    (attempt fd addr timeout always : Act σ _).Ensures fun _ => FailsConnecting := by
  refine .bind (.note (.bind (.mono (establish_fails fd addr timeout) fun _ outcome hfails => ?_)))
  refine .bind (.mono (leaveNonblocking_ensures fd always outcome) fun _ left hleft => ?_)
  have hfails : FailsConnecting left := by
    rcases hleft.2 with rfl | ⟨-, _, rfl⟩
    · exact hfails
    · exact .socketOption _
  cases left with
  | error e => exact .bind (.note (.pure (.error (hfails e rfl))))
  | ok _ =>
    refine .bind (.mono (localEndpoint_makes fd) fun _ _ _ => ?_)
    exact .bind (.note (.pure (.ok _)))

theorem connectTo_fails (s : Stream) (fd : Descriptor) (addr : Endpoint) (timeout : Timeout) :
    (s.connectTo fd addr timeout : Act σ _).Ensures fun _ out => FailsConnecting out.1 := by
  refine .bind (.mono (enterNonblocking_ensures fd _) fun _ entered hentered => ?_)
  rcases hentered.2 with rfl | ⟨_, rfl⟩
  · refine .bind (.mono (attempt_fails fd addr timeout _) fun _ outcome hfails => .pure ?_)
    cases outcome with
    | error e => exact .error (hfails e rfl)
    | ok own => exact .ok _
  · exact .pure (.socketOption _)

/-! ### Starting over -/

variable (s : Stream) (addr : Endpoint) (timeout : Timeout)

/-- Gives up what a stream has and connects a new stream of the same profile, if there can be one,
to an endpoint by its address and port. -/
def startOver : Act σ (Except SocketError Unit × Option Stream) := do
  release s.descriptor
  match ← Stream.new s.profile with
  | .error e => return (.error e, none)
  | .ok fresh =>
    let (result, fresh) ← fresh.connect addr.ip.text addr.port timeout
    return (result, some fresh)

/-- The stream after it has been started over.  It is like the new stream, but for what has been
counted and, if there is no connection, the endpoint to connect to. -/
def carriedOver : Except SocketError Unit × Option Stream → Stream
  | (_, none) => s.released
  | (.ok _, some fresh) => { fresh with traffic := s.traffic }
  | (.error _, some fresh) => { fresh with traffic := s.traffic, remote := s.remote }

/-- A new stream asks for what its profile says, and connects without more ado. -/
theorem startOver_eq (hvalid : s.profile.fault? = none) :
    (s.startOver addr timeout : Act σ _) = (do
      release s.descriptor
      match ← openSocket .stream s.profile.streamSettings with
      | .error e => return (.error e, none)
      | .ok fd =>
        note .debug ("created stream socket on fd " ++ fd.text)
        let (result, fresh) ← (ofDescriptor fd s.profile).connectTo fd addr timeout
        return (result, some fresh)) := by
  funext w
  simp only [startOver, new, hvalid, Act.bind_apply]
  cases (openSocket .stream s.profile.streamSettings (release s.descriptor w).2).1 with
  | error e => rfl
  | ok fd =>
    have hcheck : (ofDescriptor fd s.profile).checkConnect addr.ip.text addr.port =
        .ok (fd, addr) := by
      simp only [checkConnect, Endpoint.read_text]
      rfl
    simp only [Act.bind_apply, Act.pure_apply, connect, hcheck]

/-- What connecting a stream asks depends on its profile only, and so does what comes of it. -/
theorem connectTo_mirrors {s fresh : Stream} (hprofile : s.profile = fresh.profile)
    (fd : Descriptor) (addr : Endpoint) (timeout : Timeout) :
    (s.connectTo fd addr timeout : Act σ _).Mirrors (fresh.connectTo fd addr timeout)
      fun again out => (∃ e, again = (.error e, s) ∧ out = (.error e, fresh)) ∨
        ∃ outcome, again = afterAttempt { s with state := .connecting } addr outcome ∧
          out = afterAttempt { fresh with state := .connecting } addr outcome := by
  rw [connectTo, connectTo, hprofile]
  refine .bind (enterNonblocking_blind fd _) ?_
  rintro (e | _) _ rfl
  · exact .pure (.inl ⟨e, rfl, rfl⟩)
  · refine .bind (attempt_blind fd addr timeout _) ?_
    rintro outcome _ rfl
    exact .pure (.inr ⟨outcome, rfl, rfl⟩)

/-- **Connecting again mirrors starting over.** -/
theorem reconnect_mirrors {s : Stream} {addr : Endpoint} (hvalid : s.profile.fault? = none)
    (hremote : s.remote = some addr) (hstate : s.state ≠ .connected) (timeout : Timeout) :
    (s.reconnect timeout : Act σ _).Mirrors (s.startOver addr timeout) fun again fresh =>
      again.1 = fresh.1.mapError (.reconnect addr) ∧ again.2 = s.carriedOver fresh := by
  rw [startOver_eq s addr timeout hvalid]
  simp only [reconnect, hremote, if_neg hstate]
  refine .note_left (.bind (release_blind s.descriptor) fun _ _ _ => ?_)
  rw [connectAnew, bind_assoc]
  refine .bind (openSocket_blind .stream s.profile.streamSettings) ?_
  rintro (e | fd) _ rfl
  · exact .pure ⟨rfl, rfl⟩
  · -- both have a new descriptor now, one in a stream that was released, one in a new stream
    have hprofile : Stream.profile { s.released with descriptor := some fd } =
      (ofDescriptor fd s.profile).profile := rfl
    refine .note_right (.bind (connectTo_mirrors hprofile fd addr timeout) ?_)
    rintro _ _ (⟨e, rfl, rfl⟩ | ⟨e | own, rfl, rfl⟩)
    · exact .pure ⟨rfl, rfl⟩
    · exact .pure ⟨rfl, rfl⟩
    · exact .pure ⟨rfl, rfl⟩

theorem startOver_fails (hvalid : s.profile.fault? = none) :
    (s.startOver addr timeout : Act σ _).Ensures fun _ fresh => FailsConnecting fresh.1 := by
  rw [startOver_eq s addr timeout hvalid]
  refine .bind (.mono (release_makes s.descriptor) fun _ _ _ => ?_)
  refine .bind (.mono (openSocket_fails .stream _) fun _ opened hfails => ?_)
  cases opened with
  | error e => exact .pure (.error (hfails e rfl))
  | ok fd =>
    refine .bind (.note (.bind (.mono (connectTo_fails _ fd addr timeout) fun _ out hfails => ?_)))
    exact .pure hfails

/-! ### All streams -/

variable {s} {history : History Stream}

/-- The profile of a stream is valid. -/
theorem run_valid (h : Run history s) : s.profile.fault? = none := by
  induction h with
  | new h =>
    obtain ⟨σ, _, w, profile, hnew⟩ := h
    obtain ⟨fd, rfl⟩ := eq_ofDescriptor_of_new hnew
    exact fault?_of_new hnew
  | step _ op w ih => rwa [(carryOut_transition _ op w).profile_eq]

/-- **Connecting again is connecting anew.**  A stream without a connection that had one does what
a new stream would do in its place.  A stream with a connection stays as it is, and so does one
that never had any. -/
theorem reconnect_anew (h : Run history s) (timeout : Timeout) :
    (∀ addr, s.remote = some addr → s.state ≠ .connected →
      (s.reconnect timeout : Act (Recorded σ) _).Mirrors (s.startOver addr timeout)
        fun again fresh =>
          again.1 = fresh.1.mapError (.reconnect addr) ∧ again.2 = s.carriedOver fresh ∧
            ∀ e, fresh.1 = .error e → e.OfConnecting) ∧
    (s.state = .connected → ∀ w : World σ, s.reconnect timeout w = ((.ok (), s), w)) ∧
    (s.remote = none → ∃ e : SocketError, e.kind = .notInitialized ∧
      ∀ w : World σ, s.reconnect timeout w = ((.error e, s), w)) := by
  have hvalid := run_valid h
  refine ⟨fun addr hremote hstate => ?_, fun hstate w => ?_, fun hremote => ?_⟩
  · refine .mono (.and_right (reconnect_mirrors hvalid hremote hstate timeout)
      (startOver_fails s addr timeout hvalid)) ?_
    rintro again fresh ⟨⟨hresult, hs⟩, hfails⟩
    exact ⟨hresult, hs, hfails⟩
  · -- a stream with a connection knows whom it is with
    obtain ⟨-, hsome⟩ := (run_consistent h).of_connected hstate
    obtain ⟨addr, hremote⟩ := Option.isSome_iff_exists.1 hsome
    simp only [reconnect, hremote, if_pos hstate]
    rfl
  · exact ⟨_, rfl, fun w => by rw [reconnect, hremote]; rfl⟩

/-- A stream that has lost its connection and still has its descriptor. -/
def parted : Stream := { granted with state := .disconnected }

/-- It has been connected, and was told that the other end is done. -/
theorem run_parted : ∃ history, Run history parted := by
  obtain ⟨history, hconnected⟩ := run_granted
  have hrun := hconnected.step (Operation.receive 4 none) (World.granting false [])
  have hends : (carryOut granted (Operation.receive 4 none) (World.granting false [])).2 =
      parted := by
    cbv
  exact ⟨_, hends ▸ hrun⟩

theorem startOver_parted :
    (parted.startOver ⟨⟨127, 0, 0, 1⟩, 7⟩ none (World.granting false []).recorded).1 =
      (.ok (), some granted) := rfl

/-- It gives up its descriptor and gets its connection back, as a new stream gets one. -/
theorem reconnect_anew_parted :
    let startedOver := parted.startOver ⟨⟨127, 0, 0, 1⟩, 7⟩ none (World.granting false []).recorded
    let again := parted.reconnect none (World.granting false []).recorded
    (∃ history, Run history parted) ∧ parted.remote = some ⟨⟨127, 0, 0, 1⟩, 7⟩ ∧
      parted.state ≠ .connected ∧ startedOver.1 = (.ok (), some granted) ∧
      again.1 = (.ok (), granted) ∧
      again.2.kernel.talk.head? = some ⟨.close ⟨3⟩, .ok ()⟩ := by
  intro startedOver again
  obtain ⟨history, hparted⟩ := run_parted
  have hremote : parted.remote = some ⟨⟨127, 0, 0, 1⟩, 7⟩ := rfl
  have hstate : parted.state ≠ .connected := by decide
  obtain ⟨hanew, -, -⟩ := reconnect_anew (σ := Granting) hparted none
  have hkernel : (World.granting false []).recorded.kernel =
    (World.granting false []).recorded.kernel := rfl
  obtain ⟨hsame, hresult, hs, -⟩ := hanew _ hremote hstate hkernel
  rw [startOver_parted] at hresult hs
  have hfirst : startedOver.2.kernel.talk.head? = some ⟨.close ⟨3⟩, .ok ()⟩ := rfl
  refine ⟨⟨history, hparted⟩, hremote, hstate, startOver_parted, Prod.ext hresult hs, ?_⟩
  rw [show again.2.kernel = startedOver.2.kernel from hsame]
  exact hfirst

end Stream

end ProfiledSocket
