/-
How attempts to connect end.

A stream asks the kernel up to five sorts of things to get a connection, and each of them can be
answered in many ways.  What the caller is told depends on the answers alone: the handshake decides
first, and the mode of the descriptor only after that.

* `Completed`, `Established` — the talks of a handshake, and how it ends;
* `entering`, `leaving` — the talks about the mode before and after it;
* `Attempted` — the talks of an attempt to connect, and what becomes of the stream;
* **`establish_established`** — a handshake ends as its talk says;
* **`Stream.connect_outcome`** — so does an attempt, which asks for a connection once and waits for
  one that is pending, even without any time to do so.

Design notes: a talk and its outcome are described together, one case for each way through the
calls.  A wait may be interrupted any number of times, and is described in the same way.
-/
import ProfiledSocket.Proofs.Link
import ProfiledSocket.Proofs.Stream.Handshake

namespace ProfiledSocket

variable {σ : Type} [Kernel σ]

/-- Whether an exchange is about making a connection. -/
def Exchange.isConnect : Exchange → Bool
  | ⟨.connect .., _⟩ => true
  | _ => false

theorem Exchange.isConnect_eq_false {e : Exchange} (h : ∀ fd addr, e.call ≠ .connect fd addr) :
    e.isConnect = false := by
  obtain ⟨call, reply⟩ := e
  cases call with
  | connect fd addr => exact absurd rfl (h fd addr)
  | _ => rfl

/-! ### Handshakes -/

/-- The three answers after which a handshake goes on in the background. -/
theorem Errno.unfinished_iff (e : Errno) :
    e.Unfinished ↔ e = .inProgress ∨ e = .again ∨ e = .interrupted := by
  rw [Unfinished, kind_eq_wouldBlock_iff, kind_eq_interrupted_iff]

section Handshakes

variable (fd : Descriptor) (addr : Endpoint) (timeout : Timeout)

/-- How a handshake went that is over, as far as the kernel tells. -/
def verdict : Reply (.takeError fd) → Except SocketError Unit
  | .ok none => .ok ()
  | .ok (some e) | .error e => .error (.connect addr (.os e))

/-- The talk about a handshake that goes on in the background, and how it ends: it is waited for,
and then the kernel is asked how it went. -/
inductive Completed : Talk → Except SocketError Unit → Prop
  | ranOut {polls : Talk}
      (h : Polled fd .write timeout.millis timeout.millis polls (.ok .timedOut)) :
      Completed polls (.error .timeout)
  | unwatched {polls : Talk} {e : IoError}
      (h : Polled fd .write timeout.millis timeout.millis polls (.error e)) :
      Completed polls (.error (.connect addr e))
  | asked {polls : Talk}
      (h : Polled fd .write timeout.millis timeout.millis polls (.ok .ready))
      (reply : Reply (.takeError fd)) :
      Completed (polls ++ [⟨.takeError fd, reply⟩]) (verdict fd addr reply)

/-- The talk of a handshake, and how it ends. -/
inductive Established : Talk → Except SocketError Unit → Prop
  | atOnce : Established [⟨.connect fd addr, .ok ()⟩] (.ok ())
  | refused {e : Errno} (h : ¬ (e = .inProgress ∨ e = .again ∨ e = .interrupted)) :
      Established [⟨.connect fd addr, .error e⟩] (.error (.connect addr (.os e)))
  | pending {e : Errno} (h : e = .inProgress ∨ e = .again ∨ e = .interrupted) {rest : Talk}
      {result : Except SocketError Unit} (hrest : Completed fd addr timeout rest result) :
      Established (⟨.connect fd addr, .error e⟩ :: rest) result

/-- **A handshake ends as its talk says**, whatever the kernel answers. -/
theorem establish_established : (establish fd addr timeout : Act σ _).Ensures
    (Established fd addr timeout) := by
  refine .bind (.ask fun reply => ?_)
  cases reply with
  | ok _ => exact .pure .atOnce
  | error e =>
    dsimp only
    split
    · -- this includes a call that was interrupted, which is not made again
      rename_i hunfinished
      have hpending := e.unfinished_iff.1 hunfinished
      refine .bind (.waitReady fun polls readiness hpolled => ?_)
      match readiness with
      | .ok .timedOut => exact .pure (.pending hpending (by simpa using .ranOut hpolled))
      | .error e => exact .pure (.pending hpending (by simpa using .unwatched hpolled))
      | .ok .ready =>
        refine .bind (.ask fun reply => ?_)
        have hasked : Completed fd addr timeout _ _ := .asked hpolled reply
        match reply with
        | .ok none => exact .pure (.pending hpending (by simpa [verdict] using hasked))
        | .ok (some e) => exact .pure (.pending hpending (by simpa [verdict] using hasked))
        | .error e => exact .pure (.pending hpending (by simpa [verdict] using hasked))
    · rename_i hrefused
      exact .pure (.refused fun hpending => hrefused (e.unfinished_iff.2 hpending))

variable {fd addr timeout} {talk : Talk} {result : Except SocketError Unit}

theorem Completed.calls (h : Completed fd addr timeout talk result) :
    ∀ e ∈ talk, (∃ left, e.call = .poll fd (some .write) left) ∨ e.call = .takeError fd := by
  intro e he
  cases h with
  | ranOut hpolled => exact .inl (hpolled.polls e he)
  | unwatched hpolled => exact .inl (hpolled.polls e he)
  | asked hpolled _ =>
    rcases List.mem_append.1 he with hmem | hmem
    · exact .inl (hpolled.polls e hmem)
    · exact .inr (by rw [List.mem_singleton.1 hmem])

/-- A handshake that is pending is polled for, even if there is no time for that. -/
theorem Completed.exists_poll (h : Completed fd addr timeout talk result) :
    ∃ reply, (⟨.poll fd (some .write) timeout.millis, reply⟩ : Exchange) ∈ talk := by
  cases h with
  | ranOut hpolled => exact hpolled.exists_first
  | unwatched hpolled => exact hpolled.exists_first
  | asked hpolled _ =>
    obtain ⟨reply, hmem⟩ := hpolled.exists_first
    exact ⟨reply, List.mem_append_left _ hmem⟩

/-- A handshake begins with a call to connect, and has no other. -/
theorem Established.calls (h : Established fd addr timeout talk result) :
    ∃ reply rest, talk = ⟨.connect fd addr, reply⟩ :: rest ∧
      ∀ e ∈ rest, (∃ left, e.call = .poll fd (some .write) left) ∨ e.call = .takeError fd := by
  cases h with
  | atOnce => exact ⟨_, [], rfl, by simp⟩
  | refused _ => exact ⟨_, [], rfl, by simp⟩
  | pending _ hrest => exact ⟨_, _, rfl, hrest.calls⟩

theorem Established.countP_isConnect (h : Established fd addr timeout talk result) :
    talk.countP Exchange.isConnect = 1 := by
  obtain ⟨reply, rest, rfl, hrest⟩ := h.calls
  have hnone : rest.countP Exchange.isConnect = 0 := by
    refine List.countP_eq_zero.2 fun e he => ?_
    rcases hrest e he with ⟨left, hcall⟩ | hcall <;>
      simp [Exchange.isConnect_eq_false, hcall]
  simpa [List.countP_cons, Exchange.isConnect] using hnone

theorem Established.ne_localAddress (h : Established fd addr timeout talk result) :
    ∀ e ∈ talk, e.call ≠ .localAddress fd := by
  obtain ⟨reply, rest, rfl, hrest⟩ := h.calls
  refine List.forall_mem_cons.2 ⟨by simp, fun e he => ?_⟩
  rcases hrest e he with ⟨left, hcall⟩ | hcall <;> simp [hcall]

/-- A handshake that goes on in the background is polled for. -/
theorem Established.exists_poll (h : Established fd addr timeout talk result) {e : Errno}
    (hpending : e = .inProgress ∨ e = .again ∨ e = .interrupted)
    (hmem : (⟨.connect fd addr, .error e⟩ : Exchange) ∈ talk) :
    ∃ reply, (⟨.poll fd (some .write) timeout.millis, reply⟩ : Exchange) ∈ talk := by
  cases h with
  | atOnce => simp at hmem
  | refused hrefused =>
    simp only [List.mem_singleton, Exchange.mk.injEq, heq_eq_eq, true_and,
      Except.error.injEq] at hmem
    exact absurd (hmem ▸ hpending) hrefused
  | pending _ hrest =>
    obtain ⟨reply, hpoll⟩ := hrest.exists_poll
    exact ⟨reply, List.mem_cons_of_mem _ hpoll⟩

end Handshakes

/-! ### The mode -/

section Mode

variable (fd : Descriptor) (always : Bool)

/-- The talk in which a descriptor gets into non-blocking mode. -/
def entering : Talk := if always then [] else [⟨.setNonblocking fd true, .ok ()⟩]

/-- The talk in which a descriptor gets back, or not, into blocking mode. -/
def leaving (reply : Reply (.setNonblocking fd false)) : Talk :=
  if always then [] else [⟨.setNonblocking fd false, reply⟩]

theorem enterNonblocking_talks : (enterNonblocking fd always : Act σ _).Ensures fun talk result =>
    (talk = entering fd always ∧ result = .ok ()) ∨
      ∃ e, always = false ∧ talk = [⟨.setNonblocking fd true, .error e⟩] ∧
        result = .error (.socketOption "O_NONBLOCK" (.os e)) := by
  cases always with
  | true => exact .pure (.inl ⟨rfl, rfl⟩)
  | false =>
    refine .bind (.ask fun reply => ?_)
    cases reply with
    | ok _ => exact .pure (.inl ⟨rfl, rfl⟩)
    | error e => exact .pure (.inr ⟨e, rfl, rfl, rfl⟩)

/-- After a handshake that failed, it does not matter whether the mode can be restored. -/
theorem leaveNonblocking_of_error (cause : SocketError) :
    (leaveNonblocking fd always (.error cause) : Act σ _).Ensures fun talk result =>
      (∃ reply, talk = leaving fd always reply) ∧ result = .error cause := by
  cases always with
  | true => exact .pure ⟨⟨.ok (), rfl⟩, rfl⟩
  | false =>
    refine .bind (.ask fun reply => ?_)
    cases reply with
    | ok _ => exact .pure ⟨⟨.ok (), rfl⟩, rfl⟩
    | error e => exact .bind (.note (.pure ⟨⟨.error e, rfl⟩, rfl⟩))

/-- After one that succeeded, it does. -/
theorem leaveNonblocking_of_ok :
    (leaveNonblocking fd always (.ok ()) : Act σ _).Ensures fun talk result =>
      (talk = leaving fd always (.ok ()) ∧ result = .ok ()) ∨
        ∃ e, always = false ∧ talk = leaving fd always (.error e) ∧
          result = .error (.socketOption "O_NONBLOCK" (.os e)) := by
  cases always with
  | true => exact .pure (.inl ⟨rfl, rfl⟩)
  | false =>
    refine .bind (.ask fun reply => ?_)
    cases reply with
    | ok _ => exact .pure (.inl ⟨rfl, rfl⟩)
    | error e => exact .pure (.inr ⟨e, rfl, rfl, rfl⟩)

end Mode

/-! ### Attempts to connect -/

namespace Stream

section Attempts

variable {s : Stream} {fd : Descriptor} {addr : Endpoint} {timeout : Timeout}

/-- The talk of an attempt to connect a disconnected stream, what the caller is told, and what
becomes of the stream. -/
inductive Attempted (s : Stream) (fd : Descriptor) (addr : Endpoint) (timeout : Timeout) :
    Talk → Except SocketError Unit × Stream → Prop
  /-- The mode cannot be changed, and nothing else is tried. -/
  | unready (hmode : s.profile.wantsNonblocking = false) (e : Errno) :
      Attempted s fd addr timeout [⟨.setNonblocking fd true, .error e⟩]
        (.error (.socketOption "O_NONBLOCK" (.os e)), s)
  /-- The handshake fails, whatever happens to the mode then. -/
  | failed {handshake : Talk} {cause : SocketError}
      (h : Established fd addr timeout handshake (.error cause))
      (reply : Reply (.setNonblocking fd false)) :
      Attempted s fd addr timeout (entering fd s.profile.wantsNonblocking ++ handshake ++
        leaving fd s.profile.wantsNonblocking reply) (.error cause, s)
  /-- The handshake succeeds, and the mode cannot be changed back. -/
  | unrestored (hmode : s.profile.wantsNonblocking = false) {handshake : Talk}
      (h : Established fd addr timeout handshake (.ok ())) (e : Errno) :
      Attempted s fd addr timeout (entering fd s.profile.wantsNonblocking ++ handshake ++
        leaving fd s.profile.wantsNonblocking (.error e))
        (.error (.socketOption "O_NONBLOCK" (.os e)), s)
  | connected {handshake : Talk} (h : Established fd addr timeout handshake (.ok ()))
      (own : Reply (.localAddress fd)) :
      Attempted s fd addr timeout (entering fd s.profile.wantsNonblocking ++ handshake ++
        leaving fd s.profile.wantsNonblocking (.ok ()) ++ [⟨.localAddress fd, own⟩])
        (.ok (), { s with
          localAddress := own.toOption.join, remote := some addr, state := .connected })

/-- An attempt on a descriptor that is in the right mode. -/
theorem attempt_attempted (hstate : s.state = .disconnected) :
    (attempt fd addr timeout s.profile.wantsNonblocking : Act σ _).Ensures fun talk outcome =>
      Attempted s fd addr timeout (entering fd s.profile.wantsNonblocking ++ talk)
        ({ s with state := .connecting }.afterAttempt addr outcome) := by
  -- an attempt that failed leaves its stream disconnected, which it was before
  have hsame : { s with state := .disconnected } = s := by rw [← hstate]
  refine .bind (.note (.bind (.mono (establish_established fd addr timeout)
    fun handshake outcome h => ?_)))
  cases outcome with
  | error cause =>
    refine .bind (.mono (leaveNonblocking_of_error fd _ cause) fun left result hleave => ?_)
    obtain ⟨⟨reply, rfl⟩, rfl⟩ := hleave
    refine .bind (.note (.pure ?_))
    simpa [afterAttempt, hsame] using Attempted.failed h reply
  | ok _ =>
    refine .bind (.mono (leaveNonblocking_of_ok fd _) fun left result hleave => ?_)
    obtain ⟨rfl, rfl⟩ | ⟨e, hmode, rfl, rfl⟩ := hleave
    · refine .bind (.mono (localEndpoint_talks fd) fun told own hown => ?_)
      obtain ⟨reply, rfl, rfl⟩ := hown
      refine .bind (.note (.pure ?_))
      simpa [afterAttempt] using Attempted.connected h reply
    · refine .bind (.note (.pure ?_))
      simpa [afterAttempt, hsame] using Attempted.unrestored hmode h e

theorem connectTo_attempted (hstate : s.state = .disconnected) :
    (s.connectTo fd addr timeout : Act σ _).Ensures (Attempted s fd addr timeout) := by
  refine .bind (.mono (enterNonblocking_talks fd _) fun before entered henter => ?_)
  obtain ⟨rfl, rfl⟩ | ⟨e, hmode, rfl, rfl⟩ := henter
  · refine .bind (.mono (attempt_attempted hstate) fun talk outcome h => .pure ?_)
    simpa using h
  · exact .pure (.unready hmode e)

variable {talk : Talk} {out : Except SocketError Unit × Stream}

/-- Around the handshake, if there is one, only the mode and the address are talked about. -/
theorem Attempted.around (h : Attempted s fd addr timeout talk out) :
    ∃ before handshake after, talk = before ++ handshake ++ after ∧
      (handshake = [] ∨ ∃ result, Established fd addr timeout handshake result) ∧
      ∀ e ∈ before ++ after, e.isConnect = false := by
  have hentering : ∀ e ∈ entering fd s.profile.wantsNonblocking, e.isConnect = false := by
    rw [entering]
    split <;> simp [Exchange.isConnect]
  have hleaving (reply : Reply (.setNonblocking fd false)) :
      ∀ e ∈ leaving fd s.profile.wantsNonblocking reply, e.isConnect = false := by
    rw [leaving]
    split <;> simp [Exchange.isConnect]
  cases h with
  | unready _ e =>
    exact ⟨[⟨.setNonblocking fd true, .error e⟩], [], [], by simp, .inl rfl,
      by simp [Exchange.isConnect]⟩
  | failed h reply =>
    exact ⟨_, _, _, rfl, .inr ⟨_, h⟩, List.forall_mem_append.2 ⟨hentering, hleaving reply⟩⟩
  | unrestored _ h e =>
    exact ⟨_, _, _, rfl, .inr ⟨_, h⟩, List.forall_mem_append.2 ⟨hentering, hleaving _⟩⟩
  | connected h own =>
    refine ⟨_, _, _, List.append_assoc .., .inr ⟨_, h⟩, ?_⟩
    refine List.forall_mem_append.2 ⟨hentering, List.forall_mem_append.2 ⟨hleaving _, ?_⟩⟩
    simp [Exchange.isConnect]

/-- There is at most one call to connect. -/
theorem Attempted.countP_isConnect_le (h : Attempted s fd addr timeout talk out) :
    talk.countP Exchange.isConnect ≤ 1 := by
  obtain ⟨before, handshake, after, rfl, hhandshake, hrest⟩ := h.around
  rw [List.forall_mem_append] at hrest
  have hbefore : before.countP Exchange.isConnect = 0 :=
    List.countP_eq_zero.2 fun e he => by simp [hrest.1 e he]
  have hafter : after.countP Exchange.isConnect = 0 :=
    List.countP_eq_zero.2 fun e he => by simp [hrest.2 e he]
  rw [List.countP_append, List.countP_append, hbefore, hafter]
  rcases hhandshake with rfl | ⟨result, hhandshake⟩
  · simp
  · simp [hhandshake.countP_isConnect]

/-- What is pending is polled for. -/
theorem Attempted.exists_poll (h : Attempted s fd addr timeout talk out) {e : Errno}
    (hpending : e = .inProgress ∨ e = .again ∨ e = .interrupted)
    (hmem : (⟨.connect fd addr, .error e⟩ : Exchange) ∈ talk) :
    ∃ reply, (⟨.poll fd (some .write) timeout.millis, reply⟩ : Exchange) ∈ talk := by
  obtain ⟨before, handshake, after, rfl, hhandshake, hrest⟩ := h.around
  -- the call to connect belongs to the handshake
  have hin : (⟨.connect fd addr, .error e⟩ : Exchange) ∈ handshake := by
    by_contra hout
    have hmem' : (⟨.connect fd addr, .error e⟩ : Exchange) ∈ before ++ after := by
      simpa [hout] using hmem
    exact absurd (hrest _ hmem') (by simp [Exchange.isConnect])
  rcases hhandshake with rfl | ⟨result, hhandshake⟩
  · cases hin
  · obtain ⟨reply, hpoll⟩ := hhandshake.exists_poll hpending hin
    exact ⟨reply, List.mem_append_left _ (List.mem_append_right _ hpoll)⟩

/-- The kernel is asked for the address of the stream only when the attempt has succeeded. -/
theorem Attempted.ok_of_localAddress (h : Attempted s fd addr timeout talk out)
    {own : Reply (.localAddress fd)} (hmem : (⟨.localAddress fd, own⟩ : Exchange) ∈ talk) :
    out.1 = .ok () := by
  have hnot {handshake : Talk} {result : Except SocketError Unit}
      (hhandshake : Established fd addr timeout handshake result)
      (reply : Reply (.setNonblocking fd false)) :
      (⟨.localAddress fd, own⟩ : Exchange) ∉ entering fd s.profile.wantsNonblocking ++
        handshake ++ leaving fd s.profile.wantsNonblocking reply := by
    have hout : (⟨.localAddress fd, own⟩ : Exchange) ∉ handshake := fun hin =>
      hhandshake.ne_localAddress _ hin rfl
    cases hmode : s.profile.wantsNonblocking <;> simp [entering, leaving, hout]
  cases h with
  | unready _ e => simp at hmem
  | failed h reply => exact absurd hmem (hnot h reply)
  | unrestored _ h e => exact absurd hmem (hnot h _)
  | connected _ _ => rfl

/-- **An attempt succeeds exactly if the handshake does** and the mode is what it was before. -/
theorem Attempted.ok_iff (h : Attempted s fd addr timeout talk out) :
    out.1 = .ok () ↔ ∃ handshake own, Established fd addr timeout handshake (.ok ()) ∧
      talk = entering fd s.profile.wantsNonblocking ++ handshake ++
        leaving fd s.profile.wantsNonblocking (.ok ()) ++ [⟨.localAddress fd, own⟩] := by
  constructor
  · intro hok
    cases h with
    | connected h own => exact ⟨_, own, h, rfl⟩
    | _ => cases hok
  · rintro ⟨handshake, own, -, rfl⟩
    exact h.ok_of_localAddress (List.mem_append_right _ (List.mem_singleton_self _))

end Attempts

/-- **How an attempt to connect ends.**  Whatever the kernel answers, an open and disconnected
stream that is to connect to an address has one of the listed talks and is told what belongs to it.
The kernel is asked to connect at most once; if it says that a handshake goes on, it is polled, even
if the timeout is zero. -/
theorem connect_outcome {s : Stream} {fd : Descriptor} {ip : String} {port : UInt16}
    {addr : Endpoint} (hfd : s.descriptor = some fd) (hstate : s.state = .disconnected)
    (hread : Endpoint.read ip port = .ok addr) (timeout : Timeout) :
    (s.connect ip port timeout : Act σ _).Ensures fun talk out =>
      Attempted s fd addr timeout talk out ∧
      (out.1 = .ok () ↔ ∃ handshake own, Established fd addr timeout handshake (.ok ()) ∧
        talk = entering fd s.profile.wantsNonblocking ++ handshake ++
          leaving fd s.profile.wantsNonblocking (.ok ()) ++ [⟨.localAddress fd, own⟩]) ∧
      talk.countP Exchange.isConnect ≤ 1 ∧
      ∀ e : Errno, e = .inProgress ∨ e = .again ∨ e = .interrupted →
        (⟨.connect fd addr, .error e⟩ : Exchange) ∈ talk →
          ∃ reply, (⟨.poll fd (some .write) timeout.millis, reply⟩ : Exchange) ∈ talk := by
  have hcheck : s.checkConnect ip port = .ok (fd, addr) := by
    have hheld : Channel.held s = .ok fd := by
      simp [Channel.held, Channel.descriptor, hfd]
    rw [checkConnect, hheld, hread, hstate]
    rfl
  rw [connect, hcheck]
  exact .mono (connectTo_attempted hstate) fun talk out h =>
    ⟨h, h.ok_iff, h.countP_isConnect_le, fun _ hpending hmem => h.exists_poll hpending hmem⟩

/-- The talk of a stream that is waiting by nature and has no time to wait. -/
def talkInVain : Talk :=
  [⟨.setNonblocking ⟨3⟩ true, .ok ()⟩, ⟨.connect ⟨3⟩ ⟨⟨127, 0, 0, 1⟩, 7⟩, .error .inProgress⟩,
    ⟨.poll ⟨3⟩ (some .write) 0, .ok none⟩, ⟨.setNonblocking ⟨3⟩ false, .ok ()⟩]

theorem connect_inVain :
    let s := ofDescriptor ⟨3⟩ .conservative
    let attempt := s.connect "127.0.0.1" 7 (some (.ofMicros 0))
      (⟨⟨false⟩, []⟩ : World Remote).recorded
    attempt.1 = (.error .timeout, s) ∧ attempt.2.kernel.talk = talkInVain := by
  intro s attempt
  have hcheck : s.checkConnect "127.0.0.1" 7 = .ok (⟨3⟩, ⟨⟨127, 0, 0, 1⟩, 7⟩) := rfl
  have halways : s.profile.wantsNonblocking = false := rfl
  have henter : makeNonblocking ⟨3⟩ (⟨⟨false⟩, []⟩ : World Remote).recorded =
    (.ok (), ⟨⟨⟨false⟩, [⟨.setNonblocking ⟨3⟩ true, .ok ()⟩]⟩, []⟩) := rfl
  simp only [attempt, connect, hcheck, connectTo, halways, enterNonblocking, Act.bind_apply,
    henter, Stream.attempt, Bool.false_eq_true, if_false]
  generalize hw : (note Level.trace _ _).2 = w
  have htalk : w.kernel.talk = [⟨.setNonblocking ⟨3⟩ true, .ok ()⟩] := by rw [← hw]; rfl
  obtain ⟨hresult, hkernel⟩ := establish_remote ⟨3⟩ ⟨⟨127, 0, 0, 1⟩, 7⟩ (some (.ofMicros 0)) w
    (by rw [← hw]; rfl)
  simp only [leaveNonblocking, hresult, Act.bind_apply, Act.pure_apply, hkernel, htalk,
    Bool.false_eq_true, if_false, ask]
  exact ⟨rfl, rfl⟩

/-- It polls once for the handshake that is pending, gives it up, and waits again. -/
theorem connect_outcome_inVain :
    let s := ofDescriptor ⟨3⟩ .conservative
    let addr : Endpoint := ⟨⟨127, 0, 0, 1⟩, 7⟩
    s.descriptor = some ⟨3⟩ ∧ s.state = .disconnected ∧ Endpoint.read "127.0.0.1" 7 = .ok addr ∧
      Attempted s ⟨3⟩ addr (some (.ofMicros 0)) talkInVain (.error .timeout, s) ∧
      talkInVain.countP Exchange.isConnect ≤ 1 ∧
      ∃ reply, (⟨.poll ⟨3⟩ (some .write) 0, reply⟩ : Exchange) ∈ talkInVain := by
  intro s addr
  have hread : Endpoint.read "127.0.0.1" 7 = .ok addr := rfl
  have houtcome := (@connect_outcome (Recorded Remote) _ s ⟨3⟩ _ _ addr rfl rfl hread
    (some (.ofMicros 0))).recorded (⟨⟨false⟩, []⟩ : World Remote)
  obtain ⟨hout, htalk⟩ := connect_inVain
  rw [hout, htalk] at houtcome
  obtain ⟨hattempted, -, honce, hpolled⟩ := houtcome
  refine ⟨rfl, rfl, hread, hattempted, honce, ?_⟩
  exact hpolled .inProgress (.inl rfl) (by simp [talkInVain, addr])

end Stream

end ProfiledSocket
