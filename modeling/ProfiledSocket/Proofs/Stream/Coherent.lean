/-
What streams are like.

The fields of a stream depend on each other.  Operations change them a few at a time, but never so
that they contradict each other, nor what has been done to the stream.

* `Stream.Consistent` — how the fields fit together;
* `Stream.BoundSince` — a history in which the socket of the stream got an address;
* `Stream.Coherent` — how the fields fit together and to the history;
* **`Stream.run_coherent`** — streams are coherent whatever is done to them.

Design notes: that the stream is bound says something about its past, and the rest about its
fields only.  The two parts are kept up separately: the fields by the list of transitions, the
past by that list together with the talk, which tells when a socket was made.
-/
import ProfiledSocket.Proofs.Stream.Transition

namespace ProfiledSocket

variable {σ : Type} [Kernel σ]

namespace Stream

variable {s s' : Stream} {history : History Stream} {op : Operation} {result : op.Result}

/-! ### Fields -/

/-- How the fields of a stream fit together. -/
structure Consistent (s : Stream) : Prop where
  not_connecting : s.state ≠ .connecting
  of_connected : s.state = .connected → s.descriptor.isSome ∧ s.remote.isSome
  listening_iff : s.state = .listening ↔ s.backlog.isSome
  of_listening : s.state = .listening → s.isBound = true
  of_closed : s.descriptor = none →
    s.state = .disconnected ∧ s.isBound = false ∧ s.backlog = none

theorem Consistent.backlog_eq_none (h : s.Consistent) (hstate : s.state ≠ .listening) :
    s.backlog = none := by
  rw [← Option.not_isSome_iff_eq_none, ← h.listening_iff]
  exact hstate

theorem ofDescriptor_consistent (fd : Descriptor) (profile : Profile) :
    (ofDescriptor fd profile).Consistent := by
  constructor <;> simp [ofDescriptor]

/-- A stream that does not listen may stop having a connection. -/
theorem Consistent.disconnect (h : s.Consistent) (hstate : s.state ≠ .listening) :
    Consistent { s with state := .disconnected } where
  not_connecting := by simp
  of_connected := by simp
  listening_iff := by simp [h.backlog_eq_none hstate]
  of_listening := by simp
  of_closed hclosed := ⟨rfl, (h.of_closed hclosed).2⟩

theorem Consistent.withTraffic (h : s.Consistent) (t : Traffic) :
    Consistent { s with traffic := t } where
  not_connecting := h.not_connecting
  of_connected := h.of_connected
  listening_iff := h.listening_iff
  of_listening := h.of_listening
  of_closed := h.of_closed

theorem Consistent.sent (h : s.Consistent) {data : List UInt8} {result : Except SocketError Nat}
    (hcase : Channel.SendCase s data none result s') : s'.Consistent := by
  cases hcase with
  | refused _ => exact h
  | sent _ n => exact h.withTraffic _
  | wouldBlock _ => exact h
  | failed hcheck e =>
    have hstate := state_of_readyDescriptor hcheck
    exact h.disconnect (by simp [hstate])

theorem Consistent.received (h : s.Consistent) {α : Type} {capacity : Nat} {timeout : Timeout}
    {view : Received capacity → Except IoError α} {w : World σ} {result : Except SocketError α}
    (hcase : Channel.ReceiveCase s capacity timeout view w result s') : s'.Consistent := by
  cases hcase with
  | refused _ => exact h
  | unready _ _ => exact h
  | received _ _ _ _ _ => exact h.withTraffic _
  | nothing _ _ => exact h
  | ended hcheck _ _ =>
    have hstate := state_of_readyDescriptor hcheck
    exact h.disconnect (by simp [hstate])
  | failed hcheck _ _ =>
    have hstate := state_of_readyDescriptor hcheck
    exact h.disconnect (by simp [hstate])

theorem released_consistent (s : Stream) : s.released.Consistent := by
  constructor <;> simp [released]

theorem Reconnecting.consistent {addr : Endpoint} {result : Except SocketError Unit}
    (h : Reconnecting s addr result s') : s'.Consistent := by
  cases h with
  | closed e => exact released_consistent s
  | failed e fd => constructor <;> simp [released]
  | connected fd own => constructor <;> simp [released]

/-- The fields of a stream still fit together after an operation. -/
theorem Consistent.transition (h : s.Consistent) (ht : Transition s op result s') :
    s'.Consistent := by
  cases ht with
  | bindFailed e => exact h
  | bound hopen hstate own =>
    exact {
      not_connecting := h.not_connecting
      of_connected := h.of_connected
      listening_iff := h.listening_iff
      of_listening := fun _ => rfl
      of_closed := fun hclosed => by simp [show s.descriptor = none from hclosed] at hopen }
  | listenFailed e => exact h
  | listening hopen hbound hstate =>
    exact {
      not_connecting := by simp
      of_connected := by simp
      listening_iff := by simp
      of_listening := fun _ => hbound
      of_closed := fun hclosed => by simp [show s.descriptor = none from hclosed] at hopen }
  | accepted _ => exact h
  | connectRefused e => exact h
  | connectFailed hopen hconnected hlistening e => exact h.disconnect hlistening
  | connected hopen hlistening hread own =>
    exact {
      not_connecting := by simp
      of_connected := fun _ => ⟨hopen, rfl⟩
      listening_iff := by simp [h.backlog_eq_none hlistening]
      of_listening := by simp
      of_closed := fun hclosed => by simp [show s.descriptor = none from hclosed] at hopen }
  | reconnectRefused hremote e => exact h
  | stillConnected hstate => exact h
  | reconnected hremote hstate hre => exact hre.consistent
  | unconnected _ => exact h
  | alive hstate => exact h
  | dead hstate => exact h.disconnect (by simp [hstate])
  | sent hcase => exact h.sent hcase
  | received hcase => exact h.received hcase
  | optionSet _ => exact h
  | closeRefused hclosed e => exact h
  | closed => exact released_consistent s

/-! ### The past -/

/-- Whether an operation is a bind that succeeded. -/
def Binds (deed : Deed Stream) : Prop := ∃ ip port, deed = ⟨.bind ip port, .ok ()⟩

/-- Whether a bind has succeeded since the latest socket was made. -/
def BoundSince : History Stream → Prop
  | [] => False
  | entry :: earlier => Binds entry.toDeed ∨ (¬ entry.talk.Opens ∧ BoundSince earlier)

theorem not_binds {op : Operation} {result : op.Result} (h : ∀ ip port, op ≠ .bind ip port) :
    ¬ Binds ⟨op, result⟩ := by
  rintro ⟨ip, port, heq⟩
  exact h ip port (congrArg Deed.op heq)

/-- The stream still has the socket that it had, and is bound if it was or if that was done. -/
structure KeepsSocket (s : Stream) (deed : Deed Stream) (s' : Stream) : Prop where
  descriptor_eq : s'.descriptor = s.descriptor
  isBound_iff : s'.isBound = true ↔ Binds deed ∨ s.isBound = true
  of_binds : Binds deed → s.descriptor.isSome

/-- An operation that does not connect again gives the socket up or keeps it. -/
theorem Transition.keepsSocket (ht : Transition s op result s')
    (hop : ∀ timeout, op ≠ .reconnect timeout) :
    (s'.descriptor = none ∧ s'.isBound = false) ∨ KeepsSocket s ⟨op, result⟩ s' := by
  -- most operations leave the socket alone
  have hkept (hdescriptor : s'.descriptor = s.descriptor) (hbound : s'.isBound = s.isBound)
      (hnot : ¬ Binds ⟨op, result⟩) :
      (s'.descriptor = none ∧ s'.isBound = false) ∨ KeepsSocket s ⟨op, result⟩ s' := by
    refine .inr ⟨hdescriptor, ?_, fun hbinds => absurd hbinds hnot⟩
    rw [hbound, or_iff_right hnot]
  cases ht with
  | bindFailed e =>
    refine hkept rfl rfl ?_
    rintro ⟨ip, port, heq⟩
    cases heq
  | bound hopen hstate own =>
    exact .inr ⟨rfl, ⟨fun _ => .inl ⟨_, _, rfl⟩, fun _ => rfl⟩, fun _ => hopen⟩
  | listenFailed e => exact hkept rfl rfl (not_binds (by simp))
  | listening _ _ _ => exact hkept rfl rfl (not_binds (by simp))
  | accepted _ => exact hkept rfl rfl (not_binds (by simp))
  | connectRefused e => exact hkept rfl rfl (not_binds (by simp))
  | connectFailed _ _ _ e => exact hkept rfl rfl (not_binds (by simp))
  | connected _ _ _ own => exact hkept rfl rfl (not_binds (by simp))
  | reconnectRefused _ e => exact absurd rfl (hop _)
  | stillConnected _ => exact absurd rfl (hop _)
  | reconnected _ _ _ => exact absurd rfl (hop _)
  | unconnected _ => exact hkept rfl rfl (not_binds (by simp))
  | alive _ => exact hkept rfl rfl (not_binds (by simp))
  | dead _ => exact hkept rfl rfl (not_binds (by simp))
  | sent hcase =>
    have hframe := frame_of_sendCase hcase
    exact hkept (by rw [hframe]) (by rw [hframe]) (not_binds (by simp))
  | received hcase =>
    have hframe := frame_of_receiveCase hcase
    exact hkept (by rw [hframe]) (by rw [hframe]) (not_binds (by simp))
  | optionSet _ => exact hkept rfl rfl (not_binds (by simp))
  | closeRefused _ e => exact hkept rfl rfl (not_binds (by simp))
  | closed => exact .inl ⟨rfl, rfl⟩

/-- Connecting again leaves the stream as it is, if there is nothing to connect, or else begins
with giving up what it has. -/
theorem Transition.of_reconnect {timeout : Timeout} {result : Except SocketError Unit}
    (ht : Transition s (.reconnect timeout) result s') :
    ((s.remote = none ∨ s.state = .connected) ∧ s' = s) ∨
      ∃ addr, s.remote = some addr ∧ s.state ≠ .connected ∧ Reconnecting s addr result s' := by
  cases ht with
  | reconnectRefused hremote e => exact .inl ⟨.inl hremote, rfl⟩
  | stillConnected hstate => exact .inl ⟨.inr hstate, rfl⟩
  | reconnected hremote hstate hre => exact .inr ⟨_, hremote, hstate, hre⟩

theorem Reconnecting.not_bound {addr : Endpoint} {result : Except SocketError Unit}
    (h : Reconnecting s addr result s') : s'.isBound = false := by
  cases h <;> rfl

/-- A stream is bound if it has a socket that a bind has given an address. -/
def KnowsBound (history : History Stream) (s : Stream) : Prop :=
  s.isBound = true ↔ s.descriptor.isSome ∧ BoundSince history

theorem KnowsBound.carryOut_reconnect (h : KnowsBound history s) (timeout : Timeout)
    (w : World σ) :
    KnowsBound ((carryOut s (Operation.reconnect timeout) w).1 :: history)
      (carryOut s (Operation.reconnect timeout) w).2 := by
  have ht := carryOut_transition s (.reconnect timeout) w
  have hbinds : ¬ Binds (carryOut s (Operation.reconnect timeout) w).1.toDeed :=
    not_binds fun _ _ => Operation.noConfusion
  rw [KnowsBound, BoundSince, or_iff_right hbinds]
  rcases ht.of_reconnect with ⟨hnothing, hs⟩ | ⟨addr, hremote, hstate, hre⟩
  · -- nothing happened at all, so what was known still holds
    have hplain := carryOut_ensures s (Operation.reconnect timeout)
      (reconnect_makes (P := Call.Plain) hnothing timeout) w
    rw [hs, and_iff_right (Talk.not_opens hplain)]
    exact h
  · -- the stream is not bound any more, and a socket that it has is too new to be
    have hopens := carryOut_ensures s (Operation.reconnect timeout)
      (reconnect_ensures hremote hstate timeout) w
    rw [hre.not_bound]
    constructor
    · intro hbound
      cases hbound
    · rintro ⟨hsome, hquiet, _⟩
      exact absurd (hopens hsome) hquiet

theorem KnowsBound.carryOut_other (h : KnowsBound history s)
    (hop : ∀ timeout, op ≠ .reconnect timeout) (w : World σ) :
    KnowsBound ((carryOut s op w).1 :: history) (carryOut s op w).2 := by
  have hplain := carryOut_ensures s op (perform_makes s hop) w
  rw [KnowsBound] at h
  -- no socket was made, so the past counts as far as there still is a socket
  rw [KnowsBound, BoundSince, and_iff_right (Talk.not_opens hplain)]
  rcases (carryOut_transition s op w).keepsSocket hop with ⟨hdescriptor, hbound⟩ | hkeeps
  · simp [hdescriptor, hbound]
  · rw [hkeeps.descriptor_eq, hkeeps.isBound_iff, h]
    constructor
    · rintro (hbinds | ⟨hsome, hsince⟩)
      · exact ⟨hkeeps.of_binds hbinds, .inl hbinds⟩
      · exact ⟨hsome, .inr hsince⟩
    · rintro ⟨hsome, hbinds | hsince⟩
      · exact .inl hbinds
      · exact .inr ⟨hsome, hsince⟩

/-- The past still tells whether the stream is bound. -/
theorem KnowsBound.carryOut (h : KnowsBound history s) (op : Operation) (w : World σ) :
    KnowsBound ((carryOut s op w).1 :: history) (carryOut s op w).2 := by
  by_cases hop : ∃ timeout, op = .reconnect timeout
  · obtain ⟨timeout, rfl⟩ := hop
    exact h.carryOut_reconnect timeout w
  · exact h.carryOut_other (fun timeout heq => hop ⟨timeout, heq⟩) w

/-! ### Both -/

/-- How the fields of a stream fit together and to its history. -/
structure Coherent (history : History Stream) (s : Stream) : Prop extends Consistent s where
  bound_iff : s.isBound = true ↔ s.descriptor.isSome ∧ BoundSince history

theorem run_consistent (h : Run history s) : s.Consistent := by
  induction h with
  | new h =>
    obtain ⟨σ, _, w, profile, hnew⟩ := h
    obtain ⟨fd, rfl⟩ := eq_ofDescriptor_of_new hnew
    exact ofDescriptor_consistent fd profile
  | step _ op w ih => exact ih.transition (carryOut_transition _ op w)

theorem run_knowsBound (h : Run history s) : KnowsBound history s := by
  induction h with
  | new h =>
    obtain ⟨σ, _, w, profile, hnew⟩ := h
    obtain ⟨fd, rfl⟩ := eq_ofDescriptor_of_new hnew
    simp [KnowsBound, BoundSince, ofDescriptor]
  | step _ op w ih => exact ih.carryOut op w

/-- **Streams are coherent.**  Whatever is done to a stream in whatever order, and whatever the
kernel answers, its fields fit together and to what was done. -/
theorem run_coherent (h : Run history s) : Coherent history s where
  toConsistent := run_consistent h
  bound_iff := run_knowsBound h

/-- The stream that a friendly kernel has connected has a history. -/
theorem run_granted : ∃ history, Run history granted := by
  have hnew : Run [] (ofDescriptor ⟨3⟩ .conservative) :=
    .new ⟨Granting, inferInstance, World.granting false [], .conservative, rfl⟩
  exact ⟨_, hnew.step (Operation.connect "127.0.0.1" 7 none) (World.granting false [])⟩

/-- So has the one that was closed after that. -/
theorem run_granted_released : ∃ history, Run history granted.released := by
  obtain ⟨history, hconnected⟩ := run_granted
  exact ⟨_, hconnected.step Operation.close (World.granting false [])⟩

/-- A stream that was bound and then listens. -/
theorem run_coherent_listener :
    let bound := carryOut (ofDescriptor ⟨3⟩ .conservative)
      (Operation.bind "127.0.0.1" 7) (World.granting false [])
    let listens := carryOut bound.2 (Operation.listen 5) (World.granting false [])
    Run [listens.1, bound.1] listens.2 ∧ listens.2.state = .listening ∧
      listens.2.isBound = true ∧ BoundSince [listens.1, bound.1] := by
  intro bound listens
  have hnew : Run [] (ofDescriptor ⟨3⟩ .conservative) :=
    .new ⟨Granting, inferInstance, World.granting false [], .conservative, rfl⟩
  have hrun : Run [listens.1, bound.1] listens.2 :=
    .step (.step hnew (Operation.bind "127.0.0.1" 7) _) (Operation.listen 5) _
  have hlistening : listens.2.state = .listening := rfl
  have hcoherent := run_coherent hrun
  have hbound := hcoherent.of_listening hlistening
  exact ⟨hrun, hlistening, hbound, (hcoherent.bound_iff.1 hbound).2⟩

end Stream

end ProfiledSocket
