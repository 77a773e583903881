/-
What failures leave behind.

An operation that fails has not been half done.  Whatever goes wrong with binding, listening,
accepting, connecting, setting an option or closing, the socket is as it was before.  A transfer
that fails may cost a stream its connection, and nothing else.  What is worth trying again, because
time ran out or there was nothing to be had yet, has changed nothing at all.

* `Fallible` — kinds of sockets whose operations say why they failed;
* `Stream.Spared` — what an operation that failed leaves of a stream;
* **`Stream.Transition.spared`** — the outcomes of a stream that fits together spare it;
* **`Datagram.Transition.eq_of_error`**, **`Peer.eq_of_error`** — other sockets keep everything;
* **`failures_spare`** — whatever has been done before, and whatever the kernel answers.

Design notes: a stream is connecting while it connects, and disconnected when that has failed.  That
is as before only for a stream that was disconnected, and it is the checks of `connect` together
with the way in which the fields of a stream fit together that leave nothing else.
-/
import ProfiledSocket.Proofs.Cause
import ProfiledSocket.Proofs.Datagram.Transition
import ProfiledSocket.Proofs.Stream.Coherent
import ProfiledSocket.Proofs.Stream.Handshake

namespace ProfiledSocket

variable {σ : Type} [Kernel σ]

/-! ### Errors -/

/-- The error that a result is, if it is one. -/
def failure? {α : Type} : Except SocketError α → Option SocketError
  | .ok _ => none
  | .error e => some e

theorem failure?_eq_some {α : Type} {result : Except SocketError α} {e : SocketError}
    (h : failure? result = some e) : result = .error e := by
  cases result with
  | ok a => cases h
  | error e' => rw [Option.some.inj h]

/-- A kind of socket whose operations say why they failed. -/
class Fallible (S : Type) [Operated S] where
  error? : (op : Operated.Operation S) → Operated.Result op → Option SocketError

instance : Fallible Stream where
  error?
    | .bind .., result | .listen _, result | .accept _, result | .connect .., result
    | .reconnect _, result | .send _, result | .receive .., result | .setOption .., result
    | .close, result => failure? result
    | .isConnected, _ => none

instance : Fallible Peer where
  error?
    | .send _, result | .receive .., result | .close, result => failure? result

instance : Fallible Datagram where
  error?
    | .bind .., result | .connect .., result | .send _, result | .sendTo .., result
    | .receive .., result | .receiveFrom .., result | .setOption .., result
    | .close, result => failure? result

/-! ### Streams -/

namespace Stream

variable {s s' : Stream} {op : Operation} {result : op.Result} {e : SocketError}

/-- Whether an operation transfers data. -/
def Operation.IsTransfer : Operation → Prop
  | .send _ | .receive .. => True
  | _ => False

/-- Whether an operation makes the latest connection again. -/
def Operation.IsReconnect : Operation → Prop
  | .reconnect _ => True
  | _ => False

/-- What an operation that failed with `e` leaves of a stream. -/
structure Spared (s : Stream) (op : Operation) (e : SocketError) (s' : Stream) : Prop where
  of_control : ¬ op.IsTransfer → ¬ op.IsReconnect → s' = s
  of_transfer : op.IsTransfer → s' = { s with state := s'.state }
  of_transient : e = .timeout ∨ e = .wouldBlock → s' = s

theorem Spared.refl (s : Stream) (op : Operation) (e : SocketError) : Spared s op e s :=
  ⟨fun _ _ => rfl, fun _ => rfl, fun _ => rfl⟩

/-- A transfer may cost a stream its connection if it is not worth waiting. -/
theorem Spared.of_final (hop : op.IsTransfer) (hfinal : e.isTransient = false)
    (state : ConnectionState) : Spared s op e { s with state } := by
  have hlasting := e.isTransient_eq_false_iff.1 hfinal
  exact ⟨fun hnot => absurd hop hnot, fun _ => rfl, fun he => absurd he hlasting⟩

/-- A transfer that fails costs a stream its connection at most. -/
theorem Spared.of_channel (hop : op.IsTransfer) (h : Channel.Spared s e s') :
    Spared s op e s' := by
  cases h with
  | unchanged => exact .refl s op e
  | failed hfinal => exact .of_final hop hfinal .disconnected
  | ended hfinal => exact .of_final hop hfinal .disconnected

/-- A stream that is not connecting, has no connection and does not listen is disconnected. -/
theorem Consistent.state_eq (h : s.Consistent) (hconnected : s.state ≠ .connected)
    (hlistening : s.state ≠ .listening) : s.state = .disconnected := by
  have hconnecting := h.not_connecting
  cases hstate : s.state with
  | disconnected => rfl
  | connecting => exact absurd hstate hconnecting
  | connected => exact absurd hstate hconnected
  | listening => exact absurd hstate hlistening

/-- What goes wrong with making a connection again is not worth waiting for. -/
theorem reconnect_not_transient (s : Stream) (timeout : Timeout) (w : World σ)
    (h : (s.reconnect timeout w).1.1 = .error e) : ¬ (e = .timeout ∨ e = .wouldBlock) := by
  cases hremote : s.remote with
  | none =>
    simp only [reconnect, hremote, Act.pure_apply, Except.error.injEq] at h
    rw [← h]
    simp
  | some addr =>
    by_cases hstate : s.state = .connected
    · simp [reconnect, hremote, hstate] at h
    · simp only [reconnect, hremote, if_neg hstate, Act.bind_apply, Act.pure_apply] at h
      generalize ((connectAnew s.released addr timeout : Act σ _) _).1.1 = outcome at h
      cases outcome with
      | ok _ => cases h
      | error cause =>
        cases h
        simp

/-- **The outcomes of a stream that fits together spare it**, if they are failures. -/
theorem Transition.spared (h : s.Consistent) (ht : Transition s op result s')
    (he : Fallible.error? (S := Stream) op result = some e)
    (hreconnect : op.IsReconnect → ¬ (e = .timeout ∨ e = .wouldBlock)) : Spared s op e s' := by
  cases ht with
  | bindFailed _ => exact .refl s _ e
  | bound _ _ _ => cases he
  | listenFailed _ => exact .refl s _ e
  | listening _ _ _ => cases he
  | accepted _ => exact .refl s _ e
  | connectRefused _ => exact .refl s _ e
  | connectFailed hopen hconnected hlistening _ =>
    -- the stream was disconnected before, so that it has not changed
    have hsame : { s with state := .disconnected } = s := by
      rw [← h.state_eq hconnected hlistening]
    rw [hsame]
    exact .refl s _ e
  | connected _ _ _ _ => cases he
  | reconnectRefused _ _ => exact .refl s _ e
  | stillConnected _ => cases he
  | reconnected _ _ _ =>
    exact ⟨fun _ hnot => absurd trivial hnot, fun htransfer => htransfer.elim,
      fun htransient => absurd htransient (hreconnect trivial)⟩
  | unconnected _ => cases he
  | alive _ => cases he
  | dead _ => cases he
  | sent hcase =>
    rw [failure?_eq_some he] at hcase
    exact .of_channel trivial hcase.spared
  | received hcase =>
    rw [failure?_eq_some he] at hcase
    exact .of_channel trivial hcase.spared
  | optionSet _ => exact .refl s _ e
  | closeRefused _ _ => exact .refl s _ e
  | closed => cases he

/-- So does every operation that fails. -/
theorem perform_spared (h : s.Consistent) (op : Operation) (w : World σ)
    (he : Fallible.error? (S := Stream) op (s.perform op w).1.1 = some e) :
    Spared s op e (s.perform op w).1.2 := by
  refine (perform_transition s op w).spared h he fun hop => ?_
  cases op with
  | reconnect timeout => exact reconnect_not_transient s timeout w (failure?_eq_some he)
  | _ => exact hop.elim

end Stream

/-! ### Accepted connections -/

namespace Peer

variable {p p' : Peer} {e : SocketError}

theorem eq_of_spared (h : Channel.Spared p e p') : p' = p := by
  cases h <;> rfl

/-- An accepted connection is as it was after an operation that failed. -/
theorem eq_of_error (p : Peer) (op : Operation) (w : World σ)
    (he : Fallible.error? (S := Peer) op (p.perform op w).1.1 = some e) :
    (p.perform op w).1.2 = p := by
  cases op with
  | send data =>
    have hcase := Channel.send_case p data none w
    rw [show (Channel.send p data none w).1.1 = .error e from failure?_eq_some he] at hcase
    exact eq_of_spared hcase.spared
  | receive capacity timeout =>
    have hcase := Channel.receive_case p capacity timeout Channel.bytesOnly w
    rw [show (Channel.receive p capacity timeout Channel.bytesOnly w).1.1 = .error e from
      failure?_eq_some he] at hcase
    exact eq_of_spared hcase.spared
  | close =>
    cases hfd : p.descriptor with
    | none => simp only [perform, close, hfd, Act.pure_apply]
    | some fd =>
      simp only [perform, close, hfd, Act.bind_apply, Act.pure_apply] at he
      cases he

end Peer

/-! ### Datagram sockets -/

namespace Datagram

variable {d d' : Datagram} {op : Operation} {result : op.Result} {e : SocketError}

/-- A datagram socket is as it was after an operation that failed. -/
theorem Transition.eq_of_error (ht : Transition d op result d')
    (he : Fallible.error? (S := Datagram) op result = some e) : d' = d := by
  cases ht with
  | bindFailed _ => rfl
  | bound _ _ => cases he
  | connectFailed _ => rfl
  | connected _ _ _ => cases he
  | sent hcase =>
    rw [failure?_eq_some he] at hcase
    exact eq_of_spared hcase.spared
  | misdirected _ => rfl
  | sentTo hcase =>
    rw [failure?_eq_some he] at hcase
    exact eq_of_spared hcase.spared
  | received hcase =>
    rw [failure?_eq_some he] at hcase
    exact eq_of_spared hcase.spared
  | undelivered hcase => exact eq_of_spared hcase.spared
  | delivered _ _ => cases he
  | optionSet _ => rfl
  | closeRefused _ _ => rfl
  | closed => cases he

end Datagram

/-! ### All sockets -/

/-- **What fails leaves the socket as it was.**  An operation of a stream that fails changes
nothing, except that a transfer may change its state; connecting again is not meant to leave it as
it was.  Operations of accepted connections and of datagram sockets that fail change nothing.  Nor
does anything that ends because time ran out or because it would have had to wait, which are the two
errors that are taken for no answer yet. -/
theorem failures_spare :
    (∀ (history : History Stream) (s : Stream), Run history s →
      ∀ (op : Stream.Operation) (w : World σ) (e : SocketError),
        Fallible.error? (S := Stream) op (s.perform op w).1.1 = some e →
          s.Spared op e (s.perform op w).1.2) ∧
    (∀ (p : Peer) (op : Peer.Operation) (w : World σ) (e : SocketError),
      Fallible.error? (S := Peer) op (p.perform op w).1.1 = some e →
        (p.perform op w).1.2 = p) ∧
    (∀ (d : Datagram) (op : Datagram.Operation) (w : World σ) (e : SocketError),
      Fallible.error? (S := Datagram) op (d.perform op w).1.1 = some e →
        (d.perform op w).1.2 = d) ∧
    ∀ {α : Type} (e : SocketError), transientAsNone (.error e : Except SocketError α) = .ok none ↔
      e = .timeout ∨ e = .wouldBlock := by
  refine ⟨fun history s hrun op w e he => ?_, fun p op w e he => p.eq_of_error op w he,
    fun d op w e he => (d.perform_transition w op).eq_of_error he, fun {α} e => ?_⟩
  · exact Stream.perform_spared (Stream.run_consistent hrun) op w he
  · have hexcused := transientAsNone_excused (.error e : Except SocketError α)
    simpa using hexcused.none_iff

/-- A new stream gives up an attempt to connect that has not come to its end in time. -/
theorem failures_spare_timeout :
    let s := Stream.ofDescriptor ⟨3⟩ .standard
    let op := Stream.Operation.connect "127.0.0.1" 7 (some (.ofMicros 100000))
    let w := (⟨⟨false⟩, []⟩ : World Stream.Remote).recorded
    Run [] s ∧ Fallible.error? (S := Stream) op (s.perform op w).1.1 = some .timeout ∧
      (s.perform op w).1.2 = s := by
  intro s op w
  have hnew : Run [] s := .new ⟨Granting, inferInstance, World.granting false [], .standard, rfl⟩
  have htimeout : Fallible.error? (S := Stream) op (s.perform op w).1.1 = some .timeout := by
    show Fallible.error? (S := Stream) _
      (carryOut s op (⟨⟨false⟩, []⟩ : World Stream.Remote)).1.result = _
    rw [Stream.connect_remote]
    rfl
  obtain ⟨hstreams, -⟩ := @failures_spare (Recorded Stream.Remote) _
  have hspared := hstreams [] s hnew op w .timeout htimeout
  exact ⟨hnew, htimeout, hspared.of_transient (.inl rfl)⟩

end ProfiledSocket
