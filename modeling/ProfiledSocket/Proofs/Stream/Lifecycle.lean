/-
How streams get and lose what they have.

The state of a stream changes along a few edges only, and each belongs to one operation with one
sort of result.  The endpoint of the latest connection follows its own, simpler rule.

* `Stream.Edge` — the edges of the state machine;
* **`Stream.Transition.edge`** — operations move along these edges or not at all;
* `Stream.Lawful` — what an operation with a result says about the states before and after it;
* **`Stream.run_lawful`** — all operations in all runs are lawful.

Design notes: only one of the laws needs that the stream is reachable.  A stream that counts as
connected but had no descriptor would not be probed, so that the answer would contradict the
state; a coherent stream is never like that.
-/
import ProfiledSocket.Proofs.Stream.Coherent

namespace ProfiledSocket

variable {σ : Type} [Kernel σ]

namespace Stream

variable {s s' : Stream} {history : History Stream} {op : Operation} {result : op.Result}

/-! ### Edges -/

/-- The edges of the state machine: what is done to a stream, and the state that it goes to. -/
inductive Edge (s : Stream) : Deed Stream → ConnectionState → Prop
  | connect (ip : String) (port : UInt16) (timeout : Timeout) (hstate : s.state ≠ .listening) :
      Edge s ⟨Operation.connect ip port timeout, .ok ()⟩ .connected
  | reconnect (timeout : Timeout) (hremote : s.remote.isSome) :
      Edge s ⟨Operation.reconnect timeout, .ok ()⟩ .connected
  | listen (backlog : Int32) (hstate : s.state ≠ .connected) :
      Edge s ⟨Operation.listen backlog, .ok ()⟩ .listening
  /-- An attempt to connect failed. -/
  | fail (ip : String) (port : UInt16) (timeout : Timeout) (e : SocketError)
      (hconnected : s.state ≠ .connected) (hlistening : s.state ≠ .listening) :
      Edge s ⟨Operation.connect ip port timeout, .error e⟩ .disconnected
  /-- What the stream had was given up, but there is no new connection. -/
  | giveUp (timeout : Timeout) (e : SocketError) (hremote : s.remote.isSome)
      (hstate : s.state ≠ .connected) :
      Edge s ⟨Operation.reconnect timeout, .error e⟩ .disconnected
  | detect (hstate : s.state = .connected) : Edge s ⟨Operation.isConnected, false⟩ .disconnected
  | send (data : List UInt8) (result : Except SocketError Nat) (hstate : s.state = .connected)
      (hfailed : TransferFailed result) : Edge s ⟨Operation.send data, result⟩ .disconnected
  | receive (capacity : Nat) (timeout : Timeout) (result : Except SocketError (List UInt8))
      (hstate : s.state = .connected) (hfailed : TransferFailed result) :
      Edge s ⟨Operation.receive capacity timeout, result⟩ .disconnected
  | close : Edge s ⟨Operation.close, .ok ()⟩ .disconnected

theorem edge_of_sendCase {data : List UInt8} {result : Except SocketError Nat}
    (h : Channel.SendCase s data none result s') :
    s'.state = s.state ∨ Edge s ⟨Operation.send data, result⟩ s'.state := by
  cases h with
  | refused _ => exact .inl rfl
  | sent _ n => exact .inl rfl
  | wouldBlock _ => exact .inl rfl
  | failed hcheck e =>
    have hstate := state_of_readyDescriptor hcheck
    exact .inr (.send _ _ hstate (.inl rfl))

theorem edge_of_receiveCase {capacity : Nat} {timeout : Timeout}
    {view : Received capacity → Except IoError (List UInt8)} {w : World σ}
    {result : Except SocketError (List UInt8)}
    (h : Channel.ReceiveCase s capacity timeout view w result s') :
    s'.state = s.state ∨ Edge s ⟨Operation.receive capacity timeout, result⟩ s'.state := by
  cases h with
  | refused _ => exact .inl rfl
  | unready _ _ => exact .inl rfl
  | received _ _ _ _ _ => exact .inl rfl
  | nothing _ _ => exact .inl rfl
  | ended hcheck _ _ =>
    have hstate := state_of_readyDescriptor hcheck
    exact .inr (.receive _ _ _ hstate (.inr (.inr rfl)))
  | failed hcheck _ _ =>
    have hstate := state_of_readyDescriptor hcheck
    exact .inr (.receive _ _ _ hstate (.inr (.inl rfl)))

/-- **The state changes along the edges only.** -/
theorem Transition.edge (ht : Transition s op result s') :
    s'.state = s.state ∨ Edge s ⟨op, result⟩ s'.state := by
  cases ht with
  | bindFailed e => exact .inl rfl
  | bound _ _ own => exact .inl rfl
  | listenFailed e => exact .inl rfl
  | listening _ _ hstate => exact .inr (.listen _ hstate)
  | accepted _ => exact .inl rfl
  | connectRefused e => exact .inl rfl
  | connectFailed _ hconnected hlistening e => exact .inr (.fail _ _ _ e hconnected hlistening)
  | connected _ hlistening _ own => exact .inr (.connect _ _ _ hlistening)
  | reconnectRefused _ e => exact .inl rfl
  | stillConnected _ => exact .inl rfl
  | reconnected hremote hstate hre =>
    have hsome : s.remote.isSome := by simp [hremote]
    cases hre with
    | closed e => exact .inr (.giveUp _ e hsome hstate)
    | failed e fd => exact .inr (.giveUp _ e hsome hstate)
    | connected fd own => exact .inr (.reconnect _ hsome)
  | unconnected _ => exact .inl rfl
  | alive _ => exact .inl rfl
  | dead hstate => exact .inr (.detect hstate)
  | sent hcase => exact edge_of_sendCase hcase
  | received hcase => exact edge_of_receiveCase hcase
  | optionSet _ => exact .inl rfl
  | closeRefused _ e => exact .inl rfl
  | closed => exact .inr .close

/-! ### Ends of edges -/

section Ends

variable {deed : Deed Stream} {state' : ConnectionState}

theorem Edge.to_connected (h : Edge s deed .connected) :
    (∃ ip port timeout, deed = ⟨Operation.connect ip port timeout, .ok ()⟩) ∨
      ∃ timeout, deed = ⟨Operation.reconnect timeout, .ok ()⟩ := by
  cases h with
  | connect ip port timeout _ => exact .inl ⟨ip, port, timeout, rfl⟩
  | reconnect timeout _ => exact .inr ⟨timeout, rfl⟩

theorem Edge.to_listening (h : Edge s deed .listening) :
    ∃ backlog, deed = ⟨Operation.listen backlog, .ok ()⟩ := by
  cases h with
  | listen backlog _ => exact ⟨backlog, rfl⟩

theorem Edge.from_listening (h : Edge s deed state') (hstate : s.state = .listening)
    (hne : state' ≠ .listening) :
    deed = ⟨Operation.close, .ok ()⟩ ∨
      (s.remote.isSome ∧ ∃ timeout result, deed = ⟨Operation.reconnect timeout, result⟩) := by
  cases h with
  | connect _ _ _ hnot => exact absurd hstate hnot
  | reconnect timeout hremote => exact .inr ⟨hremote, timeout, _, rfl⟩
  | listen _ _ => exact absurd rfl hne
  | fail _ _ _ _ _ hnot => exact absurd hstate hnot
  | giveUp timeout e hremote _ => exact .inr ⟨hremote, timeout, _, rfl⟩
  | detect hconnected => simp [hstate] at hconnected
  | send _ _ hconnected _ => simp [hstate] at hconnected
  | receive _ _ _ hconnected _ => simp [hstate] at hconnected
  | close => exact .inl rfl

theorem Edge.from_connected (h : Edge s deed state') (hstate : s.state = .connected)
    (hne : state' ≠ .connected) :
    deed = ⟨Operation.close, .ok ()⟩ ∨ deed = ⟨Operation.isConnected, false⟩ ∨
      (∃ data result, deed = ⟨Operation.send data, result⟩ ∧ TransferFailed result) ∨
      ∃ capacity timeout result, deed = ⟨Operation.receive capacity timeout, result⟩ ∧
        TransferFailed result := by
  cases h with
  | connect _ _ _ _ => exact absurd rfl hne
  | reconnect _ _ => exact absurd rfl hne
  | listen _ hnot => exact absurd hstate hnot
  | fail _ _ _ _ hnot _ => exact absurd hstate hnot
  | giveUp _ _ _ hnot => exact absurd hstate hnot
  | detect _ => exact .inr (.inl rfl)
  | send data result _ hfailed => exact .inr (.inr (.inl ⟨data, result, rfl, hfailed⟩))
  | receive capacity timeout result _ hfailed =>
    exact .inr (.inr (.inr ⟨capacity, timeout, result, rfl, hfailed⟩))
  | close => exact .inl rfl

end Ends

/-! ### The latest connection -/

/-- The endpoint of the latest connection changes when a new connection is made, and only then. -/
theorem Transition.remote_eq (ht : Transition s op result s') :
    s'.remote = s.remote ∨ ∃ ip port timeout addr,
      (⟨op, result⟩ : Deed Stream) = ⟨Operation.connect ip port timeout, .ok ()⟩ ∧
      Endpoint.read ip port = .ok addr ∧ s'.remote = some addr := by
  cases ht with
  | connected _ _ hread own => exact .inr ⟨_, _, _, _, rfl, hread, rfl⟩
  | reconnected hremote _ hre =>
    cases hre with
    | closed e => exact .inl rfl
    | failed e fd => exact .inl rfl
    | connected fd own => exact .inl hremote.symm
  | sent hcase => exact .inl (by rw [frame_of_sendCase hcase])
  | received hcase => exact .inl (by rw [frame_of_receiveCase hcase])
  | _ => exact .inl rfl

theorem Transition.of_connect {ip : String} {port : UInt16} {timeout : Timeout}
    (ht : Transition s (.connect ip port timeout) (.ok ()) s') :
    s'.state = .connected ∧ ∃ addr, Endpoint.read ip port = .ok addr ∧ s'.remote = some addr := by
  cases ht with
  | connected _ _ hread own => exact ⟨rfl, _, hread, rfl⟩

/-! ### Laws -/

/-- What an operation and its result say about the stream before and after. -/
structure Lawful (s : Stream) (deed : Deed Stream) (s' : Stream) : Prop where
  enters_connected : s.state ≠ .connected → s'.state = .connected →
    (∃ ip port timeout, deed = ⟨Operation.connect ip port timeout, .ok ()⟩) ∨
      ∃ timeout, deed = ⟨Operation.reconnect timeout, .ok ()⟩
  of_connect : ∀ ip port timeout, deed = ⟨Operation.connect ip port timeout, .ok ()⟩ →
    s'.state = .connected
  of_reconnect : ∀ timeout, deed = ⟨Operation.reconnect timeout, .ok ()⟩ → s'.state = .connected
  enters_listening : s.state ≠ .listening → s'.state = .listening →
    ∃ backlog, deed = ⟨Operation.listen backlog, .ok ()⟩
  leaves_listening : s.state = .listening → s'.state ≠ .listening →
    deed = ⟨Operation.close, .ok ()⟩ ∨
      (s.remote.isSome ∧ ∃ timeout result, deed = ⟨Operation.reconnect timeout, result⟩)
  leaves_connected : s.state = .connected → s'.state ≠ .connected →
    deed = ⟨Operation.close, .ok ()⟩ ∨ deed = ⟨Operation.isConnected, false⟩ ∨
      (∃ data result, deed = ⟨Operation.send data, result⟩ ∧ TransferFailed result) ∨
      ∃ capacity timeout result, deed = ⟨Operation.receive capacity timeout, result⟩ ∧
        TransferFailed result
  of_isConnected : ∀ answer, deed = ⟨Operation.isConnected, answer⟩ →
    (answer = true ↔ s'.state = .connected) ∧ (s.state ≠ .connected → s'.state ≠ .connected)
  remote_changes : s'.remote ≠ s.remote → ∃ ip port timeout addr,
    deed = ⟨Operation.connect ip port timeout, .ok ()⟩ ∧ Endpoint.read ip port = .ok addr ∧
      s'.remote = some addr
  remote_of_connect : ∀ ip port timeout, deed = ⟨Operation.connect ip port timeout, .ok ()⟩ →
    ∃ addr, Endpoint.read ip port = .ok addr ∧ s'.remote = some addr
  remote_kept : s.remote.isSome → s'.remote.isSome

/-- A coherent stream says that it is connected just if it is, and does not become so by saying
it. -/
theorem Transition.of_isConnected {answer : Bool} (h : s.Consistent)
    (ht : Transition s .isConnected answer s') :
    (answer = true ↔ s'.state = .connected) ∧ (s.state ≠ .connected → s'.state ≠ .connected) := by
  cases ht with
  | unconnected hnone =>
    -- a connected stream has a descriptor, which would have been probed
    have hstate : s.state ≠ .connected := by
      intro hconnected
      obtain ⟨hopen, _⟩ := h.of_connected hconnected
      rw [connectedDescriptor?, if_pos hconnected] at hnone
      simp [hnone] at hopen
    exact ⟨by simp [hstate], fun _ => hstate⟩
  | alive hstate => exact ⟨by simp [hstate], id⟩
  | dead hstate => exact ⟨by simp, by simp⟩

theorem Transition.of_reconnect_ok {timeout : Timeout}
    (ht : Transition s (.reconnect timeout) (.ok ()) s') : s'.state = .connected := by
  cases ht with
  | stillConnected hstate => exact hstate
  | reconnected _ _ hre =>
    cases hre with
    | connected fd own => rfl

theorem Transition.lawful (h : s.Consistent) (ht : Transition s op result s') :
    Lawful s ⟨op, result⟩ s' where
  enters_connected := by
    intro hstate hstate'
    have hedge := ht.edge.resolve_left (by rw [hstate']; exact Ne.symm hstate)
    rw [hstate'] at hedge
    exact hedge.to_connected
  of_connect := by
    rintro ip port timeout ⟨⟩
    exact ht.of_connect.1
  of_reconnect := by
    rintro timeout ⟨⟩
    exact ht.of_reconnect_ok
  enters_listening := by
    intro hstate hstate'
    have hedge := ht.edge.resolve_left (by rw [hstate']; exact Ne.symm hstate)
    rw [hstate'] at hedge
    exact hedge.to_listening
  leaves_listening := by
    intro hstate hne
    have hedge := ht.edge.resolve_left (by rwa [hstate])
    exact hedge.from_listening hstate hne
  leaves_connected := by
    intro hstate hne
    have hedge := ht.edge.resolve_left (by rwa [hstate])
    exact hedge.from_connected hstate hne
  of_isConnected := by
    rintro answer ⟨⟩
    exact ht.of_isConnected h
  remote_changes := by
    intro hne
    exact ht.remote_eq.resolve_left hne
  remote_of_connect := by
    rintro ip port timeout ⟨⟩
    exact ht.of_connect.2
  remote_kept := by
    intro hsome
    rcases ht.remote_eq with hsame | ⟨ip, port, timeout, addr, _, _, hremote⟩
    · rwa [hsame]
    · simp [hremote]

/-- **Every operation is lawful.**  Whatever has been done to a stream before, and whatever the
kernel answers, an operation moves it along the edges of the state machine, and tells the caller
accordingly. -/
theorem run_lawful (h : Run history s) (op : Operation) (w : World σ) :
    Lawful s ⟨op, (s.perform op w).1.1⟩ (s.perform op w).1.2 :=
  (perform_transition s op w).lawful (run_consistent h)

/-- A new stream that gets a connection: the endpoint is on record then. -/
theorem run_lawful_connect :
    let s := ofDescriptor ⟨3⟩ .conservative
    let outcome := (s.perform (.connect "127.0.0.1" 7 none) (World.granting false [])).1
    Run [] s ∧ outcome.1 = .ok () ∧ outcome.2.state = .connected ∧ outcome.2.remote.isSome := by
  intro s outcome
  have hnew : Run [] s :=
    .new ⟨Granting, inferInstance, World.granting false [], .conservative, rfl⟩
  have hlawful := run_lawful hnew (.connect "127.0.0.1" 7 none) (World.granting false [])
  have hstate : outcome.2.state = .connected := hlawful.of_connect _ _ _ rfl
  obtain ⟨addr, _, hremote⟩ := hlawful.remote_of_connect _ _ _ rfl
  exact ⟨hnew, rfl, hstate, by simp [outcome, hremote]⟩

end Stream

end ProfiledSocket
