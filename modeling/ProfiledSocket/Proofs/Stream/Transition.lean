/-
What an operation can do to a stream.

Every operation of a stream has a handful of outcomes.  They are listed here once, each with what
must have been the case before, what the caller is told and what the stream is afterwards; all
that is known about runs of streams follows from the list.

* `Stream.Transition` — the outcomes of the operations;
* **`Stream.perform_transition`** — there are no others, whatever the kernel answers;
* **`Stream.ordinary_makes`** — most operations use the socket as it is;
* **`Stream.perform_makes`** — no operation but connecting again makes a new socket.

Design notes: what goes wrong inside an operation makes no difference to the list, so the errors
of most outcomes are left open.  The reasons why a transfer ends as it does are those of any
channel.
-/
import ProfiledSocket.Proofs.Calls
import ProfiledSocket.Proofs.Run
import ProfiledSocket.Proofs.Transfer

namespace ProfiledSocket

variable {σ : Type} [Kernel σ]

namespace Stream

/-! ### Checks -/

section Checks

variable {s : Stream} {ip : String} {port : UInt16} {fd : Descriptor} {addr : Endpoint}

theorem checkBind_ok (h : s.checkBind ip port = .ok (fd, addr)) :
    s.descriptor = some fd ∧ s.state = .disconnected ∧ s.isBound = false ∧
      Endpoint.read ip port = .ok addr := by
  obtain ⟨fd', hheld, h⟩ := Except.ok_of_bind h
  by_cases hfree : s.state ≠ .disconnected ∨ s.isBound
  · rw [if_pos hfree] at h
    cases h
  · rw [if_neg hfree] at h
    obtain ⟨addr', hread, h⟩ := Except.ok_of_bind h
    cases h
    obtain ⟨hstate, hbound⟩ := not_or.1 hfree
    exact ⟨Channel.descriptor_of_held hheld, not_not.1 hstate, by simpa using hbound, hread⟩

theorem checkListen_ok (h : s.checkListen = .ok fd) :
    s.descriptor = some fd ∧ s.isBound = true ∧ s.state ≠ .connected := by
  obtain ⟨fd', hheld, h⟩ := Except.ok_of_bind h
  cases hbound : s.isBound with
  | false => simp [hbound] at h; cases h
  | true =>
    by_cases hstate : s.state = .connecting ∨ s.state = .connected
    · simp [hbound, hstate] at h
      cases h
    · simp [hbound, hstate] at h
      cases h
      exact ⟨Channel.descriptor_of_held hheld, rfl, fun hc => hstate (.inr hc)⟩

theorem checkConnect_ok (h : s.checkConnect ip port = .ok (fd, addr)) :
    s.descriptor = some fd ∧ s.state ≠ .connected ∧ s.state ≠ .listening ∧
      Endpoint.read ip port = .ok addr := by
  rw [checkConnect] at h
  by_cases hconnected : s.state = .connected
  · rw [if_pos hconnected] at h
    cases h
  · rw [if_neg hconnected] at h
    by_cases hlistening : s.state = .listening
    · rw [if_pos hlistening] at h
      cases h
    · rw [if_neg hlistening] at h
      obtain ⟨fd', hheld, h⟩ := Except.ok_of_bind h
      obtain ⟨addr', hread, h⟩ := Except.ok_of_bind h
      cases h
      exact ⟨Channel.descriptor_of_held hheld, hconnected, hlistening, hread⟩

theorem connectedDescriptor?_eq_some (h : s.connectedDescriptor? = some fd) :
    s.state = .connected ∧ s.descriptor = some fd := by
  rw [connectedDescriptor?] at h
  split at h
  · rename_i hstate
    exact ⟨hstate, h⟩
  · cases h

end Checks

/-- A new stream is what is made of its descriptor. -/
theorem eq_ofDescriptor_of_new {s : Stream} {profile : Profile} {w : World σ}
    (h : (Stream.new profile w).1 = .ok s) : ∃ fd, s = ofDescriptor fd profile :=
  (createSocket_ok h).2

/-- There are streams for valid profiles only. -/
theorem fault?_of_new {s : Stream} {profile : Profile} {w : World σ}
    (h : (Stream.new profile w).1 = .ok s) : profile.fault? = none :=
  (createSocket_ok h).1

/-! ### Connecting -/

/-- The outcomes of connecting the descriptor of a stream. -/
inductive Connecting (s : Stream) (addr : Endpoint) : Except SocketError Unit → Stream → Prop
  /-- The attempt was not made. -/
  | unready (e : SocketError) : Connecting s addr (.error e) s
  | failed (e : SocketError) : Connecting s addr (.error e) { s with state := .disconnected }
  | connected (own : Option Endpoint) : Connecting s addr (.ok ())
      { s with localAddress := own, remote := some addr, state := .connected }

theorem Connecting.descriptor_eq {s s' : Stream} {addr : Endpoint}
    {result : Except SocketError Unit} (h : Connecting s addr result s') :
    s'.descriptor = s.descriptor := by
  cases h <;> rfl

theorem connectTo_connecting (s : Stream) (fd : Descriptor) (addr : Endpoint) (timeout : Timeout)
    (w : World σ) :
    Connecting s addr (s.connectTo fd addr timeout w).1.1 (s.connectTo fd addr timeout w).1.2 := by
  simp only [connectTo, Act.bind_apply]
  cases hmode : (enterNonblocking fd s.profile.wantsNonblocking w).1 with
  | error e => exact .unready e
  | ok _ =>
    simp only [Act.bind_apply, Act.pure_apply]
    cases hattempt : (attempt fd addr timeout s.profile.wantsNonblocking
        (enterNonblocking fd s.profile.wantsNonblocking w).2).1 with
    | error e => exact .failed e
    | ok own => exact .connected own

/-- The outcomes of connecting a stream again, once it has given up what it had. -/
inductive Reconnecting (s : Stream) (addr : Endpoint) : Except SocketError Unit → Stream → Prop
  /-- There was no new descriptor. -/
  | closed (e : SocketError) : Reconnecting s addr (.error e) s.released
  | failed (e : SocketError) (fd : Descriptor) :
      Reconnecting s addr (.error e) { s.released with descriptor := some fd }
  | connected (fd : Descriptor) (own : Option Endpoint) : Reconnecting s addr (.ok ())
      { s.released with
        descriptor := some fd
        localAddress := own
        remote := some addr
        state := .connected }

theorem Reconnecting.profile_eq {s s' : Stream} {addr : Endpoint}
    {result : Except SocketError Unit} (h : Reconnecting s addr result s') :
    s'.profile = s.profile := by
  cases h <;> rfl

theorem reconnect_reconnecting {s : Stream} {addr : Endpoint} (hremote : s.remote = some addr)
    (hstate : s.state ≠ .connected) (timeout : Timeout) (w : World σ) :
    Reconnecting s addr (s.reconnect timeout w).1.1 (s.reconnect timeout w).1.2 := by
  simp only [reconnect, hremote, if_neg hstate, Act.bind_apply, Act.pure_apply]
  generalize (release s.descriptor (note .debug _ w).2).2 = w
  cases hopened : (openSocket .stream s.released.profile.streamSettings w).1 with
  | error e =>
    simp only [connectAnew, Act.bind_apply, hopened, Act.pure_apply]
    exact .closed _
  | ok fd =>
    simp only [connectAnew, Act.bind_apply, hopened]
    generalize (openSocket .stream s.released.profile.streamSettings w).2 = w
    have hconnecting := connectTo_connecting { s.released with descriptor := some fd } fd addr
      timeout w
    generalize (connectTo { s.released with descriptor := some fd } fd addr timeout w).1 = out
      at hconnecting ⊢
    obtain ⟨result, s'⟩ := out
    -- a stream that has been released is disconnected as it is
    cases hconnecting with
    | unready e => exact .failed _ fd
    | failed e => exact .failed _ fd
    | connected own => exact .connected fd own

/-! ### All operations -/

/-- The outcomes of the operations of a stream: what the caller is told, and the stream
afterwards. -/
inductive Transition (s : Stream) : (op : Operation) → op.Result → Stream → Prop
  | bindFailed {ip : String} {port : UInt16} (e : SocketError) :
      Transition s (.bind ip port) (.error e) s
  | bound {ip : String} {port : UInt16} (hopen : s.descriptor.isSome)
      (hstate : s.state = .disconnected) (own : Endpoint) :
      Transition s (.bind ip port) (.ok ()) { s with localAddress := some own, isBound := true }
  | listenFailed {backlog : Int32} (e : SocketError) :
      Transition s (.listen backlog) (.error e) s
  | listening {backlog : Int32} (hopen : s.descriptor.isSome) (hbound : s.isBound = true)
      (hstate : s.state ≠ .connected) :
      Transition s (.listen backlog) (.ok ())
        { s with state := .listening, backlog := some backlog }
  | accepted {timeout : Timeout} (result : Except SocketError Peer) :
      Transition s (.accept timeout) result s
  /-- The connection was not tried. -/
  | connectRefused {ip : String} {port : UInt16} {timeout : Timeout} (e : SocketError) :
      Transition s (.connect ip port timeout) (.error e) s
  | connectFailed {ip : String} {port : UInt16} {timeout : Timeout} (hopen : s.descriptor.isSome)
      (hconnected : s.state ≠ .connected) (hlistening : s.state ≠ .listening) (e : SocketError) :
      Transition s (.connect ip port timeout) (.error e) { s with state := .disconnected }
  | connected {ip : String} {port : UInt16} {timeout : Timeout} {addr : Endpoint}
      (hopen : s.descriptor.isSome) (hlistening : s.state ≠ .listening)
      (hread : Endpoint.read ip port = .ok addr) (own : Option Endpoint) :
      Transition s (.connect ip port timeout) (.ok ())
        { s with localAddress := own, remote := some addr, state := .connected }
  | reconnectRefused {timeout : Timeout} (hremote : s.remote = none) (e : SocketError) :
      Transition s (.reconnect timeout) (.error e) s
  | stillConnected {timeout : Timeout} (hstate : s.state = .connected) :
      Transition s (.reconnect timeout) (.ok ()) s
  | reconnected {timeout : Timeout} {addr : Endpoint} (hremote : s.remote = some addr)
      (hstate : s.state ≠ .connected) {result : Except SocketError Unit} {s' : Stream}
      (h : Reconnecting s addr result s') : Transition s (.reconnect timeout) result s'
  /-- There is no connection that could be probed. -/
  | unconnected (h : s.connectedDescriptor? = none) : Transition s .isConnected false s
  | alive (hstate : s.state = .connected) : Transition s .isConnected true s
  | dead (hstate : s.state = .connected) :
      Transition s .isConnected false { s with state := .disconnected }
  | sent {data : List UInt8} {result : Except SocketError Nat} {s' : Stream}
      (h : Channel.SendCase s data none result s') : Transition s (.send data) result s'
  | received {capacity : Nat} {timeout : Timeout} {result : Except SocketError (List UInt8)}
      {s' : Stream} {σ : Type} [Kernel σ] {w : World σ}
      (h : Channel.ReceiveCase s capacity timeout Channel.bytesOnly w result s') :
      Transition s (.receive capacity timeout) result s'
  | optionSet {option : OptionName} {value : List UInt8} (result : Except SocketError Unit) :
      Transition s (.setOption option value) result s
  | closeRefused (h : s.descriptor = none) (e : SocketError) : Transition s .close (.error e) s
  | closed : Transition s .close (.ok ()) s.released

theorem bind_transition (s : Stream) (ip : String) (port : UInt16) (w : World σ) :
    Transition s (.bind ip port) (s.bind ip port w).1.1 (s.bind ip port w).1.2 := by
  cases hcheck : s.checkBind ip port with
  | error e =>
    simp only [bind, hcheck]
    exact .bindFailed e
  | ok checked =>
    obtain ⟨fd, addr⟩ := checked
    obtain ⟨hopen, hstate, _⟩ := checkBind_ok hcheck
    simp only [bind, hcheck, Act.bind_apply, Act.pure_apply]
    cases (bindReusable fd addr w).1 with
    | error e => exact .bindFailed e
    | ok own => exact .bound (by simp [hopen]) hstate own

theorem listen_transition (s : Stream) (backlog : Int32) (w : World σ) :
    Transition s (.listen backlog) (s.listen backlog w).1.1 (s.listen backlog w).1.2 := by
  cases hcheck : s.checkListen with
  | error e =>
    simp only [listen, hcheck]
    exact .listenFailed e
  | ok fd =>
    obtain ⟨hopen, hbound, hstate⟩ := checkListen_ok hcheck
    simp only [listen, hcheck, Act.bind_apply, Act.pure_apply]
    cases (listenOn fd s.localAddress backlog w).1 with
    | error e => exact .listenFailed e
    | ok _ => exact .listening (by simp [hopen]) hbound hstate

theorem connect_transition (s : Stream) (ip : String) (port : UInt16) (timeout : Timeout)
    (w : World σ) : Transition s (.connect ip port timeout) (s.connect ip port timeout w).1.1
      (s.connect ip port timeout w).1.2 := by
  cases hcheck : s.checkConnect ip port with
  | error e =>
    simp only [connect, hcheck]
    exact .connectRefused e
  | ok checked =>
    obtain ⟨fd, addr⟩ := checked
    obtain ⟨hopen, hconnected, hlistening, hread⟩ := checkConnect_ok hcheck
    replace hopen : s.descriptor.isSome := by simp [hopen]
    simp only [connect, hcheck]
    have hconnecting := connectTo_connecting s fd addr timeout w
    generalize (s.connectTo fd addr timeout w).1 = out at hconnecting ⊢
    obtain ⟨result, s'⟩ := out
    cases hconnecting with
    | unready e => exact .connectRefused e
    | failed e => exact .connectFailed hopen hconnected hlistening e
    | connected own => exact .connected hopen hlistening hread own

theorem reconnect_transition (s : Stream) (timeout : Timeout) (w : World σ) :
    Transition s (.reconnect timeout) (s.reconnect timeout w).1.1
      (s.reconnect timeout w).1.2 := by
  cases hremote : s.remote with
  | none =>
    simp only [reconnect, hremote]
    exact .reconnectRefused hremote _
  | some addr =>
    by_cases hstate : s.state = .connected
    · simp only [reconnect, hremote, if_pos hstate]
      exact .stillConnected hstate
    · exact .reconnected hremote hstate (reconnect_reconnecting hremote hstate timeout w)

theorem isConnected_transition (s : Stream) (w : World σ) :
    Transition s .isConnected (s.isConnected w).1.1 (s.isConnected w).1.2 := by
  cases hfd : s.connectedDescriptor? with
  | none =>
    simp only [isConnected, hfd]
    exact .unconnected hfd
  | some fd =>
    obtain ⟨hstate, _⟩ := connectedDescriptor?_eq_some hfd
    simp only [isConnected, hfd, Act.bind_apply]
    cases (probe fd s.remote w).1 with
    | true => exact .alive hstate
    | false => exact .dead hstate

theorem close_transition (s : Stream) (w : World σ) :
    Transition s .close (s.close w).1.1 (s.close w).1.2 := by
  cases hfd : s.descriptor with
  | none =>
    simp only [close, hfd]
    exact .closeRefused hfd _
  | some fd =>
    simp only [close, hfd]
    exact .closed

/-- **Every operation has one of the listed outcomes**, whatever the kernel answers. -/
theorem perform_transition (s : Stream) (op : Operation) (w : World σ) :
    Transition s op (s.perform op w).1.1 (s.perform op w).1.2 := by
  cases op with
  | bind ip port => exact bind_transition s ip port w
  | listen backlog => exact listen_transition s backlog w
  | accept timeout => exact .accepted _
  | connect ip port timeout => exact connect_transition s ip port timeout w
  | reconnect timeout => exact reconnect_transition s timeout w
  | isConnected => exact isConnected_transition s w
  | send data => exact .sent (Channel.send_case s data none w)
  | receive capacity timeout =>
    exact .received (Channel.receive_case s capacity timeout Channel.bytesOnly w)
  | setOption option value => exact .optionSet _
  | close => exact close_transition s w

theorem carryOut_transition (s : Stream) (op : Operation) (w : World σ) :
    Transition s op (carryOut s op w).1.result (carryOut s op w).2 :=
  perform_transition s op w.recorded

/-- A stream keeps its profile. -/
theorem Transition.profile_eq {s s' : Stream} {op : Operation} {result : op.Result}
    (ht : Transition s op result s') : s'.profile = s.profile := by
  cases ht with
  | sent hcase => rw [frame_of_sendCase hcase]
  | received hcase => rw [frame_of_receiveCase hcase]
  | reconnected _ _ h => exact h.profile_eq
  | _ => rfl

/-! ### Calls -/

/-- An operation that neither makes nor ends a connection: it uses the socket as it is. -/
def Operation.Ordinary : Operation → Prop
  | .bind .. | .listen _ | .isConnected | .send _ | .receive .. | .setOption .. => True
  | .accept _ | .connect .. | .reconnect _ | .close => False

/-- An ordinary operation keeps the socket and what is known of its connections. -/
theorem Transition.of_ordinary {s s' : Stream} {op : Operation} {result : op.Result}
    (ht : Transition s op result s') (hop : op.Ordinary) :
    s'.descriptor = s.descriptor ∧ s'.remote = s.remote := by
  cases ht with
  | sent hcase => rw [frame_of_sendCase hcase]; exact ⟨rfl, rfl⟩
  | received hcase => rw [frame_of_receiveCase hcase]; exact ⟨rfl, rfl⟩
  | _ => first | exact ⟨rfl, rfl⟩ | exact hop.elim

theorem ordinary_makes {s : Stream} {op : Operation} (hop : op.Ordinary)
    {P : Call → Prop}
    (h : ∀ fd, s.descriptor = some fd → ∀ call, call.Ordinary fd → P call) :
    (s.perform op : Act σ _).Makes P := by
  cases op with
  | bind ip port =>
    show (s.bind ip port : Act σ _).Makes P
    rw [bind]
    split
    · exact .pure _
    · rename_i fd addr hcheck
      refine .bind ((bindReusable_makes fd addr).mono (h fd ?_)) fun _ => .pure _
      exact (checkBind_ok hcheck).1
  | listen backlog =>
    show (s.listen backlog : Act σ _).Makes P
    rw [listen]
    split
    · exact .pure _
    · rename_i fd hcheck
      refine .bind ((listenOn_makes fd _ _).mono (h fd ?_)) fun _ => .pure _
      exact (checkListen_ok hcheck).1
  | isConnected =>
    show (s.isConnected : Act σ _).Makes P
    rw [isConnected]
    split
    · exact .pure _
    · rename_i fd hfd
      refine .bind ((probe_makes fd _).mono (h fd ?_)) fun alive => ?_
      · exact (connectedDescriptor?_eq_some hfd).2
      · cases alive <;> exact .pure _
  | send data => exact Channel.send_makes _ _ h
  | receive capacity timeout => exact Channel.receive_makes _ _ _ h
  | setOption option value =>
    refine .bind (setRawOption_makes _ _ fun fd hheld => h fd ?_) fun _ => .pure _
    exact Channel.descriptor_of_held hheld
  | accept timeout => exact hop.elim
  | connect ip port timeout => exact hop.elim
  | reconnect timeout => exact hop.elim
  | close => exact hop.elim

/-- An operation that does not connect again makes no new socket. -/
theorem perform_makes (s : Stream) {op : Operation} (h : ∀ timeout, op ≠ .reconnect timeout) :
    (s.perform op : Act σ _).Makes Call.Plain := by
  by_cases hop : op.Ordinary
  · exact ordinary_makes hop fun _ _ _ hcall => hcall.uses.plain
  · cases op with
    | accept timeout => exact .bind (accept_makes s timeout) fun _ => .pure _
    | connect ip port timeout =>
      show (s.connect ip port timeout : Act σ _).Makes Call.Plain
      rw [connect]
      split
      · exact .pure _
      · exact (connectTo_makes _ _ _ _).mono fun _ => Call.Uses.plain
    | reconnect timeout => exact absurd rfl (h timeout)
    | close =>
      show (s.close : Act σ _).Makes Call.Plain
      rw [close]
      split
      · exact .pure _
      · exact .bind (release_makes _) fun _ => .pure _
    | _ => exact absurd trivial hop

end Stream

end ProfiledSocket
