/-
What an operation can do to a datagram socket.

Every operation of a datagram socket has a handful of outcomes.  They are listed here once, each
with what must have been the case before, what the caller is told and what the socket is
afterwards.

* `Datagram.Transition` — the outcomes of the operations;
* **`Datagram.perform_transition`** — there are no others, whatever the kernel answers;
* **`Datagram.perform_makes`** — the calls that the operations make;
* **`Datagram.send_ensures`** — the kernel is asked to send something to the default peer only
  while there is one.

Design notes: the transfers of a datagram socket are those of any channel, so their outcomes are
taken over as they are.  A datagram whose source is wanted, too, is received like any other, and
then the clock is read; that is the only thing in which its outcome differs.
-/
import ProfiledSocket.Proofs.Calls
import ProfiledSocket.Proofs.Run
import ProfiledSocket.Proofs.Transfer

namespace ProfiledSocket

variable {σ : Type} [Kernel σ]

namespace Datagram

/-! ### Checks -/

section Checks

variable {d : Datagram} {ip : String} {port : UInt16} {fd : Descriptor} {addr : Endpoint}

theorem checkBind_ok (h : d.checkBind ip port = .ok (fd, addr)) :
    d.descriptor = some fd ∧ d.isBound = false ∧ Endpoint.read ip port = .ok addr := by
  obtain ⟨fd', hheld, h⟩ := Except.ok_of_bind h
  by_cases hbound : d.isBound = true
  · rw [if_pos hbound] at h
    cases h
  · rw [if_neg hbound] at h
    obtain ⟨addr', hread, h⟩ := Except.ok_of_bind h
    cases h
    exact ⟨Channel.descriptor_of_held hheld, by simpa using hbound, hread⟩

theorem checkConnect_ok (h : d.checkConnect ip port = .ok (fd, addr)) :
    d.descriptor = some fd ∧ Endpoint.read ip port = .ok addr := by
  obtain ⟨fd', hheld, h⟩ := Except.ok_of_bind h
  obtain ⟨addr', hread, h⟩ := Except.ok_of_bind h
  cases h
  exact ⟨Channel.descriptor_of_held hheld, hread⟩

/-- Only a socket with a default peer gets as far as sending something to it. -/
theorem defaultPeer_of_checkSend {data : List UInt8}
    (h : Channel.checkSend d data none = .ok fd) : d.defaultPeer.isSome := by
  have hready : Channel.readyDescriptor d .sending data.length = .ok fd := h
  rw [Channel.readyDescriptor] at hready
  split at hready
  · cases hready
  · split at hready
    · cases hready
    · rename_i hobstacle
      by_contra hpeer
      simp [Channel.obstacle?, hpeer] at hobstacle

end Checks

/-- A new socket is what is made of its descriptor. -/
theorem eq_ofDescriptor_of_new {d : Datagram} {profile : Profile} {clock : Clock} {w : World σ}
    (h : (Datagram.new profile clock w).1 = .ok d) : ∃ fd, d = ofDescriptor fd profile clock :=
  (createSocket_ok h).2

/-! ### All operations -/

/-- The outcomes of the operations of a datagram socket: what the caller is told, and the socket
afterwards. -/
inductive Transition (d : Datagram) : (op : Operation) → op.Result → Datagram → Prop
  | bindFailed {ip : String} {port : UInt16} (e : SocketError) :
      Transition d (.bind ip port) (.error e) d
  | bound {ip : String} {port : UInt16} (hopen : d.descriptor.isSome) (own : Endpoint) :
      Transition d (.bind ip port) (.ok ()) { d with localAddress := some own, isBound := true }
  | connectFailed {ip : String} {port : UInt16} (e : SocketError) :
      Transition d (.connect ip port) (.error e) d
  | connected {ip : String} {port : UInt16} {addr : Endpoint} (hopen : d.descriptor.isSome)
      (hread : Endpoint.read ip port = .ok addr) (own : Option Endpoint) :
      Transition d (.connect ip port) (.ok ())
        { d with defaultPeer := some addr, localAddress := own.or d.localAddress }
  | sent {data : List UInt8} {result : Except SocketError Nat} {d' : Datagram}
      (h : Channel.SendCase d data none result d') : Transition d (.send data) result d'
  /-- There is nothing to send, or no endpoint to send it to. -/
  | misdirected {data : List UInt8} {ip : String} {port : UInt16} (e : SocketError) :
      Transition d (.sendTo data ip port) (.error e) d
  | sentTo {data : List UInt8} {ip : String} {port : UInt16} {destination : Endpoint}
      {result : Except SocketError Nat} {d' : Datagram}
      (h : Channel.SendCase d data (some destination) result d') :
      Transition d (.sendTo data ip port) result d'
  | received {capacity : Nat} {timeout : Timeout} {result : Except SocketError (List UInt8)}
      {d' : Datagram} {σ : Type} [Kernel σ] {w : World σ}
      (h : Channel.ReceiveCase d capacity timeout Channel.bytesOnly w result d') :
      Transition d (.receive capacity timeout) result d'
  | undelivered {capacity : Nat} {timeout : Timeout} {e : SocketError} {d' : Datagram} {σ : Type}
      [Kernel σ] {w : World σ}
      (h : Channel.ReceiveCase d capacity timeout bytesAndSource w (.error e) d') :
      Transition d (.receiveFrom capacity timeout) (.error e) d'
  /-- The clock is read once for a datagram that is delivered. -/
  | delivered {capacity : Nat} {timeout : Timeout} {data : List UInt8} {source : Endpoint}
      {d' : Datagram} {σ : Type} [Kernel σ] {w : World σ}
      (h : Channel.ReceiveCase d capacity timeout bytesAndSource w (.ok (data, source)) d')
      (timestamp : UInt64) :
      Transition d (.receiveFrom capacity timeout) (.ok ⟨data, source, timestamp⟩) d'.clockRead
  | optionSet {option : OptionName} {value : List UInt8} (result : Except SocketError Unit) :
      Transition d (.setOption option value) result d
  | closeRefused (h : d.descriptor = none) (e : SocketError) : Transition d .close (.error e) d
  | closed : Transition d .close (.ok ()) d.released

section Operations

variable (d : Datagram) (w : World σ)

theorem bind_transition (ip : String) (port : UInt16) :
    Transition d (.bind ip port) (d.bind ip port w).1.1 (d.bind ip port w).1.2 := by
  cases hcheck : d.checkBind ip port with
  | error e =>
    simp only [bind, hcheck]
    exact .bindFailed e
  | ok checked =>
    obtain ⟨fd, addr⟩ := checked
    have hfd := (checkBind_ok hcheck).1
    simp only [bind, hcheck, Act.bind_apply, Act.pure_apply]
    cases (bindTo fd addr w).1 with
    | error e => exact .bindFailed e
    | ok own => exact .bound (by rw [hfd]; rfl) own

theorem connect_transition (ip : String) (port : UInt16) :
    Transition d (.connect ip port) (d.connect ip port w).1.1 (d.connect ip port w).1.2 := by
  cases hcheck : d.checkConnect ip port with
  | error e =>
    simp only [connect, hcheck]
    exact .connectFailed e
  | ok checked =>
    obtain ⟨fd, addr⟩ := checked
    obtain ⟨hfd, hread⟩ := checkConnect_ok hcheck
    simp only [connect, hcheck, Act.bind_apply, Act.pure_apply]
    cases (connectDescriptor fd addr w).1 with
    | error e => exact .connectFailed e
    | ok own => exact .connected (by rw [hfd]; rfl) hread own

theorem sendTo_transition (data : List UInt8) (ip : String) (port : UInt16) :
    Transition d (.sendTo data ip port) (d.sendTo data ip port w).1.1
      (d.sendTo data ip port w).1.2 := by
  cases hcheck : checkDestination data ip port with
  | error e =>
    simp only [sendTo, hcheck]
    exact .misdirected e
  | ok destination =>
    simp only [sendTo, hcheck]
    exact .sentTo (Channel.send_case d data (some destination) w)

theorem receiveFrom_transition (capacity : Nat) (timeout : Timeout) :
    Transition d (.receiveFrom capacity timeout) (d.receiveFrom capacity timeout w).1.1
      (d.receiveFrom capacity timeout w).1.2 := by
  have hcase := Channel.receive_case d capacity timeout bytesAndSource w
  simp only [receiveFrom, Act.bind_apply]
  -- the clock is read after a datagram has been received, and only then
  generalize Channel.receive d capacity timeout bytesAndSource w = outcome at hcase ⊢
  obtain ⟨⟨e | ⟨data, source⟩, d'⟩, w'⟩ := outcome
  · exact .undelivered hcase
  · simp only [Act.bind_apply, Act.pure_apply, readClock_socket]
    exact .delivered hcase _

theorem close_transition :
    Transition d .close (d.close w).1.1 (d.close w).1.2 := by
  cases hfd : d.descriptor with
  | none =>
    simp only [close, hfd]
    exact .closeRefused hfd _
  | some fd =>
    simp only [close, hfd]
    exact .closed

/-- **Every operation has one of the listed outcomes**, whatever the kernel answers. -/
theorem perform_transition (op : Operation) :
    Transition d op (d.perform op w).1.1 (d.perform op w).1.2 := by
  cases op with
  | bind ip port => exact d.bind_transition w ip port
  | connect ip port => exact d.connect_transition w ip port
  | send data => exact .sent (Channel.send_case d data none w)
  | sendTo data ip port => exact d.sendTo_transition w data ip port
  | receive capacity timeout =>
    exact .received (Channel.receive_case d capacity timeout Channel.bytesOnly w)
  | receiveFrom capacity timeout => exact d.receiveFrom_transition w capacity timeout
  | setOption option value => exact .optionSet _
  | close => exact d.close_transition w

theorem carryOut_transition (op : Operation) :
    Transition d op (carryOut d op w).1.result (carryOut d op w).2 :=
  d.perform_transition w.recorded op

end Operations

/-! ### Transfers -/

/-- A send changes nothing but the counters. -/
theorem frame_of_sendCase {d d' : Datagram} {data : List UInt8} {destination : Option Endpoint}
    {result : Except SocketError Nat} (h : Channel.SendCase d data destination result d') :
    d' = { d with traffic := d'.traffic } := by
  cases h <;> rfl

/-- Nor does a receive. -/
theorem frame_of_receiveCase {d d' : Datagram} {α : Type} {capacity : Nat} {timeout : Timeout}
    {view : Received capacity → Except IoError α} {w : World σ} {result : Except SocketError α}
    (h : Channel.ReceiveCase d capacity timeout view w result d') :
    d' = { d with traffic := d'.traffic } := by
  cases h <;> rfl

/-- A datagram socket keeps its profile. -/
theorem Transition.profile_eq {d d' : Datagram} {op : Operation} {result : op.Result}
    (ht : Transition d op result d') : d'.profile = d.profile := by
  cases ht with
  | sent hcase => rw [frame_of_sendCase hcase]
  | sentTo hcase => rw [frame_of_sendCase hcase]
  | received hcase => rw [frame_of_receiveCase hcase]
  | undelivered hcase => rw [frame_of_receiveCase hcase]
  | delivered hcase _ => rw [clockRead, frame_of_receiveCase hcase]
  | _ => rfl

/-- A datagram socket keeps its descriptor until it is closed. -/
theorem Transition.descriptor_eq {d d' : Datagram} {op : Operation} {result : op.Result}
    (ht : Transition d op result d') : d'.descriptor = d.descriptor ∨ d'.descriptor = none := by
  cases ht with
  | sent hcase => exact .inl (by rw [frame_of_sendCase hcase])
  | sentTo hcase => exact .inl (by rw [frame_of_sendCase hcase])
  | received hcase => exact .inl (by rw [frame_of_receiveCase hcase])
  | undelivered hcase => exact .inl (by rw [frame_of_receiveCase hcase])
  | delivered hcase _ => exact .inl (by rw [clockRead, frame_of_receiveCase hcase])
  | closed => exact .inr rfl
  | _ => exact .inl rfl

/-- A transfer that fails does not even change the counters. -/
theorem eq_of_spared {d d' : Datagram} {e : SocketError} (h : Channel.Spared d e d') : d' = d := by
  cases h <;> rfl

/-! ### Calls -/

/-- No operation of a datagram socket makes other calls than ordinary ones, but for those that give
it a default peer and those that close it. -/
theorem perform_makes (d : Datagram) {P : Call → Prop}
    (hordinary : ∀ fd call, Call.Ordinary fd call → P call)
    (hconnect : ∀ fd addr, P (.connect fd addr)) (hclose : ∀ fd, P (.close fd)) (op : Operation) :
    (d.perform op : Act σ _).Makes P := by
  cases op with
  | bind ip port =>
    show (d.bind ip port : Act σ _).Makes P
    rw [Datagram.bind]
    split
    · exact .pure _
    · rename_i fd addr _
      exact .bind ((bindTo_makes fd addr).mono (hordinary fd)) fun _ => .pure _
  | connect ip port =>
    show (d.connect ip port : Act σ _).Makes P
    rw [connect]
    split
    · exact .pure _
    · rename_i fd addr _
      refine .bind ((connectDescriptor_makes fd addr).mono ?_) fun _ => .pure _
      rintro call (rfl | h)
      · exact hconnect fd addr
      · exact hordinary fd call h
  | send data => exact Channel.send_makes data none fun fd _ => hordinary fd
  | sendTo data ip port =>
    show (d.sendTo data ip port : Act σ _).Makes P
    rw [sendTo]
    split
    · exact .pure _
    · exact Channel.send_makes data _ fun fd _ => hordinary fd
  | receive capacity timeout => exact Channel.receive_makes _ _ _ fun fd _ => hordinary fd
  | receiveFrom capacity timeout =>
    refine .bind (Channel.receive_makes _ _ _ fun fd _ => hordinary fd) fun out => ?_
    obtain ⟨e | ⟨data, source⟩, d'⟩ := out
    · exact .pure _
    · exact .bind d'.readClock_makes fun _ => .pure _
  | setOption option value =>
    exact .bind (setRawOption_makes option value fun fd _ => hordinary fd) fun _ => .pure _
  | close =>
    show (d.close : Act σ _).Makes P
    rw [close]
    split
    · exact .pure _
    · rename_i fd _
      exact .bind (.note _ _) fun _ => .bind (closeDescriptor_asks fd (hclose fd)) fun _ => .pure _

/-- The kernel is asked to send something to the default peer only while there is one. -/
theorem send_ensures (d : Datagram) (data : List UInt8) :
    (d.send data : Act σ _).Ensures fun talk _ => talk ≠ [] → d.defaultPeer.isSome := by
  cases hcheck : Channel.checkSend d data none with
  | error e =>
    rw [send, Channel.send, hcheck]
    exact .pure fun hsome => absurd rfl hsome
  | ok fd =>
    have hpeer := defaultPeer_of_checkSend hcheck
    have hmakes : (d.send data : Act σ _).Makes fun _ => True :=
      Channel.send_makes data none fun _ _ _ _ => trivial
    exact Act.Ensures.mono hmakes fun _ _ _ _ => hpeer

end Datagram

end ProfiledSocket
