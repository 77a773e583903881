/-
Refusals.

An operation refuses when one of its demands is not met.  The caller is told which one, and that is
all that happens: the kernel is not asked, and the socket stays as it is.  No other failure is told
in such words.

* `Proceeds` — a result that is no refusal;
* `Demanding` — an operation that refuses on account of its demands, and for nothing else;
* **`Decides.demanding`** — so does what begins with a check of its demands and then proceeds;
* **`Stream.perform_demanding`**, **`Peer.perform_demanding`**, **`Datagram.perform_demanding`** —
  and so do the operations of the three kinds of sockets;
* **`demands_first`** — whatever has been done before.

Design notes: that nothing happens is said of the world of a kernel that keeps a record, so that
no call is left out by it.  What an operation does once its demands are met is of interest only as
far as it does not refuse any more.
-/
import ProfiledSocket.Proofs.Demand
import ProfiledSocket.Proofs.Failure
import ProfiledSocket.Proofs.Stream.Anew

namespace ProfiledSocket

variable {σ : Type} [Kernel σ]

open Act

/-! ### What happens once all demands are met -/

/-- A result that is no refusal. -/
def Proceeds {α : Type} (result : Except SocketError α) : Prop :=
  ∀ e, failure? result = some e → e.isRefusal = false

namespace Proceeds

variable {α β : Type} {result : Except SocketError α} {e : SocketError}

theorem ok (a : α) : Proceeds (.ok a) := fun _ h => by cases h

theorem error (h : e.isRefusal = false) : Proceeds (.error e : Except SocketError α) := by
  rintro _ ⟨⟩
  exact h

/-- What is handed on as it is, if it is an error. -/
theorem map (h : Proceeds result) (after : Except SocketError α → Except SocketError β)
    (herror : ∀ e, after (.error e) = .error e) (hok : ∀ a, ∃ b, after (.ok a) = .ok b) :
    Proceeds (after result) := by
  cases result with
  | error e =>
    rw [herror]
    exact error (h e rfl)
  | ok a =>
    obtain ⟨b, hb⟩ := hok a
    rw [hb]
    exact ok b

end Proceeds

theorem FailsConnecting.proceeds {α : Type} {result : Except SocketError α}
    (h : FailsConnecting result) : Proceeds result := by
  intro e he
  rw [SocketError.isRefusal]
  rcases h e (failure?_eq_some he) with hkind | hkind | hkind | hkind <;> rw [hkind] <;> rfl

section Calls

variable (fd : Descriptor) (addr : Endpoint)

theorem bindDescriptor_proceeds :
    (bindDescriptor fd addr : Act σ _).Ensures fun _ => Proceeds := by
  refine .bind (.ask fun reply => ?_)
  cases reply with
  | error e => exact .pure (.error rfl)
  | ok _ => exact .bind (.mono (localEndpoint_makes fd) fun _ own _ => .pure (.ok _))

theorem Stream.bindReusable_proceeds :
    (Stream.bindReusable fd addr : Act σ _).Ensures fun _ => Proceeds := by
  refine .bind (.ask fun reply => ?_)
  cases reply with
  | error e => exact .pure (.error rfl)
  | ok _ =>
    refine .bind (.mono (bindDescriptor_proceeds fd addr) fun _ bound hproceeds => ?_)
    cases bound with
    | error e => exact .pure (.error (hproceeds e rfl))
    | ok own => exact .bind (.note (.pure (.ok own)))

theorem Stream.listenOn_proceeds (own : Option Endpoint) (backlog : Int32) :
    (Stream.listenOn fd own backlog : Act σ _).Ensures fun _ => Proceeds := by
  refine .bind (.ask fun reply => ?_)
  cases reply with
  | error e => exact .pure (.error rfl)
  | ok _ => exact .bind (.note (.pure (.ok _)))

theorem Stream.awaitConnection_proceeds (timeout : Timeout) :
    (Stream.awaitConnection fd timeout : Act σ _).Ensures fun _ => Proceeds := by
  rw [Stream.awaitConnection]
  split
  · exact .pure (.ok _)
  · refine .bind (.waitReady fun _ readiness _ => ?_)
    cases readiness with
    | error e => exact .pure (.error rfl)
    | ok outcome =>
      cases outcome with
      | ready => exact .pure (.ok _)
      | timedOut => exact .pure (.error rfl)

theorem Stream.adopt_proceeds (address : Option Endpoint) (nonblocking : Bool) :
    (Stream.adopt fd address nonblocking : Act σ _).Ensures fun _ => Proceeds := by
  have hmode : (if nonblocking then makeNonblocking fd else pure (.ok ()) : Act σ _).Ensures
      fun _ => Proceeds := by
    split
    · refine .mono (makeNonblocking_ensures fd) fun _ mode h => ?_
      rcases h.2 with rfl | ⟨_, rfl⟩
      · exact .ok _
      · exact .error rfl
    · exact .pure (.ok _)
  refine .bind (.mono hmode fun _ mode hproceeds => ?_)
  cases mode with
  | error e =>
    exact .bind (.mono (closeDescriptor_makes fd) fun _ _ _ => .pure (.error (hproceeds e rfl)))
  | ok _ =>
    cases address with
    | none => exact .bind (.mono (closeDescriptor_makes fd) fun _ _ _ => .pure (.error rfl))
    | some address => exact .bind (.note (.pure (.ok _)))

theorem Stream.accept_proceeds {s : Stream} {fd : Descriptor} (hcheck : s.checkAccept = .ok fd)
    (timeout : Timeout) : (s.accept timeout : Act σ _).Ensures fun _ => Proceeds := by
  rw [Stream.accept, hcheck]
  refine .bind (.mono (awaitConnection_proceeds fd timeout) fun _ waited hproceeds => ?_)
  cases waited with
  | error e => exact .pure (.error (hproceeds e rfl))
  | ok _ =>
    refine .bind (.ask fun reply => ?_)
    cases reply with
    | ok accepted => exact adopt_proceeds accepted.1 accepted.2 _
    | error e =>
      dsimp only
      split
      · exact .pure (.error rfl)
      · exact .pure (.error rfl)

theorem Datagram.bindTo_proceeds :
    (Datagram.bindTo fd addr : Act σ _).Ensures fun _ => Proceeds := by
  refine .bind (.mono (bindDescriptor_proceeds fd addr) fun _ bound hproceeds => ?_)
  cases bound with
  | error e => exact .pure (.error (hproceeds e rfl))
  | ok own => exact .bind (.note (.pure (.ok own)))

theorem Datagram.connectDescriptor_proceeds :
    (Datagram.connectDescriptor fd addr : Act σ _).Ensures fun _ => Proceeds := by
  refine .bind (.ask fun reply => ?_)
  cases reply with
  | error e => exact .pure (.error rfl)
  | ok _ =>
    refine .bind (.mono (localEndpoint_makes fd) fun _ own _ => ?_)
    exact .bind (.note (.pure (.ok own)))

end Calls

section Transfers

variable {C : Type} [Channel C] {c c' : C} {fd : Descriptor}

theorem Channel.SendCase.proceeds {data : List UInt8} {destination : Option Endpoint}
    {result : Except SocketError Nat} (h : SendCase c data destination result c')
    (hcheck : checkSend c data destination = .ok fd) : Proceeds result := by
  cases h with
  | refused hrefused =>
    rw [hcheck] at hrefused
    cases hrefused
  | sent _ n => exact .ok n
  | wouldBlock _ => exact .error rfl
  | failed _ e => exact .error rfl

theorem Channel.ReceiveCase.proceeds {α : Type} {capacity : Nat} {timeout : Timeout}
    {view : Received capacity → Except IoError α} {w : World σ} {result : Except SocketError α}
    (h : ReceiveCase c capacity timeout view w result c')
    (hcheck : readyDescriptor c .receiving capacity = .ok fd) : Proceeds result := by
  cases h with
  | refused hrefused =>
    rw [hcheck] at hrefused
    cases hrefused
  | unready _ hwait =>
    rcases awaitReadable_error hwait with rfl | ⟨cause, rfl⟩
    · exact .error rfl
    · exact .error rfl
  | received _ _ _ _ _ => exact .ok _
  | nothing _ _ => exact .error rfl
  | ended _ _ _ => exact .error rfl
  | failed _ _ e => exact .error rfl

end Transfers

theorem setRawOption_proceeds {held : Except SocketError Descriptor} {option : OptionName}
    {value : List UInt8} {fd : Descriptor} (hcheck : checkRawOption held value = .ok fd) :
    (setRawOption held option value : Act σ _).Ensures fun _ => Proceeds := by
  rw [setRawOption, hcheck]
  refine .bind (.ask fun reply => ?_)
  cases reply with
  | ok _ => exact .pure (.ok _)
  | error e => exact .pure (.error rfl)

/-! ### Refusing -/

/-- An operation that does nothing but tell the caller about the first demand that is not met, and
tells of nothing else in this way. -/
structure Demanding {τ S β : Type} (error? : β → Option SocketError) (s : S)
    (x : Act τ (β × S)) (demands : List Demand) : Prop where
  of_refuses : ∀ e, Refuses demands e →
    ∃ result, error? result = some e ∧ ∀ w, x w = ((result, s), w)
  isRefusal_iff : ∀ w, (∃ e, error? (x w).1.1 = some e ∧ e.isRefusal = true) ↔
    ∃ demand ∈ demands, demand.broken

section Demanding

variable {τ S α : Type} {s : S} {x : Act τ (Except SocketError α × S)}

/-- It is enough that the demands are what a check decides. -/
theorem Decides.demanding {β : Type} {demands : List Demand} {check : Except SocketError β}
    (h : Decides demands check) (hrefused : ∀ e, check = .error e → x = pure (.error e, s))
    (hproceeds : ∀ b, check = .ok b → ∀ w, Proceeds (x w).1.1) :
    Demanding failure? s x demands where
  of_refuses e hrefuses := ⟨.error e, rfl, fun w => by rw [hrefused e ((h e).2 hrefuses)]; rfl⟩
  isRefusal_iff w := by
    rw [← exists_refuses]
    cases hcheck : check with
    | error e =>
      rw [hrefused e hcheck]
      have hrefuses := (h e).1 hcheck
      exact iff_of_true ⟨e, rfl, hrefuses.isRefusal⟩ ⟨e, hrefuses⟩
    | ok b =>
      refine iff_of_false ?_ ?_
      · rintro ⟨e, he, hrefusal⟩
        rw [hproceeds b hcheck w e he] at hrefusal
        cases hrefusal
      · rintro ⟨e, hrefuses⟩
        rw [(h e).2 hrefuses] at hcheck
        cases hcheck

/-- An operation with one demand. -/
theorem demanding_single {demand : Demand}
    (hrefused : demand.broken → x = pure (.error demand.error, s))
    (hproceeds : ¬ demand.broken → ∀ w, Proceeds (x w).1.1) :
    Demanding failure? s x [demand] := by
  classical
  have hdecides : Decides [demand] (if demand.broken then .error demand.error else .ok ()) :=
    .guard Iff.rfl fun _ => .ok ()
  refine hdecides.demanding (fun e he => ?_) fun _ hmet => hproceeds fun hbroken => ?_
  · obtain ⟨hbroken, rfl⟩ := refuses_singleton.1 ((hdecides e).1 he)
    exact hrefused hbroken
  · rw [if_pos hbroken] at hmet
    cases hmet

end Demanding

section Channels

variable {C : Type} [Channel C] (c : C)

theorem Channel.send_demanding {demands : List Demand}
    (h : ∀ e, Channel.obstacle? c .sending = some e ↔ Refuses demands e) (data : List UInt8) :
    Demanding failure? c (Channel.send c data none : Act (Recorded σ) _)
      (.nonempty data.length :: .opened (Channel.descriptor c) :: demands) := by
  refine (decides_readyDescriptor c h data.length).demanding (fun e he => ?_) fun fd hcheck w => ?_
  · rw [Channel.send, show Channel.checkSend c data none = .error e from he]
  · exact (Channel.send_case c data none w).proceeds hcheck

theorem Channel.receive_demanding {demands : List Demand}
    (h : ∀ e, Channel.obstacle? c .receiving = some e ↔ Refuses demands e) (capacity : Nat)
    (timeout : Timeout) :
    Demanding failure? c (Channel.receive c capacity timeout bytesOnly : Act (Recorded σ) _)
      (.nonempty capacity :: .opened (Channel.descriptor c) :: demands) := by
  refine (decides_readyDescriptor c h capacity).demanding (fun e he => ?_) fun fd hcheck w => ?_
  · rw [Channel.receive, he]
  · exact (Channel.receive_case c capacity timeout bytesOnly w).proceeds hcheck

theorem setRawOption_demanding (option : OptionName) (value : List UInt8) :
    Demanding failure? c
      (do return (← setRawOption (Channel.held c) option value, c) : Act (Recorded σ) _)
      [.opened (Channel.descriptor c), .invalid (value = []) "option value must not be empty",
        .invalid (UInt32.size ≤ value.length) "option value too long"] := by
  refine (decides_checkRawOption (decides_held c) value).demanding (fun e he => ?_)
    fun fd hcheck w => ?_
  · rw [setRawOption, he]
    rfl
  · exact (setRawOption_proceeds hcheck).result w

end Channels

namespace Stream

section Operations

variable (s : Stream)

theorem bind_demanding (ip : String) (port : UInt16) :
    Demanding failure? s (s.bind ip port : Act (Recorded σ) _) (s.demands (.bind ip port)) := by
  refine (s.decides_checkBind ip port).demanding (fun e he => by rw [bind, he]) ?_
  rintro ⟨fd, addr⟩ hcheck w
  rw [bind, hcheck]
  exact ((bindReusable_proceeds fd addr).result w).map (fun bound => (s.afterBind bound).1)
    (fun _ => rfl) fun _ => ⟨_, rfl⟩

theorem connect_demanding (ip : String) (port : UInt16) (timeout : Timeout) :
    Demanding failure? s (s.connect ip port timeout : Act (Recorded σ) _)
      (s.demands (.connect ip port timeout)) := by
  refine (s.decides_checkConnect ip port timeout).demanding (fun e he => by rw [connect, he]) ?_
  rintro ⟨fd, addr⟩ hcheck w
  rw [connect, hcheck]
  exact ((connectTo_fails s fd addr timeout).result w).proceeds

theorem reconnect_demanding (timeout : Timeout) :
    Demanding failure? s (s.reconnect timeout : Act (Recorded σ) _)
      (s.demands (.reconnect timeout)) := by
  refine demanding_single (fun hremote => ?_) fun hremote w => ?_
  · rw [reconnect, show s.remote = none from hremote]
    rfl
  · obtain ⟨addr, haddr⟩ := Option.ne_none_iff_exists'.1 hremote
    rw [reconnect, haddr]
    dsimp only
    split
    · exact .ok _
    · -- whatever goes wrong now is told as a failure to connect again
      simp only [Act.bind_apply, Act.pure_apply]
      generalize ((connectAnew s.released addr timeout : Act (Recorded σ) _) _).1.1 = outcome
      cases outcome with
      | ok _ => exact .ok _
      | error cause => exact .error rfl

theorem close_demanding :
    Demanding failure? s (s.close : Act (Recorded σ) _) (s.demands .close) := by
  refine demanding_single (fun hclosed => ?_) fun hopen w => ?_
  · rw [close, show s.descriptor = none from hclosed]
    rfl
  · obtain ⟨fd, hfd⟩ := Option.ne_none_iff_exists'.1 hopen
    rw [close, hfd]
    exact .ok _

variable {s}

theorem listen_demanding (h : s.Consistent) (backlog : Int32) :
    Demanding failure? s (s.listen backlog : Act (Recorded σ) _) (s.demands (.listen backlog)) := by
  refine (decides_checkListen h backlog).demanding (fun e he => by rw [listen, he])
    fun fd hcheck w => ?_
  rw [listen, hcheck]
  exact ((listenOn_proceeds fd s.localAddress backlog).result w).map
    (fun listened => (s.afterListen backlog listened).1) (fun _ => rfl) fun _ => ⟨_, rfl⟩

theorem accept_demanding (h : s.Consistent) (timeout : Timeout) :
    Demanding failure? s (do return (← s.accept timeout, s) : Act (Recorded σ) _)
      (s.demands (.accept timeout)) := by
  refine (decides_checkAccept h timeout).demanding (fun e he => ?_) fun fd hcheck w => ?_
  · rw [accept, he]
    rfl
  · exact (accept_proceeds hcheck timeout).result w

end Operations

/-- **The operations of a stream refuse on account of their demands**, if its fields fit
together. -/
theorem perform_demanding {s : Stream} (h : s.Consistent) (op : Operation) :
    Demanding (Fallible.error? (S := Stream) op) s (s.perform op : Act (Recorded σ) _)
      (s.demands op) := by
  cases op with
  | bind ip port => exact s.bind_demanding ip port
  | listen backlog => exact listen_demanding h backlog
  | accept timeout => exact accept_demanding h timeout
  | connect ip port timeout => exact s.connect_demanding ip port timeout
  | reconnect timeout => exact s.reconnect_demanding timeout
  | isConnected =>
    -- there is nothing to demand, and nothing that could fail
    exact ⟨fun e he => absurd he not_refuses_nil, fun w =>
      iff_of_false (fun ⟨e, he, _⟩ => by cases he) (fun ⟨_, hmem, _⟩ => by cases hmem)⟩
  | send data => exact Channel.send_demanding s (s.refuses_obstacle .sending) data
  | receive capacity timeout =>
    exact Channel.receive_demanding s (s.refuses_obstacle .receiving) capacity timeout
  | setOption option value => exact setRawOption_demanding s option value
  | close => exact s.close_demanding

end Stream

/-- **The operations of an accepted connection refuse on account of their demands.** -/
theorem Peer.perform_demanding (p : Peer) (op : Operation) :
    Demanding (Fallible.error? (S := Peer) op) p (p.perform op : Act (Recorded σ) _)
      (p.demands op) := by
  cases op with
  | send data => exact Channel.send_demanding p (p.refuses_obstacle .sending) data
  | receive capacity timeout =>
    exact Channel.receive_demanding p (p.refuses_obstacle .receiving) capacity timeout
  | close =>
    refine demanding_single (x := p.close) (fun hclosed => ?_) fun hopen w => ?_
    · rw [close, show p.descriptor = none from hclosed]
      rfl
    · obtain ⟨fd, hfd⟩ := Option.ne_none_iff_exists'.1 hopen
      rw [close, hfd]
      exact .ok _

namespace Datagram

variable (d : Datagram)

theorem bind_demanding (ip : String) (port : UInt16) :
    Demanding failure? d (d.bind ip port : Act (Recorded σ) _) (d.demands (.bind ip port)) := by
  refine (d.decides_checkBind ip port).demanding (fun e he => by rw [Datagram.bind, he]) ?_
  rintro ⟨fd, addr⟩ hcheck w
  rw [Datagram.bind, hcheck]
  exact ((bindTo_proceeds fd addr).result w).map (fun bound => (d.afterBind bound).1)
    (fun _ => rfl) fun _ => ⟨_, rfl⟩

theorem connect_demanding (ip : String) (port : UInt16) :
    Demanding failure? d (d.connect ip port : Act (Recorded σ) _)
      (d.demands (.connect ip port)) := by
  refine (d.decides_checkConnect ip port).demanding (fun e he => by rw [connect, he]) ?_
  rintro ⟨fd, addr⟩ hcheck w
  rw [connect, hcheck]
  exact ((connectDescriptor_proceeds fd addr).result w).map
    (fun connected => (d.afterConnect addr connected).1) (fun _ => rfl) fun _ => ⟨_, rfl⟩

theorem sendTo_demanding (data : List UInt8) (ip : String) (port : UInt16) :
    Demanding failure? d (d.sendTo data ip port : Act (Recorded σ) _)
      (d.demands (.sendTo data ip port)) := by
  refine (d.decides_sendTo data ip port).demanding (fun e he => ?_) fun fd hcheck w => ?_
  · rw [sendTo]
    cases hdestination : checkDestination data ip port with
    | error e' =>
      rw [hdestination] at he
      cases he
      rfl
    | ok destination =>
      rw [hdestination] at he
      show Channel.send d data (some destination) = _
      rw [Channel.send, show Channel.checkSend d data (some destination) = .error e from he]
  · obtain ⟨destination, hdestination, hsend⟩ := Except.ok_of_bind hcheck
    rw [sendTo, hdestination]
    exact (Channel.send_case d data (some destination) w).proceeds hsend

theorem receiveFrom_demanding (capacity : Nat) (timeout : Timeout) :
    Demanding failure? d (d.receiveFrom capacity timeout : Act (Recorded σ) _)
      (d.demands (.receiveFrom capacity timeout)) := by
  refine (decides_readyDescriptor d d.refuses_obstacle_receiving capacity).demanding
    (fun e he => ?_) fun fd hcheck w => ?_
  · rw [receiveFrom, Channel.receive, he]
    rfl
  · have hproceeds := (Channel.receive_case d capacity timeout bytesAndSource w).proceeds hcheck
    simp only [receiveFrom, Act.bind_apply]
    generalize Channel.receive d capacity timeout bytesAndSource w = outcome at hproceeds ⊢
    obtain ⟨⟨e | ⟨data, source⟩, d'⟩, w'⟩ := outcome
    · exact .error (hproceeds e rfl)
    · exact .ok _

theorem close_demanding :
    Demanding failure? d (d.close : Act (Recorded σ) _) (d.demands .close) := by
  refine demanding_single (fun hclosed => ?_) fun hopen w => ?_
  · rw [close, show d.descriptor = none from hclosed]
    rfl
  · obtain ⟨fd, hfd⟩ := Option.ne_none_iff_exists'.1 hopen
    rw [close, hfd]
    exact .ok _

/-- **The operations of a datagram socket refuse on account of their demands.** -/
theorem perform_demanding (op : Operation) :
    Demanding (Fallible.error? (S := Datagram) op) d (d.perform op : Act (Recorded σ) _)
      (d.demands op) := by
  cases op with
  | bind ip port => exact d.bind_demanding ip port
  | connect ip port => exact d.connect_demanding ip port
  | send data => exact Channel.send_demanding d d.refuses_obstacle_sending data
  | sendTo data ip port => exact d.sendTo_demanding data ip port
  | receive capacity timeout =>
    exact Channel.receive_demanding d d.refuses_obstacle_receiving capacity timeout
  | receiveFrom capacity timeout => exact d.receiveFrom_demanding capacity timeout
  | setOption option value => exact setRawOption_demanding d option value
  | close => exact d.close_demanding

end Datagram

/-! ### All sockets -/

/-- **Demands come first.**  Whatever has been done to a socket, an operation whose demands are not
all met tells the caller about the first of them that is not, asks the kernel for nothing, and
leaves the socket as it is; and an error that is a refusal means that one of them is not met. -/
theorem demands_first :
    (∀ (history : History Stream) (s : Stream), Run history s → ∀ op : Stream.Operation,
      Demanding (Fallible.error? (S := Stream) op) s (s.perform op : Act (Recorded σ) _)
        (s.demands op)) ∧
    (∀ (p : Peer) (op : Peer.Operation),
      Demanding (Fallible.error? (S := Peer) op) p (p.perform op : Act (Recorded σ) _)
        (p.demands op)) ∧
    ∀ (d : Datagram) (op : Datagram.Operation),
      Demanding (Fallible.error? (S := Datagram) op) d (d.perform op : Act (Recorded σ) _)
        (d.demands op) :=
  ⟨fun _ _ hrun op => Stream.perform_demanding (Stream.run_consistent hrun) op,
    fun p op => p.perform_demanding op, fun d op => d.perform_demanding op⟩

/-- A stream that was closed can send nothing at all, but nothing at all is what is told first. -/
theorem demands_first_closed :
    let s := Stream.granted.released
    (∃ history, Run history s) ∧
      (∀ demand ∈ s.demands (.send []), demand.broken) ∧
      ∀ w : World (Recorded Granting), s.send [] w = ((.error .emptyBuffer, s), w) := by
  intro s
  obtain ⟨history, hrun⟩ := Stream.run_granted_released
  obtain ⟨hstreams, -, -⟩ := demands_first (σ := Granting)
  have hrefuses : Refuses (s.demands (.send [])) .emptyBuffer := .first rfl _
  obtain ⟨result, he, hsend⟩ := (hstreams history s hrun (.send [])).of_refuses _ hrefuses
  obtain rfl := failure?_eq_some he
  refine ⟨⟨history, hrun⟩, ?_, hsend⟩
  simp [Stream.demands, Demand.nonempty, Demand.opened, Demand.missing, Demand.invalid, s,
    Stream.released]

end ProfiledSocket
