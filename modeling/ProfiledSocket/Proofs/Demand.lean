/-
What operations demand before they do anything.

Every operation has a list of demands on its arguments and on the socket, in a fixed order, and each
demand has an error for when it is not met.  The checks that operations begin with find out about
the first demand that is not met.

* `Demand`, `Refuses` — a demand, and the error of the first that is not met;
* `Decides` — a check that fails with the error of the first demand that is not met;
* **`Decides.bind`** — checks are taken apart along their steps;
* `Stream.demands`, `Peer.demands`, `Datagram.demands` — the demands of all operations;
* **`decides_readyDescriptor`** — the check that transfers begin with, for all channels.

Design notes: the demands are said in terms of arguments and fields, and the address in terms of its
text.  Two demands of streams are shorter than what is checked: a stream that listens has a
descriptor, and none is connecting when it is asked for anything.
-/
import ProfiledSocket.Proofs.Endpoint
import ProfiledSocket.Proofs.Run
import ProfiledSocket.Proofs.Stream.Coherent

namespace ProfiledSocket

/-! ### Demands -/

/-- Whether an error of this kind says that the operation makes no sense here, or not yet, or not
any more. -/
def SocketError.Kind.isRefusal : SocketError.Kind → Bool
  | .invalidParam | .notInitialized | .alreadyConnected => true
  | _ => false

/-- Whether an error is a refusal. -/
def SocketError.isRefusal (e : SocketError) : Bool := e.kind.isRefusal

/-- Something that an operation demands: when the demand is not met, and what the caller is told
then. -/
structure Demand where
  broken : Prop
  error : SocketError
  isRefusal : error.isRefusal = true

namespace Demand

/-- A demand on arguments or on the state of a socket. -/
def invalid (broken : Prop) (text : String) : Demand := ⟨broken, .invalidParam text, rfl⟩

/-- That something is there which the operation needs. -/
def missing (broken : Prop) (text : String) : Demand := ⟨broken, .notInitialized text, rfl⟩

/-- That there is no connection yet. -/
def unconnected (connected : Prop) : Demand := ⟨connected, .alreadyConnected, rfl⟩

/-- That the socket is open. -/
def opened (held : Option Descriptor) : Demand := invalid (held = none) "socket is closed"

/-- That there is something to send, or room to receive into. -/
def nonempty (length : Nat) : Demand := invalid (length = 0) "buffer must not be empty"

/-- That a text is a dotted quad, with nothing but white space around it. -/
def address (text : String) : Demand where
  broken := ¬ ∃ ip rest, Text.Trimmed text.toList rest ∧ Ipv4.DottedQuad rest ip
  error := .invalidAddress text
  isRefusal := rfl

end Demand

/-- The first demand that is not met has the error `e`. -/
inductive Refuses : List Demand → SocketError → Prop
  | first {demand : Demand} (h : demand.broken) (rest : List Demand) :
      Refuses (demand :: rest) demand.error
  | later {demand : Demand} (h : ¬ demand.broken) {rest : List Demand} {e : SocketError}
      (hrest : Refuses rest e) : Refuses (demand :: rest) e

section Refuses

variable {demand : Demand} {demands more : List Demand} {e : SocketError}

theorem not_refuses_nil : ¬ Refuses [] e := fun h => by cases h

theorem refuses_cons_of_broken (h : demand.broken) :
    Refuses (demand :: demands) e ↔ demand.error = e := by
  constructor
  · rintro (_ | ⟨hmet, _⟩)
    · rfl
    · exact absurd h hmet
  · rintro rfl
    exact .first h demands

theorem refuses_cons_of_met (h : ¬ demand.broken) :
    Refuses (demand :: demands) e ↔ Refuses demands e := by
  constructor
  · rintro (⟨hbroken, _⟩ | ⟨_, hrest⟩)
    · exact absurd hbroken h
    · exact hrest
  · exact .later h

theorem refuses_singleton : Refuses [demand] e ↔ demand.broken ∧ demand.error = e := by
  by_cases hbroken : demand.broken
  · simp [refuses_cons_of_broken hbroken, hbroken]
  · simp [refuses_cons_of_met hbroken, not_refuses_nil, hbroken]

/-- There is an error if and only if there is a demand that is not met. -/
theorem exists_refuses : (∃ e, Refuses demands e) ↔ ∃ demand ∈ demands, demand.broken := by
  induction demands with
  | nil => simp [not_refuses_nil]
  | cons demand rest ih =>
    rw [List.exists_mem_cons_iff]
    by_cases hbroken : demand.broken
    · simp only [refuses_cons_of_broken hbroken, exists_eq', hbroken, true_or]
    · simp only [refuses_cons_of_met hbroken, ih, hbroken, false_or]

theorem Refuses.isRefusal (h : Refuses demands e) : e.isRefusal = true := by
  induction h with
  | first _ rest => exact Demand.isRefusal _
  | later _ _ ih => exact ih

theorem refuses_append :
    Refuses (demands ++ more) e ↔
      Refuses demands e ∨ (∀ e', ¬ Refuses demands e') ∧ Refuses more e := by
  induction demands with
  | nil => simp [not_refuses_nil]
  | cons demand rest ih =>
    by_cases hbroken : demand.broken
    · simp [refuses_cons_of_broken hbroken]
    · simp only [List.cons_append, refuses_cons_of_met hbroken, ih]

end Refuses

/-! ### Checks -/

/-- A check fails with the error of the first demand that is not met, and else succeeds. -/
def Decides {α : Type} (demands : List Demand) (check : Except SocketError α) : Prop :=
  ∀ e, check = .error e ↔ Refuses demands e

namespace Decides

variable {α β : Type} {demands more : List Demand}

theorem ok (a : α) : Decides [] (.ok a) := fun e => by simp [not_refuses_nil]

/-- A check of one demand, and then of the others. -/
theorem guard {demand : Demand} {P : Prop} {_ : Decidable P} (hP : P ↔ demand.broken)
    {check : Except SocketError α} (h : ¬ P → Decides demands check) :
    Decides (demand :: demands) (if P then .error demand.error else check) := by
  intro e
  by_cases hbroken : P
  · rw [if_pos hbroken, refuses_cons_of_broken (hP.1 hbroken), Except.error.injEq]
  · rw [if_neg hbroken, refuses_cons_of_met (mt hP.2 hbroken), h hbroken e]

/-- Two checks, one after the other. -/
theorem bind {check : Except SocketError α} {f : α → Except SocketError β}
    (h : Decides demands check) (hf : ∀ a, check = .ok a → Decides more (f a)) :
    Decides (demands ++ more) (check >>= f) := by
  intro e
  rw [refuses_append, ← h e]
  cases hcheck : check with
  | error e' =>
    have hrefuses := (h e').1 hcheck
    rw [show Except.error e' >>= f = .error e' from rfl, Except.error.injEq, Except.error.injEq]
    exact ⟨.inl, Or.rec id fun hnone => absurd hrefuses (hnone.1 e')⟩
  | ok a =>
    have hnone (e' : SocketError) : ¬ Refuses demands e' := by simp [← h e', hcheck]
    rw [show Except.ok a >>= f = f a from rfl, hf a hcheck e]
    exact ⟨fun hmore => .inr ⟨hnone, hmore⟩, fun h => (h.resolve_left nofun).2⟩

/-- A check of one demand. -/
theorem single {demand : Demand} {check : Except SocketError α}
    (hbroken : demand.broken → check = .error demand.error)
    (hmet : ¬ demand.broken → ∃ a, check = .ok a) : Decides [demand] check := by
  intro e
  by_cases h : demand.broken
  · rw [hbroken h, refuses_cons_of_broken h, Except.error.injEq]
  · obtain ⟨a, ha⟩ := hmet h
    rw [ha, refuses_cons_of_met h]
    exact ok a e

end Decides

theorem decides_read (ip : String) (port : UInt16) :
    Decides [.address ip] (Endpoint.read ip port) := by
  refine .single (fun hbroken => ?_) fun hmet => ?_
  · refine Endpoint.read_eq_error_iff.2 fun addr haddr => hbroken ?_
    exact ⟨addr.ip, (Endpoint.read_eq_ok_iff.1 haddr).2⟩
  · obtain ⟨address, hquad⟩ := not_not.1 hmet
    exact ⟨⟨address, port⟩, Endpoint.read_eq_ok_iff.2 ⟨rfl, hquad⟩⟩

section Channels

variable {C : Type} [Channel C] (c : C)

theorem decides_held : Decides [.opened (Channel.descriptor c)] (Channel.held c) := by
  refine .single (fun hclosed => ?_) fun hopen => ?_
  · rw [Channel.held, show Channel.descriptor c = none from hclosed]
    rfl
  · obtain ⟨fd, hfd⟩ := Option.ne_none_iff_exists'.1 hopen
    exact ⟨fd, by rw [Channel.held, hfd]⟩

theorem decides_openDescriptor (length : Nat) :
    Decides [.nonempty length, .opened (Channel.descriptor c)]
      (Channel.openDescriptor c length) :=
  .guard Iff.rfl fun _ => decides_held c

/-- What stands in the way of a channel is the last thing that is checked. -/
theorem decides_readyDescriptor {direction : Direction} {demands : List Demand}
    (h : ∀ e, Channel.obstacle? c direction = some e ↔ Refuses demands e) (length : Nat) :
    Decides (.nonempty length :: .opened (Channel.descriptor c) :: demands)
      (Channel.readyDescriptor c direction length) := by
  have hready : Channel.readyDescriptor c direction length =
      Channel.openDescriptor c length >>= fun fd =>
        (Channel.obstacle? c direction).elim (.ok fd) .error := by
    rw [Channel.readyDescriptor]
    cases Channel.openDescriptor c length with
    | error e => rfl
    | ok fd => cases Channel.obstacle? c direction <;> rfl
  rw [hready]
  refine .bind (decides_openDescriptor c length) fun fd _ e => ?_
  rw [← h e]
  cases Channel.obstacle? c direction <;> simp

end Channels

theorem decides_checkRawOption {demand : Demand} {held : Except SocketError Descriptor}
    (h : Decides [demand] held) (value : List UInt8) :
    Decides [demand, .invalid (value = []) "option value must not be empty",
        .invalid (UInt32.size ≤ value.length) "option value too long"]
      (checkRawOption held value) := by
  refine .bind h fun fd _ => .guard List.isEmpty_iff fun _ => .guard Iff.rfl fun _ => ?_
  exact .ok fd

namespace Stream

variable (s : Stream)

/-- The demands of the operations of a stream. -/
def demands : Operation → List Demand
  | .bind ip _ =>
    [.opened s.descriptor,
      .invalid (s.state ≠ .disconnected ∨ s.isBound = true)
        "bind requires an unbound, disconnected socket",
      .address ip]
  | .listen _ =>
    [.opened s.descriptor,
      .invalid (s.isBound = false) "listen requires a bound socket",
      .invalid (s.state = .connected) "cannot listen on a connected socket"]
  | .accept _ => [.invalid (s.state ≠ .listening) "accept requires a listening socket"]
  | .connect ip _ _ =>
    [.unconnected (s.state = .connected),
      .invalid (s.state = .listening) "cannot connect a listening socket",
      .opened s.descriptor,
      .address ip]
  | .reconnect _ => [.missing (s.remote = none) "no endpoint to reconnect to"]
  | .isConnected => []
  | .send data =>
    [.nonempty data.length, .opened s.descriptor,
      .missing (s.state ≠ .connected) "socket is not connected"]
  | .receive capacity _ =>
    [.nonempty capacity, .opened s.descriptor,
      .missing (s.state ≠ .connected) "socket is not connected"]
  | .setOption _ value =>
    [.opened s.descriptor,
      .invalid (value = []) "option value must not be empty",
      .invalid (UInt32.size ≤ value.length) "option value too long"]
  | .close => [.invalid (s.descriptor = none) "socket is already closed"]

theorem decides_checkBind (ip : String) (port : UInt16) :
    Decides (s.demands (.bind ip port)) (s.checkBind ip port) := by
  refine .bind (decides_held s) fun fd _ => .guard Iff.rfl fun _ => ?_
  exact .bind (decides_read ip port) fun addr _ => .ok _

theorem decides_checkConnect (ip : String) (port : UInt16) (timeout : Timeout) :
    Decides (s.demands (.connect ip port timeout)) (s.checkConnect ip port) := by
  refine .guard Iff.rfl fun _ => .guard Iff.rfl fun _ => .bind (decides_held s) fun fd _ => ?_
  exact .bind (decides_read ip port) fun addr _ => .ok _

variable {s}

theorem decides_checkListen (h : s.Consistent) (backlog : Int32) :
    Decides (s.demands (.listen backlog)) s.checkListen := by
  refine .bind (decides_held s) fun fd _ => .guard (by simp [Demand.invalid]) fun _ => ?_
  exact .guard (or_iff_right h.not_connecting) fun _ => .ok fd

theorem decides_checkAccept (h : s.Consistent) (timeout : Timeout) :
    Decides (s.demands (.accept timeout)) s.checkAccept := by
  refine .guard Iff.rfl fun hlistening => ?_
  -- a stream that listens has a descriptor
  have hopen : s.descriptor ≠ none := fun hclosed => by
    rw [(h.of_closed hclosed).1] at hlistening
    exact hlistening nofun
  obtain ⟨fd, hfd⟩ := Option.ne_none_iff_exists'.1 hopen
  rw [show Channel.held s = .ok fd by simp [Channel.held, Channel.descriptor, hfd]]
  exact .ok fd

theorem refuses_obstacle (s : Stream) (direction : Direction) (e : SocketError) :
    Channel.obstacle? s direction = some e ↔
      Refuses [.missing (s.state ≠ .connected) "socket is not connected"] e := by
  by_cases hstate : s.state = .connected
  · rw [refuses_cons_of_met (not_not.2 hstate)]
    simp [Channel.obstacle?, hstate, not_refuses_nil]
  · rw [refuses_cons_of_broken hstate]
    simp [Channel.obstacle?, hstate, Demand.missing]

end Stream

/-- The demands of the operations of an accepted connection. -/
def Peer.demands (p : Peer) : Operation → List Demand
  | .send data => [.nonempty data.length, .opened p.descriptor]
  | .receive capacity _ => [.nonempty capacity, .opened p.descriptor]
  | .close => [.invalid (p.descriptor = none) "connection is already closed"]

theorem Peer.refuses_obstacle (p : Peer) (direction : Direction) (e : SocketError) :
    Channel.obstacle? p direction = some e ↔ Refuses [] e := by
  simp [Channel.obstacle?, not_refuses_nil]

namespace Datagram

variable (d : Datagram)

/-- The demands of the operations of a datagram socket. -/
def demands : Operation → List Demand
  | .bind ip _ =>
    [.opened d.descriptor, .invalid (d.isBound = true) "socket is already bound", .address ip]
  | .connect ip _ => [.opened d.descriptor, .address ip]
  | .send data =>
    [.nonempty data.length, .opened d.descriptor,
      .missing (d.defaultPeer = none) "no default peer - use send_to or connect first"]
  | .sendTo data ip _ => [.nonempty data.length, .address ip, .opened d.descriptor]
  | .receive capacity _ | .receiveFrom capacity _ => [.nonempty capacity, .opened d.descriptor]
  | .setOption _ value =>
    [.opened d.descriptor,
      .invalid (value = []) "option value must not be empty",
      .invalid (UInt32.size ≤ value.length) "option value too long"]
  | .close => [.invalid (d.descriptor = none) "socket is already closed"]

theorem decides_checkBind (ip : String) (port : UInt16) :
    Decides (d.demands (.bind ip port)) (d.checkBind ip port) := by
  refine .bind (decides_held d) fun fd _ => .guard Iff.rfl fun _ => ?_
  exact .bind (decides_read ip port) fun addr _ => .ok _

theorem decides_checkConnect (ip : String) (port : UInt16) :
    Decides (d.demands (.connect ip port)) (d.checkConnect ip port) := by
  refine .bind (decides_held d) fun fd _ => ?_
  exact .bind (decides_read ip port) fun addr _ => .ok _

/-- A destination is read before the descriptor is looked at. -/
theorem decides_sendTo (data : List UInt8) (ip : String) (port : UInt16) :
    Decides (d.demands (.sendTo data ip port))
      (checkDestination data ip port >>= fun destination =>
        Channel.checkSend d data (some destination)) := by
  have hdestination : Decides [.nonempty data.length, .address ip]
      (checkDestination data ip port) :=
    .guard (by simp [Demand.nonempty, Demand.invalid]) fun _ => decides_read ip port
  refine .bind hdestination fun destination hcheck => ?_
  have hdata : data.length ≠ 0 := by
    rintro hempty
    rw [List.length_eq_zero_iff.1 hempty] at hcheck
    cases hcheck
  show Decides _ (Channel.openDescriptor d data.length)
  rw [Channel.openDescriptor, if_neg hdata]
  exact decides_held d

theorem refuses_obstacle_sending (e : SocketError) :
    Channel.obstacle? d .sending = some e ↔
      Refuses [.missing (d.defaultPeer = none)
        "no default peer - use send_to or connect first"] e := by
  cases hpeer : d.defaultPeer with
  | none =>
    rw [refuses_cons_of_broken rfl]
    simp [Channel.obstacle?, hpeer, Demand.missing]
  | some addr =>
    rw [refuses_cons_of_met (Option.some_ne_none addr)]
    simp [Channel.obstacle?, hpeer, not_refuses_nil]

theorem refuses_obstacle_receiving (e : SocketError) :
    Channel.obstacle? d .receiving = some e ↔ Refuses [] e := by
  simp [Channel.obstacle?, not_refuses_nil]

end Datagram

end ProfiledSocket
