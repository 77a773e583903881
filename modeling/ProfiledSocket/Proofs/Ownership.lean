/-
Who holds which descriptor.

The process has any number of sockets of all three sorts.  Every descriptor that was opened for
them is held by one of them as long as it is open, and is closed once.  Nothing is lost where an
operation fails halfway: where a setting of a new socket fails, where an accepted connection turns
out to be of no use, and where a stream that is connected again gets no further.

* `Ledger` — the openings and closings of descriptors in a talk;
* `Ledger.opens` — which descriptors are open after them;
* `Act.Trades` — a computation takes over some descriptors and leaves others behind;
* **`Stream.new_trades`**, **`Stream.accept_trades`**, **`Stream.reconnect_trades`** — where
  descriptors come from;
* `Command`, **`Command.trades`** — whatever is done, it is done with the descriptors of the
  sockets at hand;
* `Population` — the sockets that are alive, after any commands;
* **`descriptors_owned`** — they hold the open descriptors, each of them one.

Design notes: `Act.Trades` speaks of the descriptors that a computation is about and leaves the
others alone, whatever they are, so that the lemmas on single operations can be put together to
one about all sockets.  That the kernel hands out no descriptor that is open already is the only
thing that is asked of it.
-/
import Mathlib
import ProfiledSocket.Proofs.Stream.Transition
import ProfiledSocket.Scenario.Session

namespace ProfiledSocket

variable {σ α β : Type} [Kernel σ]

open Act
open Scenario (Handle)

/-! ### The ledger of descriptors -/

/-- An entry in the ledger of descriptors. -/
inductive Mark
  | opened (fd : Descriptor)
  | closed (fd : Descriptor)
deriving DecidableEq

/-- The openings and closings of descriptors, in order. -/
abbrev Ledger := List Mark

/-- What an exchange means for descriptors. One that is closed is gone, whatever the kernel
answers. -/
def Exchange.mark? : Exchange → Option Mark
  | ⟨.socket _, .ok fd⟩ => some (.opened fd)
  | ⟨.accept _, .ok (fd, _)⟩ => some (.opened fd)
  | ⟨.close fd, _⟩ => some (.closed fd)
  | _ => none

/-- The openings and closings in a talk. -/
def Talk.ledger (talk : Talk) : Ledger := talk.filterMap Exchange.mark?

theorem Talk.ledger_append (talk more : Talk) :
    Talk.ledger (talk ++ more) = talk.ledger ++ more.ledger := List.filterMap_append

/-- Calls that use descriptors leave the ledger as it is. -/
theorem Talk.ledger_eq_nil {talk : Talk} (h : ∀ e ∈ talk, ∃ fd, e.call.Uses fd) :
    talk.ledger = [] := by
  refine List.filterMap_eq_nil_iff.2 fun e he => ?_
  obtain ⟨fd, hfd⟩ := h e he
  obtain ⟨call, reply⟩ := e
  cases call with
  | socket _ => exact hfd.elim
  | close _ => exact hfd.elim
  | accept _ => exact hfd.elim
  | _ => rfl

namespace Ledger

/-- The descriptors that are open after what is in the ledger, if `fds` were before. -/
def opens : Finset Descriptor → Ledger → Finset Descriptor
  | fds, [] => fds
  | fds, .opened fd :: rest => opens (insert fd fds) rest
  | fds, .closed fd :: rest => opens (fds.erase fd) rest

/-- No descriptor is opened that is open already. -/
def Fresh : Finset Descriptor → Ledger → Prop
  | _, [] => True
  | fds, .opened fd :: rest => fd ∉ fds ∧ Fresh (insert fd fds) rest
  | fds, .closed fd :: rest => Fresh (fds.erase fd) rest

/-- No descriptor is closed that is not open. -/
def Orderly : Finset Descriptor → Ledger → Prop
  | _, [] => True
  | fds, .opened fd :: rest => Orderly (insert fd fds) rest
  | fds, .closed fd :: rest => fd ∈ fds ∧ Orderly (fds.erase fd) rest

section

variable (fds : Finset Descriptor) (ledger more : Ledger)

theorem opens_append : opens fds (ledger ++ more) = opens (opens fds ledger) more := by
  induction ledger generalizing fds with
  | nil => rfl
  | cons mark rest ih => cases mark <;> exact ih _

theorem fresh_append :
    Fresh fds (ledger ++ more) ↔ Fresh fds ledger ∧ Fresh (opens fds ledger) more := by
  induction ledger generalizing fds with
  | nil => simp [Fresh, opens]
  | cons mark rest ih => cases mark <;> simp [Fresh, opens, ih, and_assoc]

theorem orderly_append :
    Orderly fds (ledger ++ more) ↔ Orderly fds ledger ∧ Orderly (opens fds ledger) more := by
  induction ledger generalizing fds with
  | nil => simp [Orderly, opens]
  | cons mark rest ih => cases mark <;> simp [Orderly, opens, ih, and_assoc]

end

/-- **Openings and closings balance**, up to the descriptors that are open before and after. -/
theorem count_closed {fds : Finset Descriptor} {ledger : Ledger} (hfresh : ledger.Fresh fds)
    (horderly : ledger.Orderly fds) (fd : Descriptor) :
    ledger.count (.closed fd) + (opens fds ledger).val.count fd =
      ledger.count (.opened fd) + fds.val.count fd := by
  induction ledger generalizing fds with
  | nil => simp [opens]
  | cons mark rest ih =>
    cases mark with
    | opened fd' =>
      -- a descriptor that was not open counts for one more on both sides
      have hrest := ih hfresh.2 horderly
      rw [Finset.insert_val_of_notMem hfresh.1, Multiset.count_cons] at hrest
      simp only [opens, List.count_cons, beq_iff_eq, Mark.opened.injEq, reduceCtorEq, if_false]
      simp only [eq_comm (a := fd')]
      omega
    | closed fd' =>
      -- it was open, so that what it counted for before it now counts for as closed
      have hrest := ih hfresh horderly.2
      rw [← Multiset.cons_erase horderly.1, Multiset.count_cons, ← Finset.erase_val]
      simp only [opens, List.count_cons, beq_iff_eq, Mark.closed.injEq, reduceCtorEq, if_false]
      simp only [eq_comm (a := fd')]
      omega

/-- Whatever else is open, the descriptors `taken` are gone in the end and those of `left` are
there instead. -/
def Trades (ledger : Ledger) (taken left : Multiset Descriptor) : Prop :=
  ∀ (fds : Finset Descriptor) (others : Multiset Descriptor), fds.val = taken + others →
    ledger.Fresh fds → (ledger.opens fds).val = left + others ∧ ledger.Orderly fds

namespace Trades

variable {ledger more : Ledger} {taken middle left : Multiset Descriptor}

theorem nil : Trades [] taken taken := fun _ _ hfds _ => ⟨hfds, trivial⟩

theorem append (h : ledger.Trades taken middle) (h' : more.Trades middle left) :
    (ledger ++ more).Trades taken left := by
  intro fds others hfds hfresh
  rw [fresh_append] at hfresh
  rw [opens_append, orderly_append]
  obtain ⟨hmiddle, horderly⟩ := h fds others hfds hfresh.1
  obtain ⟨hleft, horderly'⟩ := h' _ others hmiddle hfresh.2
  exact ⟨hleft, horderly, horderly'⟩

/-- Other descriptors stay as they are. -/
theorem frame (h : ledger.Trades taken left) (others : Multiset Descriptor) :
    ledger.Trades (taken + others) (left + others) := by
  intro fds more hfds hfresh
  rw [add_assoc] at hfds ⊢
  exact h fds _ hfds hfresh

theorem opened (fd : Descriptor) : Trades [.opened fd] 0 {fd} := by
  intro fds others hfds hfresh
  refine ⟨?_, trivial⟩
  rw [opens, opens, Finset.insert_val_of_notMem hfresh.1, hfds, zero_add,
    Multiset.singleton_add]

theorem closed (fd : Descriptor) : Trades [.closed fd] {fd} 0 := by
  intro fds others hfds _
  rw [Multiset.singleton_add] at hfds
  refine ⟨?_, ?_, trivial⟩
  · rw [opens, opens, Finset.erase_val, hfds, Multiset.erase_cons_head, zero_add]
  · rw [← Finset.mem_val, hfds]
    exact Multiset.mem_cons_self fd others

end Trades

end Ledger

/-! ### Trading descriptors -/

namespace Act

/-- Whatever the kernel answers, `x` takes over the descriptors `taken` and leaves behind those
that its result calls for. -/
def Trades (x : Act σ α) (taken : Multiset Descriptor) (left : α → Multiset Descriptor) : Prop :=
  x.Ensures fun talk a => talk.ledger.Trades taken (left a)

namespace Trades

variable {taken : Multiset Descriptor} {left : α → Multiset Descriptor}

theorem pure {a : α} (h : left a = taken) : (Pure.pure a : Act σ α).Trades taken left :=
  Ensures.pure (by rw [h]; exact .nil)

theorem note (level : Level) (message : String) :
    (ProfiledSocket.note level message : Act σ Unit).Trades taken fun _ => taken :=
  Ensures.note .nil

theorem bind {x : Act σ α} {f : α → Act σ β} {left' : β → Multiset Descriptor}
    (h : x.Trades taken left) (hf : ∀ a, (f a).Trades (left a) left') :
    (x >>= f).Trades taken left' := by
  refine Ensures.bind (Ensures.mono h fun talk a htalk => ?_)
  refine Ensures.mono (hf a) fun more b hmore => ?_
  rw [Talk.ledger_append]
  exact htalk.append hmore

theorem frame {x : Act σ α} (h : x.Trades taken left) (others : Multiset Descriptor) :
    x.Trades (taken + others) fun a => left a + others :=
  Ensures.mono h fun _ _ htalk => htalk.frame others

/-- What uses descriptors only leaves them as they are, and so does its result. -/
theorem of_makes {x : Act σ α} (h : x.Makes fun call => ∃ fd, call.Uses fd)
    (hleft : ∀ w, left (x w).1 = taken) : x.Trades taken left := by
  refine Ensures.mono (Ensures.and_result h (R := fun a => left a = taken) hleft)
    fun talk a htalk => ?_
  rw [Talk.ledger_eq_nil htalk.1, htalk.2]
  exact .nil

/-- What uses one descriptor leaves all as they are. -/
theorem of_uses {fd : Descriptor} {x : Act σ α} (h : x.Makes (Call.Uses fd)) :
    x.Trades taken fun _ => taken :=
  of_makes (h.mono fun _ hcall => ⟨fd, hcall⟩) fun _ => rfl

theorem of_ordinary {fd : Descriptor} {x : Act σ α} (h : x.Makes (Call.Ordinary fd)) :
    x.Trades taken fun _ => taken := of_uses (h.mono fun _ => Call.Ordinary.uses)

end Trades

end Act

/-- The descriptor that is held, if there is one. -/
def holding : Option Descriptor → Multiset Descriptor
  | none => 0
  | some fd => {fd}

theorem closeDescriptor_trades (fd : Descriptor) :
    (closeDescriptor fd : Act σ Unit).Trades {fd} fun _ => 0 :=
  .bind (Ensures.ask fun _ => .closed fd) fun _ => .pure rfl

/-- A new descriptor is closed again if a setting fails. -/
theorem openSocket_trades (transport : Transport) (settings : List Setting) :
    (openSocket transport settings : Act σ _).Trades 0 fun result =>
      holding result.toOption := by
  have hask : (ask (.socket transport) : Act σ _).Trades 0 fun reply =>
      holding reply.toOption := by
    refine .ask fun reply => ?_
    cases reply with
    | error e => exact .nil
    | ok fd => exact .opened fd
  refine .bind hask fun reply => ?_
  cases reply with
  | error e => exact .pure rfl
  | ok fd =>
    -- from here on there is a descriptor, which no outcome may leave behind without an owner
    refine .bind (.of_uses ((applySettings_makes fd settings).mono fun _ => Call.Quiet.uses))
      fun outcome => ?_
    cases outcome with
    | error e => exact .bind (closeDescriptor_trades fd) fun _ => .pure rfl
    | ok _ => exact .bind (.note _ _) fun _ => .pure rfl

/-! ### Live sockets -/

/-- The descriptors that sockets hold, each as often as it is held. -/
def held (live : Multiset Handle) : Multiset Descriptor := live.filterMap Handle.descriptor

@[simp] theorem held_zero : held 0 = 0 := rfl

theorem held_add (live others : Multiset Handle) : held (live + others) = held live + held others :=
  Multiset.filterMap_add _ _ _

theorem held_cons (h : Handle) (live : Multiset Handle) :
    held (h ::ₘ live) = holding h.descriptor + held live := by
  cases hfd : h.descriptor with
  | none => rw [held, Multiset.filterMap_cons_none h live hfd, holding, zero_add]; rfl
  | some fd =>
    rw [held, Multiset.filterMap_cons_some _ h live hfd, holding, Multiset.singleton_add]
    rfl

@[simp] theorem held_singleton (h : Handle) : held {h} = holding h.descriptor := by
  rw [← Multiset.cons_zero, held_cons, held_zero, add_zero]

/-- The socket that there is if its creation succeeds. -/
def created {S : Type} (sort : S → Handle) : Except SocketError S → Multiset Handle
  | .ok s => {sort s}
  | .error _ => 0

/-- A new socket holds the descriptor that was opened for it. -/
theorem createSocket_trades {S : Type} {sort : S → Handle} {transport : Transport}
    {settings : List Setting} {profile : Profile} {report : String} {make : Descriptor → S}
    (hmake : ∀ fd, (sort (make fd)).descriptor = some fd) :
    (createSocket transport settings profile report make : Act σ _).Trades 0 fun result =>
      held (created sort result) := by
  rw [createSocket]
  split
  · exact .bind (.note _ _) fun _ => .pure rfl
  · refine .bind (openSocket_trades _ _) fun opened => ?_
    cases opened with
    | error e => exact .pure rfl
    | ok fd =>
      have hheld : held (created sort (.ok (make fd))) = holding (some fd) := by
        rw [created, held_singleton, hmake]
      exact .bind (.note _ _) fun _ => .pure hheld

/-! ### Streams -/

namespace Stream

theorem new_trades (profile : Profile) :
    (Stream.new profile : Act σ _).Trades 0 fun result => held (created .stream result) :=
  createSocket_trades fun _ => rfl

/-- An accepted descriptor belongs to the connection, or is closed. -/
theorem adopt_trades (fd : Descriptor) (address : Option Endpoint) (nonblocking : Bool) :
    (adopt fd address nonblocking : Act σ _).Trades {fd} fun result =>
      held (created .peer result) := by
  refine .bind (.of_uses (adoptMode_makes fd nonblocking)) fun mode => ?_
  cases mode with
  | error e => exact .bind (closeDescriptor_trades fd) fun _ => .pure rfl
  | ok _ =>
    cases address with
    | none => exact .bind (closeDescriptor_trades fd) fun _ => .pure rfl
    | some address => exact .bind (.note _ _) fun _ => .pure (held_singleton _)

theorem accept_trades (s : Stream) (timeout : Timeout) :
    (s.accept timeout : Act σ _).Trades 0 fun result => held (created .peer result) := by
  rw [accept]
  split
  · exact .pure rfl
  · rename_i fd _
    refine .bind (.of_ordinary (awaitConnection_makes fd timeout)) fun waited => ?_
    cases waited with
    | error e => exact .pure rfl
    | ok _ =>
      have hask : (ask (.accept fd) : Act σ _).Trades 0 fun reply =>
          holding (reply.toOption.map Prod.fst) := by
        refine .ask fun reply => ?_
        cases reply with
        | error e => exact .nil
        | ok pair => exact .opened pair.1
      refine .bind hask fun reply => ?_
      cases reply with
      | ok pair => exact adopt_trades pair.1 pair.2 _
      | error e =>
        dsimp only
        split <;> exact .pure rfl

theorem release_trades (fd : Option Descriptor) :
    (release fd : Act σ Unit).Trades (holding fd) fun _ => 0 := by
  cases fd with
  | none => exact .pure rfl
  | some fd => exact .bind (.note _ _) fun _ => closeDescriptor_trades fd

/-- A stream is connected over the descriptor that it has. -/
theorem connectTo_trades {s : Stream} {fd : Descriptor} (hfd : s.descriptor = some fd)
    (addr : Endpoint) (timeout : Timeout) :
    (s.connectTo fd addr timeout : Act σ _).Trades (holding (some fd)) fun out =>
      holding out.2.descriptor := by
  refine .of_makes ((connectTo_makes fd s addr timeout).mono fun _ h => ⟨fd, h⟩) fun w => ?_
  rw [(connectTo_connecting s fd addr timeout w).descriptor_eq, hfd]

theorem connect_trades (s : Stream) (ip : String) (port : UInt16) (timeout : Timeout) :
    (s.connect ip port timeout : Act σ _).Trades (holding s.descriptor) fun out =>
      holding out.2.descriptor := by
  rw [connect]
  split
  · exact .pure rfl
  · rename_i fd addr hcheck
    have hfd := (checkConnect_ok hcheck).1
    rw [hfd]
    exact connectTo_trades hfd addr timeout

/-- The old descriptor is closed before the new one is opened, which the stream keeps from then
on, however the attempt ends. -/
theorem reconnect_trades (s : Stream) (timeout : Timeout) :
    (s.reconnect timeout : Act σ _).Trades (holding s.descriptor) fun out =>
      holding out.2.descriptor := by
  rw [reconnect]
  split
  · exact .pure rfl
  · rename_i addr _
    split
    · exact .pure rfl
    · -- the stream has nothing when it asks for a new descriptor
      refine .bind (.note _ _) fun _ => .bind (release_trades _) fun _ => ?_
      have hanew : (s.released.connectAnew addr timeout : Act σ _).Trades 0 fun out =>
          holding out.2.descriptor := by
        refine .bind (openSocket_trades _ _) fun opened => ?_
        cases opened with
        | error e => exact .pure rfl
        | ok fd => exact connectTo_trades rfl addr timeout
      exact .bind hanew fun out => .pure rfl

theorem close_trades (s : Stream) :
    (s.close : Act σ _).Trades (holding s.descriptor) fun out => holding out.2.descriptor := by
  rw [close]
  split
  · exact .pure rfl
  · rename_i fd hfd
    rw [hfd]
    exact .bind (release_trades (some fd)) fun _ => .pure rfl

/-- The sockets that an operation of a stream brings about. -/
def newcomers : (op : Operation) → op.Result → Multiset Handle
  | .accept _, result => created .peer result
  | _, _ => 0

theorem perform_trades (s : Stream) (op : Operation) :
    (s.perform op : Act σ _).Trades (holding s.descriptor) fun out =>
      holding out.2.descriptor + held (newcomers op out.1) := by
  by_cases hop : op.Ordinary
  · refine .of_makes (ordinary_makes hop fun fd _ call hcall => ⟨fd, hcall.uses⟩) fun w => ?_
    have hnone : newcomers op (s.perform op w).1.1 = 0 := by
      cases op <;> first | rfl | exact hop.elim
    rw [((perform_transition s op w).of_ordinary hop).1, hnone, held_zero, add_zero]
  · cases op with
    | accept timeout =>
      -- accepting knows nothing of the descriptor that the listener keeps
      have haccept := (s.accept_trades timeout : (s.accept timeout : Act σ _).Trades _ _).frame
        (holding s.descriptor)
      rw [zero_add] at haccept
      exact .bind haccept fun result => .pure (add_comm _ _)
    | connect ip port timeout =>
      simpa [newcomers, perform] using s.connect_trades ip port timeout
    | reconnect timeout => simpa [newcomers, perform] using s.reconnect_trades timeout
    | close => simpa [newcomers, perform] using s.close_trades
    | _ => exact absurd trivial hop

end Stream

/-! ### Transfers -/

/-- A channel that keeps its descriptor whatever its transfers come to. -/
class HoldingChannel (C : Type) [Channel C] : Prop where
  descriptor_withTraffic : ∀ (c : C) (t : Traffic),
    Channel.descriptor (Channel.withTraffic c t) = Channel.descriptor c
  descriptor_afterFailure : ∀ c : C,
    Channel.descriptor (Channel.afterFailure c) = Channel.descriptor c
  descriptor_afterEnd : ∀ c : C, Channel.descriptor (Channel.afterEnd c) = Channel.descriptor c

instance : HoldingChannel Peer := ⟨fun _ _ => rfl, fun _ => rfl, fun _ => rfl⟩

instance : HoldingChannel Datagram := ⟨fun _ _ => rfl, fun _ => rfl, fun _ => rfl⟩

section Transfers

variable {C : Type} [Channel C] [HoldingChannel C] {c c' : C}

theorem descriptor_of_sendCase {data : List UInt8} {destination : Option Endpoint}
    {result : Except SocketError Nat} (h : Channel.SendCase c data destination result c') :
    Channel.descriptor c' = Channel.descriptor c := by
  cases h with
  | refused _ => rfl
  | sent _ n => exact HoldingChannel.descriptor_withTraffic c _
  | wouldBlock _ => rfl
  | failed _ e => exact HoldingChannel.descriptor_afterFailure c

theorem descriptor_of_receiveCase {capacity : Nat} {timeout : Timeout}
    {view : Received capacity → Except IoError α} {w : World σ} {result : Except SocketError α}
    (h : Channel.ReceiveCase c capacity timeout view w result c') :
    Channel.descriptor c' = Channel.descriptor c := by
  cases h with
  | refused _ => rfl
  | unready _ _ => rfl
  | received _ _ data _ _ => exact HoldingChannel.descriptor_withTraffic c _
  | nothing _ _ => rfl
  | ended _ _ _ => exact HoldingChannel.descriptor_afterEnd c
  | failed _ _ e => exact HoldingChannel.descriptor_afterFailure c

variable (c)

theorem Channel.send_trades (data : List UInt8) (destination : Option Endpoint) :
    (Channel.send c data destination : Act σ _).Trades (holding (Channel.descriptor c))
      fun out => holding (Channel.descriptor out.2) := by
  refine .of_makes (Channel.send_makes data destination fun fd _ _ h => ⟨fd, h.uses⟩) fun w => ?_
  rw [descriptor_of_sendCase (Channel.send_case c data destination w)]

theorem Channel.receive_trades (capacity : Nat) (timeout : Timeout)
    (view : Received capacity → Except IoError α) :
    (Channel.receive c capacity timeout view : Act σ _).Trades (holding (Channel.descriptor c))
      fun out => holding (Channel.descriptor out.2) := by
  refine .of_makes (Channel.receive_makes capacity timeout view fun fd _ _ h => ⟨fd, h.uses⟩)
    fun w => ?_
  rw [descriptor_of_receiveCase (Channel.receive_case c capacity timeout view w)]

end Transfers

/-! ### Accepted connections and datagram sockets -/

theorem Peer.perform_trades (p : Peer) (op : Peer.Operation) :
    (p.perform op : Act σ _).Trades (holding p.descriptor) fun out =>
      holding out.2.descriptor := by
  cases op with
  | send data => exact Channel.send_trades p data none
  | receive capacity timeout => exact Channel.receive_trades p capacity timeout _
  | close =>
    show (p.close : Act σ _).Trades _ _
    rw [Peer.close]
    split
    · exact .pure rfl
    · rename_i fd hfd
      rw [hfd]
      exact .bind (.note _ _) fun _ => .bind (closeDescriptor_trades fd) fun _ => .pure rfl

namespace Datagram

theorem new_trades (profile : Profile) (clock : Clock) :
    (Datagram.new profile clock : Act σ _).Trades 0 fun result =>
      held (created .datagram result) :=
  createSocket_trades fun _ => rfl

theorem bind_trades (d : Datagram) (ip : String) (port : UInt16) :
    (d.bind ip port : Act σ _).Trades (holding d.descriptor) fun out =>
      holding out.2.descriptor := by
  rw [Datagram.bind]
  split
  · exact .pure rfl
  · rename_i fd addr _
    exact .bind (.of_ordinary (bindTo_makes fd addr)) fun bound => .pure (by cases bound <;> rfl)

theorem connect_trades (d : Datagram) (ip : String) (port : UInt16) :
    (d.connect ip port : Act σ _).Trades (holding d.descriptor) fun out =>
      holding out.2.descriptor := by
  rw [connect]
  split
  · exact .pure rfl
  · rename_i fd addr _
    have hconnect : (connectDescriptor fd addr : Act σ _).Makes (Call.Uses fd) := by
      refine (connectDescriptor_makes fd addr).mono ?_
      rintro call (rfl | hordinary)
      · rfl
      · exact hordinary.uses
    exact .bind (.of_uses hconnect) fun own => .pure (by cases own <;> rfl)

theorem sendTo_trades (d : Datagram) (data : List UInt8) (ip : String) (port : UInt16) :
    (d.sendTo data ip port : Act σ _).Trades (holding d.descriptor) fun out =>
      holding out.2.descriptor := by
  rw [sendTo]
  split
  · exact .pure rfl
  · exact Channel.send_trades d data _

theorem receiveFrom_trades (d : Datagram) (capacity : Nat) (timeout : Timeout) :
    (d.receiveFrom capacity timeout : Act σ _).Trades (holding d.descriptor) fun out =>
      holding out.2.descriptor := by
  refine .bind (Channel.receive_trades d capacity timeout _) fun out => ?_
  obtain ⟨e | ⟨data, source⟩, d'⟩ := out
  · exact .pure rfl
  · have hclock : (d'.readClock : Act σ _).Trades (holding d'.descriptor) fun out =>
        holding out.2.descriptor :=
      .of_makes d'.readClock_makes fun w => by rw [readClock_socket]; rfl
    exact .bind hclock fun out => .pure rfl

theorem close_trades (d : Datagram) :
    (d.close : Act σ _).Trades (holding d.descriptor) fun out => holding out.2.descriptor := by
  rw [close]
  split
  · exact .pure rfl
  · rename_i fd hfd
    rw [hfd]
    exact .bind (.note _ _) fun _ => .bind (closeDescriptor_trades fd) fun _ => .pure rfl

theorem perform_trades (d : Datagram) (op : Operation) :
    (d.perform op : Act σ _).Trades (holding d.descriptor) fun out =>
      holding out.2.descriptor := by
  cases op with
  | bind ip port => exact d.bind_trades ip port
  | connect ip port => exact d.connect_trades ip port
  | send data => exact Channel.send_trades d data none
  | sendTo data ip port => exact d.sendTo_trades data ip port
  | receive capacity timeout => exact Channel.receive_trades d capacity timeout _
  | receiveFrom capacity timeout => exact d.receiveFrom_trades capacity timeout
  | setOption option value =>
    refine .bind (.of_makes (setRawOption_makes option value fun fd _ _ h => ⟨fd, h.uses⟩)
      fun _ => rfl) fun result => .pure rfl
  | close => exact d.close_trades

end Datagram

/-! ### All sockets of the process -/

/-- Something that is done with sockets. -/
inductive Command
  | newStream (profile : Profile)
  | newDatagram (profile : Profile) (clock : Clock)
  | onStream (s : Stream) (op : Stream.Operation)
  | onPeer (p : Peer) (op : Peer.Operation)
  | onDatagram (d : Datagram) (op : Datagram.Operation)
  | drop (h : Handle)

namespace Command

/-- The sockets that it is done with. -/
def takes : Command → Multiset Handle
  | newStream _ | newDatagram .. => 0
  | onStream s _ => {.stream s}
  | onPeer p _ => {.peer p}
  | onDatagram d _ => {.datagram d}
  | drop h => {h}

/-- Carries out a command. The result is the sockets that there are then instead of those that it
was done with. -/
def carryOut : Command → Act σ (Multiset Handle)
  | newStream profile => do return created .stream (← Stream.new profile)
  | newDatagram profile clock => do return created .datagram (← Datagram.new profile clock)
  | onStream s op => do
    let (result, s) ← s.perform op
    return .stream s ::ₘ Stream.newcomers op result
  | onPeer p op => do
    let (_, p) ← p.perform op
    return {.peer p}
  | onDatagram d op => do
    let (_, d) ← d.perform op
    return {.datagram d}
  | drop h => do
    h.drop
    return 0

/-- **A command trades the descriptors of the sockets that it takes** for those of the sockets
that it leaves. -/
theorem trades (c : Command) : (c.carryOut : Act σ _).Trades (held c.takes) held := by
  cases c with
  | newStream profile => exact .bind (Stream.new_trades profile) fun _ => .pure rfl
  | newDatagram profile clock => exact .bind (Datagram.new_trades profile clock) fun _ => .pure rfl
  | onStream s op =>
    rw [takes, held_singleton]
    exact .bind (s.perform_trades op) fun out => .pure (held_cons _ _)
  | onPeer p op =>
    rw [takes, held_singleton]
    exact .bind (p.perform_trades op) fun out => .pure (held_singleton _)
  | onDatagram d op =>
    rw [takes, held_singleton]
    exact .bind (d.perform_trades op) fun out => .pure (held_singleton _)
  | drop h =>
    rw [takes, held_singleton]
    have hdrop : (h.drop : Act σ Unit).Trades (holding h.descriptor) fun _ => 0 := by
      rw [Handle.drop]
      split
      · rename_i hfd
        exact .pure (by rw [hfd]; rfl)
      · rename_i fd hfd
        rw [hfd]
        exact closeDescriptor_trades fd
    exact .bind hdrop fun _ => .pure rfl

end Command

/-- The sockets that are alive, and all talks since there were none. Every command is carried out
in a world of its own, with sockets that are alive. -/
inductive Population : Multiset Handle → Talk → Prop
  | none : Population 0 []
  | step {σ : Type} [Kernel σ] {live : Multiset Handle} {talk : Talk} (c : Command)
      (h : Population (c.takes + live) talk) (w : World σ) :
      Population ((c.carryOut w.recorded).1 + live)
        (talk ++ (c.carryOut w.recorded).2.kernel.talk)

/-- The descriptors that were opened belong to the sockets that are alive. -/
structure Owned (live : Multiset Handle) (ledger : Ledger) : Prop where
  /-- The open descriptors are those that live sockets hold, and no two sockets hold the same. -/
  held_eq : held live = (ledger.opens ∅).val
  /-- A descriptor is open when it is closed. -/
  orderly : ledger.Orderly ∅
  /-- It has been closed as often as it was opened, but for the socket that holds it. -/
  closed_once : ∀ fd, ledger.count (.closed fd) + (held live).count fd =
    ledger.count (.opened fd)

section Population

variable {live : Multiset Handle} {talk : Talk}

theorem Population.held_eq (h : Population live talk) (hfresh : talk.ledger.Fresh ∅) :
    (talk.ledger.opens ∅).val = held live ∧ talk.ledger.Orderly ∅ := by
  -- by induction on the commands: the sockets that a command does not take are its `others`
  induction h with
  | none => exact ⟨rfl, trivial⟩
  | step c h w ih =>
    rw [Talk.ledger_append, Ledger.fresh_append] at hfresh
    obtain ⟨hopens, horderly⟩ := ih hfresh.1
    rw [held_add] at hopens
    obtain ⟨hopens', horderly'⟩ := Ensures.recorded c.trades w _ _ hopens hfresh.2
    rw [Talk.ledger_append, Ledger.opens_append, Ledger.orderly_append, held_add]
    exact ⟨hopens', horderly, horderly'⟩

/-- **No descriptor is lost, and none is shared.**  Whatever is done with any number of sockets,
and however it fails, the open descriptors are those that live sockets hold, each held by one of
them; and every descriptor that is held no more has been closed once. -/
theorem descriptors_owned (h : Population live talk) (hfresh : talk.ledger.Fresh ∅) :
    Owned live talk.ledger := by
  obtain ⟨hopens, horderly⟩ := h.held_eq hfresh
  refine ⟨hopens.symm, horderly, fun fd => ?_⟩
  have hcount := Ledger.count_closed hfresh horderly fd
  rwa [hopens, Finset.empty_val, Multiset.count_zero, add_zero] at hcount

end Population

/-! ### A listener, its connection and a socket that cannot be made -/

/-- A kernel that makes new sockets and refuses everything else. -/
structure Refusing

instance : Kernel Refusing where
  answer k call :=
    (match call with
      | .socket _ => .ok ⟨5⟩
      | _ => .error .invalidArgument, k)
  now _ := 0
  realtime _ := none
  patience _ := 0
  patience_lt k call h := by cases call <;> simp [Errno.invalidArgument, Errno.interrupted] at h

/-- One more command, of which it is known what it does to the sockets and the ledger. -/
theorem Population.next {σ : Type} [Kernel σ] {ledger : Ledger} (c : Command)
    (live after : Multiset Handle) (marks : Ledger)
    (h : ∃ talk : Talk, Population (c.takes + live) talk ∧ talk.ledger = ledger) (w : World σ)
    (hafter : (c.carryOut w.recorded).1 = after)
    (hmarks : (c.carryOut w.recorded).2.kernel.talk.ledger = marks) :
    ∃ talk : Talk, Population (after + live) talk ∧ talk.ledger = ledger ++ marks := by
  obtain ⟨talk, hpopulation, rfl⟩ := h
  rw [← hafter, ← hmarks, ← Talk.ledger_append]
  exact ⟨_, .step c hpopulation w, rfl⟩

/-- A stream listens and accepts a connection.  Another stream cannot be made, since a setting of
it fails, and the first is closed. -/
theorem descriptors_owned_connection :
    let made := Stream.ofDescriptor ⟨3⟩ .conservative
    let accepted := Peer.new ⟨4⟩ ⟨⟨127, 0, 0, 1⟩, 40000⟩
    let live : Multiset Handle := {.stream made.released} + {.peer accepted}
    let ledger : Ledger :=
      [.opened ⟨3⟩, .opened ⟨4⟩, .opened ⟨5⟩, .closed ⟨5⟩, .closed ⟨3⟩]
    ∃ talk : Talk, Population live talk ∧ talk.ledger = ledger ∧ ledger.Fresh ∅ ∧
      Owned live ledger := by
  intro made accepted live ledger
  let granted := World.granting false []
  let refused : World Refusing := ⟨⟨⟩, []⟩
  let bound : Stream :=
    { made with localAddress := some ⟨⟨127, 0, 0, 1⟩, 40001⟩, isBound := true }
  let listening : Stream := { bound with state := .listening, backlog := some 5 }
  have hnone : ∃ talk : Talk, Population 0 talk ∧ talk.ledger = [] := ⟨[], .none, rfl⟩
  have hmade := Population.next (.newStream .conservative) 0 {.stream made} [.opened ⟨3⟩]
    hnone granted rfl rfl
  have hbound := Population.next (.onStream made (.bind "127.0.0.1" 7)) 0 {.stream bound} []
    hmade granted rfl rfl
  have hlistening := Population.next (.onStream bound (.listen 5)) 0 {.stream listening} []
    hbound granted rfl rfl
  have haccepted := Population.next (.onStream listening (.accept (some (.ofSecs 0)))) 0
    ({.stream listening} + {.peer accepted}) [.opened ⟨4⟩] hlistening granted rfl rfl
  have hfailed := Population.next (.newStream .conservative)
    ({.stream listening} + {.peer accepted}) 0 [.opened ⟨5⟩, .closed ⟨5⟩] haccepted refused rfl rfl
  have hclosed := Population.next (.onStream listening .close) {.peer accepted}
    {.stream made.released} [.closed ⟨3⟩] hfailed granted rfl rfl
  obtain ⟨talk, hpopulation, hledger⟩ := hclosed
  have hfresh : ledger.Fresh ∅ := by simp [ledger, Ledger.Fresh]
  have howned : Owned live talk.ledger := descriptors_owned hpopulation (by rwa [hledger])
  rw [hledger] at howned
  exact ⟨talk, hpopulation, hledger, hfresh, howned⟩

end ProfiledSocket
