/-
The mode of every socket of the process.

Sockets of all sorts come and go.  Each of them has a profile to go by: a stream or a datagram
socket its own, and an accepted connection that of the stream that accepted it.  As long as
descriptors can be put back into blocking mode, every socket is in the mode that this profile asks
for; and whatever goes wrong, every connected stream is.

* `Lineage` — the sockets that are alive, with the profiles that they go by;
* **`Command.keepsModes`** — whatever is done with sockets keeps their modes, and those of others;
* `ModesKept` — the modes of all sockets are as their profiles ask for;
* **`modes_kept`** — so they are whatever has been done.

Design notes: a lineage is a `Population` in which every socket has a profile next to it.  A command
takes one socket at most, so that all sockets that come of it go by the same profile.  That the
kernel hands out no descriptor that is open already is all that is asked of it: a descriptor that
two sockets held could not be in the modes of both.
-/
import Mathlib
import ProfiledSocket.Proofs.Datagram.Transition
import ProfiledSocket.Proofs.Mode

namespace ProfiledSocket

variable {σ α : Type} [Kernel σ]

open Act
open Scenario (Handle)

/-! ### Sockets that keep their mode -/

/-- What an accepted connection holds after an operation it has held before. -/
theorem Peer.descriptor_of_perform {p : Peer} {op : Operation} {w : World σ} {fd : Descriptor}
    (h : (p.perform op w).1.2.descriptor = some fd) : p.descriptor = some fd := by
  cases op with
  | send data =>
    rw [← h]
    exact (descriptor_of_sendCase (Channel.send_case p data none w)).symm
  | receive capacity timeout =>
    rw [← h]
    exact (descriptor_of_receiveCase
      (Channel.receive_case p capacity timeout Channel.bytesOnly w)).symm
  | close =>
    cases hfd : p.descriptor with
    | none =>
      have hsame : (p.close w).1.2 = p := by rw [Peer.close, hfd]; rfl
      rwa [show (p.perform .close w).1.2 = p from hsame, hfd] at h
    | some fd' =>
      have hgone : (p.close w).1.2.descriptor = none := by rw [Peer.close, hfd]; rfl
      rw [show (p.perform .close w).1.2.descriptor = none from hgone] at h
      cases h

theorem Peer.perform_makes (p : Peer) (op : Operation) :
    (p.perform op : Act σ _).Makes Call.Steady := by
  cases op with
  | send data => exact Channel.send_makes data none fun _ _ _ h => h.still.steady
  | receive capacity timeout => exact Channel.receive_makes _ _ _ fun _ _ _ h => h.still.steady
  | close =>
    show (p.close : Act σ _).Makes Call.Steady
    rw [Peer.close]
    split
    · exact .pure _
    · exact .bind (.note _ _) fun _ => .bind (closeDescriptor_asks _ trivial) fun _ => .pure _

namespace Datagram

/-- What a datagram socket holds after an operation it has held before. -/
theorem Transition.descriptor_of {d d' : Datagram} {op : Operation} {result : op.Result}
    (ht : Transition d op result d') {fd : Descriptor} (h : d'.descriptor = some fd) :
    d.descriptor = some fd := by
  rcases ht.descriptor_eq with hsame | hnone
  · rw [← hsame, h]
  · rw [hnone] at h
    cases h

theorem perform_steady (d : Datagram) (op : Operation) :
    (d.perform op : Act σ _).Makes Call.Steady :=
  d.perform_makes (fun _ _ h => h.still.steady) (fun _ _ => trivial) (fun _ => trivial) op

theorem new_turns (profile : Profile) (clock : Clock) (m : Modes) :
    (Datagram.new profile clock : Act σ _).Turns m fun talk m' result =>
      talk.Leaves none m m' ∧ ∀ h ∈ created .datagram result, InMode True m' profile h := by
  have hmake (fd : Descriptor) (m : Modes) (hm : m fd = profile.wantsNonblocking) :
      InMode True m profile (.datagram (ofDescriptor fd profile clock)) := by
    refine ⟨rfl, ?_⟩
    rintro _ ⟨⟩
    exact hm
  exact createSocket_turns profile.any_isMode_datagramSettings hmake m

end Datagram

/-! ### Commands -/

section InMode

variable {restored restored' : Prop} {m m' : Modes} {p : Profile} {h : Handle}

theorem InMode.mono (hh : InMode restored m p h) (himp : restored' → restored) :
    InMode restored' m p h := by
  cases h with
  | stream s => exact ⟨hh.1, hh.2.mono himp⟩
  | peer c => exact hh
  | datagram d => exact hh

/-- Only the mode of the descriptor that the socket holds matters. -/
theorem InMode.of_eq (hh : InMode restored m p h)
    (hm : ∀ fd, h.descriptor = some fd → m' fd = m fd) : InMode restored m' p h := by
  cases h with
  | stream s => exact ⟨hh.1, fun fd hfd hcases => (hm fd hfd).trans (hh.2 fd hfd hcases)⟩
  | peer c => exact fun fd hfd => (hm fd hfd).trans (hh fd hfd)
  | datagram d => exact ⟨hh.1, fun fd hfd => (hm fd hfd).trans (hh.2 fd hfd)⟩

end InMode

namespace Command

/-- The profile that the sockets of a command go by is the one that they are created with. -/
def GoesBy (p : Profile) : Command → Prop
  | newStream profile => profile = p
  | newDatagram profile _ => profile = p
  | onStream .. | onPeer .. | onDatagram .. | drop _ => True

/-- A command keeps the modes of the sockets that it leaves, and those of other descriptors. -/
def KeepsModes (c : Command) (p : Profile) (restored : Prop) (m m' : Modes) (talk : Talk)
    (after : Multiset Handle) : Prop :=
  ∀ fds, talk.ledger.Fresh fds → (∀ fd ∈ held c.takes, fd ∈ fds) →
    (∀ h ∈ after, InMode restored m' p h) ∧ ∀ fd ∈ fds, fd ∉ held c.takes → m' fd = m fd

theorem mem_held_singleton {h : Handle} {fd : Descriptor} :
    fd ∈ held {h} ↔ h.descriptor = some fd := by
  rw [held_singleton]
  cases h.descriptor <;> simp [holding, eq_comm]

namespace KeepsModes

variable {c : Command} {p : Profile} {restored : Prop} {m m' : Modes} {talk : Talk}
  {after : Multiset Handle}

/-- A socket that is created in its mode takes no mode away. -/
theorem of_new (hleaves : talk.Leaves none m m') (hafter : ∀ h ∈ after, InMode True m' p h) :
    c.KeepsModes p restored m m' talk after :=
  fun _ hfresh _ => ⟨fun h hh => (hafter h hh).mono fun _ => trivial,
    fun _ hfd _ => hleaves.eq_of_mem hfresh hfd⟩

/-- Where no mode is changed, sockets that hold nothing new keep theirs. -/
theorem of_steady (hsteady : ∀ e ∈ talk, e.call.Steady)
    (hafter : ∀ h ∈ after, InMode restored m p h) :
    c.KeepsModes p (restored ∧ talk.Restored) m (talk.modes m) talk after := by
  rw [Talk.modes_of_steady hsteady]
  exact fun _ _ _ => ⟨fun h hh => (hafter h hh).mono And.left, fun _ _ _ => rfl⟩

end KeepsModes

/-- **Whatever is done with sockets keeps their modes**, and those of all others. -/
theorem keepsModes (c : Command) {p : Profile} (hp : c.GoesBy p) {restored : Prop} {m : Modes}
    (htaken : ∀ h ∈ c.takes, InMode restored m p h) :
    (c.carryOut : Act σ _).Ensures fun talk after =>
      c.KeepsModes p (restored ∧ talk.Restored) m (talk.modes m) talk after := by
  cases c with
  | newStream profile =>
    obtain rfl : profile = p := hp
    refine .bind (.mono (Stream.new_turns profile m) fun talk result h => .pure ?_)
    rw [List.append_nil]
    exact .of_new h.2.1 h.2.2
  | newDatagram profile clock =>
    obtain rfl : profile = p := hp
    refine .bind (.mono (Datagram.new_turns profile clock m) fun talk result h => .pure ?_)
    rw [List.append_nil]
    exact .of_new h.2.1 h.2.2
  | onStream s op =>
    obtain ⟨rfl, hs⟩ := htaken (.stream s) (Multiset.mem_singleton_self _)
    refine .bind (.mono ((Stream.perform_turns hs op).and_result
      (R := fun out => out.2.profile = s.profile)
      fun w => (s.perform_transition op w).profile_eq) fun talk out h => .pure ?_)
    obtain ⟨-, ⟨hleaves, hout, hnew⟩, hprofile⟩ := h
    rw [List.append_nil]
    intro fds hfresh hopen
    simp only [takes, mem_held_singleton] at hopen ⊢
    refine ⟨fun h hh => ?_, fun fd hfd hnot => hleaves fds hfresh fd hfd hnot⟩
    rcases Multiset.mem_cons.1 hh with rfl | hnewcomer
    · exact ⟨hprofile, hout fds hfresh hopen⟩
    · exact (hnew h hnewcomer).mono fun _ => trivial
  | onPeer c op =>
    have hc := htaken (.peer c) (Multiset.mem_singleton_self _)
    refine .bind (.mono (Ensures.and_result (c.perform_makes op)
      (R := fun out => ∀ fd, out.2.descriptor = some fd → c.descriptor = some fd)
      fun w fd => Peer.descriptor_of_perform) fun talk out h => .pure ?_)
    rw [List.append_nil]
    refine .of_steady h.1 fun h' hh' => ?_
    rw [Multiset.mem_singleton.1 hh']
    exact fun fd hfd => hc fd (h.2 fd hfd)
  | onDatagram d op =>
    obtain ⟨hprofile, hd⟩ := htaken (.datagram d) (Multiset.mem_singleton_self _)
    refine .bind (.mono (Ensures.and_result (d.perform_steady op)
      (R := fun out => Datagram.Transition d op out.1 out.2)
      fun w => d.perform_transition w op) fun talk out h => .pure ?_)
    rw [List.append_nil]
    refine .of_steady h.1 fun h' hh' => ?_
    rw [Multiset.mem_singleton.1 hh']
    exact ⟨h.2.profile_eq.trans hprofile, fun fd hfd => hd fd (h.2.descriptor_of hfd)⟩
  | drop h =>
    have hdrop : (h.drop : Act σ Unit).Makes Call.Steady := by
      rw [Handle.drop]
      split
      · exact .pure _
      · exact closeDescriptor_asks _ trivial
    refine .bind (.mono hdrop fun talk _ hsteady => .pure ?_)
    rw [List.append_nil]
    exact .of_steady hsteady (by simp)

end Command

/-! ### All sockets of the process -/

/-- The sockets that are alive, each with the profile that it goes by, and all talks since there
were none.  Every command is carried out in a world of its own, with sockets that are alive, and
the sockets that come of it go by the profile of the one that it was done with. -/
inductive Lineage : Multiset (Handle × Profile) → Talk → Prop
  | none : Lineage 0 []
  | step {σ : Type} [Kernel σ] {live : Multiset (Handle × Profile)} {talk : Talk} (c : Command)
      (p : Profile) (hp : c.GoesBy p) (h : Lineage (c.takes.map (·, p) + live) talk)
      (w : World σ) :
      Lineage ((c.carryOut w.recorded).1.map (·, p) + live)
        (talk ++ (c.carryOut w.recorded).2.kernel.talk)

theorem map_fst (handles : Multiset Handle) (p : Profile) :
    (handles.map (·, p)).map Prod.fst = handles := by
  rw [Multiset.map_map]
  exact Multiset.map_id' handles

/-- All descriptors in blocking mode. -/
def Modes.blocking : Modes := fun _ => false

/-- The modes of the descriptors of all sockets are as their profiles ask for. -/
structure ModesKept (live : Multiset (Handle × Profile)) (talk : Talk) : Prop where
  /-- A stream goes by its own profile, and so do the connections that it accepts. -/
  of_stream : ∀ s p, (Handle.stream s, p) ∈ live → s.profile = p
  of_datagram : ∀ d p, (Handle.datagram d, p) ∈ live → d.profile = p
  /-- Every socket is in the mode of its profile, if descriptors could be put back into blocking
  mode. -/
  of_restored : talk.Restored → ∀ h p, (h, p) ∈ live → ∀ fd, h.descriptor = some fd →
    talk.modes .blocking fd = p.wantsNonblocking
  /-- A connected stream is in the mode of its profile in any case. -/
  of_connected : ∀ s p, (Handle.stream s, p) ∈ live → s.state = .connected →
    ∀ fd, s.descriptor = some fd → talk.modes .blocking fd = p.wantsNonblocking
  /-- Whatever is done with a stream next, it is connected in non-blocking mode only. -/
  prompt : ∀ s p, (Handle.stream s, p) ∈ live → ∀ (op : Stream.Operation) {σ : Type} [Kernel σ]
    (w : World σ), (s.perform op w.recorded).2.kernel.talk.Prompt (talk.modes .blocking)

namespace Lineage

variable {live : Multiset (Handle × Profile)} {talk : Talk}

/-- A lineage is a population. -/
theorem population (h : Lineage live talk) : Population (live.map Prod.fst) talk := by
  induction h with
  | none => exact .none
  | step c p _ _ w ih =>
    rw [Multiset.map_add, map_fst] at ih ⊢
    exact .step c ih w

/-- What two groups of sockets hold is open, and what the one group holds the other does not. -/
theorem mem_opens_of_mem {c : Command} {p : Profile}
    (h : Lineage (c.takes.map (·, p) + live) talk) (hfresh : talk.ledger.Fresh ∅) :
    (∀ fd ∈ held c.takes, fd ∈ talk.ledger.opens ∅) ∧
      ∀ x ∈ live, ∀ fd, x.1.descriptor = some fd →
        fd ∈ talk.ledger.opens ∅ ∧ fd ∉ held c.takes := by
  obtain ⟨hopens, -⟩ := h.population.held_eq hfresh
  rw [Multiset.map_add, map_fst, held_add] at hopens
  -- what is open is held once only, hence not by sockets of both groups
  have hnodup := (talk.ledger.opens ∅).nodup
  rw [hopens, Multiset.nodup_add] at hnodup
  refine ⟨fun fd hfd => ?_, fun x hx fd hfd => ?_⟩
  · rw [← Finset.mem_val, hopens]
    exact Multiset.mem_add.2 (.inl hfd)
  · have hheld : fd ∈ held (live.map Prod.fst) :=
      (Multiset.mem_filterMap _ _).2 ⟨x.1, Multiset.mem_map_of_mem _ hx, hfd⟩
    refine ⟨?_, fun htaken => Multiset.disjoint_left.1 hnodup.2.2 htaken hheld⟩
    rw [← Finset.mem_val, hopens]
    exact Multiset.mem_add.2 (.inr hheld)

/-- All sockets are in the modes of the profiles that they go by. -/
theorem inMode (h : Lineage live talk) (hfresh : talk.ledger.Fresh ∅) :
    ∀ x ∈ live, InMode talk.Restored (talk.modes .blocking) x.2 x.1 := by
  -- by induction on the commands: one keeps the modes of what it takes, and of all others
  induction h with
  | none => simp
  | step c p hp h w ih =>
    rw [Talk.ledger_append, Ledger.fresh_append] at hfresh
    have ih := ih hfresh.1
    obtain ⟨htakes, hothers⟩ := h.mem_opens_of_mem hfresh.1
    have htaken : ∀ h ∈ c.takes, InMode _ _ p h := fun h hh =>
      ih (h, p) (Multiset.mem_add.2 (.inl (Multiset.mem_map_of_mem _ hh)))
    obtain ⟨hafter, hkept⟩ := Ensures.recorded (c.keepsModes hp htaken) w _ hfresh.2 htakes
    intro x hx
    rw [Talk.modes_append]
    rcases Multiset.mem_add.1 hx with hmem | hmem
    · obtain ⟨h, hh, rfl⟩ := Multiset.mem_map.1 hmem
      exact (hafter h hh).mono Talk.restored_append.1
    · have hx := ih x (Multiset.mem_add.2 (.inr hmem))
      refine (hx.mono fun h => (Talk.restored_append.1 h).1).of_eq fun fd hfd => ?_
      obtain ⟨hopen, hnot⟩ := hothers x hmem fd hfd
      exact hkept fd hopen hnot

end Lineage

/-- **The mode of every socket follows its profile.**  Whatever is done with any number of sockets,
and however it fails, every socket is in the mode that its profile asks for, an accepted connection
in that of its listener, as long as descriptors can be put back into blocking mode; a connected
stream is so in any case.  And streams are connected in non-blocking mode only. -/
theorem modes_kept {live : Multiset (Handle × Profile)} {talk : Talk} (h : Lineage live talk)
    (hfresh : talk.ledger.Fresh ∅) : ModesKept live talk where
  of_stream s p hs := (h.inMode hfresh _ hs).1
  of_datagram d p hd := (h.inMode hfresh _ hd).1
  of_restored hrestored socket p hsocket fd hfd := by
    have hmode := h.inMode hfresh _ hsocket
    cases socket with
    | stream s =>
      obtain ⟨rfl, hs⟩ := hmode
      exact hs fd hfd (.inr (.inr hrestored))
    | peer c => exact hmode fd hfd
    | datagram d => exact hmode.2 fd hfd
  of_connected s p hs hstate fd hfd := by
    obtain ⟨rfl, hmode⟩ := h.inMode hfresh _ hs
    exact hmode fd hfd (.inr (.inl hstate))
  prompt s p hs op σ _ w :=
    (Ensures.recorded (Stream.perform_turns (h.inMode hfresh _ hs).2 op) w).1

/-! ### A listener in one mode, a connection in the other -/

/-- One more command, of which it is known what it does to the sockets and the ledger, and that it
has put descriptors back. -/
theorem Lineage.next {σ : Type} [Kernel σ] {ledger : Ledger} (c : Command) (p : Profile)
    (hp : c.GoesBy p) (live : Multiset (Handle × Profile)) (after : Multiset Handle)
    (marks : Ledger)
    (h : ∃ talk : Talk, Lineage (c.takes.map (·, p) + live) talk ∧ talk.ledger = ledger ∧
      talk.Restored) (w : World σ) (hafter : (c.carryOut w.recorded).1 = after)
    (hmarks : (c.carryOut w.recorded).2.kernel.talk.ledger = marks)
    (hrestored : (c.carryOut w.recorded).2.kernel.talk.any Exchange.failsToRestore = false) :
    ∃ talk : Talk, Lineage (after.map (·, p) + live) talk ∧ talk.ledger = ledger ++ marks ∧
      talk.Restored := by
  obtain ⟨talk, hlineage, rfl, htalk⟩ := h
  rw [← hafter, ← hmarks, ← Talk.ledger_append]
  exact ⟨_, .step c p hp hlineage w, rfl, Talk.restored_append.2 ⟨htalk, hrestored⟩⟩

/-- A stream that does not wait accepts a connection and is dropped.  Then a stream that waits is
connected.  The accepted connection does not wait, either, and the stream waits again. -/
theorem modes_kept_accepted :
    let accepted := Peer.new ⟨4⟩ ⟨⟨127, 0, 0, 1⟩, 40000⟩
    let peers : Multiset (Handle × Profile) := {(.peer accepted, .standard)}
    let live : Multiset (Handle × Profile) := {(.stream Stream.granted, .conservative)} + peers
    ∃ talk : Talk, Lineage live talk ∧ talk.ledger.Fresh ∅ ∧ talk.Restored ∧
      ModesKept live talk ∧ talk.modes .blocking ⟨4⟩ = true ∧ talk.modes .blocking ⟨3⟩ = false := by
  intro accepted peers live
  let granted := World.granting false []
  let made := Stream.ofDescriptor ⟨3⟩ .standard
  let bound : Stream :=
    { made with localAddress := some ⟨⟨127, 0, 0, 1⟩, 40001⟩, isBound := true }
  let listening : Stream := { bound with state := .listening, backlog := some 5 }
  let waiting := Stream.ofDescriptor ⟨3⟩ .conservative
  have hnone : ∃ talk : Talk, Lineage 0 talk ∧ talk.ledger = [] ∧ talk.Restored :=
    ⟨[], .none, rfl, rfl⟩
  -- the first stream and what it accepts
  have hmade := Lineage.next (.newStream .standard) .standard rfl 0 {.stream made} [.opened ⟨3⟩]
    hnone granted rfl rfl rfl
  have hbound := Lineage.next (.onStream made (.bind "127.0.0.1" 7)) .standard trivial 0
    {.stream bound} [] hmade granted rfl rfl rfl
  have hlistening := Lineage.next (.onStream bound (.listen 5)) .standard trivial 0
    {.stream listening} [] hbound granted rfl rfl rfl
  have haccepted := Lineage.next (.onStream listening (.accept (some (.ofSecs 0)))) .standard
    trivial 0 ({.stream listening} + {.peer accepted}) [.opened ⟨4⟩] hlistening granted rfl rfl rfl
  have hdropped := Lineage.next (.drop (.stream listening)) .standard trivial peers 0
    [.closed ⟨3⟩] haccepted granted rfl rfl rfl
  -- the second stream
  have hwaiting := Lineage.next (.newStream .conservative) .conservative rfl peers
    {.stream waiting} [.opened ⟨3⟩] hdropped granted rfl rfl rfl
  have hconnected := Lineage.next (.onStream waiting (.connect "127.0.0.1" 7 none)) .conservative
    trivial peers {.stream Stream.granted} [] hwaiting granted rfl rfl rfl
  obtain ⟨talk, hlineage, hledger, hrestored⟩ := hconnected
  have hfresh : talk.ledger.Fresh ∅ := by
    rw [hledger]
    simp [Ledger.Fresh]
  have hkept : ModesKept live talk := modes_kept hlineage hfresh
  refine ⟨talk, hlineage, hfresh, hrestored, hkept, ?_, ?_⟩
  · exact hkept.of_restored hrestored (.peer accepted) .standard (by simp [live, peers]) ⟨4⟩ rfl
  · exact hkept.of_connected Stream.granted .conservative (by simp [live]) rfl ⟨3⟩ rfl

end ProfiledSocket
