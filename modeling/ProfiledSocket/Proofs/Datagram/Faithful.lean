/-
What the fields of a datagram socket say about its past.

A datagram socket can be bound, it can be given a default peer any number of times, and it can be
closed.  Its fields tell which of this has been done, and transfers do not blur that, however they
end.

* `Datagram.Milestone` — what leaves a mark on a datagram socket;
* `Datagram.Faithful` — what the fields of a socket say of its history;
* `Datagram.Steady` — what no operation does to a socket;
* **`Datagram.Faithful.transition`** — the fields keep up with every operation;
* **`Datagram.run_faithful`** — they say the truth whatever is done, and whatever the kernel
  answers.

Design notes: a history is boiled down to its milestones first, so that most operations have
nothing to do with the fields at all.  A milestone keeps how the address of a default peer was
read, rather than the endpoint, so that there is no milestone that would be passed over if an
address could not be read.
-/
import ProfiledSocket.Proofs.Datagram.Transition

namespace ProfiledSocket

variable {σ : Type} [Kernel σ]

namespace Datagram

variable {d d' : Datagram} {history : History Datagram}

/-! ### Milestones -/

/-- What leaves a mark on a datagram socket. -/
inductive Milestone
  | bound
  /-- A default peer was chosen; the address that the caller gave reads like this. -/
  | chose (addr : Except SocketError Endpoint)
  | closed

/-- What an operation with such a result is to the socket. -/
def milestone? : (op : Operation) → op.Result → Option Milestone
  | .bind .., .ok () => some .bound
  | .connect ip port, .ok () => some (.chose (Endpoint.read ip port))
  | .close, .ok () => some .closed
  | _, _ => none

/-- The milestones of a history, the latest first. -/
def milestones (history : History Datagram) : List Milestone :=
  history.filterMap fun entry => milestone? entry.op entry.result

/-- The choice that a milestone is, if it is one. -/
def Milestone.choice? : Milestone → Option (Except SocketError Endpoint)
  | chose addr => some addr
  | bound | closed => none

/-- The latest choice of a default peer. -/
def latestChoice? (history : History Datagram) : Option (Except SocketError Endpoint) :=
  (milestones history).findSome? Milestone.choice?

/-- An operation that is no milestone adds none. -/
theorem milestones_cons_of_none {entry : Entry Datagram}
    (h : milestone? entry.op entry.result = none) :
    milestones (entry :: history) = milestones history :=
  List.filterMap_cons_none h

theorem milestones_cons_of_some {entry : Entry Datagram} {m : Milestone}
    (h : milestone? entry.op entry.result = some m) :
    milestones (entry :: history) = m :: milestones history :=
  List.filterMap_cons_some h

/-! ### Fields -/

/-- What the fields of a datagram socket say of its history. -/
structure Faithful (history : History Datagram) (d : Datagram) : Prop where
  /-- The socket is open just as long as it has not been closed. -/
  open_iff : d.descriptor.isSome ↔ .closed ∉ milestones history
  /-- There is a default peer if the socket is open and one was chosen. -/
  defaultPeer_isSome_iff : d.defaultPeer.isSome ↔
    d.descriptor.isSome ∧ ∃ addr, .chose addr ∈ milestones history
  /-- It is the one that was chosen last. -/
  defaultPeer_eq_some_iff : ∀ addr, d.defaultPeer = some addr ↔
    d.descriptor.isSome ∧ latestChoice? history = some (.ok addr)
  isBound_iff : d.isBound = true ↔ d.descriptor.isSome ∧ .bound ∈ milestones history
  localAddress_of_bound : d.isBound = true → d.localAddress.isSome

theorem ofDescriptor_faithful (fd : Descriptor) (profile : Profile) (clock : Clock) :
    Faithful [] (ofDescriptor fd profile clock) := by
  constructor <;> simp [ofDescriptor, milestones, latestChoice?]

/-- The fields that are of interest here are the same. -/
structure Alike (d d' : Datagram) : Prop where
  descriptor_eq : d'.descriptor = d.descriptor
  defaultPeer_eq : d'.defaultPeer = d.defaultPeer
  isBound_eq : d'.isBound = d.isBound
  localAddress_eq : d'.localAddress = d.localAddress

theorem Alike.refl (d : Datagram) : Alike d d := ⟨rfl, rfl, rfl, rfl⟩

/-- What leaves the fields as they are is no milestone, and the other way round. -/
theorem Faithful.keep (h : Faithful history d) {entry : Entry Datagram}
    (hnone : milestone? entry.op entry.result = none) (hd : Alike d d') :
    Faithful (entry :: history) d' := by
  have hsame : milestones (entry :: history) = milestones history :=
    milestones_cons_of_none hnone
  have hlatest : latestChoice? (entry :: history) = latestChoice? history := by
    rw [latestChoice?, latestChoice?, hsame]
  constructor
  · rw [hsame, hd.descriptor_eq]
    exact h.open_iff
  · rw [hsame, hd.descriptor_eq, hd.defaultPeer_eq]
    exact h.defaultPeer_isSome_iff
  · intro addr
    rw [hlatest, hd.descriptor_eq, hd.defaultPeer_eq]
    exact h.defaultPeer_eq_some_iff addr
  · rw [hsame, hd.descriptor_eq, hd.isBound_eq]
    exact h.isBound_iff
  · rw [hd.isBound_eq, hd.localAddress_eq]
    exact h.localAddress_of_bound

theorem Faithful.bound (h : Faithful history d) {entry : Entry Datagram}
    (hm : milestone? entry.op entry.result = some .bound) (hopen : d.descriptor.isSome)
    (own : Endpoint) :
    Faithful (entry :: history) { d with localAddress := some own, isBound := true } := by
  have hsame : milestones (entry :: history) = _ :: milestones history :=
    milestones_cons_of_some hm
  have hlatest : latestChoice? (entry :: history) = latestChoice? history := by
    rw [latestChoice?, latestChoice?, hsame]
    rfl
  constructor
  · rw [hsame]
    simpa using h.open_iff
  · rw [hsame]
    simpa using h.defaultPeer_isSome_iff
  · intro addr
    rw [hlatest]
    exact h.defaultPeer_eq_some_iff addr
  · rw [hsame]
    simpa using hopen
  · intro _
    rfl

theorem Faithful.connected (h : Faithful history d) {entry : Entry Datagram} {addr : Endpoint}
    (hm : milestone? entry.op entry.result = some (.chose (.ok addr)))
    (hopen : d.descriptor.isSome) (own : Option Endpoint) :
    Faithful (entry :: history)
      { d with defaultPeer := some addr, localAddress := own.or d.localAddress } := by
  have hsame : milestones (entry :: history) = _ :: milestones history :=
    milestones_cons_of_some hm
  have hlatest : latestChoice? (entry :: history) = some (.ok addr) := by
    rw [latestChoice?, hsame]
    rfl
  constructor
  · rw [hsame]
    simpa using h.open_iff
  · rw [hsame]
    exact ⟨fun _ => ⟨hopen, _, List.mem_cons_self⟩, fun _ => rfl⟩
  · -- the choice that was just made is the latest, whatever has been chosen before
    intro addr'
    rw [hlatest]
    simpa using fun _ => hopen
  · rw [hsame]
    simpa using h.isBound_iff
  · -- the kernel may not tell the address that the socket has now, but the old one is kept then
    intro hbound
    have hlocal := h.localAddress_of_bound hbound
    simp [hlocal]

/-- Nothing that came before matters for a socket that has been closed. -/
theorem released_faithful (d : Datagram) {entry : Entry Datagram}
    (hm : milestone? entry.op entry.result = some .closed) :
    Faithful (entry :: history) d.released := by
  have hsame : milestones (entry :: history) = _ :: milestones history :=
    milestones_cons_of_some hm
  constructor <;> simp [released, hsame]

/-- **The fields keep up with every operation.** -/
theorem Faithful.transition (h : Faithful history d) {entry : Entry Datagram}
    (ht : Transition d entry.op entry.result d') : Faithful (entry :: history) d' := by
  obtain ⟨⟨op, result⟩, talk⟩ := entry
  cases ht with
  | bindFailed e => exact h.keep rfl (.refl d)
  | bound hopen own => exact h.bound rfl hopen own
  | connectFailed e => exact h.keep rfl (.refl d)
  | connected hopen hread own =>
    refine h.connected ?_ hopen own
    rw [milestone?, hread]
  | sent hcase =>
    rw [frame_of_sendCase hcase]
    exact h.keep rfl ⟨rfl, rfl, rfl, rfl⟩
  | misdirected e => exact h.keep rfl (.refl d)
  | sentTo hcase =>
    rw [frame_of_sendCase hcase]
    exact h.keep rfl ⟨rfl, rfl, rfl, rfl⟩
  | received hcase =>
    rw [frame_of_receiveCase hcase]
    exact h.keep rfl ⟨rfl, rfl, rfl, rfl⟩
  | undelivered hcase =>
    rw [frame_of_receiveCase hcase]
    exact h.keep rfl ⟨rfl, rfl, rfl, rfl⟩
  | delivered hcase timestamp =>
    rw [frame_of_receiveCase hcase]
    exact h.keep rfl ⟨rfl, rfl, rfl, rfl⟩
  | optionSet result => exact h.keep rfl (.refl d)
  | closeRefused hclosed e => exact h.keep rfl (.refl d)
  | closed => exact released_faithful d rfl

/-! ### What no operation does -/

/-- Whether an operation is a transfer that failed. -/
def FailedTransfer : (op : Operation) → op.Result → Prop
  | .send _, .error _ | .sendTo .., .error _ | .receive .., .error _ | .receiveFrom .., .error _ =>
    True
  | _, _ => False

/-- What no operation does to a datagram socket. -/
structure Steady (d : Datagram) (entry : Entry Datagram) (d' : Datagram) : Prop where
  /-- It opens no socket that is closed. -/
  stays_closed : d.descriptor = none → d'.descriptor = none
  /-- It sends nothing to a default peer while there is none. -/
  sends_to_peer : ∀ data, entry.op = Operation.send data → entry.talk ≠ [] → d.defaultPeer.isSome
  /-- A transfer that fails changes nothing at all. -/
  of_failure : FailedTransfer entry.op entry.result → d' = d

theorem Transition.stays_closed {op : Operation} {result : op.Result}
    (ht : Transition d op result d') (hclosed : d.descriptor = none) : d'.descriptor = none := by
  rcases ht.descriptor_eq with hsame | hnone
  · rw [hsame, hclosed]
  · exact hnone

theorem Transition.eq_of_failure {op : Operation} {result : op.Result}
    (ht : Transition d op result d') (hfailed : FailedTransfer op result) : d' = d := by
  cases ht with
  | @sent _ result _ hcase =>
    cases result with
    | ok n => exact hfailed.elim
    | error e => exact eq_of_spared hcase.spared
  | misdirected e => rfl
  | @sentTo _ _ _ _ result _ hcase =>
    cases result with
    | ok n => exact hfailed.elim
    | error e => exact eq_of_spared hcase.spared
  | @received _ _ result _ _ _ _ hcase =>
    cases result with
    | ok data => exact hfailed.elim
    | error e => exact eq_of_spared hcase.spared
  | undelivered hcase => exact eq_of_spared hcase.spared
  | _ => exact hfailed.elim

theorem carryOut_steady (d : Datagram) (op : Operation) (w : World σ) :
    Steady d (carryOut d op w).1 (carryOut d op w).2 where
  stays_closed := (d.carryOut_transition w op).stays_closed
  sends_to_peer := by
    intro data hop htalk
    obtain rfl : op = .send data := hop
    have hsends : (Operated.perform d (Operation.send data) : Act (Recorded σ) _).Ensures
        fun talk _ => talk ≠ [] → d.defaultPeer.isSome := d.send_ensures data
    exact carryOut_ensures d (Operation.send data) hsends w htalk
  of_failure := (d.carryOut_transition w op).eq_of_failure

/-! ### Runs -/

/-- **The fields of a datagram socket are faithful to its history.**  Whatever is done to the
socket in whatever order, and whatever the kernel answers, they say what has been done; and no
operation opens a closed socket, sends to a default peer that there is not, or changes anything by
a transfer that fails. -/
theorem run_faithful (h : Run history d) : Faithful history d ∧
    ∀ {σ : Type} [Kernel σ] (op : Operation) (w : World σ),
      Steady d (carryOut d op w).1 (carryOut d op w).2 := by
  refine ⟨?_, fun op w => carryOut_steady d op w⟩
  -- by induction on the history: every operation has one of the listed outcomes
  induction h with
  | new h =>
    obtain ⟨σ, _, w, profile, clock, hnew⟩ := h
    obtain ⟨fd, rfl⟩ := eq_ofDescriptor_of_new hnew
    exact ofDescriptor_faithful fd profile clock
  | step _ op w ih => exact ih.transition (carryOut_transition _ w op)

/-- A socket that is bound, gets one default peer and then another, and is closed. -/
theorem run_faithful_closed :
    let w := World.granting false []
    let made := ofDescriptor ⟨3⟩ .conservative .system
    let bound := carryOut made (Operation.bind "127.0.0.1" 7) w
    let first := carryOut bound.2 (Operation.connect "127.0.0.1" 8) w
    let second := carryOut first.2 (Operation.connect "127.0.0.1" 9) w
    let history := [second.1, first.1, bound.1]
    let closed := carryOut second.2 Operation.close w
    Run history second.2 ∧ second.2.isBound = true ∧ second.2.localAddress.isSome ∧
      second.2.defaultPeer = some ⟨⟨127, 0, 0, 1⟩, 9⟩ ∧ Run (closed.1 :: history) closed.2 ∧
      closed.2.descriptor = none ∧ closed.2.defaultPeer.isSome = false := by
  intro w made bound first second history closed
  have hnew : Run [] made := .new ⟨Granting, inferInstance, w, .conservative, .system, rfl⟩
  have hrun : Run history second.2 :=
    .step (.step (.step hnew (Operation.bind "127.0.0.1" 7) w)
      (Operation.connect "127.0.0.1" 8) w) (Operation.connect "127.0.0.1" 9) w
  have hclosed : Run (closed.1 :: history) closed.2 := .step hrun Operation.close w
  have hmilestones : milestones history = [.chose (.ok ⟨⟨127, 0, 0, 1⟩, 9⟩),
    .chose (.ok ⟨⟨127, 0, 0, 1⟩, 8⟩), .bound] := rfl
  have hopen : second.2.descriptor.isSome := rfl
  obtain ⟨hfaithful, -⟩ := run_faithful hrun
  obtain ⟨hfaithful', -⟩ := run_faithful hclosed
  have hbound : second.2.isBound = true :=
    hfaithful.isBound_iff.2 ⟨hopen, by rw [hmilestones]; simp⟩
  have hpeer : second.2.defaultPeer = some ⟨⟨127, 0, 0, 1⟩, 9⟩ :=
    (hfaithful.defaultPeer_eq_some_iff _).2 ⟨hopen, rfl⟩
  have hgone : closed.2.descriptor.isSome = false := by
    rw [Bool.eq_false_iff, ne_eq, hfaithful'.open_iff, not_not,
      milestones_cons_of_some (m := .closed) rfl]
    exact List.mem_cons_self
  refine ⟨hrun, hbound, hfaithful.localAddress_of_bound hbound, hpeer, hclosed, ?_, ?_⟩
  · simpa using hgone
  · rw [Bool.eq_false_iff, ne_eq, hfaithful'.defaultPeer_isSome_iff, hgone]
    simp

end Datagram

end ProfiledSocket
