/-
The times of received datagrams.

A datagram socket has a clock, and a datagram whose source is wanted comes with a reading of it.
Nothing else reads the clock, so the deliveries of a run carry its readings one after the other,
and whatever the clock shows, it makes no difference to anything but the times.

* `Datagram.deliveries` — what a run has delivered, in order;
* **`Datagram.carryOut_usesClock`** — an operation reads the clock once if it delivers something,
  and not at all otherwise;
* `Datagram.untimed` — a result without its time;
* **`Datagram.perform_withClock`** — another clock changes nothing but the times;
* `Datagram.Twins` — the same is done to two sockets that have clocks of their own;
* **`Datagram.run_timestamps`** — the readings of a run, and a run with another clock.

Design notes: a clock shows its readings by their numbers, and the socket counts how often it has
read it, so a time that belonged to another delivery would be seen by its number.  That the times
are all that a clock can change is an equation between computations, which covers the calls, the
reports and the world afterwards.
-/
import Mathlib
import ProfiledSocket.Proofs.Influence

namespace ProfiledSocket

variable {σ : Type} [Kernel σ]

open Act

namespace Datagram

variable {d d' : Datagram} {history history' : History Datagram}

/-! ### Deliveries -/

/-- What an operation with such a result has delivered. -/
def delivery? : (op : Operation) → op.Result → Option Delivery
  | .receiveFrom .., .ok delivery => some delivery
  | _, _ => none

theorem result_of_delivery? {capacity : Nat} {timeout : Timeout} {delivery : Delivery}
    {result : Except SocketError Delivery}
    (h : delivery? (.receiveFrom capacity timeout) result = some delivery) :
    result = .ok delivery := by
  cases result with
  | error e => cases h
  | ok delivery' => rw [Option.some.inj h]

/-- The deliveries of a history, in order. -/
def deliveries (history : History Datagram) : List Delivery :=
  history.reverse.filterMap fun entry => delivery? entry.op entry.result

theorem deliveries_cons (entry : Entry Datagram) (history : History Datagram) :
    deliveries (entry :: history) =
      deliveries history ++ (delivery? entry.op entry.result).toList := by
  rw [deliveries, List.reverse_cons, List.filterMap_append]
  cases h : delivery? entry.op entry.result <;> simp [deliveries, h]

/-! ### Reading the clock -/

/-- A delivery carries what the clock shows when the datagram is there; that it is read changes
nothing that it could show. -/
theorem receiveFrom_timestamp {capacity : Nat} {timeout : Timeout} {w : World σ}
    {delivery : Delivery} (h : (d.receiveFrom capacity timeout w).1.1 = .ok delivery) :
    delivery.timestamp =
      (d.readClock (d.receiveFrom capacity timeout w).2).1.1.getD 0 := by
  have hcase := Channel.receive_case d capacity timeout bytesAndSource w
  simp only [receiveFrom, Act.bind_apply] at h ⊢
  generalize Channel.receive d capacity timeout bytesAndSource w = outcome at hcase h ⊢
  obtain ⟨⟨e | ⟨data, source⟩, d'⟩, w'⟩ := outcome
  · cases h
  · -- the socket that reads the clock has other counters only
    have hframe : d' = { d with traffic := d'.traffic } := frame_of_receiveCase hcase
    have hread : (d'.readClock w').1.1 = (d.readClock w').1.1 := by
      rw [hframe, readClock, readClock]
      cases d.clock <;> rfl
    simp only [Act.bind_apply, Act.pure_apply, readClock_world, hread, Except.ok.injEq] at h ⊢
    rw [← h]

/-- How an operation has used the clock: it has delivered something and read the clock once for
it, or it has done neither. -/
inductive UsesClock (d : Datagram) (entry : Entry Datagram) (d' : Datagram) : Prop
  | unread (hdelivery : delivery? entry.op entry.result = none)
      (hreads : d'.clockReads = d.clockReads)
  | read (delivery : Delivery) (hdelivery : delivery? entry.op entry.result = some delivery)
      (hreads : d'.clockReads = d.clockReads + 1)
      (htime : ∀ values, d.clock = .readings values →
        delivery.timestamp = (values d.clockReads).getD 0)

/-- A datagram socket keeps its clock, and counts a reading for each delivery. -/
theorem Transition.clock_eq {op : Operation} {result : op.Result}
    (ht : Transition d op result d') : d'.clock = d.clock ∧
      d'.clockReads = d.clockReads + (delivery? op result).toList.length := by
  cases ht with
  | sent hcase =>
    rw [frame_of_sendCase hcase]
    exact ⟨rfl, rfl⟩
  | sentTo hcase =>
    rw [frame_of_sendCase hcase]
    exact ⟨rfl, rfl⟩
  | received hcase =>
    rw [frame_of_receiveCase hcase]
    exact ⟨rfl, rfl⟩
  | undelivered hcase =>
    rw [frame_of_receiveCase hcase]
    exact ⟨rfl, rfl⟩
  | delivered hcase _ =>
    rw [clockRead, frame_of_receiveCase hcase]
    exact ⟨rfl, rfl⟩
  | _ => exact ⟨rfl, rfl⟩

/-- **The clock is read once for a delivery**, and by nothing else. -/
theorem carryOut_usesClock (d : Datagram) (op : Operation) (w : World σ) :
    UsesClock d (carryOut d op w).1 (carryOut d op w).2 := by
  have hreads := (d.carryOut_transition w op).clock_eq.2
  cases hdelivery : delivery? op (carryOut d op w).1.result with
  | none => exact .unread hdelivery (by simpa [hdelivery] using hreads)
  | some delivery =>
    refine .read delivery hdelivery (by simpa [hdelivery] using hreads) fun values hclock => ?_
    cases op with
    | receiveFrom capacity timeout =>
      have hresult : (d.receiveFrom capacity timeout w.recorded).1.1 = .ok delivery :=
        result_of_delivery? hdelivery
      rw [receiveFrom_timestamp hresult, readClock, hclock]
    | _ => cases hdelivery

/-- The deliveries of a run carry the readings of its clock, one after the other. -/
theorem run_reads (h : Run history d) : d.clockReads = (deliveries history).length ∧
    ∀ values, d.clock = .readings values → (deliveries history).map Delivery.timestamp =
      (List.range d.clockReads).map fun k => (values k).getD 0 := by
  -- by induction on the run: the next reading is the one whose number is the count so far
  induction h with
  | new h =>
    obtain ⟨σ, _, w, profile, clock, hnew⟩ := h
    obtain ⟨fd, rfl⟩ := eq_ofDescriptor_of_new hnew
    exact ⟨rfl, fun _ _ => rfl⟩
  | @step _ _ history d _ op w ih =>
    obtain ⟨hlength, htimes⟩ := ih
    have hclock : (carryOut d op w).2.clock = d.clock := (d.carryOut_transition w op).clock_eq.1
    rw [deliveries_cons, hclock]
    cases d.carryOut_usesClock op w with
    | unread hdelivery hreads =>
      rw [hdelivery, hreads, Option.toList_none, List.append_nil]
      exact ⟨hlength, htimes⟩
    | read delivery hdelivery hreads htime =>
      rw [hdelivery, hreads, Option.toList_some]
      refine ⟨by rw [List.length_append, hlength, List.length_singleton], fun values hvalues => ?_⟩
      rw [List.range_succ, List.map_append, List.map_append, htimes values hvalues]
      simp only [List.map_cons, List.map_nil, htime values hvalues]

/-! ### Another clock -/

/-- A datagram socket with another clock. -/
def withClock (d : Datagram) (clock : Clock) : Datagram := { d with clock }

/-- A result without the time of a delivery. -/
def untimed : (op : Operation) → op.Result → op.Result
  | .receiveFrom .., .ok delivery => .ok { delivery with timestamp := 0 }
  | _, result => result

/-- An entry without the time of a delivery. -/
def untimedEntry (entry : Entry Datagram) : Entry Datagram :=
  { entry with result := untimed entry.op entry.result }

theorem new_withClock (profile : Profile) (clock clock' : Clock) :
    (Datagram.new profile clock' : Act σ _) =
      (fun result => result.map fun d => d.withClock clock') <$> Datagram.new profile clock := by
  rw [new_eq, new_eq]
  exact createSocket_eq_map rfl fun _ => rfl

/-- **What a datagram socket does depends on its clock in the times of deliveries only.** -/
theorem perform_withClock (d : Datagram) (clock : Clock) (op : Operation) :
    ((fun out => (untimed op out.1, out.2)) <$> (d.withClock clock).perform op : Act σ _) =
      (fun out => (untimed op out.1, out.2.withClock clock)) <$> d.perform op := by
  by_cases hop : ∃ capacity timeout, op = .receiveFrom capacity timeout
  · obtain ⟨capacity, timeout, rfl⟩ := hop
    show (_ <$> (d.mapSetup id fun _ => clock).receiveFrom capacity timeout : Act σ _) =
      _ <$> d.receiveFrom capacity timeout
    rw [receiveFrom, receiveFrom, receive_mapSetup, map_bind, map_bind]
    congr 1
    funext out
    obtain ⟨e | ⟨data, source⟩, d'⟩ := out
    · rfl
    · -- either clock is read, and the reading is left out of account
      funext w
      simp only [readClock, untimed, map_bind, map_pure, Act.bind_apply, Act.pure_apply]
      split <;> split <;> rfl
  · have hsame := perform_mapSetup (σ := σ) id (fun _ => clock) d
      fun capacity timeout h => hop ⟨capacity, timeout, h⟩
    show (_ <$> (d.mapSetup id fun _ => clock).perform op : Act σ _) = _
    rw [hsame, Functor.map_map]
    rfl

theorem carryOut_withClock (d : Datagram) (clock : Clock) (op : Operation) (w : World σ) :
    untimedEntry (carryOut (d.withClock clock) op w).1 = untimedEntry (carryOut d op w).1 ∧
      (carryOut (d.withClock clock) op w).2 = (carryOut d op w).2.withClock clock := by
  -- one equation tells the result, the talk and the socket
  have h := congrFun (perform_withClock d clock op) w.recorded
  have hresult := congrArg (fun out => out.1.1) h
  have htalk := congrArg (fun out => out.2.kernel.talk) h
  exact ⟨congrArg₂ (fun result talk => (⟨⟨op, result⟩, talk⟩ : Entry Datagram)) hresult htalk,
    congrArg (fun out => out.1.2) h⟩

/-- The same has been done, in the same worlds, to two sockets that were made alike but for their
clocks. -/
inductive Twins (clock clock' : Clock) :
    History Datagram → Datagram → History Datagram → Datagram → Prop
  | new {σ : Type} [Kernel σ] {profile : Profile} {w : World σ} {d d' : Datagram}
      (h : (Datagram.new profile clock w).1 = .ok d)
      (h' : (Datagram.new profile clock' w).1 = .ok d') : Twins clock clock' [] d [] d'
  | step {σ : Type} [Kernel σ] {history history' : History Datagram} {d d' : Datagram}
      (h : Twins clock clock' history d history' d') (op : Operation) (w : World σ) :
      Twins clock clock' ((carryOut d op w).1 :: history) (carryOut d op w).2
        ((carryOut d' op w).1 :: history') (carryOut d' op w).2

/-- A socket whose clock is another one is made in the same world. -/
theorem new_ok_withClock {profile : Profile} {clock : Clock} (clock' : Clock) {w : World σ}
    (h : (Datagram.new profile clock w).1 = .ok d) :
    (Datagram.new profile clock' w).1 = .ok (d.withClock clock') := by
  rw [new_withClock profile clock clock', Act.map_apply, h]
  rfl

/-- Whatever has been done to a socket could have been done to one with another clock. -/
theorem exists_twins (h : Run history d) (clock' : Clock) :
    ∃ history', Twins d.clock clock' history d history' (d.withClock clock') := by
  induction h with
  | new h =>
    obtain ⟨σ, _, w, profile, clock, hnew⟩ := h
    obtain ⟨fd, rfl⟩ := eq_ofDescriptor_of_new hnew
    exact ⟨[], .new hnew (new_ok_withClock clock' hnew)⟩
  | @step _ _ history d _ op w ih =>
    obtain ⟨history', htwins⟩ := ih
    have hclock : (carryOut d op w).2.clock = d.clock := (d.carryOut_transition w op).clock_eq.1
    have hstep := htwins.step op w
    rw [(carryOut_withClock d clock' op w).2] at hstep
    rw [hclock]
    exact ⟨_, hstep⟩

/-- Twins tell each other apart by the times of deliveries only. -/
theorem Twins.same {clock clock' : Clock} (h : Twins clock clock' history d history' d') :
    history'.map untimedEntry = history.map untimedEntry ∧ d' = d.withClock clock' := by
  induction h with
  | new h h' =>
    rw [new_ok_withClock clock' h] at h'
    exact ⟨rfl, (Except.ok.inj h').symm⟩
  | @step _ _ _ _ d _ _ op w ih =>
    obtain ⟨hhistory, rfl⟩ := ih
    obtain ⟨hentry, hsocket⟩ := carryOut_withClock d clock' op w
    exact ⟨by rw [List.map_cons, List.map_cons, hentry, hhistory], hsocket⟩

/-- Each of two twins has a run of its own. -/
theorem Twins.run {clock clock' : Clock} (h : Twins clock clock' history d history' d') :
    Run history' d' := by
  induction h with
  | @new σ _ profile w _ _ h h' => exact .new ⟨σ, _, w, profile, clock', h'⟩
  | step _ op w ih => exact ih.step op w

/-! ### Runs -/

/-- **The times of a run are the readings of its clock.**  Whatever is done to a datagram socket,
and whatever the kernel answers, its clock has been read as often as something was delivered, and
the deliveries carry the readings in order, with a 0 for a reading that failed; the machine's own
clock is read when the datagram is there.  With another clock the same is done in the same worlds:
all the results are the same then but for the times of the deliveries, and so are the talks with the
kernel, and the socket in the end is the same but for its clock. -/
theorem run_timestamps (h : Run history d) :
    d.clockReads = (deliveries history).length ∧
      (∀ values, d.clock = .readings values → (deliveries history).map Delivery.timestamp =
        (List.range d.clockReads).map fun k => (values k).getD 0) ∧
      (∀ {σ : Type} [Kernel σ] (capacity : Nat) (timeout : Timeout) (w : World σ)
        (delivery : Delivery), (d.receiveFrom capacity timeout w).1.1 = .ok delivery →
          delivery.timestamp = (d.readClock (d.receiveFrom capacity timeout w).2).1.1.getD 0) ∧
      ∀ clock', (∃ history' d', Twins d.clock clock' history d history' d') ∧
        ∀ history' d', Twins d.clock clock' history d history' d' →
          Run history' d' ∧ history'.map untimedEntry = history.map untimedEntry ∧
            d' = d.withClock clock' := by
  obtain ⟨hlength, htimes⟩ := run_reads h
  refine ⟨hlength, htimes, fun _ _ _ _ hdelivered => receiveFrom_timestamp hdelivered,
    fun clock' => ⟨?_, fun history' d' htwins => ?_⟩⟩
  · obtain ⟨history', htwins⟩ := exists_twins h clock'
    exact ⟨history', _, htwins⟩
  · exact ⟨htwins.run, htwins.same⟩

/-- A clock whose first reading is 5 and that fails after that. -/
def onceFive : Clock := .readings fun k => if k = 0 then some 5 else none

/-- Three datagrams arrive; the second one is received without its source. -/
theorem run_timestamps_five :
    let w := World.granting false [1]
    let made := ofDescriptor ⟨3⟩ .conservative onceFive
    let first := carryOut made (Operation.receiveFrom 8 none) w
    let plain := carryOut first.2 (Operation.receive 8 none) w
    let last := carryOut plain.2 (Operation.receiveFrom 8 none) w
    let history := [last.1, plain.1, first.1]
    Run history last.2 ∧ last.2.clockReads = 2 ∧
      (deliveries history).map Delivery.timestamp = [5, 0] ∧
      ∃ history' d', Twins onceFive .system history last.2 history' d' ∧
        history'.map untimedEntry = history.map untimedEntry := by
  intro w made first plain last history
  have hnew : Run [] made := .new ⟨Granting, inferInstance, w, .conservative, onceFive, rfl⟩
  have hrun : Run history last.2 := .step (.step (.step hnew (Operation.receiveFrom 8 none) w)
    (Operation.receive 8 none) w) (Operation.receiveFrom 8 none) w
  have hclock : last.2.clock = onceFive :=
    ((carryOut_transition _ w _).clock_eq.1.trans (carryOut_transition _ w _).clock_eq.1).trans
      (carryOut_transition made w _).clock_eq.1
  obtain ⟨hlength, htimes, -, hclocks⟩ := run_timestamps hrun
  obtain ⟨⟨history', d', htwins⟩, hsame⟩ := hclocks .system
  have hreads : last.2.clockReads = 2 := by
    rw [hlength]
    cbv
  have htwins' := htwins
  rw [hclock] at htwins'
  refine ⟨hrun, hreads, ?_, history', d', htwins', (hsame _ _ htwins).2.1⟩
  rw [htimes _ hclock, hreads]
  rfl

end Datagram

end ProfiledSocket
