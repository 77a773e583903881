/-
Deadlines.

A wait with a limit polls again after every interruption, for the time that is left by then.  What
is left is computed in whole milliseconds from what the clock says, so that interruptions neither
shorten the wait nor prolong it by a millisecond, and no poll is ever told to wait for ever or not
at all.  An operation that gives up because its wait ran out has taken the time it was given.

* `Timed` — a kernel that notes down what happens when;
* `Punctual` — a kernel whose clock runs forward and whose polls keep to their time;
* **`waitReady_lasts`** — what the polls of a wait are given, and when the wait runs out;
* `Act.Patient` — giving up no earlier than allowed;
* **`deadlines_kept`** — waits, and all operations that wait.

Design notes: time passes while the kernel answers and at no other moment, so the clock that a wait
reads after an interruption shows the time at which it polls next.  Whether an operation gave up
because of its wait is seen from outside: it did if no poll reported anything.
-/
import Mathlib
import ProfiledSocket.Proofs.Calls
import ProfiledSocket.Proofs.Duration
import ProfiledSocket.Proofs.Run

namespace ProfiledSocket

variable {σ α β : Type} [Kernel σ]

/-! ### What happens when -/

/-- An exchange, when the call was made and when it was answered. -/
structure Moment extends Exchange where
  asked : Nat
  answered : Nat

/-- A kernel together with what has happened so far. -/
structure Timed (σ : Type) where
  kernel : σ
  moments : List Moment

instance : Kernel (Timed σ) where
  answer t call :=
    ((Kernel.answer t.kernel call).1,
      ⟨(Kernel.answer t.kernel call).2, t.moments ++
        [{ call, reply := (Kernel.answer t.kernel call).1,
           asked := Kernel.now t.kernel,
           answered := Kernel.now (Kernel.answer t.kernel call).2 }]⟩)
  now t := Kernel.now t.kernel
  realtime t := Kernel.realtime t.kernel
  patience t := Kernel.patience t.kernel
  patience_lt t call h := Kernel.patience_lt t.kernel call h

/-- The same world, in which nothing has happened yet. -/
def World.timed (w : World σ) : World (Timed σ) := ⟨⟨w.kernel, []⟩, w.log⟩

/-- A kernel whose clock runs forward, and whose polls find nothing only after the time they were
given; one that is to wait for ever does not end that way. -/
structure Punctual (σ : Type) [Kernel σ] : Prop where
  now_le : ∀ (k : σ) (call : Call), Kernel.now k ≤ Kernel.now (Kernel.answer k call).2
  elapsed : ∀ (k : σ) (fd : Descriptor) (interest : Option Interest) (millis : Int32),
    (Kernel.answer k (.poll fd interest millis)).1 = .ok none → 0 ≤ millis ∧
      Kernel.now k + millis.toInt.toNat * 1000000 ≤
        Kernel.now (Kernel.answer k (.poll fd interest millis)).2

/-- What a call adds to what has happened. -/
theorem Timed.moments_eq {t t' : Timed σ} {call : Call} {reply : Reply call}
    (h : Kernel.answer t call = (reply, t')) :
    t'.moments = t.moments ++ [⟨⟨call, reply⟩, Kernel.now t, Kernel.now t'⟩] := by
  obtain ⟨rfl, rfl⟩ := Prod.mk.inj h
  rfl

theorem Punctual.timed (hp : Punctual σ) : Punctual (Timed σ) where
  now_le t call := hp.now_le t.kernel call
  elapsed t fd interest millis h := hp.elapsed t.kernel fd interest millis h

/-- A punctual kernel notes down a talk while its clock runs forward. -/
theorem Talked.timed (hp : Punctual σ) {t t' : Timed σ} {talk : Talk} (h : Talked t talk t') :
    ∃ moments, t'.moments = t.moments ++ moments ∧ moments.map Moment.toExchange = talk ∧
      Kernel.now t ≤ Kernel.now t' := by
  induction h with
  | silent t => exact ⟨[], by simp, rfl, Nat.le_refl _⟩
  | @call t t' call talk _ ih =>
    obtain ⟨moments, hmoments, htalk, hnow⟩ := ih
    refine ⟨⟨⟨call, (Kernel.answer t call).1⟩, Kernel.now t, Kernel.now (Kernel.answer t call).2⟩ ::
      moments, ?_, ?_, Nat.le_trans (hp.timed.now_le t call) hnow⟩
    · have hcall := Timed.moments_eq (Prod.eta (Kernel.answer t call)).symm
      rw [hmoments, hcall, List.append_assoc, List.singleton_append]
    · rw [List.map_cons, htalk]

namespace Act

/-- Wherever it starts, `x` lasts from one time to another, and its moments in between and its
result are as `Q` says. -/
def Lasts (x : Act (Timed σ) α) (Q : Nat → List Moment → α → Nat → Prop) : Prop :=
  ∀ w : World (Timed σ), ∃ moments,
    (x w).2.kernel.moments = w.kernel.moments ++ moments ∧
      Q (Kernel.now w.kernel) moments (x w).1 (Kernel.now (x w).2.kernel)

namespace Lasts

theorem mono {x : Act (Timed σ) α} {Q R : Nat → List Moment → α → Nat → Prop} (h : x.Lasts Q)
    (hQR : ∀ start moments a finish, Q start moments a finish → R start moments a finish) :
    x.Lasts R := by
  intro w
  obtain ⟨moments, hmoments, hQ⟩ := h w
  exact ⟨moments, hmoments, hQR _ _ _ _ hQ⟩

/-- What is known of the talk of a computation is known of its moments. -/
theorem of_ensures (hp : Punctual σ) {x : Act (Timed σ) α} {Q : Talk → α → Prop}
    (h : x.Ensures Q) : x.Lasts fun start moments a finish =>
      Q (moments.map Moment.toExchange) a ∧ start ≤ finish := by
  intro w
  obtain ⟨talk, ht, hQ⟩ := h w
  obtain ⟨moments, hmoments, rfl, hnow⟩ := ht.timed hp
  exact ⟨moments, hmoments, hQ, hnow⟩

/-- The second computation starts when the first is over. -/
theorem bind {x : Act (Timed σ) α} {f : α → Act (Timed σ) β}
    {Q : Nat → List Moment → β → Nat → Prop}
    (h : x.Lasts fun start moments a mid => (f a).Lasts fun mid' more b finish =>
      mid' = mid → Q start (moments ++ more) b finish) : (x >>= f).Lasts Q := by
  intro w
  obtain ⟨moments, hmoments, hf⟩ := h w
  obtain ⟨more, hmore, hQ⟩ := hf (x w).2
  refine ⟨moments ++ more, ?_, hQ rfl⟩
  rw [bind_apply, hmore, hmoments, List.append_assoc]

end Lasts

end Act

/-! ### Waits -/

/-- What a poll is given that is made at `asked`, in a wait for `millis` that began at `start`. -/
structure InTime (millis left : Int32) (start asked : Nat) : Prop where
  /-- No number is too large for its place: what is left is what remains of `millis`. -/
  left_eq : 0 < millis → left.toInt = millis.toInt - ((asked - start) / 1000000 : Nat)
  bounds : 0 < millis → 1 ≤ left.toInt ∧ left.toInt ≤ millis.toInt
  deadline_lt : 0 < millis → asked + left.toInt.toNat * 1000000 <
    start + millis.toInt.toNat * 1000000 + 1000000
  of_not_pos : ¬ 0 < millis → left = millis

theorem InTime.first (millis : Int32) (start : Nat) : InTime millis millis start start where
  left_eq _ := by simp
  bounds hpos := by
    rw [Int32.lt_iff_toInt_lt, Int32.toInt_zero] at hpos
    omega
  deadline_lt _ := by omega
  of_not_pos _ := rfl

/-- After an interruption that leaves time, the next poll is in time. -/
theorem InTime.next {millis : Int32} (hpos : 0 < millis) {start now : Nat}
    (hleft : ¬ millis.toInt ≤ elapsedMillis start now) :
    InTime millis (millis - Int32.ofNat (elapsedMillis start now)) start now := by
  have hmax := millis.toInt_lt
  -- what has passed is less than the wait, so it was not cut
  have helapsed : elapsedMillis start now = (now - start) / 1000000 := by
    rw [elapsedMillis, maxMillis] at hleft ⊢
    omega
  have hcast : (Int32.ofNat (elapsedMillis start now)).toInt = elapsedMillis start now :=
    Int32.toInt_ofNat_of_lt (by omega)
  have hsub : (millis - Int32.ofNat (elapsedMillis start now)).toInt =
      millis.toInt - elapsedMillis start now := by
    rw [Int32.toInt_sub_of_le, hcast]
    · rw [Int32.le_iff_toInt_le, hcast, Int32.toInt_zero]
      omega
    · rw [Int32.le_iff_toInt_le, hcast]
      omega
  constructor
  · intro _
    rw [hsub, helapsed]
  · intro _
    omega
  · intro _
    rw [hsub]
    omega
  · exact fun hnot => absurd hpos hnot

/-- A wait for `millis` that lasted from `start` to `finish`. -/
structure Waited (fd : Descriptor) (interest : Interest) (millis : Int32) (start : Nat)
    (moments : List Moment) (result : Except IoError Readiness) (finish : Nat) : Prop where
  polls : ∀ m ∈ moments, ∃ left, m.call = .poll fd (some interest) left ∧
    InTime millis left start m.asked
  timedOut : result = .ok .timedOut → 0 ≤ millis ∧
    start + millis.toInt.toNat * 1000000 ≤ finish
  ready : result = .ok .ready → ∃ m ∈ moments, m.isReady = true

/-- A wait that goes on at a time when its next poll is in time. -/
theorem waitFrom_waited (hp : Punctual σ) (fd : Descriptor) (interest : Interest) (millis : Int32)
    (start : Nat) (left : Int32) (w : World (Timed σ)) (hstart : start ≤ Kernel.now w.kernel)
    (hleft : InTime millis left start (Kernel.now w.kernel)) :
    ∃ moments, (waitFrom fd interest millis start left w).2.kernel.moments =
        w.kernel.moments ++ moments ∧
      moments.head?.map Moment.asked = some (Kernel.now w.kernel) ∧
      Waited fd interest millis start moments (waitFrom fd interest millis start left w).1
        (Kernel.now (waitFrom fd interest millis start left w).2.kernel) := by
  have hnow {t t' : Timed σ} {call : Call} {reply : Reply call}
      (hk : Kernel.answer t call = (reply, t')) : Kernel.now t ≤ Kernel.now t' := by
    simpa [hk] using hp.timed.now_le t call
  -- a poll that ends the wait
  have hlast {t t' : Timed σ} {left : Int32} {reply : Reply (.poll fd (some interest) left)}
      {result : Except IoError Readiness}
      (hk : Kernel.answer t (.poll fd (some interest) left) = (reply, t'))
      (hleft : InTime millis left start (Kernel.now t))
      (htimedOut : result = .ok .timedOut → 0 ≤ millis ∧
        start + millis.toInt.toNat * 1000000 ≤ Kernel.now t')
      (hready : result = .ok .ready → Exchange.isReady ⟨_, reply⟩ = true) :
      ∃ moments, t'.moments = t.moments ++ moments ∧
        moments.head?.map Moment.asked = some (Kernel.now t) ∧
        Waited fd interest millis start moments result (Kernel.now t') := by
    refine ⟨_, Timed.moments_eq hk, rfl, ?_, htimedOut, fun hresult => ?_⟩
    · simpa using hleft
    · simpa using hready hresult
  -- a poll after which the wait goes on
  have hmore {t t' : Timed σ} {left : Int32} {reply : Reply (.poll fd (some interest) left)}
      {result : Except IoError Readiness} {moments' : List Moment} {finish : Nat}
      (hk : Kernel.answer t (.poll fd (some interest) left) = (reply, t'))
      (hleft : InTime millis left start (Kernel.now t))
      (ih : ∃ moments, moments' = t'.moments ++ moments ∧
        moments.head?.map Moment.asked = some (Kernel.now t') ∧
        Waited fd interest millis start moments result finish) :
      ∃ moments, moments' = t.moments ++ moments ∧
        moments.head?.map Moment.asked = some (Kernel.now t) ∧
        Waited fd interest millis start moments result finish := by
    obtain ⟨moments, hmoments, -, hwaited⟩ := ih
    rw [Timed.moments_eq hk, List.append_assoc, List.singleton_append] at hmoments
    refine ⟨_, hmoments, rfl, ?_, hwaited.timedOut, fun hresult => ?_⟩
    · simpa using ⟨hleft, hwaited.polls⟩
    · obtain ⟨m, hm, hmready⟩ := hwaited.ready hresult
      exact ⟨m, List.mem_cons_of_mem _ hm, hmready⟩
  fun_induction waitFrom fd interest millis start left w with
  | case1 left w revents kernel hk hinvalid => exact hlast hk hleft (by simp) (by simp)
  | case2 left w revents kernel hk hinvalid =>
    exact hlast hk hleft (by simp) (by simpa [Exchange.isReady] using hinvalid)
  | case3 left w kernel hk =>
    -- the poll took the time that was left
    refine hlast hk hleft (fun _ => ?_) (by simp)
    show 0 ≤ millis ∧ start + millis.toInt.toNat * 1000000 ≤ Kernel.now kernel
    obtain ⟨hnonneg, hfinish⟩ := hp.timed.elapsed _ _ _ _ (congrArg Prod.fst hk)
    rw [hk] at hfinish
    by_cases hpos : 0 < millis
    · have hexact := hleft.left_eq hpos
      have hbounds := hleft.bounds hpos
      rw [Int32.lt_iff_toInt_lt, Int32.toInt_zero] at hpos
      refine ⟨Int32.le_iff_toInt_le.2 (by rw [Int32.toInt_zero]; omega), ?_⟩
      simp only at hfinish
      omega
    · rw [hleft.of_not_pos hpos] at hnonneg hfinish
      simp only at hfinish
      exact ⟨hnonneg, by omega⟩
  | case4 left w kernel hpos elapsed hle hk =>
    -- the time was up when the signal came
    refine hlast hk hleft (fun _ => ?_) (by simp)
    have hstart' := Nat.le_trans hstart (hnow hk)
    have helapsed : elapsed ≤ (Kernel.now kernel - start) / 1000000 := Nat.min_le_left _ _
    rw [Int32.lt_iff_toInt_lt, Int32.toInt_zero] at hpos
    refine ⟨Int32.le_iff_toInt_le.2 (by rw [Int32.toInt_zero]; omega), ?_⟩
    simp only
    omega
  | case5 left w kernel hpos elapsed hle hk ih =>
    exact hmore hk hleft (ih (Nat.le_trans hstart (hnow hk)) (.next hpos hle))
  | case6 left w kernel hpos hk ih =>
    have hleft' : InTime millis left start (Kernel.now kernel) := by
      rw [hleft.of_not_pos hpos]
      exact ⟨fun h => absurd h hpos, fun h => absurd h hpos, fun h => absurd h hpos, fun _ => rfl⟩
    exact hmore hk hleft (ih (Nat.le_trans hstart (hnow hk)) hleft')
  | case7 left w e kernel hk he => exact hlast hk hleft (by simp) (by simp)

/-- **What a wait does.**  Its first poll is made when it starts, all polls are in time, and it
runs out only when its time is up. -/
theorem waitReady_lasts (hp : Punctual σ) (fd : Descriptor) (interest : Interest)
    (millis : Int32) : (waitReady fd interest millis : Act (Timed σ) _).Lasts
      fun start moments result finish =>
        moments.head?.map Moment.asked = some start ∧
          Waited fd interest millis start moments result finish := by
  intro w
  exact waitFrom_waited hp fd interest millis _ millis w (Nat.le_refl _) (.first millis _)

/-! ### Giving up -/

/-- Whether a call is a poll. -/
def Call.isPoll : Call → Bool
  | .poll .. => true
  | _ => false

/-- If no poll has reported anything, at least `d` has passed since the first of them. -/
def Outlasted (d : Duration) (moments : List Moment) (finish : Nat) : Prop :=
  (∀ m ∈ moments, m.isReady = false) → ∃ first,
    moments.find? (fun m => m.call.isPoll) = some first ∧ first.asked + d.totalNanos ≤ finish

section Outlasted

variable {d : Duration} {moments : List Moment} {mid finish : Nat}

theorem Outlasted.append (h : Outlasted d moments mid) (more : List Moment)
    (hle : mid ≤ finish) : Outlasted d (moments ++ more) finish := by
  intro hnone
  obtain ⟨first, hfirst, hpassed⟩ := h fun m hm => hnone m (List.mem_append_left _ hm)
  exact ⟨first, by rw [List.find?_append, hfirst, Option.some_or], by omega⟩

theorem Outlasted.prepend {before : List Moment} (hquiet : ∀ m ∈ before, m.call.isPoll = false)
    (h : Outlasted d moments finish) : Outlasted d (before ++ moments) finish := by
  intro hnone
  obtain ⟨first, hfirst, hpassed⟩ := h fun m hm => hnone m (List.mem_append_right _ hm)
  have hskip : before.find? (fun m => m.call.isPoll) = none := by
    rw [List.find?_eq_none]
    intro m hm
    simp [hquiet m hm]
  exact ⟨first, by rw [List.find?_append, hskip, hfirst, Option.none_or], hpassed⟩

end Outlasted

namespace Act

/-- If `x` gives up, it has taken its time. -/
def Patient (x : Act (Timed σ) α) (d : Duration) (gaveUp : α → Prop) : Prop :=
  x.Lasts fun _ moments a finish => gaveUp a → Outlasted d moments finish

namespace Patient

variable {d : Duration} {gaveUp : β → Prop}

theorem of_ensures (hp : Punctual σ) {x : Act (Timed σ) β}
    (h : x.Ensures fun _ b => ¬ gaveUp b) : x.Patient d gaveUp :=
  (Lasts.of_ensures hp h).mono fun _ _ _ _ hnot hgave => absurd hgave hnot.1

/-- It does not matter what comes before the polls. -/
theorem after (hp : Punctual σ) {x : Act (Timed σ) α} {f : α → Act (Timed σ) β}
    (hx : x.Ensures fun talk a =>
      (∀ e ∈ talk, e.call.isPoll = false) ∧ (f a).Patient d gaveUp) :
    (x >>= f).Patient d gaveUp := by
  refine Lasts.bind ((Lasts.of_ensures hp hx).mono fun start moments a mid h => ?_)
  obtain ⟨⟨hquiet, hf⟩, -⟩ := h
  refine Lasts.mono hf fun _ more b finish hmore _ hgave => (hmore hgave).prepend fun m hm => ?_
  exact hquiet _ (List.mem_map_of_mem hm)

/-- Nor does it matter what comes after the time is up. -/
theorem andThen (hp : Punctual σ) {x : Act (Timed σ) α} {f : α → Act (Timed σ) β}
    {hadUp : α → Prop} (hx : x.Patient d hadUp)
    (hf : ∀ a, (f a).Ensures fun _ b => gaveUp b → hadUp a) : (x >>= f).Patient d gaveUp := by
  refine Lasts.bind (Lasts.mono hx fun start moments a mid h => ?_)
  refine (Lasts.of_ensures hp (hf a)).mono fun mid' more b finish hb hmid hgave => ?_
  obtain ⟨hhad, hle⟩ := hb
  exact (h (hhad hgave)).append more (by omega)

end Patient

end Act

/-! ### Operations that wait -/

section Operations

variable {d : Duration}

/-- A wait that ends well has seen something; one that runs out has taken its time. -/
theorem waitReady_patient (hp : Punctual σ) (hmax : d.totalNanos ≤ maxMillis * 1000000)
    (fd : Descriptor) (interest : Interest) :
    (waitReady fd interest (Timeout.millis (some d)) : Act (Timed σ) _).Patient d
      fun result => result = .ok .timedOut ∨ result = .ok .ready := by
  refine (waitReady_lasts hp fd interest _).mono fun start moments result finish h hresult => ?_
  obtain ⟨hhead, hwaited⟩ := h
  intro hnone
  rcases hresult with htimedOut | hready
  · obtain ⟨hnonneg, hfinish⟩ := hwaited.timedOut htimedOut
    cases moments with
    | nil => cases hhead
    | cons first rest =>
      obtain ⟨left, hcall, -⟩ := hwaited.polls first List.mem_cons_self
      have hasked : first.asked = start := Option.some.inj hhead
      have hceil := d.totalNanos_le
      rw [Timeout.millis_some hmax] at hfinish
      refine ⟨first, List.find?_cons_of_pos ?_, by omega⟩
      simp [hcall, Call.isPoll]
  · obtain ⟨m, hm, hmready⟩ := hwaited.ready hready
    rw [hnone m hm] at hmready
    cases hmready

/-! #### Checks that fail do not run out of time -/

theorem Channel.held_ne_timeout {C : Type} [Channel C] (c : C) :
    Channel.held c ≠ .error .timeout := by
  intro h
  rw [Channel.held] at h
  split at h <;> cases h

theorem Stream.checkAccept_ne_timeout (s : Stream) : s.checkAccept ≠ .error .timeout := by
  intro h
  rw [Stream.checkAccept] at h
  by_cases hstate : s.state ≠ .listening
  · rw [if_pos hstate] at h
    cases h
  · rw [if_neg hstate] at h
    exact Channel.held_ne_timeout s h

theorem Stream.checkConnect_ne_timeout (s : Stream) (ip : String) (port : UInt16) :
    s.checkConnect ip port ≠ .error .timeout := by
  intro h
  rw [Stream.checkConnect] at h
  by_cases hconnected : s.state = .connected
  · rw [if_pos hconnected] at h
    cases h
  · rw [if_neg hconnected] at h
    by_cases hlistening : s.state = .listening
    · rw [if_pos hlistening] at h
      cases h
    · rw [if_neg hlistening] at h
      rcases Except.error_of_bind h with hheld | ⟨fd, -, h⟩
      · exact Channel.held_ne_timeout s hheld
      · rcases Except.error_of_bind h with hread | ⟨addr, -, h⟩
        · rw [Endpoint.read] at hread
          split at hread <;> cases hread
        · cases h

/-! #### Waits that end without success have lasted -/

variable (hp : Punctual σ) (hmax : d.totalNanos ≤ maxMillis * 1000000)
include hp hmax

theorem Channel.awaitReadable_patient (hpos : 0 < d.totalNanos) (fd : Descriptor) :
    (Channel.awaitReadable fd (some d) : Act (Timed σ) _).Patient d
      fun result => result = .error .timeout ∨ result = .ok () := by
  rw [Channel.awaitReadable, if_neg (Timeout.millis_ne_zero hpos)]
  refine .andThen hp (waitReady_patient hp hmax fd .read) fun readiness => ?_
  cases readiness with
  | error e => exact .pure (by simp)
  | ok reached =>
    cases reached with
    | ready => exact .pure fun _ => .inr rfl
    | timedOut => exact .pure fun _ => .inl rfl

/-- A receive that is not refused for lack of time gives up late only. -/
theorem Channel.receive_patient (hpos : 0 < d.totalNanos) {C : Type} [Channel C] {c : C}
    {capacity : Nat} {α : Type} {view : Received capacity → Except IoError α}
    (hcheck : Channel.readyDescriptor c .receiving capacity ≠ .error .timeout) :
    (Channel.receive c capacity (some d) view : Act (Timed σ) _).Patient d
      fun out => out.1 = .error .timeout := by
  rw [Channel.receive]
  split
  · rename_i e herror
    refine .of_ensures hp (.pure fun htimeout => hcheck ?_)
    cases htimeout
    exact herror
  · rename_i fd _
    refine .andThen hp (Channel.awaitReadable_patient hp hmax hpos fd) fun waited => ?_
    cases waited with
    | error e =>
      refine .pure fun htimeout => .inl ?_
      cases htimeout
      rfl
    | ok _ =>
      -- whatever the kernel hands over now, something was ready
      have hrest : (do
          let result := viewed view (← askUninterrupted (.receive fd capacity))
          noteReceive c fd result
          return afterReceive c result : Act (Timed σ) _).Makes fun _ => True :=
        .bind (.askUninterrupted trivial) fun _ =>
          .bind (Channel.noteReceive_makes c fd _) fun _ => .pure _
      exact .mono hrest fun _ _ _ _ => .inr rfl

theorem Stream.awaitConnection_patient (hpos : 0 < d.totalNanos) (fd : Descriptor) :
    (Stream.awaitConnection fd (some d) : Act (Timed σ) _).Patient d
      fun result => result = .error .timeout ∨ result = .ok () := by
  rw [Stream.awaitConnection, if_neg (Timeout.millis_ne_zero hpos)]
  refine .andThen hp (waitReady_patient hp hmax fd .read) fun readiness => ?_
  cases readiness with
  | error e => exact .pure (by simp)
  | ok reached =>
    cases reached with
    | ready => exact .pure fun _ => .inr rfl
    | timedOut => exact .pure fun _ => .inl rfl

theorem Stream.accept_patient (hpos : 0 < d.totalNanos) (s : Stream) :
    (s.accept (some d) : Act (Timed σ) _).Patient d fun result => result = .error .timeout := by
  rw [Stream.accept]
  split
  · rename_i e herror
    refine .of_ensures hp (.pure fun htimeout => checkAccept_ne_timeout s ?_)
    cases htimeout
    exact herror
  · rename_i fd _
    refine .andThen hp (awaitConnection_patient hp hmax hpos fd) fun waited => ?_
    cases waited with
    | error e =>
      refine .pure fun htimeout => .inl ?_
      cases htimeout
      rfl
    | ok _ =>
      refine .bind (.ask fun reply => ?_)
      cases reply with
      | ok _ => exact .mono (adopt_makes _ _ _) fun _ _ _ _ => .inr rfl
      | error e =>
        dsimp only
        split <;> exact .pure fun _ => .inr rfl

/-- An attempt that goes on in the background runs out of time only when it is over. -/
theorem establish_patient (fd : Descriptor) (addr : Endpoint) :
    (establish fd addr (some d) : Act (Timed σ) _).Patient d
      fun result => result = .error .timeout := by
  refine .after hp (.ask fun reply => ⟨by simp [Call.isPoll], ?_⟩)
  cases reply with
  | ok _ => exact .of_ensures hp (.pure (by simp))
  | error e =>
    dsimp only
    split
    · refine .andThen hp (waitReady_patient hp hmax fd .write) fun readiness => ?_
      match readiness with
      | .ok .timedOut => exact .pure fun _ => .inl rfl
      | .error e => exact .pure (by simp)
      | .ok .ready =>
        refine .bind (.ask fun pending => ?_)
        match pending with
        | .ok none => exact .pure (by simp)
        | .ok (some e) => exact .pure (by simp)
        | .error e => exact .pure (by simp)
    · exact .of_ensures hp (.pure (by simp))

/-- Going back to blocking mode adds nothing to what the attempt has told. -/
theorem Stream.attempt_patient (fd : Descriptor) (addr : Endpoint) (always : Bool) :
    (Stream.attempt fd addr (some d) always : Act (Timed σ) _).Patient d
      fun result => result = .error .timeout := by
  refine .after hp (.note ⟨by simp, ?_⟩)
  refine .andThen hp (establish_patient hp hmax fd addr) fun outcome => .bind ?_
  refine .mono (leaveNonblocking_ensures fd always outcome) fun talk left hleft => ?_
  obtain ⟨-, hleft⟩ := hleft
  cases left with
  | ok _ =>
    refine .bind (.mono (localEndpoint_makes fd) fun _ own _ => ?_)
    exact .bind (.note (.pure (by simp)))
  | error e =>
    refine .bind (.note (.pure fun htimeout => ?_))
    cases htimeout
    rcases hleft with hsame | ⟨-, cause, hcause⟩
    · exact hsame.symm
    · cases hcause

theorem Stream.connect_patient (s : Stream) (ip : String) (port : UInt16) :
    (s.connect ip port (some d) : Act (Timed σ) _).Patient d
      fun out => out.1 = .error .timeout := by
  rw [Stream.connect]
  split
  · rename_i e herror
    refine .of_ensures hp (.pure fun htimeout => checkConnect_ne_timeout s ip port ?_)
    cases htimeout
    exact herror
  · rename_i fd addr _
    refine .after hp (.mono (enterNonblocking_ensures fd _) fun talk entered h => ?_)
    obtain ⟨hcalls, hentered⟩ := h
    refine ⟨fun e he => by rw [hcalls e he]; rfl, ?_⟩
    rcases hentered with rfl | ⟨e, rfl⟩
    · refine .andThen hp (attempt_patient hp hmax fd addr _) fun outcome => .pure fun htimeout => ?_
      cases outcome with
      | ok own => cases htimeout
      | error e =>
        cases htimeout
        rfl
    · exact .of_ensures hp (.pure (by simp))

/-- The clock of the socket is no part of the wait. -/
theorem Datagram.receiveFrom_patient (hpos : 0 < d.totalNanos) (dg : Datagram) (capacity : Nat) :
    (dg.receiveFrom capacity (some d) : Act (Timed σ) _).Patient d
      fun out => out.1 = .error .timeout := by
  have hcheck : Channel.readyDescriptor dg .receiving capacity ≠ .error .timeout :=
    Channel.readyDescriptor_ne (by simp) (by simp [Channel.obstacle?]) capacity
  refine .andThen hp (Channel.receive_patient hp hmax hpos hcheck) fun out => ?_
  obtain ⟨e | ⟨data, source⟩, dg'⟩ := out
  · refine .pure fun htimeout => ?_
    cases htimeout
    rfl
  · have hclock : (dg'.readClock : Act (Timed σ) _).Makes fun _ => True := readClock_makes dg'
    exact .bind (.mono hclock fun _ reading _ => .pure (by simp))

end Operations

/-- **Deadlines are kept.**  However often and whenever signals interrupt a wait, each of its polls
is given what is left of the time, in whole milliseconds, and it runs out only when its time is up.
So an operation that gives up because its wait ran out has lasted as long as its caller allowed. -/
theorem deadlines_kept (hp : Punctual σ) :
    (∀ (fd : Descriptor) (interest : Interest) (millis : Int32),
      (waitReady fd interest millis : Act (Timed σ) _).Lasts (Waited fd interest millis)) ∧
    ∀ d : Duration, 0 < d.totalNanos → d.totalNanos ≤ maxMillis * 1000000 →
      (∀ s : Stream, (s.accept (some d) : Act (Timed σ) _).Patient d
        fun result => result = .error .timeout) ∧
      (∀ (s : Stream) (ip : String) (port : UInt16),
        (s.connect ip port (some d) : Act (Timed σ) _).Patient d
          fun out => out.1 = .error .timeout) ∧
      (∀ (s : Stream) (capacity : Nat), (s.receive capacity (some d) : Act (Timed σ) _).Patient d
        fun out => out.1 = .error .timeout) ∧
      (∀ (p : Peer) (capacity : Nat), (p.receive capacity (some d) : Act (Timed σ) _).Patient d
        fun out => out.1 = .error .timeout) ∧
      (∀ (dg : Datagram) (capacity : Nat),
        (dg.receive capacity (some d) : Act (Timed σ) _).Patient d
          fun out => out.1 = .error .timeout) ∧
      ∀ (dg : Datagram) (capacity : Nat),
        (dg.receiveFrom capacity (some d) : Act (Timed σ) _).Patient d
          fun out => out.1 = .error .timeout := by
  refine ⟨fun fd interest millis => ?_, fun d hpos hmax => ⟨?_, ?_, ?_, ?_, ?_, ?_⟩⟩
  · exact (waitReady_lasts hp fd interest millis).mono fun _ _ _ _ h => h.2
  · exact fun s => s.accept_patient hp hmax hpos
  · exact fun s ip port => s.connect_patient hp hmax ip port
  · intro s capacity
    refine Channel.receive_patient hp hmax hpos
      (Channel.readyDescriptor_ne (by simp) ?_ capacity)
    simp only [Channel.obstacle?]
    split <;> simp
  · intro p capacity
    exact Channel.receive_patient hp hmax hpos
      (Channel.readyDescriptor_ne (by simp) (by simp [Channel.obstacle?]) capacity)
  · intro dg capacity
    exact Channel.receive_patient hp hmax hpos
      (Channel.readyDescriptor_ne (by simp) (by simp [Channel.obstacle?]) capacity)
  · exact fun dg capacity => dg.receiveFrom_patient hp hmax hpos capacity

/-! ### A kernel with a clock -/

/-- A kernel in which nothing ever gets ready.  Signals interrupt the next polls, each after so many
nanoseconds; all other calls are granted and take no time. -/
structure Ticking where
  time : Nat
  signals : List Nat

instance : Kernel Ticking where
  answer k call :=
    match call with
    | .poll _ _ millis =>
      match k.signals with
      | pause :: signals => (.error .interrupted, ⟨k.time + pause, signals⟩)
      | [] =>
        if millis < 0 then (.error .deadlock, k)
        else (.ok none, ⟨k.time + millis.toInt.toNat * 1000000, []⟩)
    | call => ((Kernel.answer (Granting.mk false []) call).1, k)
  now k := k.time
  realtime _ := none
  patience k := k.signals.length
  patience_lt k call h := by
    cases call with
    | poll fd interest millis =>
      obtain ⟨time, _ | ⟨pause, signals⟩⟩ := k
      · simp only at h
        split at h <;> simp [Errno.deadlock, Errno.interrupted] at h
      · simp
    | _ => simp [Kernel.answer] at h

theorem ticking_punctual : Punctual Ticking where
  now_le k call := by
    cases call with
    | poll fd interest millis =>
      obtain ⟨time, _ | ⟨pause, signals⟩⟩ := k
      · simp only [Kernel.answer]
        split <;> simp [Kernel.now]
      · simp [Kernel.answer, Kernel.now]
    | _ => exact Nat.le_refl _
  elapsed k fd interest millis h := by
    obtain ⟨time, _ | ⟨pause, signals⟩⟩ := k
    · simp only [Kernel.answer] at h ⊢
      split at h
      · cases h
      · rename_i hnonneg
        rw [if_neg hnonneg]
        exact ⟨Int32.not_lt.1 hnonneg, Nat.le_refl _⟩
    · cases h

/-- A receive that may take 2.5 milliseconds is interrupted after 0.7 and after another 1.6: it
polls for 3, 3 and 1 milliseconds and gives up after 3.3. -/
theorem deadlines_kept_interrupted :
    let d : Duration := .ofMicros 2500
    let w : World Ticking := ⟨⟨0, [700000, 1600000]⟩, []⟩
    let p := Peer.new ⟨4⟩ ⟨⟨127, 0, 0, 1⟩, 40000⟩
    let outcome := p.receive 8 (some d) w.timed
    Punctual Ticking ∧ 0 < d.totalNanos ∧ d.totalNanos ≤ maxMillis * 1000000 ∧
      outcome.1.1 = .error .timeout ∧
      outcome.2.kernel.moments.map (fun m => m.call) =
        [.poll ⟨4⟩ (some .read) 3, .poll ⟨4⟩ (some .read) 3, .poll ⟨4⟩ (some .read) 1] ∧
      Outlasted d outcome.2.kernel.moments (Kernel.now outcome.2.kernel) ∧
      Kernel.now outcome.2.kernel = 3300000 := by
  have hpos : 0 < (Duration.ofMicros 2500).totalNanos := by decide
  have hmax : (Duration.ofMicros 2500).totalNanos ≤ maxMillis * 1000000 := by decide
  obtain ⟨-, -, -, hreceive, -, -⟩ := (deadlines_kept ticking_punctual).2 _ hpos hmax
  obtain ⟨moments, hmoments, houtlasted⟩ := hreceive (Peer.new ⟨4⟩ ⟨⟨127, 0, 0, 1⟩, 40000⟩) 8
    (World.timed ⟨⟨0, [700000, 1600000]⟩, []⟩)
  have htimeout : ((Peer.new ⟨4⟩ ⟨⟨127, 0, 0, 1⟩, 40000⟩).receive 8 (some (.ofMicros 2500))
      (World.timed ⟨⟨0, [700000, 1600000]⟩, []⟩ : World (Timed Ticking))).1.1 =
        .error .timeout := by cbv
  refine ⟨ticking_punctual, hpos, hmax, htimeout, by cbv, ?_, by cbv⟩
  rw [hmoments]
  exact houtlasted htimeout

end ProfiledSocket
