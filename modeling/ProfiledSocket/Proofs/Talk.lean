/-
Talks: what a computation and the kernel say to each other.

The kernel may answer every call as it likes, so a statement about all kernels is a statement
about all talks.  `x.Ensures Q` says that whatever the answers are, `Q` holds of the talk that
`x` has with the kernel together with its result.

* **`Act.Ensures.bind`** — one computation after the other: the talks are joined;
* **`Act.Ensures.askUninterrupted`** — a repeated call: interruptions, then one other answer;
* `Polled`, **`Act.Ensures.waitReady`** — a wait: polls of one descriptor, and nothing else;
* **`Act.Ensures.recorded`** — a kernel that keeps a record has recorded the talk;
* `Evolves` — something outside that changes as the talk goes on;
* `Granting` — a friendly kernel, for talks in which nothing goes wrong.

Design notes: the talk of a computation is not part of its result, so it is tied to the kernel's
states before and after (`Talked`).  Several talks may lead from one state to another; a
`Recorded` kernel has only one, the talk that it noted down.
-/
import ProfiledSocket.Readiness

namespace ProfiledSocket

variable {σ α β : Type} [Kernel σ]

/-- A call and the answer to it. -/
structure Exchange where
  call : Call
  reply : Reply call

/-- Calls with their answers, in order. -/
abbrev Talk := List Exchange

/-- Whether an exchange is a poll that reports something about an open descriptor. -/
def Exchange.isReady : Exchange → Bool
  | ⟨.poll _ _ _, .ok (some revents)⟩ => !revents.invalid
  | _ => false

/-- The kernel in the first state gives the answers of the talk to its calls, one after the
other, and is in the second state then. -/
inductive Talked : σ → Talk → σ → Prop
  | silent (k : σ) : Talked k [] k
  | call {k k' : σ} (call : Call) {talk : Talk}
      (h : Talked (Kernel.answer k call).2 talk k') :
      Talked k (⟨call, (Kernel.answer k call).1⟩ :: talk) k'

theorem Talked.append {k k' k'' : σ} {talk more : Talk} (h : Talked k talk k')
    (h' : Talked k' more k'') : Talked k (talk ++ more) k'' := by
  induction h with
  | silent _ => exact h'
  | call call _ ih => exact .call call (ih h')

theorem Talked.of_answer {k k' k'' : σ} {call : Call} {reply : Reply call} {talk : Talk}
    (h : Kernel.answer k call = (reply, k')) (ht : Talked k' talk k'') :
    Talked k (⟨call, reply⟩ :: talk) k'' := by
  obtain ⟨rfl, rfl⟩ := Prod.mk.inj h
  exact .call call ht

/-- Some answers that a signal interrupted the call, and then another: the talk of a call that is
repeated until no signal interrupts it. -/
theorem talked_askFrom (call : Call) (w : World σ) :
    (askFrom call w).1 ≠ .error .interrupted ∧ ∃ n,
      Talked w.kernel (List.replicate n ⟨call, .error .interrupted⟩ ++
        [⟨call, (askFrom call w).1⟩]) (askFrom call w).2.kernel := by
  fun_induction askFrom call w with
  | case1 w value kernel hk => exact ⟨by simp, 0, .of_answer hk (.silent _)⟩
  | case2 w kernel hk ih =>
    obtain ⟨hne, n, ht⟩ := ih
    exact ⟨hne, n + 1, .of_answer hk ht⟩
  | case3 w e kernel hk he => exact ⟨by simpa using he, 0, .of_answer hk (.silent _)⟩

/-! ### Waiting -/

/-- The talk of a wait of so many milliseconds, of which `left` are still to come, and how it
ends. -/
inductive Polled (fd : Descriptor) (interest : Interest) (millis : Int32) :
    Int32 → Talk → Except IoError Readiness → Prop
  | ready {left : Int32} {revents : Revents} (h : revents.invalid = false) :
      Polled fd interest millis left [⟨.poll fd (some interest) left, .ok (some revents)⟩]
        (.ok .ready)
  | invalid {left : Int32} {revents : Revents} (h : revents.invalid = true) :
      Polled fd interest millis left [⟨.poll fd (some interest) left, .ok (some revents)⟩]
        (.error (.os .badDescriptor))
  | ranOut {left : Int32} :
      Polled fd interest millis left [⟨.poll fd (some interest) left, .ok none⟩] (.ok .timedOut)
  | failed {left : Int32} {e : Errno} (h : e ≠ .interrupted) :
      Polled fd interest millis left [⟨.poll fd (some interest) left, .error e⟩] (.error (.os e))
  /-- All the time had passed when a signal interrupted the wait. -/
  | expired {left : Int32} (h : 0 < millis) :
      Polled fd interest millis left [⟨.poll fd (some interest) left, .error .interrupted⟩]
        (.ok .timedOut)
  | interrupted {left left' : Int32} {talk : Talk} {result : Except IoError Readiness}
      (h : 0 < millis ∨ left' = left) (hrest : Polled fd interest millis left' talk result) :
      Polled fd interest millis left
        (⟨.poll fd (some interest) left, .error .interrupted⟩ :: talk) result

namespace Polled

variable {fd : Descriptor} {interest : Interest} {millis left : Int32} {talk : Talk}
  {result : Except IoError Readiness}

/-- A wait polls one descriptor, and makes no other call. -/
theorem polls (h : Polled fd interest millis left talk result) :
    ∀ e ∈ talk, ∃ left, e.call = .poll fd (some interest) left := by
  induction h with
  | interrupted _ _ ih => simpa using ih
  | _ => simp

/-- A wait that ends well has seen something reported. -/
theorem exists_isReady (h : Polled fd interest millis left talk result)
    (hresult : result = .ok .ready) : ∃ e ∈ talk, e.isReady = true := by
  induction h with
  | ready hvalid => exact ⟨_, List.mem_singleton_self _, by simp [Exchange.isReady, hvalid]⟩
  | interrupted _ _ ih =>
    obtain ⟨e, he, hready⟩ := ih hresult
    exact ⟨e, List.mem_cons_of_mem _ he, hready⟩
  | _ => cases hresult

/-- There is a poll in every wait, even if no time is left for it. -/
theorem exists_first (h : Polled fd interest millis left talk result) :
    ∃ reply, (⟨.poll fd (some interest) left, reply⟩ : Exchange) ∈ talk := by
  cases h <;> exact ⟨_, List.mem_cons_self⟩

theorem ne_nil : ¬ Polled fd interest millis left [] result := nofun

/-- A wait ends in one way, as its talk says. -/
theorem result_eq {left' : Int32} {result' : Except IoError Readiness}
    (h : Polled fd interest millis left talk result)
    (h' : Polled fd interest millis left' talk result') : result = result' := by
  -- by induction on the talk: only its last exchange can end the wait
  induction h generalizing left' with
  | ready hvalid =>
    cases h' with
    | ready _ => rfl
    | invalid hinvalid =>
      rw [hvalid] at hinvalid
      cases hinvalid
  | invalid hinvalid =>
    cases h' with
    | ready hvalid =>
      rw [hvalid] at hinvalid
      cases hinvalid
    | invalid _ => rfl
  | ranOut =>
    cases h' with
    | ranOut => rfl
  | failed hne =>
    cases h' with
    | failed _ => rfl
    | expired _ => exact absurd rfl hne
    | interrupted _ hrest => exact absurd rfl hne
  | expired _ =>
    cases h' with
    | failed hne => exact absurd rfl hne
    | expired _ => rfl
    | interrupted _ hrest => exact absurd hrest ne_nil
  | interrupted _ hrest ih =>
    cases h' with
    | failed _ => exact absurd hrest ne_nil
    | expired _ => exact absurd hrest ne_nil
    | interrupted _ hrest' => exact ih hrest'

end Polled

theorem talked_waitFrom (fd : Descriptor) (interest : Interest) (millis : Int32) (start : Nat)
    (left : Int32) (w : World σ) :
    ∃ talk, Talked w.kernel talk (waitFrom fd interest millis start left w).2.kernel ∧
      Polled fd interest millis left talk (waitFrom fd interest millis start left w).1 := by
  fun_induction waitFrom fd interest millis start left w with
  | case1 left w revents kernel hk hinvalid =>
    exact ⟨_, .of_answer hk (.silent _), .invalid hinvalid⟩
  | case2 left w revents kernel hk hinvalid =>
    exact ⟨_, .of_answer hk (.silent _), .ready (by simpa using hinvalid)⟩
  | case3 left w kernel hk => exact ⟨_, .of_answer hk (.silent _), .ranOut⟩
  | case4 left w kernel hpos elapsed hle hk =>
    exact ⟨_, .of_answer hk (.silent _), .expired hpos⟩
  | case5 left w kernel hpos elapsed hle hk ih =>
    obtain ⟨talk, ht, hpolled⟩ := ih
    exact ⟨_, .of_answer hk ht, .interrupted (.inl hpos) hpolled⟩
  | case6 left w kernel hpos hk ih =>
    obtain ⟨talk, ht, hpolled⟩ := ih
    exact ⟨_, .of_answer hk ht, .interrupted (.inr rfl) hpolled⟩
  | case7 left w e kernel hk he => exact ⟨_, .of_answer hk (.silent _), .failed he⟩

/-! ### Recording -/

/-- A kernel together with the talk that it has had. -/
structure Recorded (σ : Type) where
  kernel : σ
  talk : Talk

instance : Kernel (Recorded σ) where
  answer r call :=
    ((Kernel.answer r.kernel call).1,
      ⟨(Kernel.answer r.kernel call).2, r.talk ++ [⟨call, (Kernel.answer r.kernel call).1⟩]⟩)
  now r := Kernel.now r.kernel
  realtime r := Kernel.realtime r.kernel
  patience r := Kernel.patience r.kernel
  patience_lt r call h := Kernel.patience_lt r.kernel call h

theorem Talked.record {r r' : Recorded σ} {talk : Talk} (h : Talked r talk r') :
    r'.talk = r.talk ++ talk := by
  induction h with
  | silent r => simp
  | call call _ ih => simpa [Kernel.answer] using ih

/-- The same world, with a record in which nothing is noted yet. -/
def World.recorded (w : World σ) : World (Recorded σ) := ⟨⟨w.kernel, []⟩, w.log⟩

/-! ### What holds whatever the kernel answers -/

namespace Act

/-- From every world on, `x` has a talk with the kernel and a result as `Q` says. -/
def Ensures (x : Act σ α) (Q : Talk → α → Prop) : Prop :=
  ∀ w : World σ, ∃ talk, Talked w.kernel talk (x w).2.kernel ∧ Q talk (x w).1

namespace Ensures

variable {Q R : Talk → α → Prop}

theorem mono {x : Act σ α} (h : x.Ensures Q) (hQR : ∀ talk a, Q talk a → R talk a) :
    x.Ensures R := by
  intro w
  obtain ⟨talk, ht, hQ⟩ := h w
  exact ⟨talk, ht, hQR talk _ hQ⟩

/-- What is known of the result anyway. -/
theorem and_result {x : Act σ α} (h : x.Ensures Q) {R : α → Prop} (hR : ∀ w, R (x w).1) :
    x.Ensures fun talk a => Q talk a ∧ R a := by
  intro w
  obtain ⟨talk, ht, hQ⟩ := h w
  exact ⟨talk, ht, hQ, hR w⟩

/-- What does not depend on the talk holds of the result. -/
theorem result {x : Act σ α} {P : α → Prop} (h : x.Ensures fun _ => P) (w : World σ) :
    P (x w).1 := by
  obtain ⟨_, _, hP⟩ := h w
  exact hP

/-- A kernel that keeps a record has recorded the talk that `Q` is about. -/
theorem recorded {x : Act (Recorded σ) α} (h : x.Ensures Q) (w : World σ) :
    Q (x w.recorded).2.kernel.talk (x w.recorded).1 := by
  obtain ⟨talk, ht, hQ⟩ := h w.recorded
  have : (x w.recorded).2.kernel.talk = talk := by simpa [World.recorded] using ht.record
  rwa [this]

/-! ### Rules -/

theorem pure {a : α} (h : Q [] a) : (Pure.pure a : Act σ α).Ensures Q :=
  fun _ => ⟨[], .silent _, h⟩

theorem note {level : Level} {message : String} {Q : Talk → Unit → Prop} (h : Q [] ()) :
    (ProfiledSocket.note level message : Act σ Unit).Ensures Q :=
  fun _ => ⟨[], .silent _, h⟩

theorem clock {Q : Talk → Nat → Prop} (h : ∀ time, Q [] time) :
    (ProfiledSocket.clock : Act σ Nat).Ensures Q :=
  fun _ => ⟨[], .silent _, h _⟩

theorem ask {call : Call} {Q : Talk → Reply call → Prop}
    (h : ∀ reply, Q [⟨call, reply⟩] reply) : (ask call : Act σ _).Ensures Q :=
  fun _ => ⟨_, .call call (.silent _), h _⟩

/-- The talk of two computations, one after the other, is the talk of the first and then that
of the second. -/
theorem bind {x : Act σ α} {f : α → Act σ β} {Q : Talk → β → Prop}
    (h : x.Ensures fun talk a => (f a).Ensures fun more b => Q (talk ++ more) b) :
    (x >>= f).Ensures Q := by
  intro w
  obtain ⟨talk, ht, hf⟩ := h w
  obtain ⟨more, hm, hQ⟩ := hf (x w).2
  exact ⟨talk ++ more, ht.append hm, hQ⟩

/-- A call that is repeated has some answers that a signal interrupted it, and then another. -/
theorem askUninterrupted {call : Call} {Q : Talk → Reply call → Prop}
    (h : ∀ n reply, reply ≠ .error .interrupted →
      Q (List.replicate n ⟨call, .error .interrupted⟩ ++ [⟨call, reply⟩]) reply) :
    (ProfiledSocket.askUninterrupted call : Act σ _).Ensures Q := by
  intro w
  obtain ⟨hne, n, ht⟩ := talked_askFrom call w
  exact ⟨_, ht, h n _ hne⟩

/-- A wait polls its descriptor until it is over, the first time for all the milliseconds. -/
theorem waitReady {fd : Descriptor} {interest : Interest} {millis : Int32}
    {Q : Talk → Except IoError Readiness → Prop}
    (h : ∀ talk result, Polled fd interest millis millis talk result → Q talk result) :
    (ProfiledSocket.waitReady fd interest millis : Act σ _).Ensures Q := by
  refine bind (clock fun start w => ?_)
  obtain ⟨talk, ht, hpolled⟩ := talked_waitFrom fd interest millis start millis w
  exact ⟨talk, ht, h talk _ hpolled⟩

end Ensures

end Act

/-! ### What goes on outside -/

/-- Something outside changes as events tell, one after the other, and drifts in between. -/
inductive Evolves {γ ε : Type} (step : γ → ε → γ → Prop) (drift : γ → γ → Prop) :
    γ → List ε → γ → Prop
  | done (c : γ) : Evolves step drift c [] c
  | drift {c c' c'' : γ} {events : List ε} (h : drift c c')
      (hrest : Evolves step drift c' events c'') : Evolves step drift c events c''
  | event {c c' c'' : γ} {e : ε} {events : List ε} (h : step c e c')
      (hrest : Evolves step drift c' events c'') : Evolves step drift c (e :: events) c''

namespace Evolves

variable {γ ε : Type} {step : γ → ε → γ → Prop} {drift : γ → γ → Prop} {c c' : γ}
  {events more : List ε}

/-- There is a moment between the first events and the others. -/
theorem split (h : Evolves step drift c (events ++ more) c') :
    ∃ mid, Evolves step drift c events mid ∧ Evolves step drift mid more c' := by
  generalize hall : events ++ more = all at h
  induction h generalizing events with
  | done c =>
    obtain ⟨rfl, rfl⟩ := List.append_eq_nil_iff.1 hall
    exact ⟨c, .done c, .done c⟩
  | drift hdrift _ ih =>
    obtain ⟨mid, hbefore, hafter⟩ := ih hall
    exact ⟨mid, .drift hdrift hbefore, hafter⟩
  | @event c _ _ _ _ hstep hrest ih =>
    cases events with
    | nil =>
      subst hall
      exact ⟨c, .done c, .event hstep hrest⟩
    | cons e events =>
      obtain ⟨rfl, htail⟩ := List.cons.inj hall
      obtain ⟨mid, hbefore, hafter⟩ := ih htail
      exact ⟨mid, .event hstep hbefore, hafter⟩

/-- What neither an event nor drifting changes lasts. -/
theorem preserves {P : γ → Prop} (h : Evolves step drift c events c')
    (hdrift : ∀ a b, drift a b → P a → P b)
    (hstep : ∀ e ∈ events, ∀ a b, step a e b → P a → P b) (hc : P c) : P c' := by
  induction h with
  | done c => exact hc
  | drift hd _ ih => exact ih hstep (hdrift _ _ hd hc)
  | event hs _ ih =>
    rw [List.forall_mem_cons] at hstep
    exact ih hstep.2 (hstep.1 _ _ hs hc)

/-- What happens around a single event. -/
theorem single {e : ε} (h : Evolves step drift c [e] c') :
    ∃ before after, Evolves step drift c [] before ∧ step before e after ∧
      Evolves step drift after [] c' := by
  generalize hall : [e] = all at h
  induction h with
  | done c => cases hall
  | drift hdrift _ ih =>
    obtain ⟨before, after, hbefore, hstep, hafter⟩ := ih hall
    exact ⟨before, after, .drift hdrift hbefore, hstep, hafter⟩
  | event hstep hrest _ =>
    obtain ⟨rfl, rfl⟩ := List.cons.inj hall
    exact ⟨_, _, .done _, hstep, hrest⟩

end Evolves

/-! ### A friendly kernel -/

/-- A kernel that grants everything that it is asked for; only polls fail if `pollsFail`. -/
structure Granting where
  pollsFail : Bool
  /-- What every receive gets, as far as there is room. -/
  arriving : List UInt8

instance : Kernel Granting where
  answer k call :=
    (match call with
      | .socket _ => .ok ⟨3⟩
      | .accept _ => .ok (⟨4⟩, some ⟨⟨127, 0, 0, 1⟩, 40000⟩)
      | .localAddress _ => .ok (some ⟨⟨127, 0, 0, 1⟩, 40001⟩)
      | .takeError _ => .ok none
      | .send _ data _ _ => .ok data.length
      | .receive _ capacity =>
        .ok ⟨k.arriving.take capacity, some ⟨⟨127, 0, 0, 1⟩, 40000⟩, List.length_take_le _ _⟩
      | .poll .. =>
        if k.pollsFail then .error .invalidArgument
        else .ok (some ⟨true, true, false, false, false⟩)
      | .close _ | .bind .. | .listen .. | .connect .. | .setOption .. | .setKeepaliveTiming ..
      | .setNonblocking .. => .ok (), k)
  now _ := 0
  realtime _ := some 0
  patience _ := 0
  patience_lt k call h := by
    cases call <;> simp at h
    split at h <;> simp [Errno.invalidArgument, Errno.interrupted] at h

/-- A friendly world, in which nothing has been reported yet. -/
def World.granting (pollsFail : Bool) (arriving : List UInt8) : World Granting :=
  ⟨⟨pollsFail, arriving⟩, []⟩

end ProfiledSocket
