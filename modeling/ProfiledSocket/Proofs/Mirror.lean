/-
Computations that ask the kernel for the same.

Two computations mirror each other if they put the same calls to the same kernel, one after the
other, and get results that have to do with each other.  Most computations mirror themselves
whatever has been reported before: no operation reads the reports.  More generally, two computations
go side by side if they are answered alike, be it by different kernels and about different
descriptors.

* `SameAnswer`, `Act.Parallels` — answers that are alike, and computations that go side by side;
* `Act.Mirrors`, `Act.Blind` — two computations with one kernel, and one that mirrors itself;
* **`Act.Parallels.bind`** — one computation after the other;
* `Act.Mirrors.note_left`, `Act.Mirrors.note_right` — one of the two may report more;
* **`waitReady_parallels`** — a wait;
* **`openSocket_blind`**, **`Stream.attempt_blind`** — how descriptors come about and are connected.

Design notes: that the calls are the same is said by the kernel's states: a kernel that keeps a
record is in the same state only if it has had the same talk.  Reports are left out of account,
since two computations that come to the same often report it in different words.
-/
import ProfiledSocket.Datagram
import ProfiledSocket.Proofs.Talk

namespace ProfiledSocket

variable {σ τ α β γ δ : Type}

/-! ### Side by side -/

/-- The same answer from two kernels, which `K` relates then. -/
def SameAnswer (K : σ → τ → Prop) (x : α × σ) (y : α × τ) : Prop := x.1 = y.1 ∧ K x.2 y.2

theorem SameAnswer.exists_eq {K : σ → τ → Prop} {x : α × σ} {y : α × τ} (h : SameAnswer K x y)
    {a : α} {k : σ} (hx : x = (a, k)) : ∃ k', y = (a, k') ∧ K k k' := by
  subst hx
  obtain ⟨ha, hk⟩ := h
  exact ⟨y.2, Prod.ext ha.symm rfl, hk⟩

namespace Act

/-- Begun with kernels that `K` relates, `x` and `y` end with such kernels, and `R` holds of their
results. -/
def Parallels (x : Act σ α) (K : σ → τ → Prop) (y : Act τ β) (R : α → β → Prop) : Prop :=
  ∀ ⦃w : World σ⦄ ⦃w' : World τ⦄, K w.kernel w'.kernel →
    K (x w).2.kernel (y w').2.kernel ∧ R (x w).1 (y w').1

namespace Parallels

variable {K : σ → τ → Prop} {R : α → β → Prop} {S : γ → δ → Prop}

theorem mono {x : Act σ α} {y : Act τ β} (h : x.Parallels K y R) {R' : α → β → Prop}
    (hR : ∀ a b, R a b → R' a b) : x.Parallels K y R' := by
  intro w w' hw
  obtain ⟨hkernel, hresult⟩ := h hw
  exact ⟨hkernel, hR _ _ hresult⟩

theorem pure {a : α} {b : β} (h : R a b) :
    (Pure.pure a : Act σ α).Parallels K (Pure.pure b : Act τ β) R :=
  fun _ _ hw => ⟨hw, h⟩

theorem bind {x : Act σ α} {y : Act τ β} {f : α → Act σ γ} {g : β → Act τ δ}
    (h : x.Parallels K y R) (hfg : ∀ a b, R a b → (f a).Parallels K (g b) S) :
    (x >>= f).Parallels K (y >>= g) S := by
  intro w w' hw
  obtain ⟨hkernel, hresult⟩ := h hw
  exact hfg _ _ hresult hkernel

end Parallels

/-- Begun with the same kernel, `x` and `y` make the same calls, and `R` holds of their results. -/
def Mirrors (x : Act σ α) (y : Act σ β) (R : α → β → Prop) : Prop :=
  ∀ ⦃w w' : World σ⦄, w.kernel = w'.kernel →
    (x w).2.kernel = (y w').2.kernel ∧ R (x w).1 (y w').1

/-- What `x` asks and what comes of it does not depend on the reports. -/
def Blind (x : Act σ α) : Prop := x.Mirrors x Eq

namespace Mirrors

variable {R : α → β → Prop} {S : γ → δ → Prop}

theorem mono {x : Act σ α} {y : Act σ β} (h : x.Mirrors y R) {R' : α → β → Prop}
    (hR : ∀ a b, R a b → R' a b) : x.Mirrors y R' := Parallels.mono h hR

theorem pure {a : α} {b : β} (h : R a b) :
    (Pure.pure a : Act σ α).Mirrors (Pure.pure b : Act σ β) R := Parallels.pure h

theorem bind {x : Act σ α} {y : Act σ β} {f : α → Act σ γ} {g : β → Act σ δ}
    (h : x.Mirrors y R) (hfg : ∀ a b, R a b → (f a).Mirrors (g b) S) :
    (x >>= f).Mirrors (y >>= g) S := Parallels.bind h hfg

theorem note_left {level : Level} {message : String} {f : Unit → Act σ α} {y : Act σ β}
    (h : (f ()).Mirrors y R) : (ProfiledSocket.note level message >>= f).Mirrors y R :=
  fun _ _ hw => h hw

theorem note_right {level : Level} {message : String} {x : Act σ α} {g : Unit → Act σ β}
    (h : x.Mirrors (g ()) R) : x.Mirrors (ProfiledSocket.note level message >>= g) R :=
  fun _ _ hw => h hw

/-- What is known of the result of the second computation anyway. -/
theorem and_right [Kernel σ] {x : Act σ α} {y : Act σ β} (h : x.Mirrors y R) {P : β → Prop}
    (hP : y.Ensures fun _ b => P b) : x.Mirrors y fun a b => R a b ∧ P b := by
  intro w w' hw
  obtain ⟨hkernel, hresult⟩ := h hw
  obtain ⟨_, _, hb⟩ := hP w'
  exact ⟨hkernel, hresult, hb⟩

end Mirrors

namespace Blind

theorem pure (a : α) : (Pure.pure a : Act σ α).Blind := Mirrors.pure rfl

theorem note (level : Level) (message : String) :
    (ProfiledSocket.note level message : Act σ Unit).Blind := fun _ _ hw => ⟨hw, rfl⟩

theorem bind {x : Act σ α} {f : α → Act σ β} (h : x.Blind) (hf : ∀ a, (f a).Blind) :
    (x >>= f).Blind := by
  refine Mirrors.bind h ?_
  rintro a _ rfl
  exact hf a

end Blind

end Act

variable [Kernel σ] [Kernel τ]

/-! ### Waits -/

/-- How a wait goes on after the answer to its first poll. -/
theorem waitFrom_eq {fd : Descriptor} {interest : Interest} {left : Int32} {w : World σ}
    {reply : Reply (.poll fd (some interest) left)} {kernel : σ}
    (h : Kernel.answer w.kernel (.poll fd (some interest) left) = (reply, kernel))
    (millis : Int32) (start : Nat) : waitFrom fd interest millis start left w =
      match reply with
      | .ok (some revents) =>
        (if revents.invalid then .error (.os .badDescriptor) else .ok .ready, { w with kernel })
      | .ok none =>
        (.ok .timedOut, (note .trace ("readiness wait on fd " ++ fd.text ++ " for " ++
          interest.name ++ " timed out after " ++ toString millis.toInt ++ " ms")
          { w with kernel }).2)
      | .error e =>
        if e = .interrupted then
          if 0 < millis then
            if millis.toInt ≤ elapsedMillis start (Kernel.now kernel) then
              (.ok .timedOut, { w with kernel })
            else
              waitFrom fd interest millis start
                (millis - Int32.ofNat (elapsedMillis start (Kernel.now kernel))) { w with kernel }
          else waitFrom fd interest millis start left { w with kernel }
        else (.error (.os e), { w with kernel }) := by
  rw [waitFrom]
  split
  -- every case speaks of an answer of the kernel, which is the one that is given
  all_goals
    rename_i hk
    obtain ⟨rfl, rfl⟩ := Prod.mk.inj (h.symm.trans hk)
  · split <;> rename_i hinvalid <;> simp [hinvalid]
  · rfl
  · simp

section Waits

variable {K : σ → τ → Prop} {fd fd' : Descriptor} {interest : Interest}
  (hnow : ∀ k k', K k k' → Kernel.now k = Kernel.now k')
  (hpoll : ∀ k k' left, K k k' → SameAnswer K (Kernel.answer k (.poll fd (some interest) left))
    (Kernel.answer k' (.poll fd' (some interest) left)))

include hnow hpoll

/-- Waits whose polls are answered alike, at the same times, end alike. -/
theorem waitFrom_parallels (millis : Int32) (start : Nat) (left : Int32) :
    Act.Parallels (waitFrom fd interest millis start left) K
      (waitFrom fd' interest millis start left) Eq := by
  intro w
  -- by induction on the waiting: both waits go on with the same time left
  fun_induction waitFrom fd interest millis start left w with
  | case1 left w revents kernel hk hinvalid =>
    intro w' hw
    obtain ⟨kernel', hk', hK⟩ := (hpoll _ _ left hw).exists_eq hk
    rw [waitFrom_eq hk']
    simpa [hinvalid] using hK
  | case2 left w revents kernel hk hinvalid =>
    intro w' hw
    obtain ⟨kernel', hk', hK⟩ := (hpoll _ _ left hw).exists_eq hk
    rw [waitFrom_eq hk']
    simpa [hinvalid] using hK
  | case3 left w kernel hk =>
    intro w' hw
    obtain ⟨kernel', hk', hK⟩ := (hpoll _ _ left hw).exists_eq hk
    rw [waitFrom_eq hk']
    exact ⟨hK, rfl⟩
  | case4 left w kernel hpos elapsed hle =>
    rename_i hk
    intro w' hw
    obtain ⟨kernel', hk', hK⟩ := (hpoll _ _ left hw).exists_eq hk
    rw [waitFrom_eq hk']
    simpa [hpos, ← hnow _ _ hK, elapsed, hle] using hK
  | case5 left w kernel hpos elapsed hle =>
    rename_i hk ih
    intro w' hw
    obtain ⟨kernel', hk', hK⟩ := (hpoll _ _ left hw).exists_eq hk
    rw [waitFrom_eq hk']
    simpa [hpos, ← hnow _ _ hK, elapsed, hle] using ih hK
  | case6 left w kernel hpos hk ih =>
    intro w' hw
    obtain ⟨kernel', hk', hK⟩ := (hpoll _ _ left hw).exists_eq hk
    rw [waitFrom_eq hk']
    simpa [hpos] using ih hK
  | case7 left w e kernel hk he =>
    intro w' hw
    obtain ⟨kernel', hk', hK⟩ := (hpoll _ _ left hw).exists_eq hk
    rw [waitFrom_eq hk']
    simpa [he] using hK

theorem waitReady_parallels (millis : Int32) :
    (waitReady fd interest millis : Act σ _).Parallels K (waitReady fd' interest millis : Act τ _)
      Eq := by
  have hclock : (clock : Act σ Nat).Parallels K (clock : Act τ Nat) Eq :=
    fun w w' hw => ⟨hw, hnow w.kernel w'.kernel hw⟩
  refine .bind hclock ?_
  rintro start _ rfl
  exact waitFrom_parallels hnow hpoll millis start millis

end Waits

namespace Act.Blind

theorem ask (call : Call) : (ProfiledSocket.ask call : Act σ _).Blind := by
  intro w w' hw
  rw [ProfiledSocket.ask, ProfiledSocket.ask, hw]
  exact ⟨rfl, rfl⟩

theorem waitReady (fd : Descriptor) (interest : Interest) (millis : Int32) :
    (ProfiledSocket.waitReady fd interest millis : Act σ _).Blind := by
  refine waitReady_parallels (fun _ _ => congrArg Kernel.now) ?_ millis
  rintro k _ left rfl
  exact ⟨rfl, rfl⟩

end Act.Blind

open Act

/-! ### Blind computations -/

section OneDescriptor

variable (fd : Descriptor)

theorem localEndpoint_blind : (localEndpoint fd : Act σ _).Blind := by
  refine .bind (.ask _) fun reply => ?_
  cases reply <;> exact .pure _

theorem establish_blind (addr : Endpoint) (timeout : Timeout) :
    (establish fd addr timeout : Act σ _).Blind := by
  refine .bind (.ask _) fun reply => ?_
  cases reply with
  | ok _ => exact .pure _
  | error e =>
    dsimp only
    split
    · refine .bind (.waitReady fd .write _) fun readiness => ?_
      match readiness with
      | .ok .timedOut => exact .pure _
      | .error e => exact .pure _
      | .ok .ready =>
        refine .bind (.ask _) fun pending => ?_
        match pending with
        | .ok none => exact .pure _
        | .ok (some e) => exact .pure _
        | .error e => exact .pure _
    · exact .pure _

theorem enterNonblocking_blind (always : Bool) : (enterNonblocking fd always : Act σ _).Blind := by
  rw [enterNonblocking]
  split
  · exact .pure _
  · refine .bind (.ask _) fun reply => ?_
    cases reply <;> exact .pure _

theorem leaveNonblocking_blind (always : Bool) (outcome : Except SocketError Unit) :
    (leaveNonblocking fd always outcome : Act σ _).Blind := by
  rw [leaveNonblocking]
  split
  · exact .pure _
  · refine .bind (.ask _) fun reply => ?_
    match reply, outcome with
    | .ok (), _ => exact .pure _
    | .error e, .ok () => exact .pure _
    | .error e, .error cause => exact .bind (.note _ _) fun _ => .pure _

/-- A connection attempt asks the same whatever has been reported. -/
theorem Stream.attempt_blind (addr : Endpoint) (timeout : Timeout) (always : Bool) :
    (Stream.attempt fd addr timeout always : Act σ _).Blind := by
  refine .bind (.note _ _) fun _ => .bind (establish_blind fd addr timeout) fun outcome => ?_
  refine .bind (leaveNonblocking_blind fd always outcome) fun left => ?_
  cases left with
  | error e => exact .bind (.note _ _) fun _ => .pure _
  | ok _ => exact .bind (localEndpoint_blind fd) fun own => .bind (.note _ _) fun _ => .pure _

theorem closeDescriptor_blind : (closeDescriptor fd : Act σ Unit).Blind :=
  .bind (.ask _) fun _ => .pure _

theorem Stream.release_blind (held : Option Descriptor) :
    (Stream.release held : Act σ Unit).Blind := by
  cases held with
  | none => exact .pure _
  | some fd => exact .bind (.note _ _) fun _ => closeDescriptor_blind fd

theorem applySettings_blind (settings : List Setting) :
    (applySettings fd settings : Act σ _).Blind := by
  induction settings with
  | nil => exact .pure _
  | cons setting rest ih =>
    refine .bind (.ask (setting.call fd)) fun reply => ?_
    cases reply with
    | ok _ => exact ih
    | error e =>
      dsimp only
      split
      · exact .pure _
      · exact .bind (.note _ _) fun _ => ih

/-- So does the creation of a descriptor. -/
theorem openSocket_blind (transport : Transport) (settings : List Setting) :
    (openSocket transport settings : Act σ _).Blind := by
  refine .bind (.ask _) fun reply => ?_
  cases reply with
  | error e => exact .pure _
  | ok fd =>
    refine .bind (applySettings_blind fd settings) fun outcome => ?_
    cases outcome with
    | error e => exact .bind (closeDescriptor_blind fd) fun _ => .pure _
    | ok _ => exact .bind (.note _ _) fun _ => .pure _

end OneDescriptor

end ProfiledSocket
