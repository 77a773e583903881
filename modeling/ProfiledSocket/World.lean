/-
Talking to the kernel and reporting about it.

Main definitions:
* `World` — a kernel, and what has been reported so far;
* `Act` — a computation that changes the world;
* `ask` — puts one call to the kernel;
* `askUninterrupted` — repeats a call until no signal interrupts it;
* `note` — reports something.
-/
import ProfiledSocket.Event
import ProfiledSocket.Kernel

namespace ProfiledSocket

/-- A kernel, and what has been reported so far, the latest first. -/
structure World (σ : Type) where
  kernel : σ
  log : List Event

/-- A computation that changes the world. -/
abbrev Act (σ : Type) := StateM (World σ)

namespace Act

variable {σ α β : Type}

/-! ### Running computations -/

@[simp] theorem pure_apply (a : α) (w : World σ) : (pure a : Act σ α) w = (a, w) := rfl

@[simp] theorem bind_apply (x : Act σ α) (f : α → Act σ β) (w : World σ) :
    (x >>= f) w = f (x w).1 (x w).2 := rfl

@[simp] theorem map_apply (f : α → β) (x : Act σ α) (w : World σ) :
    (f <$> x) w = (f (x w).1, (x w).2) := rfl

end Act

/-- Reports something. -/
def note {σ : Type} (level : Level) (message : String) : Act σ Unit := fun w =>
  ((), { w with log := ⟨level, message⟩ :: w.log })

/-- Reports something for those who look for details, if there is anything. -/
def noteDebug {σ : Type} : Option String → Act σ Unit
  | some message => note .debug message
  | none => return ()

variable {σ : Type} [Kernel σ]

/-- Puts one call to the kernel. -/
def ask (call : Call) : Act σ (Reply call) := fun w =>
  ((Kernel.answer w.kernel call).1, { w with kernel := (Kernel.answer w.kernel call).2 })

/-- `ask call`, again and again until the answer is not that a signal interrupted it. -/
def askFrom (call : Call) (w : World σ) : Reply call × World σ :=
  match _h : Kernel.answer w.kernel call with
  | (.ok value, kernel) => (.ok value, { w with kernel })
  | (.error e, kernel) =>
    if _he : e = .interrupted then askFrom call { w with kernel }
    else (.error e, { w with kernel })
termination_by Kernel.patience w.kernel
decreasing_by
  have := Kernel.patience_lt w.kernel call (by rw [_h, _he])
  rwa [_h] at this

/-- Repeats a call until no signal interrupts it. -/
def askUninterrupted (call : Call) : Act σ (Reply call) := askFrom call

/-- The kernel's forward clock. -/
def clock : Act σ Nat := fun w => (Kernel.now w.kernel, w)

end ProfiledSocket
