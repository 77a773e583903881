/-
What becomes of the connections behind descriptors.

A call to connect a descriptor starts a handshake, which goes on in the kernel whether or not
anybody waits for it.  When it has completed, the next call to connect the descriptor reports
success, whatever address it was given; so what a call reports depends on what was pending.

* `Link` — how far the kernel has got with the connection of a descriptor;
* `Link.Step`, `Link.Drift` — what calls do to it, and what happens to it in between;
* `Link.Lasting` — what can be said about a link at leisure;
* `Act.Moves` — what a computation makes of a link;
* **`Stream.connectTo_moves`** — if an attempt to connect succeeds, the peer is that of the pending
  handshake if there was one, and else the one that was asked for;
* **`openSocket_moves`** — nothing is pending on a new descriptor.

Design notes: links change while the kernel is not being talked to, so all that is said about them
between two calls must last when they drift.  A link is followed for each descriptor on its own,
and nothing is said of descriptors that were accepted or closed.
-/
import ProfiledSocket.Proofs.Calls

namespace ProfiledSocket

variable {σ α β : Type} [Kernel σ]

/-- A handshake is going on already. -/
def Errno.alreadyRunning : Errno := ⟨114⟩

/-- An attempt to connect that ends like this goes on in the background. -/
def Errno.Unfinished (e : Errno) : Prop :=
  e = .inProgress ∨ e.kind = .wouldBlock ∨ e.kind = .interrupted

theorem Errno.not_unfinished_of_running : ¬ Errno.alreadyRunning.Unfinished := by
  simp [Errno.Unfinished, Errno.alreadyRunning, Errno.inProgress, Errno.kind]

theorem Errno.not_unfinished_of_connected : ¬ Errno.alreadyConnected.Unfinished := by
  simp [Errno.Unfinished, Errno.alreadyConnected, Errno.inProgress, Errno.kind]

/-! ### Links -/

/-- How far the kernel has got with the connection of a descriptor. -/
inductive Link
  | fresh
  | running (addr : Endpoint)
  /-- The handshake has completed; `told` if a call to connect has returned success. -/
  | completed (addr : Endpoint) (told : Bool)
  /-- The handshake has failed, or the connection to `last` has; `told` if a call has returned
  the error. -/
  | failed (last : Option Endpoint) (told : Bool)
deriving DecidableEq

namespace Link

/-- The endpoint of the handshake that the descriptor has completed. -/
def peer? : Link → Option Endpoint
  | completed addr _ => some addr
  | failed last _ => last
  | fresh | running _ => none

/-- The endpoint of a handshake that no call to connect has returned success for yet. -/
def pending? : Link → Option Endpoint
  | running addr | completed addr false => some addr
  | fresh | completed _ true | failed .. => none

/-- The link when a call has returned an error that was waiting. -/
def tell : Link → Link
  | failed last _ => failed last true
  | l => l

@[simp] theorem peer?_tell (l : Link) : l.tell.peer? = l.peer? := by cases l <;> rfl

@[simp] theorem pending?_tell (l : Link) : l.tell.pending? = l.pending? := by cases l <;> rfl

@[simp] theorem tell_eq_fresh {l : Link} : l.tell = .fresh ↔ l = .fresh := by
  cases l <;> simp [tell]

/-- What happens to a link while nobody looks. -/
inductive Drift : Link → Link → Prop
  | completes (addr : Endpoint) : Drift (.running addr) (.completed addr false)
  | fails (addr : Endpoint) : Drift (.running addr) (.failed none false)
  | breaks (addr : Endpoint) (told : Bool) :
      Drift (.completed addr told) (.failed (some addr) false)

/-- Whether an exchange has a rule of its own for the link of `fd`. -/
def Settles (fd : Descriptor) : Exchange → Bool
  | ⟨.socket _, .ok fd'⟩ | ⟨.accept _, .ok (fd', _)⟩ | ⟨.close fd', _⟩ | ⟨.connect fd' _, _⟩
  | ⟨.takeError fd', _⟩ | ⟨.poll fd' (some .write) _, .ok (some _)⟩ => fd' = fd
  | _ => false

/-- What an exchange does to the link of `fd`. -/
inductive Step (fd : Descriptor) : Link → Exchange → Link → Prop
  | opened (l : Link) (transport : Transport) : Step fd l ⟨.socket transport, .ok fd⟩ .fresh
  /-- A descriptor that was accepted, or that is gone, is no concern of ours. -/
  | accepted (l l' : Link) (listener : Descriptor) (address : Option Endpoint) :
      Step fd l ⟨.accept listener, .ok (fd, address)⟩ l'
  | closed (l l' : Link) (reply : Reply (.close fd)) : Step fd l ⟨.close fd, reply⟩ l'
  /-- A fresh descriptor starts a handshake with the address that it is given. -/
  | reached (addr : Endpoint) : Step fd .fresh ⟨.connect fd addr, .ok ()⟩ (.completed addr true)
  | started (addr : Endpoint) {e : Errno} (h : e.Unfinished) :
      Step fd .fresh ⟨.connect fd addr, .error e⟩ (.running addr)
  | refused (addr : Endpoint) {e : Errno} (h : ¬ e.Unfinished) :
      Step fd .fresh ⟨.connect fd addr, .error e⟩ .fresh
  | stillRunning (current addr : Endpoint) :
      Step fd (.running current) ⟨.connect fd addr, .error .alreadyRunning⟩ (.running current)
  /-- The call after a handshake has completed reports that, whatever address it is given. -/
  | noticed (current addr : Endpoint) :
      Step fd (.completed current false) ⟨.connect fd addr, .ok ()⟩ (.completed current true)
  | stillConnected (current addr : Endpoint) :
      Step fd (.completed current true) ⟨.connect fd addr, .error .alreadyConnected⟩
        (.completed current true)
  /-- A failure is reported, and after that the descriptor is as new. -/
  | failureNoticed (last : Option Endpoint) (told : Bool) (addr : Endpoint) {e : Errno}
      (h : ¬ e.Unfinished) : Step fd (.failed last told) ⟨.connect fd addr, .error e⟩ .fresh
  /-- There is an error to be taken if there was a failure that no call has returned. -/
  | errorTaken (l : Link) {reply : Reply (.takeError fd)}
      (h : ∀ last, l = .failed last false → reply ≠ .ok none) :
      Step fd l ⟨.takeError fd, reply⟩ l.tell
  /-- Nothing can be written while a handshake is running. -/
  | writable (l : Link) {millis : Int32} {revents : Revents}
      (h : revents.invalid = false → ∀ addr, l ≠ .running addr) :
      Step fd l ⟨.poll fd (some .write) millis, .ok (some revents)⟩ l
  | sent (l : Link) {data : List UInt8} {destination : Option Endpoint} {quiet : Bool}
      (reply : Reply (.send fd data destination quiet)) :
      Step fd l ⟨.send fd data destination quiet, reply⟩ l.tell
  | received (l : Link) {capacity : Nat} (reply : Reply (.receive fd capacity)) :
      Step fd l ⟨.receive fd capacity, reply⟩ l.tell
  | other (l : Link) {e : Exchange} (h : Settles fd e = false) : Step fd l e l

/-- The link of `fd` in the course of a talk. -/
abbrev Follows (fd : Descriptor) : Link → Talk → Link → Prop := Evolves (Step fd) Drift

section Steps

variable {fd : Descriptor} {l l' : Link}

theorem Step.of_socket {transport : Transport} (h : Step fd l ⟨.socket transport, .ok fd⟩ l') :
    l' = .fresh := by
  cases h with
  | opened l _ => rfl
  | other l hnot => simp [Settles] at hnot

/-- Success is reported for the pending handshake, or for a new one if there is none. -/
theorem Step.of_connect_ok {addr : Endpoint} (h : Step fd l ⟨.connect fd addr, .ok ()⟩ l') :
    (l = .fresh ∧ l'.peer? = some addr) ∨
      ∃ current, l.pending? = some current ∧ l'.peer? = some current := by
  cases h with
  | reached _ => exact .inl ⟨rfl, rfl⟩
  | noticed current _ => exact .inr ⟨current, rfl, rfl⟩
  | other l hnot => simp [Settles] at hnot

/-- Only a fresh descriptor starts a handshake in the background. -/
theorem Step.of_connect_unfinished {addr : Endpoint} {e : Errno}
    (h : Step fd l ⟨.connect fd addr, .error e⟩ l') (he : e.Unfinished) :
    l = .fresh ∧ l' = .running addr := by
  cases h with
  | started _ _ => exact ⟨rfl, rfl⟩
  | refused _ hnot => exact absurd he hnot
  | stillRunning _ _ => exact absurd he Errno.not_unfinished_of_running
  | stillConnected _ _ => exact absurd he Errno.not_unfinished_of_connected
  | failureNoticed _ _ _ hnot => exact absurd he hnot
  | other l hnot => simp [Settles] at hnot

theorem Step.of_takeError (h : Step fd l ⟨.takeError fd, .ok none⟩ l') :
    l' = l.tell ∧ ∀ last, l ≠ .failed last false := by
  cases h with
  | errorTaken l hreply => exact ⟨rfl, fun last hl => hreply last hl rfl⟩
  | other l hnot => simp [Settles] at hnot

/-- A poll for writing that reports something finds no handshake running. -/
theorem Step.of_poll {millis : Int32} {reply : Reply (.poll fd (some .write) millis)}
    (h : Step fd l ⟨.poll fd (some .write) millis, reply⟩ l') :
    l' = l ∧ (Exchange.isReady ⟨.poll fd (some .write) millis, reply⟩ = true →
      ∀ addr, l ≠ .running addr) := by
  cases h with
  | writable l hnot => exact ⟨rfl, fun hready => hnot (by simpa [Exchange.isReady] using hready)⟩
  | other l hnot =>
    refine ⟨rfl, fun hready => ?_⟩
    cases reply with
    | error e => cases hready
    | ok reported =>
      cases reported with
      | none => cases hready
      | some revents => simp [Settles] at hnot

/-- Quiet calls tell of a failure at most. -/
theorem Step.of_quiet {e : Exchange} (h : Step fd l e l') (hcall : e.call.Quiet fd) :
    l' = l ∨ l' = l.tell := by
  cases h with
  | opened _ _ => exact hcall.elim
  | accepted _ _ _ _ => exact hcall.elim
  | closed _ _ _ => exact hcall.elim
  | reached _ => exact hcall.elim
  | started _ _ => exact hcall.elim
  | refused _ _ => exact hcall.elim
  | stillRunning _ _ => exact hcall.elim
  | noticed _ _ => exact hcall.elim
  | stillConnected _ _ => exact hcall.elim
  | failureNoticed _ _ _ _ => exact hcall.elim
  | errorTaken _ _ => exact hcall.elim
  | writable l _ => exact .inl rfl
  | sent l _ => exact .inr rfl
  | received l _ => exact .inr rfl
  | other l _ => exact .inl rfl

end Steps

/-! ### What lasts -/

/-- What is said about a link lasts when the link drifts. -/
def Lasting (P : Link → Prop) : Prop := ∀ l l', Drift l l' → P l → P l'

theorem Lasting.imp {P : Link → Prop} (h : Lasting P) (p : Prop) : Lasting fun l => p → P l :=
  fun l l' hdrift hl hp => h l l' hdrift (hl hp)

theorem lasting_fresh : Lasting fun l => l = .fresh := by
  rintro _ _ (_ | _ | _) h <;> cases h

theorem lasting_peer (addr : Endpoint) : Lasting fun l => l.peer? = some addr := by
  rintro _ _ (_ | _ | _) h
  · cases h
  · cases h
  · exact h

/-- If the next attempt to connect to `addr` succeeds, the peer is `target`. -/
structure Expects (addr target : Endpoint) (l : Link) : Prop where
  of_fresh : l = .fresh → addr = target
  of_pending : ∀ current, l.pending? = some current → current = target

theorem lasting_expects (addr target : Endpoint) : Lasting (Expects addr target) := by
  rintro _ _ (current | _ | _) h
  · exact ⟨by simp, fun _ heq => h.of_pending _ heq⟩
  · exact ⟨by simp, by simp [pending?]⟩
  · exact ⟨by simp, by simp [pending?]⟩

theorem Expects.tell {addr target : Endpoint} {l : Link} (h : Expects addr target l) :
    Expects addr target l.tell :=
  ⟨fun hl => h.of_fresh (tell_eq_fresh.1 hl), fun _ hl => h.of_pending _ (by simpa using hl)⟩

theorem expects_fresh (addr : Endpoint) : Expects addr addr .fresh :=
  ⟨fun _ => rfl, by simp [pending?]⟩

/-- The expected peer is that of the pending handshake if there is one. -/
theorem expects_getD (l : Link) (addr : Endpoint) : Expects addr (l.pending?.getD addr) l := by
  refine ⟨?_, fun current hl => by simp [hl]⟩
  rintro rfl
  rfl

/-- A handshake with `addr` has been started by a call that did not wait for it. -/
def Underway (addr : Endpoint) (l : Link) : Prop :=
  l = .running addr ∨ l = .completed addr false ∨ ∃ last, l = .failed last false

theorem lasting_underway (addr : Endpoint) : Lasting (Underway addr) := by
  rintro _ _ (_ | _ | _) h
  · obtain h | h | ⟨_, h⟩ := h <;> cases h
    exact .inr (.inl rfl)
  · exact .inr (.inr ⟨_, rfl⟩)
  · exact .inr (.inr ⟨_, rfl⟩)

/-- Such a handshake is over. -/
def Over (addr : Endpoint) (l : Link) : Prop :=
  l = .completed addr false ∨ ∃ last, l = .failed last false

theorem lasting_over (addr : Endpoint) : Lasting (Over addr) := by
  rintro _ _ (_ | _ | _) h
  · obtain h | ⟨_, h⟩ := h <;> cases h
  · obtain h | ⟨_, h⟩ := h <;> cases h
  · exact .inr ⟨_, rfl⟩

end Link

open Link

/-! ### Computations -/

namespace Act

/-- Wherever `x` starts, if the link of `fd` is as `P` says, then it is as `Q` says afterwards. -/
def Moves (fd : Descriptor) (P : Link → Prop) (x : Act σ α) (Q : α → Link → Prop) : Prop :=
  x.Ensures fun talk a => ∀ l l', P l → Follows fd l talk l' → Q a l'

namespace Moves

variable {fd : Descriptor} {P P' : Link → Prop} {Q : α → Link → Prop} {x : Act σ α}

theorem mono {R : α → Link → Prop} (h : Moves fd P x Q) (hP : ∀ l, P' l → P l)
    (hQ : ∀ a l, Q a l → R a l) : Moves fd P' x R :=
  Ensures.mono h fun _ _ hQ' l l' hl hf => hQ _ _ (hQ' l l' (hP l hl) hf)

/-- Quiet calls leave alone what lasts, and what does not depend on failures being told. -/
theorem of_quiet (hP : Lasting P) (htell : ∀ l, P l → P l.tell) {R : α → Prop}
    (h : x.Ensures fun talk a => (∀ e ∈ talk, e.call.Quiet fd) ∧ R a) :
    Moves fd P x fun a l => P l ∧ R a := by
  refine Ensures.mono h fun talk a hall l l' hl hf => ⟨hf.preserves hP ?_ hl, hall.2⟩
  intro e he l l' hstep hl
  rcases hstep.of_quiet (hall.1 e he) with rfl | rfl
  · exact hl
  · exact htell _ hl

theorem of_makes (hP : Lasting P) (htell : ∀ l, P l → P l.tell) (h : x.Makes (Call.Quiet fd)) :
    Moves fd P x fun _ => P :=
  (of_quiet (R := fun _ => True) hP htell (Ensures.mono h fun _ _ hall => ⟨hall, trivial⟩)).mono
    (fun _ hl => hl) fun _ _ h => h.1

theorem pure (hP : Lasting P) {a : α} (h : ∀ l, P l → Q a l) :
    Moves fd P (Pure.pure a : Act σ α) Q := by
  refine Ensures.pure fun l l' hl hf => h l' (hf.preserves hP ?_ hl)
  simp

theorem note (hP : Lasting P) (level : Level) (message : String) :
    Moves fd P (ProfiledSocket.note level message : Act σ Unit) fun _ => P := by
  refine Ensures.note fun l l' hl hf => hf.preserves hP ?_ hl
  simp

theorem ask {call : Call} (hP : Lasting P) {Q : Reply call → Link → Prop}
    (hQ : ∀ reply, Lasting (Q reply))
    (h : ∀ reply l l', P l → Step fd l ⟨call, reply⟩ l' → Q reply l') :
    Moves fd P (ProfiledSocket.ask call : Act σ _) Q := by
  refine Ensures.ask fun reply l l' hl hf => ?_
  obtain ⟨before, after, hbefore, hstep, hafter⟩ := hf.single
  have hl' := h reply before after (hbefore.preserves hP (by simp) hl) hstep
  exact hafter.preserves (hQ reply) (by simp) hl'

theorem bind {f : α → Act σ β} {R : β → Link → Prop} (h : Moves fd P x Q)
    (hf : ∀ a, Moves fd (Q a) (f a) R) : Moves fd P (x >>= f) R := by
  refine Ensures.bind (Ensures.mono h fun talk a hQ => ?_)
  refine Ensures.mono (hf a) fun more b hR l l' hl hall => ?_
  obtain ⟨mid, hbefore, hafter⟩ := hall.split
  exact hR mid l' (hQ l mid hl hbefore) hafter

/-- Nothing need be known of the link where nothing is said about it. -/
theorem regardless (h : x.Ensures fun _ a => ∀ l, Q a l) : Moves fd P x Q :=
  Ensures.mono h fun _ _ hQ _ l' _ _ => hQ l'

theorem and_result (h : Moves fd P x Q) {R : α → Prop} (hR : ∀ w, R (x w).1) :
    Moves fd P x fun a l => Q a l ∧ R a :=
  (Ensures.and_result h hR).mono fun _ _ hQR l l' hl hf => ⟨hQR.1 l l' hl hf, hQR.2⟩

end Moves

end Act

open Act

section Connecting

variable {fd : Descriptor} {addr target : Endpoint}

/-- What is known of the link when the kernel has been asked to connect it. -/
structure Asked (fd : Descriptor) (addr target : Endpoint) (reply : Reply (.connect fd addr))
    (l : Link) : Prop where
  of_ok : reply = .ok () → l.peer? = some target
  of_unfinished : ∀ e, reply = .error e → e.Unfinished → Underway target l

theorem lasting_asked (reply : Reply (.connect fd addr)) :
    Lasting (Asked fd addr target reply) := fun l l' hdrift h =>
  ⟨fun hok => lasting_peer _ l l' hdrift (h.of_ok hok),
    fun e he hunfinished => lasting_underway _ l l' hdrift (h.of_unfinished e he hunfinished)⟩

theorem askConnect_moves : Moves fd (Expects addr target)
    (ask (.connect fd addr) : Act σ _) (Asked fd addr target) := by
  refine .ask (lasting_expects _ _) lasting_asked fun reply l l' hl hstep => ⟨?_, ?_⟩
  · rintro rfl
    rcases hstep.of_connect_ok with ⟨hfresh, hpeer⟩ | ⟨current, hpending, hpeer⟩
    · rw [hpeer, hl.of_fresh hfresh]
    · rw [hpeer, hl.of_pending current hpending]
  · rintro e rfl hunfinished
    obtain ⟨hfresh, rfl⟩ := hstep.of_connect_unfinished hunfinished
    exact .inl (by rw [hl.of_fresh hfresh])

/-- Polls leave alone what lasts. -/
theorem Link.Lasting.of_polls {P : Link → Prop} (hP : Lasting P) {l l' : Link} {talk : Talk}
    (hpolls : ∀ e ∈ talk, ∃ left, e.call = .poll fd (some .write) left)
    (hf : Follows fd l talk l') (hl : P l) : P l' := by
  refine hf.preserves hP (fun e he a b hstep ha => ?_) hl
  obtain ⟨call, reply⟩ := e
  obtain ⟨left, rfl⟩ := hpolls _ he
  rwa [hstep.of_poll.1]

/-- A wait that ends well waits until the handshake is over. -/
theorem waitReady_moves (millis : Int32) : Moves fd (Underway target)
    (waitReady fd .write millis : Act σ _) fun result l => result = .ok .ready → Over target l := by
  refine Ensures.waitReady fun talk result hpolled l l' hl hf hresult => ?_
  obtain ⟨e, he, hready⟩ := hpolled.exists_isReady hresult
  have hpolls := hpolled.polls
  obtain ⟨before, after, rfl⟩ := List.append_of_mem he
  simp only [List.forall_mem_append, List.forall_mem_cons] at hpolls
  obtain ⟨hbefore, ⟨left, hcall⟩, hafter⟩ := hpolls
  obtain ⟨mid, hfirst, hrest⟩ := hf.split
  rw [← List.singleton_append] at hrest
  obtain ⟨mid', hevent, hlast⟩ := hrest.split
  obtain ⟨m, m', hm, hstep, hm'⟩ := hevent.single
  -- up to the poll that reports something, the handshake is under way
  have hunderway : Underway target m :=
    hm.preserves (lasting_underway target) (by simp)
      ((lasting_underway target).of_polls hbefore hfirst hl)
  obtain ⟨call, reply⟩ := e
  obtain rfl : call = _ := hcall
  obtain ⟨rfl, hnot⟩ := hstep.of_poll
  have hover : Over target m' := hunderway.resolve_left (hnot hready target)
  exact (lasting_over target).of_polls hafter hlast
    (hm'.preserves (lasting_over target) (by simp) hover)

/-- No error is waiting only if the handshake has completed. -/
theorem askError_moves : Moves fd (Over target) (ask (.takeError fd) : Act σ _)
    fun reply l => reply = .ok none → l.peer? = some target := by
  refine .ask (lasting_over target) (fun reply => (lasting_peer target).imp _) ?_
  rintro reply l l' hl hstep rfl
  obtain ⟨rfl, hnot⟩ := hstep.of_takeError
  rcases hl with rfl | ⟨last, rfl⟩
  · rfl
  · exact absurd rfl (hnot last)

theorem establish_moves (timeout : Timeout) : Moves fd (Expects addr target)
    (establish fd addr timeout : Act σ _)
    fun result l => result = .ok () → l.peer? = some target := by
  refine .bind askConnect_moves fun reply => ?_
  cases reply with
  | ok _ => exact .pure (lasting_asked _) fun l hl _ => hl.of_ok rfl
  | error e =>
    dsimp only
    split
    · rename_i hunfinished
      refine .bind ((waitReady_moves _).mono (fun l hl => hl.of_unfinished e rfl hunfinished)
        fun _ _ h => h) fun readiness => ?_
      match readiness with
      | .ok .timedOut => exact .regardless (.pure (by simp))
      | .error e => exact .regardless (.pure (by simp))
      | .ok .ready =>
        refine .bind (askError_moves.mono (fun l hl => hl rfl) fun _ _ h => h) fun pending => ?_
        match pending with
        | .ok none => exact .pure ((lasting_peer target).imp _) fun l hl _ => hl rfl
        | .ok (some e) => exact .regardless (.pure (by simp))
        | .error e => exact .regardless (.pure (by simp))
    · exact .regardless (.pure (by simp))

theorem Stream.attempt_moves (timeout : Timeout) (always : Bool) : Moves fd (Expects addr target)
    (Stream.attempt fd addr timeout always : Act σ _)
    fun result l => result.isOk → l.peer? = some target := by
  refine .bind (.note (lasting_expects _ _) _ _) fun _ => .bind (establish_moves timeout)
    fun outcome => ?_
  -- the way back to blocking mode ends well only if all went well before
  have hleave : Moves fd (fun l => outcome = .ok () → l.peer? = some target)
      (leaveNonblocking fd always outcome : Act σ _)
      fun left l => left = .ok () → l.peer? = some target := by
    refine .mono (.of_quiet ((lasting_peer target).imp _) (fun l hl => by simpa using hl)
      (R := fun left => left = .ok () → outcome = .ok ()) (Ensures.mono
        (leaveNonblocking_ensures fd always outcome) fun talk left h => ⟨fun e he => ?_, ?_⟩))
      (fun l hl => hl) fun left l h hleft => h.1 (h.2 hleft)
    · rw [h.1 e he]
      rfl
    · rintro rfl
      rcases h.2 with hsame | ⟨hok, -⟩
      · exact hsame.symm
      · exact hok
  refine .bind hleave fun left => ?_
  cases left with
  | error e => exact .regardless (.bind (.note (.pure (by simp [Except.isOk, Except.toBool]))))
  | ok _ =>
    refine .mono ?_ (fun l hl => hl rfl) fun _ _ h => h
    refine .bind (.of_makes (lasting_peer target) (fun l hl => by simpa using hl)
      ((localEndpoint_makes fd).mono fun _ => Call.Ordinary.quiet)) fun own => ?_
    exact .bind (.note (lasting_peer target) _ _) fun _ =>
      .pure (lasting_peer target) fun l hl _ => hl

/-- **The peer of a stream that gets connected** is the one that is expected. -/
theorem Stream.connectTo_moves (s : Stream) (timeout : Timeout) : Moves fd (Expects addr target)
    (s.connectTo fd addr timeout : Act σ _)
    fun out l => out.1 = .ok () → l.peer? = some target := by
  refine .bind (.of_quiet (R := fun _ => True) (lasting_expects _ _) (fun _ hl => hl.tell)
    ((enterNonblocking_ensures fd _).mono fun talk entered h => ⟨fun e he => ?_, trivial⟩))
    fun entered => ?_
  · rw [h.1 e he]
    rfl
  · cases entered with
    | error e => exact .regardless (.pure (by simp))
    | ok _ =>
      refine .bind ((Stream.attempt_moves timeout _).mono (fun l hl => hl.1) fun _ _ h => h)
        fun outcome => ?_
      cases outcome with
      | error e => exact .regardless (.pure (by simp [Stream.afterAttempt]))
      | ok own => exact .pure ((lasting_peer target).imp _) fun l hl _ => hl rfl

end Connecting

/-- A new descriptor is fresh. -/
theorem openSocket_moves (fd : Descriptor) (transport : Transport) (settings : List Setting) :
    Moves fd (fun _ => True) (openSocket transport settings : Act σ _)
      fun result l => result = .ok fd → l = .fresh := by
  have hask : Moves fd (fun _ => True) (ask (.socket transport) : Act σ _)
      fun reply l => reply = .ok fd → l = .fresh := by
    refine .ask (fun _ _ _ h => h) (fun reply => lasting_fresh.imp _) ?_
    rintro reply l l' - hstep rfl
    exact hstep.of_socket
  refine .bind hask fun reply => ?_
  cases reply with
  | error e => exact .regardless (.pure (by simp))
  | ok opened =>
    by_cases hfd : opened = fd
    · subst hfd
      refine .mono (P := fun l => l = .fresh) ?_ (fun l hl => hl rfl) fun _ _ h => h
      refine .bind (.of_makes lasting_fresh (fun l hl => tell_eq_fresh.2 hl)
        (applySettings_makes opened settings)) fun outcome => ?_
      cases outcome with
      | error e =>
        exact .regardless (.bind (.mono (closeDescriptor_makes opened) fun _ _ _ =>
          .pure (by simp)))
      | ok _ => exact .bind (.note lasting_fresh _ _) fun _ => .pure lasting_fresh fun l hl _ => hl
    · -- another descriptor was opened, so that of ours nothing is said
      refine .regardless (.bind (.mono (applySettings_makes opened settings)
        fun talk outcome _ => ?_))
      cases outcome with
      | error e => exact .bind (.mono (closeDescriptor_makes opened) fun _ _ _ => .pure (by simp))
      | ok _ => exact .bind (.note (.pure (by simp [hfd])))

end ProfiledSocket
