/-
Which descriptors are in non-blocking mode.

A descriptor is in blocking mode when it is new, and then in the mode that it was last put into.
A stream whose profile wants the blocking mode leaves it for as long as a connection attempt lasts;
all other sockets get their mode once and keep it.

* `Modes`, `Talk.modes` — the modes of descriptors, and what a talk makes of them;
* `Talk.Prompt` — connections are attempted in non-blocking mode only;
* `Talk.Restored` — putting a descriptor back into blocking mode never fails;
* `Act.Turns` — what a computation makes of the modes, whatever the kernel answers;
* `Stream.InMode` — how far the mode of a stream is what its profile asks for;
* **`openSocket_turns`** — new descriptors get the mode of their settings;
* **`Stream.connectTo_turns`** — a connection attempt gives back the mode that it took;
* **`Stream.perform_turns`** — so does every operation of a stream, and the connections that it
  accepts get the mode of its own profile.

Design notes: a stream that could not be put back into blocking mode is not connected, and it may
stay in non-blocking mode until it is connected or closed.  Hence the mode of a stream is what its
profile asks for if that is the non-blocking mode, if the stream is connected, or if nothing has
ever gone wrong with putting descriptors back.
-/
import Mathlib
import ProfiledSocket.Proofs.Ownership

namespace ProfiledSocket

variable {σ α β : Type} [Kernel σ]

open Act
open Scenario (Handle)

/-! ### Modes -/

/-- Which descriptors are in non-blocking mode. -/
abbrev Modes := Descriptor → Bool

/-- The modes after an exchange.  A new descriptor is in blocking mode, and a change that fails has
no effect. -/
def Exchange.turn (m : Modes) : Exchange → Modes
  | ⟨.socket _, .ok fd⟩ => Function.update m fd false
  | ⟨.accept _, .ok (fd, _)⟩ => Function.update m fd false
  | ⟨.setNonblocking fd on, .ok _⟩ => Function.update m fd on
  | _ => m

/-- A call that changes no mode. -/
def Call.Steady : Call → Prop
  | .socket _ | .accept _ | .setNonblocking .. => False
  | _ => True

/-- A call that neither changes a mode nor connects a descriptor. -/
def Call.Still : Call → Prop
  | .socket _ | .accept _ | .setNonblocking .. | .connect .. => False
  | _ => True

theorem Call.Still.steady {call : Call} (h : call.Still) : call.Steady := by
  cases call <;> trivial

theorem Call.Still.ne_connect {call : Call} (h : call.Still) {fd : Descriptor} {addr : Endpoint} :
    call ≠ .connect fd addr := by
  rintro rfl
  exact h

theorem Call.Ordinary.still {fd : Descriptor} {call : Call} (h : call.Ordinary fd) :
    call.Still := by
  cases call <;> trivial

theorem Exchange.turn_of_steady {e : Exchange} (h : e.call.Steady) (m : Modes) : e.turn m = m := by
  obtain ⟨call, reply⟩ := e
  cases call <;> first | rfl | exact h.elim

/-- The modes may differ at `fd`, but nowhere else. -/
def Modes.Elsewhere (fd : Descriptor) (m m' : Modes) : Prop := ∀ fd' ≠ fd, m' fd' = m fd'

theorem Modes.Elsewhere.refl (fd : Descriptor) (m : Modes) : Modes.Elsewhere fd m m :=
  fun _ _ => rfl

theorem Modes.Elsewhere.trans {fd : Descriptor} {m m' m'' : Modes}
    (h : Modes.Elsewhere fd m m') (h' : Modes.Elsewhere fd m' m'') : Modes.Elsewhere fd m m'' :=
  fun fd' hfd' => (h' fd' hfd').trans (h fd' hfd')

theorem Modes.elsewhere_update (fd : Descriptor) (m : Modes) (on : Bool) :
    Modes.Elsewhere fd m (Function.update m fd on) :=
  fun _ hfd' => Function.update_of_ne hfd' _ _

/-- Whether an exchange fails to put a descriptor back into blocking mode. -/
def Exchange.failsToRestore : Exchange → Bool
  | ⟨.setNonblocking _ false, .error _⟩ => true
  | _ => false

namespace Talk

/-- The modes after a talk. -/
def modes (m : Modes) (talk : Talk) : Modes := talk.foldl Exchange.turn m

theorem modes_append (m : Modes) (talk more : Talk) :
    modes m (talk ++ more) = modes (modes m talk) more := List.foldl_append

/-- Every call that connects a descriptor is made while that is in non-blocking mode. -/
def Prompt : Modes → Talk → Prop
  | _, [] => True
  | m, e :: rest => (∀ fd addr, e.call = .connect fd addr → m fd = true) ∧ Prompt (e.turn m) rest

theorem prompt_append (m : Modes) (talk more : Talk) :
    Prompt m (talk ++ more) ↔ Prompt m talk ∧ Prompt (modes m talk) more := by
  induction talk generalizing m with
  | nil => simp [Prompt, modes]
  | cons e rest ih => simp [Prompt, modes, ih, and_assoc]

/-- No descriptor that was to be put back into blocking mode stayed as it was. -/
def Restored (talk : Talk) : Prop := talk.any Exchange.failsToRestore = false

theorem restored_append {talk more : Talk} :
    Restored (talk ++ more) ↔ Restored talk ∧ Restored more := by
  rw [Restored, List.any_append, Bool.or_eq_false_iff]
  rfl

/-- Calls that change no mode leave all modes as they are. -/
theorem modes_of_steady {talk : Talk} (h : ∀ e ∈ talk, e.call.Steady) (m : Modes) :
    talk.modes m = m := by
  induction talk with
  | nil => rfl
  | cons e rest ih =>
    rw [List.forall_mem_cons] at h
    rw [modes, List.foldl_cons, Exchange.turn_of_steady h.1 m]
    exact ih h.2

/-- Where no mode is changed, it is enough that descriptors are in non-blocking mode at first. -/
theorem prompt_of_steady {talk : Talk} (h : ∀ e ∈ talk, e.call.Steady) {m : Modes}
    (hconnect : ∀ e ∈ talk, ∀ fd addr, e.call = .connect fd addr → m fd = true) :
    talk.Prompt m := by
  induction talk with
  | nil => trivial
  | cons e rest ih =>
    rw [List.forall_mem_cons] at h hconnect
    refine ⟨hconnect.1, ?_⟩
    rw [Exchange.turn_of_steady h.1 m]
    exact ih h.2 hconnect.2

end Talk

/-! ### Turning modes -/

namespace Act

/-- Begun with modes `m`, `x` connects descriptors in non-blocking mode only; `Q` holds of its talk,
the modes afterwards and its result. -/
def Turns (m : Modes) (x : Act σ α) (Q : Talk → Modes → α → Prop) : Prop :=
  x.Ensures fun talk a => talk.Prompt m ∧ Q talk (talk.modes m) a

namespace Turns

variable {m : Modes} {Q R : Talk → Modes → α → Prop}

theorem mono {x : Act σ α} (h : x.Turns m Q) (hQR : ∀ talk m' a, Q talk m' a → R talk m' a) :
    x.Turns m R :=
  Ensures.mono h fun talk a htalk => ⟨htalk.1, hQR talk _ a htalk.2⟩

theorem pure {a : α} (h : Q [] m a) : (Pure.pure a : Act σ α).Turns m Q :=
  Ensures.pure ⟨trivial, h⟩

theorem note {level : Level} {message : String} {Q : Talk → Modes → Unit → Prop}
    (h : Q [] m ()) : (ProfiledSocket.note level message : Act σ Unit).Turns m Q :=
  Ensures.note ⟨trivial, h⟩

theorem ask {call : Call} {Q : Talk → Modes → Reply call → Prop}
    (hcall : ∀ fd addr, call = .connect fd addr → m fd = true)
    (h : ∀ reply, Q [⟨call, reply⟩] (Exchange.turn m ⟨call, reply⟩) reply) :
    (ProfiledSocket.ask call : Act σ _).Turns m Q :=
  Ensures.ask fun reply => ⟨⟨hcall, trivial⟩, h reply⟩

theorem bind {x : Act σ α} {f : α → Act σ β} {Q : Talk → Modes → β → Prop}
    (h : x.Turns m fun talk m' a => (f a).Turns m' fun more m'' b => Q (talk ++ more) m'' b) :
    (x >>= f).Turns m Q := by
  refine Ensures.bind (Ensures.mono h fun talk a htalk => ?_)
  refine Ensures.mono htalk.2 fun more b hmore => ?_
  rw [Talk.prompt_append, Talk.modes_append]
  exact ⟨⟨htalk.1, hmore.1⟩, hmore.2⟩

/-- What makes no call that could change a mode leaves all modes as they are. -/
theorem steady {x : Act σ α} (h : x.Makes fun call =>
    call.Steady ∧ ∀ fd addr, call = .connect fd addr → m fd = true) :
    x.Turns m fun _ m' _ => m' = m := by
  refine Ensures.mono h fun talk _ hcalls => ?_
  have hsteady : ∀ e ∈ talk, e.call.Steady := fun e he => (hcalls e he).1
  exact ⟨Talk.prompt_of_steady hsteady fun e he => (hcalls e he).2,
    Talk.modes_of_steady hsteady m⟩

theorem still {x : Act σ α} (h : x.Makes Call.Still) : x.Turns m fun _ m' _ => m' = m :=
  .steady (h.mono fun _ hstill => ⟨hstill.steady, fun _ _ hconnect =>
    absurd hconnect hstill.ne_connect⟩)

end Turns

end Act

/-! ### The guard around a connection attempt -/

section Guard

variable (fd : Descriptor) (m : Modes)

theorem makeNonblocking_turns : (makeNonblocking fd : Act σ _).Turns m fun _ m' result =>
    result = .ok () ∧ m' = Function.update m fd true ∨ (∃ e, result = .error e) ∧ m' = m := by
  refine .bind (.ask (by simp) fun reply => ?_)
  cases reply with
  | ok _ => exact .pure (.inl ⟨rfl, rfl⟩)
  | error e => exact .pure (.inr ⟨⟨_, rfl⟩, rfl⟩)

theorem enterNonblocking_turns (always : Bool) :
    (enterNonblocking fd always : Act σ _).Turns m fun _ m' result =>
      result = .ok () ∧ m' = (if always then m else Function.update m fd true) ∨
        (∃ e, result = .error e) ∧ m' = m := by
  rw [enterNonblocking]
  cases always with
  | true => exact .pure (.inl ⟨rfl, rfl⟩)
  | false => exact makeNonblocking_turns fd m

/-- The descriptor is back in blocking mode, unless putting it back failed: then there is an error,
too. -/
theorem leaveNonblocking_turns (outcome : Except SocketError Unit) :
    (leaveNonblocking fd false outcome : Act σ _).Turns m fun talk m' result =>
      m' = Function.update m fd false ∨
        m' = m ∧ ¬ talk.Restored ∧ ∃ e, result = .error e := by
  have hfailed (e : Errno) : ¬ Talk.Restored [⟨.setNonblocking fd false, .error e⟩] := by
    rintro ⟨⟩
  rw [leaveNonblocking, if_neg Bool.false_ne_true]
  refine .bind (.ask (by simp) fun reply => ?_)
  cases reply with
  | ok _ => exact .pure (.inl rfl)
  | error e =>
    cases outcome with
    | ok _ => exact .pure (.inr ⟨rfl, hfailed e, _, rfl⟩)
    | error cause => exact .bind (.note (.pure (.inr ⟨rfl, hfailed e, _, rfl⟩)))

/-- The attempt itself is made in non-blocking mode. -/
theorem establish_turns (hfd : m fd = true) (addr : Endpoint) (timeout : Timeout) :
    (establish fd addr timeout : Act σ _).Turns m fun _ m' _ => m' = m := by
  have hcall : ∀ fd' addr', Call.connect fd addr = .connect fd' addr' → m fd' = true := by
    rintro _ _ ⟨⟩
    exact hfd
  exact .steady (establish_makes fd addr timeout ⟨trivial, hcall⟩
    (fun _ => ⟨trivial, by simp⟩) ⟨trivial, by simp⟩)

/-- After a connection attempt the descriptor is in the mode that it is to be in, if the attempt
succeeded or the mode could be restored. -/
theorem Stream.attempt_turns (hfd : m fd = true) (addr : Endpoint) (timeout : Timeout)
    (always : Bool) : (Stream.attempt fd addr timeout always : Act σ _).Turns m
      fun talk m' result => Modes.Elsewhere fd m m' ∧
        (always = true ∨ (∃ own, result = .ok own) ∨ talk.Restored → m' fd = always) := by
  refine .bind (.note (.bind (.mono (establish_turns fd m hfd addr timeout) ?_)))
  rintro talk m outcome rfl
  have hlocal (m : Modes) : (localEndpoint fd : Act σ _).Turns m fun _ m' _ => m' = m :=
    .still ((localEndpoint_makes fd).mono fun _ => Call.Ordinary.still)
  cases always with
  | true =>
    -- the mode was not changed, and need not be changed back
    refine .bind (.pure ?_)
    cases outcome with
    | error e => exact .bind (.note (.pure ⟨.refl fd m, fun _ => hfd⟩))
    | ok _ =>
      refine .bind (.mono (hlocal m) ?_)
      rintro _ _ own rfl
      exact .bind (.note (.pure ⟨.refl fd _, fun _ => hfd⟩))
  | false =>
    refine .bind (.mono (leaveNonblocking_turns fd m outcome) ?_)
    rintro left m' result (rfl | ⟨rfl, hfailed, e, rfl⟩)
    · have hback := Modes.elsewhere_update fd m false
      cases result with
      | error e => exact .bind (.note (.pure ⟨hback, fun _ => Function.update_self ..⟩))
      | ok _ =>
        refine .bind (.mono (hlocal _) ?_)
        rintro _ _ own rfl
        exact .bind (.note (.pure ⟨hback, fun _ => Function.update_self ..⟩))
    · -- nothing is claimed of the mode: it could not be restored, and there is no connection
      refine .bind (.note (.pure ⟨.refl fd _, fun hcases => ?_⟩))
      rcases hcases with htrue | ⟨own, hok⟩ | hrestored
      · cases htrue
      · cases hok
      · simp only [List.nil_append, List.append_nil, Talk.restored_append] at hrestored
        exact absurd hrestored.2 hfailed

end Guard

namespace Stream

variable {s : Stream} {fd : Descriptor} {m : Modes} {restored : Prop}

/-- The mode of the descriptor of a stream is what its profile asks for if that is the non-blocking
mode, if the stream is connected, or if nothing went wrong with restoring modes. -/
def InMode (restored : Prop) (m : Modes) (s : Stream) : Prop :=
  ∀ fd, s.descriptor = some fd →
    s.profile.wantsNonblocking = true ∨ s.state = .connected ∨ restored →
      m fd = s.profile.wantsNonblocking

/-- **A connection attempt gives back the mode that it took**, if it succeeds or if the mode can be
restored. -/
theorem connectTo_turns (hfd : s.descriptor = some fd) (hs : s.InMode restored m)
    (addr : Endpoint) (timeout : Timeout) :
    (s.connectTo fd addr timeout : Act σ _).Turns m fun talk m' out =>
      Modes.Elsewhere fd m m' ∧ out.2.InMode (restored ∧ talk.Restored) m' := by
  refine .bind (.mono (enterNonblocking_turns fd m s.profile.wantsNonblocking) ?_)
  rintro before m' entered (⟨rfl, hentered⟩ | ⟨⟨e, rfl⟩, rfl⟩)
  · have helsewhere : Modes.Elsewhere fd m m' := by
      rw [hentered]
      split
      · exact .refl fd m
      · exact Modes.elsewhere_update fd m true
    -- the descriptor is always in non-blocking mode, or has been put into it just now
    have hnonblocking : m' fd = true := by
      rw [hentered]
      split
      · rename_i hwants
        rw [hs fd hfd (.inl hwants), hwants]
      · exact Function.update_self ..
    refine .bind (.mono (attempt_turns fd m' hnonblocking addr timeout _) ?_)
    rintro talk m'' outcome ⟨helsewhere', hmode⟩
    refine .pure ⟨helsewhere.trans helsewhere', fun fd' hfd' hcases => ?_⟩
    cases outcome with
    | error e =>
      obtain rfl : fd = fd' := Option.some.inj (hfd.symm.trans hfd')
      refine hmode (hcases.imp_right fun h => .inr ?_)
      rcases h with hconnected | hrestored
      · cases hconnected
      · simp only [List.append_nil, Talk.restored_append] at hrestored
        exact hrestored.2.2
    | ok own =>
      obtain rfl : fd = fd' := Option.some.inj (hfd.symm.trans hfd')
      exact hmode (.inr (.inl ⟨own, rfl⟩))
  · refine .pure ⟨.refl fd _, fun fd' hfd' hcases => hs fd' hfd' ?_⟩
    exact hcases.imp_right (.imp_right And.left)

end Stream

/-! ### New descriptors -/

namespace Setting

/-- Whether a setting changes the mode. -/
def isMode : Setting → Bool
  | nonblocking => true
  | _ => false

theorem isMode_of_tried {setting : Setting} {complaint : Errno → String}
    (h : setting.policy = .tried complaint) : setting.isMode = false := by
  cases setting <;> first | rfl | cases h

end Setting

namespace Profile

variable (p : Profile)

theorem any_isMode_bufferSettings : p.bufferSettings.any Setting.isMode = false := by
  rw [bufferSettings]
  split <;> rfl

theorem any_isMode_modeSettings : p.modeSettings.any Setting.isMode = p.wantsNonblocking := by
  rw [modeSettings]
  cases p.wantsNonblocking <;> rfl

theorem any_isMode_streamSettings :
    p.streamSettings.any Setting.isMode = p.wantsNonblocking := by
  rw [streamSettings, List.any_append, List.any_append, List.any_append,
    any_isMode_bufferSettings, any_isMode_modeSettings]
  cases p.tcpKeepalive <;> cases p.tcpNodelay <;> rfl

theorem any_isMode_datagramSettings :
    p.datagramSettings.any Setting.isMode = p.wantsNonblocking := by
  rw [datagramSettings, List.any_append, List.any_append, any_isMode_bufferSettings,
    any_isMode_modeSettings]
  cases p.enableTimestamps <;> rfl

end Profile

/-- A setting that succeeds makes its descriptor non-blocking if that is what it is for. -/
theorem Setting.call_turns (fd : Descriptor) (m : Modes) (setting : Setting) :
    (ask (setting.call fd) : Act σ _).Turns m fun _ m' reply =>
      Modes.Elsewhere fd m m' ∧
        ((∃ value, reply = .ok value) → m' fd = (m fd || setting.isMode)) ∧
        (setting.isMode = false → m' = m) := by
  cases hmode : setting.isMode with
  | false =>
    have hstill : (setting.call fd).Still := by
      cases setting with
      | nonblocking => cases hmode
      | _ => trivial
    refine .mono (.still (.ask hstill)) ?_
    rintro _ _ reply rfl
    exact ⟨.refl fd _, fun _ => (Bool.or_false _).symm, fun _ => rfl⟩
  | true =>
    cases setting with
    | nonblocking =>
      refine .ask (by simp [Setting.call]) fun reply => ?_
      cases reply with
      | error e => exact ⟨.refl fd m, by simp, by simp⟩
      | ok _ =>
        refine ⟨Modes.elsewhere_update fd m true, fun _ => ?_, by simp⟩
        rw [Bool.or_true]
        exact Function.update_self ..
    | _ => cases hmode

/-- Settings change the mode of their descriptor if one of them says so. -/
theorem applySettings_turns (fd : Descriptor) (m : Modes) (settings : List Setting) :
    (applySettings fd settings : Act σ _).Turns m fun _ m' result =>
      Modes.Elsewhere fd m m' ∧
        (result = .ok () → m' fd = (m fd || settings.any Setting.isMode)) := by
  induction settings generalizing m with
  | nil => exact .pure ⟨.refl fd m, fun _ => (Bool.or_false _).symm⟩
  | cons setting rest ih =>
    refine .bind (.mono (setting.call_turns fd m) ?_)
    rintro talk m' reply ⟨helsewhere, hok, hkeep⟩
    rw [List.any_cons, ← Bool.or_assoc]
    cases reply with
    | ok _ =>
      rw [← hok ⟨_, rfl⟩]
      exact .mono (ih m') fun _ _ _ h => ⟨helsewhere.trans h.1, h.2⟩
    | error e =>
      dsimp only
      split
      · exact .pure ⟨helsewhere, nofun⟩
      · rename_i complaint htried
        have hmode := Setting.isMode_of_tried htried
        obtain rfl := hkeep hmode
        rw [hmode, Bool.or_false]
        exact .bind (.note (ih m'))

/-- Whatever descriptors are open before a talk, it leaves their modes as they are, but for that of
`own`. -/
def Talk.Leaves (own : Option Descriptor) (m m' : Modes) (talk : Talk) : Prop :=
  ∀ fds, talk.ledger.Fresh fds → ∀ fd ∈ fds, own ≠ some fd → m' fd = m fd

theorem Talk.Leaves.eq_of_mem {m m' : Modes} {talk : Talk} (h : talk.Leaves none m m')
    {fds : Finset Descriptor} (hfresh : talk.ledger.Fresh fds) {fd : Descriptor} (hfd : fd ∈ fds) :
    m' fd = m fd :=
  h fds hfresh fd hfd (Option.some_ne_none fd).symm

theorem Talk.Leaves.refl (own : Option Descriptor) (m : Modes) (talk : Talk) :
    talk.Leaves own m m := fun _ _ _ _ _ => rfl

theorem closeDescriptor_turns (fd : Descriptor) (m : Modes) :
    (closeDescriptor fd : Act σ Unit).Turns m fun talk m' _ =>
      m' = m ∧ talk.ledger = [.closed fd] :=
  .bind (.ask (by simp) fun _ => .pure ⟨rfl, rfl⟩)

/-- **A new descriptor is in the mode that its settings ask for**, and it is none of those that were
open before. -/
theorem openSocket_turns (transport : Transport) (settings : List Setting) (m : Modes) :
    (openSocket transport settings : Act σ _).Turns m fun talk m' result =>
      talk.Leaves none m m' ∧ ∀ fd, result = .ok fd →
        m' fd = settings.any Setting.isMode ∧ ∀ fds, talk.ledger.Fresh fds → fd ∉ fds := by
  refine .bind (.ask (by simp) fun reply => ?_)
  cases reply with
  | error e => exact .pure ⟨.refl none m _, nofun⟩
  | ok fd =>
    refine .bind (.mono (applySettings_turns fd _ settings) ?_)
    rintro talk m' outcome ⟨helsewhere, hmode⟩
    have hnew (more : Talk) {fds : Finset Descriptor}
        (hfresh : Ledger.Fresh fds (.opened fd :: more.ledger)) : fd ∉ fds := hfresh.1
    -- only the mode of the new descriptor has changed, and that was not open before
    have hleaves (more : Talk) : Talk.Leaves none m m' (⟨.socket transport, .ok fd⟩ :: more) := by
      intro fds hfresh fd' hfd' _
      have hne : fd' ≠ fd := by
        rintro rfl
        exact hnew more hfresh hfd'
      rw [helsewhere fd' hne]
      exact Function.update_of_ne hne ..
    cases outcome with
    | error e =>
      refine .bind (.mono (closeDescriptor_turns fd m') ?_)
      rintro more _ _ ⟨rfl, -⟩
      exact .pure ⟨hleaves _, nofun⟩
    | ok _ =>
      refine .bind (.note (.pure ⟨hleaves _, ?_⟩))
      rintro _ ⟨⟩
      have hblocking : Exchange.turn m ⟨.socket transport, .ok fd⟩ fd = false :=
        Function.update_self ..
      refine ⟨?_, fun fds => hnew _⟩
      rw [hmode rfl, hblocking, Bool.false_or]

/-! ### Sockets -/

/-- A socket is in the mode that `p` asks for; a stream as far as `Stream.InMode` goes. -/
def InMode (restored : Prop) (m : Modes) (p : Profile) : Handle → Prop
  | .stream s => s.profile = p ∧ s.InMode restored m
  | .peer c => ∀ fd, c.descriptor = some fd → m fd = p.wantsNonblocking
  | .datagram d => d.profile = p ∧ ∀ fd, d.descriptor = some fd → m fd = p.wantsNonblocking

/-- A new socket is in the mode of its profile, if its settings ask for that mode. -/
theorem createSocket_turns {S : Type} {sort : S → Handle} {transport : Transport}
    {settings : List Setting} {profile : Profile} {report : String} {make : Descriptor → S}
    (hsettings : settings.any Setting.isMode = profile.wantsNonblocking)
    (hmake : ∀ fd (m : Modes), m fd = profile.wantsNonblocking →
      InMode True m profile (sort (make fd)))
    (m : Modes) : (createSocket transport settings profile report make : Act σ _).Turns m
      fun talk m' result => talk.Leaves none m m' ∧
        ∀ h ∈ created sort result, InMode True m' profile h := by
  rw [createSocket]
  split
  · exact .bind (.note (.pure ⟨.refl none m _, by simp [created]⟩))
  · refine .bind (.mono (openSocket_turns transport settings m) ?_)
    rintro talk m' opened ⟨hleaves, hmode⟩
    cases opened with
    | error e => exact .pure ⟨by rwa [List.append_nil], by simp [created]⟩
    | ok fd =>
      refine .bind (.note (.pure ⟨by simpa using hleaves, fun h hh => ?_⟩))
      rw [Multiset.mem_singleton.1 hh]
      exact hmake fd m' ((hmode fd rfl).1.trans hsettings)

namespace Act.Turns

/-- What uses a descriptor as it is leaves all modes as they are, and opens nothing. -/
theorem ordinary {m : Modes} {fd : Descriptor} {x : Act σ α} (h : x.Makes (Call.Ordinary fd)) :
    x.Turns m fun talk m' _ => m' = m ∧ talk.ledger = [] := by
  refine Ensures.mono h fun talk _ hcalls => ?_
  have hsteady : ∀ e ∈ talk, e.call.Steady := fun e he => (hcalls e he).still.steady
  refine ⟨Talk.prompt_of_steady hsteady fun e he fd addr hconnect => ?_,
    Talk.modes_of_steady hsteady m, Talk.ledger_eq_nil fun e he => ⟨_, (hcalls e he).uses⟩⟩
  exact absurd hconnect (hcalls e he).still.ne_connect

/-- What is known of the result anyway. -/
theorem and_result {m : Modes} {x : Act σ α} {Q : Talk → Modes → α → Prop} (h : x.Turns m Q)
    {R : α → Prop} (hR : ∀ w, R (x w).1) : x.Turns m fun talk m' a => Q talk m' a ∧ R a :=
  Ensures.mono (Ensures.and_result h hR) fun _ _ hall => ⟨hall.1.1, hall.1.2, hall.2⟩

end Act.Turns

namespace Stream

variable {s : Stream} {m : Modes} {restored : Prop}

theorem InMode.mono {restored' : Prop} (h : s.InMode restored m) (himp : restored' → restored) :
    s.InMode restored' m :=
  fun fd hfd hcases => h fd hfd (hcases.imp_right (.imp_right himp))

/-- There is nothing to say of a stream without a descriptor. -/
theorem InMode.of_closed (h : s.descriptor = none) : s.InMode restored m := by
  intro fd hfd
  rw [h] at hfd
  cases hfd

theorem new_turns (profile : Profile) (m : Modes) :
    (Stream.new profile : Act σ _).Turns m fun talk m' result =>
      talk.Leaves none m m' ∧
        ∀ h ∈ created .stream result, ProfiledSocket.InMode True m' profile h := by
  have hmake (fd : Descriptor) (m : Modes) (hm : m fd = profile.wantsNonblocking) :
      ProfiledSocket.InMode True m profile (.stream (ofDescriptor fd profile)) := by
    refine ⟨rfl, ?_⟩
    rintro _ ⟨⟩ _
    exact hm
  exact createSocket_turns profile.any_isMode_streamSettings hmake m

/-- An accepted descriptor gets the mode that the listener has in store for it. -/
theorem adopt_turns {fd : Descriptor} (hfd : m fd = false) (address : Option Endpoint)
    (nonblocking : Bool) : (adopt fd address nonblocking : Act σ _).Turns m fun _ m' result =>
      Modes.Elsewhere fd m m' ∧
        ∀ peer, result = .ok peer → peer.descriptor = some fd ∧ m' fd = nonblocking := by
  have hmode : (if nonblocking then makeNonblocking fd else pure (.ok ()) : Act σ _).Turns m
      fun _ m' result => Modes.Elsewhere fd m m' ∧ (result = .ok () → m' fd = nonblocking) := by
    cases nonblocking with
    | false => exact .pure ⟨.refl fd m, fun _ => hfd⟩
    | true =>
      refine .mono (makeNonblocking_turns fd m) ?_
      rintro _ _ result (⟨rfl, rfl⟩ | ⟨⟨e, rfl⟩, rfl⟩)
      · exact ⟨Modes.elsewhere_update fd m true, fun _ => Function.update_self ..⟩
      · exact ⟨.refl fd _, nofun⟩
  refine .bind (.mono hmode ?_)
  rintro talk m' result ⟨helsewhere, hok⟩
  cases result with
  | error e =>
    refine .bind (.mono (closeDescriptor_turns fd m') ?_)
    rintro _ _ _ ⟨rfl, -⟩
    exact .pure ⟨helsewhere, nofun⟩
  | ok _ =>
    cases address with
    | none =>
      refine .bind (.mono (closeDescriptor_turns fd m') ?_)
      rintro _ _ _ ⟨rfl, -⟩
      exact .pure ⟨helsewhere, nofun⟩
    | some address =>
      refine .bind (.note (.pure ⟨helsewhere, ?_⟩))
      rintro _ ⟨⟩
      exact ⟨rfl, hok rfl⟩

theorem accept_turns (s : Stream) (timeout : Timeout) (m : Modes) :
    (s.accept timeout : Act σ _).Turns m fun talk m' result =>
      talk.Leaves none m m' ∧
        ∀ h ∈ created .peer result, ProfiledSocket.InMode True m' s.profile h := by
  have hnone {e : SocketError} : ∀ h ∈ created Handle.peer (.error e),
      ProfiledSocket.InMode True m s.profile h := by simp [created]
  rw [accept]
  split
  · exact .pure ⟨.refl none m _, hnone⟩
  · rename_i fd _
    refine .bind (.mono (.ordinary (awaitConnection_makes fd timeout)) ?_)
    rintro before m waited ⟨rfl, hbefore⟩
    cases waited with
    | error e => exact .pure ⟨.refl none _ _, hnone⟩
    | ok _ =>
      refine .bind (.ask (by simp) fun reply => ?_)
      rcases reply with e | ⟨accepted, address⟩
      · dsimp only
        split <;> exact .pure ⟨.refl none _ _, hnone⟩
      · refine .mono (adopt_turns (Function.update_self ..) address _) ?_
        rintro talk m' result ⟨helsewhere, hpeer⟩
        refine ⟨fun fds hfresh fd' hfd' _ => ?_, fun h hh => ?_⟩
        · -- the accepted descriptor is none of those that were open
          rw [Talk.ledger_append, hbefore] at hfresh
          have hne : fd' ≠ accepted := by
            rintro rfl
            exact (show fd' ∉ fds ∧ _ from hfresh).1 hfd'
          rw [helsewhere fd' hne]
          exact Function.update_of_ne hne ..
        · cases result with
          | error e => simp [created] at hh
          | ok peer =>
            obtain ⟨hdescriptor, hmode⟩ := hpeer peer rfl
            rw [Multiset.mem_singleton.1 hh]
            intro fd' hfd'
            obtain rfl : accepted = fd' := Option.some.inj (hdescriptor.symm.trans hfd')
            exact hmode

theorem release_turns (held : Option Descriptor) (m : Modes) :
    (release held : Act σ Unit).Turns m fun talk m' _ =>
      m' = m ∧ talk.ledger = (held.map Mark.closed).toList := by
  cases held with
  | none => exact .pure ⟨rfl, rfl⟩
  | some fd => exact .bind (.note (closeDescriptor_turns fd m))

/-- A stream without a descriptor gets a new one in the mode of its profile. -/
theorem connectAnew_turns (hclosed : s.descriptor = none) (addr : Endpoint) (timeout : Timeout)
    (m : Modes) : (s.connectAnew addr timeout : Act σ _).Turns m fun talk m' out =>
      talk.Leaves none m m' ∧ out.2.InMode talk.Restored m' := by
  refine .bind (.mono (openSocket_turns .stream s.profile.streamSettings m) ?_)
  rintro talk m' opened ⟨hleaves, hmode⟩
  cases opened with
  | error e => exact .pure ⟨by rwa [List.append_nil], .of_closed hclosed⟩
  | ok fd =>
    obtain ⟨hmode, hnew⟩ := hmode fd rfl
    have hs : InMode True m' { s with descriptor := some fd } := by
      rintro _ ⟨⟩ _
      rw [hmode, Profile.any_isMode_streamSettings]
    refine .mono (connectTo_turns rfl hs addr timeout) ?_
    rintro more m'' out ⟨helsewhere, hout⟩
    refine ⟨fun fds hfresh fd' hfd' hown => ?_, hout.mono fun h => ⟨trivial, ?_⟩⟩
    · rw [Talk.ledger_append, Ledger.fresh_append] at hfresh
      have hne : fd' ≠ fd := by
        rintro rfl
        exact hnew fds hfresh.1 hfd'
      rw [helsewhere fd' hne, hleaves fds hfresh.1 fd' hfd' hown]
    · exact (Talk.restored_append.1 h).2

theorem reconnect_turns (hs : s.InMode restored m) (timeout : Timeout) :
    (s.reconnect timeout : Act σ _).Turns m fun talk m' out =>
      talk.Leaves s.descriptor m m' ∧ out.2.InMode (restored ∧ talk.Restored) m' := by
  rw [reconnect]
  split
  · exact .pure ⟨.refl _ m _, hs.mono And.left⟩
  · rename_i addr _
    split
    · exact .pure ⟨.refl _ m _, hs.mono And.left⟩
    · refine .bind (.note (.bind (.mono (release_turns s.descriptor m) ?_)))
      rintro before m _ ⟨rfl, hbefore⟩
      refine .bind (.mono (connectAnew_turns rfl addr timeout _) ?_)
      rintro talk m' out ⟨hleaves, hout⟩
      refine .pure ⟨fun fds hfresh fd hfd hown => ?_, hout.mono fun h => ?_⟩
      · rw [List.nil_append, List.append_nil, Talk.ledger_append, Ledger.fresh_append,
          hbefore] at hfresh
        refine hleaves.eq_of_mem hfresh.2 ?_
        -- what is given back is the old descriptor and no other
        cases hold : s.descriptor with
        | none => exact hfd
        | some old => exact Finset.mem_erase.2 ⟨fun heq => hown (by rw [hold, heq]), hfd⟩
      · simp only [List.nil_append, List.append_nil, Talk.restored_append] at h
        exact h.2.2

/-- An ordinary operation connects nothing. -/
theorem connected_of_ordinary {s' : Stream} {op : Operation} {result : op.Result}
    (ht : Transition s op result s') (hop : op.Ordinary) (h : s'.state = .connected) :
    s.state = .connected := by
  cases ht with
  | sent hcase => cases hcase <;> first | exact h | cases h
  | received hcase => cases hcase <;> first | exact h | cases h
  | _ => first | exact h | exact hop.elim | cases h

theorem ordinary_turns {op : Operation} (hop : op.Ordinary) (hs : s.InMode restored m) :
    (s.perform op : Act σ _).Turns m fun _ m' out => m' = m ∧ out.2.InMode restored m := by
  have hstill : (s.perform op : Act σ _).Turns m fun _ m' _ => m' = m :=
    .still (ordinary_makes hop fun _ _ _ hcall => hcall.still)
  refine .mono (hstill.and_result (R := fun out => Transition s op out.1 out.2)
    (perform_transition s op)) ?_
  rintro talk m' out ⟨rfl, ht⟩
  refine ⟨rfl, fun fd hfd hcases => ?_⟩
  rw [(ht.of_ordinary hop).1] at hfd
  rw [ht.profile_eq] at hcases ⊢
  exact hs fd hfd (hcases.imp_right (.imp_left (connected_of_ordinary ht hop)))

/-- **Every operation of a stream gives back the mode that it took**, if it ends with a connection
or if the mode can be restored.  Other descriptors stay as they are, and connections that are
accepted get the mode of the stream. -/
theorem perform_turns (hs : s.InMode restored m) (op : Operation) :
    (s.perform op : Act σ _).Turns m fun talk m' out =>
      talk.Leaves s.descriptor m m' ∧
      (∀ fds, talk.ledger.Fresh fds → (∀ fd, s.descriptor = some fd → fd ∈ fds) →
        out.2.InMode (restored ∧ talk.Restored) m') ∧
      ∀ h ∈ newcomers op out.1, ProfiledSocket.InMode True m' s.profile h := by
  by_cases hop : op.Ordinary
  · refine .mono (ordinary_turns hop hs) ?_
    rintro talk m' out ⟨rfl, hout⟩
    refine ⟨.refl _ _ _, fun _ _ _ => hout.mono And.left, ?_⟩
    cases op <;> first | exact hop.elim | simp [newcomers]
  · cases op with
    | accept timeout =>
      refine .bind (.mono (accept_turns s timeout m) fun talk m' result h => .pure ?_)
      rw [List.append_nil]
      refine ⟨fun fds hfresh fd hfd _ => h.1.eq_of_mem hfresh hfd, ?_, h.2⟩
      -- what the listener holds is open, so that it is not what is accepted
      intro fds hfresh hopen fd hfd hcases
      rw [h.1.eq_of_mem hfresh (hopen fd hfd)]
      exact hs fd hfd (hcases.imp_right (.imp_right And.left))
    | connect ip port timeout =>
      show (s.connect ip port timeout : Act σ _).Turns m _
      rw [connect]
      split
      · exact .pure ⟨.refl _ m _, fun _ _ _ => hs.mono And.left, by simp [newcomers]⟩
      · rename_i fd addr hcheck
        have hfd := (checkConnect_ok hcheck).1
        refine .mono (connectTo_turns hfd hs addr timeout) ?_
        rintro talk m' out ⟨helsewhere, hout⟩
        refine ⟨fun fds _ fd' _ hown => helsewhere fd' ?_, fun _ _ _ => hout, by simp [newcomers]⟩
        rintro rfl
        exact hown hfd
    | reconnect timeout =>
      refine .mono (reconnect_turns hs timeout) ?_
      rintro talk m' out ⟨hleaves, hout⟩
      exact ⟨hleaves, fun _ _ _ => hout, by simp [newcomers]⟩
    | close =>
      show (s.close : Act σ _).Turns m _
      rw [close]
      split
      · exact .pure ⟨.refl _ m _, fun _ _ _ => hs.mono And.left, by simp [newcomers]⟩
      · rename_i fd _
        refine .bind (.mono (release_turns (some fd) m) ?_)
        rintro talk m' _ ⟨rfl, -⟩
        exact .pure ⟨.refl _ _ _, fun _ _ _ => .of_closed rfl, by simp [newcomers]⟩
    | _ => exact absurd trivial hop

end Stream

end ProfiledSocket
