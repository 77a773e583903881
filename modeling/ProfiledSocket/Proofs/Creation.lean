/-
How sockets come about.

A new descriptor gets the settings of its profile, one after the other.  Some of them are required:
the first of these that fails ends the matter, and the descriptor is closed again.  The others are
tried, and it makes no difference how that ends.  A profile that is not valid does not get so far.

* `Attempt`, `Tried` — settings that were tried, and the talk in which that happened;
* `Decided` — how far a list of settings got, and what came of it;
* `Reached` — that the turn of a required setting came, and what had succeeded before it;
* `Profile.required` — the settings that a profile requires, and their names;
* `Opened` — how a descriptor is opened for a profile, and what comes of it;
* **`openSocket_opened`** — there are no other ways;
* **`required_settings_decide`** — all that matters are the required settings, and buffers get the
  size that the profile has;
* `Profile.Screened`, **`validation_exact`** — what the profile of a new socket is checked for.

Design notes: a setting takes one call, but which setting a call was made for is not to be seen from
the call, so what was tried is told apart from the talk in which it was.  What is said of the tries
alone is proved by induction on the list of settings, and only the result of that is said of
profiles.
-/
import Mathlib
import ProfiledSocket.Host.Options
import ProfiledSocket.Proofs.Calls
import ProfiledSocket.Proofs.Run
import ProfiledSocket.Proofs.Validity

namespace ProfiledSocket

variable {σ : Type} [Kernel σ]

open Act

/-! ### Trying settings -/

/-- A setting that was tried, and how that ended. -/
abbrev Attempt := Setting × Except Errno Unit

/-- The talk in which settings are tried, one after the other, each by a call of its own. -/
inductive Tried (fd : Descriptor) : List Attempt → Talk → Prop
  | done : Tried fd [] []
  | granted {setting : Setting} {attempts : List Attempt} {talk : Talk}
      (value : (setting.call fd).Value) (hrest : Tried fd attempts talk) :
      Tried fd ((setting, .ok ()) :: attempts) (⟨setting.call fd, .ok value⟩ :: talk)
  | failed {setting : Setting} {attempts : List Attempt} {talk : Talk} (e : Errno)
      (hrest : Tried fd attempts talk) :
      Tried fd ((setting, .error e) :: attempts) (⟨setting.call fd, .error e⟩ :: talk)

/-- The calls are those of the settings that are tried. -/
theorem Tried.calls {fd : Descriptor} {attempts : List Attempt} {talk : Talk}
    (h : Tried fd attempts talk) :
    talk.map Exchange.call = attempts.map fun attempt => attempt.1.call fd := by
  induction h with
  | done => rfl
  | granted _ _ ih => rw [List.map_cons, List.map_cons, ih]
  | failed _ _ ih => rw [List.map_cons, List.map_cons, ih]

/-- Which settings of a list are tried, how that ends, and what comes of it. -/
inductive Decided : List Setting → List Attempt → Except SocketError Unit → Prop
  | done : Decided [] [] (.ok ())
  | granted {setting : Setting} {rest : List Setting} {attempts : List Attempt}
      {result : Except SocketError Unit} (hrest : Decided rest attempts result) :
      Decided (setting :: rest) ((setting, .ok ()) :: attempts) result
  | excused {setting : Setting} {rest : List Setting} {attempts : List Attempt}
      {result : Except SocketError Unit} {complaint : Errno → String} (e : Errno)
      (hpolicy : setting.policy = .tried complaint) (hrest : Decided rest attempts result) :
      Decided (setting :: rest) ((setting, .error e) :: attempts) result
  | refused {setting : Setting} (rest : List Setting) {name : String} (e : Errno)
      (hpolicy : setting.policy = .required name) :
      Decided (setting :: rest) [(setting, .error e)] (.error (.socketOption name (.os e)))

/-- What comes of the settings of a descriptor is decided by what is tried. -/
theorem applySettings_decided (fd : Descriptor) (settings : List Setting) :
    (applySettings fd settings : Act σ _).Ensures fun talk result =>
      ∃ attempts, Tried fd attempts talk ∧ Decided settings attempts result := by
  induction settings with
  | nil => exact .pure ⟨[], .done, .done⟩
  | cons setting rest ih =>
    refine .bind (.ask fun reply => ?_)
    cases reply with
    | ok value =>
      refine ih.mono fun more result ⟨attempts, htried, hdecided⟩ => ?_
      exact ⟨_, .granted value htried, .granted hdecided⟩
    | error e =>
      -- only here it matters what the failure of the setting means
      dsimp only
      split
      · rename_i name hpolicy
        exact .pure ⟨_, .failed e .done, .refused rest e hpolicy⟩
      · rename_i complaint hpolicy
        refine .bind (.note (ih.mono fun more result ⟨attempts, htried, hdecided⟩ => ?_))
        exact ⟨_, .failed e htried, .excused e hpolicy hdecided⟩

/-! ### Required settings -/

/-- A setting with its name, if it is required. -/
def Setting.required? (setting : Setting) : Option (String × Setting) :=
  match setting.policy with
  | .required name => some (name, setting)
  | .tried _ => none

theorem Setting.required?_of_required {setting : Setting} {name : String}
    (h : setting.policy = .required name) : setting.required? = some (name, setting) := by
  rw [required?, h]

theorem Setting.required?_of_tried {setting : Setting} {complaint : Errno → String}
    (h : setting.policy = .tried complaint) : setting.required? = none := by
  rw [required?, h]

/-- A required setting of a list is the first one, or one of the others. -/
theorem Setting.mem_required?_cons {setting : Setting} {rest : List Setting}
    {r : String × Setting} (h : r ∈ (setting :: rest).filterMap required?) :
    r.2 = setting ∨ r ∈ rest.filterMap required? := by
  cases hpolicy : setting.policy with
  | required name =>
    rw [List.filterMap_cons_some (required?_of_required hpolicy), List.mem_cons] at h
    exact h.imp_left (congrArg Prod.snd)
  | tried complaint =>
    rw [List.filterMap_cons_none (required?_of_tried hpolicy)] at h
    exact .inr h

/-- After `earlier` attempts a setting was tried that is required, where those that are required
before it had succeeded. -/
structure Reached (settings : List Setting) (required : List (String × Setting))
    (earlier : List Attempt) (name : String) (setting : Setting) : Prop where
  planned : earlier.map Prod.fst ++ [setting] <+: settings
  granted : ∃ before, before ++ [(name, setting)] <+: required ∧
    ∀ r ∈ before, (r.2, .ok ()) ∈ earlier

namespace Reached

variable {setting last : Setting} {rest : List Setting} {earlier : List Attempt} {name : String}

/-- A required setting is reached at once if it is the first one. -/
theorem first (rest : List Setting) (hpolicy : setting.policy = .required name) :
    Reached (setting :: rest) ((setting :: rest).filterMap Setting.required?) [] name setting where
  planned := (List.prefix_cons_inj setting).2 List.nil_prefix
  granted := by
    rw [List.filterMap_cons_some (Setting.required?_of_required hpolicy)]
    exact ⟨[], (List.prefix_cons_inj _).2 List.nil_prefix, by simp⟩

/-- A setting that is reached is also reached after one that is not required, however that ends. -/
theorem after_tried (h : Reached rest (rest.filterMap Setting.required?) earlier name last)
    {complaint : Errno → String} (hpolicy : setting.policy = .tried complaint)
    (outcome : Except Errno Unit) :
    Reached (setting :: rest) ((setting :: rest).filterMap Setting.required?)
      ((setting, outcome) :: earlier) name last where
  planned := (List.prefix_cons_inj setting).2 h.planned
  granted := by
    obtain ⟨before, hfirst, hbefore⟩ := h.granted
    rw [List.filterMap_cons_none (Setting.required?_of_tried hpolicy)]
    exact ⟨before, hfirst, fun r hr => List.mem_cons_of_mem _ (hbefore r hr)⟩

/-- A setting that is reached is also reached after one that succeeds, be it required or not. -/
theorem after_granted (h : Reached rest (rest.filterMap Setting.required?) earlier name last) :
    Reached (setting :: rest) ((setting :: rest).filterMap Setting.required?)
      ((setting, .ok ()) :: earlier) name last := by
  cases hpolicy : setting.policy with
  | tried complaint => exact h.after_tried hpolicy (.ok ())
  | required first =>
    obtain ⟨before, hfirst, hbefore⟩ := h.granted
    refine ⟨(List.prefix_cons_inj setting).2 h.planned, (first, setting) :: before, ?_, ?_⟩
    · rw [List.filterMap_cons_some (Setting.required?_of_required hpolicy)]
      exact (List.prefix_cons_inj _).2 hfirst
    · rw [List.forall_mem_cons]
      exact ⟨List.mem_cons_self, fun r hr => List.mem_cons_of_mem _ (hbefore r hr)⟩

end Reached

namespace Decided

variable {settings : List Setting} {attempts : List Attempt} {result : Except SocketError Unit}

/-- If all is well in the end, all settings were tried, and the required ones succeeded. -/
theorem of_ok (h : Decided settings attempts result) (hresult : result = .ok ()) :
    attempts.map Prod.fst = settings ∧
      ∀ r ∈ settings.filterMap Setting.required?, (r.2, .ok ()) ∈ attempts := by
  induction h with
  | done => simp
  | granted _ ih =>
    obtain ⟨hall, hrequired⟩ := ih hresult
    refine ⟨by rw [List.map_cons, hall], fun r hr => ?_⟩
    rcases Setting.mem_required?_cons hr with hfirst | hrest
    · rw [hfirst]
      exact List.mem_cons_self
    · exact List.mem_cons_of_mem _ (hrequired r hrest)
  | excused e hpolicy _ ih =>
    obtain ⟨hall, hrequired⟩ := ih hresult
    refine ⟨by rw [List.map_cons, hall], fun r hr => ?_⟩
    rw [List.filterMap_cons_none (Setting.required?_of_tried hpolicy)] at hr
    exact List.mem_cons_of_mem _ (hrequired r hr)
  | refused rest e _ => cases hresult

/-- If there is an error in the end, it is that of a required setting, which was tried last. -/
theorem of_error (h : Decided settings attempts result) {error : SocketError}
    (hresult : result = .error error) :
    ∃ earlier name setting e, attempts = earlier ++ [(setting, .error e)] ∧
      error = .socketOption name (.os e) ∧
      Reached settings (settings.filterMap Setting.required?) earlier name setting := by
  induction h with
  | done => cases hresult
  | granted _ ih =>
    obtain ⟨earlier, name, last, e, rfl, herror, hreached⟩ := ih hresult
    exact ⟨_ :: earlier, name, last, e, rfl, herror, hreached.after_granted⟩
  | excused failure hpolicy _ ih =>
    obtain ⟨earlier, name, last, e, rfl, herror, hreached⟩ := ih hresult
    exact ⟨_ :: earlier, name, last, e, rfl, herror, hreached.after_tried hpolicy (.error failure)⟩
  | refused rest e hpolicy =>
    exact ⟨[], _, _, e, rfl, (Except.error.inj hresult).symm, .first rest hpolicy⟩

end Decided

namespace Profile

/-- The settings of a socket. -/
def settings (p : Profile) : Transport → List Setting
  | .stream => p.streamSettings
  | .datagram => p.datagramSettings

/-- The settings without which there is no socket, in order, each with its name: the sizes of both
buffers if there is a size, keepalive for streams if it is wanted, and the non-blocking mode if
that is wanted. -/
def required (p : Profile) (transport : Transport) : List (String × Setting) :=
  (if 0 < p.bufferSize then
    [("SO_SNDBUF", .sendBuffer p.bufferSize), ("SO_RCVBUF", .receiveBuffer p.bufferSize)]
  else []) ++
  (if transport = .stream ∧ p.tcpKeepalive.isSome then [("SO_KEEPALIVE", .keepalive)] else []) ++
  (if p.wantsNonblocking then [("O_NONBLOCK", .nonblocking)] else [])

variable (p : Profile) (transport : Transport)

theorem filterMap_required? :
    (p.settings transport).filterMap Setting.required? = p.required transport := by
  have hsizes : p.bufferSettings.filterMap Setting.required? = if 0 < p.bufferSize then
      [("SO_SNDBUF", .sendBuffer p.bufferSize), ("SO_RCVBUF", .receiveBuffer p.bufferSize)]
    else [] := by
    rw [bufferSettings]
    split <;> rfl
  have hmode : p.modeSettings.filterMap Setting.required? =
      if p.wantsNonblocking then [("O_NONBLOCK", .nonblocking)] else [] := by
    rw [modeSettings]
    split <;> rfl
  cases transport with
  | stream =>
    rw [settings, streamSettings, List.filterMap_append, List.filterMap_append,
      List.filterMap_append, hsizes, hmode, required]
    cases p.tcpKeepalive <;> cases p.tcpNodelay <;>
      simp [List.filterMap_cons, Setting.required?, Setting.policy]
  | datagram =>
    rw [settings, datagramSettings, List.filterMap_append, List.filterMap_append, hsizes, hmode,
      required]
    cases p.enableTimestamps <;> simp [List.filterMap_cons, Setting.required?, Setting.policy]

theorem nodup_settings : (p.settings transport).Nodup := by
  cases transport with
  | stream =>
    rw [settings, streamSettings, bufferSettings, modeSettings]
    cases p.tcpKeepalive <;> split_ifs <;> simp
  | datagram =>
    rw [settings, datagramSettings, bufferSettings, modeSettings]
    split_ifs <;> simp

end Profile

/-! ### Opening descriptors -/

/-- How a descriptor is opened for a profile: the settings that are tried, the talk, and what comes
of it. -/
inductive Opened (transport : Transport) (p : Profile) :
    List Attempt → Talk → Except SocketError Descriptor → Prop
  | noSocket (e : Errno) :
      Opened transport p [] [⟨.socket transport, .error e⟩] (.error (.socketCreate (.os e)))
  | ready {fd : Descriptor} {attempts : List Attempt} {talk : Talk}
      (htried : Tried fd attempts talk) (hall : attempts.map Prod.fst = p.settings transport)
      (hrequired : ∀ r ∈ p.required transport, (r.2, .ok ()) ∈ attempts) :
      Opened transport p attempts (⟨.socket transport, .ok fd⟩ :: talk) (.ok fd)
  /-- A required setting failed, and nothing is done after that but to close the descriptor. -/
  | givenUp {fd : Descriptor} {earlier : List Attempt} {talk : Talk} {name : String}
      {setting : Setting} (e : Errno) (closed : Reply (.close fd))
      (htried : Tried fd (earlier ++ [(setting, .error e)]) talk)
      (hreached : Reached (p.settings transport) (p.required transport) earlier name setting) :
      Opened transport p (earlier ++ [(setting, .error e)])
        (⟨.socket transport, .ok fd⟩ :: (talk ++ [⟨.close fd, closed⟩]))
        (.error (.socketOption name (.os e)))

/-- **A descriptor is opened in one of these ways.** -/
theorem openSocket_opened (transport : Transport) (p : Profile) :
    (openSocket transport (p.settings transport) : Act σ _).Ensures fun talk result =>
      ∃ attempts, Opened transport p attempts talk result := by
  refine .bind (.ask fun reply => ?_)
  cases reply with
  | error e => exact .pure ⟨[], .noSocket e⟩
  | ok fd =>
    refine .bind ((applySettings_decided fd _).mono fun talk outcome hdecides => ?_)
    obtain ⟨attempts, htried, hdecided⟩ := hdecides
    cases outcome with
    | ok _ =>
      obtain ⟨hall, hrequired⟩ := hdecided.of_ok rfl
      rw [p.filterMap_required?] at hrequired
      refine .bind (.note (.pure ⟨attempts, ?_⟩))
      simpa using .ready htried hall hrequired
    | error e =>
      obtain ⟨earlier, name, setting, errno, rfl, rfl, hreached⟩ := hdecided.of_error rfl
      rw [p.filterMap_required?] at hreached
      refine .bind (.bind (.ask fun closed => .pure (.pure ?_)))
      refine ⟨earlier ++ [(setting, .error errno)], ?_⟩
      simpa using Opened.givenUp errno closed htried hreached

/-- Two lists that end differently, and only there, do not begin the same list. -/
theorem concat_eq_of_prefix {α : Type} {l l' m : List α} {a a' : α} (h : l ++ [a] <+: m)
    (h' : l' ++ [a'] <+: m) (ha : a ∉ l') (ha' : a' ∉ l) : l ++ [a] = l' ++ [a'] := by
  rcases List.prefix_or_prefix_of_prefix h h' with hle | hge
  · refine (List.prefix_concat_iff.1 hle).resolve_right fun hshort => ha ?_
    exact hshort.subset (by simp)
  · refine ((List.prefix_concat_iff.1 hge).resolve_right fun hshort => ha' ?_).symm
    exact hshort.subset (by simp)

namespace Reached

variable {settings : List Setting} {required : List (String × Setting)}
  {earlier earlier' : List Attempt} {name name' : String} {setting setting' : Setting}

theorem mem_required (h : Reached settings required earlier name setting) :
    (name, setting) ∈ required := by
  obtain ⟨-, before, hfirst, -⟩ := h
  exact hfirst.subset (by simp)

/-- No setting is tried twice. -/
theorem not_mem_earlier (h : Reached settings required earlier name setting)
    (hnodup : settings.Nodup) : setting ∉ earlier.map Prod.fst := by
  intro hmem
  have happend := List.nodup_append.1 (h.planned.sublist.nodup hnodup)
  exact happend.2.2 _ hmem _ (List.mem_singleton_self _) rfl

/-- Two required settings are the same if neither succeeded before the other was tried. -/
theorem eq_of_not_mem (h : Reached settings required earlier name setting)
    (h' : Reached settings required earlier' name' setting') (hnew : (setting, .ok ()) ∉ earlier')
    (hnew' : (setting', .ok ()) ∉ earlier) : name = name' ∧ setting = setting' := by
  obtain ⟨-, before, hfirst, hbefore⟩ := h
  obtain ⟨-, before', hfirst', hbefore'⟩ := h'
  have hends := concat_eq_of_prefix hfirst hfirst' (fun hmem => hnew (hbefore' _ hmem))
    fun hmem => hnew' (hbefore _ hmem)
  simpa using (List.append_inj' hends rfl).2

end Reached

/-- In two openings the required settings come out alike, as far as they are tried in both. -/
def AlikeOn (required : List (String × Setting)) (attempts attempts' : List Attempt) : Prop :=
  ∀ r ∈ required, ∀ outcome outcome', (r.2, outcome) ∈ attempts → (r.2, outcome') ∈ attempts' →
    outcome = outcome'

namespace Opened

variable {transport : Transport} {p : Profile} {attempts attempts' : List Attempt}
  {talk talk' : Talk} {result result' : Except SocketError Descriptor}

/-- There is a descriptor in the end exactly if there is a socket and all required settings
succeeded. -/
theorem ok_iff (h : Opened transport p attempts talk result) :
    (∃ fd, result = .ok fd) ↔
      talk.Opens ∧ ∀ r ∈ p.required transport, (r.2, .ok ()) ∈ attempts := by
  cases h with
  | noSocket e => simp [Talk.Opens]
  | ready htried hall hrequired =>
    exact ⟨fun _ => ⟨⟨_, _, List.mem_cons_self⟩, hrequired⟩, fun _ => ⟨_, rfl⟩⟩
  | givenUp e closed htried hreached =>
    refine ⟨nofun, fun ⟨_, hrequired⟩ => ?_⟩
    -- the setting that failed did not succeed at another time
    have hnew := hreached.not_mem_earlier (p.nodup_settings transport)
    rcases List.mem_append.1 (hrequired _ hreached.mem_required) with hmem | hmem
    · exact absurd (List.mem_map_of_mem hmem) hnew
    · simp at hmem

/-- **What is not required makes no difference.**  If the answers to the first call are the same,
and the required settings come out alike, then the results are the same, and the same settings are
tried. -/
theorem same (h : Opened transport p attempts talk result)
    (h' : Opened transport p attempts' talk' result') (hsocket : talk.head? = talk'.head?)
    (halike : AlikeOn (p.required transport) attempts attempts') :
    result = result' ∧ attempts.map Prod.fst = attempts'.map Prod.fst := by
  cases h with
  | noSocket e =>
    cases h' with
    | noSocket e' => simpa using hsocket
    | ready _ _ _ => simp at hsocket
    | givenUp _ _ _ _ => simp at hsocket
  | ready htried hall hrequired =>
    cases h' with
    | noSocket e' => simp at hsocket
    | ready htried' hall' hrequired' => exact ⟨by simpa using hsocket, hall.trans hall'.symm⟩
    | givenUp e' closed' htried' hreached' =>
      have hr := hreached'.mem_required
      cases halike _ hr _ (.error e') (hrequired _ hr) (by simp)
  | @givenUp _ earlier _ name setting e closed htried hreached =>
    have hr := hreached.mem_required
    cases h' with
    | noSocket e' => simp at hsocket
    | ready htried' hall' hrequired' =>
      cases halike _ hr (.error e) _ (by simp) (hrequired' _ hr)
    | @givenUp _ earlier' _ name' setting' e' closed' htried' hreached' =>
      have hr' := hreached'.mem_required
      -- neither of the two failed where the other succeeded
      have hnew : (setting, .ok ()) ∉ earlier' := fun hmem => by
        cases halike _ hr (.error e) (.ok ()) (by simp) (List.mem_append_left _ hmem)
      have hnew' : (setting', .ok ()) ∉ earlier := fun hmem => by
        cases halike _ hr' (.ok ()) (.error e') (List.mem_append_left _ hmem) (by simp)
      obtain ⟨rfl, rfl⟩ := hreached.eq_of_not_mem hreached' hnew hnew'
      obtain rfl : e = e' :=
        Except.error.inj (halike _ hr (.error e) (.error e') (by simp) (by simp))
      have hnodup := p.nodup_settings transport
      have htries := concat_eq_of_prefix hreached.planned hreached'.planned
        (hreached'.not_mem_earlier hnodup) (hreached.not_mem_earlier hnodup)
      exact ⟨rfl, by simpa using htries⟩

end Opened

/-! ### Sizes of buffers -/

/-- The lower bits of a number and the byte after them. -/
theorem mod_or_byte (n k : Nat) :
    n % 2 ^ k ||| (n >>> k % 2 ^ 8) <<< k = n % 2 ^ (k + 8) := by
  refine Nat.eq_of_testBit_eq fun i => ?_
  simp only [Nat.testBit_or, Nat.testBit_mod_two_pow, Nat.testBit_shiftLeft,
    Nat.testBit_shiftRight]
  by_cases hi : i < k
  · simp [hi, show i < k + 8 by omega, show ¬ k ≤ i by omega]
  · have hshift : k + (i - k) = i := by omega
    have hbyte : i - k < 8 ↔ i < k + 8 := by omega
    simp [hi, hshift, hbyte, show k ≤ i by omega]

/-- A word is put together again from its bytes. -/
theorem bytes_or (word : UInt32) :
    word.toUInt8.toUInt32 ||| (word >>> 8).toUInt8.toUInt32 <<< 8 |||
      (word >>> 16).toUInt8.toUInt32 <<< 16 ||| (word >>> 24).toUInt8.toUInt32 <<< 24 = word := by
  -- no byte leaves the word when it is put in its place
  have hfits (n k : Nat) (hk : k ≤ 24) : (n % 2 ^ 8) <<< k % 2 ^ 32 = (n % 2 ^ 8) <<< k := by
    refine Nat.mod_eq_of_lt ?_
    calc (n % 2 ^ 8) <<< k = n % 2 ^ 8 * 2 ^ k := Nat.shiftLeft_eq _ _
      _ < 2 ^ 8 * 2 ^ k := Nat.mul_lt_mul_of_pos_right (Nat.mod_lt _ (by decide)) (by positivity)
      _ ≤ 2 ^ 8 * 2 ^ 24 := by gcongr; decide
      _ = 2 ^ 32 := by norm_num
  have hnat (n : Nat) (hn : n < 2 ^ 32) : n % 2 ^ 8 ||| (n >>> 8 % 2 ^ 8) <<< 8 % 2 ^ 32 |||
      (n >>> 16 % 2 ^ 8) <<< 16 % 2 ^ 32 ||| (n >>> 24 % 2 ^ 8) <<< 24 % 2 ^ 32 = n := by
    rw [hfits _ 8 (by decide), hfits _ 16 (by decide), hfits _ 24 (by decide), mod_or_byte n 8,
      mod_or_byte n 16, mod_or_byte n 24, Nat.mod_eq_of_lt hn]
  refine UInt32.toNat_inj.1 ?_
  simpa using hnat word.toNat word.toNat_lt

/-- A number is read from its bytes as it was written. -/
theorem readInt_intBytes (n : Int32) : Host.readInt (intBytes n) = some n := by
  rw [intBytes, Host.readInt, bytes_or, Int32.toInt32_toUInt32]

/-- If a call sets the size of a buffer, then to `size`. -/
def Call.Sizes (size : UInt64) : Call → Prop
  | .setOption _ option value => option = .sendBuffer ∨ option = .receiveBuffer →
      (Host.readInt value).map Int32.toInt = some (size.toNat : Int)
  | _ => True

theorem Profile.BufferFits.sizes {p : Profile} (h : p.BufferFits) (fd : Descriptor)
    (option : OptionName) :
    (setInt fd option (Int32.ofNat p.bufferSize.toNat)).Sizes p.bufferSize := by
  have hfits : p.bufferSize.toNat ≤ 2147483647 := Int.ofNat_le.1 h
  intro _
  rw [readInt_intBytes, Option.map_some, Int32.toInt_ofNat_of_lt (by omega)]

/-- Only one size is ever asked for. -/
theorem Profile.eq_bufferSize_of_mem {p : Profile} {transport : Transport} {size : UInt64}
    (h : .sendBuffer size ∈ p.settings transport ∨ .receiveBuffer size ∈ p.settings transport) :
    size = p.bufferSize := by
  have hsizes : .sendBuffer size ∈ p.bufferSettings ∨ .receiveBuffer size ∈ p.bufferSettings := by
    cases transport with
    | stream =>
      cases hkeepalive : p.tcpKeepalive <;>
        simpa [settings, streamSettings, modeSettings, hkeepalive] using h
    | datagram => simpa [settings, datagramSettings, modeSettings] using h
  rw [bufferSettings] at hsizes
  split at hsizes
  · simpa using hsizes
  · simp at hsizes

theorem sizes_of_ne {option : OptionName} (hsend : option ≠ .sendBuffer)
    (hreceive : option ≠ .receiveBuffer) (size : UInt64) (fd : Descriptor) (n : Int32) :
    (setInt fd option n).Sizes size :=
  fun hbuffer => absurd hbuffer (not_or_intro hsend hreceive)

/-- No setting of a profile gives a buffer another size. -/
theorem Profile.BufferFits.call_sizes {p : Profile} (h : p.BufferFits) {transport : Transport}
    {setting : Setting} (hmem : setting ∈ p.settings transport) (fd : Descriptor) :
    (setting.call fd).Sizes p.bufferSize := by
  cases setting with
  | sendBuffer size =>
    obtain rfl := Profile.eq_bufferSize_of_mem (.inl hmem)
    exact h.sizes fd _
  | receiveBuffer size =>
    obtain rfl := Profile.eq_bufferSize_of_mem (.inr hmem)
    exact h.sizes fd _
  | keepalive | noDelay | timestamps => exact sizes_of_ne (by decide) (by decide) _ fd _
  | keepaliveTiming timing | nonblocking => trivial

/-- To try settings of a profile gives no buffer another size. -/
theorem Tried.sizes {fd : Descriptor} {attempts : List Attempt} {talk : Talk}
    (htried : Tried fd attempts talk) {transport : Transport} {p : Profile}
    (hplanned : attempts.map Prod.fst <+: p.settings transport) (hfits : p.BufferFits) :
    ∀ e ∈ talk, e.call.Sizes p.bufferSize := by
  intro e he
  have hcall : e.call ∈ attempts.map fun attempt => attempt.1.call fd := by
    rw [← htried.calls]
    exact List.mem_map_of_mem he
  obtain ⟨attempt, hattempt, hcall⟩ := List.mem_map.1 hcall
  rw [← hcall]
  exact hfits.call_sizes (hplanned.subset (List.mem_map_of_mem hattempt)) fd

/-- Nor does anything else that is done to open a descriptor. -/
theorem Opened.sizes {transport : Transport} {p : Profile} {attempts : List Attempt} {talk : Talk}
    {result : Except SocketError Descriptor} (h : Opened transport p attempts talk result)
    (hfits : p.BufferFits) : ∀ e ∈ talk, e.call.Sizes p.bufferSize := by
  cases h with
  | noSocket e => simp [Call.Sizes]
  | ready htried hall _ =>
    rw [List.forall_mem_cons]
    have hplanned : attempts.map Prod.fst <+: p.settings transport := by rw [hall]
    exact ⟨trivial, htried.sizes hplanned hfits⟩
  | @givenUp _ earlier _ _ setting e closed htried hreached =>
    have hplanned : (earlier ++ [(setting, Except.error e)]).map Prod.fst <+:
        p.settings transport := by simpa using hreached.planned
    rw [List.forall_mem_cons, List.forall_mem_append]
    exact ⟨trivial, htried.sizes hplanned hfits, by simp [Call.Sizes]⟩

/-- **The required settings decide.**  A descriptor is opened for a valid profile exactly if there
is a socket and the required settings succeed; else the error is that of the first that failed, and
nothing is tried after it.  Whether other settings succeed changes neither what comes of it nor
what else is tried.  A buffer that is given a size is given that of the profile. -/
theorem required_settings_decide {p : Profile} (hvalid : p.fault? = none) (transport : Transport) :
    (∀ {σ : Type} [Kernel σ], (openSocket transport (p.settings transport) : Act σ _).Ensures
      fun talk result => (∀ e ∈ talk, e.call.Sizes p.bufferSize) ∧
        ∃ attempts, Opened transport p attempts talk result ∧
          ((∃ fd, result = .ok fd) ↔
            talk.Opens ∧ ∀ r ∈ p.required transport, (r.2, .ok ()) ∈ attempts)) ∧
    ∀ {attempts attempts' : List Attempt} {talk talk' : Talk}
      {result result' : Except SocketError Descriptor},
      Opened transport p attempts talk result → Opened transport p attempts' talk' result' →
      talk.head? = talk'.head? → AlikeOn (p.required transport) attempts attempts' →
        result = result' ∧ attempts.map Prod.fst = attempts'.map Prod.fst := by
  have hsound := Profile.fault?_eq_none_iff.1 hvalid
  refine ⟨(openSocket_opened transport p).mono fun talk result ⟨attempts, hopened⟩ => ?_,
    fun h h' hsocket halike => h.same h' hsocket halike⟩
  exact ⟨hopened.sizes hsound.bufferFits, attempts, hopened, hopened.ok_iff⟩

/-- A kernel that refuses some options, and perhaps the times of keepalive, and grants whatever else
a new socket needs. -/
structure Choosy where
  refused : List OptionName
  takesTiming : Bool

instance : Kernel Choosy where
  answer k call :=
    (match call with
      | .socket _ => .ok ⟨3⟩
      | .setOption _ option _ =>
        if option ∈ k.refused then .error .noSuchOption else .ok ()
      | .setKeepaliveTiming .. => if k.takesTiming then .ok () else .error .invalidArgument
      | .close _ | .bind .. | .listen .. | .connect .. | .setNonblocking .. => .ok ()
      | .accept _ | .localAddress _ | .takeError _ | .send .. | .receive .. | .poll .. =>
        .error .invalidArgument, k)
  now _ := 0
  realtime _ := none
  patience _ := 0
  patience_lt k call h := by
    cases call <;> simp [Errno.invalidArgument, Errno.interrupted] at h
    all_goals split at h <;> simp [Errno.noSuchOption] at h

/-- The world of such a kernel. -/
def World.choosy (refused : List OptionName) (takesTiming : Bool) : World (Recorded Choosy) :=
  World.recorded ⟨⟨refused, takesTiming⟩, []⟩

/-- A stream can do without times of keepalive, and without sending at once.  It cannot do without a
receive buffer. -/
theorem required_settings_decide_choosy :
    Profile.standard.fault? = none ∧
    (openSocket .stream (Profile.standard.settings .stream)
      (World.choosy [.noDelay] false)).1 = .ok ⟨3⟩ ∧
    (∃ attempts talk, Opened .stream .standard attempts talk (.ok ⟨3⟩) ∧
      ∀ r ∈ Profile.standard.required .stream, (r.2, .ok ()) ∈ attempts) ∧
    ∃ attempts talk, Opened .stream .standard attempts talk
      (.error (.socketOption "SO_RCVBUF" (.os .noSuchOption))) := by
  have hvalid : Profile.standard.fault? = none := by decide
  have hgranted : (openSocket .stream (Profile.standard.settings .stream)
      (World.choosy [.noDelay] false)).1 = .ok ⟨3⟩ := rfl
  have hrefused : (openSocket .stream (Profile.standard.settings .stream)
      (World.choosy [.receiveBuffer, .keepalive] true)).1 =
        .error (.socketOption "SO_RCVBUF" (.os .noSuchOption)) := rfl
  obtain ⟨hopens, -⟩ := required_settings_decide hvalid .stream
  obtain ⟨talk, -, -, attempts, hready, hiff⟩ :=
    hopens (World.choosy [.noDelay] false)
  obtain ⟨talk', -, -, attempts', hgivenUp, -⟩ :=
    hopens (World.choosy [.receiveBuffer, .keepalive] true)
  rw [hgranted] at hready hiff
  rw [hrefused] at hgivenUp
  exact ⟨hvalid, hgranted, ⟨attempts, talk, hready, (hiff.1 ⟨_, rfl⟩).2⟩,
    attempts', talk', hgivenUp⟩

/-! ### New sockets -/

/-- Creating a socket for a profile ends with an invalid parameter exactly if the profile is not
sound, and the kernel is asked for something exactly if it is. -/
structure Profile.Screened {S : Type} (p : Profile) (talk : Talk)
    (result : Except SocketError S) : Prop where
  refused_iff : (∃ e, result = .error e ∧ e.kind = .invalidParam) ↔ ¬ p.Sound
  silent_iff : talk = [] ↔ ¬ p.Sound

/-- The kernel is asked for a socket in any case, and it is not the caller's fault if that or
anything else fails. -/
theorem Opened.screened {transport : Transport} {p : Profile} {attempts : List Attempt}
    {talk : Talk} {result : Except SocketError Descriptor}
    (h : Opened transport p attempts talk result) :
    talk ≠ [] ∧ ∀ e, result = .error e → e.kind ≠ .invalidParam := by
  cases h with
  | noSocket e => simp [SocketError.kind]
  | ready _ _ _ => simp
  | givenUp e _ _ _ => simp [SocketError.kind]

theorem createSocket_screened {S : Type} (transport : Transport) (p : Profile) (report : String)
    (make : Descriptor → S) :
    (createSocket transport (p.settings transport) p report make : Act σ _).Ensures
      p.Screened := by
  cases hfault : p.fault? with
  | some fault =>
    have hunsound : ¬ p.Sound := fun h => by simp [h.fault?_eq] at hfault
    simp only [createSocket, hfault]
    exact .bind (.note (.pure ⟨⟨fun _ => hunsound, fun _ => ⟨_, rfl, rfl⟩⟩, by simp [hunsound]⟩))
  | none =>
    have hsound := Profile.fault?_eq_none_iff.1 hfault
    simp only [createSocket, hfault]
    refine .bind ((openSocket_opened transport p).mono ?_)
    rintro talk opened ⟨attempts, hopened⟩
    obtain ⟨hasks, hkind⟩ := hopened.screened
    cases opened with
    | error e => exact .pure ⟨by simp [hsound, hkind e rfl], by simp [hsound, hasks]⟩
    | ok fd => exact .bind (.note (.pure ⟨by simp [hsound], by simp [hsound, hasks]⟩))

/-- **Validation is exact.**  Nothing is found wrong with the sound profiles, and with any other
what is wrong with it first.  Sockets of either sort are created for sound profiles only: for any
other the caller is told of an invalid parameter, and the kernel is not asked for anything. -/
theorem validation_exact (p : Profile) :
    (p.fault? = none ↔ p.Sound) ∧ (∀ fault, p.fault? = some fault ↔ p.FirstFault fault) ∧
    ∀ {σ : Type} [Kernel σ] (w : World σ) (clock : Clock),
      p.Screened (Stream.new p w.recorded).2.kernel.talk (Stream.new p w.recorded).1 ∧
      p.Screened (Datagram.new p clock w.recorded).2.kernel.talk
        (Datagram.new p clock w.recorded).1 := by
  refine ⟨Profile.fault?_eq_none_iff, fun fault => Profile.fault?_eq_some_iff,
    fun w clock => ⟨?_, ?_⟩⟩
  · rw [Stream.new_eq]
    exact Ensures.recorded (createSocket_screened .stream p _ _) w
  · rw [Datagram.new_eq]
    exact Ensures.recorded (createSocket_screened .datagram p _ _) w

end ProfiledSocket
