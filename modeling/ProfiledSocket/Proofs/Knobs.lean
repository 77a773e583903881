/-
What the knobs of the accelerated transport tell about a profile.

A profile sets a list of environment variables, each of them at most once.  They tell the settings
that are meant for the transport and nothing else: two profiles set the same variables exactly if
they agree on these, where the details of something that is switched off do not count.

* `Profile.knobNames`, **`Profile.knobs_nodup`** — no variable is set twice;
* `readCores`, **`readCores_coreList`** — a list of cores can be read back from its text;
* `Profile.ToldBy`, **`Profile.toldBy_knobs`** — what an environment tells about a profile;
* `Profile.SameKnobs`, **`Profile.knobs_exact`** — profiles with the same variables.

Design notes: that the variables determine the settings is proved by looking them up, one by one,
and not by comparing the lists place by place: an optional variable moves all that come after it.
-/
import Mathlib
import ProfiledSocket.Accelerator

namespace ProfiledSocket

/-! ### Looking up variables -/

namespace Environment

variable (env more : Environment) (name : String)

@[simp] theorem get?_nil : get? [] name = none := rfl

@[simp] theorem get?_cons (v : String × String) :
    get? (v :: env) name = if v.1 = name then some v.2 else get? env name := by
  by_cases h : v.1 = name <;> simp [get?, h]

@[simp] theorem get?_append : get? (env ++ more) name = (get? env name).or (get? more name) := by
  simp only [get?, List.find?_append]
  cases env.find? fun v => v.1 == name <;> rfl

@[simp] theorem get?_knobsIf (condition : Bool) (entries : Environment) :
    get? (knobsIf condition entries) name = if condition then get? entries name else none := by
  cases condition <;> rfl

@[simp] theorem get?_ite (condition : Prop) [Decidable condition] :
    get? (if condition then env else more) name =
      if condition then get? env name else get? more name :=
  apply_ite (get? · name) condition env more

@[simp] theorem get?_countKnob (knob : String) (n : UInt32) : get? (countKnob knob n) name =
    if knob = name ∧ 0 < n then some (toString n.toNat) else none := by
  by_cases hname : knob = name <;> by_cases hn : 0 < n <;> simp [countKnob, hname, hn]

end Environment

/-! ### Cores -/

/-- The cores that a text names, which has numerals with commas between them. -/
def readCores (text : String) : Option (List UInt32) :=
  (((text.split ',').toList.map String.Slice.copy).mapM String.toNat?).map (List.map UInt32.ofNat)

/-- A numeral has no comma in it. -/
theorem comma_not_mem_numeral (n : Nat) : ',' ∉ (toString n).toList := by
  intro hmem
  rw [Nat.toString_eq_repr, Nat.repr_eq_ofList_toDigits, String.toList_ofList] at hmem
  exact absurd (Nat.isDigit_of_mem_toDigits (by decide) (by decide) hmem) (by decide)

theorem mapM_toNat?_numerals (cores : List UInt32) :
    (cores.map fun c => toString c.toNat).mapM String.toNat? = some (cores.map UInt32.toNat) := by
  induction cores with
  | nil => rfl
  | cons c cores ih =>
    rw [List.map_cons, List.mapM_cons, ih, Nat.toString_eq_repr, Nat.toNat?_repr]
    rfl

/-- **A list of cores can be read back from its text**, unless it is empty. -/
theorem readCores_coreList {cores : List UInt32} (h : cores ≠ []) :
    readCores (coreList cores) = some cores := by
  have hcomma : ∀ s ∈ cores.map fun c => toString c.toNat, ',' ∉ s.toList := by
    intro s hs
    obtain ⟨c, -, rfl⟩ := List.mem_map.1 hs
    exact comma_not_mem_numeral c.toNat
  have hpieces : ((coreList cores).split ',').toList.map String.Slice.copy =
      cores.map fun c => toString c.toNat := by
    have hsplit := String.toList_split_intercalate hcomma
    rwa [if_neg (by simpa using h)] at hsplit
  rw [readCores, hpieces, mapM_toNat?_numerals, Option.map_some, List.map_map]
  simp [Function.comp_def]

namespace Profile

/-! ### No variable twice -/

/-- All variables that some profile sets, in order. -/
def knobNames : List String :=
  ["VMA_SOCKETXTREME", "VMA_SPEC", "VMA_RX_POLL", "VMA_SELECT_POLL", "VMA_RX_POLL_YIELD",
    "VMA_SELECT_SKIP_OS", "VMA_RING_ALLOCATION_LOGIC_RX", "VMA_RING_ALLOCATION_LOGIC_TX",
    "VMA_THREAD_MODE", "VMA_CQ_KEEP_QP_FULL", "VMA_MEMORY_ALLOCATION_TYPE", "VMA_TX_BUFS",
    "VMA_RX_BUFS", "VMA_THREAD_AFFINITY", "VMA_THREAD_AFFINITY_ID", "VMA_TCP_STREAM_RX_SIZE",
    "VMA_TCP_RX_ZERO_COPY", "VMA_TIMESTAMP"]

/-- The names of variables that are set on a condition are among those that could be set. -/
theorem map_fst_knobsIf_sublist (condition : Bool) {entries : List (String × String)}
    {names : List String} (h : (entries.map Prod.fst).Sublist names) :
    ((knobsIf condition entries).map Prod.fst).Sublist names := by
  cases condition
  · exact List.nil_sublist names
  · exact h

/-- A profile leaves out some of the variables, and sets the others in this order. -/
theorem map_fst_knobs_sublist (p : Profile) : (p.knobs.map Prod.fst).Sublist knobNames := by
  have hone (condition : Bool) (name value : String) :
      ((knobsIf condition [(name, value)]).map Prod.fst).Sublist [name] :=
    map_fst_knobsIf_sublist condition (.refl [name])
  simp only [knobs, List.map_append]
  refine (hone _ _ _).append (.refl _)
    |>.append (?polling : List.Sublist _
      ["VMA_RX_POLL", "VMA_SELECT_POLL", "VMA_RX_POLL_YIELD", "VMA_SELECT_SKIP_OS"])
    |>.append (hone _ _ _)
    |>.append (?threads : List.Sublist _
      ["VMA_RING_ALLOCATION_LOGIC_TX", "VMA_THREAD_MODE", "VMA_CQ_KEEP_QP_FULL"])
    |>.append (hone _ _ _) |>.append (hone _ _ _) |>.append (hone _ _ _)
    |>.append (map_fst_knobsIf_sublist _ (.refl _)) |>.append (.refl _) |>.append (hone _ _ _)
  case polling =>
    refine map_fst_knobsIf_sublist _ ?_
    rw [List.map_append, List.map_append]
    exact ((List.Sublist.refl _).append (hone _ _ _)).append (hone _ _ _)
  case threads =>
    -- the mode of the threads is set in either case, but not at the same place
    split
    · rw [List.map_append]
      exact (List.Sublist.refl _).append (hone _ _ _)
    · decide

/-- **No variable is set twice.** -/
theorem knobs_nodup (p : Profile) : (p.knobs.map Prod.fst).Nodup :=
  p.map_fst_knobs_sublist.nodup (by decide)

/-! ### What the variables tell -/

/-- What an environment tells about a profile: the variables that stand for its settings have the
values that they should. -/
structure ToldBy (p : Profile) (env : Environment) : Prop where
  useSocketxtreme : env.get? "VMA_SOCKETXTREME" = if p.useSocketxtreme then some "1" else none
  optimizeForLatency :
    env.get? "VMA_SPEC" = some (if p.optimizeForLatency then "latency" else "throughput")
  usePolling : env.get? "VMA_RX_POLL" = if p.usePolling then some "1" else none
  disablePollYield : env.get? "VMA_RX_POLL_YIELD" =
    if p.usePolling && p.disablePollYield then some "0" else none
  skipOsSelect : env.get? "VMA_SELECT_SKIP_OS" =
    if p.usePolling && p.skipOsSelect then some "1" else none
  ringCount : env.get? "VMA_RING_ALLOCATION_LOGIC_RX" =
    if 0 < p.ringCount then some (toString p.ringCount.toNat) else none
  keepQpFull : env.get? "VMA_CQ_KEEP_QP_FULL" =
    if p.useSocketxtreme && p.keepQpFull then some "1" else none
  useHugepages : env.get? "VMA_MEMORY_ALLOCATION_TYPE" = if p.useHugepages then some "2" else none
  txBufs : env.get? "VMA_TX_BUFS" = if 0 < p.txBufs then some (toString p.txBufs.toNat) else none
  rxBufs : env.get? "VMA_RX_BUFS" = if 0 < p.rxBufs then some (toString p.rxBufs.toNat) else none
  cpuCores : env.get? "VMA_THREAD_AFFINITY_ID" =
    if p.cpuCores.isEmpty then none else some (coreList p.cpuCores)
  enableTimestamps : env.get? "VMA_TIMESTAMP" = if p.enableTimestamps then some "1" else none

/-- **The variables that a profile sets tell its settings.** -/
theorem toldBy_knobs (p : Profile) : p.ToldBy p.knobs := by
  constructor <;> simp [knobs, ite_and]

/-! ### Profiles with the same variables -/

/-- Two profiles agree on what is meant for the transport. How it polls and what it does with its
queues counts only if it is to poll, and to use them. -/
structure SameKnobs (p q : Profile) : Prop where
  useSocketxtreme : p.useSocketxtreme = q.useSocketxtreme
  optimizeForLatency : p.optimizeForLatency = q.optimizeForLatency
  usePolling : p.usePolling = q.usePolling
  ringCount : p.ringCount = q.ringCount
  useHugepages : p.useHugepages = q.useHugepages
  txBufs : p.txBufs = q.txBufs
  rxBufs : p.rxBufs = q.rxBufs
  enableTimestamps : p.enableTimestamps = q.enableTimestamps
  cpuCores : p.cpuCores = q.cpuCores
  disablePollYield : p.usePolling = true → p.disablePollYield = q.disablePollYield
  skipOsSelect : p.usePolling = true → p.skipOsSelect = q.skipOsSelect
  keepQpFull : p.useSocketxtreme = true → p.keepQpFull = q.keepQpFull

/-- Whether a variable is set tells a flag. -/
theorem eq_of_flag {b c : Bool} {value : String}
    (h : (if b then some value else none) = if c then some value else none) : b = c := by
  cases b <;> cases c <;> simp_all

/-- A number that is zero if its variable is not set is told by it. -/
theorem eq_of_count {n m : UInt32}
    (h : (if 0 < n then some (toString n.toNat) else none) =
      if 0 < m then some (toString m.toNat) else none) : n = m := by
  by_cases hn : 0 < n <;> by_cases hm : 0 < m
  · rw [if_pos hn, if_pos hm] at h
    exact UInt32.toNat_inj.1 (Nat.repr_inj.1 (Option.some.inj h))
  · simp [hn, hm] at h
  · simp [hn, hm] at h
  · rw [UInt32.not_lt, UInt32.le_zero_iff] at hn hm
    rw [hn, hm]

/-- The cores that an environment names are those of the profile that it tells. -/
theorem ToldBy.readCores_eq {p : Profile} {env : Environment} (h : p.ToldBy env) :
    ((env.get? "VMA_THREAD_AFFINITY_ID").bind readCores).getD [] = p.cpuCores := by
  rw [h.cpuCores]
  split
  · rename_i hnone
    exact (List.isEmpty_iff.1 hnone).symm
  · rename_i hsome
    rw [Option.bind_some, readCores_coreList (by simpa using hsome), Option.getD_some]

/-- **An environment tells two profiles only if they agree** on what is meant for the transport. -/
theorem ToldBy.sameKnobs {p q : Profile} {env : Environment} (hp : p.ToldBy env)
    (hq : q.ToldBy env) : p.SameKnobs q := by
  have hsocketxtreme := eq_of_flag (hp.useSocketxtreme.symm.trans hq.useSocketxtreme)
  have hpolling := eq_of_flag (hp.usePolling.symm.trans hq.usePolling)
  constructor
  case optimizeForLatency =>
    have hword := Option.some.inj (hp.optimizeForLatency.symm.trans hq.optimizeForLatency)
    revert hword
    cases p.optimizeForLatency <;> cases q.optimizeForLatency <;> simp
  case disablePollYield =>
    intro h
    have hflags := eq_of_flag (hp.disablePollYield.symm.trans hq.disablePollYield)
    rwa [← hpolling, h, Bool.true_and, Bool.true_and] at hflags
  case skipOsSelect =>
    intro h
    have hflags := eq_of_flag (hp.skipOsSelect.symm.trans hq.skipOsSelect)
    rwa [← hpolling, h, Bool.true_and, Bool.true_and] at hflags
  case keepQpFull =>
    intro h
    have hflags := eq_of_flag (hp.keepQpFull.symm.trans hq.keepQpFull)
    rwa [← hsocketxtreme, h, Bool.true_and, Bool.true_and] at hflags
  case useSocketxtreme => exact hsocketxtreme
  case usePolling => exact hpolling
  case ringCount => exact eq_of_count (hp.ringCount.symm.trans hq.ringCount)
  case useHugepages => exact eq_of_flag (hp.useHugepages.symm.trans hq.useHugepages)
  case txBufs => exact eq_of_count (hp.txBufs.symm.trans hq.txBufs)
  case rxBufs => exact eq_of_count (hp.rxBufs.symm.trans hq.rxBufs)
  case enableTimestamps => exact eq_of_flag (hp.enableTimestamps.symm.trans hq.enableTimestamps)
  case cpuCores => exact hp.readCores_eq.symm.trans hq.readCores_eq

/-- Profiles that agree set the same variables. -/
theorem SameKnobs.knobs_eq {p q : Profile} (h : p.SameKnobs q) : p.knobs = q.knobs := by
  rw [knobs, knobs, ← h.useSocketxtreme, ← h.optimizeForLatency, ← h.usePolling, ← h.ringCount,
    ← h.useHugepages, ← h.txBufs, ← h.rxBufs, ← h.enableTimestamps, ← h.cpuCores]
  -- what is switched off leaves out its details, in which they may differ
  cases hpolling : p.usePolling <;> cases hthreads : p.useSocketxtreme
  · rfl
  · rw [h.keepQpFull hthreads]
    rfl
  · rw [h.disablePollYield hpolling, h.skipOsSelect hpolling]
    rfl
  · rw [h.disablePollYield hpolling, h.skipOsSelect hpolling, h.keepQpFull hthreads]

/-- **The variables tell exactly the settings that are meant for the transport.**  No variable is
set twice, and two profiles set the same variables, in the same order, if and only if they agree on
these settings.  All other settings can be changed and nothing is noticed.  The cores can be read
back from their variable. -/
theorem knobs_exact :
    (∀ p : Profile, (p.knobs.map Prod.fst).Nodup) ∧
    (∀ p q : Profile, p.knobs = q.knobs ↔ p.SameKnobs q) ∧
    (∀ (p : Profile) (nonBlocking tcpNodelay : Bool) (bufferSize : UInt64)
      (tcpKeepalive : Option Keepalive),
      { p with nonBlocking, tcpNodelay, bufferSize, tcpKeepalive }.knobs = p.knobs) ∧
    ∀ p : Profile,
      ((Environment.get? p.knobs "VMA_THREAD_AFFINITY_ID").bind readCores).getD [] =
        p.cpuCores := by
  refine ⟨knobs_nodup, fun p q => ⟨fun h => ?_, SameKnobs.knobs_eq⟩, fun p _ _ _ _ => rfl,
    fun p => p.toldBy_knobs.readCores_eq⟩
  -- the variables are an environment that tells both profiles
  exact p.toldBy_knobs.sameKnobs (h ▸ q.toldBy_knobs)

end Profile

end ProfiledSocket
