/-
Which profiles are valid.

A profile is checked before there is a socket.  Its buffers have to fit into a socket option, there
may be only so many rings, probes of idle connections have to come at intervals and more than none
at all, and no core may be named twice.  What is reported of a profile is the first thing wrong with
it, in this order; and a profile with which something is wrong never gets as far as the kernel.

* `Profile.Sound` — what a valid profile is;
* `Profile.FirstFault` — what is wrong with a profile, and is the first thing wrong with it;
* `Profile.length_distinct_eq_iff` — a core that is named twice is missing in the set of cores;
* **`Profile.fault?_eq_none_iff`**, **`Profile.fault?_eq_some_iff`** — the checks find just that.

Design notes: the conditions speak of numbers and not of machine words, so that no comparison of
words stands on both sides.  Each fault carries the conditions that were met before it was found.
-/
import Mathlib
import ProfiledSocket.Profile
import ProfiledSocket.Proofs.Duration

namespace ProfiledSocket

namespace Profile

/-! ### Conditions -/

section Conditions

variable (p : Profile)

/-- The size of a buffer is a number that a socket option can hold. -/
def BufferFits : Prop := (p.bufferSize.toNat : Int) ≤ Int32.maxValue.toInt

/-- There are at most 64 rings. -/
def FewRings : Prop := p.ringCount.toNat ≤ 64

/-- Some time passes between two probes, be it a nanosecond. -/
def ProbesSpaced : Prop := ∀ timing, p.tcpKeepalive = some timing → 0 < timing.interval.totalNanos

/-- A connection is not given up before there was a probe. -/
def ProbesCount : Prop := ∀ timing, p.tcpKeepalive = some timing → 0 < timing.retries.toNat

/-- There are different cores at different places. -/
def CoresDiffer : Prop :=
  ∀ i j : Fin p.cpuCores.length, i ≠ j → p.cpuCores[i] ≠ p.cpuCores[j]

/-- A valid profile. -/
structure Sound : Prop where
  bufferFits : p.BufferFits
  fewRings : p.FewRings
  probesSpaced : p.ProbesSpaced
  probesCount : p.ProbesCount
  coresDiffer : p.CoresDiffer

/-- What is wrong with a profile while nothing is wrong that comes before it. -/
inductive FirstFault : Fault → Prop
  | bufferTooLarge (h : ¬ p.BufferFits) : FirstFault (.bufferTooLarge p.bufferSize)
  | tooManyRings (hbuffer : p.BufferFits) (h : ¬ p.FewRings) :
      FirstFault (.tooManyRings p.ringCount)
  | noKeepaliveInterval (hbuffer : p.BufferFits) (hrings : p.FewRings) (h : ¬ p.ProbesSpaced) :
      FirstFault .noKeepaliveInterval
  | noKeepaliveRetries (hbuffer : p.BufferFits) (hrings : p.FewRings) (hspaced : p.ProbesSpaced)
      (h : ¬ p.ProbesCount) : FirstFault .noKeepaliveRetries
  | repeatedCores (hbuffer : p.BufferFits) (hrings : p.FewRings) (hspaced : p.ProbesSpaced)
      (hcount : p.ProbesCount) (h : ¬ p.CoresDiffer) : FirstFault (.repeatedCores p.cpuCores)

/-- With every profile there is something wrong first, unless it is sound. -/
theorem sound_or_firstFault : p.Sound ∨ ∃ fault, p.FirstFault fault := by
  by_cases hbuffer : p.BufferFits
  · by_cases hrings : p.FewRings
    · by_cases hspaced : p.ProbesSpaced
      · by_cases hcount : p.ProbesCount
        · by_cases hcores : p.CoresDiffer
          · exact .inl ⟨hbuffer, hrings, hspaced, hcount, hcores⟩
          · exact .inr ⟨_, .repeatedCores hbuffer hrings hspaced hcount hcores⟩
        · exact .inr ⟨_, .noKeepaliveRetries hbuffer hrings hspaced hcount⟩
      · exact .inr ⟨_, .noKeepaliveInterval hbuffer hrings hspaced⟩
    · exact .inr ⟨_, .tooManyRings hbuffer hrings⟩
  · exact .inr ⟨_, .bufferTooLarge hbuffer⟩

end Conditions

/-! ### What the single checks find -/

section Checks

variable {p : Profile}

theorem bufferFits_iff : p.BufferFits ↔ ¬ p.bufferSize > 2147483647 := by
  have hmax : Int32.maxValue.toInt = 2147483647 := rfl
  have hword : p.bufferSize > 2147483647 ↔ 2147483647 < p.bufferSize.toNat :=
    UInt64.lt_iff_toNat_lt
  rw [BufferFits, hmax, hword]
  omega

theorem fewRings_iff : p.FewRings ↔ ¬ p.ringCount > 64 := by
  have hword : p.ringCount > 64 ↔ 64 < p.ringCount.toNat := UInt32.lt_iff_toNat_lt
  rw [FewRings, hword, Nat.not_lt]

/-- What is found of the keepalive of a profile; the interval is looked at first. -/
theorem keepaliveFault?_cases (p : Profile) :
    (p.tcpKeepalive.bind keepaliveFault? = none ↔ p.ProbesSpaced ∧ p.ProbesCount) ∧
    (¬ p.ProbesSpaced → p.tcpKeepalive.bind keepaliveFault? = some .noKeepaliveInterval) ∧
    (p.ProbesSpaced → ¬ p.ProbesCount →
      p.tcpKeepalive.bind keepaliveFault? = some .noKeepaliveRetries) := by
  cases hkeepalive : p.tcpKeepalive with
  | none => simp [ProbesSpaced, ProbesCount, hkeepalive]
  | some timing =>
    have hspaced : p.ProbesSpaced ↔ ¬ timing.interval.isZero = true := by
      rw [Duration.isZero_iff, ProbesSpaced, hkeepalive]
      simp [Nat.pos_iff_ne_zero]
    have hcount : p.ProbesCount ↔ ¬ timing.retries = 0 := by
      rw [← UInt32.toNat_inj, ProbesCount, hkeepalive]
      simp [Nat.pos_iff_ne_zero]
    rw [Option.bind_some, keepaliveFault?, hspaced, hcount]
    split
    · simp_all
    · split <;> simp_all

theorem mem_distinct (cores : List UInt32) (c : UInt32) : c ∈ distinct cores ↔ c ∈ cores := by
  induction cores with
  | nil => rfl
  | cons first rest ih =>
    show c ∈ (distinct rest).insert first ↔ _
    rw [List.mem_insert_iff, ih, List.mem_cons]

theorem nodup_distinct (cores : List UInt32) : (distinct cores).Nodup := by
  induction cores with
  | nil => exact List.nodup_nil
  | cons first rest ih => exact ih.insert

/-- The set of the numbers in a list is as large as the list is long exactly if no number stands
there twice. -/
theorem length_distinct_eq_iff (cores : List UInt32) :
    (distinct cores).length = cores.length ↔ cores.Nodup := by
  have hset : (distinct cores).toFinset = cores.toFinset := by
    ext c
    rw [List.mem_toFinset, List.mem_toFinset, mem_distinct]
  rw [← List.toFinset_card_of_nodup (nodup_distinct cores), hset]
  exact Multiset.toFinset_card_eq_card_iff_nodup

theorem coresDiffer_iff : p.CoresDiffer ↔ (distinct p.cpuCores).length = p.cpuCores.length := by
  rw [length_distinct_eq_iff, List.nodup_iff_injective_get]
  exact ⟨fun h i j hij => not_imp_not.1 (h i j) hij, fun h i j hne heq => hne (h heq)⟩

/-! ### What all checks find -/

/-- Once the sizes are in order, the keepalive is looked at, and the cores after that. -/
theorem fault?_of_sizes (hbuffer : p.BufferFits) (hrings : p.FewRings) :
    p.fault? = (p.tcpKeepalive.bind keepaliveFault?).or
      (if (distinct p.cpuCores).length ≠ p.cpuCores.length then
        some (.repeatedCores p.cpuCores)
      else none) := by
  rw [fault?, if_neg (bufferFits_iff.1 hbuffer), if_neg (fewRings_iff.1 hrings)]
  cases p.tcpKeepalive.bind keepaliveFault? <;> rfl

theorem FirstFault.fault?_eq {fault : Fault} (h : p.FirstFault fault) : p.fault? = some fault := by
  obtain ⟨hnone, hinterval, hretries⟩ := p.keepaliveFault?_cases
  cases h with
  | bufferTooLarge h => rw [fault?, if_pos (not_not.1 (mt bufferFits_iff.2 h))]
  | tooManyRings hbuffer h =>
    rw [fault?, if_neg (bufferFits_iff.1 hbuffer), if_pos (not_not.1 (mt fewRings_iff.2 h))]
  | noKeepaliveInterval hbuffer hrings h =>
    rw [fault?_of_sizes hbuffer hrings, hinterval h, Option.some_or]
  | noKeepaliveRetries hbuffer hrings hspaced h =>
    rw [fault?_of_sizes hbuffer hrings, hretries hspaced h, Option.some_or]
  | repeatedCores hbuffer hrings hspaced hcount h =>
    rw [fault?_of_sizes hbuffer hrings, hnone.2 ⟨hspaced, hcount⟩, Option.none_or,
      if_pos (mt coresDiffer_iff.2 h)]

theorem Sound.fault?_eq (h : p.Sound) : p.fault? = none := by
  rw [fault?_of_sizes h.bufferFits h.fewRings,
    p.keepaliveFault?_cases.1.2 ⟨h.probesSpaced, h.probesCount⟩, Option.none_or,
    if_neg (not_not.2 (coresDiffer_iff.1 h.coresDiffer))]

/-- **Nothing is found wrong with a profile exactly if it is sound.** -/
theorem fault?_eq_none_iff : p.fault? = none ↔ p.Sound := by
  refine ⟨fun hnone => ?_, Sound.fault?_eq⟩
  obtain hsound | ⟨fault, hfault⟩ := p.sound_or_firstFault
  · exact hsound
  · rw [hfault.fault?_eq] at hnone
    cases hnone

/-- **What is found wrong with a profile is the first thing wrong with it.** -/
theorem fault?_eq_some_iff {fault : Fault} : p.fault? = some fault ↔ p.FirstFault fault := by
  refine ⟨fun hsome => ?_, FirstFault.fault?_eq⟩
  obtain hsound | ⟨first, hfirst⟩ := p.sound_or_firstFault
  · rw [hsound.fault?_eq] at hsome
    cases hsome
  · obtain rfl : first = fault := Option.some.inj (hfirst.fault?_eq.symm.trans hsome)
    exact hfirst

/-- Rings come before cores. -/
example : { standard with ringCount := 65, cpuCores := [1, 2, 1] }.fault? =
    some (.tooManyRings 65) := by decide

end Checks

end Profile

end ProfiledSocket
