/-
Lengths of time in whole milliseconds.

The kernel is told in milliseconds how long it may wait, in a word of 32 bits with a sign.  A limit
is given to it as the least number of milliseconds that is no shorter, or as the largest number that
the word can hold, and the lack of a limit as a negative number.  On the way from seconds to
milliseconds the words are wide enough for every length of time there is.

* **`Duration.ceilMillis_isLeast`** — a length of time is rounded up, and no further than it has to;
* `Duration.wideCeilMillis`, `Duration.wordMillis` — the same computation in machine words;
* **`Duration.fitsWide`**, **`Duration.wordMillis_eq`** — nothing overflows in these words, and they
  come to what the kernel is given;
* **`Timeout.millis_saturates`** — all of this, and which limits give no time and which all of it.

Design notes: lengths of time are compared by their nanoseconds, and the least number of
milliseconds is the least among all integers, those below zero included.  Each step in words of
128 bits is shown to fit before its number is read off.
-/
import Mathlib
import ProfiledSocket.Duration

namespace ProfiledSocket

namespace Duration

variable (d : Duration)

/-! ### Rounding up -/

theorem totalNanos_le : d.totalNanos ≤ d.ceilMillis * 1000000 := by
  have := d.nanos_lt
  simp only [totalNanos, ceilMillis]
  split <;> omega

theorem lt_totalNanos : d.ceilMillis * 1000000 < d.totalNanos + 1000000 := by
  simp only [totalNanos, ceilMillis]
  split <;> omega

/-- **A length of time is rounded up**, to the least number of milliseconds that is as long. -/
theorem ceilMillis_isLeast :
    IsLeast {m : Int | (d.totalNanos : Int) ≤ m * 1000000} d.ceilMillis := by
  have hle := d.totalNanos_le
  have hlt := d.lt_totalNanos
  refine ⟨?_, fun m hm => ?_⟩
  · show (d.totalNanos : Int) ≤ d.ceilMillis * 1000000
    omega
  · have hm : (d.totalNanos : Int) ≤ m * 1000000 := hm
    omega

/-- What is no longer needs no more milliseconds. -/
theorem ceilMillis_mono {d e : Duration} (h : d.totalNanos ≤ e.totalNanos) :
    d.ceilMillis ≤ e.ceilMillis := by
  have hd := d.lt_totalNanos
  have he := e.totalNanos_le
  omega

theorem ceilMillis_le {d : Duration} {millis : Nat} (hmax : d.totalNanos ≤ millis * 1000000) :
    d.ceilMillis ≤ millis := by
  have hlt := d.lt_totalNanos
  omega

theorem isZero_iff : d.isZero = true ↔ d.totalNanos = 0 := by
  have hsecs : d.secs = 0 ↔ d.secs.toNat = 0 := by
    rw [← UInt64.toNat_inj]
    rfl
  simp only [isZero, totalNanos, Bool.and_eq_true, beq_iff_eq, hsecs]
  omega

theorem ceilMillis_eq_zero_iff : d.ceilMillis = 0 ↔ d.isZero = true := by
  have hle := d.totalNanos_le
  have hlt := d.lt_totalNanos
  rw [d.isZero_iff]
  omega

/-! ### The same in machine words -/

/-- The seconds in a word of 128 bits. -/
def wideSecs : BitVec 128 := d.secs.toBitVec.setWidth 128

/-- The whole milliseconds beyond the seconds, in a word of 128 bits. -/
def wideSubsecMillis : BitVec 128 := .ofNat 128 (d.nanos / 1000000)

/-- The whole milliseconds of `d`. -/
def wideMillis : BitVec 128 := d.wideSecs * 1000#128 + d.wideSubsecMillis

/-- The milliseconds of `d`, a started one counting as a whole one. -/
def wideCeilMillis : BitVec 128 :=
  if d.nanos % 1000000 = 0 then d.wideMillis else d.wideMillis + 1#128

/-- What is left of these milliseconds in a word of 32 bits, once they are cut to what it can
hold. -/
def wordMillis : Int32 :=
  .ofBitVec ((if d.wideCeilMillis ≤ 2147483647#128 then d.wideCeilMillis
    else 2147483647#128).setWidth 32)

/-- None of the steps overflows a word of 128 bits. -/
structure FitsWide : Prop where
  product : d.wideSecs.umulOverflow 1000#128 = false
  sum : (d.wideSecs * 1000#128).uaddOverflow d.wideSubsecMillis = false
  successor : d.wideMillis.uaddOverflow 1#128 = false

theorem toNat_wideSecs : d.wideSecs.toNat = d.secs.toNat := by
  have hsecs := d.secs.toNat_lt
  rw [wideSecs, BitVec.toNat_setWidth, UInt64.toNat_toBitVec, Nat.mod_eq_of_lt (by omega)]

theorem toNat_wideSubsecMillis : d.wideSubsecMillis.toNat = d.nanos / 1000000 := by
  have hnanos := d.nanos_lt
  rw [wideSubsecMillis, BitVec.toNat_ofNat, Nat.mod_eq_of_lt (by omega)]

theorem not_overflow_product : d.wideSecs.umulOverflow 1000#128 = false := by
  have hsecs := d.secs.toNat_lt
  rw [BitVec.umulOverflow, toNat_wideSecs, decide_eq_false_iff_not]
  simp only [BitVec.reduceToNat]
  omega

theorem toNat_product : (d.wideSecs * 1000#128).toNat = d.secs.toNat * 1000 := by
  rw [BitVec.toNat_mul_of_not_umulOverflow (by simp [not_overflow_product]), toNat_wideSecs]
  rfl

theorem not_overflow_sum :
    (d.wideSecs * 1000#128).uaddOverflow d.wideSubsecMillis = false := by
  have hsecs := d.secs.toNat_lt
  have hnanos := d.nanos_lt
  rw [BitVec.uaddOverflow, toNat_product, toNat_wideSubsecMillis, decide_eq_false_iff_not]
  omega

theorem toNat_wideMillis : d.wideMillis.toNat = d.secs.toNat * 1000 + d.nanos / 1000000 := by
  rw [wideMillis, BitVec.toNat_add_of_not_uaddOverflow (by simp [not_overflow_sum]),
    toNat_product, toNat_wideSubsecMillis]

theorem not_overflow_successor : d.wideMillis.uaddOverflow 1#128 = false := by
  have hsecs := d.secs.toNat_lt
  have hnanos := d.nanos_lt
  rw [BitVec.uaddOverflow, toNat_wideMillis, decide_eq_false_iff_not]
  simp only [BitVec.reduceToNat]
  omega

/-- **No length of time is too long for words of 128 bits.** -/
theorem fitsWide : d.FitsWide :=
  ⟨d.not_overflow_product, d.not_overflow_sum, d.not_overflow_successor⟩

theorem toNat_wideCeilMillis : d.wideCeilMillis.toNat = d.ceilMillis := by
  rw [wideCeilMillis, ceilMillis]
  split
  · exact d.toNat_wideMillis
  · rw [BitVec.toNat_add_of_not_uaddOverflow (by simp [not_overflow_successor]),
      toNat_wideMillis]
    rfl

/-- **Machine words come to what the kernel is given**: nothing is lost when the word gets narrow,
since what does not fit was cut off before. -/
theorem wordMillis_eq : d.wordMillis = Timeout.millis (some d) := by
  have hle : d.wideCeilMillis ≤ 2147483647#128 ↔ d.ceilMillis ≤ maxMillis := by
    rw [BitVec.le_def, toNat_wideCeilMillis]
    rfl
  have hcut : (if d.wideCeilMillis ≤ 2147483647#128 then d.wideCeilMillis
      else 2147483647#128).toNat = min d.ceilMillis maxMillis := by
    by_cases hfits : d.wideCeilMillis ≤ 2147483647#128
    · rw [if_pos hfits, toNat_wideCeilMillis, Nat.min_eq_left (hle.1 hfits)]
    · rw [if_neg hfits, Nat.min_eq_right (Nat.le_of_not_le (mt hle.2 hfits))]
      rfl
  rw [Timeout.millis, wordMillis, Int32.ofNat]
  congr 1
  rw [← BitVec.toNat_inj, BitVec.toNat_setWidth, BitVec.toNat_ofNat, hcut]

end Duration

/-! ### What the kernel is given -/

namespace Timeout

variable {d : Duration}

/-- However long a limit is, the kernel is given a number that fits. -/
theorem toInt_millis (d : Duration) :
    (millis (some d)).toInt = (min d.ceilMillis maxMillis : Nat) := by
  have hmax : min d.ceilMillis maxMillis ≤ maxMillis := Nat.min_le_right _ _
  rw [maxMillis] at hmax
  exact Int32.toInt_ofNat_of_lt (Nat.lt_succ_of_le hmax)

/-- A limit that fits is given to the kernel in full. -/
theorem millis_some (hmax : d.totalNanos ≤ maxMillis * 1000000) :
    (millis (some d)).toInt = d.ceilMillis := by
  rw [toInt_millis, Nat.min_eq_left (Duration.ceilMillis_le hmax)]

/-- Only an empty limit gives the kernel no time at all. -/
theorem millis_eq_zero_iff (timeout : Timeout) :
    timeout.millis = 0 ↔ ∃ d, timeout = some d ∧ d.isZero = true := by
  cases timeout with
  | none => simp [millis]
  | some d =>
    have hzero : millis (some d) = 0 ↔ d.ceilMillis = 0 := by
      rw [← Int32.toInt_inj, toInt_millis, Int32.toInt_zero, maxMillis]
      omega
    rw [hzero, d.ceilMillis_eq_zero_iff]
    simp

theorem millis_ne_zero (hpos : 0 < d.totalNanos) : millis (some d) ≠ 0 := by
  intro hzero
  obtain ⟨_, hd, hempty⟩ := (millis_eq_zero_iff _).1 hzero
  obtain rfl := Option.some.inj hd
  have hnone := d.isZero_iff.1 hempty
  omega

theorem millis_nonneg (d : Duration) : 0 ≤ millis (some d) := by
  rw [Int32.le_iff_toInt_le, toInt_millis, Int32.toInt_zero]
  omega

/-- Only the lack of a limit is a number below zero. -/
theorem millis_lt_zero_iff (timeout : Timeout) : timeout.millis < 0 ↔ timeout = none := by
  cases timeout with
  | none => exact iff_of_true (by decide) rfl
  | some d => exact iff_of_false (Int32.not_lt.2 (millis_nonneg d)) (by simp)

theorem millis_mono {d e : Duration} (h : d.totalNanos ≤ e.totalNanos) :
    millis (some d) ≤ millis (some e) := by
  have hceil := Duration.ceilMillis_mono h
  rw [Int32.le_iff_toInt_le, toInt_millis, toInt_millis]
  omega

/-- **A limit is rounded up and cut to what fits.**  The kernel is given the least number of whole
milliseconds that is as long as the limit, or the largest number there is if that is less, and no
machine word overflows on the way.  It is given no time only if the limit is empty, never less for a
longer limit, and a number below zero only if there is no limit at all. -/
theorem millis_saturates (d : Duration) :
    (∃ m : Int, IsLeast {m : Int | (d.totalNanos : Int) ≤ m * 1000000} m ∧
      (millis (some d)).toInt = min Int32.maxValue.toInt m) ∧
    d.FitsWide ∧ d.wordMillis = millis (some d) ∧
    (millis (some d) = 0 ↔ d.secs = 0 ∧ d.nanos = 0) ∧
    0 ≤ millis (some d) ∧
    (∀ e : Duration, d.totalNanos ≤ e.totalNanos → millis (some d) ≤ millis (some e)) ∧
    millis none = -1 ∧ ∀ timeout : Timeout, timeout.millis < 0 ↔ timeout = none := by
  refine ⟨⟨d.ceilMillis, d.ceilMillis_isLeast, ?_⟩, d.fitsWide, d.wordMillis_eq, ?_,
    millis_nonneg d, fun e => millis_mono, rfl, millis_lt_zero_iff⟩
  · have hmax : Int32.maxValue.toInt = maxMillis := rfl
    rw [toInt_millis, hmax, Nat.cast_min, min_comm]
  · rw [millis_eq_zero_iff]
    simp [Duration.isZero]

/-- The longest limit that is given in full, one that is a nanosecond longer, and the longest. -/
theorem millis_saturates_longest :
    let d : Duration := ⟨2147483, 647000000, by decide⟩
    let e : Duration := ⟨2147483, 647000001, by decide⟩
    let longest : Duration := ⟨18446744073709551615, 999999999, by decide⟩
    d.totalNanos ≤ e.totalNanos ∧ e.totalNanos ≤ longest.totalNanos ∧
      millis (some d) = 2147483647 ∧ millis (some d) ≤ millis (some e) ∧
      millis (some e) ≤ millis (some longest) ∧ millis (some longest) = 2147483647 := by
  intro d e longest
  have hde : d.totalNanos ≤ e.totalNanos := by decide
  have hlongest : e.totalNanos ≤ longest.totalNanos := by decide
  obtain ⟨-, -, -, -, -, hmono, -⟩ := millis_saturates d
  obtain ⟨-, -, -, -, -, hmono', -⟩ := millis_saturates e
  exact ⟨hde, hlongest, by decide, hmono e hde, hmono' longest hlongest, by decide⟩

end Timeout

end ProfiledSocket
