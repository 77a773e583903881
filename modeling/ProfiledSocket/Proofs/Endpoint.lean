/-
Writing an address and reading it again.

An address is written as four decimal numerals with dots between them, and reading takes nothing
else, apart from white space around it.  What was written is read as what it was, and what is read
was written like that.

* `Text.Trimmed` — a text, and what is left of it without the white space at its ends;
* `Ipv4.Numeral`, `Ipv4.DottedQuad` — the texts that stand for a number, and for an address;
* **`Ipv4.numeral_iff`** — a number has one numeral, which is the one that is written;
* `Ipv4.splitDots_append` — the numbers of a text are what the dots leave of it;
* **`Ipv4.ofChars?_eq_some_iff`** — dotted quads are read, and nothing else;
* **`Endpoint.read_text`** — the address of an endpoint, from its text;
* **`Endpoint.read_exact`** — what is read as an endpoint, from all texts there are.

Design notes: the numerals are those of the standard library, whose theorems on them say what their
digits are and which number they stand for.  That there is no leading zero, and that there are no
other numerals, is not among these.
-/
import Mathlib
import ProfiledSocket.Endpoint.Read

namespace ProfiledSocket

/-! ### White space -/

namespace Text

/-- `rest` is `cs` without the white space at both ends. -/
structure Trimmed (cs rest : List Char) : Prop where
  split : ∃ before after, cs = before ++ rest ++ after ∧
    (∀ c ∈ before, isBlank c = true) ∧ ∀ c ∈ after, isBlank c = true
  head : ∀ c ∈ rest.head?, isBlank c = false
  last : ∀ c ∈ rest.getLast?, isBlank c = false

theorem dropWhile_eq_self {cs : List Char} (h : ∀ c ∈ cs.head?, isBlank c = false) :
    cs.dropWhile isBlank = cs := by
  cases cs with
  | nil => rfl
  | cons c rest => rw [List.dropWhile_cons_of_neg (by simp [h c rfl])]

theorem isBlank_head?_dropWhile (cs : List Char) :
    ∀ c ∈ (cs.dropWhile isBlank).head?, isBlank c = false := by
  intro c hc
  have hnot := List.head?_dropWhile_not isBlank cs
  rwa [Option.mem_def.1 hc] at hnot

theorem stripEnd_append {after : List Char} (h : ∀ c ∈ after, isBlank c = true)
    (cs : List Char) : stripEnd (cs ++ after) = stripEnd cs := by
  rw [stripEnd, List.reverse_append, List.dropWhile_append_of_pos (by simpa using h), stripEnd]

/-- What is left at the front of a text whose end is stripped. -/
theorem stripEnd_split (cs : List Char) :
    ∃ after, cs = stripEnd cs ++ after ∧ ∀ c ∈ after, isBlank c = true := by
  refine ⟨(cs.reverse.takeWhile isBlank).reverse, ?_, fun c hc => ?_⟩
  · rw [stripEnd, ← List.reverse_append, List.takeWhile_append_dropWhile, List.reverse_reverse]
  · exact List.mem_takeWhile_imp (List.mem_reverse.1 hc)

theorem strip_trimmed (cs : List Char) : Trimmed cs (strip cs) := by
  obtain ⟨after, hsplit, hafter⟩ := stripEnd_split (cs.dropWhile isBlank)
  refine ⟨⟨cs.takeWhile isBlank, after, ?_, ?_, hafter⟩, fun c hc => ?_, fun c hc => ?_⟩
  · rw [strip, List.append_assoc, ← hsplit, List.takeWhile_append_dropWhile]
  · exact fun c hc => List.mem_takeWhile_imp hc
  · -- what begins the stripped text begins the text without the blanks in front
    refine isBlank_head?_dropWhile cs c ?_
    rw [hsplit, List.head?_append, ← strip, Option.mem_def.1 hc]
    rfl
  · rw [strip, stripEnd, List.getLast?_reverse] at hc
    exact isBlank_head?_dropWhile _ c hc

/-- **Stripping takes away the white space at both ends**, and nothing else. -/
theorem strip_eq_iff {cs rest : List Char} : strip cs = rest ↔ Trimmed cs rest := by
  constructor
  · rintro rfl
    exact strip_trimmed cs
  · rintro ⟨⟨before, after, rfl, hbefore, hafter⟩, hhead, hlast⟩
    have hend : stripEnd rest = rest := by
      rw [stripEnd, dropWhile_eq_self (by simpa using hlast), List.reverse_reverse]
    rw [strip, List.append_assoc, List.dropWhile_append_of_pos hbefore]
    cases rest with
    | nil =>
      -- nothing but white space
      rw [List.nil_append, ← List.append_nil after, List.dropWhile_append_of_pos hafter]
      rfl
    | cons c rest =>
      rw [List.cons_append, dropWhile_eq_self (by simpa using hhead c rfl), ← List.cons_append,
        stripEnd_append hafter, hend]

/-- A text without white space has none at its ends. -/
theorem strip_eq_self {cs : List Char} (h : ∀ c ∈ cs, isBlank c = false) : strip cs = cs := by
  refine strip_eq_iff.2 ⟨⟨[], [], by simp, by simp, by simp⟩, fun c hc => h c ?_,
    fun c hc => h c ?_⟩
  · exact List.mem_of_mem_head? hc
  · exact List.mem_of_mem_getLast? hc

/-- Digits are not white space. -/
theorem not_isBlank_of_isDigit {c : Char} (h : c.isDigit = true) : isBlank c = false := by
  have hrange : 48 ≤ c.toNat ∧ c.toNat ≤ 57 := by simpa [Char.isDigit_iff_toNat] using h
  have hapart : ∀ r ∈ blanks, r.2 < 48 ∨ 57 < r.1 := by decide
  refine List.any_eq_false.2 fun r hr => ?_
  have := hapart r hr
  simp only [Bool.and_eq_true, decide_eq_true_eq]
  omega

end Text

namespace Ipv4

/-! ### Numerals -/

/-- A decimal numeral of a number, without sign and leading zero. -/
structure Numeral (field : List Char) (n : Nat) : Prop where
  ne_nil : field ≠ []
  digits : ∀ c ∈ field, c.isDigit = true
  leading : field.head? = some '0' → field = ['0']
  value : Nat.ofDigitChars 10 field 0 = n

/-- A numeral does not begin with a zero, unless it is that of zero. -/
theorem head?_toDigits {n : Nat} (h : n ≠ 0) : (Nat.toDigits 10 n).head? ≠ some '0' := by
  induction n using Nat.strongRecOn with
  | ind n ih =>
    rw [Nat.toDigits_eq_if (by decide)]
    split
    · rename_i hsmall
      interval_cases n <;> simp_all [Nat.digitChar]
    · -- the first digit is that of a tenth of the number
      rename_i hlarge
      have hhead := ih (n / 10) (by omega) (by omega)
      rwa [List.head?_append_of_ne_nil _ Nat.toDigits_ne_nil]

theorem numeral_toDigits (n : Nat) : Numeral (Nat.toDigits 10 n) n where
  ne_nil := Nat.toDigits_ne_nil
  digits _ hc := Nat.isDigit_of_mem_toDigits (by decide) (by decide) hc
  leading hzero := by
    by_cases h : n = 0
    · rw [h]
      rfl
    · exact absurd hzero (head?_toDigits h)
  value := Nat.ofDigitChars_ten_toDigits

theorem digitChar_of_isDigit {c : Char} (h : c.isDigit = true) :
    c.toNat - '0'.toNat < 10 ∧ Nat.digitChar (c.toNat - '0'.toNat) = c := by
  have hrange : 48 ≤ c.toNat ∧ c.toNat ≤ 57 := by simpa [Char.isDigit_iff_toNat] using h
  have hzero : '0'.toNat = 48 := rfl
  refine ⟨by omega, Char.toNat_inj.1 ?_⟩
  rw [Nat.toNat_digitChar_of_lt_ten (by omega)]
  omega

/-- Digits behind the numeral of a positive number give the numeral of what they make of it. -/
theorem toDigits_append {n : Nat} (hn : 0 < n) {cs : List Char}
    (h : ∀ c ∈ cs, c.isDigit = true) :
    Nat.toDigits 10 n ++ cs = Nat.toDigits 10 (Nat.ofDigitChars 10 cs n) := by
  induction cs generalizing n with
  | nil => rw [List.append_nil]; rfl
  | cons c cs ih =>
    rw [List.forall_mem_cons] at h
    obtain ⟨hlt, hchar⟩ := digitChar_of_isDigit h.1
    have hone : Nat.toDigits 10 n ++ [c] = Nat.toDigits 10 (10 * n + (c.toNat - '0'.toNat)) := by
      rw [← Nat.toDigits_append_toDigits (by decide) hn hlt, Nat.toDigits_of_lt_base hlt, hchar]
    rw [Nat.ofDigitChars_cons, ← ih (by omega) h.2, ← hone, List.append_assoc,
      List.singleton_append]

/-- **A number has one numeral**, which is the one that is written. -/
theorem numeral_iff {field : List Char} {n : Nat} :
    Numeral field n ↔ field = Nat.toDigits 10 n := by
  refine ⟨fun h => ?_, by rintro rfl; exact numeral_toDigits n⟩
  obtain ⟨hne, hdigits, hleading, rfl⟩ := h
  cases field with
  | nil => exact absurd rfl hne
  | cons c cs =>
    rw [List.forall_mem_cons] at hdigits
    obtain ⟨hlt, hchar⟩ := digitChar_of_isDigit hdigits.1
    by_cases hzero : c = '0'
    · subst hzero
      rw [hleading rfl]
      rfl
    · -- the first digit is the numeral of a positive number
      have hpos : 0 < c.toNat - '0'.toNat := by
        refine Nat.pos_of_ne_zero fun h => hzero ?_
        rw [← hchar, h]
        rfl
      rw [Nat.ofDigitChars_cons, Nat.mul_zero, Nat.zero_add, ← toDigits_append hpos hdigits.2,
        Nat.toDigits_of_lt_base hlt, hchar, List.singleton_append]

theorem isNumeral_iff {field : List Char} :
    isNumeral field = true ↔ Numeral field (Nat.ofDigitChars 10 field 0) := by
  simp only [isNumeral, Bool.and_eq_true, Bool.not_eq_true', List.isEmpty_eq_false_iff,
    List.all_eq_true, Bool.or_eq_true, bne_iff_ne, beq_iff_eq]
  constructor
  · rintro ⟨⟨hne, hdigits⟩, hleading⟩
    refine ⟨hne, hdigits, fun hzero => ?_, rfl⟩
    obtain ⟨c, rfl⟩ := List.length_eq_one_iff.1 (hleading.resolve_left (absurd hzero))
    rw [List.head?_cons, Option.some.injEq] at hzero
    rw [hzero]
  · rintro ⟨hne, hdigits, hleading, -⟩
    refine ⟨⟨hne, hdigits⟩, ?_⟩
    by_cases hzero : field.head? = some '0'
    · exact .inr (by rw [hleading hzero]; rfl)
    · exact .inl hzero

/-- One of the four numbers of an address is read from its numeral only. -/
theorem octet?_eq_some_iff {field : List Char} {o : UInt8} :
    octet? field = some o ↔ Numeral field o.toNat := by
  have hlt := o.toNat_lt
  constructor
  · intro h
    rw [octet?] at h
    split at h
    · rename_i hfield
      obtain ⟨hnumeral, hle⟩ := by simpa using hfield
      have hvalue := UInt8.toNat_ofNat_of_lt' (Nat.lt_succ_of_le hle)
      rw [← Option.some.inj h, hvalue]
      exact isNumeral_iff.1 hnumeral
    · cases h
  · intro h
    have hnumeral : isNumeral field = true := isNumeral_iff.2 (by rwa [h.value])
    have hle : o.toNat ≤ 255 := by omega
    simp [octet?, hnumeral, h.value, hle]

/-- The numeral of one of the four numbers is read as that number. -/
theorem octet?_toDigits (o : UInt8) : octet? (Nat.toDigits 10 o.toNat) = some o :=
  octet?_eq_some_iff.2 (numeral_toDigits o.toNat)

/-! ### Dots -/

theorem splitDots_of_notMem {field : List Char} (h : '.' ∉ field) : splitDots field = [field] := by
  induction field with
  | nil => rfl
  | cons c rest ih =>
    obtain ⟨hc, hrest⟩ := not_or.1 (mt List.mem_cons.2 h)
    rw [splitDots, if_neg (Ne.symm hc), ih hrest]

/-- The first field ends where the first dot stands. -/
theorem splitDots_append {field : List Char} (h : '.' ∉ field) (rest : List Char) :
    splitDots (field ++ '.' :: rest) = field :: splitDots rest := by
  induction field with
  | nil => rw [List.nil_append, splitDots, if_pos rfl]
  | cons c field ih =>
    obtain ⟨hc, hfield⟩ := not_or.1 (mt List.mem_cons.2 h)
    rw [List.cons_append, splitDots, if_neg (Ne.symm hc), ih hfield]

theorem dot_notMem_toDigits (n : Nat) : '.' ∉ Nat.toDigits 10 n := by
  intro h
  have : '.'.isDigit = true := Nat.isDigit_of_mem_toDigits (by decide) (by decide) h
  cases this

/-- Splitting at dots is the splitting of the standard library. -/
theorem splitDots_eq_splitOn (cs : List Char) : splitDots cs = cs.splitOn '.' := by
  induction cs with
  | nil => rfl
  | cons c rest ih =>
    rw [splitDots, List.splitOn, List.splitOnP_cons_eq_if_modifyHead, ← List.splitOn, ← ih]
    by_cases hc : c = '.'
    · simp [hc]
    · have hne : splitDots rest ≠ [] := by
        rw [ih]
        exact List.splitOnP_ne_nil _ _
      rw [if_neg hc, if_neg (by simpa using hc)]
      cases hfields : splitDots rest with
      | nil => exact absurd hfields hne
      | cons field fields => rfl

/-! ### Addresses -/

/-- **What is written as an address is read as that address.** -/
theorem ofChars?_chars (ip : Ipv4) : ofChars? ip.chars = some ip := by
  have hfields : splitDots ip.chars = [Nat.toDigits 10 ip.a.toNat, Nat.toDigits 10 ip.b.toNat,
      Nat.toDigits 10 ip.c.toNat, Nat.toDigits 10 ip.d.toNat] := by
    simp only [chars, List.append_assoc, List.cons_append,
      splitDots_append (dot_notMem_toDigits _), splitDots_of_notMem (dot_notMem_toDigits _)]
  simp [ofChars?, hfields, octet?_toDigits]

/-- There is no white space in the text of an address. -/
theorem not_isBlank_of_mem_chars {ip : Ipv4} {c : Char} (h : c ∈ ip.chars) :
    Text.isBlank c = false := by
  have hdigit {n : Nat} (h : c ∈ Nat.toDigits 10 n) : Text.isBlank c = false :=
    Text.not_isBlank_of_isDigit (Nat.isDigit_of_mem_toDigits (by decide) (by decide) h)
  simp only [chars, List.append_assoc, List.mem_append, List.mem_cons] at h
  rcases h with h | (rfl | h) | (rfl | h) | (rfl | h)
  all_goals first | exact hdigit h | rfl

/-- The numerals of the four numbers of an address, with dots between them. -/
def DottedQuad (cs : List Char) (ip : Ipv4) : Prop :=
  ∃ a b c d, cs = a ++ '.' :: b ++ '.' :: c ++ '.' :: d ∧ Numeral a ip.a.toNat ∧
    Numeral b ip.b.toNat ∧ Numeral c ip.c.toNat ∧ Numeral d ip.d.toNat

theorem dottedQuad_iff {cs : List Char} {ip : Ipv4} : DottedQuad cs ip ↔ cs = ip.chars := by
  simp only [DottedQuad, numeral_iff, chars]
  constructor
  · rintro ⟨_, _, _, _, rfl, rfl, rfl, rfl, rfl⟩
    rfl
  · rintro rfl
    exact ⟨_, _, _, _, rfl, rfl, rfl, rfl, rfl⟩

/-- **Dotted quads are read as the addresses that they stand for**, and nothing else is read. -/
theorem ofChars?_eq_some_iff {cs : List Char} {ip : Ipv4} :
    ofChars? cs = some ip ↔ DottedQuad cs ip := by
  refine ⟨fun h => ?_, fun h => by rw [dottedQuad_iff.1 h]; exact ofChars?_chars ip⟩
  rw [ofChars?] at h
  split at h
  · rename_i a b c d hfields
    simp only [Option.pure_def, Option.bind_eq_bind, Option.bind_eq_some_iff,
      octet?_eq_some_iff, Option.some.injEq] at h
    obtain ⟨_, ha, _, hb, _, hc, _, hd, rfl⟩ := h
    refine ⟨a, b, c, d, ?_, ha, hb, hc, hd⟩
    -- the fields with dots between them are the text again
    have hjoin : ['.'].intercalate (splitDots cs) = cs := by
      rw [splitDots_eq_splitOn]
      exact List.intercalate_splitOn '.'
    rw [← hjoin, hfields]
    simp [List.intercalate]
  · cases h

end Ipv4

/-! ### Endpoints -/

/-- **An endpoint is read from the text of its address** and its port. -/
theorem Endpoint.read_text (e : Endpoint) : Endpoint.read e.ip.text e.port = .ok e := by
  have hstrip : Text.strip e.ip.text.toList = e.ip.chars := by
    rw [Ipv4.text, String.toList_ofList]
    exact Text.strip_eq_self fun _ => Ipv4.not_isBlank_of_mem_chars
  rw [Endpoint.read, hstrip, Ipv4.ofChars?_chars]

theorem Endpoint.read_eq_ok_iff {text : String} {port : UInt16} {e : Endpoint} :
    Endpoint.read text port = .ok e ↔
      e.port = port ∧ ∃ rest, Text.Trimmed text.toList rest ∧ Ipv4.DottedQuad rest e.ip := by
  simp only [← Text.strip_eq_iff, exists_eq_left', ← Ipv4.ofChars?_eq_some_iff, Endpoint.read]
  cases Ipv4.ofChars? (Text.strip text.toList) with
  | none => simp
  | some ip =>
    simp only [Except.ok.injEq, Option.some.injEq]
    constructor
    · rintro rfl
      exact ⟨rfl, rfl⟩
    · rintro ⟨rfl, rfl⟩
      rfl

theorem Endpoint.read_eq_error_iff {text : String} {port : UInt16} :
    Endpoint.read text port = .error (.invalidAddress text) ↔
      ∀ e, Endpoint.read text port ≠ .ok e := by
  rw [Endpoint.read]
  cases Ipv4.ofChars? (Text.strip text.toList) with
  | none => simp
  | some ip => simp

/-- A text that is refused is kept as it was. -/
theorem Endpoint.eq_of_read_error {text : String} {port : UInt16} {e : SocketError}
    (h : Endpoint.read text port = .error e) : e = .invalidAddress text := by
  rw [Endpoint.read] at h
  split at h
  · cases h
  · exact (Except.error.inj h).symm

/-- **What is read as an endpoint.**  A text is read exactly if nothing but white space stands
around a dotted quad in it; the address is the one that the quad stands for, and its own text is the
quad again.  Every other text is refused, and kept as it was.  White space around the text of an
address makes no difference. -/
theorem Endpoint.read_exact (text : String) (port : UInt16) :
    (∀ e, Endpoint.read text port = .ok e ↔
      e.port = port ∧ ∃ rest, Text.Trimmed text.toList rest ∧ Ipv4.DottedQuad rest e.ip) ∧
    (∀ e, Endpoint.read text port = .ok e → Text.Trimmed text.toList e.ip.text.toList) ∧
    (Endpoint.read text port = .error (.invalidAddress text) ↔
      ¬ ∃ ip rest, Text.Trimmed text.toList rest ∧ Ipv4.DottedQuad rest ip) ∧
    ∀ (ip : Ipv4) (before after : String), (∀ c ∈ before.toList, Text.isBlank c = true) →
      (∀ c ∈ after.toList, Text.isBlank c = true) →
        Endpoint.read (before ++ ip.text ++ after) port = .ok ⟨ip, port⟩ := by
  refine ⟨fun e => read_eq_ok_iff, fun e h => ?_, ?_, fun ip before after hbefore hafter => ?_⟩
  · obtain ⟨-, rest, htrimmed, hquad⟩ := read_eq_ok_iff.1 h
    rwa [Ipv4.text, String.toList_ofList, ← Ipv4.dottedQuad_iff.1 hquad]
  · rw [read_eq_error_iff]
    constructor
    · rintro hnone ⟨ip, rest, htrimmed, hquad⟩
      exact hnone ⟨ip, port⟩ (read_eq_ok_iff.2 ⟨rfl, rest, htrimmed, hquad⟩)
    · intro hnone e he
      obtain ⟨-, hrest⟩ := read_eq_ok_iff.1 he
      exact hnone ⟨e.ip, hrest⟩
  · have htrimmed : Text.Trimmed (before ++ ip.text ++ after).toList ip.chars := by
      refine ⟨⟨before.toList, after.toList, by simp [Ipv4.text], hbefore, hafter⟩, ?_, ?_⟩
      · exact fun c hc => Ipv4.not_isBlank_of_mem_chars (List.mem_of_mem_head? hc)
      · exact fun c hc => Ipv4.not_isBlank_of_mem_chars (List.mem_of_mem_getLast? hc)
    exact read_eq_ok_iff.2 ⟨rfl, ip.chars, htrimmed, Ipv4.dottedQuad_iff.2 rfl⟩

/-- An address between a tab and a line break is read, and one with a leading zero is none. -/
theorem Endpoint.read_exact_blanks :
    Endpoint.read ("\t" ++ Ipv4.text ⟨192, 168, 0, 10⟩ ++ "\n") 7 = .ok ⟨⟨192, 168, 0, 10⟩, 7⟩ ∧
      ¬ ∃ ip rest, Text.Trimmed "192.168.0.010".toList rest ∧ Ipv4.DottedQuad rest ip := by
  have hrefused : Endpoint.read "192.168.0.010" 7 = .error (.invalidAddress "192.168.0.010") := by
    cbv
  obtain ⟨-, -, -, hread⟩ := Endpoint.read_exact "192.168.0.10" 7
  obtain ⟨-, -, hnone, -⟩ := Endpoint.read_exact "192.168.0.010" 7
  exact ⟨hread _ "\t" "\n" (by simp; decide) (by simp; decide), hnone.1 hrefused⟩

end ProfiledSocket
