/-
Quoted texts can be read back.

A message that refuses a text shows it between quotes.  However hostile the text is, the quotes
around it are the only ones that count, nothing in between can break the line or go unseen, and what
stands there is read back as the text that was refused; so two texts are never shown alike.

* `Text.Place`, `Text.unquoteFrom`, `Text.unquote` — reading a quoted text, character by character;
* **`Text.unquote_quoted`** — what is read of a quoted text, whatever comes after it;
* `Text.escapesNext`, `Text.BareQuote` — which characters are escaped, and which quotes are not;
* **`Text.bareQuote_iff`** — the quotes of a quoted text that are not escaped;
* **`Text.not_isHidden_of_mem_quoted`** — nothing in a quoted text is hidden;
* **`refusals_differ`** — what is shown of the texts that are no addresses.

Design notes: the reader goes from left to right and knows of what came before only the place where
it is, so it is a recursion on the text, and each way to write a character is a walk from the text
back into the text.  Which quotes are bare is said without the reader.
-/
import Mathlib
import ProfiledSocket.Error.Text
import ProfiledSocket.Proofs.Endpoint

namespace ProfiledSocket

namespace Text

/-! ### Hexadecimal digits -/

/-- The value of a hexadecimal digit. -/
def hexValue (c : Char) : Nat :=
  if c.isDigit then c.toNat - '0'.toNat else c.toNat - 'a'.toNat + 10

/-- The number that `digits` make of `n` when they are written behind it. -/
def readHex (n : Nat) (digits : List Char) : Nat := digits.foldl (fun n c => 16 * n + hexValue c) n

theorem hexValue_digitChar {d : Nat} (h : d < 16) : hexValue (Nat.digitChar d) = d := by
  interval_cases d <;> rfl

/-- The hexadecimal digits in lower case. -/
def hexDigits : List Char := (List.range 16).map Nat.digitChar

theorem mem_hexDigits {n : Nat} {c : Char} (h : c ∈ Nat.toDigits 16 n) : c ∈ hexDigits := by
  induction n using Nat.strongRecOn with
  | ind n ih =>
    rw [Nat.toDigits_eq_if (by decide)] at h
    split at h
    · rename_i hsmall
      exact List.mem_map.2 ⟨n, List.mem_range.2 hsmall, (List.mem_singleton.1 h).symm⟩
    · rename_i hlarge
      obtain hfront | hlast := List.mem_append.1 h
      · exact ih (n / 16) (by omega) hfront
      · exact List.mem_map.2 ⟨n % 16, List.mem_range.2 (Nat.mod_lt _ (by decide)),
          (List.mem_singleton.1 hlast).symm⟩

/-- The digits of a number are read as that number. -/
theorem readHex_toDigits (n : Nat) : readHex 0 (Nat.toDigits 16 n) = n := by
  induction n using Nat.strongRecOn with
  | ind n ih =>
    rw [Nat.toDigits_eq_if (by decide)]
    split
    · rename_i hsmall
      simp [readHex, hexValue_digitChar hsmall]
    · rename_i hlarge
      have hfront := ih (n / 16) (by omega)
      have hlast := hexValue_digitChar (Nat.mod_lt n (by decide : 0 < 16))
      rw [readHex] at hfront ⊢
      rw [List.foldl_append, hfront, List.foldl_cons, List.foldl_nil, hlast]
      omega

/-! ### Reading -/

/-- Where a reader of a quoted text is. -/
inductive Place
  /-- In the text itself. -/
  | text
  /-- Behind a backslash. -/
  | escape
  /-- Behind a backslash and a `u`. -/
  | brace
  /-- Among the digits of a character that is written by number; they have made `n` so far. -/
  | digits (n : Nat)

/-- The character that is written as a backslash and `c`. -/
def named? (c : Char) : Option Char :=
  if c = '"' then some '"'
  else if c = '\\' then some '\\'
  else if c = 'n' then some '\n'
  else if c = 'r' then some '\r'
  else if c = 't' then some '\t'
  else if c = '0' then some '\x00'
  else none

/-- Reads a quoted text from some place in it to the quote at its end: what the text was from there
on, and what comes after the quote. -/
def unquoteFrom : Place → List Char → Option (List Char × List Char)
  | _, [] => none
  | .text, c :: rest =>
    if c = '"' then some ([], rest)
    else if c = '\\' then unquoteFrom .escape rest
    else (unquoteFrom .text rest).map (Prod.map (c :: ·) id)
  | .escape, c :: rest =>
    if c = 'u' then unquoteFrom .brace rest
    else (named? c).bind fun d => (unquoteFrom .text rest).map (Prod.map (d :: ·) id)
  | .brace, c :: rest => if c = '\x7b' then unquoteFrom (.digits 0) rest else none
  | .digits n, c :: rest =>
    if c = '\x7d' then (unquoteFrom .text rest).map (Prod.map (Char.ofNat n :: ·) id)
    else unquoteFrom (.digits (16 * n + hexValue c)) rest

/-- Reads a quoted text at the front of `cs`: what the text was, and what comes after it. -/
def unquote (cs : List Char) : Option (List Char × List Char) :=
  match cs with
  | '"' :: rest => unquoteFrom .text rest
  | _ => none

/-- What is written behind a backslash can be printed in ASCII. -/
theorem ascii_of_named {c d : Char} (h : named? d = some c) : 0x20 ≤ d.toNat ∧ d.toNat ≤ 0x7e := by
  rw [named?] at h
  split_ifs at h
  all_goals subst d; decide

/-- How a character stands inside the quotes: by a name behind a backslash, by number if it cannot
be seen, or as itself. -/
theorem escape_cases (c : Char) :
    (∃ d, named? d = some c ∧ escape c = ['\\', d]) ∨
      isHidden c = true ∧ escape c = byNumber c ∨
      isHidden c = false ∧ c ≠ '"' ∧ c ≠ '\\' ∧ escape c = [c] := by
  rw [escape]
  split_ifs with hquote hbackslash hfeed hreturn htab hnull hhidden
  · exact .inl ⟨'"', by rw [hquote]; rfl, rfl⟩
  · exact .inl ⟨'\\', by rw [hbackslash]; rfl, rfl⟩
  · exact .inl ⟨'n', by rw [hfeed]; rfl, rfl⟩
  · exact .inl ⟨'r', by rw [hreturn]; rfl, rfl⟩
  · exact .inl ⟨'t', by rw [htab]; rfl, rfl⟩
  · exact .inl ⟨'0', by rw [hnull]; rfl, rfl⟩
  · exact .inr (.inl ⟨hhidden, rfl⟩)
  · exact .inr (.inr ⟨Bool.eq_false_iff.2 hhidden, hquote, hbackslash, rfl⟩)

/-- Digits are read until the brace that ends them. -/
theorem unquoteFrom_digits {digits : List Char} (h : '\x7d' ∉ digits) (n : Nat)
    (rest : List Char) : unquoteFrom (.digits n) (digits ++ '\x7d' :: rest) =
      (unquoteFrom .text rest).map (Prod.map (Char.ofNat (readHex n digits) :: ·) id) := by
  induction digits generalizing n with
  | nil => rw [List.nil_append, unquoteFrom, if_pos rfl, readHex, List.foldl_nil]
  | cons c digits ih =>
    obtain ⟨hc, hdigits⟩ := not_or.1 (mt List.mem_cons.2 h)
    rw [List.cons_append, unquoteFrom, if_neg (Ne.symm hc), ih hdigits, readHex, readHex,
      List.foldl_cons]

/-- **A character is read from how it stands inside the quotes.** -/
theorem unquoteFrom_escape (c : Char) (rest : List Char) :
    unquoteFrom .text (escape c ++ rest) =
      (unquoteFrom .text rest).map (Prod.map (c :: ·) id) := by
  obtain ⟨d, hnamed, hc⟩ | ⟨-, hc⟩ | ⟨-, hquote, hbackslash, hc⟩ :=
    escape_cases c
  · have hd : d ≠ 'u' := by
      rintro rfl
      cases hnamed
    have hwalk : unquoteFrom .text ('\\' :: d :: rest) = unquoteFrom .escape (d :: rest) := rfl
    rw [hc, List.cons_append, List.singleton_append, hwalk, unquoteFrom, if_neg hd, hnamed,
      Option.bind_some]
  · have hbrace : '\x7d' ∉ Nat.toDigits 16 c.toNat := fun h => absurd (mem_hexDigits h) (by decide)
    have hwalk : unquoteFrom .text (byNumber c ++ rest) =
        unquoteFrom (.digits 0) (Nat.toDigits 16 c.toNat ++ '\x7d' :: rest) := by
      simp [byNumber, unquoteFrom]
    rw [hc, hwalk, unquoteFrom_digits hbrace, readHex_toDigits, Char.ofNat_toNat]
  · rw [hc, List.singleton_append, unquoteFrom, if_neg hquote, if_neg hbackslash]

/-- A text is read up to the quote at its end. -/
theorem unquoteFrom_escaped (cs rest : List Char) :
    unquoteFrom .text (cs.flatMap escape ++ '"' :: rest) = some (cs, rest) := by
  induction cs with
  | nil => rfl
  | cons c cs ih =>
    rw [List.flatMap_cons, List.append_assoc, unquoteFrom_escape, ih]
    rfl

theorem toList_quoted (s : String) :
    (quoted s).toList = '"' :: s.toList.flatMap escape ++ ['"'] := by
  rw [quoted, String.toList_ofList]

/-- **A quoted text is read back**, and its end is found whatever comes after it. -/
theorem unquote_quoted (s : String) (rest : List Char) :
    unquote ((quoted s).toList ++ rest) = some (s.toList, rest) := by
  rw [toList_quoted, List.append_assoc]
  exact unquoteFrom_escaped s.toList rest

/-- What is written by number is read by number, and what comes after the quote is left. -/
example : unquote "\"a\\u\x7b7f\x7d\" b".toList = some (['a', '\x7f'], [' ', 'b']) := by decide

/-- Different texts are quoted differently. -/
theorem quoted_inj {s t : String} : quoted s = quoted t ↔ s = t := by
  refine ⟨fun h => ?_, fun h => by rw [h]⟩
  have hs := unquote_quoted s []
  rw [h, unquote_quoted t []] at hs
  exact String.toList_inj.1 (congrArg Prod.fst (Option.some.inj hs)).symm

/-! ### Bare quotes -/

/-- Whether the character that comes after `cs` is escaped: it comes after a backslash, which is not
escaped itself. -/
def escapesNext (cs : List Char) : Bool := cs.foldl (fun escaped c => !escaped && c == '\\') false

/-- There is a quote in `text` after `before`, and it is not escaped. -/
def BareQuote (text before : List Char) : Prop :=
  before ++ ['"'] <+: text ∧ escapesNext before = false

/-- Behind a character that is no backslash nothing is escaped. -/
theorem escapesNext_concat {c : Char} (h : c ≠ '\\') (cs : List Char) :
    escapesNext (cs ++ [c]) = false := by
  simp [escapesNext, h]

theorem escapesNext_eq_false {cs : List Char} (h : '\\' ∉ cs) : escapesNext cs = false := by
  rcases List.eq_nil_or_concat cs with rfl | ⟨front, c, rfl⟩
  · rfl
  · rw [List.concat_eq_append] at h ⊢
    exact escapesNext_concat (fun hc => h (by simp [hc])) front

/-- Where nothing is escaped, what is escaped later does not depend on what was before. -/
theorem escapesNext_append {cs : List Char} (h : escapesNext cs = false) (ds : List Char) :
    escapesNext (cs ++ ds) = escapesNext ds := by
  rw [escapesNext] at h
  rw [escapesNext, escapesNext, List.foldl_append, h]

theorem escapesNext_escape (c : Char) : escapesNext (escape c) = false := by
  obtain ⟨d, -, hc⟩ | ⟨-, hc⟩ | ⟨-, -, hbackslash, hc⟩ := escape_cases c
  · rw [hc]
    rfl
  · rw [hc, byNumber]
    exact escapesNext_concat (by decide) _
  · rw [hc]
    exact escapesNext_concat hbackslash []

theorem escapesNext_escaped (cs : List Char) : escapesNext (cs.flatMap escape) = false := by
  induction cs with
  | nil => rfl
  | cons c cs ih => rw [List.flatMap_cons, escapesNext_append (escapesNext_escape c), ih]

/-- There is a quote in how a character stands inside the quotes only if it is a quote itself. -/
theorem eq_of_quote_mem_escape {c : Char} (h : '"' ∈ escape c) : c = '"' := by
  obtain ⟨d, hnamed, hc⟩ | ⟨-, hc⟩ | ⟨-, -, -, hc⟩ := escape_cases c
  · rw [hc] at h
    obtain rfl : '"' = d := by simpa using h
    exact (Option.some.inj hnamed).symm
  · have hdigits : '"' ∉ Nat.toDigits 16 c.toNat := fun h => absurd (mem_hexDigits h) (by decide)
    simp [hc, byNumber, hdigits] at h
  · rw [hc] at h
    exact (List.mem_singleton.1 h).symm

/-- **Every quote inside the quotes is escaped.** -/
theorem escapesNext_of_quote {cs before after : List Char}
    (h : cs.flatMap escape = before ++ '"' :: after) : escapesNext before = true := by
  induction cs generalizing before with
  | nil => simp at h
  | cons c cs ih =>
    rw [List.flatMap_cons, List.append_eq_append_iff] at h
    obtain ⟨between, rfl, hrest⟩ | ⟨between, hchar, hrest⟩ := h
    · -- the quote comes later
      rw [escapesNext_append (escapesNext_escape c), ih hrest]
    · cases between with
      | nil =>
        -- what comes after a character does not begin with a quote, which would not be escaped
        have hstart : escapesNext [] = true := ih hrest.symm
        cases hstart
      | cons d between =>
        obtain ⟨rfl, -⟩ := List.cons.inj hrest
        obtain rfl : c = '"' := eq_of_quote_mem_escape (by rw [hchar]; simp)
        -- of the two characters that a quote is written with, it is the second
        have hpair : ['\\', '"'] = before ++ '"' :: between := hchar
        rcases before with _ | ⟨first, _ | ⟨second, before⟩⟩
        · simp at hpair
        · obtain ⟨rfl, -⟩ := List.cons.inj hpair
          rfl
        · simp at hpair

/-- In a text with its first quote after `front`, each quote is this one or comes later. -/
theorem eq_or_of_quote {front rest before after : List Char} (hfront : '"' ∉ front)
    (h : front ++ '"' :: rest = before ++ '"' :: after) :
    before = front ∨ ∃ inner, before = front ++ '"' :: inner ∧ rest = inner ++ '"' :: after := by
  obtain ⟨between, hbefore, hrest⟩ | ⟨between, rfl, hafter⟩ := List.append_eq_append_iff.1 h
  · cases between with
    | nil => exact .inl (by simpa using hbefore)
    | cons d inner =>
      obtain ⟨rfl, hlater⟩ := List.cons.inj hrest
      exact .inr ⟨inner, hbefore, hlater⟩
  · cases between with
    | nil => exact .inl (by simp)
    | cons d between =>
      obtain ⟨rfl, -⟩ := List.cons.inj hafter
      exact absurd (by simp) hfront

/-- **The bare quotes of a quoted text are those at its ends**, also if something stands before
it. -/
theorem bareQuote_iff {front : List Char} (hquote : '"' ∉ front) (hbackslash : '\\' ∉ front)
    (s : String) (before : List Char) :
    BareQuote (front ++ (quoted s).toList) before ↔
      before = front ∨ before ++ ['"'] = front ++ (quoted s).toList := by
  -- what is escaped inside the quotes does not depend on what stands before them
  have hinside (inner : List Char) :
      escapesNext (front ++ '"' :: inner) = escapesNext inner := by
    rw [List.append_cons, escapesNext_append (escapesNext_concat (by decide) front)]
  rw [toList_quoted, List.cons_append]
  constructor
  · rintro ⟨⟨after, htext⟩, hbare⟩
    rw [List.append_assoc, List.singleton_append] at htext
    obtain hfront | ⟨inner, rfl, hrest⟩ := eq_or_of_quote hquote htext.symm
    · exact .inl hfront
    · rw [hinside] at hbare
      rcases List.eq_nil_or_concat after with rfl | ⟨after, c, rfl⟩
      · rw [hrest, List.append_assoc, List.cons_append]
        exact .inr rfl
      · rw [List.concat_eq_append, ← List.cons_append, ← List.append_assoc] at hrest
        obtain ⟨hescaped, -⟩ := List.append_inj' hrest rfl
        rw [escapesNext_of_quote hescaped] at hbare
        cases hbare
  · rintro (rfl | hlast)
    · refine ⟨⟨s.toList.flatMap escape ++ ['"'], ?_⟩, escapesNext_eq_false hbackslash⟩
      rw [List.append_assoc, List.singleton_append]
    · refine ⟨by rw [hlast], ?_⟩
      rw [← List.cons_append, ← List.append_assoc] at hlast
      rw [(List.append_inj' hlast rfl).1, hinside, escapesNext_escaped]

/-! ### What can be seen -/

/-- Whether `c` is a control character. -/
def IsControl (c : Char) : Prop := c.toNat ≤ 0x1f ∨ 0x7f ≤ c.toNat ∧ c.toNat ≤ 0x9f

theorem isHidden_of_isControl {c : Char} (h : IsControl c) : isHidden c = true := by
  have hholds : nongraphic.holds c = true := by
    rw [Ranges.holds, List.any_eq_true]
    rcases h with hlow | hhigh
    · exact ⟨(0x0, 0x1f), List.mem_cons_self, by simpa using hlow⟩
    · refine ⟨(0x7f, 0xa0), List.mem_cons_of_mem _ List.mem_cons_self, ?_⟩
      simp only [Bool.and_eq_true, decide_eq_true_eq]
      omega
  rw [isHidden, hholds]
  rfl

/-- What ASCII can print is seen. -/
theorem not_isHidden_of_ascii {c : Char} (h : 0x20 ≤ c.toNat ∧ c.toNat ≤ 0x7e) :
    isHidden c = false := by
  have hapart : ∀ ranges ∈ [nongraphic, ignorable, extending], ∀ r ∈ ranges,
      r.2 < 0x20 ∨ 0x7e < r.1 := by decide +kernel
  have hholds {ranges : Ranges} (h : ranges ∈ [nongraphic, ignorable, extending]) :
      ranges.holds c = false := by
    refine List.any_eq_false.2 fun r hr => ?_
    have := hapart ranges h r hr
    simp only [Bool.and_eq_true, decide_eq_true_eq]
    omega
  simp [isHidden, hholds]

/-- A text that ASCII can print is seen. -/
theorem not_isHidden_of_ascii_all (cs : List Char)
    (h : cs.all (fun c => 0x20 ≤ c.toNat ∧ c.toNat ≤ 0x7e) = true) {c : Char} (hc : c ∈ cs) :
    isHidden c = false :=
  not_isHidden_of_ascii (of_decide_eq_true (List.all_eq_true.1 h c hc))

theorem not_isHidden_of_mem_escape {c d : Char} (h : d ∈ escape c) : isHidden d = false := by
  obtain ⟨name, hnamed, hc⟩ | ⟨-, hc⟩ | ⟨hseen, -, -, hc⟩ := escape_cases c
  · rw [hc] at h
    obtain rfl | rfl : d = '\\' ∨ d = name := by simpa using h
    · exact not_isHidden_of_ascii (by decide)
    · exact not_isHidden_of_ascii (ascii_of_named hnamed)
  · refine not_isHidden_of_ascii_all ('\\' :: 'u' :: '\x7b' :: '\x7d' :: hexDigits)
      (by decide) ?_
    simp only [hc, byNumber, List.mem_append, List.mem_cons, List.not_mem_nil, or_false] at h ⊢
    obtain ((rfl | rfl | rfl) | hdigit) | rfl := h
    · exact .inl rfl
    · exact .inr (.inl rfl)
    · exact .inr (.inr (.inl rfl))
    · exact .inr (.inr (.inr (.inr (mem_hexDigits hdigit))))
    · exact .inr (.inr (.inr (.inl rfl)))
  · rw [hc] at h
    rwa [List.mem_singleton.1 h]

/-- **Nothing in a quoted text is hidden.** -/
theorem not_isHidden_of_mem_quoted {s : String} {c : Char} (h : c ∈ (quoted s).toList) :
    isHidden c = false := by
  rw [toList_quoted, List.mem_append, List.mem_cons] at h
  obtain (rfl | hinside) | hend := h
  · exact not_isHidden_of_ascii (by decide)
  · obtain ⟨d, -, hc⟩ := List.mem_flatMap.1 hinside
    exact not_isHidden_of_mem_escape hc
  · rw [List.mem_singleton.1 hend]
    exact not_isHidden_of_ascii (by decide)

end Text

/-! ### Texts that are no addresses -/

open Text

theorem SocketError.message_invalidAddress (text : String) :
    (SocketError.invalidAddress text).message = "invalid IPv4 address " ++ quoted text := rfl

/-- **Texts that are no addresses are shown unambiguously.**  Different texts are shown differently,
whatever ports came with them.  What is shown is the text between quotes, and is read back as that
text; of what is shown nothing is hidden and no character is a control character, and no quotes but
the first and the last are bare. -/
theorem refusals_differ :
    (∀ {s t : String} {port port' : UInt16} {e e' : SocketError},
      Endpoint.read s port = .error e → Endpoint.read t port' = .error e' →
        (e.message = e'.message ↔ s = t)) ∧
    ∀ {s : String} {port : UInt16} {e : SocketError}, Endpoint.read s port = .error e →
      (∃ shown, e.message = "invalid IPv4 address " ++ shown ∧
        unquote shown.toList = some (s.toList, [])) ∧
      (∀ c ∈ e.message.toList, ¬ IsControl c ∧ isHidden c = false) ∧
      ∀ before, BareQuote e.message.toList before ↔
        before = "invalid IPv4 address ".toList ∨ before ++ ['"'] = e.message.toList := by
  refine ⟨fun hs ht => ?_, fun {s} _ _ hs => ?_⟩
  · obtain rfl := Endpoint.eq_of_read_error hs
    obtain rfl := Endpoint.eq_of_read_error ht
    rw [SocketError.message_invalidAddress, SocketError.message_invalidAddress,
      String.append_right_inj, quoted_inj]
  · obtain rfl := Endpoint.eq_of_read_error hs
    rw [SocketError.message_invalidAddress, String.toList_append]
    refine ⟨⟨quoted s, rfl, ?_⟩, fun c hc => ?_, bareQuote_iff (by decide) (by decide) s⟩
    · simpa using unquote_quoted s []
    · have hseen : isHidden c = false := by
        obtain hfront | hquoted := List.mem_append.1 hc
        · exact not_isHidden_of_ascii_all _ (by decide) hfront
        · exact not_isHidden_of_mem_quoted hquoted
      refine ⟨fun hcontrol => ?_, hseen⟩
      rw [isHidden_of_isControl hcontrol] at hseen
      cases hseen

/-- A text that would break the line and end its quotes is shown in one line, and not as the text
that looks like what is shown. -/
theorem refusals_differ_lookalike :
    let s := "10.0.0.1\n\""
    let t := "10.0.0.1\\n\\\""
    ∃ e e', Endpoint.read s 80 = .error e ∧ Endpoint.read t 80 = .error e' ∧
      e.message = "invalid IPv4 address \"10.0.0.1\\n\\\"\"" ∧ e.message ≠ e'.message ∧
      '\n' ∉ e.message.toList := by
  intro s t
  have hs : Endpoint.read s 80 = .error (.invalidAddress s) := by cbv
  have ht : Endpoint.read t 80 = .error (.invalidAddress t) := by cbv
  have hquoted : quoted s = "\"10.0.0.1\\n\\\"\"" := by decide +kernel
  obtain ⟨hsame, hshown⟩ := refusals_differ
  obtain ⟨-, hseen, -⟩ := hshown hs
  refine ⟨_, _, hs, ht, ?_, mt (hsame hs ht).1 (by decide), fun hbreak => ?_⟩
  · rw [SocketError.message_invalidAddress, hquoted]
    rfl
  · exact (hseen '\n' hbreak).1 (.inl (by decide))

end ProfiledSocket
