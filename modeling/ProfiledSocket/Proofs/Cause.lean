/-
Errors keep what they were caused by.

An error can be asked for its cause, the cause for its own, and so on.  To make an input or output
error of a failed operation drops one step of this chain, for the new error speaks for the operation
and names the cause of that; but its text is the operation's as well, and so no text is lost.

* `Cause`, `SocketError.source?`, `IoError.source?` — the cause that an error names;
* `Traces`, **`SocketError.traces`** — to ask for the cause again and again comes to an end, and
  yields the texts that are shown;
* `EndsIn`, **`Traces.endsIn`** — each of the texts ends in all that come after it;
* `Excused`, **`transientAsNone_excused`** — which errors are no answer yet;
* **`causes_kept`** — nothing of this is lost when an error is made of a failed operation.

Design notes: that the texts of a chain end in each other is an induction on the chain, and says
nothing about the two sorts of error, of which only `Cause.message_endsIn` speaks, for one step.
That the chain ends is an induction on the errors.
-/
import Mathlib
import ProfiledSocket.Error.Text

namespace ProfiledSocket

/-! ### The causes of an error -/

/-- What can be the cause of an error: an error of either sort. -/
inductive Cause
  | io (error : IoError)
  | socket (error : SocketError)

/-- The cause that an error names, if it has one. -/
def SocketError.source? : SocketError → Option Cause
  | .socketCreate source | .socketOption _ source | .bind _ source | .listen source
  | .accept source | .connect _ source | .send source | .recv source => some (.io source)
  | .reconnect _ source => some (.socket source)
  | .invalidParam _ | .invalidAddress _ | .timeout | .wouldBlock | .closed | .notInitialized _
  | .alreadyConnected => none

/-- The cause that an error names, if it has one. An error that is made of a failed operation names
the cause of the operation, and not the operation. -/
def IoError.source? : IoError → Option Cause
  | .os _ | .bare _ | .custom _ _ => none
  | .wrapped error => error.source?

namespace Cause

/-- The sentence for a reader. -/
def message : Cause → String
  | io error => error.message
  | socket error => error.message

/-- The cause of a cause, if it has one. -/
def source? : Cause → Option Cause
  | io error => error.source?
  | socket error => error.source?

end Cause

/-- The texts of a chain of causes: of the first one, if there is one, of what caused that, and so
on until there is no cause. -/
inductive Traces : Option Cause → List String → Prop
  | done : Traces none []
  | cause {cause : Cause} {texts : List String} (rest : Traces cause.source? texts) :
    Traces (some cause) (cause.message :: texts)

/-- A chain has only one list of texts. -/
theorem Traces.unique {first : Option Cause} {texts texts' : List String}
    (h : Traces first texts) (h' : Traces first texts') : texts = texts' := by
  induction h generalizing texts' with
  | done =>
    cases h'
    rfl
  | cause _ ih =>
    cases h' with
    | cause rest' => rw [ih rest']

/-! ### The chain comes to an end -/

-- by recursion on the errors, both sorts at once, since each can hold the other
mutual

/-- The causes that are shown are those that the error leads to. -/
theorem IoError.traces : ∀ e : IoError, Traces e.source? e.causes
  | .os _ | .bare _ | .custom _ _ => .done
  | .wrapped error => error.traces

/-- **The causes that are shown are those that the error leads to.** -/
theorem SocketError.traces : ∀ e : SocketError, Traces e.source? e.causes
  | .socketCreate source | .socketOption _ source | .bind _ source | .listen source
  | .accept source | .connect _ source | .send source | .recv source => .cause source.traces
  | .reconnect _ source => .cause source.traces
  | .invalidParam _ | .invalidAddress _ | .timeout | .wouldBlock | .closed | .notInitialized _
  | .alreadyConnected => .done

end

/-- The causes that are shown are the only ones. -/
theorem SocketError.traces_iff (e : SocketError) (texts : List String) :
    Traces e.source? texts ↔ texts = e.causes :=
  ⟨fun h => h.unique e.traces, fun h => h ▸ e.traces⟩

/-- An operation that an error was made of is told once, though it is there as an error of either
sort. -/
example : (SocketError.listen (.wrapped (.send (.bare .brokenPipe)))).causes =
    ["send failed: broken pipe", "broken pipe"] := rfl

/-! ### Each text ends in the next -/

/-- A text ends in another one. -/
def EndsIn (text later : String) : Prop := ∃ before, text = before ++ later

namespace EndsIn

theorem refl (text : String) : EndsIn text text := ⟨"", (String.empty_append).symm⟩

theorem trans {a b c : String} (h : EndsIn a b) (h' : EndsIn b c) : EndsIn a c := by
  obtain ⟨before, rfl⟩ := h
  obtain ⟨between, rfl⟩ := h'
  exact ⟨before ++ between, (String.append_assoc ..).symm⟩

instance : Std.Refl EndsIn := ⟨refl⟩

end EndsIn

/-- What an operation failed for stands at the end of its text. -/
theorem SocketError.message_endsIn {e : SocketError} {cause : Cause} (h : e.source? = some cause) :
    EndsIn e.message cause.message := by
  cases e <;> cases h <;> exact ⟨_, rfl⟩

/-- The text of a cause ends in the text of what caused it. -/
theorem Cause.message_endsIn {c cause : Cause} (h : c.source? = some cause) :
    EndsIn c.message cause.message := by
  match c, h with
  | .io (.wrapped error), h => exact error.message_endsIn h
  | .socket error, h => exact error.message_endsIn h

/-- **Each text of a chain ends in all that come after it**, if a text that stands before the chain
ends in the first one. -/
theorem Traces.endsIn {first : Option Cause} {texts : List String} (h : Traces first texts)
    {text : String} (hfirst : ∀ cause, first = some cause → EndsIn text cause.message) :
    (text :: texts).Pairwise EndsIn := by
  -- the text before the chain is the cause's own when its turn comes
  induction h generalizing text with
  | done => exact List.pairwise_singleton EndsIn text
  | @cause cause texts _ ih =>
    have hnext : EndsIn text cause.message := hfirst cause rfl
    have hrest : (cause.message :: texts).Pairwise EndsIn := ih fun _ h => cause.message_endsIn h
    refine List.pairwise_cons.2 ⟨fun later hlater => ?_, hrest⟩
    obtain rfl | hlater := List.mem_cons.1 hlater
    · exact hnext
    · exact hnext.trans (List.rel_of_pairwise_cons hrest hlater)

/-- The text of an error and those of its causes, each of which ends in all that come after it. -/
theorem SocketError.texts_endsIn (e : SocketError) : (e.message :: e.causes).Pairwise EndsIn :=
  e.traces.endsIn fun _ h => e.message_endsIn h

/-! ### Errors that go away by waiting -/

/-- Only an operation that ran out of time or would have to wait is worth trying again. -/
theorem SocketError.isTransient_iff (e : SocketError) :
    e.isTransient = true ↔ e = .timeout ∨ e = .wouldBlock := by
  cases e <;> simp [isTransient, kind, Kind.isTransient]

theorem SocketError.isTransient_eq_false_iff (e : SocketError) :
    e.isTransient = false ↔ ¬ (e = .timeout ∨ e = .wouldBlock) := by
  rw [← e.isTransient_iff, Bool.not_eq_true]

/-- What a caller who asks again and again makes of a result: there is no answer yet if time ran out
or the operation would have had to wait, and everything else is taken as it is. -/
structure Excused {α : Type} (result : Except SocketError α)
    (answer : Except SocketError (Option α)) : Prop where
  none_iff : answer = .ok none ↔ result = .error .timeout ∨ result = .error .wouldBlock
  some_iff : ∀ value, answer = .ok (some value) ↔ result = .ok value
  error_iff : ∀ e, answer = .error e ↔ result = .error e ∧ e ≠ .timeout ∧ e ≠ .wouldBlock

/-- **Nothing but what goes away by waiting is no answer yet.** -/
theorem transientAsNone_excused {α : Type} (result : Except SocketError α) :
    Excused result (transientAsNone result) := by
  cases result with
  | ok value => constructor <;> simp [transientAsNone, eq_comm]
  | error e =>
    rw [transientAsNone]
    by_cases he : e = .timeout ∨ e = .wouldBlock
    · rw [if_pos (e.isTransient_iff.2 he)]
      refine ⟨by simpa using he, by simp, fun e' => iff_of_false nofun ?_⟩
      rintro ⟨heq, htimeout, hwouldBlock⟩
      rw [Except.error.inj heq] at he
      exact he.elim htimeout hwouldBlock
    · rw [if_neg (mt e.isTransient_iff.1 he)]
      refine ⟨by simpa using he, by simp, fun e' => ?_⟩
      rw [Except.error.injEq, Except.error.injEq]
      constructor
      · rintro rfl
        exact ⟨rfl, not_or.1 he⟩
      · exact And.left

/-! ### Errors that are made of failed operations -/

/-- An error made of an operation that is worth trying again has one of two kinds, and no other
error that is made of an operation has one of them. -/
theorem SocketError.ioKind_iff (e : SocketError) :
    (e.ioKind = .timedOut ∨ e.ioKind = .wouldBlock) ↔ e.isTransient = true := by
  rw [ioKind, isTransient]
  cases e.kind <;> decide

/-- **Errors keep what they were caused by.**  An input or output error that is made of a failed
operation has the text of the operation, and to ask for its cause again and again yields the texts
that it yields for the operation, however often on the way one sort of error is made of the other.
It is an error of time or of waiting exactly if the operation is worth trying again, which is to be
seen without what caused it.  The texts are finitely many, and each of them ends in all that come
after it, hence in the last one. -/
theorem causes_kept (e : SocketError) :
    (IoError.wrapped e).message = e.message ∧
    (∀ texts, Traces (IoError.wrapped e).source? texts ↔ texts = e.causes) ∧
    (∀ texts, Traces e.source? texts ↔ texts = e.causes) ∧
    (((IoError.wrapped e).kind = .timedOut ∨ (IoError.wrapped e).kind = .wouldBlock) ↔
      e.isTransient = true) ∧
    (e.isTransient = true ↔ e = .timeout ∨ e = .wouldBlock) ∧
    (e.message :: e.causes).Pairwise EndsIn ∧
    ∀ text ∈ e.message :: e.causes,
      EndsIn text ((e.message :: e.causes).getLast (List.cons_ne_nil _ _)) := by
  have hmessage : (IoError.wrapped e).message = e.message := by rw [IoError.message]
  exact ⟨hmessage, e.traces_iff, e.traces_iff, e.ioKind_iff, e.isTransient_iff, e.texts_endsIn,
    fun text htext => e.texts_endsIn.rel_getLast htext⟩

end ProfiledSocket
