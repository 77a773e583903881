/-
What transfers say to the kernel.

A transfer makes one call, again and again as long as signals interrupt it, and a receive may wait
before that.  All that comes of a transfer follows from the checks, from how the wait ended and from
the first answer that is no interruption.

* `Channel.Sends` — the talks of a send, and what comes of it;
* `Channel.Waits` — the talks of a wait for data, and how it ends;
* `Channel.Receives` — the talks of a receive, and what comes of it;
* **`Channel.send_talks`**, **`Channel.receive_talks`** — there are no others.

Design notes: the checks and the meaning of an answer are functions that have no talk with the
kernel, and they are left as they are here.
-/
import ProfiledSocket.Proofs.Calls

namespace ProfiledSocket

variable {σ : Type} [Kernel σ]

/-- The talk of a call that signals interrupt `n` times before it is answered. -/
def repeated (call : Call) (n : Nat) (reply : Reply call) : Talk :=
  List.replicate n ⟨call, .error .interrupted⟩ ++ [⟨call, reply⟩]

namespace Channel

variable {C : Type} [Channel C]

/-! ### Sending -/

/-- The talk of a send, and what comes of it. -/
inductive Sends (c : C) (data : List UInt8) (destination : Option Endpoint) :
    Talk → Except SocketError Nat × C → Prop
  | refused {e : SocketError} (h : checkSend c data destination = .error e) :
      Sends c data destination [] (.error e, c)
  | answered {fd : Descriptor} (h : checkSend c data destination = .ok fd) (n : Nat)
      (reply : Reply (.send fd data destination true)) (hreply : reply ≠ .error .interrupted) :
      Sends c data destination (repeated (.send fd data destination true) n reply)
        (afterSend c reply)

/-- **A send repeats one call**, and what comes of it is up to the first answer that counts. -/
theorem send_talks (c : C) (data : List UInt8) (destination : Option Endpoint) :
    (send c data destination : Act σ _).Ensures (Sends c data destination) := by
  rw [send]
  split
  · rename_i e hcheck
    exact .pure (.refused hcheck)
  · rename_i fd hcheck
    refine .bind (.askUninterrupted fun n reply hreply => ?_)
    refine .bind (.mono (noteSend_makes c fd _ reply).silent fun talk _ htalk => ?_)
    obtain rfl : talk = [] := htalk
    refine .pure ?_
    rw [List.append_nil, List.append_nil]
    exact .answered hcheck n reply hreply

/-! ### Receiving -/

/-- The talk of a wait for data, and how it ends. -/
inductive Waits (fd : Descriptor) (timeout : Timeout) : Talk → Except SocketError Unit → Prop
  | skipped (h : timeout.millis = 0) : Waits fd timeout [] (.ok ())
  | ready (h : timeout.millis ≠ 0) {polls : Talk}
      (hpolled : Polled fd .read timeout.millis timeout.millis polls (.ok .ready)) :
      Waits fd timeout polls (.ok ())
  | ranOut (h : timeout.millis ≠ 0) {polls : Talk}
      (hpolled : Polled fd .read timeout.millis timeout.millis polls (.ok .timedOut)) :
      Waits fd timeout polls (.error .timeout)
  | failed (h : timeout.millis ≠ 0) {polls : Talk} {e : IoError}
      (hpolled : Polled fd .read timeout.millis timeout.millis polls (.error e)) :
      Waits fd timeout polls (.error (.recv e))

theorem awaitReadable_talks (fd : Descriptor) (timeout : Timeout) :
    (awaitReadable fd timeout : Act σ _).Ensures (Waits fd timeout) := by
  rw [awaitReadable]
  split
  · rename_i hzero
    exact .pure (.skipped hzero)
  · rename_i htime
    refine .bind (.waitReady fun polls readiness hpolled => ?_)
    cases readiness with
    | error e => exact .pure (by simpa using .failed htime hpolled)
    | ok reached =>
      cases reached with
      | ready => exact .pure (by simpa using .ready htime hpolled)
      | timedOut => exact .pure (by simpa using .ranOut htime hpolled)

/-- A wait for data polls for it, and makes no other call. -/
theorem Waits.polls {fd : Descriptor} {timeout : Timeout} {talk : Talk}
    {result : Except SocketError Unit} (h : Waits fd timeout talk result) :
    ∀ e ∈ talk, ∃ left, e.call = .poll fd (some .read) left := by
  cases h with
  | skipped _ => simp
  | ready _ hpolled => exact hpolled.polls
  | ranOut _ hpolled => exact hpolled.polls
  | failed _ hpolled => exact hpolled.polls

/-- The talk of a receive, and what comes of it. -/
inductive Receives {α : Type} (c : C) (capacity : Nat) (timeout : Timeout)
    (view : Received capacity → Except IoError α) : Talk → Except SocketError α × C → Prop
  | refused {e : SocketError} (h : readyDescriptor c .receiving capacity = .error e) :
      Receives c capacity timeout view [] (.error e, c)
  | unready {fd : Descriptor} (h : readyDescriptor c .receiving capacity = .ok fd) {polls : Talk}
      {e : SocketError} (hwait : Waits fd timeout polls (.error e)) :
      Receives c capacity timeout view polls (.error e, c)
  | answered {fd : Descriptor} (h : readyDescriptor c .receiving capacity = .ok fd) {polls : Talk}
      (hwait : Waits fd timeout polls (.ok ())) (n : Nat) (reply : Reply (.receive fd capacity))
      (hreply : reply ≠ .error .interrupted) :
      Receives c capacity timeout view (polls ++ repeated (.receive fd capacity) n reply)
        (afterReceive c (viewed view reply))

/-- **A receive waits and then repeats one call**, and what comes of it is up to the first answer
that counts. -/
theorem receive_talks {α : Type} (c : C) (capacity : Nat) (timeout : Timeout)
    (view : Received capacity → Except IoError α) :
    (receive c capacity timeout view : Act σ _).Ensures (Receives c capacity timeout view) := by
  rw [receive]
  split
  · rename_i e hcheck
    exact .pure (.refused hcheck)
  · rename_i fd hcheck
    refine .bind (.mono (awaitReadable_talks fd timeout) fun polls waited hwait => ?_)
    cases waited with
    | error e =>
      refine .pure ?_
      rw [List.append_nil]
      exact .unready hcheck hwait
    | ok _ =>
      refine .bind (.askUninterrupted fun n reply hreply => ?_)
      refine .bind (.mono (noteReceive_makes c fd _).silent fun more _ hmore => ?_)
      obtain rfl : more = [] := hmore
      refine .pure ?_
      rw [List.append_nil, List.append_nil]
      exact .answered hcheck hwait n reply hreply

end Channel

end ProfiledSocket
