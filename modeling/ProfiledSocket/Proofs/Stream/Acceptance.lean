/-
How connections are accepted.

A listener waits for a connection, unless it has no time for that, and then asks for one once.  The
wait, the answer and what is done to a new descriptor can all go wrong, and in each case it is
settled what the caller is told and what becomes of the descriptor.  The listener stays as it is,
so that connections can be accepted in a loop.

* `Stream.Answered` — what comes of the answer to the one call that asks for a connection;
* `Stream.Accepts` — the talks in which a connection is accepted, and what comes of them;
* **`Stream.accept_talks`** — there are no others;
* `Stream.Settled` — what a descriptor that was handed out has come to;
* `Stream.acceptEach`, `Stream.Rounds` — a loop that accepts connections, round by round;
* **`Stream.run_acceptance`** — what a listener does with one connection, and with any number.

Design notes: a talk and its outcome are described together, one case for each way through the
calls, and everything else is read off from that.  In a loop an error that goes away by waiting is
no result; no descriptor has been handed out where there is none.
-/
import Mathlib
import ProfiledSocket.Proofs.Cause
import ProfiledSocket.Proofs.Deadline
import ProfiledSocket.Proofs.Ownership
import ProfiledSocket.Proofs.Stream.Attempt
import ProfiledSocket.Proofs.Stream.Coherent

namespace ProfiledSocket

variable {σ : Type} [Kernel σ]

/-! ### Openings and closings -/

namespace Ledger

/-- The descriptors that were opened. -/
def opened (ledger : Ledger) : List Descriptor :=
  ledger.filterMap fun
    | .opened fd => some fd
    | .closed _ => none

/-- The descriptors that were closed. -/
def closed (ledger : Ledger) : List Descriptor :=
  ledger.filterMap fun
    | .opened _ => none
    | .closed fd => some fd

theorem opened_append (ledger more : Ledger) :
    (ledger ++ more).opened = ledger.opened ++ more.opened := List.filterMap_append

theorem closed_append (ledger more : Ledger) :
    (ledger ++ more).closed = ledger.closed ++ more.closed := List.filterMap_append

end Ledger

/-! ### Asking for a connection -/

/-- Whether an exchange asks for a connection. -/
def Exchange.isAccept : Exchange → Bool
  | ⟨.accept _, _⟩ => true
  | _ => false

theorem Exchange.isAccept_eq_false {e : Exchange} (h : ∀ fd, e.call ≠ .accept fd) :
    e.isAccept = false := by
  obtain ⟨call, reply⟩ := e
  cases call with
  | accept fd => exact absurd rfl (h fd)
  | _ => rfl

/-- The two answers after which it is worth asking again. -/
theorem Errno.nobody_iff (e : Errno) :
    e.kind = .wouldBlock ∨ e.kind = .interrupted ↔ e = .again ∨ e = .interrupted := by
  rw [kind_eq_wouldBlock_iff, kind_eq_interrupted_iff]

namespace Stream

/-- What comes of the answer to a call that asks for a connection, with the talk that follows. -/
inductive Answered (fd : Descriptor) (nonblocking : Bool) :
    Reply (.accept fd) → Talk → Except SocketError Peer → Prop
  | nobody {e : Errno} (h : e = .again ∨ e = .interrupted) :
      Answered fd nonblocking (.error e) [] (.error .timeout)
  | refused {e : Errno} (h : ¬ (e = .again ∨ e = .interrupted)) :
      Answered fd nonblocking (.error e) [] (.error (.accept (.os e)))
  /-- The descriptor should not wait, and cannot be kept from it. -/
  | unfit (hmode : nonblocking = true) {accepted : Descriptor} {address : Option Endpoint}
      {e : Errno} (closing : Reply (.close accepted)) :
      Answered fd nonblocking (.ok (accepted, address))
        [⟨.setNonblocking accepted true, .error e⟩, ⟨.close accepted, closing⟩]
        (.error (.socketOption "O_NONBLOCK" (.os e)))
  | foreign {accepted : Descriptor} (closing : Reply (.close accepted)) :
      Answered fd nonblocking (.ok (accepted, none))
        (entering accepted (!nonblocking) ++ [⟨.close accepted, closing⟩])
        (.error (.accept (.custom .invalidData "peer is not IPv4")))
  | taken {accepted : Descriptor} {address : Endpoint} :
      Answered fd nonblocking (.ok (accepted, some address)) (entering accepted (!nonblocking))
        (.ok (.new accepted address))

/-- The talk of a wait for a connection, and how it ends. -/
inductive Awaits (fd : Descriptor) (timeout : Timeout) : Talk → Except SocketError Unit → Prop
  | skipped (h : timeout.millis = 0) : Awaits fd timeout [] (.ok ())
  | ready (h : timeout.millis ≠ 0) {polls : Talk}
      (hpolled : Polled fd .read timeout.millis timeout.millis polls (.ok .ready)) :
      Awaits fd timeout polls (.ok ())
  | ranOut (h : timeout.millis ≠ 0) {polls : Talk}
      (hpolled : Polled fd .read timeout.millis timeout.millis polls (.ok .timedOut)) :
      Awaits fd timeout polls (.error .timeout)
  | unwatched (h : timeout.millis ≠ 0) {polls : Talk} {e : IoError}
      (hpolled : Polled fd .read timeout.millis timeout.millis polls (.error e)) :
      Awaits fd timeout polls (.error (.accept e))

/-- The talk in which a connection is accepted, and what comes of it. -/
inductive Accepts (fd : Descriptor) (nonblocking : Bool) (timeout : Timeout) :
    Talk → Except SocketError Peer → Prop
  | unready {polls : Talk} {e : SocketError} (hwait : Awaits fd timeout polls (.error e)) :
      Accepts fd nonblocking timeout polls (.error e)
  | asked {polls : Talk} (hwait : Awaits fd timeout polls (.ok ())) (reply : Reply (.accept fd))
      {rest : Talk} {result : Except SocketError Peer}
      (hanswered : Answered fd nonblocking reply rest result) :
      Accepts fd nonblocking timeout (polls ++ ⟨.accept fd, reply⟩ :: rest) result

theorem awaitConnection_talks (fd : Descriptor) (timeout : Timeout) :
    (awaitConnection fd timeout : Act σ _).Ensures (Awaits fd timeout) := by
  rw [awaitConnection]
  split
  · rename_i hzero
    exact .pure (.skipped hzero)
  · rename_i htime
    refine .bind (.waitReady fun polls readiness hpolled => ?_)
    cases readiness with
    | error e => exact .pure (by simpa using .unwatched htime hpolled)
    | ok reached =>
      cases reached with
      | ready => exact .pure (by simpa using .ready htime hpolled)
      | timedOut => exact .pure (by simpa using .ranOut htime hpolled)

theorem adoptMode_talks (fd : Descriptor) (nonblocking : Bool) :
    (if nonblocking then makeNonblocking fd else pure (.ok ()) : Act σ _).Ensures
      fun talk result => (talk = entering fd (!nonblocking) ∧ result = .ok ()) ∨
        ∃ e, nonblocking = true ∧ talk = [⟨.setNonblocking fd true, .error e⟩] ∧
          result = .error (.socketOption "O_NONBLOCK" (.os e)) := by
  have h := enterNonblocking_talks (σ := σ) fd (!nonblocking)
  cases nonblocking with
  | true => exact h.mono fun _ _ => Or.imp_right fun ⟨e, _, hrest⟩ => ⟨e, rfl, hrest⟩
  | false => exact h.mono fun _ _ => Or.imp_right fun ⟨e, hmode, _⟩ => absurd hmode nofun

theorem adopt_talks (fd accepted : Descriptor) (address : Option Endpoint) (nonblocking : Bool) :
    (adopt accepted address nonblocking : Act σ _).Ensures
      (Answered fd nonblocking (.ok (accepted, address))) := by
  refine .bind ((adoptMode_talks accepted nonblocking).mono fun talk mode hmode => ?_)
  rcases hmode with ⟨rfl, rfl⟩ | ⟨e, hmode, rfl, rfl⟩
  · cases address with
    | none =>
      refine .bind (.bind (.ask fun closing => .pure (.pure ?_)))
      simpa using .foreign closing
    | some address => exact .bind (.note (.pure (by simpa using .taken)))
  · exact .bind (.bind (.ask fun closing => .pure (.pure (.unfit hmode closing))))

/-- **A listener accepts a connection in one of the listed ways**, whatever the kernel answers. -/
theorem accept_talks {s : Stream} {fd : Descriptor} (hcheck : s.checkAccept = .ok fd)
    (timeout : Timeout) : (s.accept timeout : Act σ _).Ensures
      (Accepts fd s.profile.wantsNonblocking timeout) := by
  rw [accept, hcheck]
  refine .bind ((awaitConnection_talks fd timeout).mono fun polls waited hwait => ?_)
  cases waited with
  | error e => exact .pure (by simpa using .unready hwait)
  | ok _ =>
    refine .bind (.ask fun reply => ?_)
    cases reply with
    | ok pair =>
      exact (adopt_talks fd pair.1 pair.2 _).mono fun rest result hanswered =>
        .asked hwait (.ok pair) hanswered
    | error e =>
      dsimp only
      split
      · rename_i hnobody
        exact .pure (.asked hwait _ (.nobody (e.nobody_iff.1 hnobody)))
      · rename_i hrefused
        exact .pure (.asked hwait _ (.refused fun h => hrefused (e.nobody_iff.2 h)))

/-! ### Reading off an outcome -/

section Outcomes

variable {fd : Descriptor} {nonblocking : Bool} {timeout : Timeout} {talk : Talk}
  {result : Except SocketError Peer}

theorem Awaits.polls {result : Except SocketError Unit} (h : Awaits fd timeout talk result) :
    ∀ e ∈ talk, ∃ left, e.call = .poll fd (some .read) left := by
  cases h with
  | skipped _ => simp
  | ready _ hpolled => exact hpolled.polls
  | ranOut _ hpolled => exact hpolled.polls
  | unwatched _ hpolled => exact hpolled.polls

/-- There is a poll just if there is time for it. -/
theorem Awaits.exists_poll_iff {result : Except SocketError Unit}
    (h : Awaits fd timeout talk result) :
    (∃ left reply, ⟨.poll fd (some .read) left, reply⟩ ∈ talk) ↔ timeout.millis ≠ 0 := by
  cases h with
  | skipped hzero => simp [hzero]
  | ready htime hpolled => exact ⟨fun _ => htime, fun _ => ⟨_, hpolled.exists_first⟩⟩
  | ranOut htime hpolled => exact ⟨fun _ => htime, fun _ => ⟨_, hpolled.exists_first⟩⟩
  | unwatched htime hpolled => exact ⟨fun _ => htime, fun _ => ⟨_, hpolled.exists_first⟩⟩

theorem entering_calls (accepted : Descriptor) (always : Bool) :
    ∀ e ∈ entering accepted always, e.call = .setNonblocking accepted true := by
  cases always <;> simp [entering]

/-- No second connection is asked for, and nothing is waited for any more. -/
theorem Answered.calls {reply : Reply (.accept fd)}
    (h : Answered fd nonblocking reply talk result) :
    ∀ e ∈ talk, ∃ accepted, e.call = .setNonblocking accepted true ∨ e.call = .close accepted := by
  cases h with
  | nobody _ => simp
  | refused _ => simp
  | @unfit _ accepted _ _ _ =>
    rw [List.forall_mem_cons, List.forall_mem_singleton]
    exact ⟨⟨accepted, .inl rfl⟩, accepted, .inr rfl⟩
  | @foreign accepted closing =>
    rw [List.forall_mem_append, List.forall_mem_singleton]
    exact ⟨fun e he => ⟨accepted, .inl (entering_calls _ _ e he)⟩, accepted, .inr rfl⟩
  | @taken accepted _ => exact fun e he => ⟨accepted, .inl (entering_calls _ _ e he)⟩

/-- A listener waits unless it has no time for that. -/
theorem Accepts.waits_iff (h : Accepts fd nonblocking timeout talk result) :
    (∃ left reply, ⟨.poll fd (some .read) left, reply⟩ ∈ talk) ↔
      ¬ ∃ d, timeout = some d ∧ d.isZero = true := by
  rw [← timeout.millis_eq_zero_iff]
  cases h with
  | unready hwait => exact hwait.exists_poll_iff
  | @asked polls hwait reply rest _ hanswered =>
    -- what comes after the wait is no poll
    have hrest (left : Int32) (polled : Reply (.poll fd (some .read) left)) :
        ⟨.poll fd (some .read) left, polled⟩ ∉ rest := by
      intro hmem
      obtain ⟨accepted, hcall | hcall⟩ := hanswered.calls _ hmem <;> cases hcall
    simpa [hrest] using hwait.exists_poll_iff

/-- Other calls ask for no connection. -/
theorem Awaits.countP_isAccept {result : Except SocketError Unit}
    (h : Awaits fd timeout talk result) : talk.countP Exchange.isAccept = 0 := by
  refine List.countP_eq_zero.2 fun e he => ?_
  obtain ⟨left, hcall⟩ := h.polls e he
  simp [Exchange.isAccept_eq_false, hcall]

theorem Answered.countP_isAccept {reply : Reply (.accept fd)}
    (h : Answered fd nonblocking reply talk result) : talk.countP Exchange.isAccept = 0 := by
  refine List.countP_eq_zero.2 fun e he => ?_
  obtain ⟨accepted, hcall | hcall⟩ := h.calls e he <;> simp [Exchange.isAccept_eq_false, hcall]

/-- A connection is asked for once at most. -/
theorem Accepts.countP_isAccept_le (h : Accepts fd nonblocking timeout talk result) :
    talk.countP Exchange.isAccept ≤ 1 := by
  cases h with
  | unready hwait =>
    rw [hwait.countP_isAccept]
    exact Nat.zero_le 1
  | asked hwait reply hanswered =>
    rw [List.countP_append, List.countP_cons, hwait.countP_isAccept, hanswered.countP_isAccept]
    split <;> omega

/-- The answer to the one call that asks for a connection is the only one. -/
theorem Answered.reply_eq {polls rest : Talk} (hwait : Awaits fd timeout polls (.ok ()))
    {reply reply' : Reply (.accept fd)} (hanswered : Answered fd nonblocking reply rest result)
    (h : ⟨.accept fd, reply'⟩ ∈ polls ++ ⟨.accept fd, reply⟩ :: rest) : reply' = reply := by
  rw [List.mem_append, List.mem_cons] at h
  rcases h with hmem | heq | hmem
  · obtain ⟨left, hcall⟩ := hwait.polls _ hmem
    cases hcall
  · cases heq
    rfl
  · obtain ⟨accepted, hcall | hcall⟩ := hanswered.calls _ hmem <;> cases hcall

/-- A limit of time is reported if the wait ran out, or if nobody was there. -/
theorem Accepts.timeout_iff (h : Accepts fd nonblocking timeout talk result) :
    result = .error .timeout ↔
      Polled fd .read timeout.millis timeout.millis talk (.ok .timedOut) ∨
        ∃ e, (e = .again ∨ e = .interrupted) ∧ ⟨.accept fd, .error e⟩ ∈ talk := by
  cases h with
  | unready hwait =>
    cases hwait with
    | ranOut _ hpolled => exact iff_of_true rfl (.inl hpolled)
    | unwatched _ hpolled =>
      refine iff_of_false nofun ?_
      rintro (hranOut | ⟨e, -, hmem⟩)
      · cases hpolled.result_eq hranOut
      · obtain ⟨left, hcall⟩ := hpolled.polls _ hmem
        cases hcall
  | asked hwait reply hanswered =>
    constructor
    · intro hresult
      cases hanswered with
      | nobody he => exact .inr ⟨_, he, by simp⟩
      | refused _ => cases hresult
      | unfit _ _ => cases hresult
      | foreign _ => cases hresult
      | taken => cases hresult
    · rintro (hranOut | ⟨e, he, hmem⟩)
      · obtain ⟨left, hcall⟩ := hranOut.polls ⟨.accept fd, reply⟩ (by simp)
        cases hcall
      · obtain rfl := Answered.reply_eq hwait hanswered hmem
        cases hanswered with
        | nobody _ => rfl
        | refused hne => exact absurd he hne

/-- An accepted connection is open and new, and has the address that the kernel gave. -/
theorem Accepts.of_ok {peer : Peer} (h : Accepts fd nonblocking timeout talk (.ok peer)) :
    peer.isOpen = true ∧ peer.traffic = .zero ∧ ∃ accepted, peer.descriptor = some accepted ∧
      ⟨.accept fd, .ok (accepted, some peer.address)⟩ ∈ talk := by
  cases h with
  | asked hwait reply hanswered =>
    cases hanswered with
    | @taken accepted address => exact ⟨rfl, rfl, accepted, rfl, by simp [Peer.new]⟩

/-! ### What becomes of descriptors -/

/-- What has become of the descriptors that were opened, for a caller with such a result: there is
none, it belongs to the connection, or it has been closed because of an error that does not go away
by waiting. -/
inductive Settled : Ledger → Except SocketError Peer → Prop
  | nothing {e : SocketError} : Settled [] (.error e)
  | kept {accepted : Descriptor} {peer : Peer} (h : peer.descriptor = some accepted) :
      Settled [.opened accepted] (.ok peer)
  | dropped {accepted : Descriptor} {e : SocketError} (h : e ≠ .timeout ∧ e ≠ .wouldBlock) :
      Settled [.opened accepted, .closed accepted] (.error e)

theorem Awaits.ledger_eq_nil {result : Except SocketError Unit}
    (h : Awaits fd timeout talk result) : talk.ledger = [] := by
  refine Talk.ledger_eq_nil fun e he => ?_
  obtain ⟨left, hcall⟩ := h.polls e he
  rw [hcall]
  exact ⟨fd, rfl⟩

theorem entering_ledger (accepted : Descriptor) (always : Bool) :
    Talk.ledger (entering accepted always) = [] := by
  cases always <;> rfl

theorem Accepts.settled (h : Accepts fd nonblocking timeout talk result) :
    Settled talk.ledger result := by
  cases h with
  | unready hwait =>
    rw [hwait.ledger_eq_nil]
    exact .nothing
  | @asked polls hwait reply rest _ hanswered =>
    have hledger : Talk.ledger (polls ++ ⟨.accept fd, reply⟩ :: rest) =
        Talk.ledger [⟨.accept fd, reply⟩] ++ rest.ledger := by
      rw [Talk.ledger_append, hwait.ledger_eq_nil, List.nil_append, ← Talk.ledger_append]
      rfl
    rw [hledger]
    cases hanswered with
    | nobody _ => exact .nothing
    | refused _ => exact .nothing
    | unfit _ closing => exact .dropped ⟨nofun, nofun⟩
    | foreign closing =>
      rw [Talk.ledger_append, entering_ledger]
      exact .dropped ⟨nofun, nofun⟩
    | taken =>
      rw [entering_ledger]
      exact .kept rfl

end Outcomes

/-- All there is to say about accepting one connection. -/
structure Acceptance (fd : Descriptor) (nonblocking : Bool) (timeout : Timeout) (talk : Talk)
    (result : Except SocketError Peer) : Prop where
  accepts : Accepts fd nonblocking timeout talk result
  /-- There is a wait unless there is no time for it. -/
  waits_iff : (∃ left reply, ⟨.poll fd (some .read) left, reply⟩ ∈ talk) ↔
    ¬ ∃ d, timeout = some d ∧ d.isZero = true
  /-- A connection is asked for once at most. -/
  asks_once : talk.countP Exchange.isAccept ≤ 1
  /-- A limit of time is reported if the wait ran out, or if nobody was there. -/
  timeout_iff : result = .error .timeout ↔
    Polled fd .read timeout.millis timeout.millis talk (.ok .timedOut) ∨
      ∃ e, (e = .again ∨ e = .interrupted) ∧ ⟨.accept fd, .error e⟩ ∈ talk
  /-- A connection is open and new, and has the address that the kernel gave. -/
  of_ok : ∀ peer, result = .ok peer → peer.isOpen = true ∧ peer.traffic = .zero ∧
    ∃ accepted, peer.descriptor = some accepted ∧
      ⟨.accept fd, .ok (accepted, some peer.address)⟩ ∈ talk
  /-- A descriptor that was handed out is returned or closed. -/
  settled : Settled talk.ledger result

theorem Accepts.acceptance {fd : Descriptor} {nonblocking : Bool} {timeout : Timeout} {talk : Talk}
    {result : Except SocketError Peer} (h : Accepts fd nonblocking timeout talk result) :
    Acceptance fd nonblocking timeout talk result where
  accepts := h
  waits_iff := h.waits_iff
  asks_once := h.countP_isAccept_le
  timeout_iff := h.timeout_iff
  of_ok := by
    rintro peer rfl
    exact h.of_ok
  settled := h.settled

/-! ### Accepting in a loop -/

/-- Accepts one connection after the other, each within a limit of its own.  An error that goes
away by waiting is no result. -/
def acceptEach (s : Stream) :
    List Timeout → Act σ (List (Except SocketError (Option Peer)) × Stream)
  | [] => return ([], s)
  | timeout :: timeouts => do
    let (result, s) ← s.perform (.accept timeout)
    let (results, s) ← s.acceptEach timeouts
    return (transientAsNone result :: results, s)

/-- The talk of a loop that accepts connections, round by round, and its answers: nothing from a
round in which accepting timed out, the connection from one in which there was one, and the error
from every other. -/
inductive Rounds (fd : Descriptor) (nonblocking : Bool) :
    List Timeout → Talk → List (Except SocketError (Option Peer)) → Prop
  | done : Rounds fd nonblocking [] [] []
  | round {timeout : Timeout} {timeouts : List Timeout} {talk more : Talk}
      {result : Except SocketError Peer} {answer : Except SocketError (Option Peer)}
      {answers : List (Except SocketError (Option Peer))}
      (h : Acceptance fd nonblocking timeout talk result) (hanswer : Excused result answer)
      (hrest : Rounds fd nonblocking timeouts more answers) :
      Rounds fd nonblocking (timeout :: timeouts) (talk ++ more) (answer :: answers)

/-- The descriptors of the connections among the answers. -/
def returned (answers : List (Except SocketError (Option Peer))) : List Descriptor :=
  answers.filterMap fun
    | .ok (some peer) => peer.descriptor
    | _ => none

/-- An error is no connection, whether it is excused or not. -/
theorem returned_of_error {e : SocketError} {answer : Except SocketError (Option Peer)}
    (h : Excused (.error e) answer) : returned [answer] = [] := by
  match answer with
  | .ok none => rfl
  | .ok (some peer) => cases (h.some_iff peer).1 rfl
  | .error _ => rfl

/-- A descriptor that was handed out is returned, or else it is closed. -/
theorem Settled.opened_eq {ledger : Ledger} {result : Except SocketError Peer}
    {answer : Except SocketError (Option Peer)} (h : Settled ledger result)
    (hanswer : Excused result answer) :
    ledger.opened = returned [answer] ++ ledger.closed := by
  cases h with
  | nothing =>
    rw [returned_of_error hanswer]
    rfl
  | @kept accepted peer hfd =>
    obtain rfl : answer = .ok (some peer) := (hanswer.some_iff peer).2 rfl
    simp [Ledger.opened, Ledger.closed, returned, hfd]
  | dropped _ =>
    rw [returned_of_error hanswer]
    rfl

theorem Rounds.opened_perm {fd : Descriptor} {nonblocking : Bool} {timeouts : List Timeout}
    {talk : Talk} {answers : List (Except SocketError (Option Peer))}
    (h : Rounds fd nonblocking timeouts talk answers) :
    talk.ledger.opened.Perm (returned answers ++ talk.ledger.closed) := by
  induction h with
  | done => exact .nil
  | @round _ _ talk more result answer answers h hanswer _ ih =>
    have hreturned : returned (answer :: answers) = returned [answer] ++ returned answers :=
      List.filterMap_append (l := [answer])
    rw [Talk.ledger_append, Ledger.opened_append, Ledger.closed_append,
      h.settled.opened_eq hanswer, hreturned, List.append_assoc, List.append_assoc]
    -- what the first round closed goes past the connections of the others
    refine .append_left _ ((ih.append_left _).trans ?_)
    rw [← List.append_assoc, ← List.append_assoc]
    exact List.perm_append_comm.append_right _

/-- A loop accepts connections round by round, and leaves the listener as it is. -/
theorem acceptEach_rounds {s : Stream} {fd : Descriptor} (hcheck : s.checkAccept = .ok fd)
    (timeouts : List Timeout) : (s.acceptEach timeouts : Act σ _).Ensures fun talk out =>
      out.2 = s ∧ Rounds fd s.profile.wantsNonblocking timeouts talk out.1 := by
  induction timeouts with
  | nil => exact .pure ⟨rfl, .done⟩
  | cons timeout timeouts ih =>
    refine .bind (.bind ((accept_talks hcheck timeout).mono fun talk result haccepts => .pure ?_))
    refine .bind (ih.mono fun more out hout => .pure ?_)
    obtain ⟨hs, hrounds⟩ := hout
    rw [List.append_nil, List.append_nil]
    exact ⟨hs, .round haccepts.acceptance (transientAsNone_excused result) hrounds⟩

/-! ### Listeners -/

/-- A listener can be asked for a connection. -/
theorem checkAccept_of_listening {history : History Stream} {s : Stream} (h : Run history s)
    (hstate : s.state = .listening) :
    ∃ fd, s.descriptor = some fd ∧ s.checkAccept = .ok fd := by
  cases hfd : s.descriptor with
  | none =>
    have hclosed := ((run_consistent h).of_closed hfd).1
    rw [hstate] at hclosed
    cases hclosed
  | some fd =>
    have hheld : Channel.held s = .ok fd := by
      rw [Channel.held, show Channel.descriptor s = some fd from hfd]
    refine ⟨fd, rfl, ?_⟩
    rw [checkAccept, if_neg (not_not.2 hstate)]
    exact hheld

/-- **What a listener does.**  Whatever has been done to it before, and whatever the kernel
answers, it accepts one connection as its talk with the kernel says, and stays as it is.  So it
can accept connections in a loop, in which a round that timed out yields nothing, and each
descriptor that is handed out to it is returned once or closed. -/
theorem run_acceptance {history : History Stream} {s : Stream} (h : Run history s)
    (hstate : s.state = .listening) :
    ∃ fd, s.descriptor = some fd ∧
      (∀ {σ : Type} [Kernel σ] (timeout : Timeout),
        (s.perform (.accept timeout) : Act σ _).Ensures fun talk out => out.2 = s ∧
          Acceptance fd s.profile.wantsNonblocking timeout talk out.1) ∧
      ∀ {σ : Type} [Kernel σ] (timeouts : List Timeout),
        (s.acceptEach timeouts : Act σ _).Ensures fun talk out => out.2 = s ∧
          Rounds fd s.profile.wantsNonblocking timeouts talk out.1 ∧
          talk.ledger.opened.Perm (returned out.1 ++ talk.ledger.closed) := by
  obtain ⟨fd, hfd, hcheck⟩ := checkAccept_of_listening h hstate
  refine ⟨fd, hfd, fun timeout => ?_, fun timeouts => ?_⟩
  · refine .bind ((accept_talks hcheck timeout).mono fun talk result haccepts => .pure ?_)
    rw [List.append_nil]
    exact ⟨rfl, haccepts.acceptance⟩
  · exact (acceptEach_rounds hcheck timeouts).mono fun talk out hout =>
      ⟨hout.1, hout.2, hout.2.opened_perm⟩

/-- A stream that a friendly kernel lets take connections. -/
def listener : Stream :=
  { ofDescriptor ⟨3⟩ .conservative with
    localAddress := some ⟨⟨127, 0, 0, 1⟩, 40001⟩
    isBound := true
    state := .listening
    backlog := some 5 }

/-- A kernel that hands out connections only after a few calls have been in vain. -/
structure Sparse where
  inVain : Nat

instance : Kernel Sparse where
  answer k call :=
    match call, k with
    | .poll .., ⟨0⟩ => (.ok (some ⟨true, true, false, false, false⟩), ⟨0⟩)
    | .poll .., ⟨n + 1⟩ => (.ok none, ⟨n⟩)
    | .accept _, ⟨0⟩ => (.ok (⟨4⟩, some ⟨⟨127, 0, 0, 1⟩, 40000⟩), ⟨0⟩)
    | .accept _, ⟨n + 1⟩ => (.error .again, ⟨n⟩)
    | _, k => (.error .invalidArgument, k)
  now _ := 0
  realtime _ := none
  patience _ := 0
  patience_lt k call h := by
    obtain ⟨_ | n⟩ := k <;> cases call <;>
      simp [Errno.invalidArgument, Errno.again, Errno.interrupted] at h

/-- The world of such a kernel. -/
def sparse (inVain : Nat) : World Sparse := ⟨⟨inVain⟩, []⟩

/-- Nobody is there in the first round, which does not wait, and the wait of the second one runs
out.  The third one has a connection. -/
theorem run_acceptance_listener :
    let timeouts := [some (.ofMicros 0), some (.ofMicros 5000), none]
    let peer := Peer.new ⟨4⟩ ⟨⟨127, 0, 0, 1⟩, 40000⟩
    let nobody := listener.perform (.accept (some (.ofMicros 0))) (sparse 2).recorded
    let somebody := listener.perform (.accept none) (sparse 0).recorded
    let each := listener.acceptEach timeouts (sparse 2).recorded
    (∃ history, Run history listener) ∧ listener.state = .listening ∧
      nobody.1.1 = .error .timeout ∧
      somebody.1.1 = .ok peer ∧ peer.isOpen = true ∧ peer.traffic = .zero ∧
      each.1.1 = [.ok none, .ok none, .ok (some peer)] ∧ each.1.2 = listener ∧
      each.2.kernel.talk.ledger.opened.Perm [⟨4⟩] := by
  intro timeouts peer nobody somebody each
  have hnew : Run [] (ofDescriptor ⟨3⟩ .conservative) :=
    .new ⟨Granting, inferInstance, World.granting false [], .conservative, rfl⟩
  have hrun : Run _ listener :=
    .step (.step hnew (Operation.bind "127.0.0.1" 7) (World.granting false []))
      (Operation.listen 5) (World.granting false [])
  obtain ⟨fd, hfd, haccept, heach⟩ := run_acceptance hrun rfl
  obtain rfl : ⟨3⟩ = fd := Option.some.inj hfd
  obtain ⟨-, hnobody⟩ := (haccept (some (.ofMicros 0))).recorded (sparse 2)
  obtain ⟨-, hsomebody⟩ := (haccept none).recorded (sparse 0)
  obtain ⟨hstays, -, hperm⟩ := (heach timeouts).recorded (sparse 2)
  -- what is computed: an answer, the connection, what the rounds yield, and that nothing is closed
  have hagain : (⟨.accept ⟨3⟩, .error .again⟩ : Exchange) ∈ nobody.2.kernel.talk := by
    rw [show nobody.2.kernel.talk = [⟨.accept ⟨3⟩, .error .again⟩] by cbv]
    exact List.mem_singleton_self _
  have hpeer : somebody.1.1 = .ok peer := by cbv
  have hanswers : each.1.1 = [.ok none, .ok none, .ok (some peer)] := by cbv
  have hclosed : each.2.kernel.talk.ledger.closed = [] := by cbv
  have hreturned : returned each.1.1 ++ each.2.kernel.talk.ledger.closed = [⟨4⟩] := by
    rw [hanswers, hclosed]
    rfl
  obtain ⟨hopen, hzero, -⟩ := hsomebody.of_ok _ hpeer
  have htimeout : nobody.1.1 = .error .timeout :=
    hnobody.timeout_iff.2 (.inr ⟨_, .inl rfl, hagain⟩)
  exact ⟨⟨_, hrun⟩, rfl, htimeout, hpeer, hopen, hzero, hanswers, hstays, hreturned ▸ hperm⟩

end Stream

end ProfiledSocket
