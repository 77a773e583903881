/-
The two ways to receive a datagram.

A datagram can be received with its source or without.  Up to the answer of the kernel both ways do
the same, and if the answer has a source, both make the same of it: they succeed or fail alike, with
the same data in the buffer of the caller, and they leave the same socket.  Only the clock is read
if the source is wanted.

* **`Channel.receive_reached`** — what a receive does before it looks at the data;
* `filled`, `Talk.fill` — the buffer of a caller after data was received, and after a talk;
* `Exchange.KnowsSource` — a received datagram comes from an IPv4 endpoint;
* **`Datagram.afterReceive_agrees`** — what an answer means with and without the source;
* **`Datagram.fill_of_receives`** — what a receive leaves in the buffer of its caller;
* **`Datagram.paths_agree`** — both ways come to the same.

Design notes: it is the kernel that writes to the buffer of a caller, so the buffer is not a part
of the socket, and what it holds in the end is told by the talk.  Both ways are begun in the same
world, with a kernel that keeps a record, so that the data and the source that are delivered can be
compared with those that the kernel gave.
-/
import ProfiledSocket.Proofs.Interruption

namespace ProfiledSocket

variable {σ : Type} [Kernel σ]

/-! ### Up to the answer -/

/-- A call that is repeated ends with the answer that it comes to. -/
theorem getLast?_askUninterrupted (call : Call) (w : World (Recorded σ)) :
    (askUninterrupted call w).2.kernel.talk.getLast? =
      some ⟨call, (askUninterrupted call w).1⟩ := by
  obtain ⟨-, n, ht⟩ := talked_askFrom call w
  rw [show (askUninterrupted call w).2.kernel.talk = _ from ht.record, ← List.append_assoc,
    List.getLast?_concat]
  rfl

/-- **What a receive does before it looks at the data.**  It fails at once, or it has got an answer,
and all that is left to do is to make something of that. -/
theorem Channel.receive_reached {C : Type} [Channel C] (c : C) (capacity : Nat) (timeout : Timeout)
    (w : World (Recorded σ)) :
    ∃ kernel : Recorded σ,
      (∀ (α : Type) (view : Received capacity → Except IoError α),
        (receive c capacity timeout view w).2.kernel = kernel) ∧
      ((∃ e, ∀ (α : Type) (view : Received capacity → Except IoError α),
        (receive c capacity timeout view w).1 = (.error e, c)) ∨
      ∃ fd reply, kernel.talk.getLast? = some ⟨.receive fd capacity, reply⟩ ∧
        ∀ (α : Type) (view : Received capacity → Except IoError α),
          (receive c capacity timeout view w).1 = afterReceive c (viewed view reply)) := by
  cases hcheck : readyDescriptor c .receiving capacity with
  | error e =>
    simp only [receive, hcheck, Act.pure_apply]
    exact ⟨w.kernel, fun _ _ => rfl, .inl ⟨e, fun _ _ => rfl⟩⟩
  | ok fd =>
    cases hwait : (awaitReadable fd timeout w).1 with
    | error e =>
      simp only [receive, hcheck, Act.bind_apply, hwait, Act.pure_apply]
      exact ⟨_, fun _ _ => rfl, .inl ⟨e, fun _ _ => rfl⟩⟩
    | ok _ =>
      simp only [receive, hcheck, Act.bind_apply, hwait, Act.pure_apply, noteReceive_kernel]
      exact ⟨_, fun _ _ => rfl, .inr ⟨fd, _, getLast?_askUninterrupted _ _, fun _ _ => rfl⟩⟩

/-! ### The buffer of the caller -/

/-- The buffer of a caller that has received data: the data stands at its beginning, and the rest is
as it was. -/
def filled (buffer data : List UInt8) : List UInt8 := data ++ buffer.drop data.length

theorem length_filled {buffer data : List UInt8} (h : data.length ≤ buffer.length) :
    (filled buffer data).length = buffer.length := by
  rw [filled, List.length_append, List.length_drop]
  omega

theorem take_filled (buffer data : List UInt8) :
    (filled buffer data).take data.length = data :=
  List.take_left

/-- The buffer of a caller after an exchange: the kernel writes to it what it hands over. -/
def Exchange.fill (buffer : List UInt8) : Exchange → List UInt8
  | ⟨.receive _ _, .ok received⟩ => filled buffer received.bytes
  | _ => buffer

/-- A call that fails leaves the buffer as it is. -/
theorem Exchange.fill_of_error (buffer : List UInt8) (call : Call) (e : Errno) :
    Exchange.fill buffer ⟨call, .error e⟩ = buffer := by
  cases call <;> rfl

namespace Talk

/-- The buffer of a caller after a talk. -/
def fill (buffer : List UInt8) (talk : Talk) : List UInt8 := talk.foldl Exchange.fill buffer

theorem fill_append (buffer : List UInt8) (talk more : Talk) :
    fill buffer (talk ++ more) = fill (fill buffer talk) more :=
  List.foldl_append

/-- Exchanges in which nothing is handed over leave the buffer as it is. -/
theorem fill_of_idle {talk : Talk} (h : ∀ e ∈ talk, ∀ buffer, Exchange.fill buffer e = buffer)
    (buffer : List UInt8) : fill buffer talk = buffer := by
  induction talk with
  | nil => rfl
  | cons e talk ih =>
    rw [List.forall_mem_cons] at h
    rw [fill, List.foldl_cons, h.1]
    exact ih h.2

/-- A wait leaves the buffer as it is. -/
theorem fill_of_waits {fd : Descriptor} {timeout : Timeout} {polls : Talk}
    {waited : Except SocketError Unit} (h : Channel.Waits fd timeout polls waited)
    (buffer : List UInt8) : fill buffer polls = buffer := by
  refine fill_of_idle (fun e he buffer => ?_) buffer
  obtain ⟨call, reply⟩ := e
  obtain ⟨left, hcall⟩ := h.polls _ he
  obtain rfl : call = _ := hcall
  rfl

/-- So do interruptions. -/
theorem fill_repeated (buffer : List UInt8) (call : Call) (n : Nat) (reply : Reply call) :
    fill buffer (repeated call n reply) = Exchange.fill buffer ⟨call, reply⟩ := by
  have hinterrupted : fill buffer (List.replicate n ⟨call, .error .interrupted⟩) = buffer := by
    refine fill_of_idle (fun e he buffer => ?_) buffer
    rw [List.eq_of_mem_replicate he, Exchange.fill_of_error]
  rw [repeated, fill_append, hinterrupted]
  rfl

end Talk

/-! ### From the answer on -/

/-- A datagram that the kernel has handed over comes from an IPv4 endpoint. -/
def Exchange.KnowsSource : Exchange → Prop
  | ⟨.receive _ _, .ok received⟩ => received.source.isSome
  | _ => True

namespace Datagram

/-- **What an answer means** to a caller who wants the source of the data, and to one who does not:
the same error, or the same data, and the same socket. -/
theorem afterReceive_agrees (d : Datagram) {capacity : Nat}
    {reply : Except Errno (Received capacity)}
    (hsource : ∀ received, reply = .ok received → received.source.isSome) :
    (∃ e d', (∃ errno, reply = .error errno) ∧
      Channel.afterReceive d (Channel.viewed Channel.bytesOnly reply) = (.error e, d') ∧
      Channel.afterReceive d (Channel.viewed bytesAndSource reply) = (.error e, d')) ∨
    ∃ received source d', reply = .ok received ∧ received.source = some source ∧
      Channel.afterReceive d (Channel.viewed Channel.bytesOnly reply) = (.ok received.bytes, d') ∧
      Channel.afterReceive d (Channel.viewed bytesAndSource reply) =
        (.ok (received.bytes, source), d') := by
  cases reply with
  | error e =>
    left
    simp only [Channel.viewed, Channel.afterReceive]
    split
    · exact ⟨_, _, ⟨e, rfl⟩, rfl, rfl⟩
    · exact ⟨_, _, ⟨e, rfl⟩, rfl, rfl⟩
  | ok received =>
    right
    obtain ⟨source, hsome⟩ := Option.isSome_iff_exists.1 (hsource received rfl)
    refine ⟨received, source, Channel.withTraffic d _, rfl, hsome, if_neg fun hend => ?_, ?_⟩
    · cases hend.2
    · simp only [Channel.viewed, bytesAndSource, hsome, Except.map, Channel.afterReceive]
      exact if_neg fun hend => by cases hend.2

/-- **What a receive leaves in the buffer of its caller**: the data, if there is any, and else what
was there before. -/
theorem fill_of_receives {d : Datagram} {capacity : Nat} {timeout : Timeout} {talk : Talk}
    {out : Except SocketError (List UInt8 × Endpoint) × Datagram}
    (h : Channel.Receives d capacity timeout bytesAndSource talk out)
    (hsources : ∀ e ∈ talk, e.KnowsSource) (buffer : List UInt8) :
    (∀ e, out.1 = .error e → talk.fill buffer = buffer) ∧
      ∀ data source, out.1 = .ok (data, source) → talk.fill buffer = filled buffer data := by
  cases h with
  | refused _ => exact ⟨fun _ _ => rfl, nofun⟩
  | unready _ hwait => exact ⟨fun _ _ => Talk.fill_of_waits hwait buffer, nofun⟩
  | @answered fd _ polls hwait n reply _ =>
    rw [Talk.fill_append, Talk.fill_of_waits hwait, Talk.fill_repeated]
    have hsource (received : Received capacity) (hreply : reply = .ok received) :
        received.source.isSome := by
      subst hreply
      exact hsources ⟨.receive fd capacity, .ok received⟩ (by simp [repeated])
    rcases d.afterReceive_agrees hsource with
      ⟨e, d', ⟨errno, rfl⟩, -, hafter⟩ | ⟨received, source, d', rfl, -, -, hafter⟩
    · rw [hafter]
      exact ⟨fun _ _ => Exchange.fill_of_error buffer _ errno, nofun⟩
    · rw [hafter]
      refine ⟨nofun, fun data source' hdata => ?_⟩
      cases hdata
      rfl

theorem Delivers.of_error {e : SocketError} {d : Datagram}
    {out : Except SocketError Delivery × Datagram} (h : Delivers (.error e, d) out) :
    out = (.error e, d) := by
  cases h
  rfl

theorem Delivers.of_ok {data : List UInt8} {source : Endpoint} {d : Datagram}
    {out : Except SocketError Delivery × Datagram} (h : Delivers (.ok (data, source), d) out) :
    ∃ timestamp, out = (.ok ⟨data, source, timestamp⟩, d.clockRead) := by
  cases h
  exact ⟨_, rfl⟩

/-- **The two ways to receive a datagram agree.**  If the datagrams that the kernel hands over come
from IPv4 endpoints, both ways ask the kernel for the same, come to the same data or to the same
error, and leave the same socket, except that the clock is read once for a datagram that is
delivered.  A delivery has the source that the kernel gave, and its data is what stands at the
beginning of the buffer of the caller then; what fails leaves the buffer as it was. -/
theorem paths_agree (d : Datagram) (buffer : List UInt8) (timeout : Timeout) (w : World σ)
    (hsources : ∀ e ∈ (d.receiveFrom buffer.length timeout w.recorded).2.kernel.talk,
      e.KnowsSource) :
    let plain := d.receive buffer.length timeout w.recorded
    let full := d.receiveFrom buffer.length timeout w.recorded
    full.2.kernel = plain.2.kernel ∧
      ((∃ e d', plain.1 = (.error e, d') ∧ full.1 = (.error e, d') ∧
          full.2.kernel.talk.fill buffer = buffer) ∨
        ∃ delivery d', plain.1 = (.ok delivery.data, d') ∧ full.1 = (.ok delivery, d'.clockRead) ∧
          delivery.data.length ≤ buffer.length ∧
          full.2.kernel.talk.fill buffer = filled buffer delivery.data ∧
          (full.2.kernel.talk.fill buffer).take delivery.data.length = delivery.data ∧
          (full.2.kernel.talk.fill buffer).length = buffer.length ∧
          ∃ (fd : Descriptor) (received : Received buffer.length),
            full.2.kernel.talk.getLast? = some ⟨.receive fd buffer.length, .ok received⟩ ∧
              received.bytes = delivery.data ∧ received.source = some delivery.source) := by
  intro plain full
  obtain ⟨hkernel, hdelivers⟩ := d.receiveFrom_delivers buffer.length timeout w.recorded
  obtain ⟨kernel, hsame, hreached⟩ := Channel.receive_reached d buffer.length timeout w.recorded
  have hfull : full.2.kernel = kernel := hkernel.trans (hsame _ bytesAndSource)
  have hreceives :=
    (Channel.receive_talks d buffer.length timeout bytesAndSource).recorded w
  rw [← hkernel] at hreceives
  obtain ⟨hkept, hwritten⟩ := fill_of_receives hreceives hsources buffer
  refine ⟨hfull.trans (hsame _ Channel.bytesOnly).symm, ?_⟩
  rcases hreached with ⟨e, hfails⟩ | ⟨fd, reply, hlast, hafter⟩
  · rw [hfails _ bytesAndSource] at hdelivers hkept
    exact .inl ⟨e, d, hfails _ Channel.bytesOnly, hdelivers.of_error, hkept e rfl⟩
  · have hsource (received : Received buffer.length) (hreply : reply = .ok received) :
        received.source.isSome := by
      have hknows := hsources _ (hfull ▸ List.mem_of_getLast? hlast)
      rwa [hreply] at hknows
    have hplain : plain.1 = _ := hafter _ Channel.bytesOnly
    rw [hafter _ bytesAndSource] at hdelivers hkept hwritten
    rcases d.afterReceive_agrees hsource with
      ⟨e, d', -, hbytes, hboth⟩ | ⟨received, source, d', rfl, hsome, hbytes, hboth⟩
    · rw [hboth] at hdelivers hkept
      exact .inl ⟨e, d', hplain.trans hbytes, hdelivers.of_error, hkept e rfl⟩
    · rw [hboth] at hdelivers hwritten
      obtain ⟨timestamp, hout⟩ := hdelivers.of_ok
      have hfill : full.2.kernel.talk.fill buffer = filled buffer received.bytes :=
        hwritten _ _ rfl
      refine .inr ⟨⟨received.bytes, source, timestamp⟩, d', hplain.trans hbytes, hout,
        received.length_le, hfill, ?_, ?_, fd, received, hfull ▸ hlast, rfl, hsome⟩
      · rw [hfill, take_filled]
      · rw [hfill, length_filled received.length_le]

/-- A datagram of three bytes is received into room for two, after a wait. -/
theorem receiveFrom_granting :
    let d := ofDescriptor ⟨3⟩ .conservative .system
    let out := d.receiveFrom 2 none (World.granting false [1, 2, 3]).recorded
    out.2.kernel.talk =
      [⟨.poll ⟨3⟩ (some .read) (-1), .ok (some ⟨true, true, false, false, false⟩)⟩,
        ⟨.receive ⟨3⟩ 2, .ok ⟨[1, 2], some ⟨⟨127, 0, 0, 1⟩, 40000⟩, Nat.le_refl 2⟩⟩] ∧
      out.1.1 = .ok ⟨[1, 2], ⟨⟨127, 0, 0, 1⟩, 40000⟩, 0⟩ := by
  constructor
  · cbv
  · cbv

/-- Both ways get its first two bytes, which are all that is left in the buffer. -/
theorem paths_agree_truncated :
    let d := ofDescriptor ⟨3⟩ .conservative .system
    let w := World.granting false [1, 2, 3]
    (∀ e ∈ (d.receiveFrom 2 none w.recorded).2.kernel.talk, e.KnowsSource) ∧
      (d.receiveFrom 2 none w.recorded).1.1 = .ok ⟨[1, 2], ⟨⟨127, 0, 0, 1⟩, 40000⟩, 0⟩ ∧
      (d.receive 2 none w.recorded).1.1 = .ok [1, 2] ∧
      (d.receiveFrom 2 none w.recorded).2.kernel.talk.fill [8, 9] = [1, 2] := by
  intro d w
  obtain ⟨htalk, hresult⟩ := receiveFrom_granting
  have hsources : ∀ e ∈ (d.receiveFrom 2 none w.recorded).2.kernel.talk, e.KnowsSource := by
    rw [htalk]
    simp [Exchange.KnowsSource]
  refine ⟨hsources, hresult, ?_⟩
  obtain ⟨-, ⟨e, d', -, hfull, -⟩ | ⟨delivery, d', hplain, hfull, -, hfill, -⟩⟩ :=
    d.paths_agree [8, 9] none w hsources
  · rw [show (d.receiveFrom 2 none w.recorded).1.1 = .error e from congrArg Prod.fst hfull]
      at hresult
    cases hresult
  · rw [show (d.receiveFrom 2 none w.recorded).1.1 = .ok delivery from congrArg Prod.fst hfull]
      at hresult
    cases hresult
    exact ⟨congrArg Prod.fst hplain, hfill⟩

end Datagram

end ProfiledSocket
