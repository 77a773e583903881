/-
What a profile has influence on.

Most settings of a profile are meant for the accelerated transport.  A socket takes from its
profile whether it waits, the size of its buffers and one or two options more; two profiles that
agree on these cannot be told apart by anything that is done with sockets of theirs.

* `Profile.SameForStreams`, `Profile.SameForDatagrams` — profiles that agree on what counts;
* `Channel.Neutral` — a change of a channel that transfers take no notice of;
* **`Stream.perform_withProfile`**, **`Datagram.perform_withProfile`** — an operation does the same
  with any such profile;
* **`Datagram.perform_mapSetup`** — a datagram socket minds its clock only if the time is wanted;
* `Script.run` — steps that create sockets, use them and let go of them;
* **`Script.profile_influence`** — scripts that differ in other settings come to the same.

Design notes: that a profile makes no difference to an operation is an equation between
computations: performing the operation with another profile is performing it and changing the
profile afterwards.  Reports are included, which do not speak of profiles either.
-/
import Mathlib
import ProfiledSocket.Proofs.Stream.Transition
import ProfiledSocket.Proofs.Datagram.Transition
import ProfiledSocket.Scenario.Session

namespace ProfiledSocket

variable {σ : Type} [Kernel σ]

open Act
open Scenario (Handle)

/-- What follows a computation can be changed for each of its results alone. -/
theorem Act.bind_eq_map_bind {σ α β γ : Type} {x : Act σ α} {f : α → Act σ β} {g : β → γ}
    {f' : α → Act σ γ} (h : ∀ a, f' a = g <$> f a) : (x >>= f') = g <$> (x >>= f) := by
  rw [map_bind]
  congr 1
  funext a
  exact h a

/-! ### Profiles -/

namespace Profile

/-- What streams take from their profile is the same. -/
structure SameForStreams (p q : Profile) : Prop where
  wantsNonblocking : p.wantsNonblocking = q.wantsNonblocking
  bufferSize : p.bufferSize = q.bufferSize
  tcpNodelay : p.tcpNodelay = q.tcpNodelay
  tcpKeepalive : p.tcpKeepalive = q.tcpKeepalive

/-- What datagram sockets take from their profile is the same. -/
structure SameForDatagrams (p q : Profile) : Prop where
  wantsNonblocking : p.wantsNonblocking = q.wantsNonblocking
  bufferSize : p.bufferSize = q.bufferSize
  enableTimestamps : p.enableTimestamps = q.enableTimestamps

theorem SameForStreams.streamSettings_eq {p q : Profile} (h : p.SameForStreams q) :
    p.streamSettings = q.streamSettings := by
  rw [streamSettings, streamSettings, bufferSettings, bufferSettings, modeSettings, modeSettings,
    h.wantsNonblocking, h.bufferSize, h.tcpNodelay, h.tcpKeepalive]

theorem SameForDatagrams.datagramSettings_eq {p q : Profile} (h : p.SameForDatagrams q) :
    p.datagramSettings = q.datagramSettings := by
  rw [datagramSettings, datagramSettings, bufferSettings, bufferSettings, modeSettings,
    modeSettings, h.wantsNonblocking, h.bufferSize, h.enableTimestamps]

end Profile

/-- Sockets are created alike with profiles of which both are valid or neither is. -/
theorem createSocket_eq_map {S : Type} {f : S → S} {transport : Transport}
    {settings : List Setting} {p q : Profile} {report : String} {make make' : Descriptor → S}
    (hfault : p.fault? = q.fault?) (hmake : ∀ fd, make' fd = f (make fd)) :
    (createSocket transport settings q report make' : Act σ _) =
      (fun result => result.map f) <$> createSocket transport settings p report make := by
  rw [createSocket, createSocket, hfault]
  split
  · rfl
  · refine bind_eq_map_bind fun opened => ?_
    cases opened with
    | error e => rfl
    | ok fd =>
      dsimp only
      rw [hmake]
      rfl

/-! ### Transfers -/

/-- A change of a channel that transfers take no notice of. -/
structure Channel.Neutral {C : Type} [Channel C] (f : C → C) : Prop where
  descriptor : ∀ c, Channel.descriptor (f c) = Channel.descriptor c
  traffic : ∀ c, Channel.traffic (f c) = Channel.traffic c
  withTraffic : ∀ c t, Channel.withTraffic (f c) t = f (Channel.withTraffic c t)
  obstacle? : ∀ c direction, Channel.obstacle? (f c) direction = Channel.obstacle? c direction
  afterFailure : ∀ c, Channel.afterFailure (f c) = f (Channel.afterFailure c)
  failureReport? : ∀ c, Channel.failureReport? (f c) = Channel.failureReport? c
  afterEnd : ∀ c, Channel.afterEnd (f c) = f (Channel.afterEnd c)
  endReport? : ∀ c, Channel.endReport? (f c) = Channel.endReport? c

namespace Channel.Neutral

variable {C : Type} [Channel C] {f : C → C} (hf : Channel.Neutral f) (c : C)

include hf

theorem openDescriptor (length : Nat) :
    Channel.openDescriptor (f c) length = Channel.openDescriptor c length := by
  rw [Channel.openDescriptor, Channel.openDescriptor, Channel.held, Channel.held, hf.descriptor]

theorem readyDescriptor (direction : Direction) (length : Nat) :
    Channel.readyDescriptor (f c) direction length =
      Channel.readyDescriptor c direction length := by
  rw [Channel.readyDescriptor, Channel.readyDescriptor, hf.openDescriptor, hf.obstacle?]

theorem afterSend (reply : Except Errno Nat) :
    Channel.afterSend (f c) reply =
      ((Channel.afterSend c reply).1, f (Channel.afterSend c reply).2) := by
  cases reply with
  | ok n => rw [Channel.afterSend, Channel.afterSend, hf.withTraffic, hf.traffic]
  | error e =>
    rw [Channel.afterSend, Channel.afterSend, hf.afterFailure]
    split <;> rfl

theorem send (data : List UInt8) (destination : Option Endpoint) :
    (Channel.send (f c) data destination : Act σ _) =
      (fun out => (out.1, f out.2)) <$> Channel.send c data destination := by
  have hcheck : Channel.checkSend (f c) data destination =
      Channel.checkSend c data destination := by
    rw [Channel.checkSend, Channel.checkSend, hf.openDescriptor, hf.readyDescriptor]
  have hnote (fd : Descriptor) (reply : Except Errno Nat) :
      (Channel.noteSend (f c) fd data.length reply : Act σ Unit) =
        Channel.noteSend c fd data.length reply := by
    cases reply with
    | ok n => rfl
    | error e => rw [Channel.noteSend, Channel.noteSend, hf.failureReport?]
  rw [Channel.send, Channel.send, hcheck]
  cases Channel.checkSend c data destination with
  | error e => rfl
  | ok fd => simp only [map_bind, map_pure, hnote, hf.afterSend]

theorem afterReceive {α : Type} (result : Except IoError (Nat × α)) :
    Channel.afterReceive (f c) result =
      ((Channel.afterReceive c result).1, f (Channel.afterReceive c result).2) := by
  match result with
  | .ok (n, value) =>
    rw [Channel.afterReceive, Channel.afterReceive, hf.afterEnd, hf.withTraffic, hf.traffic]
    split <;> rfl
  | .error e =>
    rw [Channel.afterReceive, Channel.afterReceive, hf.afterFailure]
    split <;> rfl

theorem receive {α : Type} (capacity : Nat) (timeout : Timeout)
    (view : Received capacity → Except IoError α) :
    (Channel.receive (f c) capacity timeout view : Act σ _) =
      (fun out => (out.1, f out.2)) <$> Channel.receive c capacity timeout view := by
  have hnote (fd : Descriptor) (result : Except IoError (Nat × α)) :
      (Channel.noteReceive (f c) fd result : Act σ Unit) = Channel.noteReceive c fd result := by
    match result with
    | .ok (n, value) => rw [Channel.noteReceive, Channel.noteReceive, hf.endReport?]
    | .error e => rw [Channel.noteReceive, Channel.noteReceive, hf.failureReport?]
  rw [Channel.receive, Channel.receive, hf.readyDescriptor]
  cases Channel.readyDescriptor c .receiving capacity with
  | error e => rfl
  | ok fd =>
    refine bind_eq_map_bind fun waited => ?_
    cases waited with
    | error e => rfl
    | ok _ => simp only [map_bind, map_pure, hnote, hf.afterReceive]

end Channel.Neutral

/-! ### Streams -/

namespace Stream

variable {s : Stream} {p : Profile}

/-- A stream with another profile. -/
def withProfile (s : Stream) (p : Profile) : Stream := { s with profile := p }

theorem withProfile_neutral (p : Profile) : Channel.Neutral fun s : Stream => s.withProfile p where
  descriptor _ := rfl
  traffic _ := rfl
  withTraffic _ _ := rfl
  obstacle? _ _ := rfl
  afterFailure _ := rfl
  failureReport? _ := rfl
  afterEnd _ := rfl
  endReport? _ := rfl

theorem new_withProfile {p q : Profile} (hfault : p.fault? = q.fault?) (h : p.SameForStreams q) :
    (Stream.new q : Act σ _) = (fun result => result.map fun s => s.withProfile q) <$>
      Stream.new p := by
  rw [new_eq, new_eq, h.streamSettings_eq]
  exact createSocket_eq_map hfault fun _ => rfl

/-- A stream is connected alike with any profile that wants the same mode. -/
theorem connectTo_withProfile (h : s.profile.wantsNonblocking = p.wantsNonblocking)
    (fd : Descriptor) (addr : Endpoint) (timeout : Timeout) :
    ((s.withProfile p).connectTo fd addr timeout : Act σ _) =
      (fun out => (out.1, out.2.withProfile p)) <$> s.connectTo fd addr timeout := by
  rw [connectTo, connectTo, h]
  refine bind_eq_map_bind fun entered => ?_
  cases entered with
  | error e => rfl
  | ok _ =>
    refine bind_eq_map_bind fun outcome => ?_
    cases outcome <;> rfl

theorem connectAnew_withProfile (h : s.profile.SameForStreams p) (addr : Endpoint)
    (timeout : Timeout) : ((s.withProfile p).connectAnew addr timeout : Act σ _) =
      (fun out => (out.1, out.2.withProfile p)) <$> s.connectAnew addr timeout := by
  rw [connectAnew, connectAnew, show (s.withProfile p).profile.streamSettings =
    s.profile.streamSettings from h.streamSettings_eq.symm]
  refine bind_eq_map_bind fun opened => ?_
  cases opened with
  | error e => rfl
  | ok fd =>
    have hmode : Profile.wantsNonblocking (Stream.profile { s with descriptor := some fd }) =
      p.wantsNonblocking := h.wantsNonblocking
    exact connectTo_withProfile hmode fd addr timeout

theorem reconnect_withProfile (h : s.profile.SameForStreams p) (timeout : Timeout) :
    ((s.withProfile p).reconnect timeout : Act σ _) =
      (fun out => (out.1, out.2.withProfile p)) <$> s.reconnect timeout := by
  have hreleased : s.released.profile.SameForStreams p := h
  rw [reconnect, reconnect, show (s.withProfile p).remote = s.remote from rfl,
    show (s.withProfile p).state = s.state from rfl]
  cases s.remote with
  | none => rfl
  | some addr =>
    dsimp only
    split
    · rfl
    · rw [show (s.withProfile p).released = s.released.withProfile p from rfl,
        connectAnew_withProfile hreleased addr timeout]
      simp only [map_bind, map_pure, bind_map_left]
      rfl

theorem accept_withProfile (h : s.profile.wantsNonblocking = p.wantsNonblocking)
    (timeout : Timeout) :
    ((s.withProfile p).accept timeout : Act σ _) = s.accept timeout := by
  rw [accept, accept, h]
  rfl

/-- **What a stream does depends on a few settings of its profile only.** -/
theorem perform_withProfile (h : s.profile.SameForStreams p) (op : Operation) :
    ((s.withProfile p).perform op : Act σ _) =
      (fun out => (out.1, out.2.withProfile p)) <$> s.perform op := by
  cases op with
  | bind ip port =>
    show ((s.withProfile p).bind ip port : Act σ _) = _ <$> s.bind ip port
    rw [bind, bind, show (s.withProfile p).checkBind ip port = s.checkBind ip port from rfl]
    split
    · rfl
    · refine bind_eq_map_bind fun own => ?_
      cases own <;> rfl
  | listen backlog =>
    show ((s.withProfile p).listen backlog : Act σ _) = _ <$> s.listen backlog
    rw [listen, listen, show (s.withProfile p).checkListen = s.checkListen from rfl]
    split
    · rfl
    · refine bind_eq_map_bind fun listened => ?_
      cases listened <;> rfl
  | accept timeout =>
    show (do return (← (s.withProfile p).accept timeout, s.withProfile p) : Act σ _) = _
    rw [accept_withProfile h.wantsNonblocking]
    rfl
  | connect ip port timeout =>
    show ((s.withProfile p).connect ip port timeout : Act σ _) = _ <$> s.connect ip port timeout
    rw [connect, connect,
      show (s.withProfile p).checkConnect ip port = s.checkConnect ip port from rfl]
    split
    · rfl
    · exact connectTo_withProfile h.wantsNonblocking _ _ timeout
  | reconnect timeout => exact reconnect_withProfile h timeout
  | isConnected =>
    show ((s.withProfile p).isConnected : Act σ _) = _ <$> s.isConnected
    rw [isConnected, isConnected,
      show (s.withProfile p).connectedDescriptor? = s.connectedDescriptor? from rfl]
    split
    · rfl
    · refine bind_eq_map_bind fun alive => ?_
      cases alive <;> rfl
  | send data => exact (withProfile_neutral p).send s data none
  | receive capacity timeout => exact (withProfile_neutral p).receive s capacity timeout _
  | setOption option value => rfl
  | close =>
    show ((s.withProfile p).close : Act σ _) = _ <$> s.close
    rw [close, close, show (s.withProfile p).descriptor = s.descriptor from rfl]
    split <;> rfl

end Stream

/-! ### Datagram sockets -/

namespace Datagram

variable {d : Datagram} {p : Profile}

/-- A datagram socket with another profile. -/
def withProfile (d : Datagram) (p : Profile) : Datagram := { d with profile := p }

/-- A datagram socket whose profile and whose clock have been changed. -/
def mapSetup (f : Profile → Profile) (g : Clock → Clock) (d : Datagram) : Datagram :=
  { d with profile := f d.profile, clock := g d.clock }

theorem mapSetup_neutral (f : Profile → Profile) (g : Clock → Clock) :
    Channel.Neutral (mapSetup f g) where
  descriptor _ := rfl
  traffic _ := rfl
  withTraffic _ _ := rfl
  obstacle? _ direction := by cases direction <;> rfl
  afterFailure _ := rfl
  failureReport? _ := rfl
  afterEnd _ := rfl
  endReport? _ := rfl

theorem new_withProfile {p q : Profile} (hfault : p.fault? = q.fault?)
    (h : p.SameForDatagrams q) (clock : Clock) :
    (Datagram.new q clock : Act σ _) = (fun result => result.map fun d => d.withProfile q) <$>
      Datagram.new p clock := by
  rw [new_eq, new_eq, h.datagramSettings_eq]
  exact createSocket_eq_map hfault fun _ => rfl

/-- Only a receive that wants the time takes notice of the clock, and no operation of the
profile. -/
theorem perform_mapSetup (f : Profile → Profile) (g : Clock → Clock) (d : Datagram)
    {op : Operation} (hop : ∀ capacity timeout, op ≠ .receiveFrom capacity timeout) :
    ((d.mapSetup f g).perform op : Act σ _) =
      (fun out => (out.1, out.2.mapSetup f g)) <$> d.perform op := by
  cases op with
  | bind ip port =>
    show ((d.mapSetup f g).bind ip port : Act σ _) = _ <$> d.bind ip port
    rw [bind, bind, show (d.mapSetup f g).checkBind ip port = d.checkBind ip port from rfl]
    split
    · rfl
    · refine bind_eq_map_bind fun own => ?_
      cases own <;> rfl
  | connect ip port =>
    show ((d.mapSetup f g).connect ip port : Act σ _) = _ <$> d.connect ip port
    rw [connect, connect,
      show (d.mapSetup f g).checkConnect ip port = d.checkConnect ip port from rfl]
    split
    · rfl
    · refine bind_eq_map_bind fun own => ?_
      cases own <;> rfl
  | send data => exact (mapSetup_neutral f g).send d data none
  | sendTo data ip port =>
    show ((d.mapSetup f g).sendTo data ip port : Act σ _) = _ <$> d.sendTo data ip port
    rw [sendTo, sendTo]
    split
    · rfl
    · exact (mapSetup_neutral f g).send d data _
  | receive capacity timeout => exact (mapSetup_neutral f g).receive d capacity timeout _
  | receiveFrom capacity timeout => exact absurd rfl (hop capacity timeout)
  | setOption option value => rfl
  | close =>
    show ((d.mapSetup f g).close : Act σ _) = _ <$> d.close
    rw [close, close, show (d.mapSetup f g).descriptor = d.descriptor from rfl]
    split <;> rfl

/-- A datagram and its source are received alike, whatever the profile and the clock are. -/
theorem receive_mapSetup (f : Profile → Profile) (g : Clock → Clock) (d : Datagram)
    (capacity : Nat) (timeout : Timeout) {β : Type}
    (next : Except SocketError (List UInt8 × Endpoint) × Datagram → Act σ β) :
    (Channel.receive (d.mapSetup f g) capacity timeout bytesAndSource >>= next) =
      Channel.receive d capacity timeout bytesAndSource >>= fun out =>
        next (out.1, out.2.mapSetup f g) := by
  rw [(mapSetup_neutral f g).receive d capacity timeout, bind_map_left]

/-- The clock is read alike whatever the profile is. -/
theorem readClock_withProfile (d : Datagram) (p : Profile) :
    ((d.withProfile p).readClock : Act σ _) =
      (fun out => (out.1, out.2.withProfile p)) <$> d.readClock := by
  funext w
  obtain ⟨_, _, _, _, _, _, clock, _⟩ := d
  cases clock <;> rfl

/-- **What a datagram socket does once it is there does not depend on its profile.** -/
theorem perform_withProfile (d : Datagram) (p : Profile) (op : Operation) :
    ((d.withProfile p).perform op : Act σ _) =
      (fun out => (out.1, out.2.withProfile p)) <$> d.perform op := by
  by_cases hop : ∃ capacity timeout, op = .receiveFrom capacity timeout
  · obtain ⟨capacity, timeout, rfl⟩ := hop
    show ((d.mapSetup (fun _ => p) id).receiveFrom capacity timeout : Act σ _) =
      _ <$> d.receiveFrom capacity timeout
    rw [receiveFrom, receiveFrom, receive_mapSetup]
    -- the datagram socket that the clock is read by has the other profile already
    refine bind_eq_map_bind fun out => ?_
    obtain ⟨e | ⟨data, source⟩, d'⟩ := out
    · rfl
    · show ((d'.withProfile p).readClock >>= _ : Act σ _) = _ <$> (d'.readClock >>= _)
      rw [readClock_withProfile, bind_map_left, map_bind]
      rfl
  · exact perform_mapSetup (fun _ => p) id d fun capacity timeout h => hop ⟨capacity, timeout, h⟩

end Datagram

/-! ### Scripts -/

namespace Script

/-- What can be asked of a socket. -/
inductive Request
  | stream (op : Stream.Operation)
  | peer (op : Peer.Operation)
  | datagram (op : Datagram.Operation)

/-- One step of a script.  It names a socket by its place among those that are alive. -/
inductive Step
  | newStream (profile : Profile)
  | newDatagram (profile : Profile) (clock : Clock)
  | ask (i : Nat) (request : Request)
  | drop (i : Nat)

/-- What a step came to. -/
inductive Outcome
  | made (result : Except SocketError Unit)
  | stream (deed : Deed Stream)
  | peer (deed : Deed Peer)
  | datagram (deed : Deed Datagram)
  | dropped
  /-- There was no such socket. -/
  | absent

/-- The connection that an operation of a stream accepted. -/
def accepted : (op : Stream.Operation) → op.Result → List Handle
  | .accept _, .ok peer => [.peer peer]
  | _, _ => []

/-- Does with a socket what is asked of it.  The result is what came of it, what the socket is
then, and which sockets have joined it. -/
def serve : Handle → Request → Act σ (Outcome × Handle × List Handle)
  | .stream s, .stream op => do
    let (result, s) ← s.perform op
    return (.stream ⟨op, result⟩, .stream s, accepted op result)
  | .peer p, .peer op => do
    let (result, p) ← p.perform op
    return (.peer ⟨op, result⟩, .peer p, [])
  | .datagram d, .datagram op => do
    let (result, d) ← d.perform op
    return (.datagram ⟨op, result⟩, .datagram d, [])
  | h, _ => return (.absent, h, [])

/-- What came of the creation of a socket, which takes the last place. -/
def joined {S : Type} (sort : S → Handle) (live : List Handle) :
    Except SocketError S → Outcome × List Handle
  | .ok s => (.made (.ok ()), live ++ [sort s])
  | .error e => (.made (.error e), live)

/-- Carries out a step.  Sockets that join the others take the last places. -/
def Step.carryOut (live : List Handle) : Step → Act σ (Outcome × List Handle)
  | newStream profile => joined .stream live <$> Stream.new profile
  | newDatagram profile clock => joined .datagram live <$> Datagram.new profile clock
  | ask i request =>
    match live[i]? with
    | some h => do
      let (outcome, h, newcomers) ← serve h request
      return (outcome, live.set i h ++ newcomers)
    | none => return (.absent, live)
  | drop i =>
    match live[i]? with
    | some h => do
      h.drop
      return (.dropped, live.eraseIdx i)
    | none => return (.absent, live)

/-- Carries out steps, one after the other. -/
def run (live : List Handle) : List Step → Act σ (List Outcome × List Handle)
  | [] => return ([], live)
  | step :: rest => do
    let (outcome, live) ← step.carryOut live
    let (outcomes, live) ← run live rest
    return (outcome :: outcomes, live)

/-! ### Scripts that differ in profiles -/

/-- Sockets that are the same but for settings of their profiles that do not matter to them. -/
inductive Alike : Handle → Handle → Prop
  | stream (s : Stream) {p : Profile} (h : s.profile.SameForStreams p) :
      Alike (.stream s) (.stream (s.withProfile p))
  | peer (p : Peer) : Alike (.peer p) (.peer p)
  | datagram (d : Datagram) {p : Profile} (h : d.profile.SameForDatagrams p) :
      Alike (.datagram d) (.datagram (d.withProfile p))

/-- Steps that are the same but for such settings. Either profile is valid, or neither is. -/
inductive Step.Alike : Step → Step → Prop
  | newStream {p q : Profile} (hfault : p.fault? = q.fault?) (h : p.SameForStreams q) :
      Alike (.newStream p) (.newStream q)
  | newDatagram {p q : Profile} (hfault : p.fault? = q.fault?) (h : p.SameForDatagrams q)
      (clock : Clock) : Alike (.newDatagram p clock) (.newDatagram q clock)
  | ask (i : Nat) (request : Request) : Alike (.ask i request) (.ask i request)
  | drop (i : Nat) : Alike (.drop i) (.drop i)

/-- Two computations that have ended alike: they came to the same for their callers and for the
world, and the sockets that they left are alike. -/
structure EndAlike {α : Type} (x y : (α × List Handle) × World σ) : Prop where
  outcome_eq : x.1.1 = y.1.1
  alike : List.Forall₂ Alike x.1.2 y.1.2
  world_eq : x.2 = y.2

section Lists

variable {α β : Type} {R : α → β → Prop} {l : List α} {l' : List β}

theorem forall₂_getElem? (h : List.Forall₂ R l l') (i : Nat) : Option.Rel R l[i]? l'[i]? := by
  induction h generalizing i with
  | nil => exact .none
  | cons hab _ ih =>
    cases i with
    | zero => exact .some hab
    | succ i => exact ih i

theorem forall₂_set (h : List.Forall₂ R l l') {a : α} {b : β} (hab : R a b) (i : Nat) :
    List.Forall₂ R (l.set i a) (l'.set i b) := by
  induction h generalizing i with
  | nil => exact .nil
  | cons hhead htail ih =>
    cases i with
    | zero => exact .cons hab htail
    | succ i => exact .cons hhead (ih i)

theorem forall₂_eraseIdx (h : List.Forall₂ R l l') (i : Nat) :
    List.Forall₂ R (l.eraseIdx i) (l'.eraseIdx i) := by
  induction h generalizing i with
  | nil => exact .nil
  | cons hhead htail ih =>
    cases i with
    | zero => exact htail
    | succ i => exact .cons hhead (ih i)

end Lists

theorem Alike.drop_eq {h h' : Handle} (halike : Alike h h') :
    (h.drop : Act σ Unit) = h'.drop := by
  cases halike <;> rfl

theorem accepted_alike (op : Stream.Operation) (result : op.Result) :
    List.Forall₂ Alike (accepted op result) (accepted op result) := by
  refine List.forall₂_same.2 fun h hmem => ?_
  cases op with
  | accept timeout =>
    cases result with
    | error e => cases hmem
    | ok peer =>
      rw [List.mem_singleton.1 hmem]
      exact .peer peer
  | _ => cases hmem

/-- Sockets that are alike serve every request alike. -/
theorem serve_alike {h h' : Handle} (halike : Alike h h') (request : Request) (w : World σ) :
    (serve h request w).1.1 = (serve h' request w).1.1 ∧
      Alike (serve h request w).1.2.1 (serve h' request w).1.2.1 ∧
      List.Forall₂ Alike (serve h request w).1.2.2 (serve h' request w).1.2.2 ∧
      (serve h request w).2 = (serve h' request w).2 := by
  cases halike with
  | stream s h =>
    cases request with
    | stream op =>
      -- the profile stays what it was, so that the sockets are alike afterwards
      have hprofile := (s.perform_transition op w).profile_eq
      rw [serve, serve, Stream.perform_withProfile h]
      exact ⟨rfl, .stream _ (hprofile ▸ h), accepted_alike op _, rfl⟩
    | peer op => exact ⟨rfl, .stream s h, .nil, rfl⟩
    | datagram op => exact ⟨rfl, .stream s h, .nil, rfl⟩
  | peer p =>
    cases request with
    | stream op => exact ⟨rfl, .peer p, .nil, rfl⟩
    | peer op => exact ⟨rfl, .peer _, .nil, rfl⟩
    | datagram op => exact ⟨rfl, .peer p, .nil, rfl⟩
  | datagram d h =>
    cases request with
    | stream op => exact ⟨rfl, .datagram d h, .nil, rfl⟩
    | peer op => exact ⟨rfl, .datagram d h, .nil, rfl⟩
    | datagram op =>
      have hprofile := (d.perform_transition w op).profile_eq
      rw [serve, serve, Datagram.perform_withProfile]
      exact ⟨rfl, .datagram _ (hprofile ▸ h), .nil, rfl⟩

/-- A new socket is alike with any profile that is. -/
theorem joined_alike {σ S : Type} {f : S → S} {x y : Act σ (Except SocketError S)}
    (hxy : y = (fun result => result.map f) <$> x) {sort : S → Handle} (w : World σ)
    (hsort : ∀ s, (x w).1 = .ok s → Alike (sort s) (sort (f s)))
    {live live' : List Handle} (hlive : List.Forall₂ Alike live live') :
    EndAlike ((joined sort live <$> x) w) ((joined sort live' <$> y) w) := by
  rw [hxy]
  simp only [Act.map_apply]
  cases hx : (x w).1 with
  | error e => exact ⟨rfl, hlive, rfl⟩
  | ok s => exact ⟨rfl, List.rel_append hlive (.cons (hsort s hx) .nil), rfl⟩

/-- Steps that are alike come to the same. -/
theorem Step.carryOut_alike {step step' : Step} (hstep : Step.Alike step step')
    {live live' : List Handle} (hlive : List.Forall₂ Script.Alike live live') (w : World σ) :
    EndAlike (step.carryOut live w) (step'.carryOut live' w) := by
  cases hstep with
  | newStream hfault h =>
    refine joined_alike (Stream.new_withProfile hfault h) w (fun s hs => ?_) hlive
    obtain ⟨fd, rfl⟩ := Stream.eq_ofDescriptor_of_new hs
    exact .stream _ h
  | newDatagram hfault h clock =>
    refine joined_alike (Datagram.new_withProfile hfault h clock) w (fun d hd => ?_) hlive
    obtain ⟨fd, rfl⟩ := Datagram.eq_ofDescriptor_of_new hd
    exact .datagram _ h
  | ask i request =>
    have hfound := forall₂_getElem? hlive i
    rw [carryOut, carryOut]
    generalize live[i]? = found, live'[i]? = found' at hfound
    cases hfound with
    | none => exact ⟨rfl, hlive, rfl⟩
    | some halike =>
      obtain ⟨houtcome, hafter, hnewcomers, hworld⟩ := serve_alike halike request w
      exact ⟨houtcome, List.rel_append (forall₂_set hlive hafter i) hnewcomers, hworld⟩
  | drop i =>
    have hfound := forall₂_getElem? hlive i
    rw [carryOut, carryOut]
    generalize live[i]? = found, live'[i]? = found' at hfound
    cases hfound with
    | none => exact ⟨rfl, hlive, rfl⟩
    | some halike =>
      exact ⟨rfl, forall₂_eraseIdx hlive i, congrArg (fun x => (x w).2) halike.drop_eq⟩

theorem run_alike {steps steps' : List Step} (hsteps : List.Forall₂ Step.Alike steps steps')
    {live live' : List Handle} (hlive : List.Forall₂ Alike live live') (w : World σ) :
    EndAlike (run live steps w) (run live' steps' w) := by
  -- by induction on the steps: each is carried out in one and the same world on both sides
  induction hsteps generalizing live live' w with
  | nil => exact ⟨rfl, hlive, rfl⟩
  | cons hstep _ ih =>
    obtain ⟨houtcome, hafter, hworld⟩ := Step.carryOut_alike hstep hlive w
    simp only [run, Act.bind_apply, Act.pure_apply, houtcome, hworld]
    obtain ⟨houtcomes, hafter', hworld'⟩ := ih hafter _
    exact ⟨congrArg (List.cons _) houtcomes, hafter', hworld'⟩

/-- **A profile has influence through a few settings only.**  Two scripts that differ in settings
of other sorts make the same calls, which are on record, and come to the same, step by step; and
their sockets differ in nothing but the profiles that they keep. -/
theorem profile_influence {steps steps' : List Step}
    (h : List.Forall₂ Step.Alike steps steps') (w : World σ) :
    EndAlike (run [] steps w.recorded) (run [] steps' w.recorded) :=
  run_alike h .nil w.recorded

/-- A stream is connected, closed and connected again, next to a datagram socket. -/
def roundTrip (p : Profile) : List Step :=
  [.newStream p, .newDatagram p .system, .ask 0 (.stream (.connect "127.0.0.1" 7 none)),
    .ask 0 (.stream .close), .ask 0 (.stream (.reconnect none))]

/-- Two presets cannot be told apart by it. -/
theorem profile_influence_presets :
    Profile.standard ≠ Profile.lowLatency ∧
      List.Forall₂ Step.Alike (roundTrip .standard) (roundTrip .lowLatency) ∧
      EndAlike (run [] (roundTrip .standard) (World.granting false []).recorded)
        (run [] (roundTrip .lowLatency) (World.granting false []).recorded) := by
  have hstreams : Profile.standard.SameForStreams .lowLatency := ⟨rfl, rfl, rfl, rfl⟩
  have hdatagrams : Profile.standard.SameForDatagrams .lowLatency := ⟨rfl, rfl, rfl⟩
  have hsteps : List.Forall₂ Step.Alike (roundTrip .standard) (roundTrip .lowLatency) :=
    .cons (.newStream (by decide) hstreams) (.cons (.newDatagram (by decide) hdatagrams _)
      (.cons (.ask _ _) (.cons (.ask _ _) (.cons (.ask _ _) .nil))))
  exact ⟨by decide, hsteps, profile_influence hsteps _⟩

end Script

end ProfiledSocket
