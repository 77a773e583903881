/-
The host is a kernel: signals interrupt calls on it only so often.

Main results:
* `Host.patience_wait_lt` — a wait that a signal ended used up one of the signals to come;
* `Host.answer_interrupted` — only such waits are interrupted.
-/
import ProfiledSocket.Host.Calls

namespace ProfiledSocket.Host

/-! ### What leaves the signals alone -/

@[simp] theorem signals_putFile (h : Host) (fd : Descriptor) (file : File) :
    (h.putFile fd file).signals = h.signals := rfl

@[simp] theorem signals_putSocket (h : Host) (fd : Descriptor) (s : Socket) :
    (h.putSocket fd s).signals = h.signals := by
  unfold putSocket
  split <;> simp

@[simp] theorem signals_bind (h : Host) (fd : Descriptor) (s : Socket) (addr : Endpoint) :
    (h.bind fd s addr).2.signals = h.signals := by
  unfold bind choosePort
  split
  · rfl
  · split
    · simp
    · split <;> simp

@[simp] theorem signals_bindAnywhere (h : Host) (fd : Descriptor) (s : Socket) :
    (h.bindAnywhere fd s).signals = h.signals := by
  unfold bindAnywhere
  split <;> simp

@[simp] theorem signals_deliver (h : Host) (fd : Descriptor) (data : List UInt8) :
    (h.deliver fd data).signals = h.signals := by
  unfold deliver
  split
  · rfl
  · split <;> simp
  · rfl

/-! ### Waits -/

/-- A signal uses itself up. -/
theorem patience_signal_lt (h : Host) (signals : Signals)
    (hs : h.pendingSignals = some signals) : (h.signal signals).patience < h.patience := by
  have hleft : 0 < signals.left := by
    have := (Option.filter_eq_some_iff.1 hs).2
    simpa using this
  have hbefore : h.patience = signals.left := by simp [patience, hs]
  have hafter : (h.signal signals).signals.map Signals.left = some (signals.left - 1) := by
    unfold signal
    split
    · split <;> simp
    · rfl
  have : (h.signal signals).patience ≤ signals.left - 1 := by
    unfold patience pendingSignals
    cases hcase : (h.signal signals).signals with
    | none => simp
    | some later =>
      have : later.left = signals.left - 1 := by simpa [hcase] using hafter
      rw [← this]
      by_cases hpos : later.left > 0 <;> simp [Option.filter, hpos]
  omega

/-- A wait that a signal ended used up one of the signals to come. -/
theorem patience_wait_lt (h : Host) (deadline : Option Nat)
    (hw : (h.wait deadline).1 = .interrupted) : (h.wait deadline).2.patience < h.patience := by
  unfold wait at hw ⊢
  split
  · simp_all
  · simp_all
  · rename_i signals hs
    exact h.patience_signal_lt signals hs
  · rename_i signals time hs
    split
    · simp_all
    · exact h.patience_signal_lt signals hs

theorem patience_waitForever_lt (h : Host) (hw : h.waitForever.1 = .interrupted) :
    h.waitForever.2.patience < h.patience := by
  have := h.patience_wait_lt none
  unfold waitForever at hw ⊢
  split
  · rename_i h' heq
    simpa [heq] using this
  · simp_all [Errno.deadlock, Errno.interrupted]

/-! ### Errors that are no interruption -/

theorem usable_ne_interrupted (h : Host) (fd : Descriptor) :
    h.usable fd ≠ .error .interrupted := by
  unfold usable
  split <;> simp [Errno.badDescriptor, Errno.interrupted]

theorem socket_ne_interrupted (h : Host) (fd : Descriptor) :
    h.socket fd ≠ .error .interrupted := by
  unfold socket
  have := h.usable_ne_interrupted fd
  split
  · simp_all
  · simp
  · simp [Errno.notSocket, Errno.interrupted]

theorem allocate_ne_interrupted (h : Host) : h.allocate ≠ .error .interrupted := by
  unfold allocate
  split <;> simp [Errno.tooManyFiles, Errno.interrupted]

theorem bind_ne_interrupted (h : Host) (fd : Descriptor) (s : Socket) (addr : Endpoint) :
    (h.bind fd s addr).1 ≠ .error .interrupted := by
  unfold bind
  split
  · simp [Errno.invalidArgument, Errno.interrupted]
  · split
    · simp
    · split <;> simp [Errno.addressInUse, Errno.interrupted]

theorem listen_ne_interrupted (h : Host) (fd : Descriptor) :
    (h.listen fd).1 ≠ .error .interrupted := by
  unfold listen
  have := h.socket_ne_interrupted fd
  split
  · simp_all
  · rename_i s _ _
    split
    · simp [Errno.notSupported, Errno.interrupted]
    · split
      · simp
      · have := (h.bindAnywhere fd s).socket_ne_interrupted fd
        simp only
        split
        · simp_all
        · split <;> simp [Errno.addressInUse, Errno.interrupted]

theorem connect_ne_interrupted (h : Host) (fd : Descriptor) :
    (h.connect fd).1 ≠ .interrupted := by
  unfold connect
  have := h.socket_ne_interrupted fd
  split
  · simp_all
  · split
    · simp [Errno.networkUnreachable, Errno.interrupted]
    · split <;> simp [Errno.alreadyConnected, Errno.networkUnreachable, Errno.interrupted]

theorem set_ne_interrupted (o : Options) (transport : Transport) (option : OptionName)
    (value : List UInt8) : o.set transport option value ≠ .error .interrupted := by
  have hbounded : ∀ (limit : Nat) (n : Int32), bounded limit n ≠ .error .interrupted := by
    intro limit n
    unfold bounded
    split <;> simp [Errno.invalidArgument, Errno.interrupted]
  have hmap : ∀ (f : Nat → Options) (limit : Nat) (n : Int32),
      (bounded limit n).map f ≠ .error .interrupted := by
    intro f limit n
    have := hbounded limit n
    cases hcase : bounded limit n <;> simp_all [Except.map]
  unfold Options.set
  split
  · split
    · unfold Options.setCommon
      split <;>
        first
        | (split <;> simp [Errno.invalidArgument, Errno.noSuchOption, Errno.interrupted])
        | simp
    · simp [Errno.invalidArgument, Errno.interrupted]
  · split
    · split
      · unfold Options.setStream
        split
        · simp
        · exact hmap _ _ _
        · exact hmap _ _ _
        · exact hmap _ _ _
        · split <;> simp [Errno.noSuchOption, Errno.interrupted]
      · simp [Errno.invalidArgument, Errno.interrupted]
    · simp [Errno.noSuchOption, Errno.interrupted]

theorem setOption_ne_interrupted (h : Host) (fd : Descriptor) (option : OptionName)
    (value : List UInt8) : (h.setOption fd option value).1 ≠ .error .interrupted := by
  unfold setOption
  have := h.socket_ne_interrupted fd
  split
  · simp_all
  · rename_i s _ _
    have := set_ne_interrupted s.options s.transport option value
    split <;> simp_all

theorem setEach_ne_interrupted (o : Options) (transport : Transport)
    (values : List (OptionName × Int32)) :
    (o.setEach transport values).1 ≠ .error .interrupted := by
  induction values generalizing o with
  | nil => simp [Options.setEach]
  | cons value rest ih =>
    have hset := set_ne_interrupted o transport value.1 (intBytes value.2)
    unfold Options.setEach
    split
    · simp_all
    · exact ih _

theorem setKeepaliveTiming_ne_interrupted (h : Host) (fd : Descriptor) (timing : Keepalive) :
    (h.setKeepaliveTiming fd timing).1 ≠ .error .interrupted := by
  unfold setKeepaliveTiming
  have := h.socket_ne_interrupted fd
  split
  · simp_all
  · rename_i s _ _
    exact setEach_ne_interrupted s.options s.transport (timingValues timing)

theorem setNonblocking_ne_interrupted (h : Host) (fd : Descriptor) (on : Bool) :
    (h.setNonblocking fd on).1 ≠ .error .interrupted := by
  unfold setNonblocking
  have := h.usable_ne_interrupted fd
  split
  · simp [Errno.badDescriptor, Errno.interrupted]
  · split
    · simp
    · split <;> simp_all

theorem sendDatagram_ne_interrupted (s : Socket) (length : Nat) (destination : Option Endpoint) :
    sendDatagram s length destination ≠ .error .interrupted := by
  unfold sendDatagram
  split
  · split <;> simp [Errno.messageTooLong, Errno.destinationRequired, Errno.interrupted]
  · repeat' split
    all_goals simp [Errno.messageTooLong, Errno.invalidArgument, Errno.networkUnreachable,
      Errno.brokenPipe, Errno.interrupted]

theorem send_ne_interrupted (h : Host) (fd : Descriptor) (data : List UInt8)
    (destination : Option Endpoint) :
    (h.send fd data destination).1 ≠ .error .interrupted := by
  unfold send
  have := h.socket_ne_interrupted fd
  split
  · simp_all
  · split
    · simp [Errno.brokenPipe, Errno.interrupted]
    · exact sendDatagram_ne_interrupted _ _ _

/-! ### Calls that wait -/

theorem patience_poll_lt (h : Host) (fd : Descriptor) (interest : Option Interest)
    (millis : Int32) (hp : (h.poll fd interest millis).1 = .error .interrupted) :
    (h.poll fd interest millis).2.patience < h.patience := by
  have hwait := h.patience_wait_lt (h.deadline millis)
  unfold poll at hp ⊢
  repeat' split
  all_goals simp_all [Errno.invalidArgument, Errno.deadlock, Errno.interrupted]

theorem patience_accept_lt (h : Host) (fd : Descriptor) (ha : (h.accept fd).1 = .interrupted) :
    (h.accept fd).2.patience < h.patience := by
  have hwait := h.patience_waitForever_lt
  have := h.usable_ne_interrupted fd
  have := h.allocate_ne_interrupted
  unfold accept at ha ⊢
  repeat' split
  all_goals simp_all [Errno.notSupported, Errno.invalidArgument, Errno.again, Errno.notSocket,
    Errno.interrupted]

theorem patience_receive_lt (h : Host) (fd : Descriptor) (capacity : Nat)
    (hr : (h.receive fd capacity).1 = .error .interrupted) :
    (h.receive fd capacity).2.patience < h.patience := by
  have hwait := h.patience_waitForever_lt
  have := h.socket_ne_interrupted fd
  unfold receive at hr ⊢
  repeat' split
  all_goals simp_all [Errno.notConnected, Errno.again, Errno.interrupted]

/-- A call that a signal interrupted used up one of the signals to come. -/
theorem answer_interrupted (h : Host) (call : Call)
    (ha : (h.answer call).1 = .error .interrupted) :
    (h.answer call).2.patience < h.patience := by
  cases call with
  | socket transport =>
    have := h.allocate_ne_interrupted
    simp only [answer, openNew] at ha
    split at ha <;> simp_all
  | close fd => simp [answer] at ha
  | bind fd addr =>
    simp only [answer] at ha
    split at ha
    · exact absurd (by simp_all) (h.socket_ne_interrupted fd)
    · exact absurd ha (h.bind_ne_interrupted _ _ _)
  | listen fd backlog => exact absurd ha (h.listen_ne_interrupted fd)
  | accept fd =>
    refine h.patience_accept_lt fd ?_
    simpa [answer] using ha
  | connect fd addr =>
    exact absurd (by simpa [answer] using ha) (h.connect_ne_interrupted fd)
  | localAddress fd =>
    have := h.socket_ne_interrupted fd
    cases hcase : h.socket fd <;> simp_all [answer, Except.map]
  | takeError fd =>
    have := h.socket_ne_interrupted fd
    cases hcase : h.socket fd <;> simp_all [answer, Except.map]
  | setOption fd option value => exact absurd ha (h.setOption_ne_interrupted fd option value)
  | setKeepaliveTiming fd timing =>
    exact absurd ha (h.setKeepaliveTiming_ne_interrupted fd timing)
  | setNonblocking fd on => exact absurd ha (h.setNonblocking_ne_interrupted fd on)
  | send fd data destination quiet => exact absurd ha (h.send_ne_interrupted fd data destination)
  | receive fd capacity => exact h.patience_receive_lt fd capacity ha
  | poll fd interest millis => exact h.patience_poll_lt fd interest millis ha

instance : Kernel Host where
  answer := answer
  now := now
  realtime h := some (UInt64.ofNat (bootTime + h.now))
  patience := patience
  patience_lt := answer_interrupted

end ProfiledSocket.Host
