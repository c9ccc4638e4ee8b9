import DacStream.Proofs.RejectedRequests

/-!
# Runs of a bench

A run of a bench is a row of requests: the owners of its sessions ask them something, faults
are prepared on the simulator, and the simulator makes transfers, one of which an operation
may wait for.  A session is started, stopped and closed on the device of the bench, whatever
device its owner has in mind.

The device runs for one session or for none (`Bench.Shares`).  What a request makes of this
is said once for one session and the device (`RunMove`): either neither of them notices
anything, or a run begins on a device that was free, or the run of this very session ends.
A transfer never ends a run, since every session has an answer to it.  From there it holds
after every run of the bench (`Bench.shares_after`).
-/

namespace DacStream

set_option autoImplicit false

/-! ## Requests -/

namespace SessionRequest

/-- Whether a request comes from the owner of a session, and not from the device. -/
def isOwners : SessionRequest → Bool
  | .transfer _ _ | .deviceStep _ | .runEnds _ => false
  | _ => true

/-- Whether a request may wait for a transfer. -/
def mayWait : SessionRequest → Bool
  | @write _ _ _ _ | .acquireBuffer => true
  | _ => false

/-- The request, made with a device. -/
def on (device : Device) : SessionRequest → SessionRequest
  | .setUp request _ => .setUp request device.limits
  | .activate flags _ => .activate flags device
  | .deactivate flags _ => .deactivate flags device
  | .close _ => .close device
  | other => other

/-- The answer to a request, as that of an operation that fails with the error in it. -/
def outcome (request : SessionRequest) (session : Session) : Except StreamError SessionAnswer :=
  match (request.answer session).error? with
  | some error => .error error
  | none => .ok (request.answer session)

/-- One attempt at a request. -/
def attempt (request : SessionRequest) (session : Session) :
    Except StreamError SessionAnswer × Session :=
  (request.outcome session, request.run session)

theorem leavesRun_of_mayWait {request : SessionRequest} (waits : request.mayWait = true) :
    request.leavesRun = true := by
  cases request <;> first | rfl | cases waits

end SessionRequest

/-- What is done to a simulator between transfers. -/
inductive Preparation where
  | underruns (count : UInt32)
  | deviceError
  | startFailure (error : DeviceError)
  | takeCaptured
  deriving DecidableEq, Repr

/-- The simulator after that. -/
def Preparation.run : Preparation → Simulator → Simulator
  | .underruns count, simulator => simulator.injectUnderruns count
  | .deviceError, simulator => simulator.injectDeviceError
  | .startFailure error, simulator => simulator.injectStartFailure error
  | .takeCaptured, simulator => simulator.takeCaptured.2

/-- What can be asked of a bench. -/
inductive BenchRequest : Type 1 where
  /-- The owner of a session asks it something. -/
  | ask (index : Nat) (request : SessionRequest) (owners : request.isOwners = true)
  | prepare (preparation : Preparation)
  /-- The device makes a transfer. -/
  | step (transfer : TransferRequest)
  /-- It does so while a request to a session waits for it. -/
  | stepDuring (index : Nat) (request : SessionRequest) (waits : request.mayWait = true)
      (transfer : TransferRequest)

namespace Bench

/-- The owner of a session asks it something. -/
def ask (bench : Bench) (index : Nat) (request : SessionRequest) :
    Option (SessionAnswer × Bench) :=
  bench.onBoth index fun session device =>
    let answer := (request.on device).answer session
    (answer, (request.on device).run session, answer.device?.getD device)

/-- The device makes a transfer while a request to a session waits for it. -/
def askDuring (bench : Bench) (index : Nat) (request : SessionRequest)
    (transfer : TransferRequest) : Option (Except StreamError SessionAnswer × StepAnswer × Bench) :=
  bench.stepDuring index transfer request.attempt

end Bench

namespace BenchRequest

/-- The bench after a request, its answer left aside. -/
def run : BenchRequest → Bench → Bench
  | .ask index request _, bench => ((bench.ask index request).map Prod.snd).getD bench
  | .prepare preparation, bench =>
      ((bench.onSimulator fun simulator => ((), preparation.run simulator)).map Prod.snd).getD bench
  | .step transfer, bench => (bench.step transfer).2
  | .stepDuring index request _ transfer, bench =>
      ((bench.askDuring index request transfer).map fun done => done.2.2).getD bench

/-- What became of the transfer that was asked for, if one was. -/
def stepAnswer? : BenchRequest → Bench → Option StepAnswer
  | .ask _ _ _, _ | .prepare _, _ => none
  | .step transfer, bench => some (bench.step transfer).1
  | .stepDuring index request _ transfer, bench =>
      (bench.askDuring index request transfer).map fun done => done.2.1

end BenchRequest

namespace Bench

/-- The bench after a row of requests. -/
def after (bench : Bench) (requests : List BenchRequest) : Bench :=
  requests.foldl (fun reached request => request.run reached) bench

theorem after_cons (bench : Bench) (request : BenchRequest) (requests : List BenchRequest) :
    bench.after (request :: requests) = (request.run bench).after requests := rfl

end Bench

/-! ## What becomes of a run -/

namespace Session

theorem isTransmitting_iff {session : Session} :
    session.isTransmitting = true ↔
      ∃ stream ending, session = .active stream (.untilStopped ending) := by
  rcases session with _ | stream | ⟨stream, ending | ending⟩ <;>
    simp [isTransmitting, Run.isOver]

theorem isTransmitting_of_run? {session later : Session} (same : later.run? = session.run?) :
    later.isTransmitting = session.isTransmitting := by
  have read (some : Session) :
      some.isTransmitting = (some.run?.any fun run => !run.isOver) := by
    cases some <;> rfl
  rw [read, read, same]

end Session

/-- What can become of the run of a simulator when something is asked of a session on it. -/
inductive RunMove (session : Session) (simulator : Simulator) (later : Session)
    (left : Simulator) : Prop
  /-- Nothing. -/
  | none (sameSession : later.isTransmitting = session.isTransmitting)
      (sameDevice : left.running = simulator.running)
  /-- A run begins for the session. -/
  | begin (before : session.isTransmitting = false) (free : simulator.running = false)
      (now : later.isTransmitting = true) (running : left.running = true)
  /-- The run of the session ends. -/
  | finish (before : session.isTransmitting = true) (now : later.isTransmitting = false)
      (stopped : left.running = false)

/-- A simulator in use is busy; a free one fails if that was prepared, and runs otherwise. -/
theorem Simulator.start_cases (simulator : Simulator) :
    (simulator.running = true ∧ simulator.start = (.error .busy, simulator)) ∨
    (simulator.running = false ∧ ∃ error,
      simulator.start = (.error error, { simulator with startFailure := none })) ∨
    (simulator.running = false ∧
      simulator.start = (.ok (), { simulator with running := true })) := by
  unfold start
  cases running : simulator.running with
  | true => exact .inl ⟨rfl, rfl⟩
  | false =>
      cases simulator.startFailure with
      | some error => exact .inr (.inl ⟨rfl, error, rfl⟩)
      | none => exact .inr (.inr ⟨rfl, rfl⟩)

namespace Session

variable (session : Session) (simulator : Simulator)

/-- The run of an activation is refused by the simulator, or it begins. -/
theorem activate_simulated (stream : Stream) :
    (∃ error left, left.running = simulator.running ∧
      (simulator.running = true → error = .busy ∧ left = simulator) ∧
      (configured stream).activate 0 (.simulated simulator) =
        (.ok (), .active (stream.restart.noteEnding (.failed error)) (.over (.failed error)),
          .simulated left)) ∨
    (simulator.running = false ∧
      (configured stream).activate 0 (.simulated simulator) =
        (.ok (), .active stream.restart (.untilStopped .returned),
          .simulated { simulator with running := true })) := by
  obtain ⟨running, same⟩ | ⟨free, error, same⟩ | ⟨free, same⟩ := simulator.start_cases
  · exact .inl ⟨.busy, simulator, rfl, fun _ => ⟨rfl, rfl⟩, by simp [activate, Device.start, same]⟩
  · refine .inl ⟨error, { simulator with startFailure := none }, rfl, fun running => ?_,
      by simp [activate, Device.start, same]⟩
    rw [free] at running
    cases running
  · exact .inr ⟨free, by simp [activate, Device.start, same]⟩

theorem runMove_activate (flags : Int) :
    ∃ left, (session.activate flags (.simulated simulator)).2.2 = .simulated left ∧
      RunMove session simulator (session.activate flags (.simulated simulator)).2.1 left := by
  by_cases known : flags = 0
  · subst known
    cases session with
    | idle | active => exact ⟨simulator, rfl, .none rfl rfl⟩
    | configured stream =>
        obtain ⟨error, left, sameRunning, -, same⟩ | ⟨free, same⟩ :=
          activate_simulated simulator stream <;> rw [same]
        · exact ⟨left, rfl, .none rfl sameRunning⟩
        · exact ⟨_, rfl, .begin rfl free rfl rfl⟩
  · simp only [activate, if_pos known]
    exact ⟨simulator, rfl, .none rfl rfl⟩

/-- Whoever stops a session stops its run, but not that of another one. -/
theorem runMove_endRun (stream : Stream) (run : Run) {later : Session}
    (still : later.isTransmitting = false) :
    ∃ left, (endRun stream run (.simulated simulator)).2.2 = .simulated left ∧
      RunMove (active stream run) simulator later left := by
  rcases run with planned | ending
  · exact ⟨simulator.finish, rfl, .finish rfl still rfl⟩
  · exact ⟨simulator, rfl, .none still rfl⟩

theorem runMove_deactivate (flags : Int) :
    ∃ left, (session.deactivate flags (.simulated simulator)).2.2 = .simulated left ∧
      RunMove session simulator (session.deactivate flags (.simulated simulator)).2.1 left := by
  by_cases known : flags = 0
  · subst known
    cases session with
    | idle | configured => exact ⟨simulator, rfl, .none rfl rfl⟩
    | active stream run => exact runMove_endRun simulator stream run rfl
  · simp only [deactivate, if_pos known]
    exact ⟨simulator, rfl, .none rfl rfl⟩

theorem runMove_close :
    ∃ left, (session.close (.simulated simulator)).2.2 = .simulated left ∧
      RunMove session simulator (session.close (.simulated simulator)).2.1 left := by
  cases session with
  | idle | configured => exact ⟨simulator, rfl, .none rfl rfl⟩
  | active stream run => exact runMove_endRun simulator stream run rfl

/-- No stream is set up in the middle of a run. -/
theorem runMove_setUp (wanted : StreamRequest) (limits : DeviceLimits) :
    RunMove session simulator (session.setUp wanted limits).2 simulator := by
  refine .none ?_ rfl
  cases session with
  | active => rfl
  | idle | configured =>
      rw [setUp]
      cases StreamConfig.create wanted limits <;> rfl

end Session

/-- Whatever the owner of a session asks, the run of the simulator goes with that of the
session. -/
theorem SessionRequest.runMove {request : SessionRequest} (owners : request.isOwners = true)
    (session : Session) (simulator : Simulator) :
    ∃ left,
      ((request.on (.simulated simulator)).answer session).device?.getD (.simulated simulator) =
        .simulated left ∧
      RunMove session simulator ((request.on (.simulated simulator)).run session) left := by
  cases request with
  | transfer | deviceStep | runEnds => cases owners
  | setUp wanted limits => exact ⟨simulator, rfl, session.runMove_setUp simulator wanted _⟩
  | activate flags => exact session.runMove_activate simulator flags
  | deactivate flags => exact session.runMove_deactivate simulator flags
  | close => exact session.runMove_close simulator
  | write | flush | acquireBuffer | fillBuffer | releaseBuffer | requestReset | signalFault
  | readStatus | setHardwareTime =>
      refine ⟨simulator, rfl, .none (Session.isTransmitting_of_run? ?_) rfl⟩
      exact run?_of_leavesRun rfl session

/-! ## One run at most -/

namespace Bench

/-- The sessions of a bench share its simulator: it runs for one of them or for none. -/
structure Shares (bench : Bench) (simulator : Simulator) : Prop where
  device : bench.device = .simulated simulator
  transmitters : bench.sessions.countP Session.isTransmitting = simulator.running.toNat
  sound : ∀ session ∈ bench.sessions, session.Sound

/-- Whether the session at an index has a run that goes on. -/
def Transmits (bench : Bench) (index : Nat) : Prop :=
  ∃ session, bench.sessions[index]? = some session ∧ session.isTransmitting = true

theorem transmits_iff {bench : Bench} {index : Nat} {session : Session}
    (there : bench.sessions[index]? = some session) :
    bench.Transmits index ↔ session.isTransmitting = true := by
  simp [Transmits, there]

namespace Shares

variable {bench : Bench} {simulator : Simulator} {index : Nat} {session : Session}

/-- The number of transmitting sessions moves with the run of the simulator. -/
theorem move (shares : bench.Shares simulator) (there : bench.sessions[index]? = some session)
    {later : Session} {left : Simulator} (sound : later.Sound)
    (move : RunMove session simulator later left) :
    Shares { device := .simulated left, sessions := bench.sessions.set index later } left where
  device := rfl
  transmitters := by
    obtain ⟨bound, rfl⟩ := List.getElem?_eq_some_iff.mp there
    have member : bench.sessions[index].isTransmitting = true →
        0 < bench.sessions.countP Session.isTransmitting :=
      fun transmits => List.countP_pos_iff.mpr ⟨_, List.getElem_mem bound, transmits⟩
    have before := shares.transmitters
    rw [List.countP_set bound]
    cases move with
    | none sameSession sameDevice =>
        rw [sameSession, sameDevice, ← before]
        cases transmits : bench.sessions[index].isTransmitting with
        | false => simp
        | true =>
            have := member transmits
            simp
            omega
    | begin still free now running => simp [before, still, free, now, running]
    | finish transmits now stopped =>
        have one : simulator.running.toNat ≤ 1 := Bool.toNat_le _
        simp [before, transmits, now, stopped]
        omega
  sound := by
    intro other listed
    rcases List.mem_or_eq_of_mem_set listed with old | rfl
    · exact shares.sound other old
    · exact sound

/-- The simulator runs exactly if some session transmits. -/
theorem running_iff (shares : bench.Shares simulator) :
    simulator.running = true ↔ ∃ index, bench.Transmits index := by
  have positive : simulator.running = true ↔ 0 < bench.sessions.countP Session.isTransmitting := by
    rw [shares.transmitters]
    cases simulator.running <;> simp
  rw [positive, List.countP_pos_iff]
  constructor
  · rintro ⟨session, listed, transmits⟩
    obtain ⟨index, there⟩ := List.mem_iff_getElem?.mp listed
    exact ⟨index, session, there, transmits⟩
  · rintro ⟨index, session, there, transmits⟩
    exact ⟨session, List.mem_of_getElem? there, transmits⟩

/-- No two sessions transmit at once. -/
theorem unique (shares : bench.Shares simulator) {first second : Nat}
    (one : bench.Transmits first) (other : bench.Transmits second) : first = second := by
  by_contra different
  obtain ⟨session, there, transmits⟩ := one
  obtain ⟨rival, where', transmitsToo⟩ := other
  -- Without the first of them there would be none left, but the second is.
  have without : 0 < (bench.sessions.set first .idle).countP Session.isTransmitting := by
    refine List.countP_pos_iff.mpr ⟨rival, List.mem_of_getElem? (i := second) ?_, transmitsToo⟩
    rwa [List.getElem?_set_ne different]
  obtain ⟨bound, rfl⟩ := List.getElem?_eq_some_iff.mp there
  have most : simulator.running.toNat ≤ 1 := Bool.toNat_le _
  rw [List.countP_set bound, shares.transmitters, transmits] at without
  simp [Session.isTransmitting] at without
  omega

/-- The device transmits for the session that has a run. -/
theorem transmitter?_eq_some_iff (shares : bench.Shares simulator) :
    bench.transmitter? = some index ↔ bench.Transmits index := by
  have found {place : Nat} (same : bench.transmitter? = some place) : bench.Transmits place := by
    obtain ⟨bound, transmits, -⟩ := List.findIdx?_eq_some_iff_getElem.mp same
    exact ⟨_, List.getElem?_eq_getElem bound, transmits⟩
  constructor
  · exact found
  · intro transmits
    cases same : bench.transmitter? with
    | none =>
        obtain ⟨session, there, now⟩ := transmits
        have never := List.findIdx?_eq_none_iff.mp same session (List.mem_of_getElem? there)
        rw [now] at never
        cases never
    | some place => rw [shares.unique (found same) transmits]

theorem transmitter?_eq_none (shares : bench.Shares simulator) (idle : simulator.running = false) :
    bench.transmitter? = none := by
  cases same : bench.transmitter? with
  | none => rfl
  | some index =>
      have running := shares.running_iff.mpr ⟨index, shares.transmitter?_eq_some_iff.mp same⟩
      rw [idle] at running
      cases running

end Shares

end Bench

/-! ## Transfers -/

namespace Session

/-- A session that answers a transfer goes on with its run. -/
theorem Sound.serve_eq {stream : Stream} {ending : RunEnding}
    (sound : (active stream (.untilStopped ending)).Sound) (deviceChannels : Nat)
    (transfer : TransferRequest) :
    ∃ buffers, (stream.serve deviceChannels transfer).1 = some buffers ∧
      (active stream (.untilStopped ending)).serve deviceChannels transfer =
        (some buffers,
          .active (stream.serve deviceChannels transfer).2 (.untilStopped ending)) := by
  obtain ⟨buffers, answered⟩ := sound.serve_answers deviceChannels transfer
  exact ⟨buffers, answered, by simp only [serve, answered, afterAnswer]⟩

/-- Whatever slot the device got, a sound stream has a buffer for every channel. -/
theorem answers_of_sound {stream : Stream} (sound : stream.Sound) (deviceChannels : Nat)
    (grant? : Option Grant) :
    ∃ buffers,
      (stream.feed deviceChannels).answer? stream.handover.slots grant? = some buffers := by
  cases grant? with
  | none => exact ⟨_, rfl⟩
  | some grant =>
      have enough : (stream.feed deviceChannels).selection.length ≤
          stream.handover.slots.channels := Nat.le_of_eq sound.memory.channelCount.symm
      exact ⟨_, by rw [Feed.answer?, if_pos enough]⟩

/-- So does one that answers it while a request waits: neither the attempts nor the steps of
the device touch its run. -/
theorem Sound.serveWaiting_eq {stream : Stream} {ending : RunEnding}
    (sound : (active stream (.untilStopped ending)).Sound) {request : SessionRequest}
    (waits : request.mayWait = true) (deviceChannels : Nat) (transfer : TransferRequest) :
    ∃ answer buffers later,
      (active stream (.untilStopped ending)).serveWaiting request.attempt deviceChannels
          transfer = (answer, some buffers, .active later (.untilStopped ending)) ∧
        (active later (.untilStopped ending)).Sound := by
  have asked (reached : Session) : (request.run reached).run? = reached.run? :=
    SessionRequest.run?_of_leavesRun (SessionRequest.leavesRun_of_mayWait waits) reached
  have stepped (step : DeviceStep) (reached : Session) :
      ((SessionRequest.deviceStep step).run reached).run? = reached.run? :=
    SessionRequest.run?_of_leavesRun rfl reached
  rcases waited : attemptThroughSteps runStep request.attempt
    (transfer.steps stream.handover.slots.channelLength) (active stream (.untilStopped ending))
    with ⟨answer, grant?, reached⟩
  have kept : (attemptThroughSteps runStep request.attempt
      (transfer.steps stream.handover.slots.channelLength)
      (active stream (.untilStopped ending))).2.2.Sound ∧
      (attemptThroughSteps runStep request.attempt
        (transfer.steps stream.handover.slots.channelLength)
        (active stream (.untilStopped ending))).2.2.run? = some (.untilStopped ending) :=
    attemptThroughSteps_keeps
      (fun reached => reached.Sound ∧ reached.run? = some (.untilStopped ending)) _
      (fun reached kept => ⟨kept.1.run request, (asked reached).trans kept.2⟩)
      (fun step reached kept =>
        ⟨kept.1.run (.deviceStep step), (stepped step reached).trans kept.2⟩)
      ⟨sound, rfl⟩
  rw [waited] at kept
  obtain ⟨soundLater, sameRun⟩ := kept
  rcases reached with _ | _ | ⟨later, run⟩ <;> cases sameRun
  obtain ⟨buffers, answered⟩ := answers_of_sound (soundLater later rfl) deviceChannels grant?
  refine ⟨answer, buffers.map later.handover.slots.read, later, ?_, soundLater⟩
  simp only [serveWaiting, stream?, Option.map_some, Option.getD_some, waited, Option.bind_some,
    answered, afterAnswer]

end Session

namespace Bench

variable {α : Type} {bench : Bench} {simulator : Simulator} {index : Nat}

/-- The simulator once it has made a transfer. -/
def afterTransfer (simulator : Simulator) (buffers : BufferSet Bytes) : Simulator :=
  simulator.reported.record simulator.request buffers

/-- A transfer is made with the transmitting session, and with no other one. -/
theorem Shares.stepWith_eq (shares : bench.Shares simulator) {session : Session}
    (there : bench.sessions[index]? = some session) (transmits : session.isTransmitting = true)
    (transfer : TransferRequest) (initial : α)
    (serve : TransferRequest → Session → α × Option (BufferSet Bytes) × Session) {answer : α}
    {buffers : BufferSet Bytes} {later : Session}
    (served : serve simulator.request session = (answer, some buffers, later)) :
    bench.stepWith transfer initial serve =
      (.stepped (.ok ()), answer,
        { device := .simulated (afterTransfer simulator buffers)
          sessions := bench.sessions.set index later }) := by
  have transmitter : bench.transmitter? = some index :=
    shares.transmitter?_eq_some_iff.mpr ⟨session, there, transmits⟩
  have same : bench.sessions.getD index .idle = session := by simp [there]
  simp only [stepWith, transmitter, same, shares.device, Simulator.transfer, served]
  rfl

theorem Shares.stepWith_idle (shares : bench.Shares simulator) (idle : simulator.running = false)
    (transfer : TransferRequest) (initial : α)
    (serve : TransferRequest → Session → α × Option (BufferSet Bytes) × Session) :
    bench.stepWith transfer initial serve = (.notRunning, initial, bench) := by
  simp only [stepWith, shares.transmitter?_eq_none idle]

namespace Shares

/-- A transfer is answered by the stream that transmits, and changes no other. -/
theorem step_eq (shares : bench.Shares simulator) {stream : Stream} {ending : RunEnding}
    (there : bench.sessions[index]? = some (.active stream (.untilStopped ending)))
    (transfer : TransferRequest) :
    ∃ buffers later, (Session.active later (.untilStopped ending)).Sound ∧
      stream.serve simulator.config.channels simulator.request = (some buffers, later) ∧
      bench.step transfer =
        (.stepped (.ok ()),
          { device := .simulated (afterTransfer simulator buffers)
            sessions := bench.sessions.set index (.active later (.untilStopped ending)) }) := by
  have sound := shares.sound _ (List.mem_of_getElem? there)
  obtain ⟨buffers, answered, served⟩ :=
    sound.serve_eq bench.device.limits.channels simulator.request
  have channels : bench.device.limits.channels = simulator.config.channels := by
    rw [shares.device]
    rfl
  rw [channels] at answered served
  have soundLater := sound.run (.transfer simulator.config.channels simulator.request)
  rw [SessionRequest.run, served] at soundLater
  refine ⟨buffers, _, soundLater, Prod.ext answered rfl, ?_⟩
  have stepped := shares.stepWith_eq there rfl transfer ()
    (fun asked session => ((), session.serve simulator.config.channels asked))
    (congrArg (Prod.mk ()) served)
  rw [step, channels]
  exact congrArg (fun done => (done.1, done.2.2)) stepped

/-- Without a run there is no transfer. -/
theorem step_idle (shares : bench.Shares simulator) (idle : simulator.running = false)
    (transfer : TransferRequest) : bench.step transfer = (.notRunning, bench) := by
  rw [step, shares.stepWith_idle idle]

/-- A request that waits is helped by a transfer if it is made to the transmitting session; it
is tried before the transfer otherwise. -/
theorem askDuring_cases (shares : bench.Shares simulator) (index : Nat) {request : SessionRequest}
    (waits : request.mayWait = true) (transfer : TransferRequest) :
    (bench.sessions[index]? = none ∧ bench.askDuring index request transfer = none) ∨
    (∃ stream ending answer buffers later,
      bench.sessions[index]? = some (.active stream (.untilStopped ending)) ∧
      (Session.active later (.untilStopped ending)).Sound ∧
      bench.askDuring index request transfer = some (answer, .stepped (.ok ()),
        { device := .simulated (afterTransfer simulator buffers)
          sessions := bench.sessions.set index (.active later (.untilStopped ending)) })) ∨
    (∃ session attempted, bench.sessions[index]? = some session ∧
      session.isTransmitting = false ∧
      attempted = { bench with sessions := bench.sessions.set index (request.run session) } ∧
      attempted.Shares simulator ∧
      bench.askDuring index request transfer =
        some (request.outcome session, attempted.step transfer)) := by
  cases there : bench.sessions[index]? with
  | none =>
      have still : ¬bench.Transmits index := by simp [Transmits, there]
      have other : bench.transmitter? ≠ some index := mt shares.transmitter?_eq_some_iff.mp still
      exact .inl ⟨rfl, by simp [askDuring, stepDuring, other, onSession, there]⟩
  | some session =>
      have sound := shares.sound session (List.mem_of_getElem? there)
      cases transmits : session.isTransmitting with
      | true =>
          obtain ⟨stream, ending, rfl⟩ := Session.isTransmitting_iff.mp transmits
          obtain ⟨answer, buffers, later, served, soundLater⟩ :=
            sound.serveWaiting_eq waits bench.device.limits.channels simulator.request
          refine .inr (.inl ⟨stream, ending, answer, buffers, later, rfl, soundLater, ?_⟩)
          have transmitter : bench.transmitter? = some index :=
            shares.transmitter?_eq_some_iff.mpr ((transmits_iff there).mpr transmits)
          have stepped := shares.stepWith_eq there transmits transfer (.error .timeout)
            (fun asked session => session.serveWaiting request.attempt
              bench.device.limits.channels asked) served
          simp only [askDuring, stepDuring, transmitter, if_true, stepped]
      | false =>
          have still : ¬bench.Transmits index := by simp [transmits_iff there, transmits]
          have other : bench.transmitter? ≠ some index :=
            mt shares.transmitter?_eq_some_iff.mp still
          have sameRun : RunMove session simulator (request.run session) simulator := .none
            (Session.isTransmitting_of_run? (SessionRequest.run?_of_leavesRun
              (SessionRequest.leavesRun_of_mayWait waits) session)) rfl
          have attempted := shares.move there (sound.run request) sameRun
          rw [← shares.device] at attempted
          refine .inr (.inr ⟨session, _, rfl, transmits, rfl, attempted, ?_⟩)
          simp [askDuring, stepDuring, other, onSession, there, SessionRequest.attempt]

end Shares

/-! ## Every request -/

section

variable (shares : bench.Shares simulator)
include shares

theorem shares_ask (index : Nat) (request : SessionRequest) (owners : request.isOwners = true) :
    ∃ left, ((BenchRequest.ask index request owners).run bench).Shares left := by
  cases there : bench.sessions[index]? with
  | none => exact ⟨simulator, by simpa [BenchRequest.run, ask, onBoth, there] using shares⟩
  | some session =>
      obtain ⟨left, device, move⟩ := SessionRequest.runMove owners session simulator
      have sound := (shares.sound session (List.mem_of_getElem? there)).run
        (request.on (.simulated simulator))
      refine ⟨left, ?_⟩
      have moved := shares.move there sound move
      simpa [BenchRequest.run, ask, onBoth, there, shares.device, device] using moved

theorem shares_prepare (preparation : Preparation) :
    ∃ left, ((BenchRequest.prepare preparation).run bench).Shares left := by
  have sameRunning : (preparation.run simulator).running = simulator.running := by
    cases preparation <;> rfl
  refine ⟨preparation.run simulator, ?_⟩
  simp only [BenchRequest.run, onSimulator, shares.device]
  exact ⟨rfl, by rw [sameRunning]; exact shares.transmitters, shares.sound⟩

theorem shares_step (transfer : TransferRequest) : ∃ left, (bench.step transfer).2.Shares left := by
  cases running : simulator.running with
  | false =>
      rw [shares.step_idle running]
      exact ⟨simulator, shares⟩
  | true =>
      obtain ⟨index, session, there, transmits⟩ := shares.running_iff.mp running
      obtain ⟨stream, ending, rfl⟩ := Session.isTransmitting_iff.mp transmits
      obtain ⟨buffers, later, sound, -, same⟩ := shares.step_eq there transfer
      rw [same]
      exact ⟨_, shares.move there sound (.none rfl rfl)⟩

theorem shares_stepDuring (index : Nat) {request : SessionRequest}
    (waits : request.mayWait = true) (transfer : TransferRequest) :
    ∃ left, ((BenchRequest.stepDuring index request waits transfer).run bench).Shares left := by
  rw [BenchRequest.run]
  obtain ⟨-, same⟩ | ⟨stream, ending, answer, buffers, later, there, sound, same⟩ |
    ⟨session, attempted, -, -, -, sharesToo, same⟩ := shares.askDuring_cases index waits transfer
  · rw [same]
    exact ⟨simulator, shares⟩
  · rw [same]
    exact ⟨_, shares.move there sound (.none rfl rfl)⟩
  · rw [same]
    exact shares_step sharesToo transfer

/-- Whatever is asked of a bench, its sessions go on sharing the simulator. -/
theorem shares_run (request : BenchRequest) : ∃ left, (request.run bench).Shares left := by
  cases request with
  | ask index request owners => exact shares_ask shares index request owners
  | prepare preparation => exact shares_prepare shares preparation
  | step transfer => exact shares_step shares transfer
  | stepDuring index request waits transfer => exact shares_stepDuring shares index waits transfer

end

/-- So they do through a row of requests. -/
theorem shares_after (shares : bench.Shares simulator) (requests : List BenchRequest) :
    ∃ left, (bench.after requests).Shares left := by
  induction requests generalizing bench simulator with
  | nil => exact ⟨simulator, shares⟩
  | cons request requests inductionHypothesis =>
      obtain ⟨left, moved⟩ := shares_run shares request
      exact inductionHypothesis moved

/-- Idle sessions share a simulator that was never used. -/
theorem shares_create (config : SimulatorConfig) (sessions : Nat) :
    (create (.simulated (Simulator.create config)) sessions).Shares (Simulator.create config) where
  device := rfl
  transmitters := by
    refine List.countP_eq_zero.mpr fun session listed => ?_
    obtain ⟨-, rfl⟩ := List.mem_replicate.mp listed
    decide
  sound := by
    intro session listed
    obtain ⟨-, rfl⟩ := List.mem_replicate.mp listed
    exact Session.sound_idle

end Bench

end DacStream
