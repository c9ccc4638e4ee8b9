import DacStream.Handover.Waiting
import DacStream.Proofs.HandleLifetime
import DacStream.Proofs.SlotDates

/-!
# How the end of a run is made known

A run of the device can end without being stopped: the device returns, fails or crashes.
What is left of it is noted in the session (`Session.ending?`), and it comes about in two
ways only, for a sound session never lets the device crash on a transfer.  Either a run that
went on ends, or a run that was just started is over at once (`SessionRequest.ending_cases`).

A run that failed leaves an underflow behind, and that is all it takes to make its end
known.  It is counted once, a status query reports it as soon as nothing else has
interfered, and the writer is told, also one who waits for a slot at that time
(`Stream.told_noteEnding`).  A run that returned or crashed leaves nothing behind.  So the
end is made known exactly if the device failed (`Session.ending_made_known_iff`); whoever
waits for a slot on a full ring when the device returns goes on waiting
(`Session.returned_run_unknown`).
-/

namespace DacStream

set_option autoImplicit false

/-! ## The run of a session -/

namespace Session

/-- The run of the device, if the session is active. -/
def run? : Session → Option Run
  | .active _ run => some run
  | _ => none

/-- How the run of the device ended, if it is over. -/
def ending? (session : Session) : Option RunEnding :=
  match session.run? with
  | some (.over ending) => some ending
  | _ => none

theorem ending?_eq_some_iff {session : Session} {ending : RunEnding} :
    session.ending? = some ending ↔ ∃ stream, session = .active stream (.over ending) := by
  constructor
  · intro isOver
    rcases session with _ | stream | ⟨stream, planned | ended⟩
    · cases isOver
    · cases isOver
    · cases isOver
    · obtain rfl := Option.some.inj isOver
      exact ⟨stream, rfl⟩
  · rintro ⟨stream, rfl⟩
    rfl

theorem run?_mapStream (session : Session) (change : Stream → Stream) :
    (session.mapStream change).run? = session.run? := by
  cases session <;> rfl

section

variable {α : Type} (session : Session) (operation : String)
  (act : Stream → Except StreamError α × Stream)

theorem run?_whenActive : (session.whenActive operation act).2.run? = session.run? := by
  cases session <;> rfl

theorem run?_whenTransmitting :
    (session.whenTransmitting operation act).2.run? = session.run? := by
  rcases session with _ | stream | ⟨stream, planned | ended⟩ <;> rfl

end

/-- A sound session has an answer to every transfer: a slot has a payload for each channel
that is selected. -/
theorem Sound.serve_answers {stream : Stream} {ending : RunEnding}
    (sound : (active stream (.untilStopped ending)).Sound) (deviceChannels : Nat)
    (request : TransferRequest) :
    ∃ buffers, (stream.serve deviceChannels request).1 = some buffers := by
  have memory := (sound stream rfl).memory
  cases served : request.isServed stream.handover.slots.channelLength with
  | false =>
      simp only [Stream.serve, Feed.transfer_of_refused _ _ _ served]
      exact ⟨_, rfl⟩
  | true =>
      have taken : stream.handover.take.2.slots.Shaped stream.config.bufferCount
        stream.config.channelCount stream.config.bufferLength := Stream.shaped_run memory .take
      have enough : (stream.feed deviceChannels).selection.length ≤
          stream.handover.take.2.slots.channels := Nat.le_of_eq taken.channelCount.symm
      simp only [Stream.serve, Feed.transfer_of_served _ _ _ served, Feed.answer?]
      cases stream.handover.take.1 with
      | none => exact ⟨_, rfl⟩
      | some grant =>
          exact ⟨_, by simp only [if_pos enough]; rfl⟩

end Session

namespace SessionRequest

/-- Whether a request leaves the run of the device alone, whatever state the session is
in. -/
def leavesRun : SessionRequest → Bool
  | .setUp _ _ | .activate _ _ | .deactivate _ _ | .close _ | .transfer _ _ | .runEnds _ => false
  | @write _ _ _ _ | .flush | .acquireBuffer | .fillBuffer _ _ | .releaseBuffer _ _
  | .requestReset | .signalFault _ | .readStatus | .setHardwareTime _ _ | .deviceStep _ => true

variable {request : SessionRequest} {session : Session} {ending : RunEnding}

theorem run?_of_leavesRun (leaves : request.leavesRun = true) (session : Session) :
    (request.run session).run? = session.run? := by
  cases request with
  | setUp | activate | deactivate | close | transfer | runEnds => exact nomatch leaves
  | write inputs count => exact session.run?_whenTransmitting _ _
  | flush => exact session.run?_whenActive _ _
  | acquireBuffer => exact session.run?_whenTransmitting _ _
  | releaseBuffer handle elements => exact session.run?_whenActive _ _
  | fillBuffer => cases session <;> rfl
  | requestReset | signalFault | readStatus | setHardwareTime | deviceStep =>
      rw [run_of_passedOn rfl]
      exact session.run?_mapStream _

/-- Setting up a stream ends no run. -/
theorem ending_of_setUp {wanted : StreamRequest} {limits : DeviceLimits}
    (isOver : ((setUp wanted limits).run session).ending? = some ending) :
    session.ending? = some ending := by
  by_cases setsUp : (setUp wanted limits).SetsUp session
  · obtain ⟨_, _, config, -, -, same⟩ := run_of_setsUp setsUp
    rw [same] at isOver
    cases isOver
  · rwa [run_setUp_of_refused setsUp] at isOver

/-- Nor does a transfer: a source that has an answer does not crash. -/
theorem ending_of_transfer (sound : session.Sound) {deviceChannels : Nat}
    {asked : TransferRequest}
    (isOver : ((transfer deviceChannels asked).run session).ending? = some ending) :
    session.ending? = some ending := by
  rcases session with _ | stream | ⟨stream, planned | ended⟩
  · cases isOver
  · cases isOver
  · obtain ⟨buffers, answered⟩ := sound.serve_answers deviceChannels asked
    simp only [run, Session.serve, answered] at isOver
    cases isOver
  · exact isOver

/-- The run that an activation starts may be over at once. -/
theorem ending_of_activate {flags : Int} {device : Device}
    (isOver : ((activate flags device).run session).ending? = some ending) :
    session.ending? = some ending ∨
      ∃ stream, session = .configured stream ∧ flags = 0 ∧
        (activate flags device).run session =
          .active (stream.restart.noteEnding ending) (.over ending) := by
  by_cases known : flags = 0
  · subst known
    rcases session with _ | stream | ⟨stream, going⟩
    · cases isOver
    · rcases starts : device.start stream.config.asyncBuffers with ⟨planned | ended, later⟩
      · rw [run, Session.activate_of_runs stream starts] at isOver
        cases isOver
      · have reached := Session.activate_of_over stream starts
        rw [run, reached] at isOver
        obtain rfl := Option.some.inj isOver
        exact .inr ⟨stream, rfl, rfl, reached⟩
    · exact .inl isOver
  · rw [run, Session.activate_of_flags known] at isOver
    exact .inl isOver

/-- A deactivation leaves no run behind. -/
theorem ending_of_deactivate {flags : Int} {device : Device}
    (isOver : ((deactivate flags device).run session).ending? = some ending) :
    session.ending? = some ending := by
  by_cases known : flags = 0
  · subst known
    cases session <;> cases isOver
  · rwa [run, Session.deactivate_of_flags known] at isOver

/-- A run is over because it was over before, or because it has just ended, or because it
ended as soon as it was started. -/
theorem ending_cases (sound : session.Sound)
    (isOver : (request.run session).ending? = some ending) :
    session.ending? = some ending ∨
    (∃ stream planned, session = .active stream (.untilStopped planned) ∧
      request = .runEnds ending ∧
      request.run session = .active (stream.noteEnding ending) (.over ending)) ∨
    (∃ stream device, session = .configured stream ∧ request = .activate 0 device ∧
      request.run session = .active (stream.restart.noteEnding ending) (.over ending)) := by
  cases leaves : request.leavesRun with
  | true =>
      rw [Session.ending?, run?_of_leavesRun leaves] at isOver
      exact .inl isOver
  | false =>
      cases request with
      | write | flush | acquireBuffer | fillBuffer | releaseBuffer | requestReset | signalFault
      | readStatus | setHardwareTime | deviceStep => exact nomatch leaves
      | setUp => exact .inl (ending_of_setUp isOver)
      | transfer => exact .inl (ending_of_transfer sound isOver)
      | deactivate => exact .inl (ending_of_deactivate isOver)
      | close device =>
          rw [run, Session.close_idle] at isOver
          cases isOver
      | activate flags device =>
          rcases ending_of_activate isOver with before | ⟨stream, rfl, rfl, reached⟩
          · exact .inl before
          · exact .inr (.inr ⟨stream, device, rfl, rfl, reached⟩)
      | runEnds ended =>
          rcases session with _ | stream | ⟨stream, planned | before⟩
          · cases isOver
          · cases isOver
          · obtain rfl := Option.some.inj isOver
            exact .inr (.inl ⟨stream, planned, rfl, rfl, rfl⟩)
          · exact .inl isOver

/-- Whether a request leaves an activation as it is. -/
def keepsActivation : SessionRequest → Bool
  | .deactivate flags _ => flags != 0
  | .close _ => false
  | _ => true

/-- As long as the activation lasts, a run that is over stays over. -/
theorem over_run (keeps : request.keepsActivation = true) (stream : Stream) (ending : RunEnding) :
    ∃ later, request.run (.active stream (.over ending)) = .active later (.over ending) := by
  cases leaves : request.leavesRun with
  | true =>
      have same := run?_of_leavesRun leaves (.active stream (.over ending))
      exact Session.ending?_eq_some_iff.mp (by rw [Session.ending?, same]; rfl)
  | false =>
      cases request with
      | write | flush | acquireBuffer | fillBuffer | releaseBuffer | requestReset | signalFault
      | readStatus | setHardwareTime | deviceStep => exact nomatch leaves
      | close => exact nomatch keeps
      | deactivate flags device =>
          have known : flags ≠ 0 := by simpa [keepsActivation] using keeps
          exact ⟨stream, Session.deactivate_of_flags known _ _⟩
      | activate flags device =>
          by_cases known : flags = 0
          · subst known
            exact ⟨stream, rfl⟩
          · exact ⟨stream, Session.activate_of_flags known _ _⟩
      | setUp | transfer | runEnds => exact ⟨stream, rfl⟩

end SessionRequest

/-- So it does through a row of requests. -/
theorem Session.over_after {requests : List SessionRequest}
    (keep : ∀ request ∈ requests, request.keepsActivation = true) (stream : Stream)
    (ending : RunEnding) :
    ∃ later, (active stream (.over ending)).after requests = .active later (.over ending) := by
  induction requests generalizing stream with
  | nil => exact ⟨stream, rfl⟩
  | cons request requests inductionHypothesis =>
      obtain ⟨next, reached⟩ :=
        SessionRequest.over_run (keep request List.mem_cons_self) stream ending
      rw [after_cons, reached]
      exact inductionHypothesis
        (fun other listed => keep other (List.mem_cons_of_mem _ listed)) next

/-! ## What a failed run leaves behind -/

/-- The writer is told of a fault as soon as it is raised. -/
theorem Handover.acquire_raise (handover : Handover) (fault : Fault) :
    (handover.raise fault).acquire.1 = .error (.fault fault) :=
  ((handover.raise fault).acquire_fault_iff fault).mpr rfl

namespace Stream

/-- Waits for a slot while the hand-over is asked for other things, then while the run ends,
and then while it is asked for still others. -/
def acquireThrough (stream : Stream) (before : List HandoverRequest) (ending : RunEnding)
    (later : List HandoverRequest) : Except StreamError Grant × Handover :=
  attemptThrough Handover.acquire
    (before.map HandoverRequest.run ++
      (fun handover => ({ stream with handover := handover }.noteEnding ending).handover) ::
        later.map HandoverRequest.run)
    stream.handover

/-- A writer that waits when the device fails is told of the underflow. -/
theorem told_noteEnding (stream : Stream) (error : DeviceError) {before : List HandoverRequest}
    (waits : (attemptThrough Handover.acquire (before.map HandoverRequest.run)
      stream.handover).1 = .error .timeout) (later : List HandoverRequest) :
    (stream.acquireThrough before (.failed error) later).1 = .error (.fault .underflow) := by
  rw [acquireThrough, attemptThrough_append_of_timeout waits]
  have told := Handover.acquire_raise (attemptThrough Handover.acquire
    (before.map HandoverRequest.run) stream.handover).2 .underflow
  refine (attemptThrough_of_ne_timeout ?_ _).trans told
  exact fun timesOut => nomatch told.symm.trans timesOut

end Stream

/-! ## Status queries -/

namespace SessionRequest

/-- Whether a request leaves the notice for status queries alone, once the run is over and
as long as the activation lasts: it is no status query, asks for no reset and raises no
fault.  What the device does step by step is not asked for any more. -/
def leavesStatus : SessionRequest → Bool
  | .readStatus | .requestReset | .signalFault _ | .deviceStep _ | .deactivate _ _
  | .close _ => false
  | _ => true

variable {request : SessionRequest}

theorem keepsActivation_of_leavesStatus (leaves : request.leavesStatus = true) :
    request.keepsActivation = true := by
  cases request with
  | deactivate | close => exact nomatch leaves
  | _ => rfl

end SessionRequest

namespace Stream

theorem statusNotice_release (stream : Stream) (handle : Handle) :
    (stream.release handle).2.handover.ring.statusNotice =
      stream.handover.ring.statusNotice := by
  rw [release_eq]
  obtain ⟨-, same⟩ | ⟨-, -, same⟩ | ⟨-, -, same⟩ := stream.handover.release_cases handle <;>
    simp only [same, SlotRing.publish]

theorem statusNotice_padAndRelease (stream : Stream) (handle : Handle) (elements : Nat) :
    (stream.padAndRelease handle elements).2.handover.ring.statusNotice =
      stream.handover.ring.statusNotice := by
  rw [padAndRelease_eq, statusNotice_release, ring_withSlots]

theorem statusNotice_flush (stream : Stream) :
    stream.flush.2.handover.ring.statusNotice = stream.handover.ring.statusNotice := by
  obtain ⟨-, same⟩ | ⟨slot, -, -, same⟩ := stream.flush_cases
  · rw [same, handover_dropStale]
  · rw [same]
    exact statusNotice_padAndRelease _ _ _

end Stream

namespace Session

/-- The fault that the next status query reports, if there is one. -/
def statusNotice? (session : Session) : Option Fault :=
  session.stream?.bind fun stream => stream.handover.ring.statusNotice

theorem statusNotice?_run {request : SessionRequest} (leaves : request.leavesStatus = true)
    (stream : Stream) (ending : RunEnding) :
    (request.run (active stream (.over ending))).statusNotice? =
      stream.handover.ring.statusNotice := by
  cases request with
  | readStatus | requestReset | signalFault | deviceStep | deactivate | close =>
      exact nomatch leaves
  | setUp | write | acquireBuffer | fillBuffer | transfer | runEnds | setHardwareTime => rfl
  | activate flags device =>
      by_cases known : flags = 0
      · subst known
        rfl
      · rw [SessionRequest.run, activate_of_flags known]
        rfl
  | flush => exact stream.statusNotice_flush
  | releaseBuffer handle elements => exact stream.statusNotice_padAndRelease handle elements

theorem statusNotice?_after {requests : List SessionRequest}
    (leave : ∀ request ∈ requests, request.leavesStatus = true) (stream : Stream)
    (ending : RunEnding) :
    ((active stream (.over ending)).after requests).statusNotice? =
      stream.handover.ring.statusNotice := by
  induction requests generalizing stream with
  | nil => rfl
  | cons request requests inductionHypothesis =>
      have leaves := leave request List.mem_cons_self
      have kept := statusNotice?_run leaves stream ending
      obtain ⟨next, reached⟩ := SessionRequest.over_run
        (SessionRequest.keepsActivation_of_leavesStatus leaves) stream ending
      rw [after_cons, reached]
      rw [reached] at kept
      rw [inductionHypothesis (fun other listed => leave other (List.mem_cons_of_mem _ listed))]
      exact kept

/-- What a status query reports once the run is over. -/
theorem readStatus_of_over (stream : Stream) (ending : RunEnding) :
    (active stream (.over ending)).readStatus.1 =
      (stream.handover.ring.statusNotice.map StreamError.fault).getD .transmitterStopped := rfl

/-! ## Making an end known -/

/-- The end of the run of a session is made known: an underflow is counted, and nothing
else; status queries report it as long as nothing else has interfered; the writer is told
when it asks for a slot next, and if it waits for one it is told at once. -/
structure MakesKnown (session : Session) (ending : RunEnding) (ended : Session) : Prop where
  counted : ended.counters.raised = (session.counters.underflows + 1, session.counters.overflows)
  reported : ∀ between : List SessionRequest,
    (∀ request ∈ between, request.leavesStatus = true) →
      (ended.after between).readStatus.1 = .fault .underflow
  told : ∀ stream, ended.stream? = some stream →
    stream.handover.acquire.1 = .error (.fault .underflow)
  woken : ∀ stream, session.stream? = some stream → ∀ before later : List HandoverRequest,
    (attemptThrough Handover.acquire (before.map HandoverRequest.run)
        stream.handover).1 = .error .timeout →
      (stream.acquireThrough before ending later).1 = .error (.fault .underflow)

/-- A run that failed makes its end known, by whatever way its stream was reached. -/
theorem makesKnown_failed {session : Session} {stream before : Stream} {error : DeviceError}
    (has : session.stream? = some stream) (sameCounters : before.handover.counters =
      stream.handover.counters) :
    session.MakesKnown (.failed error)
      (.active (before.noteEnding (.failed error)) (.over (.failed error))) where
  counted := by
    simp only [counters, has, Option.map_some, Option.getD_some, ← sameCounters]
    rfl
  reported := by
    intro between leave
    have keep := fun request listed =>
      SessionRequest.keepsActivation_of_leavesStatus (leave request listed)
    have kept := statusNotice?_after leave (before.noteEnding (.failed error)) (.failed error)
    obtain ⟨later, reached⟩ := over_after keep (before.noteEnding (.failed error)) (.failed error)
    rw [reached] at kept ⊢
    have notice : later.handover.ring.statusNotice = some .underflow := kept
    rw [readStatus_of_over, notice]
    rfl
  told := by
    rintro same ⟨⟩
    exact Handover.acquire_raise _ _
  woken := by
    intro same there before later waits
    exact same.told_noteEnding error waits later

/-- A run that ended otherwise does not. -/
theorem failed_of_makesKnown {session : Session} {stream before : Stream} {ending : RunEnding}
    (has : session.stream? = some stream) (sameCounters : before.handover.counters =
      stream.handover.counters)
    (known : session.MakesKnown ending (.active (before.noteEnding ending) (.over ending))) :
    ∃ error, ending = .failed error := by
  cases ending with
  | failed error => exact ⟨error, rfl⟩
  | returned | crashed =>
      have counted := congrArg Prod.fst known.counted
      simp only [counters, has, Option.map_some, Option.getD_some, ← sameCounters] at counted
      have grown : before.handover.counters.underflows =
        before.handover.counters.underflows + 1 := counted
      simp at grown

/-- **The end of a run is made known exactly if the device failed**, whatever was asked of a
session since it was idle, and whether the run has gone on for a while or is over as soon as
it is started.  If the device returned or crashed, nothing is raised: the stream is as it was,
or as the start of the run left it. -/
theorem ending_made_known_iff (history : List SessionRequest) (request : SessionRequest)
    {ending : RunEnding} (before : (idle.after history).ending? = none)
    (isOver : (request.run (idle.after history)).ending? = some ending) :
    ((idle.after history).MakesKnown ending (request.run (idle.after history)) ↔
      ∃ error, ending = .failed error) ∧
    ((∀ error, ending ≠ .failed error) →
      ∃ stream, (idle.after history).stream? = some stream ∧
        (request.run (idle.after history) = .active stream (.over ending) ∨
          request.run (idle.after history) = .active stream.restart (.over ending))) := by
  have quiet (other : ∀ error, ending ≠ .failed error) (stream : Stream) :
      stream.noteEnding ending = stream := by
    cases ending with
    | failed error => exact absurd rfl (other error)
    | returned | crashed => rfl
  obtain was | ⟨stream, planned, same, -, reached⟩ | ⟨stream, device, same, -, reached⟩ :=
    SessionRequest.ending_cases (sound_idle.after history) isOver
  · rw [before] at was
    exact nomatch was
  · have has : (idle.after history).stream? = some stream := by rw [same]; rfl
    rw [reached]
    refine ⟨⟨failed_of_makesKnown has rfl, ?_⟩, fun other => ⟨stream, has, .inl ?_⟩⟩
    · rintro ⟨error, rfl⟩
      exact makesKnown_failed has rfl
    · rw [quiet other]
  · have has : (idle.after history).stream? = some stream := by rw [same]; rfl
    have sameCounters : stream.restart.handover.counters = stream.handover.counters := rfl
    rw [reached]
    refine ⟨⟨failed_of_makesKnown has sameCounters, ?_⟩, fun other => ⟨stream, has, .inr ?_⟩⟩
    · rintro ⟨error, rfl⟩
      exact makesKnown_failed has sameCounters
    · rw [quiet other]

/-- The ring of a stream is full, and its writer waits for a slot, when the device fails. -/
theorem ending_made_known_iff_failed :
    let session := idle.after [soleSetUp, .activate 0 soleDevice, .write [[(1 : UInt8), 2]] 2,
      .write [[(3 : UInt8), 4]] 2, .write [[(5 : UInt8), 6]] 2, .write [[(7 : UInt8), 8]] 2]
    let ended := (SessionRequest.runEnds (.failed .noDevice)).run session
    session.ending? = none ∧ ended.ending? = some (.failed .noDevice) ∧
      session.MakesKnown (.failed .noDevice) ended ∧
      ∃ stream, session.stream? = some stream ∧
        stream.handover.acquire.1 = .error .timeout ∧
        (stream.acquireThrough [.setClock 5] (.failed .noDevice) [.take]).1 =
          .error (.fault .underflow) := by
  intro session ended
  have known : session.MakesKnown (.failed .noDevice) ended :=
    (ending_made_known_iff _ (.runEnds (.failed .noDevice)) rfl rfl).1.mpr ⟨_, rfl⟩
  exact ⟨rfl, rfl, known, _, rfl, by decide, known.woken _ rfl [.setClock 5] [.take] (by decide)⟩

/-- A device that returns as soon as it is started. -/
def returningDevice : Device :=
  .scripted { limits := soleDevice.limits, script := [.over .returned] }

/-- The end of a run that returned is not made known.  No underflow is counted, and a status
query does not report one; a writer who waits for a slot on a full ring when the device
returns is told nothing, although the ring is not emptied any more. -/
theorem returned_run_unknown :
    let early := idle.after [soleSetUp, .activate 0 returningDevice]
    let full := idle.after [soleSetUp, .activate 0 soleDevice, .write [[(1 : UInt8), 2]] 2,
      .write [[(3 : UInt8), 4]] 2, .write [[(5 : UInt8), 6]] 2, .write [[(7 : UInt8), 8]] 2]
    early.ending? = some .returned ∧
      ¬ (idle.after [soleSetUp]).MakesKnown .returned early ∧
      early.counters.raised = (0, 0) ∧ early.readStatus.1 = .transmitterStopped ∧
      ∃ stream, full = .active stream (.untilStopped .returned) ∧
        (stream.acquireThrough [] .returned [.pollFault]).1 = .error .timeout := by
  intro early full
  refine ⟨rfl, fun known => ?_, by decide, by decide, _, rfl, by decide⟩
  have counted := known.counted
  revert counted
  decide

end Session

end DacStream
