import DacStream.Proofs.StreamRequests
import DacStream.Proofs.StreamSteps
import DacStream.Session.Bench
import DacStream.Session.Clock

/-!
# Runs of a session

A run of a session is a row of requests, from its owner, from the application and
from the device, in any order.  The device may be another one at each request, and
its transfers may be seen whole or step by step.

Whatever was asked of a session since it was idle, its stream is sound: it has a
configuration that was accepted, its ring keeps the invariant, and its memory has
the shape that the configuration asks for (`Stream.sound_after`).
-/

namespace DacStream

set_option autoImplicit false

/-! ## Requests -/

/-- What can be asked of a session. -/
inductive SessionRequest : Type 1 where
  | setUp (request : StreamRequest) (limits : DeviceLimits)
  | activate (flags : Int) (device : Device)
  | deactivate (flags : Int) (device : Device)
  | close (device : Device)
  | write {α : Type} [Sample α] (inputs : List (List α)) (count : Nat)
  | flush
  | acquireBuffer
  | fillBuffer (index : Nat) (content : List Bytes)
  | releaseBuffer (handle : Handle) (elements : Nat)
  | requestReset
  | signalFault (fault : Fault)
  | readStatus
  | setHardwareTime (time : Int64) (rate : Float)
  /-- The device asks for a transfer. -/
  | transfer (deviceChannels : Nat) (request : TransferRequest)
  /-- The device does one step of a transfer, while a request waits. -/
  | deviceStep (step : DeviceStep)
  /-- The device ends its run without being stopped. -/
  | runEnds (ending : RunEnding)

namespace Session

/-- The session after the device ended its run. -/
def runEnds (ending : RunEnding) : Session → Session
  | .active stream (.untilStopped _) => .active (stream.noteEnding ending) (.over ending)
  | other => other

end Session

/-- The session after a request, its answer left aside. -/
def SessionRequest.run : SessionRequest → Session → Session
  | .setUp request limits, session => (session.setUp request limits).2
  | .activate flags device, session => (session.activate flags device).2.1
  | .deactivate flags device, session => (session.deactivate flags device).2.1
  | .close device, session => (session.close device).2.1
  | @write _ _ inputs count, session => (session.write inputs count).2
  | .flush, session => session.flush.2
  | .acquireBuffer, session => session.acquireBuffer.2
  | .fillBuffer index content, session => session.fillBuffer index content
  | .releaseBuffer handle elements, session => (session.releaseBuffer handle elements).2
  | .requestReset, session => session.requestReset.2
  | .signalFault fault, session => (session.signalFault fault).2
  | .readStatus, session => session.readStatus.2
  | .setHardwareTime time rate, session => (session.setHardwareTime time rate).2
  | .transfer deviceChannels request, session => (session.serve deviceChannels request).2
  | .deviceStep step, session => (session.runStep step).2
  | .runEnds ending, session => session.runEnds ending

/-- The session after a row of requests. -/
def Session.after (session : Session) (requests : List SessionRequest) : Session :=
  requests.foldl (fun reached request => request.run reached) session

theorem Session.after_cons (session : Session) (request : SessionRequest)
    (requests : List SessionRequest) :
    session.after (request :: requests) = (request.run session).after requests := rfl

/-! ## Soundness of a stream -/

namespace Stream

/-- What holds of every stream that a session ever has. -/
structure Sound (stream : Stream) : Prop where
  accepted : ∃ request limits, StreamConfig.create request limits = .ok stream.config
  ring : stream.handover.ring.Invariant
  capacity : stream.handover.ring.capacity = stream.config.bufferCount
  memory : stream.handover.slots.Shaped stream.config.bufferCount stream.config.channelCount
    stream.config.bufferLength

/-- A configuration that was accepted asks for as many slots as it takes to stream. -/
theorem leastBufferCount_le {request : StreamRequest} {limits : DeviceLimits}
    {config : StreamConfig} (accepted : StreamConfig.create request limits = .ok config) :
    leastBufferCount ≤ config.bufferCount :=
  (StreamConfig.fit_of_accepted accepted).enough

theorem bufferCount_pos {request : StreamRequest} {limits : DeviceLimits} {config : StreamConfig}
    (accepted : StreamConfig.create request limits = .ok config) : 0 < config.bufferCount :=
  Nat.lt_of_lt_of_le (by decide) (leastBufferCount_le accepted)

theorem Sound.create {request : StreamRequest} {limits : DeviceLimits} {config : StreamConfig}
    (accepted : StreamConfig.create request limits = .ok config) :
    (Stream.create config).Sound where
  accepted := ⟨request, limits, accepted⟩
  ring := by
    refine Handover.invariant_create _ _ ?_
    rw [(Slots.Shaped.silent _ _ _).slotCount]
    exact bufferCount_pos accepted
  capacity := (Slots.Shaped.silent _ _ _).slotCount
  memory := .silent _ _ _

/-- A request to the hand-over keeps the shape of the memory. -/
theorem shaped_run {handover : Handover} {capacity channels channelLength : Nat}
    (shaped : handover.slots.Shaped capacity channels channelLength) (request : HandoverRequest) :
    (request.run handover).slots.Shaped capacity channels channelLength := by
  obtain same | ⟨index, tick, same⟩ := handover.slots_run request <;> rw [same]
  · exact shaped
  · exact shaped.setTick index tick

theorem Sound.move {stream later : Stream} (sound : stream.Sound) (move : stream.Move later) :
    later.Sound := by
  cases move with
  | handOver request =>
      exact
        { accepted := sound.accepted
          ring := Handover.invariant_run sound.ring request
          capacity := (Handover.capacity_run _ request).trans sound.capacity
          memory := shaped_run sound.memory request }
  | refill slots keeps =>
      exact
        { accepted := sound.accepted
          ring := sound.ring
          capacity := sound.capacity
          memory := keeps _ _ _ sound.memory }
  | work inWork =>
      exact
        { accepted := sound.accepted
          ring := sound.ring
          capacity := sound.capacity
          memory := sound.memory }

theorem Sound.moves {stream later : Stream} (sound : stream.Sound) (moves : stream.Moves later) :
    later.Sound := by
  induction moves with
  | refl => exact sound
  | tail _ move inductionHypothesis => exact inductionHypothesis.move move

end Stream

/-! ## What a request can do to the stream of a session -/

namespace Session

/-- The stream of the later session, if it has one, comes from that of the
earlier. -/
def Follows (session later : Session) : Prop :=
  ∀ after, later.stream? = some after →
    ∃ before, session.stream? = some before ∧ before.Moves after

theorem Follows.refl (session : Session) : session.Follows session :=
  fun after has => ⟨after, has, .refl⟩

section

variable {α : Type} {act : Stream → Except StreamError α × Stream}

theorem follows_whenActive (moves : ∀ stream : Stream, stream.Moves (act stream).2)
    (session : Session) (operation : String) :
    session.Follows (session.whenActive operation act).2 := by
  cases session with
  | idle | configured => exact .refl _
  | active stream run =>
      rintro after has
      obtain rfl : (act stream).2 = after := by simpa [whenActive, stream?] using has
      exact ⟨stream, rfl, moves stream⟩

theorem follows_whenTransmitting (moves : ∀ stream : Stream, stream.Moves (act stream).2)
    (session : Session) (operation : String) :
    session.Follows (session.whenTransmitting operation act).2 := by
  unfold whenTransmitting
  split
  · exact .refl _
  · exact follows_whenActive moves _ _

end

theorem follows_withStream {α : Type} {act : Stream → α × Stream}
    (moves : ∀ stream : Stream, stream.Moves (act stream).2) (session : Session)
    (operation : String) : session.Follows (session.withStream operation act).2 := by
  cases session with
  | idle => exact .refl _
  | configured stream | active stream run =>
      rintro after has
      obtain rfl : (act stream).2 = after := by simpa [withStream, stream?] using has
      exact ⟨stream, rfl, moves stream⟩

/-- What one request does to the hand-over of the stream. -/
theorem follows_handOver {session later : Session} (request : HandoverRequest)
    (same : later.stream? =
      session.stream?.map fun stream =>
        { stream with handover := request.run stream.handover }) :
    session.Follows later := by
  intro after has
  rw [same, Option.map_eq_some_iff] at has
  obtain ⟨before, there, rfl⟩ := has
  exact ⟨before, there, before.moves_handOver request⟩

end Session

theorem Stream.moves_noteEnding (stream : Stream) (ending : RunEnding) :
    stream.Moves (stream.noteEnding ending) := by
  cases ending with
  | failed error => exact stream.moves_handOver (.raise .underflow)
  | returned | crashed => exact .refl

theorem Stream.moves_endRun (stream : Stream) (run : Run) (device : Device) :
    stream.Moves (Session.endRun stream run device).2.1 := by
  rcases run with ending | ending
  · exact (stream.moves_noteEnding ending).trans (moves_restart _)
  · exact stream.moves_restart

/-- One step of the device is one request to the hand-over. -/
def DeviceStep.request : DeviceStep → HandoverRequest
  | .take => .take
  | .skip => .skip
  | .raise fault => .raise fault

theorem DeviceStep.run_snd (step : DeviceStep) (handover : Handover) :
    (step.run handover).2 = step.request.run handover := by
  cases step <;> rfl

theorem Stream.moves_serve (stream : Stream) (deviceChannels : Nat) (request : TransferRequest) :
    stream.Moves (stream.serve deviceChannels request).2 := by
  cases served : request.isServed stream.handover.slots.channelLength with
  | true =>
      simp only [serve, Feed.transfer_of_served _ _ _ served]
      exact stream.moves_handOver .take
  | false =>
      simp only [serve, Feed.transfer_of_refused _ _ _ served]
      exact (stream.moves_handOver .skip).trans (moves_handOver _ (.raise .underflow))

namespace Session

/-- Starting the device empties the ring.  If the run is over at once, its ending
is noted. -/
theorem activate_configured (stream : Stream) (device : Device) :
    ((configured stream).activate 0 device).1 = .ok () ∧
      ∃ run, ((configured stream).activate 0 device).2.1 = .active stream.restart run ∨
        ∃ ending, run = .over ending ∧
          ((configured stream).activate 0 device).2.1 =
            .active (stream.restart.noteEnding ending) run := by
  rcases started : device.start stream.config.asyncBuffers with ⟨ending | ending, after⟩
  · exact ⟨by simp [activate, started], .untilStopped ending, .inl (by simp [activate, started])⟩
  · exact ⟨by simp [activate, started], .over ending,
      .inr ⟨ending, rfl, by simp [activate, started]⟩⟩

theorem activate_of_flags {flags : Int} (unknown : flags ≠ 0) (session : Session)
    (device : Device) : (session.activate flags device).2.1 = session := by
  unfold activate
  rw [if_pos unknown]

theorem deactivate_of_flags {flags : Int} (unknown : flags ≠ 0) (session : Session)
    (device : Device) : (session.deactivate flags device).2.1 = session := by
  unfold deactivate
  rw [if_pos unknown]

theorem follows_activate (session : Session) (flags : Int) (device : Device) :
    session.Follows (session.activate flags device).2.1 := by
  by_cases known : flags = 0
  · subst known
    cases session with
    | idle | active => exact .refl _
    | configured stream =>
        obtain ⟨-, run, same | ⟨ending, -, same⟩⟩ := activate_configured stream device <;> rw [same]
        · rintro after ⟨⟩
          exact ⟨stream, rfl, stream.moves_restart⟩
        · rintro after ⟨⟩
          exact ⟨stream, rfl, stream.moves_restart.trans (Stream.moves_noteEnding _ _)⟩
  · rw [activate_of_flags known]
    exact .refl _

theorem follows_deactivate (session : Session) (flags : Int) (device : Device) :
    session.Follows (session.deactivate flags device).2.1 := by
  by_cases known : flags = 0
  · subst known
    cases session with
    | idle | configured => exact .refl _
    | active stream run =>
        rintro after ⟨⟩
        exact ⟨stream, rfl, stream.moves_endRun run device⟩
  · rw [deactivate_of_flags known]
    exact .refl _

theorem follows_readStatus (session : Session) : session.Follows session.readStatus.2 := by
  cases session with
  | idle => exact .refl _
  | configured | active => exact follows_handOver .pollFault rfl

/-- How a transfer that got no answer ends the run does not concern the stream. -/
theorem stream?_afterAnswer (answer? : Option (BufferSet Bytes)) (session : Session) :
    (session.afterAnswer answer?).stream? = session.stream? := by
  unfold afterAnswer
  split <;> rfl

theorem follows_serve (session : Session) (deviceChannels : Nat) (request : TransferRequest) :
    session.Follows (session.serve deviceChannels request).2 := by
  unfold serve
  split
  · rintro after has
    rw [stream?_afterAnswer] at has
    obtain rfl := Option.some.inj has
    exact ⟨_, rfl, Stream.moves_serve _ _ _⟩
  · exact .refl _

theorem follows_runStep (session : Session) (step : DeviceStep) :
    session.Follows (session.runStep step).2 := by
  refine follows_handOver step.request ?_
  cases session <;> simp [runStep, stream?, DeviceStep.run_snd]

theorem follows_runEnds (session : Session) (ending : RunEnding) :
    session.Follows (session.runEnds ending) := by
  unfold runEnds
  split
  · rintro after ⟨⟩
    exact ⟨_, rfl, Stream.moves_noteEnding _ _⟩
  · exact .refl _

end Session

/-- Whether a request sets up a new stream. -/
def SessionRequest.SetsUp (session : Session) : SessionRequest → Prop
  | .setUp request limits => (session.setUp request limits).1 = .ok ()
  | _ => False

/-- A request sets up a new stream, or the stream afterwards comes from the one
before. -/
theorem SessionRequest.run_cases (request : SessionRequest) (session : Session) :
    (request.SetsUp session ∧
      ∃ wanted limits config, StreamConfig.create wanted limits = .ok config ∧
        request.run session = .configured (Stream.create config)) ∨
    session.Follows (request.run session) := by
  cases request with
  | setUp wanted limits =>
      cases session with
      | active stream run => exact .inr (.refl _)
      | idle | configured =>
          rw [run, SetsUp, Session.setUp]
          cases made : StreamConfig.create wanted limits with
          | error error => exact .inr (.refl _)
          | ok config => exact .inl ⟨rfl, wanted, limits, config, made, rfl⟩
  | activate flags device => exact .inr (session.follows_activate flags device)
  | deactivate flags device => exact .inr (session.follows_deactivate flags device)
  | close device =>
      refine .inr fun after has => ?_
      rw [run, Session.close_idle] at has
      exact nomatch has
  | write inputs count =>
      exact .inr (Session.follows_whenTransmitting (fun stream => stream.moves_write _ _) _ _)
  | flush => exact .inr (Session.follows_whenActive Stream.moves_flush _ _)
  | acquireBuffer => exact .inr (Session.follows_whenTransmitting Stream.moves_acquireBuffer _ _)
  | fillBuffer index content =>
      cases session with
      | idle => exact .inr (.refl _)
      | configured stream | active stream =>
          refine .inr fun after has => ?_
          obtain rfl := Option.some.inj has
          exact ⟨stream, rfl, stream.moves_fillBuffer index content⟩
  | releaseBuffer handle elements =>
      exact .inr (Session.follows_whenActive (fun stream => stream.moves_padAndRelease _ _) _ _)
  | requestReset =>
      exact .inr
        (Session.follows_withStream (fun stream => stream.moves_handOver .requestReset) _ _)
  | signalFault fault =>
      exact .inr
        (Session.follows_withStream (fun stream => stream.moves_handOver (.raise fault)) _ _)
  | readStatus => exact .inr session.follows_readStatus
  | setHardwareTime time rate =>
      exact .inr
        (Session.follows_withStream (fun stream => stream.moves_handOver (.setClock _)) _ _)
  | transfer deviceChannels request =>
      exact .inr (session.follows_serve deviceChannels request)
  | deviceStep step => exact .inr (session.follows_runStep step)
  | runEnds ending => exact .inr (session.follows_runEnds ending)

/-- A set-up that is refused leaves the session as it is. -/
theorem SessionRequest.run_setUp_of_refused {session : Session} {request : StreamRequest}
    {limits : DeviceLimits}
    (refused : ¬ (SessionRequest.setUp request limits).SetsUp session) :
    (SessionRequest.setUp request limits).run session = session := by
  cases session with
  | active stream run => rfl
  | idle | configured =>
      rw [SessionRequest.SetsUp, Session.setUp] at refused
      rw [SessionRequest.run, Session.setUp]
      cases made : StreamConfig.create request limits with
      | error error => rfl
      | ok config => exact absurd (by rw [made]) refused

theorem SessionRequest.run_of_setsUp {session : Session} {request : SessionRequest}
    (setsUp : request.SetsUp session) :
    ∃ wanted limits config, request = .setUp wanted limits ∧
      StreamConfig.create wanted limits = .ok config ∧
        request.run session = .configured (Stream.create config) := by
  cases request with
  | setUp wanted limits =>
      refine ⟨wanted, limits, ?_⟩
      cases session with
      | active stream run => exact nomatch setsUp
      | idle | configured =>
          rw [SetsUp, Session.setUp] at setsUp
          rw [run, Session.setUp]
          cases made : StreamConfig.create wanted limits with
          | ok config => exact ⟨config, rfl, rfl, rfl⟩
          | error error =>
              rw [made] at setsUp
              exact nomatch setsUp
  | _ => exact setsUp.elim

/-- The stream after a request is the new one that was set up, or it comes from the one
before. -/
theorem SessionRequest.stream_cases {session : Session} {request : SessionRequest}
    {later : Stream} (reached : (request.run session).stream? = some later) :
    (request.SetsUp session ∧ ∃ wanted limits config, request = .setUp wanted limits ∧
      StreamConfig.create wanted limits = .ok config ∧ later = Stream.create config) ∨
    (¬ request.SetsUp session ∧ ∃ stream, session.stream? = some stream ∧ stream.Moves later) := by
  by_cases setsUp : request.SetsUp session
  · obtain ⟨wanted, limits, config, named, made, same⟩ := run_of_setsUp setsUp
    rw [same] at reached
    exact .inl ⟨setsUp, wanted, limits, config, named, made, (Option.some.inj reached).symm⟩
  · have follows := (request.run_cases session).resolve_left fun created => setsUp created.1
    exact .inr ⟨setsUp, follows later reached⟩

/-! ## Soundness in a run -/

/-- If a session has a stream, it is sound. -/
def Session.Sound (session : Session) : Prop :=
  ∀ stream, session.stream? = some stream → stream.Sound

theorem Session.Sound.run {session : Session} (sound : session.Sound) (request : SessionRequest) :
    (request.run session).Sound := by
  intro stream has
  obtain ⟨-, wanted, limits, config, accepted, same⟩ | follows := request.run_cases session
  · rw [same] at has
    obtain rfl := Option.some.inj has
    exact .create accepted
  · obtain ⟨before, there, moves⟩ := follows stream has
    exact (sound before there).moves moves

/-- Every request keeps the stream of a session sound, and so does every run. -/
theorem Session.Sound.after {session : Session} (sound : session.Sound)
    (requests : List SessionRequest) : (session.after requests).Sound := by
  induction requests generalizing session with
  | nil => exact sound
  | cons request requests inductionHypothesis => exact inductionHypothesis (sound.run request)

theorem Session.sound_idle : Session.idle.Sound := by
  intro stream has
  exact nomatch has

end DacStream
