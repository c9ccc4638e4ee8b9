import DacStream.Proofs.SideBySide

/-!
# Sessions side by side

A session and one whose stream has other payloads are asked the same things.  As long as
a caller who releases a slot has put bytes over the elements that it releases
(`Session.OverwritesFirst`), the two stay the same but for the payloads, and from some
epoch on these agree where it matters (`Session.Alike.run`).  A new stream has the same
payloads on both sides, and from there on the sessions do not differ at all
(`Session.Alike.after`).
-/

namespace DacStream

set_option autoImplicit false

/-! ## A caller who overwrites what it releases -/

namespace SessionRequest

/-- The bytes that the caller put into slots of the stream, after a request. -/
def noteFills (fills : List CallerFill) (session : Session) : SessionRequest → List CallerFill
  | .setUp request limits =>
      match (session.setUp request limits).1 with
      | .ok _ => []
      | .error _ => fills
  | .fillBuffer index content => ⟨⟨index, session.ring.epoch⟩, content⟩ :: fills
  | _ => fills

theorem noteFills_of_refused {session : Session} {request : StreamRequest} {limits : DeviceLimits}
    (refused : ¬ (setUp request limits).SetsUp session) (fills : List CallerFill) :
    (setUp request limits).noteFills fills session = fills := by
  rw [SetsUp] at refused
  rw [noteFills]
  split
  · exact absurd ‹_› refused
  · rfl

/-- A caller who releases a slot of the current epoch has put bytes over the first
elements of it, on every channel. -/
def OverwritesFirst (fills : List CallerFill) (session : Session) : SessionRequest → Prop
  | .releaseBuffer handle elements =>
      ∀ stream, session.stream? = some stream → handle.epoch = stream.handover.ring.epoch →
        ∀ channel < stream.config.channelCount, ∃ fill ∈ fills, fill.handle = handle ∧
          ∃ row, fill.content[channel]? = some row ∧
            min elements stream.config.elementsPerBuffer * stream.config.format.nativeBytes ≤
              row.length
  | _ => True

end SessionRequest

namespace Session

/-- The bytes that the caller put into slots of the stream, after a run. -/
def fillsBy (fills : List CallerFill) (session : Session) : List SessionRequest → List CallerFill
  | [] => fills
  | request :: requests =>
      (request.run session).fillsBy (request.noteFills fills session) requests

/-- Throughout a run, the caller has put bytes over what it releases. -/
def OverwritesFirst (fills : List CallerFill) (session : Session) : List SessionRequest → Prop
  | [] => True
  | request :: requests =>
      request.OverwritesFirst fills session ∧
        (request.run session).OverwritesFirst (request.noteFills fills session) requests

/-! ## Two sessions -/

/-- The session with other slots in the memory of its stream. -/
def withSlots (session : Session) (slots : Slots) : Session :=
  session.mapStream (·.withSlots slots)

/-- The payload of a slot on a channel, if the session has a stream. -/
def payload? (session : Session) (index channel : Nat) : Option Bytes :=
  session.stream?.bind fun stream => stream.handover.slots.payload? index channel

/-- From an epoch on, another memory agrees with that of the stream where it matters. -/
def Alike (bound : Nat) (fills : List CallerFill) (session : Session) (other : Slots) : Prop :=
  ∀ stream, session.stream? = some stream → stream.Alike bound fills other

variable {session : Session} {bound : Nat} {fills : List CallerFill} {other : Slots}

theorem Alike.active {stream : Stream} {run : Run} (alike : stream.Alike bound fills other) :
    (Session.active stream run).Alike bound fills other := by
  rintro same ⟨⟩
  exact alike

theorem Alike.configured {stream : Stream} (alike : stream.Alike bound fills other) :
    (Session.configured stream).Alike bound fills other := by
  rintro same ⟨⟩
  exact alike

/-- A request does the same to both sessions, and they are alike afterwards. -/
def RunsAlike (bound : Nat) (fills : List CallerFill) (session : Session) (other : Slots)
    (request : SessionRequest) : Prop :=
  ∃ later, request.run (session.withSlots other) = (request.run session).withSlots later ∧
    (request.run session).Alike bound (request.noteFills fills session) later

section

variable {α : Type} {act : Stream → Except StreamError α × Stream}

/-- What keeps the stream of every session alike keeps sessions alike. -/
theorem Alike.mapStream {after : List CallerFill} {change : Stream → Stream}
    (keeps : ∀ stream, session.stream? = some stream → ∃ later,
      change (stream.withSlots other) = (change stream).withSlots later ∧
        (change stream).Alike bound after later) :
    ∃ later, (session.withSlots other).mapStream change =
        (session.mapStream change).withSlots later ∧
      (session.mapStream change).Alike bound after later := by
  cases session with
  | idle => exact ⟨other, rfl, fun _ has => nomatch has⟩
  | configured stream =>
      obtain ⟨later, same, kept⟩ := keeps stream rfl
      exact ⟨later, congrArg Session.configured same, .configured kept⟩
  | active stream run =>
      obtain ⟨later, same, kept⟩ := keeps stream rfl
      exact ⟨later, congrArg (Session.active · run) same, .active kept⟩

theorem Alike.whenActive (alike : session.Alike bound fills other) (operation : String)
    (keeps : ∀ stream, session.stream? = some stream → ∃ later,
      (act (stream.withSlots other)).2 = (act stream).2.withSlots later ∧
        (act stream).2.Alike bound fills later) :
    ∃ later, ((session.withSlots other).whenActive operation act).2 =
        (session.whenActive operation act).2.withSlots later ∧
      (session.whenActive operation act).2.Alike bound fills later := by
  cases session with
  | idle | configured => exact ⟨other, rfl, alike⟩
  | active stream run =>
      obtain ⟨later, same, kept⟩ := keeps stream rfl
      exact ⟨later, congrArg (Session.active · run) same, .active kept⟩

theorem Alike.whenTransmitting (alike : session.Alike bound fills other) (operation : String)
    (keeps : ∀ stream, session.stream? = some stream → ∃ later,
      (act (stream.withSlots other)).2 = (act stream).2.withSlots later ∧
        (act stream).2.Alike bound fills later) :
    ∃ later, ((session.withSlots other).whenTransmitting operation act).2 =
        (session.whenTransmitting operation act).2.withSlots later ∧
      (session.whenTransmitting operation act).2.Alike bound fills later := by
  rcases session with _ | stream | ⟨stream, ending | ending⟩
  · exact ⟨other, rfl, alike⟩
  · exact ⟨other, rfl, alike⟩
  · exact alike.whenActive operation keeps
  · exact ⟨other, rfl, alike⟩

end

/-! ## What keeps sessions alike -/

theorem Alike.passedOn (alike : session.Alike bound fills other) {request : SessionRequest}
    {asked : HandoverRequest} (passed : request.passedOn? = some asked) :
    session.RunsAlike bound fills other request := by
  have sameFills : request.noteFills fills session = fills := by
    cases request with
    | setUp | fillBuffer => exact nomatch passed
    | _ => rfl
  unfold RunsAlike
  rw [sameFills, SessionRequest.run_of_passedOn passed, SessionRequest.run_of_passedOn passed]
  apply Alike.mapStream
  intro stream has
  exact (alike stream has).handOver asked (SessionRequest.passedOn_noRelease passed)

theorem Alike.write {α : Type} [Sample α] (alike : session.Alike bound fills other)
    (inputs : List (List α)) (count : Nat) :
    session.RunsAlike bound fills other (.write inputs count) := by
  apply alike.whenTransmitting
  intro stream has
  obtain ⟨later, same, kept⟩ := (alike stream has).write inputs count
  exact ⟨later, congrArg Prod.snd same, kept⟩

theorem Alike.flush (alike : session.Alike bound fills other) :
    session.RunsAlike bound fills other .flush := by
  apply alike.whenActive
  intro stream has
  obtain ⟨later, same, kept⟩ := (alike stream has).flush
  exact ⟨later, congrArg Prod.snd same, kept⟩

theorem Alike.acquireBuffer (alike : session.Alike bound fills other) :
    session.RunsAlike bound fills other .acquireBuffer := by
  apply alike.whenTransmitting
  intro stream has
  exact (alike stream has).acquireBuffer

theorem Alike.fillBuffer (alike : session.Alike bound fills other) (index : Nat)
    (content : List Bytes) : session.RunsAlike bound fills other (.fillBuffer index content) := by
  have everywhere (any : Session) :
      any.fillBuffer index content = any.mapStream (·.fillBuffer index content) := by
    cases any <;> rfl
  simp only [RunsAlike, SessionRequest.run, everywhere]
  apply Alike.mapStream
  intro stream has
  have named : session.ring = stream.handover.ring := by
    rw [Session.ring, has]
    rfl
  rw [SessionRequest.noteFills, named]
  exact ⟨_, stream.fillBuffer_withSlots other index content,
    (alike stream has).fillBuffer index content⟩

/-- A caller who has put bytes over what it releases releases the same on both sides. -/
theorem Alike.releaseBuffer (alike : session.Alike bound fills other) {handle : Handle}
    {elements : Nat}
    (overwrites : (SessionRequest.releaseBuffer handle elements).OverwritesFirst fills session) :
    session.RunsAlike bound fills other (.releaseBuffer handle elements) := by
  apply alike.whenActive
  intro stream has
  have held := alike stream has
  have same := congrArg Prod.snd (stream.padAndRelease_withSlots other handle elements)
  refine ⟨_, same, ?_⟩
  rw [Stream.Alike, Stream.config_of_moves (stream.moves_padAndRelease _ _),
    Stream.inWork_padAndRelease]
  apply Stream.alike_padAndRelease held
  intro current late channel
  by_cases inside : channel < stream.config.channelCount
  · obtain ⟨fill, listed, rfl, row, there, enough⟩ := overwrites stream has current channel inside
    exact (held.callers fill listed late channel row there).of_le enough
  · exact Slots.agreeBelow_of_beyond held.memory (Nat.le_of_not_lt inside) _ _ _

/-! ### The life of a session -/

theorem activate_of_runs (stream : Stream) {device started : Device} {ending : RunEnding}
    (starts : device.start stream.config.asyncBuffers = (.untilStopped ending, started)) :
    ((configured stream).activate 0 device).2.1 = .active stream.restart (.untilStopped ending) := by
  simp [Session.activate, starts]

theorem activate_of_over (stream : Stream) {device started : Device} {ending : RunEnding}
    (starts : device.start stream.config.asyncBuffers = (.over ending, started)) :
    ((configured stream).activate 0 device).2.1 =
      .active (stream.restart.noteEnding ending) (.over ending) := by
  simp [Session.activate, starts]

theorem Alike.activate (alike : session.Alike bound fills other) (flags : Int) (device : Device) :
    session.RunsAlike bound fills other (.activate flags device) := by
  by_cases known : flags = 0
  · subst known
    cases session with
    | idle | active => exact ⟨other, rfl, alike⟩
    | configured stream =>
        have ready := (alike stream rfl).restart
        rcases starts : device.start stream.config.asyncBuffers with ⟨ending | ending, started⟩
        · have reached := activate_of_runs stream starts
          have twinReached := activate_of_runs (stream.withSlots other) starts
          refine ⟨other, ?_, ?_⟩
          · rw [SessionRequest.run, SessionRequest.run, reached]
            exact twinReached
          · rw [SessionRequest.run, reached]
            exact .active ready
        · have reached := activate_of_over stream starts
          have twinReached := activate_of_over (stream.withSlots other) starts
          refine ⟨other, ?_, ?_⟩
          · rw [SessionRequest.run, SessionRequest.run, reached]
            refine twinReached.trans (congrArg (Session.active · _) ?_)
            exact stream.restart.noteEnding_withSlots other ending
          · rw [SessionRequest.run, reached]
            exact .active (ready.noteEnding ending)
  · refine ⟨other, ?_, ?_⟩
    · rw [SessionRequest.run, SessionRequest.run, activate_of_flags known, activate_of_flags known]
    · rwa [SessionRequest.run, activate_of_flags known]

theorem Alike.deactivate (alike : session.Alike bound fills other) (flags : Int)
    (device : Device) : session.RunsAlike bound fills other (.deactivate flags device) := by
  by_cases known : flags = 0
  · subst known
    cases session with
    | idle | configured => exact ⟨other, rfl, alike⟩
    | active stream run =>
        have held := alike stream rfl
        rcases run with ending | ending
        · refine ⟨other, ?_, .configured (held.noteEnding ending).restart⟩
          show Session.configured ((stream.withSlots other).noteEnding ending).restart = _
          rw [Stream.noteEnding_withSlots]
          rfl
        · exact ⟨other, rfl, .configured held.restart⟩
  · refine ⟨other, ?_, ?_⟩
    · rw [SessionRequest.run, SessionRequest.run, deactivate_of_flags known, deactivate_of_flags known]
    · rwa [SessionRequest.run, deactivate_of_flags known]

theorem Alike.afterAnswer (alike : session.Alike bound fills other)
    (answer? : Option (BufferSet Bytes)) :
    (session.withSlots other).afterAnswer answer? = (session.afterAnswer answer?).withSlots other ∧
      (session.afterAnswer answer?).Alike bound fills other := by
  constructor
  · cases answer? with
    | some answer => cases session <;> rfl
    | none => rcases session with _ | stream | ⟨stream, ending | ending⟩ <;> rfl
  · intro stream has
    rw [stream?_afterAnswer] at has
    exact alike stream has

/-- Both answer a transfer with the same bytes. -/
theorem Alike.serve (alike : session.Alike bound fills other) (deviceChannels : Nat)
    (request : TransferRequest) :
    ((session.withSlots other).serve deviceChannels request).1 =
        (session.serve deviceChannels request).1 ∧
      session.RunsAlike bound fills other (.transfer deviceChannels request) := by
  rcases session with _ | stream | ⟨stream, ending | ending⟩
  · exact ⟨rfl, other, rfl, alike⟩
  · exact ⟨rfl, other, rfl, alike⟩
  · obtain ⟨sameAnswer, later, same, kept⟩ := (alike stream rfl).serve deviceChannels request
    have served : (Session.active (stream.serve deviceChannels request).2
        (.untilStopped ending)).Alike bound fills later := .active kept
    obtain ⟨ended, keptThen⟩ := served.afterAnswer (stream.serve deviceChannels request).1
    refine ⟨sameAnswer, later, ?_, keptThen⟩
    have twin : (SessionRequest.transfer deviceChannels request).run
          ((Session.active stream (.untilStopped ending)).withSlots other) =
        (Session.active ((stream.withSlots other).serve deviceChannels request).2
          (.untilStopped ending)).afterAnswer
            ((stream.withSlots other).serve deviceChannels request).1 := rfl
    rw [twin, sameAnswer, same]
    exact ended
  · exact ⟨rfl, other, rfl, alike⟩

/-- Both give the device the same slot, with the same payloads. -/
theorem Alike.runStep (alike : session.Alike bound fills other) (step : DeviceStep) :
    ((session.withSlots other).runStep step).1 = (session.runStep step).1 ∧
      ∀ grant, (session.runStep step).1 = some grant → ∀ channel,
        ((session.withSlots other).runStep step).2.payload? grant.handle.index channel =
          (session.runStep step).2.payload? grant.handle.index channel := by
  cases session with
  | idle => exact ⟨rfl, fun _ granted => nomatch granted⟩
  | configured stream => exact Stream.Alike.grantsAlike (alike stream rfl) step
  | active stream run => exact Stream.Alike.grantsAlike (alike stream rfl) step

theorem Alike.runEnds (alike : session.Alike bound fills other) (ending : RunEnding) :
    session.RunsAlike bound fills other (.runEnds ending) := by
  rcases session with _ | stream | ⟨stream, planned | ended⟩
  · exact ⟨other, rfl, alike⟩
  · exact ⟨other, rfl, alike⟩
  · refine ⟨other, ?_, .active ((alike stream rfl).noteEnding ending)⟩
    exact congrArg (Session.active · _) (stream.noteEnding_withSlots other ending)
  · exact ⟨other, rfl, alike⟩

/-! ## Requests and runs -/

/-- Whether a set-up is accepted does not depend on the payloads. -/
theorem setsUp_withSlots (session : Session) (other : Slots) (request : StreamRequest)
    (limits : DeviceLimits) :
    (SessionRequest.setUp request limits).SetsUp (session.withSlots other) ↔
      (SessionRequest.setUp request limits).SetsUp session := by
  cases session with
  | idle | active => exact Iff.rfl
  | configured stream =>
      rw [SessionRequest.SetsUp, SessionRequest.SetsUp, withSlots, mapStream, setUp, setUp]
      cases StreamConfig.create request limits <;> exact Iff.rfl

/-- Sessions that are alike stay so, unless a new stream is set up. -/
theorem Alike.run (alike : session.Alike bound fills other) {request : SessionRequest}
    (overwrites : request.OverwritesFirst fills session) (keeps : ¬ request.SetsUp session) :
    session.RunsAlike bound fills other request := by
  cases passed : request.passedOn? with
  | some asked => exact alike.passedOn passed
  | none =>
      cases request with
      | requestReset | signalFault | readStatus | setHardwareTime | deviceStep =>
          exact nomatch passed
      | setUp request limits =>
          have twinKeeps :
              ¬ (SessionRequest.setUp request limits).SetsUp (session.withSlots other) := by
            rwa [setsUp_withSlots]
          refine ⟨other, ?_, ?_⟩
          · rw [SessionRequest.run_setUp_of_refused keeps,
              SessionRequest.run_setUp_of_refused twinKeeps]
          · rwa [SessionRequest.run_setUp_of_refused keeps,
              SessionRequest.noteFills_of_refused keeps]
      | activate flags device => exact alike.activate flags device
      | deactivate flags device => exact alike.deactivate flags device
      | close device =>
          refine ⟨other, ?_, ?_⟩
          · rw [SessionRequest.run, SessionRequest.run, close_idle, close_idle]
            rfl
          · rw [SessionRequest.run, close_idle]
            rintro _ ⟨⟩
      | write inputs count => exact alike.write inputs count
      | flush => exact alike.flush
      | acquireBuffer => exact alike.acquireBuffer
      | fillBuffer index content => exact alike.fillBuffer index content
      | releaseBuffer handle elements => exact alike.releaseBuffer overwrites
      | transfer deviceChannels request => exact (alike.serve deviceChannels request).2
      | runEnds ending => exact alike.runEnds ending

/-- A new stream has the same payloads on both sides. -/
theorem run_withSlots_of_setsUp {request : SessionRequest} (setsUp : request.SetsUp session)
    (other : Slots) : request.run (session.withSlots other) = request.run session := by
  obtain ⟨wanted, limits, config, rfl, made, same⟩ := SessionRequest.run_of_setsUp setsUp
  have twinSetsUp := (setsUp_withSlots session other wanted limits).mpr setsUp
  obtain ⟨_, _, twinConfig, ⟨rfl, rfl⟩, twinMade, twinSame⟩ :=
    SessionRequest.run_of_setsUp twinSetsUp
  obtain rfl : config = twinConfig := Except.ok.inj (made.symm.trans twinMade)
  rw [same, twinSame]

/-- Sessions that are alike stay so in every run in which the caller overwrites what it
releases.  When a new stream is set up, they do not differ any more. -/
theorem Alike.after (alike : session.Alike bound fills other) {requests : List SessionRequest}
    (overwrites : session.OverwritesFirst fills requests) :
    (session.withSlots other).after requests = session.after requests ∨
      ∃ later, (session.withSlots other).after requests =
          (session.after requests).withSlots later ∧
        (session.after requests).Alike bound (session.fillsBy fills requests) later := by
  induction requests generalizing session fills other with
  | nil => exact .inr ⟨other, rfl, alike⟩
  | cons request requests inductionHypothesis =>
      obtain ⟨first, rest⟩ := overwrites
      rw [after_cons, after_cons]
      by_cases setsUp : request.SetsUp session
      · exact .inl (by rw [run_withSlots_of_setsUp setsUp])
      · obtain ⟨later, same, kept⟩ := alike.run first setsUp
        rw [same]
        exact inductionHypothesis kept rest

end Session

end DacStream
