import DacStream.Proofs.DrainBarrier
import DacStream.Proofs.SlotAccess

/-!
# Requests that do not write

Beside those who write to slots there are many who only ask something of the
hand-over: the device with its transfers, the application with resets and faults, and
the owner who activates and deactivates.  To the stream all of them do the same.  They
pass on requests to the hand-over, none of which is a release, and may forget the slot
in work (`Stream.Drifts`).  No payload changes by that (`Stream.Drifts.payload?`).

Only a write of samples can bring a slot in work
(`SessionRequest.inWork_of_not_write`).
-/

namespace DacStream

set_option autoImplicit false

/-- Nothing has become of a stream but what requests to the hand-over do, none of them a
release, and its slot in work may have been forgotten. -/
def Stream.Drifts (stream later : Stream) : Prop :=
  ∃ requests : List HandoverRequest, (∀ request ∈ requests, ∀ handle, request ≠ .release handle) ∧
    later.handover = stream.handover.after requests ∧
      (later.inWork = stream.inWork ∨ later.inWork = none)

namespace Stream.Drifts

variable {stream between later : Stream}

theorem refl (stream : Stream) : stream.Drifts stream :=
  ⟨[], by simp, rfl, .inl rfl⟩

theorem trans (first : stream.Drifts between) (second : between.Drifts later) :
    stream.Drifts later := by
  obtain ⟨requests, noRelease, reached, work⟩ := first
  obtain ⟨others, noneEither, reachedThen, workThen⟩ := second
  refine ⟨requests ++ others, ?_, ?_, ?_⟩
  · exact fun request listed => (List.mem_append.mp listed).elim (noRelease _) (noneEither _)
  · rw [Handover.after_append, ← reached, reachedThen]
  · rcases workThen with same | nothing
    · rwa [same]
    · exact .inr nothing

theorem handOver (stream : Stream) (request : HandoverRequest)
    (noRelease : ∀ handle, request ≠ .release handle) :
    stream.Drifts { stream with handover := request.run stream.handover } :=
  ⟨[request], by simpa using noRelease, rfl, .inl rfl⟩

theorem restart (stream : Stream) : stream.Drifts stream.restart :=
  ⟨[.restart], by simp, rfl, .inr rfl⟩

theorem noteEnding (stream : Stream) (ending : RunEnding) :
    stream.Drifts (stream.noteEnding ending) := by
  cases ending with
  | failed error => exact handOver stream (.raise .underflow) (by simp)
  | returned | crashed => exact refl stream

theorem endRun (stream : Stream) (run : Run) (device : Device) :
    stream.Drifts (Session.endRun stream run device).2.1 := by
  rcases run with ending | ending
  · exact (noteEnding stream ending).trans (restart _)
  · exact restart stream

theorem serve (stream : Stream) (deviceChannels : Nat) (request : TransferRequest) :
    stream.Drifts (stream.serve deviceChannels request).2 := by
  cases served : request.isServed stream.handover.slots.channelLength with
  | true =>
      simp only [Stream.serve, Feed.transfer_of_served _ _ _ served]
      exact handOver stream .take (by simp)
  | false =>
      simp only [Stream.serve, Feed.transfer_of_refused _ _ _ served]
      exact (handOver stream .skip (by simp)).trans
        (handOver _ (.raise .underflow) (by simp))

theorem payload? (drifts : stream.Drifts later) (index channel : Nat) :
    later.handover.slots.payload? index channel =
      stream.handover.slots.payload? index channel := by
  obtain ⟨requests, -, reached, -⟩ := drifts
  rw [reached, Handover.payload?_after]

end Stream.Drifts

namespace Session

/-- The session with another stream in the place of its own, if it has one. -/
def mapStream (change : Stream → Stream) : Session → Session
  | .idle => .idle
  | .configured stream => .configured (change stream)
  | .active stream run => .active (change stream) run

theorem stream?_mapStream (session : Session) (change : Stream → Stream) :
    (session.mapStream change).stream? = session.stream?.map change := by
  cases session <;> rfl

end Session

namespace SessionRequest

/-- Whether a request neither sets up a stream nor writes to one. -/
def isQuiet : SessionRequest → Bool
  | .setUp _ _ | @write _ _ _ _ | .flush | .acquireBuffer | .fillBuffer _ _
  | .releaseBuffer _ _ => false
  | .activate _ _ | .deactivate _ _ | .close _ | .requestReset | .signalFault _ | .readStatus
  | .setHardwareTime _ _ | .transfer _ _ | .deviceStep _ | .runEnds _ => true

/-- The request to the hand-over as which a session passes a request on, whatever state
it is in. -/
def passedOn? : SessionRequest → Option HandoverRequest
  | .requestReset => some .requestReset
  | .signalFault fault => some (.raise fault)
  | .readStatus => some .pollFault
  | .setHardwareTime time rate => some (.setClock (ticksOfNanoseconds time rate))
  | .deviceStep step => some step.request
  | .setUp _ _ | .activate _ _ | .deactivate _ _ | .close _ | @write _ _ _ _ | .flush
  | .acquireBuffer | .fillBuffer _ _ | .releaseBuffer _ _ | .transfer _ _ | .runEnds _ => none

variable {request : SessionRequest} {session : Session} {stream later : Stream}

/-- A request that is passed on does the same whatever state the session is in. -/
theorem run_of_passedOn {asked : HandoverRequest} (passed : request.passedOn? = some asked)
    (session : Session) :
    request.run session =
      session.mapStream fun stream =>
        { stream with handover := asked.run stream.handover } := by
  cases request with
  | setUp | activate | deactivate | close | write | flush | acquireBuffer | fillBuffer
  | releaseBuffer | transfer | runEnds => exact nomatch passed
  | requestReset | signalFault | readStatus | setHardwareTime =>
      obtain rfl := Option.some.inj passed
      cases session <;> rfl
  | deviceStep step =>
      obtain rfl := Option.some.inj passed
      cases session <;> simp [run, Session.runStep, Session.mapStream, DeviceStep.run_snd]

theorem not_setsUp_of_quiet (quiet : request.isQuiet = true) : ¬ request.SetsUp session := by
  cases request with
  | setUp => exact nomatch quiet
  | _ => exact id

theorem passedOn_noRelease {asked : HandoverRequest} (passed : request.passedOn? = some asked)
    (handle : Handle) : asked ≠ .release handle := by
  rintro rfl
  cases request with
  | deviceStep step => cases step <;> exact nomatch passed
  | _ => exact nomatch passed

theorem drifts_activate {flags : Int} {device : Device} (has : session.stream? = some stream)
    (reached : (session.activate flags device).2.1.stream? = some later) :
    stream.Drifts later := by
  by_cases known : flags = 0
  · subst known
    rcases session with _ | stream | ⟨stream, run⟩ <;> cases has
    · obtain ⟨-, run, same | ⟨ending, -, same⟩⟩ := Session.activate_configured stream device
      all_goals
        rw [same] at reached
        obtain rfl := Option.some.inj reached
      · exact .restart stream
      · exact (Stream.Drifts.restart stream).trans (.noteEnding _ ending)
    · obtain rfl := Option.some.inj reached
      exact .refl stream
  · rw [Session.activate_of_flags known, has] at reached
    obtain rfl := Option.some.inj reached
    exact .refl stream

theorem drifts_deactivate {flags : Int} {device : Device} (has : session.stream? = some stream)
    (reached : (session.deactivate flags device).2.1.stream? = some later) :
    stream.Drifts later := by
  by_cases known : flags = 0
  · subst known
    rcases session with _ | stream | ⟨stream, run⟩ <;> cases has
    all_goals obtain rfl := Option.some.inj reached
    · exact .refl stream
    · exact .endRun stream run device
  · rw [Session.deactivate_of_flags known, has] at reached
    obtain rfl := Option.some.inj reached
    exact .refl stream

/-- A request that does not write leaves the stream to the hand-over. -/
theorem drifts (quiet : request.isQuiet = true) (has : session.stream? = some stream)
    (reached : (request.run session).stream? = some later) : stream.Drifts later := by
  cases passed : request.passedOn? with
  | some asked =>
      rw [run_of_passedOn passed, Session.stream?_mapStream, has] at reached
      obtain rfl := Option.some.inj reached
      exact .handOver stream asked (passedOn_noRelease passed)
  | none =>
      cases request with
      | setUp | write | flush | acquireBuffer | fillBuffer | releaseBuffer => exact nomatch quiet
      | requestReset | signalFault | readStatus | setHardwareTime | deviceStep =>
          exact nomatch passed
      | activate flags device => exact drifts_activate has reached
      | deactivate flags device => exact drifts_deactivate has reached
      | close device =>
          rw [run, Session.close_idle] at reached
          cases reached
      | transfer deviceChannels request =>
          rcases session with _ | stream | ⟨stream, ending | ending⟩ <;> cases has
          · obtain rfl := Option.some.inj reached
            exact .refl stream
          · rw [run, Session.serve, Session.stream?_afterAnswer] at reached
            obtain rfl := Option.some.inj reached
            exact .serve stream deviceChannels request
          · obtain rfl := Option.some.inj reached
            exact .refl stream
      | runEnds ending =>
          rcases session with _ | stream | ⟨stream, planned | ended⟩ <;> cases has
          all_goals obtain rfl := Option.some.inj reached
          · exact .refl stream
          · exact .noteEnding stream ending
          · exact .refl stream

/-! ## The slot in work -/

/-- Whether a request writes samples. -/
def isWrite : SessionRequest → Bool
  | @write _ _ _ _ => true
  | _ => false

/-- A request that writes no samples leaves the slot in work alone, or none is in work
afterwards. -/
theorem inWork_of_not_write (noWrite : request.isWrite = false)
    (sameStream : ¬ request.SetsUp session) (has : session.stream? = some stream)
    (reached : (request.run session).stream? = some later) :
    later.inWork = none ∨ later.inWork = stream.inWork := by
  cases request with
  | write inputs count => exact nomatch noWrite
  | setUp request limits =>
      rw [run_setUp_of_refused sameStream, has] at reached
      obtain rfl := Option.some.inj reached
      exact .inr rfl
  | flush =>
      rcases session with _ | stream | ⟨stream, run⟩ <;> cases has
      all_goals obtain rfl := Option.some.inj reached
      · exact .inr rfl
      · exact .inl stream.inWork_flush
  | acquireBuffer =>
      rcases session with _ | stream | ⟨stream, ending | ending⟩ <;> cases has
      all_goals obtain rfl := Option.some.inj reached
      · exact .inr rfl
      · exact .inl stream.inWork_acquireBuffer
      · exact .inr rfl
  | fillBuffer index content =>
      rcases session with _ | stream | ⟨stream, run⟩ <;> cases has
      all_goals
        obtain rfl := Option.some.inj reached
        exact .inr rfl
  | releaseBuffer handle elements =>
      rcases session with _ | stream | ⟨stream, run⟩ <;> cases has
      all_goals obtain rfl := Option.some.inj reached
      · exact .inr rfl
      · exact .inr (stream.inWork_padAndRelease handle elements)
  | activate | deactivate | close | requestReset | signalFault | readStatus | setHardwareTime
  | transfer | deviceStep | runEnds =>
      obtain ⟨_, -, -, work⟩ := drifts rfl has reached
      exact work.symm

/-- What is in work after a request was in work before, unless samples were written. -/
theorem work_cases (reached : (request.run session).stream? = some later) :
    later.inWork = none ∨ ∃ stream, session.stream? = some stream ∧
      ((stream.Moves later ∧ later.inWork = stream.inWork) ∨
        ∃ (α : Type) (_ : Sample α) (inputs : List (List α)) (count : Nat),
          later = (stream.write inputs count).2) := by
  obtain ⟨-, _, _, config, -, -, rfl⟩ | ⟨sameStream, stream, has, moves⟩ := stream_cases reached
  · exact .inl rfl
  · cases writes : request.isWrite with
    | false =>
        obtain nothing | kept := inWork_of_not_write writes sameStream has reached
        · exact .inl nothing
        · exact .inr ⟨stream, has, .inl ⟨moves, kept⟩⟩
    | true =>
        cases request with
        | write inputs count =>
            rcases session with _ | stream | ⟨stream, ending | ending⟩ <;> cases has
            all_goals obtain rfl := Option.some.inj reached
            · exact .inr ⟨stream, rfl, .inl ⟨moves, rfl⟩⟩
            · exact .inr ⟨stream, rfl, .inr ⟨_, _, inputs, count, rfl⟩⟩
            · exact .inr ⟨stream, rfl, .inl ⟨moves, rfl⟩⟩
        | _ => exact nomatch writes

end SessionRequest

end DacStream
