import DacStream.Proofs.HandleLifetime
import DacStream.Proofs.SessionAnswers
import DacStream.Proofs.StreamPasts

/-!
# The past of a session

A session whose stream has a past behind it answers as it would without, but for the
epochs of handles (`Session.answers_withPast`).  It is the caller's handles alone that have
to be read without the past (`SessionRequest.withoutPast`).  This holds as long as the
stream lasts: a stream that is set up anew has no past.
-/

namespace DacStream

set_option autoImplicit false

/-- The answer of a session whose stream has a past behind it. -/
def SessionAnswer.withPast (past : Past) : SessionAnswer → SessionAnswer
  | .lent answer => .lent (answer.map (·.withPast past))
  | .stepped grant? => .stepped (grant?.map (·.withPast past))
  | other => other

/-- The same request to a session whose stream has no past behind it. -/
def SessionRequest.withoutPast (past : Past) : SessionRequest → SessionRequest
  | .releaseBuffer handle elements => .releaseBuffer (handle.withoutPast past) elements
  | other => other

namespace Session

/-- The session with a past behind its stream. -/
def withPast (session : Session) (past : Past) : Session :=
  session.mapStream (·.withPast past)

/-! ## Parts of the operations -/

section

variable {α : Type} {act twin : Stream → Except StreamError α × Stream} {past : Past}
  (rename : Except StreamError α → Except StreamError α)

/-- What does the same on every stream of an active session does so on the session. -/
theorem whenActive_withPast (keeps : ∀ error, rename (.error error) = .error error)
    {session : Session}
    (same : ∀ stream, session.stream? = some stream →
      twin (stream.withPast past) = (rename (act stream).1, (act stream).2.withPast past))
    (operation : String) :
    (session.withPast past).whenActive operation twin =
      (rename (session.whenActive operation act).1,
        (session.whenActive operation act).2.withPast past) := by
  cases session with
  | idle | configured => exact congrArg (Prod.mk · _) (keeps _).symm
  | active stream run =>
      have done := same stream rfl
      simp only [withPast, mapStream, whenActive, done]

theorem whenTransmitting_withPast (keeps : ∀ error, rename (.error error) = .error error)
    {session : Session}
    (same : ∀ stream, session.stream? = some stream →
      twin (stream.withPast past) = (rename (act stream).1, (act stream).2.withPast past))
    (operation : String) :
    (session.withPast past).whenTransmitting operation twin =
      (rename (session.whenTransmitting operation act).1,
        (session.whenTransmitting operation act).2.withPast past) := by
  rcases session with _ | stream | ⟨stream, planned | ending⟩
  · exact congrArg (Prod.mk · _) (keeps _).symm
  · exact congrArg (Prod.mk · _) (keeps _).symm
  · exact whenActive_withPast rename keeps same operation
  · exact congrArg (Prod.mk · _) (keeps _).symm

end

variable {session : Session} {past : Past}

/-- A transfer has the same answer, and so the run goes on or crashes alike. -/
theorem serve_withPast (deviceChannels : Nat) (request : TransferRequest) :
    (session.withPast past).serve deviceChannels request =
      ((session.serve deviceChannels request).1,
        (session.serve deviceChannels request).2.withPast past) := by
  rcases session with _ | stream | ⟨stream, planned | ending⟩
  · rfl
  · rfl
  · have served := stream.serve_withPast past deviceChannels request
    simp only [withPast, mapStream, Session.serve, served]
    cases (stream.serve deviceChannels request).1 <;> rfl
  · rfl

theorem runStep_withPast (step : DeviceStep) :
    (session.withPast past).runStep step =
      ((session.runStep step).1.map (·.withPast past),
        (session.runStep step).2.withPast past) := by
  cases session with
  | idle => rfl
  | configured stream | active stream run =>
      have stepped : step.run (stream.withPast past).handover = _ :=
        step.run_withPast stream.handover past
      simp only [withPast, mapStream, runStep, stepped]
      rfl

theorem activate_withPast (flags : Int) (device : Device) :
    (session.withPast past).activate flags device =
      ((session.activate flags device).1, (session.activate flags device).2.1.withPast past,
        (session.activate flags device).2.2) := by
  by_cases known : flags = 0
  · subst known
    cases session with
    | idle | active => rfl
    | configured stream =>
        have config : (stream.withPast past).config = stream.config := rfl
        have restarted := stream.restart_withPast past
        have noted := stream.restart.noteEnding_withPast past
        rcases starts : device.start stream.config.asyncBuffers with ⟨planned | ending, started⟩ <;>
          simp [withPast, mapStream, activate, config, starts, restarted, noted]
  · simp [activate, known]

theorem deactivate_withPast (flags : Int) (device : Device) :
    (session.withPast past).deactivate flags device =
      ((session.deactivate flags device).1, (session.deactivate flags device).2.1.withPast past,
        (session.deactivate flags device).2.2) := by
  by_cases known : flags = 0
  · subst known
    cases session with
    | idle | configured => rfl
    | active stream run =>
        have noted := stream.noteEnding_withPast past
        have restarted := Stream.restart_withPast
        rcases run with planned | ending <;>
          simp [withPast, mapStream, deactivate, endRun, noted, restarted]
  · simp [deactivate, known]

theorem write_withPast {α : Type} [Sample α] (inputs : List (List α)) (count : Nat) :
    (session.withPast past).write inputs count =
      ((session.write inputs count).1, (session.write inputs count).2.withPast past) :=
  whenTransmitting_withPast id (fun _ => rfl)
    (fun stream _ => stream.write_withPast past inputs count) _

theorem flush_withPast :
    (session.withPast past).flush = (session.flush.1, session.flush.2.withPast past) :=
  whenActive_withPast id (fun _ => rfl) (fun stream _ => stream.flush_withPast past) _

theorem acquireBuffer_withPast :
    (session.withPast past).acquireBuffer =
      (session.acquireBuffer.1.map (·.withPast past), session.acquireBuffer.2.withPast past) :=
  whenTransmitting_withPast (Except.map fun buffer : LentBuffer => buffer.withPast past)
    (fun _ => rfl) (fun stream _ => stream.acquireBuffer_withPast past) _

/-- A caller's handle is read without the past, once the first epoch has begun. -/
theorem releaseBuffer_withPast (begun : session.Reaches 1) (handle : Handle) (elements : Nat) :
    (session.withPast past).releaseBuffer handle elements =
      ((session.releaseBuffer (handle.withoutPast past) elements).1,
        (session.releaseBuffer (handle.withoutPast past) elements).2.withPast past) :=
  whenActive_withPast id (fun _ => rfl)
    (fun stream has => stream.padAndRelease_withPast past handle (handle.withoutPast past) rfl
      (SlotRing.isCurrent_withoutPast (begun stream has) past handle) elements) _

theorem signalFault_withPast (fault : Fault) :
    (session.withPast past).signalFault fault =
      ((session.signalFault fault).1, (session.signalFault fault).2.withPast past) := by
  cases session with
  | idle => rfl
  | configured stream | active stream run =>
      have raised : (stream.withPast past).handover.raise fault = _ :=
        stream.handover.raise_withPast past fault
      simp only [withPast, mapStream, signalFault, withStream, raised]
      rfl

/-! ## Requests -/

theorem setsUp_withPast (request : SessionRequest) :
    request.SetsUp (session.withPast past) ↔ (request.withoutPast past).SetsUp session := by
  cases request with
  | setUp wanted limits =>
      cases session with
      | idle | active => exact Iff.rfl
      | configured stream =>
          simp only [SessionRequest.withoutPast, SessionRequest.SetsUp, withPast, mapStream, setUp]
          cases StreamConfig.create wanted limits <;> exact Iff.rfl
  | _ => exact Iff.rfl

/-- A request is answered as it would be without the past, and leaves the same session with
the past behind it. -/
theorem request_withPast (begun : session.Reaches 1) {request : SessionRequest}
    (keeps : ¬ request.SetsUp (session.withPast past)) :
    request.answer (session.withPast past) =
        ((request.withoutPast past).answer session).withPast past ∧
      request.run (session.withPast past) =
        ((request.withoutPast past).run session).withPast past := by
  cases request with
  | setUp wanted limits =>
      have keepsToo : ¬ (SessionRequest.setUp wanted limits).SetsUp session := by
        rwa [setsUp_withPast] at keeps
      rw [SessionRequest.run_setUp_of_refused keeps]
      refine ⟨?_, (congrArg (·.withPast past)
        (SessionRequest.run_setUp_of_refused keepsToo)).symm⟩
      cases session with
      | idle | active => rfl
      | configured stream =>
          simp only [SessionRequest.withoutPast, SessionRequest.answer, withPast, mapStream, setUp]
          cases StreamConfig.create wanted limits <;> rfl
  | activate | deactivate | write | flush | acquireBuffer | releaseBuffer | signalFault | transfer
  | deviceStep =>
      simp only [SessionRequest.answer, SessionRequest.run, SessionRequest.withoutPast,
        SessionAnswer.withPast, activate_withPast, deactivate_withPast, write_withPast,
        flush_withPast, acquireBuffer_withPast, releaseBuffer_withPast begun,
        signalFault_withPast, serve_withPast, runStep_withPast, and_self]
  | close | fillBuffer | requestReset | readStatus | setHardwareTime =>
      cases session <;> exact ⟨rfl, rfl⟩
  | runEnds ending =>
      rcases session with _ | stream | ⟨stream, planned | ended⟩
      · exact ⟨rfl, rfl⟩
      · exact ⟨rfl, rfl⟩
      · exact ⟨rfl, congrArg (active · (.over ending)) (stream.noteEnding_withPast past ending)⟩
      · exact ⟨rfl, rfl⟩

/-- **A past does not change what a session answers**, but for the epochs of handles, as
long as the stream lasts. -/
theorem answers_withPast (begun : session.Reaches 1) {requests : List SessionRequest}
    (sameStream : ¬ (session.withPast past).SetsUpIn requests) :
    (session.withPast past).answers requests =
      (session.answers (requests.map (·.withoutPast past))).map (·.withPast past) := by
  induction requests generalizing session with
  | nil => rfl
  | cons request requests inductionHypothesis =>
      rw [SetsUpIn, not_or] at sameStream
      obtain ⟨keeps, keepLater⟩ := sameStream
      obtain ⟨answered, reached⟩ := request_withPast begun keeps
      have keepsToo : ¬ session.SetsUpIn [request.withoutPast past] := by
        rw [setsUp_withPast] at keeps
        simpa [SetsUpIn] using keeps
      have begunStill : ((request.withoutPast past).run session).Reaches 1 := begun.after keepsToo
      rw [reached] at keepLater
      simp only [answers, List.map_cons, answered, reached]
      rw [inductionHypothesis begunStill keepLater]

end Session

end DacStream
