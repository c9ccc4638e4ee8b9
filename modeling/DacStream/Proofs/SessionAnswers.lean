import DacStream.Proofs.SessionsSideBySide

/-!
# What a session answers

Every request has an answer (`SessionRequest.answer`), and a row of requests has a row of
answers (`Session.answers`).  They are all that can be seen of a session from outside.

Two sessions that are alike but for the payloads of their slots give the same answers
(`Session.Alike.answers`), with one exception: a slot that is handed out for filling in
place shows what it held before, and when it was on air (`SessionAnswer.unread`).
-/

namespace DacStream

set_option autoImplicit false

/-! ## Answers -/

/-- What a request is answered with. -/
inductive SessionAnswer where
  /-- Whether the request was granted. -/
  | done (answer : Except StreamError Unit)
  /-- As `done`, with the device as it is left. -/
  | driven (answer : Except StreamError Unit) (device : Device)
  | written (answer : Except StreamError WriteOutcome)
  | flushed (answer : Except StreamError Bool)
  | lent (answer : Except StreamError LentBuffer)
  | reported (report : StreamError)
  /-- The bytes for each channel of the device. -/
  | transferred (buffers? : Option (BufferSet Bytes))
  | stepped (grant? : Option Grant)
  /-- There is nothing to answer. -/
  | none

/-- The answer without what only a caller who reads the memory of a slot gets to see: the
payloads that a slot held before it was handed out, and the tick at which it was on air. -/
def SessionAnswer.unread : SessionAnswer → SessionAnswer
  | .lent answer => .lent (answer.map fun buffer => { buffer with tick := 0, payloads := [] })
  | other => other

/-- The answer to a request. -/
def SessionRequest.answer : SessionRequest → Session → SessionAnswer
  | .setUp request limits, session => .done (session.setUp request limits).1
  | .activate flags device, session =>
      .driven (session.activate flags device).1 (session.activate flags device).2.2
  | .deactivate flags device, session =>
      .driven (session.deactivate flags device).1 (session.deactivate flags device).2.2
  | .close device, session => .driven (session.close device).1 (session.close device).2.2
  | @write _ _ inputs count, session => .written (session.write inputs count).1
  | .flush, session => .flushed session.flush.1
  | .acquireBuffer, session => .lent session.acquireBuffer.1
  | .fillBuffer _ _, _ => .none
  | .releaseBuffer handle elements, session => .done (session.releaseBuffer handle elements).1
  | .requestReset, session => .done session.requestReset.1
  | .signalFault fault, session => .done (session.signalFault fault).1
  | .readStatus, session => .reported session.readStatus.1
  | .setHardwareTime time rate, session => .done (session.setHardwareTime time rate).1
  | .transfer deviceChannels request, session =>
      .transferred (session.serve deviceChannels request).1
  | .deviceStep step, session => .stepped (session.runStep step).1
  | .runEnds _, _ => .none

/-- The answers to a row of requests. -/
def Session.answers (session : Session) : List SessionRequest → List SessionAnswer
  | [] => []
  | request :: requests => request.answer session :: (request.run session).answers requests

/-! ## Streams that are alike -/

namespace Stream

variable {stream : Stream} {other : Slots} {bound : Nat} {fills : List CallerFill}

/-- What a caller who acquires a buffer is told, apart from what the buffer holds. -/
def lentUnread (stream : Stream) : Except StreamError LentBuffer :=
  match stream.flush.1 with
  | .error error => .error error
  | .ok _ =>
      stream.flush.2.handover.acquire.1.map fun grant =>
        ⟨grant.handle, 0, stream.flush.2.config.elementsPerBuffer, []⟩

theorem acquireBuffer_unread (stream : Stream) :
    (stream.acquireBuffer.1.map fun buffer => { buffer with tick := 0, payloads := [] }) =
      stream.lentUnread := by
  unfold acquireBuffer lentUnread
  rcases stream.flush with ⟨error | flushed, after⟩
  · rfl
  · rcases asked : after.handover.acquire with ⟨error | grant, handover⟩ <;>
      simp [asked, Except.map]

/-- Both streams hand out the same slot. -/
theorem Alike.lentUnread (alike : stream.Alike bound fills other) :
    (stream.withSlots other).lentUnread = stream.lentUnread := by
  obtain ⟨later, twinFlush, -⟩ := alike.flush
  have sameHandle :=
    congrArg (Except.map fun handle =>
      (⟨handle, 0, stream.flush.2.config.elementsPerBuffer, []⟩ : LentBuffer))
      (stream.flush.2.handover.acquire_withSlots later).1
  have mapped (answer : Except StreamError Grant) :
      (answer.map Grant.handle).map (fun handle =>
          (⟨handle, 0, stream.flush.2.config.elementsPerBuffer, []⟩ : LentBuffer)) =
        answer.map fun grant =>
          ⟨grant.handle, 0, stream.flush.2.config.elementsPerBuffer, []⟩ := by
    cases answer <;> rfl
  rw [mapped, mapped] at sameHandle
  unfold Stream.lentUnread
  rw [twinFlush]
  cases stream.flush.1 with
  | error => rfl
  | ok => exact sameHandle

end Stream

namespace Session

section

variable {α : Type} {act : Stream → Except StreamError α × Stream}

/-- What answers the same on the stream of an active session does so on the session. -/
theorem whenActive_answer {session : Session} {other : Slots}
    (same : ∀ stream, session.stream? = some stream →
      (act (stream.withSlots other)).1 = (act stream).1) (operation : String) :
    ((session.withSlots other).whenActive operation act).1 =
      (session.whenActive operation act).1 := by
  cases session with
  | idle | configured => rfl
  | active stream run => exact same stream rfl

theorem whenTransmitting_answer {session : Session} {other : Slots}
    (same : ∀ stream, session.stream? = some stream →
      (act (stream.withSlots other)).1 = (act stream).1) (operation : String) :
    ((session.withSlots other).whenTransmitting operation act).1 =
      (session.whenTransmitting operation act).1 := by
  rcases session with _ | stream | ⟨stream, planned | ending⟩
  · rfl
  · rfl
  · exact same stream rfl
  · rfl

end

variable {session : Session} {bound : Nat} {fills : List CallerFill} {other : Slots}

/-- Both sessions hand out the same slot. -/
theorem Alike.acquireBuffer_unread (alike : session.Alike bound fills other) :
    (SessionRequest.acquireBuffer.answer (session.withSlots other)).unread =
      (SessionRequest.acquireBuffer.answer session).unread := by
  rcases session with _ | stream | ⟨stream, planned | ending⟩
  · rfl
  · rfl
  · have same := (alike stream rfl).lentUnread
    rw [← Stream.acquireBuffer_unread, ← Stream.acquireBuffer_unread] at same
    exact congrArg SessionAnswer.lent same
  · rfl

/-- A request has the same answer on both sides. -/
theorem Alike.answer (alike : session.Alike bound fills other) (request : SessionRequest) :
    (request.answer (session.withSlots other)).unread = (request.answer session).unread := by
  cases request with
  | fillBuffer | runEnds => rfl
  | setUp wanted limits =>
      cases session with
      | idle | active => rfl
      | configured stream =>
          simp only [SessionRequest.answer, withSlots, Session.mapStream, Session.setUp]
          cases StreamConfig.create wanted limits <;> rfl
  | activate flags device =>
      by_cases known : flags = 0
      · subst known
        cases session with
        | idle | active => rfl
        | configured stream =>
            rcases starts : device.start stream.config.asyncBuffers with
              ⟨planned | ended, started⟩ <;>
              simp [SessionRequest.answer, withSlots, Session.mapStream, Session.activate, starts]
      · simp [SessionRequest.answer, Session.activate, known]
  | deactivate flags device =>
      by_cases known : flags = 0
      · subst known
        cases session <;> rfl
      · simp [SessionRequest.answer, Session.deactivate, known]
  | close device => cases session <;> rfl
  | write inputs count =>
      refine congrArg (fun answer => (SessionAnswer.written answer).unread) ?_
      refine whenTransmitting_answer (fun stream has => ?_) _
      obtain ⟨later, same, -⟩ := (alike stream has).write inputs count
      rw [same]
  | flush =>
      refine congrArg (fun answer => (SessionAnswer.flushed answer).unread) ?_
      refine whenActive_answer (fun stream has => ?_) _
      obtain ⟨later, same, -⟩ := (alike stream has).flush
      rw [same]
  | acquireBuffer => exact alike.acquireBuffer_unread
  | releaseBuffer handle elements =>
      refine congrArg (fun answer => (SessionAnswer.done answer).unread) ?_
      refine whenActive_answer (fun stream _ => ?_) _
      rw [stream.padAndRelease_withSlots]
  | requestReset | signalFault | setHardwareTime => cases session <;> rfl
  | readStatus => cases session <;> rfl
  | transfer deviceChannels asked =>
      exact congrArg (fun answer => (SessionAnswer.transferred answer).unread)
        (alike.serve deviceChannels asked).1
  | deviceStep step =>
      exact congrArg (fun answer => (SessionAnswer.stepped answer).unread) (alike.runStep step).1

/-- So has a row of requests, as long as the caller overwrites what it releases. -/
theorem Alike.answers (alike : session.Alike bound fills other) {requests : List SessionRequest}
    (overwrites : session.OverwritesFirst fills requests) :
    ((session.withSlots other).answers requests).map SessionAnswer.unread =
      (session.answers requests).map SessionAnswer.unread := by
  induction requests generalizing session fills other with
  | nil => rfl
  | cons request requests inductionHypothesis =>
      obtain ⟨first, rest⟩ := overwrites
      simp only [Session.answers, List.map_cons]
      rw [alike.answer request]
      congr 1
      by_cases setsUp : request.SetsUp session
      · rw [run_withSlots_of_setsUp setsUp]
      · obtain ⟨later, same, kept⟩ := alike.run first setsUp
        rw [same]
        exact inductionHypothesis kept rest

end Session

end DacStream
