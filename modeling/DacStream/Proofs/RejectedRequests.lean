import DacStream.Proofs.StoppedSessions
import DacStream.Proofs.SessionAnswers

/-!
# Rejected requests

A request to a session may be wrong in itself: it has flags or a direction that streams do
not have, it does not fit the state, its samples do not fit the stream, or it asks for a
stream that the device cannot have.  Such a request is rejected (`StreamError.isRejection`),
and then the session and the device are what they were (`SessionRequest.kept_of_rejected`).
So whoever fails to set up another stream still has the one from before.

What fails for other reasons may leave traces.  A writer who finds no slot has settled the
ring, and a device that failed is stopped.  But none of these failures is taken for a
rejection: waits that run out, faults and wrong handles have errors of their own.  So an
operation that waits for the device is rejected before it does, or not at all
(`Session.whenTransmitting_at_once`).

Ending a stream is not rejected once it was started.  Deactivating it empties the ring, and
closing gives it up, whatever the device reports (`Session.rejections_change_nothing`).
-/

namespace DacStream

set_option autoImplicit false

/-! ## Rejections -/

/-- Whether an error says that a request was wrong in itself. -/
def StreamError.isRejection : StreamError → Bool
  | .notSupported _ | .invalidState _ _ | .formatMismatch _ _ | .channelCountMismatch _ _
  | .unsupportedDirection _ | .invalidChannelSelection _ _ | .bufferLengthMismatch _ _
  | .invalidBufferLength _ _ | .misalignedElement _ _ _ | .invalidBufferCount _ => true
  | .timeout | .fault _ | .unsupportedFormat _ | .invalidHandle _ | .helperNotStarted _
  | .transmitterStopped | .helperCrashed | .device _ => false

/-- The error of an operation that failed. -/
def failure? {α : Type} : Except StreamError α → Option StreamError
  | .error error => some error
  | .ok _ => none

theorem failure?_eq_some {α : Type} {answer : Except StreamError α} {error : StreamError} :
    failure? answer = some error ↔ answer = .error error := by
  cases answer <;> simp [failure?]

namespace SessionAnswer

/-- The error in an answer. -/
def error? : SessionAnswer → Option StreamError
  | .done answer | .driven answer _ => failure? answer
  | .written answer => failure? answer
  | .flushed answer => failure? answer
  | .lent answer => failure? answer
  | .reported report => some report
  | .transferred _ | .stepped _ | .none => .none

/-- The device that comes with an answer. -/
def device? : SessionAnswer → Option Device
  | .driven _ device => some device
  | _ => .none

end SessionAnswer

/-- The device that a request is made with. -/
def SessionRequest.device? : SessionRequest → Option Device
  | .activate _ device | .deactivate _ device | .close device => some device
  | _ => none

/-! ## Streams -/

/-- What is made of an answer fails as the answer does. -/
theorem error_of_map {α β : Type} {answer : Except StreamError α} {change : α → β}
    {error : StreamError} (failed : answer.map change = .error error) : answer = .error error := by
  cases answer <;> cases failed
  rfl

/-- A writer that gets no slot was not rejected. -/
theorem Handover.isRejection_acquire {handover : Handover} {error : StreamError}
    (failed : handover.acquire.1 = .error error) : error.isRejection = false := by
  obtain ⟨fault, -, same⟩ | ⟨-, -, same⟩ | ⟨-, -, tick, same⟩ := handover.acquire_cases
  · rw [same] at failed
    cases failed
    rfl
  · rw [same] at failed
    cases failed
    rfl
  · rw [same] at failed
    cases failed

/-- Nor was one whose handle is passed over. -/
theorem Handover.isRejection_release {handover : Handover} {handle : Handle} {error : StreamError}
    (failed : (handover.release handle).1 = .error error) : error.isRejection = false := by
  obtain ⟨-, same⟩ | ⟨-, -, same⟩ | ⟨-, -, same⟩ := handover.release_cases handle
  · rw [same] at failed
    cases failed
  · rw [same] at failed
    cases failed
    rfl
  · rw [same] at failed
    cases failed

namespace Stream

variable {stream : Stream} {error : StreamError}

theorem isRejection_padAndRelease {handle : Handle} {elements : Nat}
    (failed : (stream.padAndRelease handle elements).1 = .error error) :
    error.isRejection = false := by
  rw [padAndRelease_eq] at failed
  exact Handover.isRejection_release failed

theorem isRejection_flush (failed : stream.flush.1 = .error error) :
    error.isRejection = false := by
  obtain ⟨-, same⟩ | ⟨slot, -, -, same⟩ := stream.flush_cases
  · rw [same] at failed
    cases failed
  · rw [same] at failed
    exact isRejection_padAndRelease (error_of_map failed)

theorem isRejection_acquireBuffer (failed : stream.acquireBuffer.1 = .error error) :
    error.isRejection = false := by
  obtain ⟨other, flushed, same⟩ | ⟨_, other, -, acquired, same⟩ | ⟨_, _, _, -, -, -, same⟩ :=
    stream.acquireBuffer_cases <;> rw [same] at failed <;> cases failed
  · exact isRejection_flush flushed
  · exact Handover.isRejection_acquire acquired

theorem isRejection_claim (failed : stream.claim.1 = .error error) :
    error.isRejection = false := by
  obtain ⟨_, -, same⟩ | ⟨-, other, acquired, same⟩ | ⟨-, _, -, same⟩ := stream.claim_cases <;>
    rw [same] at failed <;> cases failed
  exact Handover.isRejection_acquire acquired

section

variable {α : Type} [Sample α]

theorem isRejection_writeInto {slot : PartialSlot} {inputs : List (List α)} {wanted : Nat}
    (failed : (stream.writeInto slot inputs wanted).1 = .error error) :
    error.isRejection = false := by
  obtain ⟨count, -, written, -, ⟨-, same⟩ | ⟨-, same⟩⟩ :=
    stream.writeInto_cases slot inputs wanted
  · rw [same] at failed
    exact Handover.isRejection_release (error_of_map failed)
  · rw [same] at failed
    cases failed

/-- A write that does not fit the stream is rejected. -/
theorem write_of_not_accepts {inputs : List (List α)} (unfit : ¬stream.Accepts inputs)
    (count : Nat) :
    ∃ error, error.isRejection = true ∧ stream.write inputs count = (.error error, stream) := by
  by_cases component : Sample.component α = stream.config.format.component
  · have channels : inputs.length ≠ stream.config.channelCount :=
      fun channels => unfit ⟨component, channels⟩
    exact ⟨_, rfl, by simp only [write, component, channels, ne_eq, not_true_eq_false,
      not_false_eq_true, if_false, if_true]; rfl⟩
  · exact ⟨_, rfl, by simp only [write, ne_eq, component, not_false_eq_true, if_true]; rfl⟩

/-- A write that fits may fail, but is not rejected. -/
theorem isRejection_write {inputs : List (List α)} (fits : stream.Accepts inputs) {count : Nat}
    (failed : (stream.write inputs count).1 = .error error) : error.isRejection = false := by
  obtain ⟨unfit, -⟩ | ⟨-, -, same⟩ | ⟨-, -, other, claimed, same⟩ | ⟨-, -, slot, claimed, same⟩ :=
    stream.write_cases inputs count
  · exact absurd fits unfit
  · rw [same] at failed
    cases failed
  · rw [same] at failed
    obtain rfl : other = error := by simpa using failed
    exact isRejection_claim claimed
  · rw [same] at failed
    exact isRejection_writeInto failed

/-- A write that is rejected has not begun. -/
theorem write_of_rejected {inputs : List (List α)} {count : Nat}
    (failed : (stream.write inputs count).1 = .error error) (rejection : error.isRejection = true) :
    (stream.write inputs count).2 = stream := by
  by_cases fits : stream.Accepts inputs
  · simp [isRejection_write fits failed] at rejection
  · obtain ⟨other, -, same⟩ := write_of_not_accepts fits count
    rw [same]

end

end Stream

/-! ## Sessions -/

namespace Session

variable {session : Session} {error : StreamError}

section

variable {α : Type} {operation : String} {act : Stream → Except StreamError α × Stream}

/-- What changes no stream by which it is rejected changes no session either. -/
theorem whenActive_of_rejected
    (keeps : ∀ stream, (act stream).1 = .error error → (act stream).2 = stream)
    (failed : (session.whenActive operation act).1 = .error error) :
    (session.whenActive operation act).2 = session := by
  cases session with
  | idle | configured => rfl
  | active stream run =>
      show active (act stream).2 run = active stream run
      rw [keeps stream failed]

theorem whenTransmitting_of_rejected
    (keeps : ∀ stream, (act stream).1 = .error error → (act stream).2 = stream)
    (failed : (session.whenTransmitting operation act).1 = .error error) :
    (session.whenTransmitting operation act).2 = session := by
  rcases session with _ | stream | ⟨stream, planned | ending⟩
  · rfl
  · rfl
  · exact whenActive_of_rejected keeps failed
  · rfl

end

/-- What can be done with every stream is refused only where there is none. -/
theorem withStream_of_error {α : Type} {operation : String} {act : Stream → α × Stream}
    (failed : (session.withStream operation act).1 = .error error) :
    (session.withStream operation act).2 = session := by
  cases session with
  | idle => rfl
  | configured | active => cases failed

/-- Every failure to set up a stream is a rejection. -/
theorem setUp_of_error {wanted : StreamRequest} {limits : DeviceLimits}
    (failed : (session.setUp wanted limits).1 = .error error) :
    error.isRejection = true ∧ (session.setUp wanted limits).2 = session := by
  have unmet (other : StreamError) (refused : StreamConfig.create wanted limits = .error other) :
      other.isRejection = true := by
    unfold StreamConfig.create at refused
    split at refused
    · rename_i requirement found
      cases refused
      have listed := List.mem_of_find?_eq_some found
      simp only [StreamConfig.requirements, List.mem_cons, List.not_mem_nil, or_false] at listed
      obtain rfl | rfl | rfl | rfl | rfl | rfl := listed <;> rfl
    · cases refused
  cases session with
  | active =>
      cases failed
      exact ⟨rfl, rfl⟩
  | idle | configured =>
      rw [setUp] at failed ⊢
      cases made : StreamConfig.create wanted limits with
      | error other =>
          rw [made] at failed
          cases failed
          exact ⟨unmet _ made, rfl⟩
      | ok config =>
          rw [made] at failed
          cases failed

/-- Neither session nor device changes when an activation fails. -/
theorem activate_of_error {flags : Int} {device : Device}
    (failed : (session.activate flags device).1 = .error error) :
    (session.activate flags device).2 = (session, device) := by
  by_cases known : flags = 0
  · subst known
    cases session with
    | idle | active => rfl
    | configured stream =>
        rw [(activate_configured stream device).1] at failed
        cases failed
  · simp only [activate, if_pos known]

/-- How a run ended is not taken for a rejection. -/
theorem isRejection_report {ending : RunEnding} (failed : ending.report = .error error) :
    error.isRejection = false := by
  cases ending <;> cases failed <;> rfl

theorem deactivate_of_rejected {flags : Int} {device : Device}
    (failed : (session.deactivate flags device).1 = .error error)
    (rejection : error.isRejection = true) :
    (session.deactivate flags device).2 = (session, device) := by
  by_cases known : flags = 0
  · subst known
    cases session with
    | idle | configured => rfl
    | active stream run => simp [isRejection_report failed] at rejection
  · simp only [deactivate, if_pos known]

/-- Closing is never rejected. -/
theorem isRejection_close {device : Device} (failed : (session.close device).1 = .error error) :
    error.isRejection = false := by
  cases session with
  | idle | configured => cases failed
  | active stream run => exact isRejection_report failed

end Session

/-! ## Requests -/

/-- **A rejected request changes nothing**, neither the session nor the device. -/
theorem SessionRequest.kept_of_rejected {request : SessionRequest} {session : Session}
    {error : StreamError} (failed : (request.answer session).error? = some error)
    (rejection : error.isRejection = true) :
    request.run session = session ∧ (request.answer session).device? = request.device? := by
  -- What fails for other reasons was not rejected.
  have other {culprit : StreamError} (reason : culprit.isRejection = false) : culprit ≠ error := by
    rintro rfl
    rw [reason] at rejection
    cases rejection
  cases request with
  | setUp wanted limits => exact ⟨(Session.setUp_of_error (failure?_eq_some.mp failed)).2, rfl⟩
  | activate flags device =>
      have kept := Session.activate_of_error (failure?_eq_some.mp failed)
      exact ⟨congrArg Prod.fst kept, congrArg some (congrArg Prod.snd kept)⟩
  | deactivate flags device =>
      have kept := Session.deactivate_of_rejected (failure?_eq_some.mp failed) rejection
      exact ⟨congrArg Prod.fst kept, congrArg some (congrArg Prod.snd kept)⟩
  | close device =>
      exact absurd rfl (other (Session.isRejection_close (failure?_eq_some.mp failed)))
  | write inputs count =>
      have kept := Session.whenTransmitting_of_rejected
        (fun _ failed => Stream.write_of_rejected failed rejection) (failure?_eq_some.mp failed)
      exact ⟨kept, rfl⟩
  | flush =>
      have kept := Session.whenActive_of_rejected
        (fun _ failed => absurd rfl (other (Stream.isRejection_flush failed)))
        (failure?_eq_some.mp failed)
      exact ⟨kept, rfl⟩
  | acquireBuffer =>
      have kept := Session.whenTransmitting_of_rejected
        (fun _ failed => absurd rfl (other (Stream.isRejection_acquireBuffer failed)))
        (failure?_eq_some.mp failed)
      exact ⟨kept, rfl⟩
  | releaseBuffer handle elements =>
      have kept := Session.whenActive_of_rejected
        (fun _ failed => absurd rfl (other (Stream.isRejection_padAndRelease failed)))
        (failure?_eq_some.mp failed)
      exact ⟨kept, rfl⟩
  | requestReset | signalFault | setHardwareTime =>
      exact ⟨Session.withStream_of_error (failure?_eq_some.mp failed), rfl⟩
  | readStatus =>
      obtain rfl := Option.some.inj failed
      cases session with
      | idle => exact ⟨rfl, rfl⟩
      | configured stream =>
          refine absurd rfl (other ?_)
          show StreamError.isRejection
            ((stream.handover.ring.statusNotice.map StreamError.fault).getD .timeout) = false
          cases stream.handover.ring.statusNotice <;> rfl
      | active stream run =>
          refine absurd rfl (other ?_)
          show StreamError.isRejection
            ((stream.handover.ring.statusNotice.map StreamError.fault).getD
              (if run.isOver then .transmitterStopped else .timeout)) = false
          cases stream.handover.ring.statusNotice <;> cases run <;> rfl
  | fillBuffer | transfer | deviceStep | runEnds => cases failed

/-! ## Waiting -/

section

variable {σ α : Type} {attempt : σ → Except StreamError α × σ} (kept : σ → Prop)

/-- What attempts and events keep is kept while an attempt waits. -/
theorem attemptThrough_keeps (attemptKeeps : ∀ state, kept state → kept (attempt state).2)
    {events : List (σ → σ)}
    (eventsKeep : ∀ event ∈ events, ∀ state, kept state → kept (event state))
    {state : σ} (now : kept state) : kept (attemptThrough attempt events state).2 := by
  induction events generalizing state with
  | nil => exact attemptKeeps state now
  | cons event events inductionHypothesis =>
      have laterKeep := fun other listed => eventsKeep other (List.mem_cons_of_mem event listed)
      have tried := attemptKeeps state now
      unfold attemptThrough
      split
      · rename_i waiting waits
        rw [waits] at tried
        exact inductionHypothesis laterKeep (eventsKeep event List.mem_cons_self waiting tried)
      · rename_i answer done _ same
        rw [same] at tried
        exact List.foldlRecOn (event :: events) _ tried
          fun reached kept next listed => eventsKeep next listed reached kept

/-- Where no attempt is given an error, an attempt that waits is not given it either. -/
theorem attemptThrough_ne {error : StreamError}
    (never : ∀ state, kept state → (attempt state).1 ≠ .error error)
    (attemptKeeps : ∀ state, kept state → kept (attempt state).2) {events : List (σ → σ)}
    (eventsKeep : ∀ event ∈ events, ∀ state, kept state → kept (event state)) {state : σ}
    (now : kept state) : (attemptThrough attempt events state).1 ≠ .error error := by
  induction events generalizing state with
  | nil => exact never state now
  | cons event events inductionHypothesis =>
      have laterKeep := fun other listed => eventsKeep other (List.mem_cons_of_mem event listed)
      have tried := attemptKeeps state now
      unfold attemptThrough
      split
      · rename_i waiting waits
        rw [waits] at tried
        exact inductionHypothesis laterKeep (eventsKeep event List.mem_cons_self waiting tried)
      · rename_i answer done _ same
        have answered := never state now
        rwa [same] at answered

/-- Whoever waits only where it is not rejected was rejected at once, if at all. -/
theorem attemptThrough_of_rejected {error : StreamError}
    (waits : ∀ state, (attempt state).1 = .error .timeout → kept state)
    (never : ∀ state, kept state → (attempt state).1 ≠ .error error)
    (attemptKeeps : ∀ state, kept state → kept (attempt state).2) {events : List (σ → σ)}
    (eventsKeep : ∀ event ∈ events, ∀ state, kept state → kept (event state)) {state : σ}
    (failed : (attemptThrough attempt events state).1 = .error error) :
    (attempt state).1 = .error error := by
  by_cases timesOut : (attempt state).1 = .error .timeout
  · exact absurd failed
      (attemptThrough_ne kept never attemptKeeps eventsKeep (waits state timesOut))
  · rw [← failed]
    exact (attemptThrough_of_ne_timeout timesOut events).symm

/-! A transfer is a row of steps, beside which the slot is kept that the device got. -/

/-- An attempt beside a slot. -/
def besideGrant (attempt : σ → Except StreamError α × σ) (reached : σ × Option Grant) :
    Except StreamError α × (σ × Option Grant) :=
  ((attempt reached.1).1, (attempt reached.1).2, reached.2)

/-- A step of the device, by which it may get a slot. -/
def stepEvent (run : DeviceStep → σ → Option Grant × σ) (step : DeviceStep)
    (reached : σ × Option Grant) : σ × Option Grant :=
  ((run step reached.1).2, (run step reached.1).1.or reached.2)

variable {run : DeviceStep → σ → Option Grant × σ} (steps : List DeviceStep) {state : σ}

theorem attemptThroughSteps_eq (attempt : σ → Except StreamError α × σ)
    (run : DeviceStep → σ → Option Grant × σ) (state : σ) :
    attemptThroughSteps run attempt steps state =
      let waited := attemptThrough (besideGrant attempt) (steps.map (stepEvent run)) (state, none)
      (waited.1, waited.2.2, waited.2.1) := rfl

/-- The steps of a transfer keep what each of them keeps. -/
theorem stepEvents_keep (runKeeps : ∀ step state, kept state → kept (run step state).2) :
    ∀ event ∈ steps.map (stepEvent run), ∀ reached, kept reached.1 → kept (event reached).1 := by
  intro event listed reached
  obtain ⟨step, -, rfl⟩ := List.mem_map.mp listed
  exact runKeeps step reached.1

theorem attemptThroughSteps_keeps (attemptKeeps : ∀ state, kept state → kept (attempt state).2)
    (runKeeps : ∀ step state, kept state → kept (run step state).2) (now : kept state) :
    kept (attemptThroughSteps run attempt steps state).2.2 := by
  rw [attemptThroughSteps_eq]
  exact attemptThrough_keeps (fun reached : σ × Option Grant => kept reached.1)
    (fun reached => attemptKeeps reached.1) (stepEvents_keep kept steps runKeeps) now

theorem attemptThroughSteps_of_rejected {error : StreamError}
    (waits : ∀ state, (attempt state).1 = .error .timeout → kept state)
    (never : ∀ state, kept state → (attempt state).1 ≠ .error error)
    (attemptKeeps : ∀ state, kept state → kept (attempt state).2)
    (runKeeps : ∀ step state, kept state → kept (run step state).2)
    (failed : (attemptThroughSteps run attempt steps state).1 = .error error) :
    (attempt state).1 = .error error := by
  rw [attemptThroughSteps_eq] at failed
  exact attemptThrough_of_rejected (fun reached : σ × Option Grant => kept reached.1)
    (fun reached => waits reached.1) (fun reached => never reached.1)
    (fun reached => attemptKeeps reached.1) (stepEvents_keep kept steps runKeeps) failed

end

/-! ## Sessions that wait -/

namespace Session

/-- A session whose run goes on, with a stream of which something holds. -/
def Goes (session : Session) (holds : Stream → Prop) : Prop :=
  ∃ stream ending, session = .active stream (.untilStopped ending) ∧ holds stream

/-- An operation that waits for the device is rejected at once, if at all: it waits only for a
stream of which something holds, and is not rejected by such a stream. -/
theorem whenTransmitting_at_once {α : Type} {act : Stream → Except StreamError α × Stream}
    (holds : Stream → Prop) {error : StreamError}
    (waits : ∀ stream, (act stream).1 = .error .timeout → holds stream)
    (never : ∀ stream, holds stream → (act stream).1 ≠ .error error)
    (keeps : ∀ stream, holds stream → holds (act stream).2)
    (served : ∀ stream handover, holds stream → holds { stream with handover := handover })
    {session : Session} {operation : String} {steps : List DeviceStep}
    (failed : (attemptThroughSteps runStep (whenTransmitting operation act) steps session).1 =
      .error error) : (session.whenTransmitting operation act).1 = .error error := by
  refine attemptThroughSteps_of_rejected (Goes · holds) steps ?_ ?_ ?_ ?_ failed
  · intro reached timesOut
    rcases reached with _ | stream | ⟨stream, planned | ending⟩
    · cases timesOut
    · cases timesOut
    · exact ⟨stream, planned, rfl, waits stream timesOut⟩
    · cases timesOut
  · rintro _ ⟨stream, planned, rfl, now⟩
    exact never stream now
  · rintro _ ⟨stream, planned, rfl, now⟩
    exact ⟨(act stream).2, planned, rfl, keeps stream now⟩
  · rintro step _ ⟨stream, planned, rfl, now⟩
    exact ⟨_, planned, rfl, served stream (step.run stream.handover).2 now⟩

variable {session : Session} {error : StreamError} {steps : List DeviceStep}

theorem write_at_once {α : Type} [Sample α] {inputs : List (List α)} {count : Nat}
    (rejection : error.isRejection = true)
    (failed : (attemptThroughSteps runStep (fun reached => reached.write inputs count) steps
      session).1 = .error error) :
    session.write inputs count = (.error error, session) := by
  have once : (session.write inputs count).1 = .error error := by
    refine whenTransmitting_at_once (fun stream => stream.Accepts inputs) ?_ ?_ ?_ ?_ failed
    · intro stream timesOut
      by_contra unfit
      obtain ⟨other, rejected, same⟩ := Stream.write_of_not_accepts unfit count
      rw [same] at timesOut
      obtain rfl : other = .timeout := by simpa using timesOut
      cases rejected
    · intro stream fits failed
      rw [Stream.isRejection_write fits failed] at rejection
      cases rejection
    · intro stream fits
      rwa [Stream.Accepts, Stream.config_of_moves (stream.moves_write inputs count)]
    · exact fun stream handover fits => fits
  have kept := whenTransmitting_of_rejected
    (fun _ failed => Stream.write_of_rejected failed rejection) once
  exact Prod.ext once kept

theorem acquireBuffer_at_once (rejection : error.isRejection = true)
    (failed : (attemptThroughSteps runStep acquireBuffer steps session).1 = .error error) :
    session.acquireBuffer = (.error error, session) := by
  have never (stream : Stream) (failed : stream.acquireBuffer.1 = .error error) : False := by
    rw [Stream.isRejection_acquireBuffer failed] at rejection
    cases rejection
  have once : session.acquireBuffer.1 = .error error :=
    whenTransmitting_at_once (fun _ => True) (fun _ _ => trivial)
      (fun stream _ => never stream) (fun _ _ => trivial) (fun _ _ _ => trivial) failed
  have kept := whenTransmitting_of_rejected
    (fun stream failed => (never stream failed).elim) once
  exact Prod.ext once kept

/-! ## Every session -/

/-- How a session rejects requests, and how a stream is ended. -/
structure RejectsCleanly (session : Session) : Prop where
  /-- What is rejected leaves the session and the device as they were. -/
  kept : ∀ (request : SessionRequest) (error : StreamError),
    (request.answer session).error? = some error → error.isRejection = true →
      request.run session = session ∧ (request.answer session).device? = request.device?
  /-- A write that may wait is rejected before it does. -/
  writesAtOnce : ∀ {α : Type} [Sample α] (inputs : List (List α)) (count : Nat)
    (steps : List DeviceStep) (error : StreamError), error.isRejection = true →
      (attemptThroughSteps runStep (fun reached => reached.write inputs count) steps session).1 =
        .error error → session.write inputs count = (.error error, session)
  /-- So is a request for a slot. -/
  lendsAtOnce : ∀ (steps : List DeviceStep) (error : StreamError), error.isRejection = true →
    (attemptThroughSteps runStep acquireBuffer steps session).1 = .error error →
      session.acquireBuffer = (.error error, session)
  /-- Whoever fails to set up a stream still has the one from before. -/
  setUpKeeps : ∀ wanted limits error, (session.setUp wanted limits).1 = .error error →
    error.isRejection = true ∧ (session.setUp wanted limits).2 = session
  /-- No stream is set up while another one is active. -/
  setUpInactive : ∀ wanted limits, (session.setUp wanted limits).1 = .ok () → session.run? = none
  /-- Deactivating an active session empties the ring, and tells how the run ended. -/
  deactivates : ∀ stream run device, session = .active stream run →
    ∃ emptied, session.deactivate 0 device =
        (run.ending.report, .configured emptied, device.stop run) ∧
      emptied.Cleared ∧ emptied.config = stream.config
  /-- Closing gives up the stream, whatever it reports. -/
  closes : ∀ device, (session.close device).2.1 = .idle

/-- **Rejected requests change nothing, and a stream can always be ended**, whatever was asked
of a session before. -/
theorem rejections_change_nothing (history : List SessionRequest) :
    (idle.after history).RejectsCleanly where
  kept := fun _ _ failed rejection => SessionRequest.kept_of_rejected failed rejection
  writesAtOnce := fun _ _ _ _ rejection failed => write_at_once rejection failed
  lendsAtOnce := fun _ _ rejection failed => acquireBuffer_at_once rejection failed
  setUpKeeps := fun _ _ _ failed => setUp_of_error failed
  setUpInactive := by
    intro wanted limits granted
    cases reached : idle.after history with
    | idle | configured => rfl
    | active stream run =>
        rw [reached] at granted
        cases granted
  deactivates := by
    intro stream run device reached
    have sound : stream.Sound := by
      have everywhere := sound_idle.after history
      rw [reached] at everywhere
      exact everywhere stream rfl
    rw [reached]
    refine ⟨(endRun stream run device).2.1, rfl, ?_⟩
    rcases run with planned | ending
    · have noted : (stream.noteEnding planned).Sound :=
        sound.moves (stream.moves_noteEnding planned)
      refine ⟨Stream.cleared_restart noted, ?_⟩
      show (stream.noteEnding planned).config = stream.config
      exact Stream.config_of_moves (stream.moves_noteEnding planned)
    · exact ⟨Stream.cleared_restart sound, rfl⟩
  closes := fun device => close_idle _ device

end Session

end DacStream
