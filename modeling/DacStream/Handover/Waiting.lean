import DacStream.Handover.Feed

/-!
# Waiting

An operation that waits for a slot tries again each time the other side has done
something.  It waits as long as the attempts time out; the first attempt that
does not is the answer.  What the other side does afterwards does not concern it
any more.

A transfer is a row of steps, so an operation can wait through a transfer, and
it may get its slot after the first of them.
-/

namespace DacStream

set_option autoImplicit false

variable {σ α : Type}

/-- Tries `attempt`, and tries it again after each of `events` as long as it
times out.  The events take place in any case. -/
def attemptThrough (attempt : σ → Except StreamError α × σ) :
    List (σ → σ) → σ → Except StreamError α × σ
  | [], state => attempt state
  | event :: events, state =>
      match attempt state with
      | (.error .timeout, waiting) => attemptThrough attempt events (event waiting)
      | (answer, done) => (answer, (event :: events).foldl (fun reached next => next reached) done)

/-- Waits through the steps of a transfer, each done by `run`.  Beside the answer
there is the slot that the device got. -/
def attemptThroughSteps (run : DeviceStep → σ → Option Grant × σ)
    (attempt : σ → Except StreamError α × σ) (steps : List DeviceStep) (state : σ) :
    Except StreamError α × Option Grant × σ :=
  let attempted (reached : σ × Option Grant) : Except StreamError α × (σ × Option Grant) :=
    let (answer, after) := attempt reached.1
    (answer, after, reached.2)
  let event (step : DeviceStep) (reached : σ × Option Grant) : σ × Option Grant :=
    let (grant?, after) := run step reached.1
    (after, grant?.or reached.2)
  let (answer, after, grant?) := attemptThrough attempted (steps.map event) (state, none)
  (answer, grant?, after)

/-- Answers a transfer while an operation on the hand-over waits. -/
def Feed.transferWaiting (feed : Feed) (request : TransferRequest)
    (attempt : Handover → Except StreamError α × Handover) (handover : Handover) :
    Except StreamError α × Option (BufferSet Origin) × Handover :=
  let (answer, grant?, after) :=
    attemptThroughSteps DeviceStep.run attempt (request.steps handover.slots.channelLength) handover
  (answer, feed.answer? after.slots grant?, after)

/-! ## Elementary facts -/

section

variable (attempt : σ → Except StreamError α × σ) {event : σ → σ} {events : List (σ → σ)}
  {state waiting : σ}

theorem attemptThrough_nil (state : σ) : attemptThrough attempt [] state = attempt state := rfl

theorem attemptThrough_of_timeout (waits : attempt state = (.error .timeout, waiting)) :
    attemptThrough attempt (event :: events) state =
      attemptThrough attempt events (event waiting) := by
  simp [attemptThrough, waits]

/-- The first attempt that does not time out is the answer. -/
theorem attemptThrough_of_answer (answers : (attempt state).1 ≠ .error .timeout) :
    (attemptThrough attempt (event :: events) state).1 = (attempt state).1 := by
  unfold attemptThrough
  split
  · rename_i waiting waits
    exact absurd (congrArg Prod.fst waits) answers
  · rename_i answer done _ same
    exact (congrArg Prod.fst same).symm

variable {attempt}

/-- An attempt that has waited through some events goes on after the next one. -/
theorem attemptThrough_append_of_timeout
    (waits : (attemptThrough attempt events state).1 = .error .timeout) (event : σ → σ)
    (later : List (σ → σ)) :
    attemptThrough attempt (events ++ event :: later) state =
      attemptThrough attempt later (event (attemptThrough attempt events state).2) := by
  induction events generalizing state with
  | nil =>
      rw [attemptThrough_nil] at waits ⊢
      exact attemptThrough_of_timeout attempt (Prod.ext waits rfl)
  | cons first events inductionHypothesis =>
      by_cases timesOut : (attempt state).1 = .error .timeout
      · have again : attempt state = (.error .timeout, (attempt state).2) := Prod.ext timesOut rfl
        rw [attemptThrough_of_timeout attempt again] at waits ⊢
        rw [List.cons_append, attemptThrough_of_timeout attempt again]
        exact inductionHypothesis waits
      · rw [attemptThrough_of_answer attempt timesOut] at waits
        exact absurd waits timesOut

/-- An attempt that is answered does not wait for what comes later. -/
theorem attemptThrough_of_ne_timeout (answers : (attempt state).1 ≠ .error .timeout)
    (later : List (σ → σ)) :
    (attemptThrough attempt later state).1 = (attempt state).1 := by
  cases later with
  | nil => rw [attemptThrough_nil]
  | cons => exact attemptThrough_of_answer attempt answers

end

end DacStream
