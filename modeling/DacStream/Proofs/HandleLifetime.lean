import DacStream.Proofs.HandleValidity
import DacStream.Proofs.SessionCustody

/-!
# How long a handle lives

A handle is known to be stale by its epoch.  On one stream the epochs only rise
(`Stream.epoch_le_of_moves`), and the end of an activation begins a new one
(`Session.Reaches.ended`), so that a handle from an activation that has ended is of an
earlier epoch than the ring for as long as the stream lasts.  Releasing it then does
nothing at all.

A stream that is set up anew counts its epochs from zero again.  It can therefore come
to the epoch of a handle of the stream before, and if its writer has the slot of that
index at that time, the handle passes for that of the new slot
(`Session.ended_handle_revived`).  That is the only way in which it comes back
(`Session.ended_handle_released`).
-/

namespace DacStream

set_option autoImplicit false

/-! ## Epochs only rise -/

/-- Whatever becomes of a stream, its epoch is not turned back. -/
theorem Stream.epoch_le_of_moves {stream later : Stream} (moves : stream.Moves later) :
    stream.handover.ring.epoch ≤ later.handover.ring.epoch := by
  induction moves with
  | refl => exact Nat.le_refl _
  | tail _ move inductionHypothesis =>
      refine inductionHypothesis.trans ?_
      cases move with
      | handOver request => exact Handover.epoch_le_run _ request
      | refill | work => exact Nat.le_refl _

/-! ## The end of an activation -/

/-- Whether a request ends the activation of a session. -/
def SessionRequest.EndsActivation (session : Session) : SessionRequest → Prop
  | .deactivate flags _ => flags = 0 ∧ ∃ stream run, session = .active stream run
  | .close _ => ∃ stream run, session = .active stream run
  | _ => False

namespace Session

/-- Whether one of the requests of a run sets up a new stream. -/
def SetsUpIn (session : Session) : List SessionRequest → Prop
  | [] => False
  | request :: requests => request.SetsUp session ∨ (request.run session).SetsUpIn requests

/-- The stream of the session, if it has one, has come to an epoch. -/
def Reaches (session : Session) (epoch : Nat) : Prop :=
  ∀ stream, session.stream? = some stream → epoch ≤ stream.handover.ring.epoch

variable {session : Session} {handle : Handle}

theorem setsUpIn_append (requests later : List SessionRequest) :
    session.SetsUpIn (requests ++ later) ↔
      session.SetsUpIn requests ∨ (session.after requests).SetsUpIn later := by
  induction requests generalizing session with
  | nil => simp [SetsUpIn, after]
  | cons request requests inductionHypothesis =>
      simp only [List.cons_append, SetsUpIn, inductionHypothesis, after_cons, or_assoc]

theorem after_append (requests later : List SessionRequest) :
    session.after (requests ++ later) = (session.after requests).after later :=
  List.foldl_append

/-- As long as no stream is set up, the epochs do not fall. -/
theorem Reaches.after {epoch : Nat} {requests : List SessionRequest}
    (reaches : session.Reaches epoch) (sameStream : ¬ session.SetsUpIn requests) :
    (session.after requests).Reaches epoch := by
  induction requests generalizing session with
  | nil => exact reaches
  | cons request requests inductionHypothesis =>
      rw [SetsUpIn, not_or] at sameStream
      obtain ⟨setsUp, -⟩ | follows := request.run_cases session
      · exact absurd setsUp sameStream.1
      · refine inductionHypothesis (fun stream has => ?_) sameStream.2
        obtain ⟨before, there, moves⟩ := follows stream has
        exact (reaches before there).trans (Stream.epoch_le_of_moves moves)

/-- The end of an activation begins an epoch, whatever the run leaves behind. -/
theorem Reaches.ended {epoch : Nat} {ending : SessionRequest} (reaches : session.Reaches epoch)
    (ends : ending.EndsActivation session) : (ending.run session).Reaches (epoch + 1) := by
  cases ending with
  | deactivate flags device =>
      obtain ⟨rfl, stream, run, rfl⟩ := ends
      have noted (ending : RunEnding) : (stream.noteEnding ending).handover.ring.epoch =
          stream.handover.ring.epoch := by
        cases ending <;> rfl
      have begun := Nat.succ_le_succ (reaches stream rfl)
      rcases run with ending | ending
      · rintro after ⟨⟩
        show epoch + 1 ≤ (stream.noteEnding ending).handover.ring.epoch + 1
        rwa [noted]
      · rintro after ⟨⟩
        exact begun
  | close device =>
      rw [SessionRequest.run, close_idle]
      rintro after ⟨⟩
  | _ => exact ends.elim

/-- The handle of a slot that is handed out is of the epoch of the ring. -/
theorem reaches_of_acquireBuffer {buffer : LentBuffer}
    (handed : session.acquireBuffer.1 = .ok buffer) :
    session.acquireBuffer.2.Reaches buffer.handle.epoch := by
  rcases session with _ | stream | ⟨stream, ending | ending⟩
  · exact nomatch handed
  · exact nomatch handed
  · rintro after ⟨⟩
    have granted : stream.acquireBuffer.1 = .ok buffer := handed
    show buffer.handle.epoch ≤ stream.acquireBuffer.2.handover.ring.epoch
    obtain ⟨error, -, same⟩ | ⟨_, error, -, -, same⟩ | ⟨_, grant, other, -, lent, named, same⟩ :=
      stream.acquireBuffer_cases
    · simp [same] at granted
    · simp [same] at granted
    · rw [same] at granted ⊢
      obtain rfl := Except.ok.inj granted
      rw [named]
      obtain ⟨fault, -, same⟩ | ⟨-, -, same⟩ | ⟨-, -, tick, same⟩ :=
        stream.flush.2.handover.acquire_cases
      all_goals rw [same] at lent ⊢
      · exact nomatch lent
      · exact nomatch lent
      · obtain rfl := Except.ok.inj lent
        exact Nat.le_refl _
  · exact nomatch handed

end Session

/-! ## Releases that do nothing -/

/-- Releasing what is not with the writer changes neither the ring nor a payload. -/
theorem Stream.padAndRelease_of_notMem {stream : Stream} (invariant : stream.handover.ring.Invariant)
    {handle : Handle} (elsewhere : handle ∉ stream.handover.ring.writerHandles) (elements : Nat) :
    (stream.padAndRelease handle elements).2 = stream := by
  have notWriters : stream.handover.ring.isWriterSlot handle = false := by
    rw [Bool.eq_false_iff, ne_eq, SlotRing.isWriterSlot_iff_mem invariant]
    exact elsewhere
  have untouched : stream.withSlots (stream.padded handle elements) = stream := by
    rw [padded, notWriters]
    rfl
  rw [padAndRelease_eq, untouched, release_eq]
  obtain ⟨-, same⟩ | ⟨-, -, same⟩ | ⟨current, oldest, -⟩ := stream.handover.release_cases handle
  · rw [same]
  · rw [same]
  · obtain ⟨holds, rfl⟩ := SlotRing.eq_oldestHandle current oldest
    rw [SlotRing.writerHandles_eq_oldest_cons invariant holds] at elsewhere
    exact absurd List.mem_cons_self elsewhere

/-- The release of a handle from another epoch is passed over. -/
theorem Stream.padAndRelease_of_stale {stream : Stream} {handle : Handle}
    (stale : handle.epoch ≠ stream.handover.ring.epoch) (elements : Nat) :
    (stream.padAndRelease handle elements).1 = .ok () := by
  rw [padAndRelease_eq, release_eq]
  obtain ⟨-, same⟩ | ⟨current, -⟩ | ⟨current, -⟩ :=
    (stream.withSlots (stream.padded handle elements)).handover.release_cases handle
  · rw [same]
  · exact absurd current stale
  · exact absurd current stale

namespace Session

/-- A session is left alone by the release of a handle that is not with the writer. -/
theorem releaseBuffer_of_notMem {session : Session} (sound : session.Sound) {handle : Handle}
    (elsewhere : handle ∉ session.ring.writerHandles) (elements : Nat) :
    (session.releaseBuffer handle elements).2 = session := by
  rcases session with _ | stream | ⟨stream, run⟩
  · rfl
  · rfl
  · exact congrArg (active · run)
      (Stream.padAndRelease_of_notMem (sound stream rfl).ring elsewhere elements)

/-- **A handle of an activation that has ended stays dead as long as its stream lasts**:
its release is passed over and leaves the session as it is, in this and in every later
activation.  After a new set-up the release leaves the session alone, too, unless the
writer of the new stream has a slot of the same index and the same epoch. -/
theorem ended_handle_released (history during later : List SessionRequest)
    (ending : SessionRequest) {buffer : LentBuffer}
    (handed : (idle.after history).acquireBuffer.1 = .ok buffer)
    (ends : ending.EndsActivation ((idle.after history).acquireBuffer.2.after during))
    (elements : Nat) :
    let last := (idle.after history).acquireBuffer.2.after (during ++ ending :: later)
    (¬ (idle.after history).acquireBuffer.2.SetsUpIn (during ++ ending :: later) →
      (last.releaseBuffer buffer.handle elements).2 = last ∧
        ∀ stream run, last = .active stream run →
          (last.releaseBuffer buffer.handle elements).1 = .ok ()) ∧
    (buffer.handle ∉ last.ring.writerHandles →
      (last.releaseBuffer buffer.handle elements).2 = last) := by
  intro last
  have sound : last.Sound := ((sound_idle.after history).run .acquireBuffer).after _
  refine ⟨fun sameStream => ?_, fun elsewhere => releaseBuffer_of_notMem sound elsewhere elements⟩
  rw [setsUpIn_append, SetsUpIn, not_or, not_or] at sameStream
  obtain ⟨noneBefore, -, noneAfter⟩ := sameStream
  have ended := ((reaches_of_acquireBuffer handed).after noneBefore).ended ends
  have passed : last.Reaches (buffer.handle.epoch + 1) := by
    have reaches := ended.after noneAfter
    rwa [← after_cons, ← after_append] at reaches
  have stale (stream : Stream) (has : last.stream? = some stream) :
      buffer.handle.epoch ≠ stream.handover.ring.epoch :=
    Nat.ne_of_lt (passed stream has)
  have elsewhere : buffer.handle ∉ last.ring.writerHandles := by
    intro listed
    rw [Session.ring] at listed
    cases has : last.stream? with
    | none => simp [has, SlotRing.writerHandles, SlotRing.writerSlots, SlotRing.span] at listed
    | some stream =>
        rw [has] at listed
        exact stale stream has (Custody.epoch_of_writerHandles listed)
  refine ⟨releaseBuffer_of_notMem sound elsewhere elements, fun stream run same => ?_⟩
  rw [same]
  exact Stream.padAndRelease_of_stale (stale stream (by rw [same]; rfl)) elements

/-- The device on which handles are handed out below, and a stream on it. -/
def soleDevice : Device := .scripted { limits := { channels := 1, alignment := 1 } }

def soleSetUp : SessionRequest :=
  .setUp { format := ⟨.u8, false⟩, options := { bufferLength? := some 2 } } soleDevice.limits

/-- A stream that is activated a second time, and whose writer has the same slot again. -/
theorem ended_handle_released_reactivated :
    let session := idle.after [soleSetUp, .activate 0 soleDevice]
    let last := session.acquireBuffer.2.after
      [.deactivate 0 soleDevice, .activate 0 soleDevice, .acquireBuffer]
    ∃ buffer, session.acquireBuffer.1 = .ok buffer ∧
      (SessionRequest.deactivate 0 soleDevice).EndsActivation session.acquireBuffer.2 ∧
      last.ring.writerHandles = [⟨buffer.handle.index, buffer.handle.epoch + 2⟩] ∧
      (last.releaseBuffer buffer.handle 0).2 = last := by
  intro session last
  refine ⟨_, rfl, ⟨rfl, _, _, rfl⟩, by decide, ?_⟩
  refine (ended_handle_released [soleSetUp, .activate 0 soleDevice] []
    [.activate 0 soleDevice, .acquireBuffer] (.deactivate 0 soleDevice) rfl
    ⟨rfl, _, _, rfl⟩ 0).1 ?_ |>.1
  simp [SetsUpIn, SessionRequest.SetsUp]

/-- A handle of an activation that has ended is alive again in the ring of a new stream:
its release mutes and publishes the slot that the writer of that stream has just got. -/
theorem ended_handle_revived :
    let session := idle.after [soleSetUp, .activate 0 soleDevice]
    let last := session.acquireBuffer.2.after
      [.deactivate 0 soleDevice, soleSetUp, .activate 0 soleDevice, .acquireBuffer,
        .fillBuffer 0 [[7, 7]]]
    ∃ buffer, session.acquireBuffer.1 = .ok buffer ∧
      (SessionRequest.deactivate 0 soleDevice).EndsActivation session.acquireBuffer.2 ∧
      last.ring.filledSlots = [] ∧ last.payloads 0 = .ok [[7, 7]] ∧
      (last.releaseBuffer buffer.handle 0).1 = .ok () ∧
      (last.releaseBuffer buffer.handle 0).2.ring.filledSlots = [buffer.handle.index] ∧
      (last.releaseBuffer buffer.handle 0).2.counters.released = 1 ∧
      (last.releaseBuffer buffer.handle 0).2.payloads 0 = .ok [[128, 128]] :=
  ⟨_, rfl, ⟨rfl, _, _, rfl⟩, by decide, by decide, by decide, by decide, by decide, by decide⟩

end Session

end DacStream
