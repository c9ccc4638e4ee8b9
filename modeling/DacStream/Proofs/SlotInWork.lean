import DacStream.Proofs.WriterInformed

/-!
# The slot in work

A slot in work is partly written: something is written to it, and there is room for
more (`PartialSlot.PartlyFills`).  A slot that fills up is published at once, and one
that nothing was written to is never left in work.  So a write always finds room in the
slot that it claims, be it the slot in work or a new one (`Stream.WorkFits.room`).
-/

namespace DacStream

set_option autoImplicit false

/-- The slot is in the memory of the stream, and a part of its elements is written. -/
structure PartialSlot.PartlyFills (slot : PartialSlot) (config : StreamConfig) : Prop where
  inside : slot.handle.index < config.bufferCount
  begun : 0 < slot.filled
  room : slot.filled < config.elementsPerBuffer

namespace Stream

/-- The slot in work, if there is one, is partly written. -/
def WorkFits (stream : Stream) : Prop :=
  ∀ slot, stream.inWork = some slot → slot.PartlyFills stream.config

variable {stream later : Stream}

theorem Sound.fit (sound : stream.Sound) : ∃ limits, stream.config.Fit limits := by
  obtain ⟨_, limits, accepted⟩ := sound.accepted
  exact ⟨limits, StreamConfig.fit_of_accepted accepted⟩

theorem Sound.elementsPerBuffer_pos (sound : stream.Sound) :
    0 < stream.config.elementsPerBuffer := by
  obtain ⟨_, fit⟩ := sound.fit
  exact fit.positive

/-- The slot that the writer gets next is in the memory of the stream. -/
theorem Sound.index_lt_of_acquired (sound : stream.Sound) {grant : Grant}
    (granted : stream.handover.acquire.1 = .ok grant) :
    grant.handle.index < stream.config.bufferCount := by
  obtain ⟨_, -, same⟩ | ⟨-, -, same⟩ | ⟨-, -, tick, same⟩ := stream.handover.acquire_cases <;>
    rw [same] at granted
  · exact nomatch granted
  · exact nomatch granted
  · obtain rfl := Except.ok.inj granted
    have inside := sound.ring.settle.tailInside
    rwa [SlotRing.capacity_settle, sound.capacity] at inside

namespace WorkFits

theorem of_moves (fits : stream.WorkFits) (moves : stream.Moves later)
    (kept : later.inWork = stream.inWork) : later.WorkFits := by
  intro slot inWork
  rw [config_of_moves moves]
  exact fits slot (kept ▸ inWork)

theorem dropStale (fits : stream.WorkFits) : stream.dropStale.WorkFits := by
  obtain ⟨slot, -, -, same⟩ | ⟨same, -⟩ := stream.dropStale_cases <;> rw [same]
  · exact fun _ nothing => nomatch nothing
  · exact fits

/-- **There is room in every slot that is claimed**, and it is in the memory. -/
theorem room (fits : stream.WorkFits) (sound : stream.Sound) {slot : PartialSlot}
    (claimed : stream.claim.1 = .ok slot) :
    slot.handle.index < stream.config.bufferCount ∧
      slot.filled < stream.config.elementsPerBuffer := by
  obtain ⟨found, work, same⟩ | ⟨-, error, -, same⟩ | ⟨-, grant, granted, same⟩ :=
    stream.claim_cases <;> rw [same] at claimed
  · obtain rfl := Except.ok.inj claimed
    exact ⟨(fits found work).inside, (fits found work).room⟩
  · exact nomatch claimed
  · obtain rfl := Except.ok.inj claimed
    exact ⟨sound.index_lt_of_acquired granted, sound.elementsPerBuffer_pos⟩

/-- A write goes on with a sound stream of the same configuration, in a slot that has room. -/
theorem claimed (fits : stream.WorkFits) (sound : stream.Sound) {slot : PartialSlot}
    (claimed : stream.dropStale.claim.1 = .ok slot) :
    stream.dropStale.claim.2.Sound ∧ stream.dropStale.claim.2.config = stream.config ∧
      slot.handle.index < stream.config.bufferCount ∧
      slot.filled < stream.config.elementsPerBuffer := by
  have moves := stream.moves_dropStale.trans (moves_claim _)
  have room := fits.dropStale.room (sound.moves stream.moves_dropStale) claimed
  rw [config_of_moves stream.moves_dropStale] at room
  exact ⟨sound.moves moves, config_of_moves moves, room⟩

variable {α : Type} [Sample α]

/-- What is written is at least one element, and a slot that it does not fill stays in
work partly written. -/
theorem write (fits : stream.WorkFits) (sound : stream.Sound) (inputs : List (List α))
    (count : Nat) : (stream.write inputs count).2.WorkFits := by
  obtain ⟨-, error, same, -⟩ | ⟨-, -, same⟩ | ⟨-, -, error, -, same⟩ |
    ⟨-, some, slot, claimed, same⟩ := stream.write_cases inputs count
  · rw [same]
    exact fits
  · rw [same]
    exact fits
  · intro slot work
    rw [same, inWork_claim] at work
    exact nomatch work
  · intro found work
    have config := config_of_moves (stream.moves_write inputs count)
    obtain ⟨-, kept, inside, room⟩ := fits.claimed sound claimed
    obtain ⟨written, counted, _, rfl, ⟨-, outcome⟩ | ⟨notFull, outcome⟩⟩ :=
      stream.dropStale.claim.2.writeInto_cases slot inputs (stream.requested inputs count)
    · rw [same, outcome, release_eq, inWork_withSlots, inWork_claim] at work
      exact nomatch work
    · rw [same, outcome] at work
      obtain rfl := Option.some.inj work
      rw [kept] at counted notFull
      rw [config]
      refine ⟨inside, ?_, ?_⟩ <;> simp only <;> omega

end WorkFits

end Stream

/-! ## Along a run -/

namespace Session

/-- If a session has a stream, the slot in work is partly written. -/
def WorkFits (session : Session) : Prop :=
  ∀ stream, session.stream? = some stream → stream.WorkFits

variable {session : Session}

theorem WorkFits.run (fits : session.WorkFits) (sound : session.Sound)
    (request : SessionRequest) : (request.run session).WorkFits := by
  intro later reached
  obtain nothing | ⟨stream, has, ⟨moves, kept⟩ | ⟨_, _, inputs, count, rfl⟩⟩ :=
    SessionRequest.work_cases reached
  · intro slot inWork
    rw [nothing] at inWork
    exact nomatch inWork
  · exact (fits stream has).of_moves moves kept
  · exact (fits stream has).write (sound stream has) inputs count

/-- Along a run, the slot in work is partly written. -/
theorem WorkFits.after (fits : session.WorkFits) (sound : session.Sound)
    (requests : List SessionRequest) : (session.after requests).WorkFits := by
  induction requests generalizing session with
  | nil => exact fits
  | cons request requests inductionHypothesis =>
      exact inductionHypothesis (fits.run sound request) (sound.run request)

theorem workFits_idle : idle.WorkFits := by
  rintro stream ⟨⟩

end Session

end DacStream
