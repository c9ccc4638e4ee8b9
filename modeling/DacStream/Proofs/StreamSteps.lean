import DacStream.Proofs.HandoverRuns
import DacStream.Proofs.SlotMemory
import DacStream.Session.Writing
import Mathlib.Logic.Relation

/-!
# What the operations of a stream do

Each operation of a stream is taken apart once, into the outcomes it can have
(`dropStale_cases`, `claim_cases`, `writeInto_cases`, `write_cases`, `flush_cases`,
`acquireBuffer_cases`).  What is proved about streams elsewhere starts from these.

Seen from farther away, an operation is a row of moves: a request to the
hand-over, a change of payloads that keeps their lengths, or another slot in work
(`Moves`).  Whatever every move keeps, every operation keeps.
-/

namespace DacStream

set_option autoImplicit false

namespace Stream

variable {α : Type} [Sample α]

/-! ## Outcomes -/

/-- A slot in work that an event or an epoch made stale is forgotten; any other is
of the current epoch, and no event is pending. -/
theorem dropStale_cases (stream : Stream) :
    (∃ slot, stream.inWork = some slot ∧
      (stream.handover.hasPendingEvent = true ∨
        slot.handle.epoch ≠ stream.handover.ring.epoch) ∧
      stream.dropStale = { stream with inWork := none }) ∨
    (stream.dropStale = stream ∧ ∀ slot, stream.inWork = some slot →
      stream.handover.hasPendingEvent = false ∧
        slot.handle.epoch = stream.handover.ring.epoch) := by
  unfold dropStale hasStaleSlot
  cases work : stream.inWork with
  | none => exact .inr ⟨rfl, by simp⟩
  | some slot =>
      cases stale : (stream.handover.hasPendingEvent ||
          !stream.handover.ring.isCurrent slot.handle) with
      | true =>
          refine .inl ⟨slot, rfl, ?_, by simp [stale]⟩
          rw [Bool.or_eq_true] at stale
          refine stale.imp id fun outdated => Ne.symm ?_
          simpa [SlotRing.isCurrent] using outdated
      | false =>
          refine .inr ⟨by simp [stale], ?_⟩
          rintro other same
          obtain rfl : slot = other := by simpa using same
          rw [Bool.or_eq_false_iff] at stale
          refine ⟨stale.1, Eq.symm ?_⟩
          simpa [SlotRing.isCurrent] using stale.2

theorem handover_dropStale (stream : Stream) : stream.dropStale.handover = stream.handover := by
  obtain ⟨-, -, -, same⟩ | ⟨same, -⟩ := stream.dropStale_cases <;> rw [same]

/-- The slot in work is claimed, or else a new one is acquired. -/
theorem claim_cases (stream : Stream) :
    (∃ slot, stream.inWork = some slot ∧
      stream.claim = (.ok slot, { stream with inWork := none })) ∨
    (stream.inWork = none ∧ ∃ error, stream.handover.acquire.1 = .error error ∧
      stream.claim = (.error error, { stream with handover := stream.handover.acquire.2 })) ∨
    (stream.inWork = none ∧ ∃ grant, stream.handover.acquire.1 = .ok grant ∧
      stream.claim = (.ok ⟨grant.handle, 0⟩,
        { stream with handover := stream.handover.acquire.2 })) := by
  unfold claim
  cases work : stream.inWork with
  | some slot => exact .inl ⟨slot, rfl, rfl⟩
  | none =>
      rcases asked : stream.handover.acquire with ⟨_ | grant, handover⟩
      · exact .inr (.inl ⟨rfl, _, rfl, by simp⟩)
      · exact .inr (.inr ⟨rfl, _, rfl, by simp⟩)

/-- Nothing is in work while a slot is claimed. -/
theorem inWork_claim (stream : Stream) : stream.claim.2.inWork = none := by
  obtain ⟨slot, -, same⟩ | ⟨nothing, error, -, same⟩ | ⟨nothing, grant, -, same⟩ :=
    stream.claim_cases
  · rw [same]
  · rwa [same]
  · rwa [same]

/-- The stream with other slots in its memory. -/
def withSlots (stream : Stream) (slots : Slots) : Stream :=
  { stream with handover := { stream.handover with slots := slots } }

@[simp]
theorem config_withSlots (stream : Stream) (slots : Slots) :
    (stream.withSlots slots).config = stream.config := rfl

@[simp]
theorem inWork_withSlots (stream : Stream) (slots : Slots) :
    (stream.withSlots slots).inWork = stream.inWork := rfl

@[simp]
theorem ring_withSlots (stream : Stream) (slots : Slots) :
    (stream.withSlots slots).handover.ring = stream.handover.ring := rfl

@[simp]
theorem withSlots_withSlots (stream : Stream) (slots other : Slots) :
    (stream.withSlots slots).withSlots other = stream.withSlots other := rfl

theorem release_eq (stream : Stream) (handle : Handle) :
    stream.release handle =
      ((stream.handover.release handle).1,
        { stream with handover := (stream.handover.release handle).2 }) := rfl

/-- Samples go into the slot that was claimed, which is published if that fills it
and is in work otherwise. -/
theorem writeInto_cases (stream : Stream) (slot : PartialSlot) (inputs : List (List α))
    (wanted : Nat) :
    ∃ count, count = min wanted (stream.config.elementsPerBuffer - slot.filled) ∧
      ∃ written, written =
          stream.withSlots (stream.placeAll slot.handle.index slot.filled count inputs) ∧
        ((slot.filled + count = stream.config.elementsPerBuffer ∧
          stream.writeInto slot inputs wanted =
            ((written.release slot.handle).1.map fun _ => ⟨count, count < wanted⟩,
              (written.release slot.handle).2)) ∨
        (slot.filled + count ≠ stream.config.elementsPerBuffer ∧
          stream.writeInto slot inputs wanted =
            (.ok ⟨count, count < wanted⟩,
              { written with inWork := some ⟨slot.handle, slot.filled + count⟩ }))) := by
  refine ⟨_, rfl, _, rfl, ?_⟩
  by_cases full : slot.filled + min wanted (stream.config.elementsPerBuffer - slot.filled) =
      stream.config.elementsPerBuffer
  · refine .inl ⟨full, ?_⟩
    simp only [writeInto, if_pos full]
    rfl
  · refine .inr ⟨full, ?_⟩
    simp only [writeInto, if_neg full]
    rfl

/-- Whether a write has the form the stream asks for. -/
def Accepts (stream : Stream) (inputs : List (List α)) : Prop :=
  Sample.component α = stream.config.format.component ∧
    inputs.length = stream.config.channelCount

/-- A write is refused for its form, or has nothing to write, or finds no slot, or
goes on with the slot it claimed. -/
theorem write_cases (stream : Stream) (inputs : List (List α)) (count : Nat) :
    (¬ stream.Accepts inputs ∧
      ∃ error, stream.write inputs count = (.error error, stream) ∧
        ∀ index, error ≠ .invalidHandle index) ∨
    (stream.Accepts inputs ∧ stream.requested inputs count = 0 ∧
      stream.write inputs count = (.ok ⟨0, false⟩, stream)) ∨
    (stream.Accepts inputs ∧ 0 < stream.requested inputs count ∧
      ∃ error, stream.dropStale.claim.1 = .error error ∧
        stream.write inputs count = (.error error, stream.dropStale.claim.2)) ∨
    (stream.Accepts inputs ∧ 0 < stream.requested inputs count ∧
      ∃ slot, stream.dropStale.claim.1 = .ok slot ∧
        stream.write inputs count =
          stream.dropStale.claim.2.writeInto slot inputs (stream.requested inputs count)) := by
  unfold write Accepts
  by_cases component : Sample.component α = stream.config.format.component
  · by_cases channels : inputs.length = stream.config.channelCount
    · by_cases nothing : stream.requested inputs count = 0
      · exact .inr (.inl ⟨⟨component, channels⟩, nothing, by simp [component, channels, nothing]⟩)
      · have some : 0 < stream.requested inputs count := Nat.pos_of_ne_zero nothing
        rcases claimed : stream.dropStale.claim with ⟨error | slot, after⟩
        · exact .inr (.inr (.inl ⟨⟨component, channels⟩, some, error, rfl,
            by simp [component, channels, nothing]⟩))
        · exact .inr (.inr (.inr ⟨⟨component, channels⟩, some, slot, rfl,
            by simp [component, channels, nothing]⟩))
    · exact .inl ⟨fun both => channels both.2, _, by simp [component, channels]; rfl, by simp⟩
  · exact .inl ⟨fun both => component both.1, _, by simp [component]; rfl, by simp⟩

/-- The memory with a slot of the writer silent behind its first elements. -/
def padded (stream : Stream) (handle : Handle) (elements : Nat) : Slots :=
  if stream.handover.ring.isWriterSlot handle then
    stream.handover.slots.modify handle.index fun _ payload =>
      payload.muteFrom
        (min elements stream.config.elementsPerBuffer * stream.config.format.nativeBytes)
  else stream.handover.slots

theorem padAndRelease_eq (stream : Stream) (handle : Handle) (elements : Nat) :
    stream.padAndRelease handle elements =
      (stream.withSlots (stream.padded handle elements)).release handle := by
  unfold padAndRelease padded withSlots
  by_cases writer : stream.handover.ring.isWriterSlot handle = true <;> simp [writer]

theorem inWork_padAndRelease (stream : Stream) (handle : Handle) (elements : Nat) :
    (stream.padAndRelease handle elements).2.inWork = stream.inWork := by
  rw [padAndRelease_eq, release_eq]
  rfl

/-- There is nothing to flush, or else the slot in work is padded and published. -/
theorem flush_cases (stream : Stream) :
    (stream.dropStale.inWork = none ∧ stream.flush = (.ok false, stream.dropStale)) ∨
    (∃ slot, stream.inWork = some slot ∧ stream.dropStale = stream ∧
      stream.flush =
        (({ stream with inWork := none }.padAndRelease slot.handle slot.filled).1.map
            fun _ => true,
          ({ stream with inWork := none }.padAndRelease slot.handle slot.filled).2)) := by
  obtain ⟨slot, -, -, same⟩ | ⟨same, -⟩ := stream.dropStale_cases
  · exact .inl ⟨by rw [same], by simp [flush, same]⟩
  · cases work : stream.inWork with
    | none => exact .inl ⟨by rw [same, work], by simp [flush, same, work]⟩
    | some slot => exact .inr ⟨slot, rfl, same, by simp only [flush, same, work]⟩

/-- After a flush nothing is in work. -/
theorem inWork_flush (stream : Stream) : stream.flush.2.inWork = none := by
  obtain ⟨nothing, same⟩ | ⟨slot, -, -, same⟩ := stream.flush_cases
  · rw [same]
    exact nothing
  · rw [same, inWork_padAndRelease]

/-- The flush is refused, or no slot is had, or one is handed out. -/
theorem acquireBuffer_cases (stream : Stream) :
    (∃ error, stream.flush.1 = .error error ∧
      stream.acquireBuffer = (.error error, stream.flush.2)) ∨
    (∃ flushed error, stream.flush.1 = .ok flushed ∧
      stream.flush.2.handover.acquire.1 = .error error ∧
      stream.acquireBuffer =
        (.error error,
          { stream.flush.2 with handover := stream.flush.2.handover.acquire.2 })) ∨
    (∃ flushed grant buffer, stream.flush.1 = .ok flushed ∧
      stream.flush.2.handover.acquire.1 = .ok grant ∧ buffer.handle = grant.handle ∧
      stream.acquireBuffer =
        (.ok buffer, { stream.flush.2 with handover := stream.flush.2.handover.acquire.2 })) := by
  unfold acquireBuffer
  rcases stream.flush with ⟨error | flushed, after⟩
  · exact .inl ⟨error, rfl, rfl⟩
  · rcases asked : after.handover.acquire with ⟨error | grant, handover⟩
    · exact .inr (.inl ⟨flushed, error, rfl, rfl, by simp only [asked]⟩)
    · let payloads := (handover.slots.cells[grant.handle.index]?.map Slot.payloads).getD []
      exact .inr (.inr ⟨flushed, grant,
        ⟨grant.handle, grant.tick, after.config.elementsPerBuffer, payloads⟩, rfl, rfl, rfl,
        by simp only [asked]; rfl⟩)

/-- After a slot is handed out, or not, nothing is in work. -/
theorem inWork_acquireBuffer (stream : Stream) : stream.acquireBuffer.2.inWork = none := by
  obtain ⟨_, -, same⟩ | ⟨_, _, -, -, same⟩ | ⟨_, _, _, -, -, -, same⟩ := stream.acquireBuffer_cases
  all_goals
    rw [same]
    exact stream.inWork_flush

/-! ## Moves -/

/-- The smallest steps by which a stream changes. -/
inductive Move (stream : Stream) : Stream → Prop where
  /-- Something is asked of the hand-over. -/
  | handOver (request : HandoverRequest) :
      Move stream { stream with handover := request.run stream.handover }
  /-- Payloads change, but not their lengths. -/
  | refill (slots : Slots)
      (keeps : ∀ capacity channels channelLength,
        stream.handover.slots.Shaped capacity channels channelLength →
          slots.Shaped capacity channels channelLength) :
      Move stream (stream.withSlots slots)
  /-- Another slot is in work, or none. -/
  | work (inWork : Option PartialSlot) : Move stream { stream with inWork := inWork }

/-- Rows of moves. -/
abbrev Moves : Stream → Stream → Prop := Relation.ReflTransGen Move

/-- No operation changes the configuration. -/
theorem config_of_moves {stream later : Stream} (moves : stream.Moves later) :
    later.config = stream.config := by
  induction moves with
  | refl => rfl
  | tail _ move inductionHypothesis =>
      rw [← inductionHypothesis]
      cases move <;> rfl

theorem moves_handOver (stream : Stream) (request : HandoverRequest) :
    stream.Moves { stream with handover := request.run stream.handover } :=
  .single (.handOver request)

theorem moves_work (stream : Stream) (inWork : Option PartialSlot) :
    stream.Moves { stream with inWork := inWork } :=
  .single (.work inWork)

theorem moves_dropStale (stream : Stream) : stream.Moves stream.dropStale := by
  obtain ⟨slot, -, -, same⟩ | ⟨same, -⟩ := stream.dropStale_cases
  · rw [same]
    exact stream.moves_work none
  · rw [same]

theorem moves_claim (stream : Stream) : stream.Moves stream.claim.2 := by
  obtain ⟨slot, -, same⟩ | ⟨-, error, -, same⟩ | ⟨-, grant, -, same⟩ := stream.claim_cases
  · rw [same]
    exact stream.moves_work none
  · rw [same]
    exact stream.moves_handOver .acquire
  · rw [same]
    exact stream.moves_handOver .acquire

theorem moves_release (stream : Stream) (handle : Handle) :
    stream.Moves (stream.release handle).2 :=
  stream.moves_handOver (.release handle)

/-- Converting samples into a payload keeps its length. -/
theorem length_place (stream : Stream) (offset count : Nat) (input : List α) (payload : Bytes) :
    (stream.place offset count input payload).length = payload.length := by
  have filled (target : Bytes) (samples : List α) :
      (stream.config.converter.fill samples target).2.length = target.length := by
    have fits := (stream.config.converter.used_le samples.length target.length).2
    rw [Converter.fill_eq, List.length_append, List.length_drop,
      Converter.length_bytes _ _ _ (Converter.length_take_used _ _ _)]
    exact Nat.add_sub_cancel' fits
  simp only [place, Bytes.overwrite, List.length_append, List.length_take, List.length_drop,
    filled, Bytes.window]
  omega

theorem moves_placeAll (stream : Stream) (index offset count : Nat) (inputs : List (List α)) :
    stream.Moves (stream.withSlots (stream.placeAll index offset count inputs)) := by
  refine .single (.refill _ fun _ _ _ shaped => shaped.modify index fun channel payload => ?_)
  split
  · exact stream.length_place offset count _ payload
  · rfl

theorem moves_writeInto (stream : Stream) (slot : PartialSlot) (inputs : List (List α))
    (wanted : Nat) : stream.Moves (stream.writeInto slot inputs wanted).2 := by
  obtain ⟨count, -, written, rfl, outcome⟩ := stream.writeInto_cases slot inputs wanted
  have placed := stream.moves_placeAll slot.handle.index slot.filled count inputs
  rcases outcome with ⟨-, same⟩ | ⟨-, same⟩
  · rw [same]
    exact placed.trans (moves_release _ _)
  · rw [same]
    exact placed.trans (moves_work _ _)

theorem moves_write (stream : Stream) (inputs : List (List α)) (count : Nat) :
    stream.Moves (stream.write inputs count).2 := by
  have claimed : stream.Moves stream.dropStale.claim.2 :=
    stream.moves_dropStale.trans (moves_claim _)
  obtain ⟨-, error, same, -⟩ | ⟨-, -, same⟩ | ⟨-, -, error, -, same⟩ | ⟨-, -, slot, -, same⟩ :=
    stream.write_cases inputs count
  · rw [same]
  · rw [same]
  · rw [same]
    exact claimed
  · rw [same]
    exact claimed.trans (moves_writeInto _ _ _ _)

theorem moves_padded (stream : Stream) (handle : Handle) (elements : Nat) :
    stream.Moves (stream.withSlots (stream.padded handle elements)) := by
  refine .single (.refill _ fun _ _ _ shaped => ?_)
  unfold padded
  split
  · exact shaped.modify _ fun _ payload => payload.length_muteFrom _
  · exact shaped

theorem moves_padAndRelease (stream : Stream) (handle : Handle) (elements : Nat) :
    stream.Moves (stream.padAndRelease handle elements).2 := by
  rw [padAndRelease_eq]
  exact (stream.moves_padded handle elements).trans (moves_release _ _)

theorem moves_flush (stream : Stream) : stream.Moves stream.flush.2 := by
  obtain ⟨-, same⟩ | ⟨slot, -, -, same⟩ := stream.flush_cases
  · rw [same]
    exact stream.moves_dropStale
  · rw [same]
    exact (stream.moves_work none).trans (moves_padAndRelease _ _ _)

theorem moves_acquireBuffer (stream : Stream) : stream.Moves stream.acquireBuffer.2 := by
  obtain ⟨error, -, same⟩ | ⟨_, error, -, -, same⟩ | ⟨_, grant, buffer, -, -, -, same⟩ :=
    stream.acquireBuffer_cases
  · rw [same]
    exact stream.moves_flush
  · rw [same]
    exact stream.moves_flush.trans (moves_handOver _ .acquire)
  · rw [same]
    exact stream.moves_flush.trans (moves_handOver _ .acquire)

theorem moves_fillBuffer (stream : Stream) (index : Nat) (content : List Bytes) :
    stream.Moves (stream.fillBuffer index content) :=
  .single (.refill _ fun _ _ _ shaped => shaped.fill index content)

theorem moves_restart (stream : Stream) : stream.Moves stream.restart :=
  (stream.moves_handOver .restart).trans (moves_work _ none)

end Stream

end DacStream
