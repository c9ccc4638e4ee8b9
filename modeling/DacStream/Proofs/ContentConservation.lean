import DacStream.Proofs.SessionRuns
import DacStream.Proofs.SlotOrder
import DacStream.Proofs.TableConversion

/-!
# No byte is lost, changed or moved

What is written to a stream reaches the device as it was written.  For every
channel, what the device got, followed by what is in the filled slots and by what is
in the slot in work, is what was accepted (`Conserves`): the native bytes of the
accepted samples, with silence where a flush ended a slot early.

The equation is kept by every way in which bytes move.  The writer adds bytes to the
slot in work (`Conserves.refill`), a full slot goes behind the filled ones
(`Conserves.publish`), and the device gets the first of these
(`Conserves.deliver`).  Only the slot in work is ever changed, and it is none of the
filled ones.  A run of an active session without faults and resets consists of such
steps, whatever is written in whatever pieces.
-/

namespace DacStream

set_option autoImplicit false

/-! ## Contents -/

namespace Handover

/-- The payload of a slot on a channel. -/
def payload (handover : Handover) (index channel : Nat) : Bytes :=
  (handover.slots.payload? index channel).getD []

/-- What waits for the device on a channel, in the order in which it goes on air. -/
def queued (handover : Handover) (channel : Nat) : Bytes :=
  handover.ring.filledSlots.flatMap fun index => handover.payload index channel

/-- What is written of a slot in work on a channel. -/
def written (handover : Handover) (native : Nat) (work : Option PartialSlot) (channel : Nat) :
    Bytes :=
  match work with
  | none => []
  | some slot => (handover.payload slot.handle.index channel).take (slot.filled * native)

end Handover

/-- Bytes of the channels, of which `served` are with the device and the others on the
way. -/
structure Conserves (config : StreamConfig) (handover : Handover) (work : Option PartialSlot)
    (accepted served : Nat → Bytes) : Prop where
  invariant : handover.ring.Invariant
  capacity : handover.ring.capacity = config.bufferCount
  memory : handover.slots.Shaped config.bufferCount config.channelCount config.bufferLength
  calm : handover.ring.pending = none
  /-- The writer holds the slot in work and no other. -/
  writers : handover.ring.writerHandles = (work.map PartialSlot.handle).toList
  fits : ∀ slot, work = some slot → slot.filled ≤ config.elementsPerBuffer
  /-- The device gets whole slots. -/
  whole : ∀ channel < config.channelCount, config.bufferLength ∣ (served channel).length
  content : ∀ channel < config.channelCount,
    served channel ++ handover.queued channel ++
      handover.written config.format.nativeBytes work channel = accepted channel

namespace Conserves

variable {config : StreamConfig} {handover : Handover} {work : Option PartialSlot}
  {accepted served : Nat → Bytes}

/-! ## Places and lengths -/

/-- Every slot has a whole payload on every channel. -/
theorem payload_of_lt (conserves : Conserves config handover work accepted served)
    {index channel : Nat} (slotInside : index < handover.ring.capacity)
    (channelInside : channel < config.channelCount) :
    handover.slots.payload? index channel = some (handover.payload index channel) ∧
      (handover.payload index channel).length = config.bufferLength := by
  rw [conserves.capacity] at slotInside
  obtain ⟨payload, there, length⟩ := conserves.memory.exists_payload slotInside channelInside
  rw [Handover.payload, there]
  exact ⟨rfl, length⟩

/-- The filled slots hold whole payloads. -/
theorem dvd_length_queued (conserves : Conserves config handover work accepted served)
    {channel : Nat} (inside : channel < config.channelCount) :
    config.bufferLength ∣ (handover.queued channel).length := by
  have every : ∀ index ∈ handover.ring.filledSlots,
      (handover.payload index channel).length = config.bufferLength := fun index filled =>
    (conserves.payload_of_lt (conserves.invariant.lt_of_mem_span filled) inside).2
  rw [Handover.queued, List.length_flatMap, List.map_congr_left every, List.map_const',
    List.sum_replicate_nat]
  exact Nat.dvd_mul_left _ _

/-- The slot in work belongs to the writer, and it is the only one. -/
theorem writerSlots_eq {slot : PartialSlot}
    (conserves : Conserves config handover (some slot) accepted served) :
    slot.handle.epoch = handover.ring.epoch ∧
      handover.ring.writerSlots = [slot.handle.index] := by
  have writers : handover.ring.writerHandles = [slot.handle] := conserves.writers
  have listed : slot.handle ∈ handover.ring.writerHandles := by simp [writers]
  obtain ⟨index, -, same⟩ := List.mem_map.mp listed
  refine ⟨by rw [← same], ?_⟩
  have indices := congrArg (List.map Handle.index) writers
  simpa [SlotRing.writerHandles, Function.comp_def] using indices

/-- The slot in work is inside the ring, and none of the filled ones. -/
theorem work_apart {slot : PartialSlot}
    (conserves : Conserves config handover (some slot) accepted served) :
    slot.handle.index < handover.ring.capacity ∧
      slot.handle.index ∉ handover.ring.filledSlots := by
  have mine : slot.handle.index ∈ handover.ring.writerSlots := by
    simp [conserves.writerSlots_eq.2]
  refine ⟨conserves.invariant.lt_of_mem_span mine, fun filled => ?_⟩
  have apart := (List.nodup_append.mp (List.nodup_append.mp conserves.invariant.slots_nodup).1).2.2
  exact apart _ filled _ mine rfl

/-! ## Ways in which bytes move -/

/-- A step that moves neither slots nor bytes. -/
theorem of_same (conserves : Conserves config handover work accepted served) {later : Handover}
    (invariant : later.ring.Invariant) (capacity : later.ring.capacity = handover.ring.capacity)
    (calm : later.ring.pending = none) (sameSlots : later.slots = handover.slots)
    (sameFilled : later.ring.filledSlots = handover.ring.filledSlots)
    (sameWriter : later.ring.writerHandles = handover.ring.writerHandles) :
    Conserves config later work accepted served where
  invariant := invariant
  capacity := capacity.trans conserves.capacity
  memory := by
    rw [sameSlots]
    exact conserves.memory
  calm := calm
  writers := sameWriter.trans conserves.writers
  fits := conserves.fits
  whole := conserves.whole
  content := by
    intro channel inside
    have samePayload : later.payload = handover.payload := by
      unfold Handover.payload
      rw [sameSlots]
    have content := conserves.content channel inside
    unfold Handover.queued Handover.written at content ⊢
    rw [samePayload, sameFilled]
    exact content

/-- The writer gets a slot, and has written nothing of it yet. -/
theorem lend (conserves : Conserves config handover none accepted served)
    (free : 0 < handover.ring.free) :
    Conserves config { handover with ring := handover.ring.lend }
      (some ⟨handover.ring.tailHandle, 0⟩) accepted served where
  invariant := conserves.invariant.lend free
  capacity := conserves.capacity
  memory := conserves.memory
  calm := conserves.calm
  writers := by
    rw [SlotRing.writerHandles_lend conserves.invariant, conserves.writers]
    rfl
  fits := by
    rintro slot ⟨⟩
    exact Nat.zero_le _
  whole := conserves.whole
  content := by
    intro channel inside
    have content := conserves.content channel inside
    rw [Handover.written, Nat.zero_mul, List.take_zero]
    exact content

/-- Bytes are added to the slot in work, behind those that it has. -/
theorem refill {slot : PartialSlot}
    (conserves : Conserves config handover (some slot) accepted served)
    {change : Nat → Bytes → Bytes} {filled : Nat} {added : Nat → Bytes}
    (keeps : ∀ channel payload, (change channel payload).length = payload.length)
    (fits : filled ≤ config.elementsPerBuffer)
    (appends : ∀ channel < config.channelCount, ∀ payload : Bytes,
      payload.length = config.bufferLength →
        (change channel payload).take (filled * config.format.nativeBytes) =
          payload.take (slot.filled * config.format.nativeBytes) ++ added channel) :
    Conserves config
      { handover with slots := handover.slots.modify slot.handle.index change }
      (some ⟨slot.handle, filled⟩) (fun channel => accepted channel ++ added channel) served where
  invariant := conserves.invariant
  capacity := conserves.capacity
  memory := conserves.memory.modify _ keeps
  calm := conserves.calm
  writers := conserves.writers
  fits := by
    rintro slot ⟨⟩
    exact fits
  whole := conserves.whole
  content := by
    intro channel inside
    obtain ⟨workInside, notFilled⟩ := conserves.work_apart
    obtain ⟨there, length⟩ := conserves.payload_of_lt workInside inside
    let later : Handover :=
      { handover with slots := handover.slots.modify slot.handle.index change }
    have others : later.queued channel = handover.queued channel := by
      refine List.flatMap_congr fun index filled => ?_
      have different : slot.handle.index ≠ index := fun same => notFilled (same ▸ filled)
      rw [Handover.payload, Slots.payload?_modify, if_neg different, Handover.payload]
    have mine : later.payload slot.handle.index channel =
        change channel (handover.payload slot.handle.index channel) := by
      rw [Handover.payload, Slots.payload?_modify, if_pos rfl, there]
      rfl
    have content := conserves.content channel inside
    show served channel ++ later.queued channel ++
      (later.payload slot.handle.index channel).take (filled * config.format.nativeBytes) =
        accepted channel ++ added channel
    rw [others, mine, appends channel inside _ length, ← content, Handover.written,
      ← List.append_assoc]

/-- The slot in work is full and goes behind the filled ones. -/
theorem publish {slot : PartialSlot} (wholeSlots :
      config.elementsPerBuffer * config.format.nativeBytes = config.bufferLength)
    (conserves : Conserves config handover (some slot) accepted served)
    (full : slot.filled = config.elementsPerBuffer) (counters : Counters) :
    Conserves config { handover with ring := handover.ring.publish, counters := counters } none
      accepted served := by
  obtain ⟨current, only⟩ := conserves.writerSlots_eq
  have holds : 0 < handover.ring.writing := by
    rw [← handover.ring.length_writerSlots, only]
    exact Nat.one_pos
  have first := SlotRing.writerSlots_eq_oldest_cons conserves.invariant holds
  rw [only] at first
  obtain ⟨oldest, none⟩ := List.cons.inj first
  refine
    { invariant := conserves.invariant.publish holds
      capacity := conserves.capacity
      memory := conserves.memory
      calm := conserves.calm
      writers := ?_
      fits := by simp
      whole := conserves.whole
      content := ?_ }
  · show (handover.ring.publish.writerSlots.map _) = []
    rw [← none, List.map_nil]
  · intro channel inside
    obtain ⟨-, length⟩ := conserves.payload_of_lt conserves.work_apart.1 inside
    have content := conserves.content channel inside
    rw [Handover.written, full, wholeSlots, ← length, List.take_length] at content
    have longer : handover.ring.publish.filledSlots =
        handover.ring.filledSlots ++ [slot.handle.index] := by
      rw [SlotRing.filledSlots_publish conserves.invariant, ← oldest]
    show served channel ++ handover.ring.publish.filledSlots.flatMap
      (fun index => handover.payload index channel) ++ [] = accepted channel
    rw [longer, List.flatMap_append, List.append_nil, List.flatMap_singleton, ← List.append_assoc]
    exact content

/-- The device gets the slot at `head`. -/
theorem deliver (conserves : Conserves config handover work accepted served)
    (waiting : 0 < handover.ring.filled) {later : Handover}
    (sameRing : later.ring = handover.ring.deliver)
    (samePayloads : ∀ index channel, later.payload index channel = handover.payload index channel)
    (memory : later.slots.Shaped config.bufferCount config.channelCount config.bufferLength) :
    Conserves config later work accepted
      (fun channel => served channel ++ handover.payload handover.ring.head channel) := by
  have first := SlotRing.filledSlots_eq_head_cons conserves.invariant waiting
  refine
    { invariant := by rw [sameRing]; exact conserves.invariant.deliver waiting
      capacity := by rw [sameRing]; exact conserves.capacity
      memory := memory
      calm := by rw [sameRing]; exact conserves.calm
      writers := ?_
      fits := conserves.fits
      whole := ?_
      content := ?_ }
  · rw [sameRing, SlotRing.writerHandles_deliver waiting]
    exact conserves.writers
  · intro channel inside
    have length := (conserves.payload_of_lt conserves.invariant.headInside inside).2
    rw [List.length_append, length]
    exact Nat.dvd_add (conserves.whole channel inside) (Nat.dvd_refl _)
  · intro channel inside
    have content := conserves.content channel inside
    have shorter : handover.queued channel =
        handover.payload handover.ring.head channel ++ later.queued channel := by
      rw [Handover.queued, first, List.flatMap_cons, Handover.queued, sameRing]
      simp only [samePayloads]
    have sameWork : later.written config.format.nativeBytes work channel =
        handover.written config.format.nativeBytes work channel := by
      unfold Handover.written
      simp only [samePayloads]
    rw [shorter, ← List.append_assoc] at content
    rw [sameWork]
    exact content

end Conserves

end DacStream
