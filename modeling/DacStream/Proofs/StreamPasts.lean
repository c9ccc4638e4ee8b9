import DacStream.Proofs.StreamSteps

/-!
# The past of a stream

What a stream went through before leaves two traces: the epochs of its ring and its
counters.  Neither of them decides what an operation does.  An epoch is only ever compared
with that of a handle, and nothing looks at the counters.

So a stream with a past behind it (`Stream.withPast`) does what it would do without: every
operation gives the same answer, but for the epochs of handles, and leaves the same stream
with the same past behind it.  A caller's handle that is older than the past is as stale
without it as any handle from before the first epoch.
-/

namespace DacStream

set_option autoImplicit false

/-- What a stream went through before. -/
structure Past where
  /-- The epochs of its ring. -/
  epochs : Nat
  /-- What was counted. -/
  counted : Counters

/-! ## Handles -/

/-- The handle, with the epochs of a past before its own. -/
def Handle.withPast (handle : Handle) (past : Past) : Handle :=
  { handle with epoch := handle.epoch + past.epochs }

/-- The handle without the epochs of a past.  If it is older than that, it is put before the
first epoch. -/
def Handle.withoutPast (handle : Handle) (past : Past) : Handle :=
  { handle with epoch := handle.epoch - past.epochs }

/-- A grant of a stream with a past. -/
def Grant.withPast (grant : Grant) (past : Past) : Grant :=
  { grant with handle := grant.handle.withPast past }

/-! ## Counters -/

namespace Counters

/-- What two rows of events count together. -/
def plus (counters more : Counters) : Counters where
  released := counters.released + more.released
  delivered := counters.delivered + more.delivered
  underflows := counters.underflows + more.underflows
  overflows := counters.overflows + more.overflows
  discarded := counters.discarded + more.discarded
  resets := counters.resets + more.resets

theorem add_right_comm (first second third : UInt64) :
    first + second + third = first + third + second := by
  ac_rfl

theorem zero_plus (counters : Counters) : plus {} counters = counters := by
  simp [plus]

theorem countRelease_plus (counters more : Counters) :
    (counters.plus more).countRelease = counters.countRelease.plus more := by
  simp [plus, countRelease, add_right_comm]

theorem countDelivery_plus (counters more : Counters) :
    (counters.plus more).countDelivery = counters.countDelivery.plus more := by
  simp [plus, countDelivery, add_right_comm]

theorem countFault_plus (counters more : Counters) (fault : Fault) :
    (counters.plus more).countFault fault = (counters.countFault fault).plus more := by
  cases fault <;> simp [plus, countFault, add_right_comm]

theorem countSettling_plus (counters more : Counters) (ring : SlotRing) :
    (counters.plus more).countSettling ring = (counters.countSettling ring).plus more := by
  unfold countSettling
  split <;> simp [plus, add_right_comm]

end Counters

/-! ## Rings -/

namespace SlotRing

/-- The ring with the epochs of a past before its own. -/
def withPast (ring : SlotRing) (past : Past) : SlotRing :=
  { ring with epoch := ring.epoch + past.epochs }

variable (ring : SlotRing) (past : Past)

theorem settle_withPast : (ring.withPast past).settle = ring.settle.withPast past := by
  unfold settle withPast
  split <;> simp_all [drain, Nat.add_right_comm]

theorem restart_withPast : (ring.withPast past).restart = ring.restart.withPast past := by
  simp [restart, withPast, Nat.add_right_comm]

/-- A handle is as current with a past on both sides as it is without. -/
theorem isCurrent_withPast (handle : Handle) :
    (ring.withPast past).isCurrent (handle.withPast past) = ring.isCurrent handle := by
  simp [isCurrent, withPast, Handle.withPast]

/-- Once the first epoch has begun, a handle older than the past is stale without it, too. -/
theorem isCurrent_withoutPast {ring : SlotRing} (begun : 1 ≤ ring.epoch) (past : Past)
    (handle : Handle) :
    (ring.withPast past).isCurrent handle = ring.isCurrent (handle.withoutPast past) := by
  have same : ring.epoch + past.epochs = handle.epoch ↔
      ring.epoch = handle.epoch - past.epochs := by
    omega
  rw [Bool.eq_iff_iff]
  simpa [isCurrent, withPast, Handle.withoutPast] using same

end SlotRing

/-! ## Hand-overs -/

namespace Handover

/-- The hand-over with a past behind it. -/
def withPast (handover : Handover) (past : Past) : Handover :=
  { handover with
    ring := handover.ring.withPast past
    counters := handover.counters.plus past.counted }

variable (handover : Handover) (past : Past)

theorem settle_withPast : (handover.withPast past).settle = handover.settle.withPast past := by
  have counted : (handover.counters.plus past.counted).countSettling
        (handover.ring.withPast past) =
      (handover.counters.plus past.counted).countSettling handover.ring := rfl
  simp only [settle, withPast, SlotRing.settle_withPast]
  rw [counted, Counters.countSettling_plus]

theorem acquire_withPast :
    (handover.withPast past).acquire =
      (handover.acquire.1.map (·.withPast past), handover.acquire.2.withPast past) := by
  have notice : (handover.settle.withPast past).ring.writerNotice =
    handover.settle.ring.writerNotice := rfl
  have free : (handover.settle.withPast past).ring.free = handover.settle.ring.free := rfl
  simp only [acquire, settle_withPast, notice, free]
  cases handover.settle.ring.writerNotice with
  | some fault => rfl
  | none =>
      by_cases empty : handover.settle.ring.free = 0
      · simp only [if_pos empty]
        rfl
      · simp only [if_neg empty]
        rfl

/-- The release of a handle does the same as that of one which is current if and only if
the first is. -/
theorem release_withPast (handle twin : Handle) (named : handle.index = twin.index)
    (current : (handover.ring.withPast past).isCurrent handle = handover.ring.isCurrent twin) :
    (handover.withPast past).release handle =
      ((handover.release twin).1, (handover.release twin).2.withPast past) := by
  have currentThen : (handover.withPast past).ring.isCurrent handle =
    handover.ring.isCurrent twin := current
  have oldest : (handover.withPast past).ring.isOldest handle = handover.ring.isOldest twin := by
    rw [SlotRing.isOldest, named]
    rfl
  unfold release
  rw [currentThen, oldest, named]
  cases handover.ring.isCurrent twin with
  | false => rfl
  | true =>
      cases handover.ring.isOldest twin with
      | false => rfl
      | true =>
          simp [withPast, Counters.countRelease_plus, SlotRing.withPast, SlotRing.publish]

theorem raise_withPast (fault : Fault) :
    (handover.withPast past).raise fault = (handover.raise fault).withPast past := by
  simp only [raise, withPast, Counters.countFault_plus]
  rfl

theorem take_withPast :
    (handover.withPast past).take =
      (handover.take.1.map (·.withPast past), handover.take.2.withPast past) := by
  have ready : (handover.withPast past).settle.giveBack =
      handover.settle.giveBack.withPast past := by
    rw [settle_withPast]
    rfl
  simp only [take, ready]
  generalize handover.settle.giveBack = found
  have filled : (found.withPast past).ring.filled = found.ring.filled := rfl
  have primed : (found.withPast past).ring.primed = found.ring.primed := rfl
  by_cases empty : found.ring.filled = 0
  · simp only [filled, if_pos empty]
    have dry : { found.withPast past with ring := (found.withPast past).ring.runDry } =
      ({ found with ring := found.ring.runDry } : Handover).withPast past := rfl
    rw [primed, dry, raise_withPast]
    cases found.ring.primed <;> rfl
  · simp only [filled, if_neg empty]
    have counted : (found.withPast past).counters.countDelivery =
      found.counters.countDelivery.plus past.counted := Counters.countDelivery_plus _ _
    rw [counted]
    rfl

theorem restart_withPast :
    (handover.withPast past).restart = handover.restart.withPast past := by
  simp only [restart, withPast, SlotRing.restart_withPast]

end Handover

/-- One step of the device gives it the same slot. -/
theorem DeviceStep.run_withPast (step : DeviceStep) (handover : Handover) (past : Past) :
    step.run (handover.withPast past) =
      ((step.run handover).1.map (·.withPast past), (step.run handover).2.withPast past) := by
  cases step with
  | take => exact handover.take_withPast past
  | skip => rfl
  | raise fault => exact congrArg (Prod.mk none) (handover.raise_withPast past fault)

/-! ## Streams -/

/-- A slot in work of a stream with a past. -/
def PartialSlot.withPast (slot : PartialSlot) (past : Past) : PartialSlot :=
  { slot with handle := slot.handle.withPast past }

/-- A slot that is handed out by a stream with a past. -/
def LentBuffer.withPast (buffer : LentBuffer) (past : Past) : LentBuffer :=
  { buffer with handle := buffer.handle.withPast past }

namespace Stream

/-- The stream with a past behind it. -/
def withPast (stream : Stream) (past : Past) : Stream :=
  { stream with
    handover := stream.handover.withPast past
    inWork := stream.inWork.map (·.withPast past) }

variable {α : Type} [Sample α] (stream : Stream) (past : Past)

/-! ### The slot in work -/

theorem dropStale_withPast : (stream.withPast past).dropStale = stream.dropStale.withPast past := by
  have stale : (stream.withPast past).hasStaleSlot = stream.hasStaleSlot := by
    unfold hasStaleSlot withPast
    cases stream.inWork with
    | none => rfl
    | some slot =>
        have current := stream.handover.ring.isCurrent_withPast past slot.handle
        simp only [Option.map_some, PartialSlot.withPast, Handover.withPast, current]
        rfl
  unfold dropStale
  rw [stale]
  cases stream.hasStaleSlot <;> rfl

theorem claim_withPast :
    (stream.withPast past).claim =
      (stream.claim.1.map (·.withPast past), stream.claim.2.withPast past) := by
  unfold claim
  cases work : stream.inWork with
  | some slot => simp [withPast, work, Except.map]
  | none =>
      have asked := stream.handover.acquire_withPast past
      simp only [withPast, work, Option.map_none, asked]
      rcases stream.handover.acquire with ⟨error | grant, handover⟩ <;> rfl

theorem release_withPast (handle twin : Handle) (named : handle.index = twin.index)
    (current : (stream.handover.ring.withPast past).isCurrent handle =
      stream.handover.ring.isCurrent twin) :
    (stream.withPast past).release handle =
      ((stream.release twin).1, (stream.release twin).2.withPast past) := by
  have asked := stream.handover.release_withPast past handle twin named current
  simp only [release, withPast, asked]

/-! ### Writing -/

theorem writeInto_withPast (slot : PartialSlot) (inputs : List (List α)) (wanted : Nat) :
    (stream.withPast past).writeInto (slot.withPast past) inputs wanted =
      ((stream.writeInto slot inputs wanted).1,
        (stream.writeInto slot inputs wanted).2.withPast past) := by
  obtain ⟨count, counted, written, rfl, outcome⟩ := stream.writeInto_cases slot inputs wanted
  obtain ⟨_, rfl, _, rfl, pastOutcome⟩ :=
    (stream.withPast past).writeInto_cases (slot.withPast past) inputs wanted
  have sameCount : min wanted ((stream.withPast past).config.elementsPerBuffer -
    (slot.withPast past).filled) = count := counted.symm
  have sameSlots : (stream.withPast past).placeAll (slot.withPast past).handle.index
      (slot.withPast past).filled count inputs =
    stream.placeAll slot.handle.index slot.filled count inputs := rfl
  rw [sameCount, sameSlots] at pastOutcome
  generalize stream.placeAll slot.handle.index slot.filled count inputs = slots at *
  have published := (stream.withSlots slots).release_withPast past
    (slot.handle.withPast past) slot.handle rfl
    (stream.handover.ring.isCurrent_withPast past slot.handle)
  rcases outcome with ⟨full, same⟩ | ⟨room, same⟩ <;>
    rcases pastOutcome with ⟨fullToo, pastSame⟩ | ⟨roomToo, pastSame⟩
  · rw [same, pastSame]
    exact congrArg (fun result =>
      (result.1.map fun _ => WriteOutcome.mk count (count < wanted), result.2)) published
  · exact absurd full roomToo
  · exact absurd fullToo room
  · rw [same, pastSame]
    rfl

theorem write_withPast (inputs : List (List α)) (count : Nat) :
    (stream.withPast past).write inputs count =
      ((stream.write inputs count).1, (stream.write inputs count).2.withPast past) := by
  have config : (stream.withPast past).config = stream.config := rfl
  have requested : (stream.withPast past).requested inputs count =
    stream.requested inputs count := rfl
  simp only [write, config, requested, dropStale_withPast, claim_withPast]
  by_cases component : Sample.component α = stream.config.format.component
  · by_cases channels : inputs.length = stream.config.channelCount
    · by_cases nothing : stream.requested inputs count = 0
      · simp [component, channels, nothing]
      · rcases stream.dropStale.claim with ⟨error | slot, claimed⟩
        · simp [component, channels, nothing, Except.map]
        · simp [component, channels, nothing, Except.map, writeInto_withPast]
    · simp [component, channels]
  · simp [component]

/-! ### Publishing slots -/

theorem padAndRelease_withPast (handle twin : Handle) (named : handle.index = twin.index)
    (current : (stream.handover.ring.withPast past).isCurrent handle =
      stream.handover.ring.isCurrent twin) (elements : Nat) :
    (stream.withPast past).padAndRelease handle elements =
      ((stream.padAndRelease twin elements).1,
        (stream.padAndRelease twin elements).2.withPast past) := by
  have writer : (stream.withPast past).handover.ring.isWriterSlot handle =
      stream.handover.ring.isWriterSlot twin := by
    have currentThen : (stream.withPast past).handover.ring.isCurrent handle =
      stream.handover.ring.isCurrent twin := current
    rw [SlotRing.isWriterSlot, currentThen, named]
    rfl
  have padded : (stream.withPast past).padded handle elements = stream.padded twin elements := by
    rw [Stream.padded, writer, named]
    rfl
  rw [padAndRelease_eq, padAndRelease_eq, padded]
  exact (stream.withSlots (stream.padded twin elements)).release_withPast past handle twin
    named current

theorem flush_withPast :
    (stream.withPast past).flush = (stream.flush.1, stream.flush.2.withPast past) := by
  unfold flush
  rw [dropStale_withPast]
  generalize stream.dropStale = fresh
  cases work : fresh.inWork with
  | none => simp [withPast, work]
  | some slot =>
      have published := ({ fresh with inWork := none } : Stream).padAndRelease_withPast past
        (slot.handle.withPast past) slot.handle rfl
        (fresh.handover.ring.isCurrent_withPast past slot.handle) slot.filled
      have pastWork : (fresh.withPast past).inWork = some (slot.withPast past) := by
        simp [withPast, work]
      simp only [pastWork, work]
      exact congrArg (fun result => (result.1.map fun _ => true, result.2)) published

/-! ### Filling in place -/

theorem acquireBuffer_withPast :
    (stream.withPast past).acquireBuffer =
      (stream.acquireBuffer.1.map (·.withPast past), stream.acquireBuffer.2.withPast past) := by
  unfold acquireBuffer
  rw [flush_withPast]
  rcases stream.flush with ⟨error | flushed, after⟩
  · rfl
  · have asked : (after.withPast past).handover.acquire =
        (after.handover.acquire.1.map (·.withPast past),
          after.handover.acquire.2.withPast past) := after.handover.acquire_withPast past
    simp only [asked]
    rcases after.handover.acquire with ⟨error | grant, handover⟩ <;> rfl

/-! ### The life of a stream -/

theorem noteEnding_withPast (ending : RunEnding) :
    (stream.withPast past).noteEnding ending = (stream.noteEnding ending).withPast past := by
  cases ending with
  | failed error =>
      have raised := stream.handover.raise_withPast past .underflow
      simp only [noteEnding, withPast, raised]
  | returned | crashed => rfl

theorem restart_withPast : (stream.withPast past).restart = stream.restart.withPast past := by
  have restarted := stream.handover.restart_withPast past
  simp only [restart, withPast, restarted, Option.map_none]

theorem serve_withPast (deviceChannels : Nat) (request : TransferRequest) :
    (stream.withPast past).serve deviceChannels request =
      ((stream.serve deviceChannels request).1,
        (stream.serve deviceChannels request).2.withPast past) := by
  have length : (stream.withPast past).handover.slots.channelLength =
    stream.handover.slots.channelLength := rfl
  cases served : request.isServed stream.handover.slots.channelLength with
  | true =>
      have taken : (stream.withPast past).handover.take =
          (stream.handover.take.1.map (·.withPast past), stream.handover.take.2.withPast past) :=
        stream.handover.take_withPast past
      have pastServed := served
      rw [← length] at pastServed
      simp only [serve, Feed.transfer_of_served _ _ _ served,
        Feed.transfer_of_served _ _ _ pastServed, taken]
      cases stream.handover.take.1 <;> rfl
  | false =>
      have skipped : (stream.withPast past).handover.skip.raise .underflow =
          (stream.handover.skip.raise .underflow).withPast past :=
        stream.handover.skip.raise_withPast past .underflow
      have pastRefused := served
      rw [← length] at pastRefused
      simp only [serve, Feed.transfer_of_refused _ _ _ served,
        Feed.transfer_of_refused _ _ _ pastRefused, skipped]
      rfl

end Stream

end DacStream
