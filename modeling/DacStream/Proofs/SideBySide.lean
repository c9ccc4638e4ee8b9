import DacStream.Proofs.PayloadAgreement
import DacStream.Proofs.TransferBuffers

/-!
# Streams side by side

A stream and one with other payloads go through the same operations.  They give the
same answers, as far as these are not payloads themselves, and stay the same but for
the payloads.  Where it matters, the payloads agree as before: a write claims a slot in
which they agree in all that is written already, and goes on from there; a flush and a
release make silent what lies behind the part in which they agree.
-/

namespace DacStream

set_option autoImplicit false

namespace Stream

/-- From an epoch on, another memory agrees with that of a stream where it matters. -/
def Alike (bound : Nat) (fills : List CallerFill) (stream : Stream) (other : Slots) : Prop :=
  stream.handover.Alike stream.config bound fills stream.inWork other

variable {α : Type} [Sample α] {stream : Stream} {other : Slots} {bound : Nat}
  {fills : List CallerFill}

/-! ## Claiming a slot -/

theorem dropStale_withSlots (stream : Stream) (other : Slots) :
    (stream.withSlots other).dropStale = stream.dropStale.withSlots other := by
  have same : (stream.withSlots other).hasStaleSlot = stream.hasStaleSlot := rfl
  unfold dropStale
  rw [same]
  by_cases stale : stream.hasStaleSlot = true
  · rw [if_pos stale, if_pos stale]
    rfl
  · rw [if_neg stale, if_neg stale]

theorem claim_withSlots (stream : Stream) (other : Slots) :
    (stream.withSlots other).claim = (stream.claim.1, stream.claim.2.withSlots other) := by
  have sameAcquire : (stream.withSlots other).handover.acquire =
      (stream.handover.withSlots other).acquire := rfl
  obtain ⟨sameHandle, sameAfter⟩ := stream.handover.acquire_withSlots other
  unfold claim
  rw [inWork_withSlots, sameAcquire]
  generalize (stream.handover.withSlots other).acquire = left at sameHandle sameAfter
  generalize stream.handover.acquire = right at sameHandle sameAfter
  cases stream.inWork with
  | some slot => rfl
  | none =>
      rcases left with ⟨error | grant, after⟩ <;> rcases right with ⟨_ | _, before⟩ <;>
        obtain rfl : after = before.withSlots other := sameAfter
      · obtain rfl := Except.error.inj sameHandle
        rfl
      · exact nomatch sameHandle
      · exact nomatch sameHandle
      · have named : grant.handle = _ := Except.ok.inj sameHandle
        simp only [named]
        rfl

theorem config_dropStale (stream : Stream) : stream.dropStale.config = stream.config :=
  config_of_moves stream.moves_dropStale

theorem Alike.dropStale (alike : stream.Alike bound fills other) :
    stream.dropStale.Alike bound fills other := by
  obtain ⟨slot, -, -, same⟩ | ⟨same, -⟩ := stream.dropStale_cases
  · rw [same]
    exact Handover.Alike.forget alike
  · rwa [same]

/-- A slot that is claimed is of a late epoch, so that the memories agree in what is
written of it. -/
theorem Alike.claim (alike : stream.Alike bound fills other) {slot : PartialSlot}
    (claimed : stream.dropStale.claim.1 = .ok slot) :
    stream.dropStale.claim.2.handover.Alike stream.config bound fills (some slot) other ∧
      bound ≤ slot.handle.epoch := by
  have fresh := alike.dropStale
  obtain ⟨found, work, same⟩ | ⟨-, error, -, same⟩ | ⟨nothing, grant, granted, same⟩ :=
    stream.dropStale.claim_cases
  · rw [same] at claimed ⊢
    obtain rfl := Except.ok.inj claimed
    obtain ⟨-, -, -, dropped⟩ | ⟨kept, current⟩ := stream.dropStale_cases
    · rw [dropped] at work
      exact nomatch work
    · rw [kept] at work ⊢
      obtain ⟨calm, sameEpoch⟩ := current found work
      have settled : stream.handover.ring.pending = none :=
        Handover.hasPendingEvent_eq_false_iff.mp calm
      have ahead := alike.ahead
      rw [Handover.settledEpoch, stream.handover.ring.settle_of_not_pending settled] at ahead
      rw [Stream.Alike, work] at alike
      exact ⟨alike, sameEpoch ▸ ahead⟩
  · simp [same] at claimed
  · rw [same] at claimed ⊢
    obtain rfl := Except.ok.inj claimed
    rw [Stream.Alike, config_dropStale] at fresh
    have late : bound ≤ grant.handle.epoch := by
      rw [Handover.epoch_of_granted granted]
      exact fresh.ahead
    refine ⟨fresh.acquire.withWork (Nat.zero_le _) fun channel => ?_, late⟩
    rw [Nat.zero_mul]
    exact Slots.agreeBelow_zero _ _ _ _

theorem Alike.claim_error (alike : stream.Alike bound fills other) {error : StreamError}
    (failed : stream.dropStale.claim.1 = .error error) :
    stream.dropStale.claim.2.Alike bound fills other := by
  obtain ⟨slot, -, same⟩ | ⟨-, _, -, same⟩ | ⟨-, grant, -, same⟩ := stream.dropStale.claim_cases
  · simp [same] at failed
  · rw [same]
    exact Handover.Alike.acquire alike.dropStale
  · simp [same] at failed

/-! ## Writing into it -/

/-- Converting elements into a payload puts their bytes over it. -/
theorem overlays_place (stream : Stream)
    (accepted : ∃ request limits, StreamConfig.create request limits = .ok stream.config)
    {offset count : Nat} {input : List α} (room : offset + count ≤ stream.config.elementsPerBuffer)
    (enough : count * stream.config.format.width ≤ input.length) :
    Bytes.Overlays (stream.place offset count input) stream.config.bufferLength
      (offset * stream.config.format.nativeBytes) (stream.converted count input) := by
  obtain ⟨request, limits, accepted⟩ := accepted
  have whole := (StreamConfig.whole_elements accepted).1
  constructor
  · rw [stream.length_converted enough, ← Nat.add_mul, ← whole]
    exact Nat.mul_le_mul_right _ room
  · intro payload length
    exact stream.place_eq (length.trans whole.symm) room enough

theorem release_withSlots (stream : Stream) (other : Slots) (handle : Handle) :
    (stream.withSlots other).release handle =
      ((stream.release handle).1, (stream.release handle).2.withSlots other) := by
  have asked : (stream.withSlots other).handover.release handle =
      ((stream.handover.release handle).1, (stream.handover.release handle).2.withSlots other) :=
    stream.handover.release_withSlots other handle
  rw [release_eq, release_eq, asked]
  rfl

theorem writeInto_withSlots (stream : Stream) (other : Slots) (slot : PartialSlot)
    (inputs : List (List α)) (wanted : Nat) :
    (stream.withSlots other).writeInto slot inputs wanted =
      ((stream.writeInto slot inputs wanted).1,
        (stream.writeInto slot inputs wanted).2.withSlots
          ((stream.withSlots other).placeAll slot.handle.index slot.filled
            (min wanted (stream.config.elementsPerBuffer - slot.filled)) inputs)) := by
  obtain ⟨_, rfl, _, rfl, outcome⟩ := stream.writeInto_cases slot inputs wanted
  obtain ⟨_, rfl, _, rfl, otherOutcome⟩ :=
    (stream.withSlots other).writeInto_cases slot inputs wanted
  rw [config_withSlots] at otherOutcome
  generalize min wanted (stream.config.elementsPerBuffer - slot.filled) = count at *
  have published :=
    (stream.withSlots (stream.placeAll slot.handle.index slot.filled count inputs)).release_withSlots
      ((stream.withSlots other).placeAll slot.handle.index slot.filled count inputs) slot.handle
  rw [withSlots_withSlots] at published
  rcases outcome with ⟨full, same⟩ | ⟨room, same⟩ <;>
    rcases otherOutcome with ⟨fullToo, sameOther⟩ | ⟨roomToo, sameOther⟩
  · rw [same, sameOther, withSlots_withSlots, published]
  · exact absurd full roomToo
  · exact absurd fullToo room
  · rw [same, sameOther]
    rfl

/-- What a write does to the payload of each channel. -/
def placing (stream : Stream) (offset count : Nat) (inputs : List (List α)) (channel : Nat)
    (payload : Bytes) : Bytes :=
  match inputs[channel]? with
  | some input => stream.place offset count input payload
  | none => payload

theorem length_placing (stream : Stream) (offset count : Nat) (inputs : List (List α))
    (channel : Nat) (payload : Bytes) :
    (stream.placing offset count inputs channel payload).length = payload.length := by
  unfold placing
  split
  · exact stream.length_place offset count _ payload
  · rfl

theorem overlays_placing (stream : Stream)
    (accepted : ∃ request limits, StreamConfig.create request limits = .ok stream.config)
    {offset count channel : Nat} {inputs : List (List α)} (inside : channel < inputs.length)
    (room : offset + count ≤ stream.config.elementsPerBuffer)
    (enough : ∀ input ∈ inputs, count * stream.config.format.width ≤ input.length) :
    ∃ part : Bytes, part.length = count * stream.config.format.nativeBytes ∧
      Bytes.Overlays (stream.placing offset count inputs channel) stream.config.bufferLength
        (offset * stream.config.format.nativeBytes) part := by
  have sufficient := enough _ (List.getElem_mem inside)
  have same : stream.placing offset count inputs channel =
      stream.place offset count inputs[channel] := by
    funext payload
    simp only [placing, List.getElem?_eq_getElem inside]
  rw [same]
  exact ⟨_, stream.length_converted sufficient, stream.overlays_place accepted room sufficient⟩

/-- After a slot is written to, the memories agree in all that is written of it. -/
theorem alike_writeInto {slot : PartialSlot}
    (alike : stream.handover.Alike stream.config bound fills (some slot) other)
    (late : bound ≤ slot.handle.epoch) (nothing : stream.inWork = none) {inputs : List (List α)}
    {wanted : Nat} (allChannels : inputs.length = stream.config.channelCount)
    (enough : ∀ input ∈ inputs, wanted * stream.config.format.width ≤ input.length) :
    (stream.writeInto slot inputs wanted).2.Alike bound fills
      ((stream.withSlots other).placeAll slot.handle.index slot.filled
        (min wanted (stream.config.elementsPerBuffer - slot.filled)) inputs) := by
  obtain ⟨fits, agree⟩ := alike.partly slot rfl late
  obtain ⟨count, counted, written, rfl, outcome⟩ := stream.writeInto_cases slot inputs wanted
  rw [← counted]
  have room : slot.filled + count ≤ stream.config.elementsPerBuffer := by omega
  have sufficient (input : List α) (listed : input ∈ inputs) :
      count * stream.config.format.width ≤ input.length :=
    (Nat.mul_le_mul_right _ (by omega)).trans (enough input listed)
  have overlays {channel : Nat} (inside : channel < stream.config.channelCount) :=
    stream.overlays_placing alike.accepted (allChannels.symm ▸ inside) room sufficient
  have placed := alike.modify slot.handle.index
    (fun channel inside => (overlays inside).elim fun part both => ⟨_, part, both.2⟩)
    (stream.length_placing slot.filled count inputs)
  have agreeAfter (channel : Nat) : Slots.AgreeBelow
      (stream.handover.slots.modify slot.handle.index (stream.placing slot.filled count inputs))
      (other.modify slot.handle.index (stream.placing slot.filled count inputs))
      slot.handle.index channel ((slot.filled + count) * stream.config.format.nativeBytes) := by
    by_cases inside : channel < stream.config.channelCount
    · obtain ⟨part, length, overlay⟩ := overlays inside
      rw [Nat.add_mul, ← length]
      exact (agree channel).modify_self alike.memory alike.otherMemory overlay
    · exact Slots.agreeBelow_of_beyond placed.memory (Nat.le_of_not_lt inside) _ _ _
  rcases outcome with ⟨full, same⟩ | ⟨-, same⟩
  · obtain ⟨_, _, accepted⟩ := alike.accepted
    rw [full, (StreamConfig.whole_elements accepted).1] at agreeAfter
    rw [same, Stream.Alike, release_eq]
    simp only [withSlots, nothing]
    exact placed.forget.release fun _ _ _ => agreeAfter
  · rw [same]
    exact placed.withWork room agreeAfter

theorem write_of_claim_error {stream after : Stream} {inputs : List (List α)} {count : Nat}
    (accepts : stream.Accepts inputs) (some : 0 < stream.requested inputs count)
    {error : StreamError} (failed : stream.dropStale.claim = (.error error, after)) :
    stream.write inputs count = (.error error, after) := by
  simp [write, accepts.1, accepts.2, Nat.ne_of_gt some, failed]

theorem write_of_claim_ok {stream after : Stream} {inputs : List (List α)} {count : Nat}
    (accepts : stream.Accepts inputs) (some : 0 < stream.requested inputs count)
    {slot : PartialSlot} (claimed : stream.dropStale.claim = (.ok slot, after)) :
    stream.write inputs count =
      after.writeInto slot inputs (stream.requested inputs count) := by
  simp [write, accepts.1, accepts.2, Nat.ne_of_gt some, claimed]

/-- A write that is refused for its form, or has nothing to write, leaves the stream
alone, and its answer does not depend on the payloads. -/
theorem write_withSlots_of_idle (stream : Stream) (other : Slots) {inputs : List (List α)}
    {count : Nat} (idle : ¬ (stream.Accepts inputs ∧ 0 < stream.requested inputs count)) :
    (stream.withSlots other).write inputs count =
        ((stream.write inputs count).1, stream.withSlots other) ∧
      (stream.write inputs count).2 = stream := by
  have sameRequest : (stream.withSlots other).requested inputs count =
    stream.requested inputs count := rfl
  by_cases component : Sample.component α = stream.config.format.component
  · by_cases channels : inputs.length = stream.config.channelCount
    · have nothing : stream.requested inputs count = 0 := by
        by_contra some
        exact idle ⟨⟨component, channels⟩, Nat.pos_of_ne_zero some⟩
      simp [write, sameRequest, component, channels, nothing]
    · simp [write, component, channels]
  · simp [write, component]

theorem Alike.write (alike : stream.Alike bound fills other) (inputs : List (List α))
    (count : Nat) :
    ∃ later, (stream.withSlots other).write inputs count =
        ((stream.write inputs count).1, (stream.write inputs count).2.withSlots later) ∧
      (stream.write inputs count).2.Alike bound fills later := by
  by_cases busy : stream.Accepts inputs ∧ 0 < stream.requested inputs count
  · obtain ⟨accepts, some⟩ := busy
    have twinAccepts : (stream.withSlots other).Accepts inputs := accepts
    have twinSome : 0 < (stream.withSlots other).requested inputs count := some
    have twinClaim : (stream.withSlots other).dropStale.claim =
        (stream.dropStale.claim.1, stream.dropStale.claim.2.withSlots other) := by
      rw [dropStale_withSlots, claim_withSlots]
    have sameConfig : stream.dropStale.claim.2.config = stream.config :=
      config_of_moves (stream.moves_dropStale.trans (moves_claim _))
    cases answer : stream.dropStale.claim.1 with
    | error error =>
        have failed : stream.dropStale.claim = (.error error, stream.dropStale.claim.2) :=
          Prod.ext answer rfl
        rw [answer] at twinClaim
        rw [write_of_claim_error accepts some failed,
          write_of_claim_error twinAccepts twinSome twinClaim]
        exact ⟨other, rfl, alike.claim_error answer⟩
    | ok slot =>
        have claimed : stream.dropStale.claim = (.ok slot, stream.dropStale.claim.2) :=
          Prod.ext answer rfl
        rw [answer] at twinClaim
        rw [write_of_claim_ok accepts some claimed,
          write_of_claim_ok twinAccepts twinSome twinClaim, writeInto_withSlots]
        refine ⟨_, rfl, ?_⟩
        obtain ⟨held, late⟩ := alike.claim answer
        rw [← sameConfig] at held
        refine alike_writeInto held late (inWork_claim _) (accepts.2.trans ?_) ?_
        · rw [sameConfig]
        · intro input listed
          rw [sameConfig]
          exact stream.requested_mul_width_le count listed
  · obtain ⟨same, kept⟩ := stream.write_withSlots_of_idle other busy
    rw [same, kept]
    exact ⟨other, rfl, alike⟩

/-! ## Publishing slots -/

theorem padAndRelease_withSlots (stream : Stream) (other : Slots) (handle : Handle)
    (elements : Nat) :
    (stream.withSlots other).padAndRelease handle elements =
      ((stream.padAndRelease handle elements).1,
        (stream.padAndRelease handle elements).2.withSlots
          ((stream.withSlots other).padded handle elements)) := by
  have published := (stream.withSlots (stream.padded handle elements)).release_withSlots
    ((stream.withSlots other).padded handle elements) handle
  rw [withSlots_withSlots] at published
  rw [padAndRelease_eq, padAndRelease_eq, withSlots_withSlots, published]

/-- The slot that is to be released next is one of the writer. -/
theorem isWriterSlot_of_isOldest {ring : SlotRing} (invariant : ring.Invariant) {handle : Handle}
    (current : handle.epoch = ring.epoch) (oldest : ring.isOldest handle = true) :
    ring.isWriterSlot handle = true := by
  obtain ⟨holds, named⟩ := SlotRing.eq_oldestHandle current oldest
  rw [SlotRing.isWriterSlot_iff invariant, SlotRing.writerSlots_eq_oldest_cons invariant holds]
  refine ⟨current, ?_⟩
  rw [named]
  exact List.mem_cons_self

/-- A slot is published in which the memories agree as far as it is not made silent. -/
theorem alike_padAndRelease {work : Option PartialSlot} {handle : Handle} {elements : Nat}
    (alike : stream.handover.Alike stream.config bound fills work other)
    (agree : handle.epoch = stream.handover.ring.epoch → bound ≤ handle.epoch → ∀ channel,
      stream.handover.slots.AgreeBelow other handle.index channel
        (min elements stream.config.elementsPerBuffer * stream.config.format.nativeBytes)) :
    (stream.padAndRelease handle elements).2.handover.Alike stream.config bound fills work
      ((stream.withSlots other).padded handle elements) := by
  obtain ⟨_, _, accepted⟩ := alike.accepted
  have whole := (StreamConfig.whole_elements accepted).1
  rw [padAndRelease_eq, release_eq]
  unfold padded
  by_cases writer : stream.handover.ring.isWriterSlot handle = true
  · rw [ring_withSlots, if_pos writer, if_pos writer, config_withSlots stream other]
    generalize started : min elements stream.config.elementsPerBuffer *
      stream.config.format.nativeBytes = start at *
    have inside : start ≤ stream.config.bufferLength := by
      rw [← started, ← whole]
      exact Nat.mul_le_mul_right _ (Nat.min_le_right _ _)
    have overlay : Bytes.Overlays (fun payload => payload.muteFrom start)
        stream.config.bufferLength start (Bytes.silence (stream.config.bufferLength - start)) :=
      Bytes.overlays_muteFrom inside
    have muted := alike.modify handle.index (fun _ _ => ⟨_, _, overlay⟩)
      fun _ payload => payload.length_muteFrom start
    apply muted.release
    intro current _ late channel
    have late : bound ≤ handle.epoch := current ▸ late
    have agreeAfter : Slots.AgreeBelow
        (stream.handover.slots.modify handle.index fun _ payload => payload.muteFrom start)
        (other.modify handle.index fun _ payload => payload.muteFrom start) handle.index channel
        (start + (Bytes.silence (stream.config.bufferLength - start)).length) :=
      (agree current late channel).modify_self alike.memory alike.otherMemory overlay
    rwa [Bytes.silence, List.length_replicate, Nat.add_sub_cancel' inside] at agreeAfter
  · rw [ring_withSlots, if_neg writer, if_neg writer]
    apply Handover.Alike.release alike
    intro current oldest
    exact absurd (isWriterSlot_of_isOldest alike.invariant current oldest) writer

theorem flush_of_nothing {stream : Stream} (nothing : stream.dropStale.inWork = none) :
    stream.flush = (.ok false, stream.dropStale) := by
  simp [flush, nothing]

theorem flush_of_work {stream : Stream} {slot : PartialSlot}
    (work : stream.dropStale.inWork = some slot) :
    stream.flush =
      (({ stream.dropStale with inWork := none }.padAndRelease slot.handle slot.filled).1.map
          fun _ => true,
        ({ stream.dropStale with inWork := none }.padAndRelease slot.handle slot.filled).2) := by
  simp only [flush, work]

theorem Alike.flush (alike : stream.Alike bound fills other) :
    ∃ later, (stream.withSlots other).flush =
        (stream.flush.1, stream.flush.2.withSlots later) ∧
      stream.flush.2.Alike bound fills later := by
  have fresh := alike.dropStale
  have twinDrop := stream.dropStale_withSlots other
  cases work : stream.dropStale.inWork with
  | none =>
      have twinNothing : (stream.withSlots other).dropStale.inWork = none := by
        rwa [twinDrop, inWork_withSlots]
      rw [flush_of_nothing work, flush_of_nothing twinNothing, twinDrop]
      exact ⟨other, rfl, fresh⟩
  | some slot =>
      have twinWork : (stream.withSlots other).dropStale.inWork = some slot := by
        rwa [twinDrop, inWork_withSlots]
      have idle : ({ stream.dropStale with inWork := none } : Stream).withSlots other =
          { stream.dropStale.withSlots other with inWork := none } := rfl
      rw [flush_of_work work, flush_of_work twinWork, twinDrop, ← idle, padAndRelease_withSlots]
      refine ⟨_, rfl, ?_⟩
      rw [Stream.Alike, work] at fresh
      rw [Stream.Alike, inWork_padAndRelease, config_of_moves (moves_padAndRelease _ _ _)]
      refine (alike_padAndRelease fresh fun _ late channel => ?_).forget
      obtain ⟨fits, agree⟩ := fresh.partly slot rfl late
      rw [Nat.min_eq_left fits]
      exact agree channel

/-! ## The caller's own slots -/

theorem acquireBuffer_of_error {stream : Stream} {error : StreamError}
    (failed : stream.flush.1 = .error error) : stream.acquireBuffer.2 = stream.flush.2 := by
  obtain ⟨_, -, same⟩ | ⟨_, _, granted, -, -⟩ | ⟨_, _, _, granted, -, -, -⟩ :=
    stream.acquireBuffer_cases
  · rw [same]
  · simp [failed] at granted
  · simp [failed] at granted

theorem acquireBuffer_of_ok {stream : Stream} {flushed : Bool}
    (granted : stream.flush.1 = .ok flushed) :
    stream.acquireBuffer.2 =
      { stream.flush.2 with handover := stream.flush.2.handover.acquire.2 } := by
  obtain ⟨_, failed, -⟩ | ⟨_, _, -, -, same⟩ | ⟨_, _, _, -, -, -, same⟩ :=
    stream.acquireBuffer_cases
  · simp [granted] at failed
  · rw [same]
  · rw [same]

/-- A caller that acquires a buffer may see other bytes in it, but the stream does not
depend on them. -/
theorem Alike.acquireBuffer (alike : stream.Alike bound fills other) :
    ∃ later, (stream.withSlots other).acquireBuffer.2 =
        stream.acquireBuffer.2.withSlots later ∧
      stream.acquireBuffer.2.Alike bound fills later := by
  obtain ⟨later, twinFlush, flushed⟩ := alike.flush
  cases answer : stream.flush.1 with
  | error error =>
      rw [answer] at twinFlush
      have twinAnswer := congrArg Prod.fst twinFlush
      rw [acquireBuffer_of_error answer, acquireBuffer_of_error twinAnswer, twinFlush]
      exact ⟨later, rfl, flushed⟩
  | ok done =>
      rw [answer] at twinFlush
      have twinAnswer := congrArg Prod.fst twinFlush
      rw [acquireBuffer_of_ok answer, acquireBuffer_of_ok twinAnswer, twinFlush]
      have twinAcquire : (stream.flush.2.withSlots later).handover.acquire.2 =
          stream.flush.2.handover.acquire.2.withSlots later :=
        (stream.flush.2.handover.acquire_withSlots later).2
      rw [twinAcquire]
      exact ⟨later, rfl, Handover.Alike.acquire flushed⟩

theorem fillBuffer_withSlots (stream : Stream) (other : Slots) (index : Nat)
    (content : List Bytes) :
    (stream.withSlots other).fillBuffer index content =
      (stream.fillBuffer index content).withSlots (other.fill index content) := rfl

/-- What filling a slot does to the payload of each channel. -/
def filling (content : List Bytes) (channel : Nat) (payload : Bytes) : Bytes :=
  match content[channel]? with
  | some row => payload.startWith row
  | none => payload

theorem length_filling (content : List Bytes) (channel : Nat) (payload : Bytes) :
    (filling content channel payload).length = payload.length := by
  unfold filling
  split
  · exact Bytes.length_startWith _ _
  · rfl

theorem overlays_filling {content : List Bytes} {channel : Nat} {row : Bytes}
    (there : content[channel]? = some row) (length : Nat) :
    Bytes.Overlays (filling content channel) length 0 (row.take length) := by
  have same : filling content channel = (·.startWith row) := by
    funext payload
    simp only [filling, there]
  rw [same]
  exact Bytes.overlays_startWith length row

theorem exists_overlays_filling (content : List Bytes) (channel length : Nat) :
    ∃ offset part, Bytes.Overlays (filling content channel) length offset part := by
  cases there : content[channel]? with
  | some row => exact ⟨_, _, overlays_filling there length⟩
  | none =>
      have same : filling content channel = id := by
        funext payload
        simp only [filling, there, id]
      rw [same]
      exact ⟨_, _, Bytes.overlays_id length⟩

/-- In what the caller puts into a slot the memories agree from then on. -/
theorem Alike.fillBuffer (alike : stream.Alike bound fills other) (index : Nat)
    (content : List Bytes) :
    (stream.fillBuffer index content).Alike bound
      (⟨⟨index, stream.handover.ring.epoch⟩, content⟩ :: fills) (other.fill index content) := by
  have filled := Handover.Alike.modify alike index
    (fun channel _ => exists_overlays_filling content channel stream.config.bufferLength)
    (length_filling content)
  refine { filled with callers := ?_ }
  intro fill listed late channel row there
  rcases List.mem_cons.mp listed with rfl | before
  · have agree := (Slots.agreeBelow_zero stream.handover.slots other index channel).modify_self
      alike.memory alike.otherMemory (overlays_filling there stream.config.bufferLength)
    rw [Nat.zero_add, List.length_take] at agree
    by_cases short : row.length ≤ stream.config.bufferLength
    · rwa [Nat.min_eq_right short] at agree
    · rw [Nat.min_eq_left (by omega)] at agree
      exact agree.of_all filled.memory filled.otherMemory row.length
  · exact filled.callers fill before late channel row there

/-! ## The life of a stream -/

theorem noteEnding_withSlots (stream : Stream) (other : Slots) (ending : RunEnding) :
    (stream.withSlots other).noteEnding ending = (stream.noteEnding ending).withSlots other := by
  cases ending <;> rfl

theorem Alike.restart (alike : stream.Alike bound fills other) :
    stream.restart.Alike bound fills other :=
  (Handover.Alike.run alike .restart (by simp)).forget

theorem Alike.noteEnding (alike : stream.Alike bound fills other) (ending : RunEnding) :
    (stream.noteEnding ending).Alike bound fills other := by
  cases ending with
  | failed error => exact Handover.Alike.run alike (.raise .underflow) (by simp)
  | returned | crashed => exact alike

/-- What is asked of the hand-over is asked of both alike. -/
theorem Alike.handOver (alike : stream.Alike bound fills other) (request : HandoverRequest)
    (noRelease : ∀ handle, request ≠ .release handle) :
    ∃ later, { stream.withSlots other with
          handover := request.run (stream.withSlots other).handover } =
        { stream with handover := request.run stream.handover }.withSlots later ∧
      { stream with handover := request.run stream.handover }.Alike bound fills later := by
  have same := stream.handover.run_withSlots other request
  refine ⟨_, ?_, Handover.Alike.run alike request noRelease⟩
  exact congrArg (fun handover => { stream with handover := handover }) same

end Stream

/-! ## Transfers -/

/-- A slot that the device gets was filled in a late epoch, so that the memories agree in
all of it. -/
theorem Handover.Alike.agree_of_taken {config : StreamConfig} {bound : Nat}
    {fills : List CallerFill} {handover : Handover} {work : Option PartialSlot} {other : Slots}
    (alike : handover.Alike config bound fills work other) {grant : Grant}
    (granted : handover.take.1 = some grant) (channel : Nat) :
    (handover.withSlots other).take.2.slots.payload? grant.handle.index channel =
      handover.take.2.slots.payload? grant.handle.index channel := by
  have same := handover.payload?_run .take
  have twinSame := (handover.withSlots other).payload?_run .take
  rw [HandoverRequest.run] at same twinSame
  rw [same, twinSame]
  obtain ⟨-, -, nothing, -⟩ | ⟨-, -, nothing, -⟩ | ⟨waiting, named, -⟩ := handover.take_cases
  · simp [granted] at nothing
  · simp [granted] at nothing
  · rw [granted] at named
    obtain rfl := Option.some.inj named
    have calm : handover.ring.pending = none := by
      by_contra event
      have drained := congrArg List.length (SlotRing.settle_of_pending event).1
      rw [SlotRing.length_filledSlots] at drained
      exact Nat.ne_of_gt waiting drained
    have settled := handover.ring.settle_of_not_pending calm
    have late := alike.ahead
    rw [Handover.settledEpoch, settled] at late
    rw [Handover.readyRing, settled] at waiting ⊢
    have first := SlotRing.filledSlots_eq_head_cons alike.invariant waiting
    have listed : handover.ring.head ∈ handover.ring.filledSlots := by
      rw [first]
      exact List.mem_cons_self
    have inside : handover.ring.head < config.bufferCount := by
      rw [← alike.capacity]
      exact alike.invariant.headInside
    exact (alike.filled late _ listed channel).payload?_eq alike.memory alike.otherMemory inside

namespace Stream

variable {stream : Stream} {other : Slots} {bound : Nat} {fills : List CallerFill}

/-- In one step, both give the device the same slot, with the same payloads. -/
theorem Alike.grantsAlike (alike : stream.Alike bound fills other) (step : DeviceStep) :
    (step.run (stream.withSlots other).handover).1 = (step.run stream.handover).1 ∧
      ∀ grant, (step.run stream.handover).1 = some grant → ∀ channel,
        (step.run (stream.withSlots other).handover).2.slots.payload? grant.handle.index channel =
          (step.run stream.handover).2.slots.payload? grant.handle.index channel := by
  cases step with
  | take =>
      exact ⟨(stream.handover.take_withSlots other).1,
        fun _ granted => Handover.Alike.agree_of_taken alike granted⟩
  | skip | raise => exact ⟨rfl, fun _ granted => nomatch granted⟩

/-- Both answer a transfer with the same bytes. -/
theorem Alike.serve (alike : stream.Alike bound fills other) (deviceChannels : Nat)
    (request : TransferRequest) :
    ((stream.withSlots other).serve deviceChannels request).1 =
        (stream.serve deviceChannels request).1 ∧
      ∃ later, ((stream.withSlots other).serve deviceChannels request).2 =
          (stream.serve deviceChannels request).2.withSlots later ∧
        (stream.serve deviceChannels request).2.Alike bound fills later := by
  have sameLength : (stream.withSlots other).handover.slots.channelLength =
      stream.handover.slots.channelLength :=
    alike.otherMemory.payloadLength.trans alike.memory.payloadLength.symm
  cases served : request.isServed stream.handover.slots.channelLength with
  | true =>
      have twinServed := served
      rw [← sameLength] at twinServed
      simp only [Stream.serve, Feed.transfer_of_served _ _ _ served,
        Feed.transfer_of_served _ _ _ twinServed]
      refine ⟨?_, alike.handOver .take (by simp)⟩
      have after := Handover.Alike.run alike .take (by simp)
      have sameGrant : (stream.withSlots other).handover.take.1 = stream.handover.take.1 :=
        (stream.handover.take_withSlots other).1
      rw [sameGrant]
      exact Feed.map_read_answer? _
        (after.otherMemory.channelCount.trans after.memory.channelCount.symm)
        (after.otherMemory.payloadLength.trans after.memory.payloadLength.symm)
        fun _ granted channel => Handover.Alike.agree_of_taken alike granted channel
  | false =>
      have twinRefused := served
      rw [← sameLength] at twinRefused
      simp only [Stream.serve, Feed.transfer_of_refused _ _ _ served,
        Feed.transfer_of_refused _ _ _ twinRefused, Option.map_some]
      constructor
      · rw [sameLength]
        exact congrArg some (Feed.map_read_idleSet _ _ sameLength)
      · have skipped := Handover.Alike.run alike .skip (by simp)
        exact ⟨other, rfl, skipped.run (.raise .underflow) (by simp)⟩

end Stream

end DacStream
