import DacStream.Proofs.SessionCustody

/-!
# The accesses of an operation

An operation of a stream does not change payloads and ring at once.  It is a row of
accesses to the hand-over (`Access`), and between two of them the slots may have
another owner: a write takes a slot, converts samples into it and publishes it.  So
each change of payloads is judged at its own moment (`Handover.Leads`).

What is asked of a hand-over changes no payload (`payload?_run`).  A release makes
silent only what is the writer's (`leads_padAndRelease`).  A write converts into the
slot that it has claimed, and it is up to its caller to know whose that is
(`leads_writeInto`).
-/

namespace DacStream

set_option autoImplicit false

/-! ## Accesses -/

/-- One access of an operation to its hand-over. -/
inductive Access where
  /-- Something is asked of the hand-over. -/
  | ask (request : HandoverRequest)
  /-- The payloads of a slot are changed. -/
  | refill (handle : Handle) (change : Nat → Bytes → Bytes)

/-- The hand-over after an access. -/
def Access.run : Access → Handover → Handover
  | .ask request, handover => request.run handover
  | .refill handle change, handover =>
      { handover with slots := handover.slots.modify handle.index change }

namespace Handover

/-- Where the memory differs from that of a moment, the slot is the writer's at that
moment, and neither a filled one nor that of the device. -/
def ChangesOwn (moment : Handover) (slots : Slots) : Prop :=
  ∀ index channel, slots.payload? index channel ≠ moment.slots.payload? index channel →
    ⟨index, moment.ring.epoch⟩ ∈ moment.ring.writerHandles ∧
      index ∉ moment.ring.filledSlots ∧ moment.ring.held ≠ some index

/-- The hand-over after a row of accesses. -/
def through (handover : Handover) (accesses : List Access) : Handover :=
  accesses.foldl (fun reached access => access.run reached) handover

/-- Each access of a row changes slots of the writer only, at its moment. -/
def AllChangeOwn (handover : Handover) : List Access → Prop
  | [] => True
  | access :: accesses =>
      handover.ChangesOwn (access.run handover).slots ∧
        (access.run handover).AllChangeOwn accesses

/-- The accesses lead to `later`, and each changes slots of the writer only. -/
structure Leads (handover : Handover) (accesses : List Access) (later : Handover) : Prop where
  reached : later = handover.through accesses
  own : handover.AllChangeOwn accesses

variable {handover later : Handover}

/-- Nothing that is asked of a hand-over changes a payload. -/
theorem payload?_run (handover : Handover) (request : HandoverRequest) (index channel : Nat) :
    (request.run handover).slots.payload? index channel =
      handover.slots.payload? index channel := by
  obtain same | ⟨stamped, tick, same⟩ := handover.slots_run request
  · rw [same]
  · rw [same, Slots.payload?_setTick]

theorem payload?_after (handover : Handover) (requests : List HandoverRequest)
    (index channel : Nat) :
    (handover.after requests).slots.payload? index channel =
      handover.slots.payload? index channel := by
  induction requests generalizing handover with
  | nil => rfl
  | cons request requests inductionHypothesis =>
      rw [after_cons, inductionHypothesis, payload?_run]

/-- A slot of the writer is neither filled nor with the device. -/
theorem apart_of_writerHandles (invariant : handover.ring.Invariant) {index : Nat}
    (writers : ⟨index, handover.ring.epoch⟩ ∈ handover.ring.writerHandles) :
    index ∉ handover.ring.filledSlots ∧ handover.ring.held ≠ some index := by
  obtain ⟨_, listed, same⟩ := List.mem_map.mp writers
  obtain rfl := congrArg Handle.index same
  have once := List.nodup_append.mp invariant.slots_nodup
  refine ⟨fun filled => ?_, fun held => ?_⟩
  · exact (List.nodup_append.mp once.1).2.2 _ filled _ listed rfl
  · exact once.2.2 _ (List.mem_append_right _ listed) _ (Option.mem_toList.mpr held) rfl

/-- Changing a slot of the writer changes no other. -/
theorem changesOwn_modify (invariant : handover.ring.Invariant) {handle : Handle}
    (mine : handle ∈ handover.ring.writerHandles) (change : Nat → Bytes → Bytes) :
    handover.ChangesOwn (handover.slots.modify handle.index change) := by
  intro index channel changed
  have same : handle.index = index := by
    by_contra other
    exact changed (by rw [Slots.payload?_modify, if_neg other])
  have writers : ⟨index, handover.ring.epoch⟩ ∈ handover.ring.writerHandles := by
    rw [← same, ← Custody.epoch_of_writerHandles mine]
    exact mine
  exact ⟨writers, apart_of_writerHandles invariant writers⟩

namespace Leads

theorem nil : handover.Leads [] handover := ⟨rfl, trivial⟩

theorem ask (request : HandoverRequest) : handover.Leads [.ask request] (request.run handover) :=
  ⟨rfl, fun index channel changed => absurd (handover.payload?_run request index channel) changed,
    trivial⟩

theorem refill (invariant : handover.ring.Invariant) {handle : Handle}
    (mine : handle ∈ handover.ring.writerHandles) (change : Nat → Bytes → Bytes) :
    handover.Leads [.refill handle change]
      { handover with slots := handover.slots.modify handle.index change } :=
  ⟨rfl, changesOwn_modify invariant mine change, trivial⟩

theorem append {first second : List Access} {between : Handover}
    (start : handover.Leads first between) (rest : between.Leads second later) :
    handover.Leads (first ++ second) later := by
  obtain ⟨rfl, own⟩ := start
  refine ⟨rest.reached.trans List.foldl_append.symm, ?_⟩
  have restOwn := rest.own
  clear rest
  induction first generalizing handover with
  | nil => exact restOwn
  | cons access accesses inductionHypothesis =>
      exact ⟨own.1, inductionHypothesis own.2 restOwn⟩

end Leads

end Handover

/-! ## The accesses of each operation -/

namespace Stream

variable {α : Type} [Sample α]

instance (stream : Stream) (inputs : List (List α)) : Decidable (stream.Accepts inputs) :=
  inferInstanceAs (Decidable (_ ∧ _))

/-- A slot is asked for if none is in work. -/
def claimAccesses (stream : Stream) : List Access :=
  match stream.inWork with
  | none => [.ask .acquire]
  | some _ => []

/-- Samples are converted into a slot, which is published if it is full then. -/
def fillAccesses (stream : Stream) (slot : PartialSlot) (inputs : List (List α)) (wanted : Nat) :
    List Access :=
  let count := min wanted (stream.config.elementsPerBuffer - slot.filled)
  let converted := Access.refill slot.handle fun channel payload =>
    match inputs[channel]? with
    | some input => stream.place slot.filled count input payload
    | none => payload
  if slot.filled + count = stream.config.elementsPerBuffer then
    [converted, .ask (.release slot.handle)]
  else [converted]

/-- A write that is not refused for its form, and has something to write, claims a
slot and fills it. -/
def writeAccesses (stream : Stream) (inputs : List (List α)) (count : Nat) : List Access :=
  if stream.Accepts inputs ∧ 0 < stream.requested inputs count then
    match stream.dropStale.claim with
    | (.error _, _) => stream.dropStale.claimAccesses
    | (.ok slot, claimed) =>
        stream.dropStale.claimAccesses ++
          claimed.fillAccesses slot inputs (stream.requested inputs count)
  else []

/-- A slot of the writer is made silent behind its first elements, and published. -/
def releaseAccesses (stream : Stream) (handle : Handle) (elements : Nat) : List Access :=
  let start := min elements stream.config.elementsPerBuffer * stream.config.format.nativeBytes
  if stream.handover.ring.isWriterSlot handle then
    [.refill handle fun _ payload => payload.muteFrom start, .ask (.release handle)]
  else [.ask (.release handle)]

/-- The slot in work is published, if there is one and it is not stale. -/
def flushAccesses (stream : Stream) : List Access :=
  match stream.dropStale.inWork with
  | none => []
  | some slot => stream.releaseAccesses slot.handle slot.filled

/-- A slot is asked for after the flush, unless that was refused. -/
def acquireAccesses (stream : Stream) : List Access :=
  match stream.flush.1 with
  | .error _ => stream.flushAccesses
  | .ok _ => stream.flushAccesses ++ [.ask .acquire]

variable {stream : Stream}

theorem leads_claim (stream : Stream) :
    stream.handover.Leads stream.claimAccesses stream.claim.2.handover := by
  unfold claimAccesses
  obtain ⟨slot, work, same⟩ | ⟨nothing, error, -, same⟩ | ⟨nothing, grant, -, same⟩ :=
    stream.claim_cases
  · rw [same, work]
    exact .nil
  · rw [same, nothing]
    exact .ask .acquire
  · rw [same, nothing]
    exact .ask .acquire

theorem leads_writeInto (invariant : stream.handover.ring.Invariant) {slot : PartialSlot}
    (mine : slot.handle ∈ stream.handover.ring.writerHandles) (inputs : List (List α))
    (wanted : Nat) :
    stream.handover.Leads (stream.fillAccesses slot inputs wanted)
      (stream.writeInto slot inputs wanted).2.handover := by
  obtain ⟨count, rfl, written, rfl, ⟨full, same⟩ | ⟨room, same⟩⟩ :=
    stream.writeInto_cases slot inputs wanted
  · rw [same, fillAccesses, if_pos full]
    exact (Handover.Leads.refill invariant mine _).append (.ask (.release slot.handle))
  · rw [same, fillAccesses, if_neg room]
    exact .refill invariant mine _

theorem leads_padAndRelease (invariant : stream.handover.ring.Invariant) (handle : Handle)
    (elements : Nat) :
    stream.handover.Leads (stream.releaseAccesses handle elements)
      (stream.padAndRelease handle elements).2.handover := by
  rw [padAndRelease_eq, release_eq, releaseAccesses, padded]
  by_cases writer : stream.handover.ring.isWriterSlot handle = true
  · have mine := (SlotRing.isWriterSlot_iff_mem invariant).mp writer
    rw [if_pos writer, if_pos writer]
    exact (Handover.Leads.refill invariant mine _).append (.ask (.release handle))
  · rw [if_neg writer, if_neg writer]
    exact .ask (.release handle)

theorem leads_flush (invariant : stream.handover.ring.Invariant) :
    stream.handover.Leads stream.flushAccesses stream.flush.2.handover := by
  unfold flushAccesses
  obtain ⟨nothing, same⟩ | ⟨slot, work, kept, same⟩ := stream.flush_cases
  · rw [same, nothing, handover_dropStale]
    exact .nil
  · rw [same, kept, work]
    have idle : { stream with inWork := none }.handover.ring.Invariant := invariant
    exact leads_padAndRelease idle slot.handle slot.filled

theorem leads_acquireBuffer (invariant : stream.handover.ring.Invariant) :
    stream.handover.Leads stream.acquireAccesses stream.acquireBuffer.2.handover := by
  have flushed := leads_flush invariant
  unfold acquireAccesses
  obtain ⟨error, failed, same⟩ | ⟨_, error, granted, -, same⟩ | ⟨_, grant, buffer, granted, -, -, same⟩ :=
    stream.acquireBuffer_cases
  · rw [same, failed]
    exact flushed
  · rw [same, granted]
    exact flushed.append (.ask .acquire)
  · rw [same, granted]
    exact flushed.append (.ask .acquire)

end Stream

end DacStream
