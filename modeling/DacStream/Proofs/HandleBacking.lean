import DacStream.Proofs.DrainBarrier
import DacStream.Proofs.SlotAccess

/-!
# Handles that the ring backs

A slot in work is kept from one call to the next, and in the meantime the ring may
have been drained and the slot lent anew.  What protects the payloads is that
everything the stream and its caller believe to have is backed by the ring
(`SlotRing.Backs`): a handle of the current epoch is that of a slot of the writer, and
the slot in work is not one that the caller has (`SlotRing.Guards`).

Every operation of a stream keeps this, releases of the caller included if the caller
has the handle.
-/

namespace DacStream

set_option autoImplicit false

/-! ## Backed handles -/

namespace SlotRing

/-- No handle of a list is of an epoch to come, and those of the current epoch are the
writer's. -/
def Backs (ring : SlotRing) (handles : List Handle) : Prop :=
  ∀ handle ∈ handles,
    handle.epoch ≤ ring.epoch ∧ (handle.epoch = ring.epoch → handle ∈ ring.writerHandles)

variable {ring later : SlotRing} {handles : List Handle}

theorem Backs.of_subset (backs : ring.Backs handles) {fewer : List Handle}
    (listed : ∀ handle ∈ fewer, handle ∈ handles) : ring.Backs fewer :=
  fun handle mine => backs handle (listed handle mine)

/-- The beginning of an epoch ends all claims. -/
theorem Backs.of_newer (backs : ring.Backs handles) (newer : ring.epoch < later.epoch) :
    later.Backs handles := by
  intro handle listed
  have dated := (backs handle listed).1
  exact ⟨by omega, fun current => by omega⟩

theorem Backs.settle (backs : ring.Backs handles) : ring.settle.Backs handles := by
  by_cases event : ring.pending = none
  · rw [ring.settle_of_not_pending event]
    exact backs
  · have begun := (settle_of_pending event).2.2.2
    exact backs.of_newer (by omega)

/-- The slot that is lent joins those that are backed. -/
theorem Backs.lend (backs : ring.Backs handles) (invariant : ring.Invariant) :
    ring.lend.Backs (ring.tailHandle :: handles) := by
  have longer := writerHandles_lend invariant
  rintro handle (_ | ⟨_, listed⟩)
  · exact ⟨Nat.le_refl _, fun _ => by simp [longer]⟩
  · refine ⟨(backs handle listed).1, fun current => ?_⟩
    rw [longer]
    exact List.mem_append_left _ ((backs handle listed).2 current)

/-- A slot that is free is not claimed. -/
theorem Backs.tailHandle_notMem (backs : ring.Backs handles) (invariant : ring.Invariant)
    (free : 0 < ring.free) : ring.tailHandle ∉ handles := by
  intro listed
  obtain ⟨index, writers, same⟩ := List.mem_map.mp ((backs _ listed).2 rfl)
  have free := invariant.tail_free free
  rw [List.mem_append, List.mem_append, not_or, not_or] at free
  obtain rfl : index = ring.tail := congrArg Handle.index same
  exact free.1.2 writers

/-- The publication of the oldest slot leaves the claims to others alone. -/
theorem Backs.publish (backs : ring.Backs handles) (invariant : ring.Invariant)
    (holds : 0 < ring.writing) (elsewhere : ring.oldestHandle ∉ handles) :
    ring.publish.Backs handles := by
  intro handle listed
  refine ⟨(backs handle listed).1, fun current => ?_⟩
  have writers := (backs handle listed).2 current
  rw [writerHandles_eq_oldest_cons invariant holds] at writers
  refine (List.mem_cons.mp writers).resolve_left fun same => ?_
  exact elsewhere (same ▸ listed)

end SlotRing

namespace Handover

variable {handover : Handover} {handles : List Handle}

/-- A release leaves the claims to other slots alone. -/
theorem backs_release (backs : handover.ring.Backs handles) (invariant : handover.ring.Invariant)
    {handle : Handle} (elsewhere : handle ∉ handles) :
    (handover.release handle).2.ring.Backs handles := by
  obtain ⟨-, same⟩ | ⟨-, -, same⟩ | ⟨current, oldest, same⟩ := handover.release_cases handle
  · rwa [same]
  · rwa [same]
  · obtain ⟨holds, rfl⟩ := SlotRing.eq_oldestHandle current oldest
    rw [same]
    exact backs.publish invariant holds elsewhere

/-- The slot that an acquisition grants is the writer's, and nobody claimed it before. -/
theorem backs_acquire_ok (backs : handover.ring.Backs handles)
    (invariant : handover.ring.Invariant) {grant : Grant}
    (granted : handover.acquire.1 = .ok grant) :
    handover.acquire.2.ring.Backs (grant.handle :: handles) ∧ grant.handle ∉ handles ∧
      grant.handle.epoch = handover.acquire.2.ring.epoch := by
  have settled : handover.settle.ring.Backs handles := backs.settle
  have keeps : handover.settle.ring.Invariant := invariant.settle
  obtain ⟨fault, -, same⟩ | ⟨-, -, same⟩ | ⟨-, free, tick, same⟩ := handover.acquire_cases
  all_goals rw [same] at granted ⊢
  · exact nomatch granted
  · exact nomatch granted
  · obtain rfl := Except.ok.inj granted
    exact ⟨settled.lend keeps, settled.tailHandle_notMem keeps free, rfl⟩

/-- Whatever else is asked of a hand-over, the claims stand or end with their epoch. -/
theorem backs_run (backs : handover.ring.Backs handles) (invariant : handover.ring.Invariant)
    {request : HandoverRequest} (noRelease : ∀ handle, request ≠ .release handle) :
    (request.run handover).ring.Backs handles := by
  have ready : handover.readyRing.Backs handles := backs.settle
  cases request with
  | acquire =>
      cases answer : handover.acquire.1 with
      | ok grant =>
          exact (backs_acquire_ok backs invariant answer).1.of_subset fun _ listed =>
            List.mem_cons_of_mem _ listed
      | error error =>
          show handover.acquire.2.ring.Backs handles
          obtain ⟨fault, -, same⟩ | ⟨-, -, same⟩ | ⟨-, -, tick, same⟩ := handover.acquire_cases
          all_goals rw [same] at answer ⊢
          · exact ready
          · exact ready
          · exact nomatch answer
  | release handle => exact absurd rfl (noRelease handle)
  | take =>
      show handover.take.2.ring.Backs handles
      obtain ⟨-, -, -, same⟩ | ⟨-, -, -, same⟩ | ⟨waiting, -, same⟩ := handover.take_cases
      all_goals rw [same]
      · exact ready
      · exact ready
      · intro handle listed
        rw [SlotRing.writerHandles_deliver waiting]
        exact ready handle listed
  | restart => exact backs.of_newer (Nat.lt_succ_self _)
  | skip | requestReset | raise | pollFault | setClock => exact backs

end Handover

/-! ## The slot in work and the handles of the caller -/

/-- A ring backs the slot that is in work and the handles that the caller was handed,
and no slot is both. -/
structure SlotRing.Guards (ring : SlotRing) (work : Option Handle) (handed : List Handle) :
    Prop where
  invariant : ring.Invariant
  backed : ring.Backs (work.toList ++ handed)
  apart : ∀ handle, work = some handle → handle ∉ handed

/-- The handles that the caller has after it asked for a buffer. -/
def handedAfter (handed : List Handle) : Except StreamError LentBuffer → List Handle
  | .ok buffer => buffer.handle :: handed
  | .error _ => handed

/-- The handles that the caller has after it released one, which it has lost if a slot
was published. -/
def handedAfterRelease (handed : List Handle) (handle : Handle) (before after : Counters) :
    List Handle :=
  if after.released = before.released then handed else handed.filter (· ≠ handle)

/-- What the stream has in work and what its caller was handed is backed by the ring. -/
def Stream.Guards (stream : Stream) (handed : List Handle) : Prop :=
  stream.handover.ring.Guards stream.workHandle? handed

namespace SlotRing.Guards

variable {handover : Handover} {work : Option Handle} {handed : List Handle}

theorem handed_backed {ring : SlotRing} (guards : ring.Guards work handed) : ring.Backs handed :=
  guards.backed.of_subset fun _ listed => List.mem_append_right _ listed

/-- Without a slot in work the ring only has to back the handles of the caller. -/
theorem of_handed {ring : SlotRing} (invariant : ring.Invariant) (backed : ring.Backs handed) :
    ring.Guards none handed :=
  ⟨invariant, backed, fun _ mine => nomatch mine⟩

/-- What else is asked of the hand-over leaves the claims alone. -/
theorem run (guards : handover.ring.Guards work handed) (request : HandoverRequest)
    (noRelease : ∀ handle, request ≠ .release handle) :
    (request.run handover).ring.Guards work handed where
  invariant := Handover.invariant_run guards.invariant request
  backed := Handover.backs_run guards.backed guards.invariant noRelease
  apart := guards.apart

theorem after (guards : handover.ring.Guards work handed) {requests : List HandoverRequest}
    (noRelease : ∀ request ∈ requests, ∀ handle, request ≠ .release handle) :
    (handover.after requests).ring.Guards work handed := by
  induction requests generalizing handover with
  | nil => exact guards
  | cons request requests inductionHypothesis =>
      exact inductionHypothesis (guards.run request (noRelease request List.mem_cons_self))
        fun later listed => noRelease later (List.mem_cons_of_mem _ listed)

/-- A slot that was in work is published, or its publication is refused. -/
theorem release_work {handle : Handle} (guards : handover.ring.Guards (some handle) handed) :
    (handover.release handle).2.ring.Guards none handed :=
  .of_handed (Handover.invariant_release guards.invariant handle)
    (Handover.backs_release guards.handed_backed guards.invariant (guards.apart handle rfl))

/-- The caller publishes a slot that it was handed, or keeps its handle. -/
theorem release_handed (guards : handover.ring.Guards work handed) {handle : Handle}
    (mine : handle ∈ handed) :
    (handover.release handle).2.ring.Guards work
      (handedAfterRelease handed handle handover.counters
        (handover.release handle).2.counters) := by
  obtain ⟨-, same⟩ | ⟨-, -, same⟩ | ⟨current, oldest, same⟩ := handover.release_cases handle
  · rw [same, handedAfterRelease, if_pos rfl]
    exact guards
  · rw [same, handedAfterRelease, if_pos rfl]
    exact guards
  · obtain ⟨holds, named⟩ := SlotRing.eq_oldestHandle current oldest
    rw [same, handedAfterRelease, if_neg (Handover.released_countRelease_ne _), named]
    rw [named] at mine
    refine ⟨guards.invariant.publish holds, ?_, fun other inWork listed => ?_⟩
    · refine (guards.backed.of_subset fun other listed => ?_).publish guards.invariant holds ?_
      · rw [List.mem_append, List.mem_filter] at listed
        exact List.mem_append.mpr (listed.imp_right And.left)
      · rw [List.mem_append, List.mem_filter, not_or, Option.mem_toList]
        exact ⟨fun inWork => guards.apart _ inWork mine, by simp⟩
    · exact guards.apart other inWork (List.mem_filter.mp listed).1

end SlotRing.Guards

namespace Stream.Guards

variable {α : Type} [Sample α] {stream : Stream} {handed : List Handle}

/-- A slot in work that is not stale is the writer's. -/
theorem work_writers (guards : stream.Guards handed) {slot : PartialSlot}
    (work : stream.dropStale.inWork = some slot) :
    stream.dropStale = stream ∧ slot.handle ∈ stream.handover.ring.writerHandles := by
  obtain ⟨-, -, -, same⟩ | ⟨same, current⟩ := stream.dropStale_cases
  · rw [same] at work
    exact nomatch work
  · rw [same] at work
    have mine : stream.workHandle? = some slot.handle := by simp [workHandle?, work]
    exact ⟨same, (guards.backed slot.handle (by simp [mine])).2 (current slot work).2⟩

theorem dropStale (guards : stream.Guards handed) : stream.dropStale.Guards handed := by
  obtain ⟨slot, -, -, same⟩ | ⟨same, -⟩ := stream.dropStale_cases
  · rw [same]
    exact .of_handed guards.invariant guards.handed_backed
  · rwa [same]

/-- The slot that is claimed for a write is the writer's, and not the caller's. -/
theorem claim (guards : stream.Guards handed) {slot : PartialSlot}
    (claimed : stream.dropStale.claim.1 = .ok slot) :
    slot.handle ∈ stream.dropStale.claim.2.handover.ring.writerHandles ∧
      stream.dropStale.claim.2.handover.ring.Guards (some slot.handle) handed ∧
        stream.dropStale.claim.2.inWork = none := by
  obtain ⟨other, work, same⟩ | ⟨-, error, -, same⟩ | ⟨nothing, grant, granted, same⟩ :=
    stream.dropStale.claim_cases
  · rw [same] at claimed ⊢
    obtain rfl := Except.ok.inj claimed
    obtain ⟨kept, mine⟩ := guards.work_writers work
    rw [kept] at work ⊢
    have inWork : stream.workHandle? = some other.handle := by simp [workHandle?, work]
    rw [Stream.Guards, inWork] at guards
    exact ⟨mine, guards, rfl⟩
  · simp [same] at claimed
  · have fresh := guards.dropStale
    rw [same] at claimed ⊢
    obtain rfl := Except.ok.inj claimed
    obtain ⟨backed, apart, current⟩ :=
      Handover.backs_acquire_ok fresh.handed_backed fresh.invariant granted
    refine ⟨(backed _ List.mem_cons_self).2 current,
      ⟨Handover.invariant_acquire fresh.invariant, backed, ?_⟩, nothing⟩
    rintro handle ⟨⟩
    exact apart

/-- A write changes payloads of the slot that it has claimed. -/
theorem write (guards : stream.Guards handed) (inputs : List (List α)) (count : Nat) :
    (stream.write inputs count).2.Guards handed ∧
      stream.handover.Leads (stream.writeAccesses inputs count)
        (stream.write inputs count).2.handover := by
  have asked := stream.dropStale.leads_claim
  rw [handover_dropStale] at asked
  obtain ⟨refused, error, same, -⟩ | ⟨-, nothing, same⟩ | ⟨accepts, some, error, failed, same⟩ |
      ⟨accepts, some, slot, claimed, same⟩ := stream.write_cases inputs count
  · rw [same, writeAccesses, if_neg fun both => refused both.1]
    exact ⟨guards, .nil⟩
  · rw [same, writeAccesses, if_neg fun both => Nat.ne_of_gt both.2 nothing]
    exact ⟨guards, .nil⟩
  · have answer : stream.dropStale.claim = (.error error, stream.dropStale.claim.2) :=
      Prod.ext failed rfl
    rw [same, writeAccesses, if_pos ⟨accepts, some⟩, answer]
    refine ⟨?_, asked⟩
    obtain ⟨other, -, same⟩ | ⟨nothing, other, -, same⟩ | ⟨-, grant, -, same⟩ :=
      stream.dropStale.claim_cases
    · simp [same] at failed
    · rw [same]
      exact guards.dropStale.run .acquire (by simp)
    · simp [same] at failed
  · have answer : stream.dropStale.claim = (.ok slot, stream.dropStale.claim.2) :=
      Prod.ext claimed rfl
    obtain ⟨mine, held, nothing⟩ := guards.claim claimed
    have filled := leads_writeInto held.invariant mine inputs (stream.requested inputs count)
    rw [same, writeAccesses, if_pos ⟨accepts, some⟩, answer]
    refine ⟨?_, asked.append filled⟩
    obtain ⟨count, rfl, written, rfl, ⟨-, same⟩ | ⟨-, same⟩⟩ :=
      stream.dropStale.claim.2.writeInto_cases slot inputs (stream.requested inputs count)
    · rw [same, Stream.Guards, Stream.workHandle?, release_eq]
      simp only [withSlots, nothing, Option.map_none]
      exact SlotRing.Guards.release_work held
    · rw [same]
      exact held

theorem flush (guards : stream.Guards handed) : stream.flush.2.Guards handed := by
  obtain ⟨-, same⟩ | ⟨slot, work, -, same⟩ := stream.flush_cases
  · rw [same]
    exact guards.dropStale
  · have inWork : stream.workHandle? = some slot.handle := by simp [workHandle?, work]
    rw [Stream.Guards, inWork] at guards
    rw [same, padAndRelease_eq, release_eq]
    exact SlotRing.Guards.release_work guards

theorem acquireBuffer (guards : stream.Guards handed) :
    stream.acquireBuffer.2.Guards (handedAfter handed stream.acquireBuffer.1) := by
  have flushed := guards.flush
  obtain ⟨error, -, same⟩ | ⟨_, error, -, -, same⟩ | ⟨_, grant, buffer, -, lent, named, same⟩ :=
    stream.acquireBuffer_cases
  · rw [same]
    exact flushed
  · rw [same]
    exact flushed.run .acquire (by simp)
  · obtain ⟨backed, -, -⟩ :=
      Handover.backs_acquire_ok flushed.handed_backed flushed.invariant lent
    rw [same, Stream.Guards, workHandle?, inWork_flush, handedAfter, named]
    exact .of_handed (Handover.invariant_acquire flushed.invariant) backed

theorem releaseBuffer (guards : stream.Guards handed) {handle : Handle} (mine : handle ∈ handed)
    (elements : Nat) :
    (stream.padAndRelease handle elements).2.Guards
      (handedAfterRelease handed handle stream.handover.counters
        (stream.padAndRelease handle elements).2.handover.counters) := by
  have padded : (stream.withSlots (stream.padded handle elements)).Guards handed := guards
  rw [padAndRelease_eq]
  exact padded.release_handed mine

end Stream.Guards

end DacStream
