import DacStream.Proofs.DrainBarrier

/-!
# Which handles are valid

A handle is a slot and an epoch, and it can be any slot and any epoch.  A hand-over judges
it twice: the test for slots of the writer counts the slot back from `tail`, and a release
compares it with the oldest slot of the writer.  Both tests are exact.  What they are
compared with is the journal of the run, which tells what the writer got in the current
epoch and has not published since (`Journal.outstanding`); going round the ring, these are
the slots behind the filled ones (`Journal.InOrder.outstanding_eq`).

A release has three outcomes, and each has its own handles (`Handover.DecidesHandle`):
that of the oldest slot is published, those of another epoch are passed over, and all
others are refused.  Only the first of them changes anything.

Epochs only rise, so a handle whose epoch is over stays stale in everything that follows
(`Handover.not_isCurrent_after`).
-/

namespace DacStream

set_option autoImplicit false

/-! ## The slots of the writer -/

/-- The handles that the writer got in an epoch and has not published yet.  Slots are
published in the order in which they were lent, so these are the last ones. -/
def Journal.outstanding (journal : Journal) (epoch : Nat) : List Handle :=
  (journal.handles .lent epoch).drop (journal.handles .published epoch).length

/-- What the writer has not published yet is what it holds on the ring, in that order. -/
theorem Journal.InOrder.outstanding_eq {journal : Journal} {ring : SlotRing}
    (inOrder : journal.InOrder ring) : journal.outstanding ring.epoch = ring.writerHandles := by
  rw [Journal.outstanding, inOrder.working, List.drop_left]

namespace SlotRing

variable {ring : SlotRing}

/-- The test that a release makes is exact. -/
theorem head?_writerHandles_iff (invariant : ring.Invariant) {handle : Handle} :
    ring.writerHandles.head? = some handle ↔
      handle.epoch = ring.epoch ∧ ring.isOldest handle = true := by
  rw [isOldest_iff invariant, writerHandles, List.head?_map, Option.map_eq_some_iff]
  constructor
  · rintro ⟨index, first, rfl⟩
    exact ⟨rfl, first⟩
  · rintro ⟨current, first⟩
    exact ⟨handle.index, first, by rw [← current]⟩

end SlotRing

namespace Handover

variable {handover : Handover} {handle : Handle}

/-! ## What a release does -/

/-- A release has published the slot of a handle: the slot has gone from the front of the
writer's slots to the end of the filled ones, the publication is counted, and nothing else
has changed. -/
structure Publishes (handover : Handover) (handle : Handle) (later : Handover) : Prop where
  taken : handover.ring.writerHandles = handle :: later.ring.writerHandles
  queued : later.ring.filledHandles = handover.ring.filledHandles ++ [handle]
  writing : later.ring.writing + 1 = handover.ring.writing
  filled : later.ring.filled = handover.ring.filled + 1
  released : later.counters.released = handover.counters.released + 1
  kept : later =
    { handover with
      ring := { handover.ring with writing := later.ring.writing, filled := later.ring.filled }
      counters := { handover.counters with released := later.counters.released } }

theorem publishes_release (invariant : handover.ring.Invariant)
    (current : handle.epoch = handover.ring.epoch) (oldest : handover.ring.isOldest handle = true) :
    handover.Publishes handle
      { handover with
        ring := handover.ring.publish
        counters := handover.counters.countRelease } := by
  obtain ⟨holds, rfl⟩ := SlotRing.eq_oldestHandle current oldest
  exact
    { taken := SlotRing.writerHandles_eq_oldest_cons invariant holds
      queued := SlotRing.filledHandles_publish invariant
      writing := Nat.sub_add_cancel holds
      filled := rfl
      released := rfl
      kept := rfl }

/-- What a handle is to a hand-over whose past a journal tells. -/
structure DecidesHandle (journal : Journal) (handover : Handover) (handle : Handle) : Prop where
  /-- The writer holds what it got in this epoch and has not published. -/
  outstanding : journal.outstanding handover.ring.epoch = handover.ring.writerHandles
  /-- The test for slots of the writer is passed by these only. -/
  writerSlot_iff : handover.ring.isWriterSlot handle = true ↔
    handle ∈ journal.outstanding handover.ring.epoch
  /-- A release publishes the oldest of them, and no other. -/
  published_iff : ((handover.release handle).1 = .ok () ∧
    handover.Publishes handle (handover.release handle).2) ↔
      (journal.outstanding handover.ring.epoch).head? = some handle
  /-- What is of another epoch is passed over. -/
  passedOver_iff : handover.release handle = (.ok (), handover) ↔
    handle.epoch ≠ handover.ring.epoch
  /-- All else is refused. -/
  refused_iff : handover.release handle = (.error (.invalidHandle handle.index), handover) ↔
    handle.epoch = handover.ring.epoch ∧
      (journal.outstanding handover.ring.epoch).head? ≠ some handle
  /-- A handle that the journal knows is of an epoch that is over, unless it is current. -/
  known : ∀ entry ∈ journal, entry.handle = handle → handover.ring.isCurrent handle = false →
    handle.epoch < handover.ring.epoch
  /-- Once its epoch is over, a handle is never current again. -/
  staysStale : handle.epoch < handover.ring.epoch → ∀ later : List HandoverRequest,
    (handover.after later).ring.isCurrent handle = false
  /-- So a handle that was current and is not any more will not be again. -/
  neverRevived : handover.ring.isCurrent handle = true → ∀ between later : List HandoverRequest,
    (handover.after between).ring.isCurrent handle = false →
      (handover.after (between ++ later)).ring.isCurrent handle = false

/-! ## Stale handles -/

/-- No request to a hand-over turns its epoch back. -/
theorem epoch_le_run (handover : Handover) (request : HandoverRequest) :
    handover.ring.epoch ≤ (request.run handover).ring.epoch := by
  have settled : handover.ring.epoch ≤ handover.ring.settle.epoch := by
    rw [SlotRing.epoch_settle]
    exact Nat.le_add_right _ _
  cases request with
  | acquire =>
      show _ ≤ handover.acquire.2.ring.epoch
      obtain ⟨fault, -, same⟩ | ⟨-, -, same⟩ | ⟨-, -, tick, same⟩ := handover.acquire_cases
      all_goals
        rw [same]
        exact settled
  | release handle =>
      show _ ≤ (handover.release handle).2.ring.epoch
      obtain ⟨-, same⟩ | ⟨-, -, same⟩ | ⟨-, -, same⟩ := handover.release_cases handle
      · rw [same]
      · rw [same]
      · rw [same]
        exact Nat.le_refl _
  | take =>
      show _ ≤ handover.take.2.ring.epoch
      obtain ⟨-, -, -, same⟩ | ⟨-, -, -, same⟩ | ⟨-, -, same⟩ := handover.take_cases
      all_goals
        rw [same]
        exact settled
  | restart => exact Nat.le_succ _
  | skip | requestReset | raise | pollFault | setClock => exact Nat.le_refl _

/-- Nor does any run. -/
theorem epoch_le_after (handover : Handover) (requests : List HandoverRequest) :
    handover.ring.epoch ≤ (handover.after requests).ring.epoch := by
  induction requests generalizing handover with
  | nil => exact Nat.le_refl _
  | cons request requests inductionHypothesis =>
      rw [after_cons]
      exact (handover.epoch_le_run request).trans (inductionHypothesis _)

theorem isCurrent_iff :
    handover.ring.isCurrent handle = true ↔ handle.epoch = handover.ring.epoch := by
  rw [SlotRing.isCurrent, beq_iff_eq, eq_comm]

/-- A handle whose epoch is over is stale for good. -/
theorem not_isCurrent_after (past : handle.epoch < handover.ring.epoch)
    (requests : List HandoverRequest) :
    (handover.after requests).ring.isCurrent handle = false := by
  rw [Bool.eq_false_iff, ne_eq, isCurrent_iff]
  have risen := handover.epoch_le_after requests
  omega

/-! ## The decision in a run -/

theorem published_iff_head? (invariant : handover.ring.Invariant) :
    ((handover.release handle).1 = .ok () ∧
      handover.Publishes handle (handover.release handle).2) ↔
        handover.ring.writerHandles.head? = some handle := by
  constructor
  · rintro ⟨-, publishes⟩
    rw [publishes.taken]
    rfl
  · intro first
    obtain ⟨current, oldest⟩ := (SlotRing.head?_writerHandles_iff invariant).mp first
    obtain ⟨stale, -⟩ | ⟨-, younger, -⟩ | ⟨-, -, same⟩ := handover.release_cases handle
    · exact absurd current stale
    · rw [younger] at oldest
      exact nomatch oldest
    · rw [same]
      exact ⟨rfl, publishes_release invariant current oldest⟩

theorem passedOver_iff_epoch_ne :
    handover.release handle = (.ok (), handover) ↔ handle.epoch ≠ handover.ring.epoch := by
  obtain ⟨stale, same⟩ | ⟨current, -, same⟩ | ⟨current, -, same⟩ := handover.release_cases handle
  · exact iff_of_true same stale
  · refine iff_of_false (fun passed => ?_) (fun stale => stale current)
    rw [same] at passed
    exact nomatch congrArg Prod.fst passed
  · refine iff_of_false (fun passed => ?_) (fun stale => stale current)
    rw [same] at passed
    have counted := congrArg (fun later => later.2.counters.released) passed
    exact released_countRelease_ne handover.counters counted

theorem refused_iff_head?_ne (invariant : handover.ring.Invariant) :
    handover.release handle = (.error (.invalidHandle handle.index), handover) ↔
      handle.epoch = handover.ring.epoch ∧ handover.ring.writerHandles.head? ≠ some handle := by
  rw [ne_eq, SlotRing.head?_writerHandles_iff invariant]
  obtain ⟨stale, same⟩ | ⟨current, younger, same⟩ | ⟨current, oldest, same⟩ :=
    handover.release_cases handle
  · refine iff_of_false (fun refused => ?_) (fun both => stale both.1)
    rw [same] at refused
    exact nomatch congrArg Prod.fst refused
  · refine iff_of_true same ⟨current, fun first => ?_⟩
    rw [younger] at first
    exact nomatch first.2
  · refine iff_of_false (fun refused => ?_) (fun both => both.2 ⟨current, oldest⟩)
    rw [same] at refused
    exact nomatch congrArg Prod.fst refused

/-- **The validity of every handle is decided exactly**, whatever was asked of a hand-over
with at least one slot, in any order and with any handles. -/
theorem handles_decided (slots : Slots) (elementsPerSlot : Nat) (nonempty : 0 < slots.capacity)
    (requests : List HandoverRequest) (handle : Handle) :
    DecidesHandle ((create slots elementsPerSlot).journal requests)
      ((create slots elementsPerSlot).after requests) handle := by
  have start : Journal.InOrder [] (create slots elementsPerSlot).ring := .empty rfl rfl
  have fresh := invariant_create slots elementsPerSlot nonempty
  have inOrder := inOrder_after start fresh requests
  have invariant := invariant_after fresh requests
  rw [List.nil_append] at inOrder
  have outstanding := inOrder.outstanding_eq
  refine
    { outstanding := outstanding
      writerSlot_iff := ?_
      published_iff := ?_
      passedOver_iff := passedOver_iff_epoch_ne
      refused_iff := ?_
      known := ?_
      staysStale := fun past later => not_isCurrent_after past later
      neverRevived := ?_ }
  · rw [outstanding]
    exact SlotRing.isWriterSlot_iff_mem invariant
  · rw [outstanding]
    exact published_iff_head? invariant
  · rw [outstanding]
    exact refused_iff_head?_ne invariant
  · rintro entry noted rfl outdated
    obtain ⟨dated, passed⟩ := inOrder.dated entry noted
    rw [Bool.eq_false_iff, ne_eq, isCurrent_iff] at outdated
    omega
  · intro current between later outdated
    rw [isCurrent_iff] at current
    rw [Bool.eq_false_iff, ne_eq, isCurrent_iff] at outdated
    have risen := epoch_le_after ((create slots elementsPerSlot).after requests) between
    rw [after_append]
    exact not_isCurrent_after (by omega) later

/-- A ring of two slots that the writer holds both, the younger one below the older one:
only the older one can be released. -/
theorem handles_decided_full :
    let requests : List HandoverRequest :=
      [.acquire, .release ⟨0, 0⟩, .take, .acquire, .skip, .acquire]
    let handover := (create (Slots.silent 2 1 4) 4).after requests
    0 < (Slots.silent 2 1 4).capacity ∧
      handover.ring.writerHandles = [⟨1, 0⟩, ⟨0, 0⟩] ∧
      handover.ring.isWriterSlot ⟨0, 0⟩ = true ∧
      (handover.release ⟨0, 0⟩).1 = .error (.invalidHandle 0) ∧
      (handover.release ⟨1, 0⟩).1 = .ok () ∧
      DecidesHandle ((create (Slots.silent 2 1 4) 4).journal requests) handover ⟨0, 0⟩ ∧
      DecidesHandle ((create (Slots.silent 2 1 4) 4).journal requests) handover ⟨1, 0⟩ :=
  ⟨by decide, by decide, by decide, by decide, by decide,
    handles_decided _ 4 (by decide) _ _, handles_decided _ 4 (by decide) _ _⟩

end Handover

end DacStream
