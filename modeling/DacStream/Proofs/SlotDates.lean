import DacStream.Proofs.SessionsSideBySide

/-!
# How old the slots of a stream are

A slot in work and the bytes that a caller put into a slot are dated by the epoch in
which the slot was got.  These dates are no later than the ring is (`Stream.Dated`).  A
reset or a fault that is pending, as well as a restart, puts the next slot into a later
epoch than all of them (`Stream.Interrupted`), and so nothing in the memory of the
stream matters any more (`Stream.Interrupted.alike`).  A fault is pending as soon as it
is counted (`Handover.pending_of_raised`).

A slot in work that is outdated stays so until something is written, and this begins at
the first element of a new slot (`Stream.write_of_workStale`).
-/

namespace DacStream

set_option autoImplicit false

/-! ## Faults that are raised -/

/-- How often a fault of either kind was raised. -/
def Counters.raised (counters : Counters) : UInt64 × UInt64 :=
  (counters.underflows, counters.overflows)

theorem Counters.raised_countSettling (counters : Counters) (ring : SlotRing) :
    (counters.countSettling ring).raised = counters.raised := by
  unfold countSettling
  split <;> rfl

namespace Handover

/-- The device raises a fault when it finds nothing while it is being served. -/
theorem raised_take (handover : Handover) :
    handover.take.2.counters.raised = handover.counters.raised ∨
      handover.take.2.ring.pending ≠ none := by
  obtain ⟨empty, idle, -, -⟩ | ⟨-, -, -, same⟩ | ⟨waiting, -, -⟩ := handover.take_cases
  · left
    simp only [counters_take, if_pos empty, idle, Bool.false_eq_true, if_false]
    exact handover.counters.raised_countSettling _
  · right
    rw [same]
    exact Option.some_ne_none _
  · left
    simp only [counters_take, if_neg (Nat.ne_of_gt waiting)]
    exact handover.counters.raised_countSettling _

/-- A fault that is raised is pending afterwards. -/
theorem pending_of_raised {handover : Handover} {request : HandoverRequest}
    (raises : (request.run handover).counters.raised ≠ handover.counters.raised) :
    (request.run handover).ring.pending ≠ none := by
  cases request with
  | acquire =>
      obtain ⟨fault, -, same⟩ | ⟨-, -, same⟩ | ⟨-, -, tick, same⟩ := handover.acquire_cases
      all_goals
        rw [HandoverRequest.run, same] at raises
        exact absurd (handover.counters.raised_countSettling _) raises
  | release handle =>
      obtain ⟨-, same⟩ | ⟨-, -, same⟩ | ⟨-, -, same⟩ := handover.release_cases handle
      all_goals
        rw [HandoverRequest.run, same] at raises
        exact absurd rfl raises
  | take => exact handover.raised_take.resolve_left raises
  | raise => exact Option.some_ne_none _
  | skip | requestReset | pollFault | restart | setClock => exact absurd rfl raises

end Handover

/-! ## Dates -/

namespace Stream

/-- The slot in work and the bytes of the caller are of no later epoch than the ring. -/
structure Dated (fills : List CallerFill) (stream : Stream) : Prop where
  work : ∀ slot, stream.inWork = some slot → slot.handle.epoch ≤ stream.handover.ring.epoch
  callers : ∀ fill ∈ fills, fill.handle.epoch ≤ stream.handover.ring.epoch

/-- The slot in work is of an earlier epoch than the next slot that changes hands. -/
def WorkStale (stream : Stream) : Prop :=
  ∀ slot, stream.inWork = some slot → slot.handle.epoch < stream.handover.settledEpoch

/-- Whatever is filled or in work, and whatever the caller put into slots, is of an
earlier epoch than the next slot that changes hands. -/
structure Interrupted (fills : List CallerFill) (stream : Stream) : Prop where
  filled : stream.handover.settledEpoch ≤ stream.handover.ring.epoch →
    stream.handover.ring.filledSlots = []
  work : stream.WorkStale
  callers : ∀ fill ∈ fills, fill.handle.epoch < stream.handover.settledEpoch

variable {stream later : Stream} {fills : List CallerFill}

/-- A new stream keeps nothing yet. -/
theorem Dated.create (config : StreamConfig) : (Stream.create config).Dated [] where
  work := by rintro slot ⟨⟩
  callers := by simp

theorem Dated.interrupted_of_pending (dated : stream.Dated fills)
    (event : stream.handover.ring.pending ≠ none) : stream.Interrupted fills := by
  have ahead : stream.handover.settledEpoch = stream.handover.ring.epoch + 1 :=
    (SlotRing.settle_of_pending event).2.2.2
  refine ⟨?_, ?_, ?_⟩
  · intro late
    exact absurd (ahead ▸ late) (Nat.not_succ_le_self _)
  · intro slot inWork
    exact ahead ▸ Nat.lt_succ_of_le (dated.work slot inWork)
  · intro fill listed
    exact ahead ▸ Nat.lt_succ_of_le (dated.callers fill listed)

theorem Dated.interrupted_restart (dated : stream.Dated fills) :
    stream.restart.Interrupted fills where
  filled := fun _ => rfl
  work := fun _ none => nomatch none
  callers := fun fill listed => Nat.lt_succ_of_le (dated.callers fill listed)

theorem Dated.noteEnding (dated : stream.Dated fills) (ending : RunEnding) :
    (stream.noteEnding ending).Dated fills := by
  cases ending <;> exact ⟨dated.work, dated.callers⟩

/-- An interrupted stream agrees with every memory where it matters: there is nothing
that does. -/
theorem Interrupted.alike (interrupted : stream.Interrupted fills) (sound : stream.Sound)
    {other : Slots} (shaped : other.Shaped stream.config.bufferCount stream.config.channelCount
      stream.config.bufferLength) :
    stream.Alike stream.handover.settledEpoch fills other where
  accepted := sound.accepted
  invariant := sound.ring
  capacity := sound.capacity
  memory := sound.memory
  otherMemory := shaped
  ahead := Nat.le_refl _
  filled := by
    intro late index listed
    rw [interrupted.filled late] at listed
    exact nomatch listed
  partly := fun slot inWork late => absurd (interrupted.work slot inWork) (Nat.not_lt_of_le late)
  callers := fun fill listed late =>
    absurd (interrupted.callers fill listed) (Nat.not_lt_of_le late)

/-- Whatever becomes of a stream, the epoch of the next slot is not turned back. -/
theorem settledEpoch_le_of_moves (moves : stream.Moves later) :
    stream.handover.settledEpoch ≤ later.handover.settledEpoch := by
  induction moves with
  | refl => exact Nat.le_refl _
  | tail _ move inductionHypothesis =>
      refine inductionHypothesis.trans ?_
      cases move with
      | handOver request => exact Handover.settledEpoch_le_run _ request
      | refill | work => exact Nat.le_refl _

/-! ## The slot in work -/

variable {α : Type} [Sample α]

/-- A slot that is claimed is of the epoch of the ring. -/
theorem epoch_of_claimed {slot : PartialSlot} (claimed : stream.dropStale.claim.1 = .ok slot) :
    slot.handle.epoch = stream.dropStale.claim.2.handover.ring.epoch := by
  obtain ⟨found, work, same⟩ | ⟨-, error, -, same⟩ | ⟨-, grant, granted, same⟩ :=
    stream.dropStale.claim_cases
  all_goals rw [same] at claimed ⊢
  · obtain rfl := Except.ok.inj claimed
    obtain ⟨-, -, -, dropped⟩ | ⟨kept, current⟩ := stream.dropStale_cases
    · rw [dropped] at work
      exact nomatch work
    · rw [kept] at work ⊢
      exact (current found work).2
  · exact nomatch claimed
  · obtain rfl := Except.ok.inj claimed
    obtain ⟨fault, -, asked⟩ | ⟨-, -, asked⟩ | ⟨-, -, tick, asked⟩ :=
      stream.dropStale.handover.acquire_cases
    all_goals rw [asked] at granted ⊢
    · exact nomatch granted
    · exact nomatch granted
    · obtain rfl := Except.ok.inj granted
      rfl

/-- Without a slot in work, a new one is claimed at its first element. -/
theorem claim_of_nothing (nothing : stream.inWork = none) {slot : PartialSlot}
    (claimed : stream.claim.1 = .ok slot) :
    ∃ grant, stream.handover.acquire.1 = .ok grant ∧ slot = ⟨grant.handle, 0⟩ ∧
      stream.claim.2 = { stream with handover := stream.handover.acquire.2 } := by
  obtain ⟨found, work, -⟩ | ⟨-, error, -, same⟩ | ⟨-, grant, granted, same⟩ := stream.claim_cases
  · rw [nothing] at work
    exact nomatch work
  · rw [same] at claimed
    exact nomatch claimed
  · rw [same] at claimed ⊢
    exact ⟨grant, granted, (Except.ok.inj claimed).symm, rfl⟩

/-- A write leaves the slot in work alone, or none is in work afterwards, or something
was written and the rest of the slot is left for the next write. -/
theorem inWork_write (stream : Stream) (inputs : List (List α)) (count : Nat) :
    (stream.write inputs count).2.inWork = none ∨
    (stream.write inputs count).2.inWork = stream.inWork ∨
    ∃ slot outcome, (stream.write inputs count).1 = .ok outcome ∧
      (stream.write inputs count).2.inWork = some slot ∧
      slot.handle.epoch = (stream.write inputs count).2.handover.ring.epoch ∧
      (stream.dropStale.inWork = none → 0 < outcome.written) := by
  obtain ⟨-, error, same, -⟩ | ⟨-, -, same⟩ | ⟨-, -, error, failed, same⟩ |
    ⟨-, some, slot, claimed, same⟩ := stream.write_cases inputs count
  · exact .inr (.inl (by rw [same]))
  · exact .inr (.inl (by rw [same]))
  · left
    rw [same]
    exact inWork_claim _
  · obtain ⟨written, counted, _, rfl, ⟨-, outcome⟩ | ⟨room, outcome⟩⟩ :=
      stream.dropStale.claim.2.writeInto_cases slot inputs (stream.requested inputs count)
    · left
      rw [same, outcome, release_eq]
      exact inWork_claim _
    · right
      right
      rw [same, outcome]
      have current := epoch_of_claimed claimed
      refine ⟨_, _, rfl, rfl, current, ?_⟩
      intro nothing
      obtain ⟨grant, -, rfl, -⟩ := claim_of_nothing nothing claimed
      simp only at counted room ⊢
      omega

/-- A slot in work that is outdated is not used any more. -/
theorem WorkStale.dropStale (stale : stream.WorkStale) :
    stream.dropStale = { stream with inWork := none } := by
  obtain ⟨slot, -, -, same⟩ | ⟨same, current⟩ := stream.dropStale_cases
  · exact same
  · cases work : stream.inWork with
    | none =>
        rw [same, ← work]
    | some slot =>
        obtain ⟨calm, sameEpoch⟩ := current slot work
        have settled : stream.handover.ring.pending = none :=
          Handover.hasPendingEvent_eq_false_iff.mp calm
        have outdated := stale slot work
        rw [Handover.settledEpoch, stream.handover.ring.settle_of_not_pending settled,
          sameEpoch] at outdated
        exact absurd outdated (Nat.lt_irrefl _)

/-- As long as the slot in work is outdated, a write that accepts something begins at the
first element of a slot that it acquires. -/
theorem write_of_workStale (stale : stream.WorkStale) {inputs : List (List α)} {count : Nat}
    {outcome : WriteOutcome} (wrote : (stream.write inputs count).1 = .ok outcome)
    (some : 0 < outcome.written) :
    ∃ grant acquired, stream.handover.acquire = (.ok grant, acquired) ∧
      stream.write inputs count =
        ({ stream with inWork := none, handover := acquired } : Stream).writeInto
          ⟨grant.handle, 0⟩ inputs (stream.requested inputs count) := by
  obtain ⟨-, error, same, -⟩ | ⟨-, -, same⟩ | ⟨-, -, error, -, same⟩ | ⟨-, -, slot, claimed, same⟩ :=
    stream.write_cases inputs count
  · rw [same] at wrote
    exact nomatch wrote
  · rw [same] at wrote
    obtain rfl := Except.ok.inj wrote
    exact absurd some (Nat.lt_irrefl 0)
  · rw [same] at wrote
    exact nomatch wrote
  · rw [stale.dropStale] at claimed same
    obtain ⟨grant, granted, rfl, reached⟩ := claim_of_nothing rfl claimed
    rw [reached] at same
    exact ⟨grant, _, Prod.ext granted rfl, same⟩

end Stream

end DacStream
