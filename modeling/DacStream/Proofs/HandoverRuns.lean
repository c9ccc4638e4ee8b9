import DacStream.Handover.Basic
import DacStream.Proofs.RingOwnership

/-!
# Runs of a hand-over

A run is a row of requests, from the writer, the device or the application, in
any order and with any handles.  What a single request can do is said once, for
each operation that has more than one outcome (`acquire_cases`, `release_cases`,
`take_cases`).  From there the invariant of the ring is carried through every run
(`invariant_after`), and with it the main result: whatever happened, every slot
has at most one owner, and the writer never gets the slot that the device holds
(`slots_owned`).

A writer that waits for a slot is a row of requests too: it asks again each time
something else has happened.
-/

namespace DacStream

set_option autoImplicit false

/-! ## Requests and runs -/

/-- What can be asked of a hand-over. -/
inductive HandoverRequest where
  | acquire
  | release (handle : Handle)
  | take
  | skip
  | requestReset
  | raise (fault : Fault)
  | pollFault
  | restart
  | setClock (clock : UInt64)
  deriving DecidableEq, Repr

namespace HandoverRequest

/-- The hand-over after a request, its answer left aside. -/
def run : HandoverRequest → Handover → Handover
  | .acquire, handover => handover.acquire.2
  | .release handle, handover => (handover.release handle).2
  | .take, handover => handover.take.2
  | .skip, handover => handover.skip
  | .requestReset, handover => handover.requestReset
  | .raise fault, handover => handover.raise fault
  | .pollFault, handover => handover.pollFault.2
  | .restart, handover => handover.restart
  | .setClock clock, handover => handover.setClock clock

/-- Whether the device keeps the slot it holds: it gives it back only when it
comes for the next one, skips a transfer, or the ring is restarted. -/
def leavesDevice : HandoverRequest → Bool
  | .take | .skip | .restart => false
  | _ => true

/-- Whether neither the clock moves nor a slot is stamped. -/
def leavesClock : HandoverRequest → Bool
  | .take | .skip | .setClock _ => false
  | _ => true

theorem cases_of_not_leavesClock {request : HandoverRequest}
    (moves : request.leavesClock = false) :
    request = .take ∨ request = .skip ∨ ∃ clock, request = .setClock clock := by
  cases request <;> simp [leavesClock] at moves ⊢

end HandoverRequest

namespace Handover

/-- The hand-over after a row of requests. -/
def after (handover : Handover) (requests : List HandoverRequest) : Handover :=
  requests.foldl (fun reached request => request.run reached) handover

theorem after_cons (handover : Handover) (request : HandoverRequest)
    (requests : List HandoverRequest) :
    handover.after (request :: requests) = (request.run handover).after requests := rfl

/-! ## What one request can do -/

theorem hasPendingEvent_eq_false_iff {handover : Handover} :
    handover.hasPendingEvent = false ↔ handover.ring.pending = none := by
  rw [hasPendingEvent, Option.isSome_eq_false_iff, Option.isNone_iff_eq_none]

/-- While nothing is pending, there is nothing to settle. -/
theorem settle_of_calm {handover : Handover} (calm : handover.ring.pending = none) :
    handover.settle = handover := by
  rw [settle, handover.ring.settle_of_not_pending calm, Counters.countSettling, calm]

/-- The writer is told of a fault, or finds nothing free, or gets the slot at
`tail`. -/
theorem acquire_cases (handover : Handover) :
    (∃ fault, handover.settle.ring.writerNotice = some fault ∧
      handover.acquire = (.error (.fault fault),
        { handover.settle with ring := handover.settle.ring.writerTold })) ∨
    (handover.settle.ring.writerNotice = none ∧ handover.settle.ring.free = 0 ∧
      handover.acquire = (.error .timeout, handover.settle)) ∨
    (handover.settle.ring.writerNotice = none ∧ 0 < handover.settle.ring.free ∧
      ∃ tick, handover.acquire = (.ok ⟨handover.settle.ring.tailHandle, tick⟩,
        { handover.settle with ring := handover.settle.ring.lend })) := by
  unfold acquire
  cases notice : handover.settle.ring.writerNotice with
  | some fault => exact .inl ⟨fault, rfl, by simp [notice]⟩
  | none =>
      by_cases free : handover.settle.ring.free = 0
      · exact .inr (.inl ⟨rfl, free, by simp [notice, free]⟩)
      · exact .inr (.inr ⟨rfl, Nat.pos_of_ne_zero free,
          (handover.settle.slots.tick? handover.settle.ring.tail).getD 0,
          by simp [notice, free]⟩)

/-- The writer is told of the fault whose notice is left once the ring is settled. -/
theorem acquire_fault_iff (handover : Handover) (fault : Fault) :
    handover.acquire.1 = .error (.fault fault) ↔
      handover.settle.ring.writerNotice = some fault := by
  obtain ⟨told, notice, same⟩ | ⟨notice, -, same⟩ | ⟨notice, -, tick, same⟩ :=
    handover.acquire_cases <;> simp [same, notice]

/-- A release is passed over, refused, or publishes the oldest slot of the
writer. -/
theorem release_cases (handover : Handover) (handle : Handle) :
    (handle.epoch ≠ handover.ring.epoch ∧ handover.release handle = (.ok (), handover)) ∨
    (handle.epoch = handover.ring.epoch ∧ handover.ring.isOldest handle = false ∧
      handover.release handle = (.error (.invalidHandle handle.index), handover)) ∨
    (handle.epoch = handover.ring.epoch ∧ handover.ring.isOldest handle = true ∧
      handover.release handle = (.ok (),
        { handover with
          ring := handover.ring.publish
          counters := handover.counters.countRelease })) := by
  unfold release SlotRing.isCurrent
  by_cases current : handle.epoch = handover.ring.epoch
  · cases oldest : handover.ring.isOldest handle with
    | false => exact .inr (.inl ⟨current, rfl, by simp [current]⟩)
    | true => exact .inr (.inr ⟨current, rfl, by simp [current]⟩)
  · exact .inl ⟨current, by simp [Ne.symm current]⟩

/-- The ring that the device finds: settled, and its last slot given back. -/
def readyRing (handover : Handover) : SlotRing := handover.ring.settle.giveBack

/-- The device finds nothing, which is an underflow if it was being served, or it
gets the slot at `head`. -/
theorem take_cases (handover : Handover) :
    (handover.readyRing.filled = 0 ∧ handover.readyRing.primed = false ∧
      handover.take.1 = none ∧ handover.take.2.ring = handover.readyRing.runDry) ∨
    (handover.readyRing.filled = 0 ∧ handover.readyRing.primed = true ∧
      handover.take.1 = none ∧
      handover.take.2.ring = handover.readyRing.runDry.raise .underflow) ∨
    (0 < handover.readyRing.filled ∧
      handover.take.1 = some ⟨handover.readyRing.headHandle, handover.clock⟩ ∧
      handover.take.2.ring = handover.readyRing.deliver) := by
  have ready : handover.settle.giveBack.ring = handover.readyRing := rfl
  unfold take
  simp only [ready]
  by_cases empty : handover.readyRing.filled = 0
  · cases primed : handover.readyRing.primed with
    | false => exact .inl ⟨empty, rfl, by simp [empty], by simp [empty, tickOn]⟩
    | true => exact .inr (.inl ⟨empty, rfl, by simp [empty], by simp [empty, tickOn, raise]⟩)
  · exact .inr (.inr ⟨Nat.pos_of_ne_zero empty, by simp [empty]; rfl, by simp [empty, tickOn]⟩)

/-- An acquisition counts what settling the ring does, and nothing else. -/
theorem counters_acquire (handover : Handover) :
    handover.acquire.2.counters = handover.settle.counters := by
  obtain ⟨fault, -, same⟩ | ⟨-, -, same⟩ | ⟨-, -, tick, same⟩ := handover.acquire_cases <;> rw [same]

/-- A device that asks for a slot counts what settling the ring does, and then an
underflow or a delivery. -/
theorem counters_take (handover : Handover) :
    handover.take.2.counters =
      if handover.readyRing.filled = 0 then
        if handover.readyRing.primed then handover.settle.counters.countFault .underflow
        else handover.settle.counters
      else handover.settle.counters.countDelivery := by
  have ready : handover.settle.giveBack.ring = handover.readyRing := rfl
  unfold take
  simp only [ready]
  by_cases empty : handover.readyRing.filled = 0
  · cases primed : handover.readyRing.primed <;> simp [empty] <;> rfl
  · simp [empty]
    rfl

/-! ## The invariant of the ring in a run -/

theorem invariant_acquire {handover : Handover} (invariant : handover.ring.Invariant) :
    handover.acquire.2.ring.Invariant := by
  have settled : handover.settle.ring.Invariant := invariant.settle
  obtain ⟨fault, -, same⟩ | ⟨-, -, same⟩ | ⟨-, free, tick, same⟩ := handover.acquire_cases
  · rw [same]
    exact settled.writerTold
  · rw [same]
    exact settled
  · rw [same]
    exact settled.lend free

theorem invariant_release {handover : Handover} (invariant : handover.ring.Invariant)
    (handle : Handle) : (handover.release handle).2.ring.Invariant := by
  obtain ⟨-, same⟩ | ⟨-, -, same⟩ | ⟨-, oldest, same⟩ := handover.release_cases handle
  · rwa [same]
  · rwa [same]
  · rw [same]
    have holds : handover.ring.writing ≠ 0 := by
      simp only [SlotRing.isOldest, Bool.and_eq_true, bne_iff_ne] at oldest
      exact oldest.1
    exact invariant.publish (Nat.pos_of_ne_zero holds)

theorem invariant_take {handover : Handover} (invariant : handover.ring.Invariant) :
    handover.take.2.ring.Invariant := by
  have ready : handover.readyRing.Invariant := invariant.settle.giveBack
  obtain ⟨-, -, -, same⟩ | ⟨-, -, -, same⟩ | ⟨waiting, -, same⟩ := handover.take_cases
  · rw [same]
    exact ready.runDry
  · rw [same]
    exact ready.runDry.raise .underflow
  · rw [same]
    exact ready.deliver waiting

theorem invariant_run {handover : Handover} (invariant : handover.ring.Invariant)
    (request : HandoverRequest) : (request.run handover).ring.Invariant := by
  cases request with
  | acquire => exact invariant_acquire invariant
  | release handle => exact invariant_release invariant handle
  | take => exact invariant_take invariant
  | skip => exact invariant.giveBack
  | requestReset => exact invariant.requestReset
  | raise fault => exact invariant.raise fault
  | pollFault => exact invariant.statusTold
  | restart => exact invariant.restart
  | setClock clock => exact invariant

/-- Every run keeps the invariant of the ring. -/
theorem invariant_after {handover : Handover} (invariant : handover.ring.Invariant)
    (requests : List HandoverRequest) : (handover.after requests).ring.Invariant := by
  induction requests generalizing handover with
  | nil => exact invariant
  | cons request requests inductionHypothesis =>
      exact inductionHypothesis (invariant_run invariant request)

theorem invariant_create (slots : Slots) (elementsPerSlot : Nat) (nonempty : 0 < slots.capacity) :
    (create slots elementsPerSlot).ring.Invariant :=
  SlotRing.Invariant.fresh slots.capacity 0 nonempty

/-! ## What no request changes -/

/-- The number of slots never changes. -/
theorem capacity_run (handover : Handover) (request : HandoverRequest) :
    (request.run handover).ring.capacity = handover.ring.capacity := by
  cases request with
  | acquire =>
      show handover.acquire.2.ring.capacity = _
      obtain ⟨fault, -, same⟩ | ⟨-, -, same⟩ | ⟨-, -, tick, same⟩ := handover.acquire_cases <;>
        rw [same] <;> exact handover.ring.capacity_settle
  | release handle =>
      show (handover.release handle).2.ring.capacity = _
      obtain ⟨-, same⟩ | ⟨-, -, same⟩ | ⟨-, -, same⟩ := handover.release_cases handle <;>
        simp only [same, SlotRing.publish]
  | take =>
      show handover.take.2.ring.capacity = _
      obtain ⟨-, -, -, same⟩ | ⟨-, -, -, same⟩ | ⟨-, -, same⟩ := handover.take_cases <;>
        rw [same] <;> exact handover.ring.capacity_settle
  | skip | requestReset | raise | pollFault | restart | setClock => rfl

theorem capacity_after (handover : Handover) (requests : List HandoverRequest) :
    (handover.after requests).ring.capacity = handover.ring.capacity := by
  induction requests generalizing handover with
  | nil => rfl
  | cons request requests inductionHypothesis =>
      rw [after_cons, inductionHypothesis, capacity_run]

/-- What leaves the clock changes the ring and the counters at most. -/
theorem run_of_leavesClock (handover : Handover) {request : HandoverRequest}
    (leaves : request.leavesClock = true) :
    ∃ ring counters,
      request.run handover = { handover with ring := ring, counters := counters } := by
  cases request with
  | acquire =>
      show ∃ ring counters, handover.acquire.2 = _
      obtain ⟨fault, -, same⟩ | ⟨-, -, same⟩ | ⟨-, -, tick, same⟩ := handover.acquire_cases <;>
        exact ⟨_, _, by rw [same]; rfl⟩
  | release handle =>
      show ∃ ring counters, (handover.release handle).2 = _
      obtain ⟨-, same⟩ | ⟨-, -, same⟩ | ⟨-, -, same⟩ := handover.release_cases handle <;>
        exact ⟨_, _, by rw [same]⟩
  | take | skip | setClock => exact nomatch leaves
  | requestReset | raise | pollFault | restart => exact ⟨_, _, rfl⟩

/-- The elements by which a transfer moves the clock on stay the same. -/
theorem elementsPerSlot_run (handover : Handover) (request : HandoverRequest) :
    (request.run handover).elementsPerSlot = handover.elementsPerSlot := by
  cases leaves : request.leavesClock with
  | true =>
      obtain ⟨ring, counters, same⟩ := handover.run_of_leavesClock leaves
      rw [same]
  | false =>
      obtain rfl | rfl | ⟨clock, rfl⟩ := HandoverRequest.cases_of_not_leavesClock leaves
      · show handover.take.2.elementsPerSlot = _
        unfold take
        by_cases empty : handover.settle.giveBack.ring.filled = 0
        · cases primed : handover.settle.giveBack.ring.primed <;> simp [empty, primed] <;> rfl
        · simp [empty]
          rfl
      · rfl
      · rfl

theorem elementsPerSlot_after (handover : Handover) (requests : List HandoverRequest) :
    (handover.after requests).elementsPerSlot = handover.elementsPerSlot := by
  induction requests generalizing handover with
  | nil => rfl
  | cons request requests inductionHypothesis =>
      rw [after_cons, inductionHypothesis, elementsPerSlot_run]

/-- A transfer stamps the slot that the device gets, and changes the memory in no
other way. -/
theorem slots_take (handover : Handover) :
    (handover.take.1 = none ∧ handover.take.2.slots = handover.slots) ∨
    (∃ grant, handover.take.1 = some grant ∧
      handover.take.2.slots = handover.slots.setTick grant.handle.index grant.tick) := by
  unfold take
  by_cases empty : handover.settle.giveBack.ring.filled = 0
  · refine .inl ⟨by simp [empty], ?_⟩
    cases primed : handover.settle.giveBack.ring.primed <;> simp [empty, primed] <;> rfl
  · exact .inr ⟨_, by simp [empty]; rfl, by simp [empty]; rfl⟩

/-- So the memory is changed by stamps only. -/
theorem slots_run (handover : Handover) (request : HandoverRequest) :
    (request.run handover).slots = handover.slots ∨
      ∃ index tick, (request.run handover).slots = handover.slots.setTick index tick := by
  cases leaves : request.leavesClock with
  | true =>
      obtain ⟨ring, counters, same⟩ := handover.run_of_leavesClock leaves
      exact .inl (by rw [same])
  | false =>
      obtain rfl | rfl | ⟨clock, rfl⟩ := HandoverRequest.cases_of_not_leavesClock leaves
      · obtain ⟨-, same⟩ | ⟨grant, -, same⟩ := handover.slots_take
        · exact .inl same
        · exact .inr ⟨_, _, same⟩
      · exact .inl rfl
      · exact .inl rfl

/-- So there are always as many cells as before. -/
theorem slotCount_run (handover : Handover) (request : HandoverRequest) :
    (request.run handover).slots.capacity = handover.slots.capacity := by
  obtain same | ⟨index, tick, same⟩ := handover.slots_run request
  · rw [same]
  · rw [same, Slots.capacity_setTick]

theorem slotCount_after (handover : Handover) (requests : List HandoverRequest) :
    (handover.after requests).slots.capacity = handover.slots.capacity := by
  induction requests generalizing handover with
  | nil => rfl
  | cons request requests inductionHypothesis =>
      rw [after_cons, inductionHypothesis, slotCount_run]

/-- The writer does not touch what the device holds, drains included. -/
theorem held_acquire (handover : Handover) :
    handover.acquire.2.ring.held = handover.ring.held := by
  obtain ⟨fault, -, same⟩ | ⟨-, -, same⟩ | ⟨-, -, tick, same⟩ := handover.acquire_cases <;>
    rw [same] <;> exact handover.ring.held_settle

theorem held_release (handover : Handover) (handle : Handle) :
    (handover.release handle).2.ring.held = handover.ring.held := by
  obtain ⟨-, same⟩ | ⟨-, -, same⟩ | ⟨-, -, same⟩ := handover.release_cases handle <;>
    simp only [same, SlotRing.publish]

theorem held_run (handover : Handover) {request : HandoverRequest}
    (leaves : request.leavesDevice = true) :
    (request.run handover).ring.held = handover.ring.held := by
  cases request with
  | acquire => exact held_acquire handover
  | release handle => exact held_release handover handle
  | take | skip | restart => simp [HandoverRequest.leavesDevice] at leaves
  | requestReset | raise | pollFault | setClock => rfl

theorem held_after (handover : Handover) {requests : List HandoverRequest}
    (leave : ∀ request ∈ requests, request.leavesDevice = true) :
    (handover.after requests).ring.held = handover.ring.held := by
  induction requests generalizing handover with
  | nil => rfl
  | cons request requests inductionHypothesis =>
      rw [after_cons, inductionHypothesis _ fun later listed =>
        leave later (List.mem_cons_of_mem _ listed), held_run handover (leave request (by simp))]

/-! ## One owner for each slot -/

/-- The slots that belong to somebody: the filled ones, those of the writer, and
that of the device. -/
def takenSlots (handover : Handover) : List Nat :=
  handover.ring.filledSlots ++ handover.ring.writerSlots ++ handover.ring.held.toList

/-- A slot that the writer gets belonged to nobody once what was pending had been
settled. -/
theorem acquire_notMem {handover : Handover} (invariant : handover.ring.Invariant)
    {grant : Grant} {later : Handover} (granted : handover.acquire = (.ok grant, later)) :
    grant.handle.index ∉ handover.settle.takenSlots := by
  have settled : handover.settle.ring.Invariant := invariant.settle
  obtain ⟨fault, -, same⟩ | ⟨-, -, same⟩ | ⟨-, free, tick, same⟩ := handover.acquire_cases
  · simp [same] at granted
  · simp [same] at granted
  · rw [same] at granted
    obtain ⟨rfl, -⟩ : _ = grant ∧ _ = later := by simpa using granted
    exact settled.tail_free free

/-- What it means that the slots of a hand-over are owned properly, now and until
the device comes back. -/
structure SlotsOwned (handover : Handover) : Prop where
  numbers : handover.ring.Invariant
  /-- The count of the free slots is exact, so it never falls short. -/
  accounted : handover.ring.filled + handover.ring.writing + handover.ring.free +
    handover.ring.held.toList.length = handover.ring.capacity
  /-- No slot belongs to two sides. -/
  apart : handover.takenSlots.Nodup
  /-- The writer only gets slots that belong to nobody. -/
  lentFree : ∀ grant later, handover.acquire = (.ok grant, later) →
    grant.handle.index ∉ handover.settle.takenSlots
  /-- The slot of the device stays with it, and away from the writer, through
  everything that does not make the device give it back. -/
  heldKept : ∀ index, handover.ring.held = some index → ∀ requests : List HandoverRequest,
    (∀ request ∈ requests, request.leavesDevice = true) →
      (handover.after requests).ring.held = some index ∧
        ∀ grant later, (handover.after requests).acquire = (.ok grant, later) →
          grant.handle.index ≠ index

theorem SlotsOwned.of_invariant {handover : Handover} (invariant : handover.ring.Invariant) :
    handover.SlotsOwned where
  numbers := invariant
  accounted := invariant.free_exact
  apart := invariant.slots_nodup
  lentFree := fun _ _ granted => acquire_notMem invariant granted
  heldKept := by
    intro index held requests leave
    have kept : (handover.after requests).ring.held = some index :=
      (held_after handover leave).trans held
    refine ⟨kept, fun grant later granted same => ?_⟩
    have apart := acquire_notMem (invariant_after invariant requests) granted
    have settled : (handover.after requests).settle.ring.held = some index :=
      ((handover.after requests).ring.held_settle).trans kept
    simp [takenSlots, settled, same] at apart

/-- **Every slot has at most one owner**, whatever was asked of a hand-over with at
least one slot, in any order and with any handles. -/
theorem slots_owned (slots : Slots) (elementsPerSlot : Nat) (nonempty : 0 < slots.capacity)
    (requests : List HandoverRequest) :
    ((create slots elementsPerSlot).after requests).ring.capacity = slots.capacity ∧
      ((create slots elementsPerSlot).after requests).SlotsOwned :=
  ⟨capacity_after _ requests,
    .of_invariant (invariant_after (invariant_create slots elementsPerSlot nonempty) requests)⟩

/-- A ring of three slots that was drained while the device held one. -/
theorem slots_owned_three :
    0 < (Slots.silent 3 1 4).capacity ∧
      ((create (Slots.silent 3 1 4) 4).after
        [.acquire, .acquire, .release ⟨0, 0⟩, .take, .raise .overflow, .acquire, .acquire,
          .release ⟨7, 1⟩]).ring.held = some 0 ∧
      ((create (Slots.silent 3 1 4) 4).after
        [.acquire, .acquire, .release ⟨0, 0⟩, .take, .raise .overflow, .acquire, .acquire,
          .release ⟨7, 1⟩]).SlotsOwned :=
  ⟨by decide, by decide, (slots_owned _ 4 (by decide) _).2⟩

end Handover

end DacStream
