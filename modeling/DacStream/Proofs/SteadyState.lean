import DacStream.Handover.Feed
import DacStream.Proofs.HandleValidity
import DacStream.Proofs.SlotMemory

/-!
# Writer and device in steady state

As long as nothing is pending, settling does nothing, and what either side does has a
simple form (`Handover.acquire_of_free`, `Handover.take_of_filled`).  The writer works at
`tail` and at the end of the filled slots, the device at `head`, and these are different
slots while something is filled and something is free.  So it does not matter who comes
first: the two orders give both sides the same answers and lead to the same hand-over, the
stamps of the slots, the clock and the counters included (`CommuteAt`).

What holds of two steps holds of rows of steps.  If there are enough filled slots for the
device and enough free ones for the writer, every interleaving of their steps is as good as
the one in which the writer is done before the device begins
(`Handover.observe_eq_sorted`).  Neither side can tell from its answers when the other one
was served.
-/

namespace DacStream

set_option autoImplicit false

/-! ## Operations that commute -/

section

variable {σ α β : Type} {first : σ → α × σ} {second : σ → β × σ} {state : σ}

/-- Two operations commute at a state: in either order both give the same answers, and the
same state is reached. -/
def CommuteAt (first : σ → α × σ) (second : σ → β × σ) (state : σ) : Prop :=
  (first (second state).2).1 = (first state).1 ∧
    (second (first state).2).1 = (second state).1 ∧
      (first (second state).2).2 = (second (first state).2).2

/-- An operation that gives the same answer before and after another one, and changes the
state in a way that does not matter to the other one, commutes with it. -/
theorem CommuteAt.of_update {answer : α} (update : σ → σ)
    (before : first state = (answer, update state))
    (after : first (second state).2 = (answer, update (second state).2))
    (apart : second (update state) = ((second state).1, update (second state).2)) :
    CommuteAt first second state := by
  have updated : (first state).2 = update state := congrArg Prod.snd before
  refine ⟨?_, ?_, ?_⟩
  · rw [before, after]
  · rw [updated, apart]
  · rw [after, updated, apart]

/-- What is made of the answers does not matter. -/
theorem CommuteAt.map {α' β' : Type} (commute : CommuteAt first second state) (change : α → α')
    (other : β → β') :
    CommuteAt (fun reached => (change (first reached).1, (first reached).2))
      (fun reached => (other (second reached).1, (second reached).2)) state :=
  ⟨congrArg change commute.1, congrArg other commute.2.1, commute.2.2⟩

end

/-! ## Rings -/

namespace SlotRing

variable {ring : SlotRing}

/-- A slot is published and another one delivered, in either order. -/
theorem deliver_publish (waiting : 0 < ring.filled) :
    ring.publish.giveBack.deliver = ring.giveBack.deliver.publish := by
  have count : ring.filled + 1 - 1 = ring.filled - 1 + 1 := by omega
  simp only [publish, giveBack, deliver, next, count]

theorem free_publish (holds : 0 < ring.writing) : ring.publish.free = ring.free := by
  cases held : ring.held <;> simp [free, publish, held] <;> omega

theorem free_lend (ring : SlotRing) : ring.lend.free = ring.free - 1 := by
  cases held : ring.held <;> simp [free, lend, held] <;> omega

theorem free_le_giveBack (ring : SlotRing) : ring.free ≤ ring.giveBack.free := by
  cases held : ring.held <;> simp [free, giveBack, held]

/-- The slot that the device gets was filled before, so no room is lost by it. -/
theorem free_le_deliver (waiting : 0 < ring.filled) :
    ring.free ≤ ring.giveBack.deliver.free := by
  cases held : ring.held <;> simp [free, giveBack, deliver, held] <;> omega

/-- While something is filled and something is free, the next slot for the device is not the
next slot for the writer. -/
theorem Invariant.head_ne_tail (invariant : ring.Invariant) (waiting : 0 < ring.filled)
    (free : 0 < ring.free) : ring.head ≠ ring.tail := by
  intro same
  have apart := invariant.tail_free free
  rw [filledSlots_eq_head_cons invariant waiting, ← same] at apart
  simp at apart

end SlotRing

namespace Handover

variable {handover : Handover} {handle : Handle}

/-! ## Outcomes while nothing is pending -/

/-- The hand-over after the writer has got the slot at `tail`. -/
def lent (handover : Handover) : Handover := { handover with ring := handover.ring.lend }

/-- The hand-over after the writer was told of a fault. -/
def told (handover : Handover) : Handover := { handover with ring := handover.ring.writerTold }

/-- The hand-over after the writer has published its oldest slot. -/
def published (handover : Handover) : Handover :=
  { handover with
    ring := handover.ring.publish
    counters := handover.counters.countRelease }

/-- The hand-over after the device has got the slot at `head`. -/
def delivered (handover : Handover) : Handover :=
  { handover with
    slots := handover.slots.setTick handover.ring.head handover.clock
    ring := handover.ring.giveBack.deliver
    clock := handover.clock + handover.elementsPerSlot
    counters := handover.counters.countDelivery }

theorem acquire_of_notice (calm : handover.ring.pending = none) {fault : Fault}
    (notice : handover.ring.writerNotice = some fault) :
    handover.acquire = (.error (.fault fault), handover.told) := by
  rw [acquire, settle_of_calm calm, notice]
  rfl

theorem acquire_of_free (calm : handover.ring.pending = none)
    (nothing : handover.ring.writerNotice = none) (free : 0 < handover.ring.free) :
    handover.acquire =
      (.ok ⟨handover.ring.tailHandle, (handover.slots.tick? handover.ring.tail).getD 0⟩,
        handover.lent) := by
  rw [acquire, settle_of_calm calm, nothing]
  simp only [Nat.ne_of_gt free, if_false]
  rfl

theorem acquire_of_full (calm : handover.ring.pending = none)
    (nothing : handover.ring.writerNotice = none) (full : handover.ring.free = 0) :
    handover.acquire = (.error .timeout, handover) := by
  rw [acquire, settle_of_calm calm, nothing]
  simp only [full, if_true]

theorem release_of_stale (stale : handover.ring.isCurrent handle = false) :
    handover.release handle = (.ok (), handover) := by
  simp [release, stale]

theorem release_of_younger (current : handover.ring.isCurrent handle = true)
    (younger : handover.ring.isOldest handle = false) :
    handover.release handle = (.error (.invalidHandle handle.index), handover) := by
  simp [release, current, younger]

theorem release_of_oldest (current : handover.ring.isCurrent handle = true)
    (oldest : handover.ring.isOldest handle = true) :
    handover.release handle = (.ok (), handover.published) := by
  simp [release, current, oldest, published]

/-- The device gets the slot at `head`, whatever it held before. -/
theorem take_of_filled (calm : handover.ring.pending = none) (waiting : 0 < handover.ring.filled) :
    handover.take = (some ⟨handover.ring.headHandle, handover.clock⟩, handover.delivered) := by
  have filled : handover.giveBack.ring.filled ≠ 0 := Nat.ne_of_gt waiting
  rw [take, settle_of_calm calm, if_neg filled]
  rfl

/-! ## Two operations -/

section

variable {β : Type} {device : Handover → β × Handover}

/-- A release commutes with whatever leaves the slots of the writer alone and does not
depend on whether one of them was published. -/
theorem commuteAt_release
    (sameEpoch : (device handover).2.ring.isCurrent handle = handover.ring.isCurrent handle)
    (sameOldest : (device handover).2.ring.isOldest handle = handover.ring.isOldest handle)
    (apart : device handover.published = ((device handover).1, (device handover).2.published)) :
    CommuteAt (fun reached => reached.release handle) device handover := by
  cases current : handover.ring.isCurrent handle with
  | false =>
      rw [current] at sameEpoch
      exact .of_update id (release_of_stale current) (release_of_stale sameEpoch) rfl
  | true =>
      rw [current] at sameEpoch
      cases oldest : handover.ring.isOldest handle with
      | false =>
          rw [oldest] at sameOldest
          exact .of_update id (release_of_younger current oldest)
            (release_of_younger sameEpoch sameOldest) rfl
      | true =>
          rw [oldest] at sameOldest
          exact .of_update published (release_of_oldest current oldest)
            (release_of_oldest sameEpoch sameOldest) apart

/-- An acquisition commutes with whatever leaves the next slot for the writer alone and does
not depend on whether the writer has got it. -/
theorem commuteAt_acquire (calm : handover.ring.pending = none)
    (stillCalm : (device handover).2.ring.pending = none)
    (sameNotice : (device handover).2.ring.writerNotice = handover.ring.writerNotice)
    (free : 0 < handover.ring.free) (stillFree : handover.ring.free ≤ (device handover).2.ring.free)
    (sameTail : (device handover).2.ring.tailHandle = handover.ring.tailHandle)
    (sameTick : (device handover).2.slots.tick? (device handover).2.ring.tail =
      handover.slots.tick? handover.ring.tail)
    (apartLent : device handover.lent = ((device handover).1, (device handover).2.lent))
    (apartTold : device handover.told = ((device handover).1, (device handover).2.told)) :
    CommuteAt acquire device handover := by
  cases notice : handover.ring.writerNotice with
  | some fault =>
      rw [notice] at sameNotice
      exact .of_update told (acquire_of_notice calm notice)
        (acquire_of_notice stillCalm sameNotice) apartTold
  | none =>
      rw [notice] at sameNotice
      have later := acquire_of_free stillCalm sameNotice (free.trans_le stillFree)
      rw [sameTail, sameTick] at later
      exact .of_update lent (acquire_of_free calm notice free) later apartLent

end

/-- A slot is released at one end of the filled ones and delivered at the other. -/
theorem commuteAt_release_take (calm : handover.ring.pending = none)
    (waiting : 0 < handover.ring.filled) (handle : Handle) :
    CommuteAt (fun reached => reached.release handle) take handover := by
  have delivers := take_of_filled calm waiting
  have deliversThen : handover.published.take =
      (some ⟨handover.ring.headHandle, handover.clock⟩, handover.published.delivered) :=
    take_of_filled calm (Nat.succ_pos _)
  refine commuteAt_release ?_ ?_ ?_
  · rw [delivers]
    rfl
  · rw [delivers]
    rfl
  · rw [delivers, deliversThen, delivered, delivered, published, published]
    simp only [SlotRing.deliver_publish waiting]
    rfl

theorem commuteAt_release_skip (handover : Handover) (handle : Handle) :
    CommuteAt (fun reached => reached.release handle) (fun reached => ((), reached.skip))
      handover :=
  commuteAt_release rfl rfl rfl

/-- The slot that the writer gets is not the one that is stamped for the device. -/
theorem commuteAt_acquire_take (invariant : handover.ring.Invariant)
    (stamped : handover.ring.capacity = handover.slots.capacity)
    (calm : handover.ring.pending = none) (waiting : 0 < handover.ring.filled)
    (free : 0 < handover.ring.free) : CommuteAt acquire take handover := by
  have delivers := take_of_filled calm waiting
  have deliversLent : handover.lent.take =
      (some ⟨handover.ring.headHandle, handover.clock⟩, handover.lent.delivered) :=
    take_of_filled calm waiting
  have deliversTold : handover.told.take =
      (some ⟨handover.ring.headHandle, handover.clock⟩, handover.told.delivered) :=
    take_of_filled calm waiting
  have inside : handover.ring.tail < handover.slots.capacity := stamped ▸ invariant.tailInside
  have apart := invariant.head_ne_tail waiting free
  refine commuteAt_acquire calm ?_ ?_ free ?_ ?_ ?_ ?_ ?_ <;> rw [delivers]
  · exact calm
  · rfl
  · exact SlotRing.free_le_deliver waiting
  · rfl
  · exact (handover.slots.tick?_setTick _ _ inside).trans (if_neg apart)
  · exact deliversLent
  · exact deliversTold

theorem commuteAt_acquire_skip (calm : handover.ring.pending = none)
    (free : 0 < handover.ring.free) :
    CommuteAt acquire (fun reached => ((), reached.skip)) handover :=
  commuteAt_acquire calm calm rfl free handover.ring.free_le_giveBack rfl rfl rfl rfl

end Handover

/-! ## Rows of steps -/

/-- What the writer asks of a hand-over. -/
inductive WriterStep where
  | acquire
  | release (handle : Handle)
  deriving DecidableEq, Repr

/-- Does one step of the writer; the answer tells the slot that it got. -/
def WriterStep.run : WriterStep → Handover → Except StreamError (Option Grant) × Handover
  | .acquire, handover => (handover.acquire.1.map some, handover.acquire.2)
  | .release handle, handover =>
      ((handover.release handle).1.map fun _ => none, (handover.release handle).2)

/-- The same step as a request. -/
def WriterStep.request : WriterStep → HandoverRequest
  | .acquire => .acquire
  | .release handle => .release handle

theorem WriterStep.run_snd (step : WriterStep) (handover : Handover) :
    (step.run handover).2 = step.request.run handover := by
  cases step <;> rfl

/-- A step of either side. -/
abbrev SideStep := WriterStep ⊕ DeviceStep

/-- The steps of the writer in a row of steps. -/
def writerSteps (steps : List SideStep) : List WriterStep := steps.filterMap Sum.getLeft?

/-- The steps of the device in a row of steps. -/
def deviceSteps (steps : List SideStep) : List DeviceStep := steps.filterMap Sum.getRight?

/-- The row in which the writer is done before the device begins. -/
def sortedSteps (writers : List WriterStep) (devices : List DeviceStep) : List SideStep :=
  writers.map .inl ++ devices.map .inr

/-- What both sides are answered in a row of steps, and the hand-over that it leads to. -/
structure Observation where
  writer : List (Except StreamError (Option Grant))
  device : List (Option Grant)
  reached : Handover

namespace Handover

variable {handover : Handover} {writers : List WriterStep} {devices : List DeviceStep}
  {writer : WriterStep} {device : DeviceStep}

/-- Does a row of steps, and notes the answers of both sides apart. -/
def observe : Handover → List SideStep → Observation
  | handover, [] => ⟨[], [], handover⟩
  | handover, .inl step :: steps =>
      let rest := (step.run handover).2.observe steps
      { rest with writer := (step.run handover).1 :: rest.writer }
  | handover, .inr step :: steps =>
      let rest := (step.run handover).2.observe steps
      { rest with device := (step.run handover).1 :: rest.device }

/-- Nothing is pending, and there is room for a row of steps of the writer and a row of steps
of the device, none of which raises a fault. -/
structure Roomy (handover : Handover) (writers : List WriterStep) (devices : List DeviceStep) :
    Prop where
  invariant : handover.ring.Invariant
  stamped : handover.ring.capacity = handover.slots.capacity
  calm : handover.ring.pending = none
  free : writers.count .acquire ≤ handover.ring.free
  filled : devices.count .take ≤ handover.ring.filled
  faultless : ∀ fault, .raise fault ∉ devices

namespace Roomy

theorem free_pos (roomy : handover.Roomy (.acquire :: writers) devices) :
    0 < handover.ring.free := by
  have free := roomy.free
  rw [List.count_cons_self] at free
  omega

theorem filled_pos (roomy : handover.Roomy writers (.take :: devices)) :
    0 < handover.ring.filled := by
  have filled := roomy.filled
  rw [List.count_cons_self] at filled
  omega

/-- A slot that the writer gets was counted in, and one that it publishes is one more for the
device. -/
theorem writerStep (roomy : handover.Roomy (writer :: writers) devices) :
    (writer.run handover).2.Roomy writers devices := by
  have invariant := invariant_run roomy.invariant writer.request
  have stamped := ((capacity_run handover writer.request).trans roomy.stamped).trans
    (slotCount_run handover writer.request).symm
  rw [← writer.run_snd] at invariant stamped
  have free := roomy.free
  have filled := roomy.filled
  suffices room : (writer.run handover).2.ring.pending = none ∧
      writers.count .acquire ≤ (writer.run handover).2.ring.free ∧
        handover.ring.filled ≤ (writer.run handover).2.ring.filled from
    ⟨invariant, stamped, room.1, room.2.1, filled.trans room.2.2, roomy.faultless⟩
  cases writer with
  | acquire =>
      rw [List.count_cons_self] at free
      cases notice : handover.ring.writerNotice with
      | some fault =>
          rw [WriterStep.run, acquire_of_notice roomy.calm notice]
          exact ⟨roomy.calm, Nat.le_of_succ_le free, Nat.le_refl _⟩
      | none =>
          rw [WriterStep.run, acquire_of_free roomy.calm notice roomy.free_pos]
          refine ⟨roomy.calm, ?_, Nat.le_refl _⟩
          show _ ≤ handover.ring.lend.free
          rw [SlotRing.free_lend]
          omega
  | release handle =>
      rw [List.count_cons_of_ne (by simp)] at free
      obtain ⟨-, same⟩ | ⟨-, -, same⟩ | ⟨current, oldest, same⟩ := handover.release_cases handle
      · rw [WriterStep.run, same]
        exact ⟨roomy.calm, free, Nat.le_refl _⟩
      · rw [WriterStep.run, same]
        exact ⟨roomy.calm, free, Nat.le_refl _⟩
      · rw [WriterStep.run, same]
        refine ⟨roomy.calm, ?_, Nat.le_succ _⟩
        show _ ≤ handover.ring.publish.free
        rwa [SlotRing.free_publish (SlotRing.eq_oldestHandle current oldest).1]

/-- A slot that the device gets was counted in, and what it gives back is one more for the
writer. -/
theorem deviceStep (roomy : handover.Roomy writers (device :: devices)) :
    (device.run handover).2.Roomy writers devices := by
  have filled := roomy.filled
  have faultless : ∀ fault, .raise fault ∉ devices := fun fault listed =>
    roomy.faultless fault (List.mem_cons_of_mem _ listed)
  cases device with
  | take =>
      rw [List.count_cons_self] at filled
      rw [DeviceStep.run, take_of_filled roomy.calm roomy.filled_pos]
      exact
        { invariant := roomy.invariant.giveBack.deliver roomy.filled_pos
          stamped := roomy.stamped.trans (Slots.capacity_setTick _ _ _).symm
          calm := roomy.calm
          free := roomy.free.trans (SlotRing.free_le_deliver roomy.filled_pos)
          filled := Nat.le_sub_one_of_lt filled
          faultless := faultless }
  | skip =>
      rw [List.count_cons_of_ne (by simp)] at filled
      exact
        { invariant := roomy.invariant.giveBack
          stamped := roomy.stamped
          calm := roomy.calm
          free := roomy.free.trans handover.ring.free_le_giveBack
          filled := filled
          faultless := faultless }
  | raise fault => exact absurd List.mem_cons_self (roomy.faultless fault)

theorem commute (roomy : handover.Roomy (writer :: writers) (device :: devices)) :
    CommuteAt writer.run device.run handover := by
  have calm := roomy.calm
  cases device with
  | take =>
      cases writer with
      | acquire =>
          exact (commuteAt_acquire_take roomy.invariant roomy.stamped calm roomy.filled_pos
            roomy.free_pos).map (Except.map some) id
      | release handle =>
          exact (commuteAt_release_take calm roomy.filled_pos handle).map
            (Except.map fun _ => none) id
  | skip =>
      cases writer with
      | acquire =>
          exact (commuteAt_acquire_skip calm roomy.free_pos).map (Except.map some)
            fun _ => none
      | release handle =>
          exact (handover.commuteAt_release_skip handle).map (Except.map fun _ => none)
            fun _ => none
  | raise fault => exact absurd List.mem_cons_self (roomy.faultless fault)

end Roomy

/-- Two steps of different sides that follow each other can be exchanged if they commute. -/
theorem observe_exchange (commute : CommuteAt writer.run device.run handover)
    (rest : List SideStep) :
    handover.observe (.inr device :: .inl writer :: rest) =
      handover.observe (.inl writer :: .inr device :: rest) := by
  obtain ⟨sameWriter, sameDevice, sameReached⟩ := commute
  simp only [observe, sameWriter, sameDevice, sameReached]

/-- A step of the device can be put off until a row of steps of the writer is done. -/
theorem observe_putOff (roomy : handover.Roomy writers (device :: devices))
    (rest : List SideStep) :
    handover.observe (.inr device :: (writers.map .inl ++ rest)) =
      handover.observe (writers.map .inl ++ .inr device :: rest) := by
  induction writers generalizing handover with
  | nil => rfl
  | cons writer writers inductionHypothesis =>
      rw [List.map_cons, List.cons_append, List.cons_append, observe_exchange roomy.commute]
      have later := inductionHypothesis roomy.writerStep
      rw [observe, observe, later]

/-- A row of steps is as good as the one in which the writer is done first. -/
theorem observe_eq_sorted {steps : List SideStep}
    (roomy : handover.Roomy (writerSteps steps) (deviceSteps steps)) :
    handover.observe steps =
      handover.observe (sortedSteps (writerSteps steps) (deviceSteps steps)) := by
  induction steps generalizing handover with
  | nil => rfl
  | cons step steps inductionHypothesis =>
      cases step with
      | inl writer =>
          have later := inductionHypothesis roomy.writerStep
          show handover.observe (.inl writer :: steps) = handover.observe
            (.inl writer :: sortedSteps (writerSteps steps) (deviceSteps steps))
          rw [observe, observe, later]
      | inr device =>
          have later := inductionHypothesis roomy.deviceStep
          have putOff := observe_putOff roomy ((deviceSteps steps).map .inr)
          calc handover.observe (.inr device :: steps)
              = handover.observe
                  (.inr device :: sortedSteps (writerSteps steps) (deviceSteps steps)) := by
                rw [observe, observe, later]
            _ = handover.observe
                  (sortedSteps (writerSteps (.inr device :: steps))
                    (deviceSteps (.inr device :: steps))) := putOff

/-! ## Timing -/

/-- Neither side of a hand-over can observe when the other one is served. -/
structure HidesTiming (handover : Handover) : Prop where
  release_take : 0 < handover.ring.filled → ∀ handle : Handle,
    CommuteAt (fun reached => reached.release handle) take handover
  release_skip : ∀ handle : Handle,
    CommuteAt (fun reached => reached.release handle) (fun reached => ((), reached.skip)) handover
  acquire_take : 0 < handover.ring.filled → 0 < handover.ring.free →
    CommuteAt acquire take handover
  acquire_skip : 0 < handover.ring.free →
    CommuteAt acquire (fun reached => ((), reached.skip)) handover
  /-- The same for rows of steps: the answers of both sides and the hand-over afterwards do not
  depend on how the steps of the two follow each other. -/
  rows : ∀ (writers : List WriterStep) (devices : List DeviceStep),
    writers.count .acquire ≤ handover.ring.free → devices.count .take ≤ handover.ring.filled →
      (∀ fault, .raise fault ∉ devices) →
        ∀ steps : List SideStep, writerSteps steps = writers → deviceSteps steps = devices →
          handover.observe steps = handover.observe (sortedSteps writers devices)

/-- **Writer and device commute in steady state**: whatever was asked of a hand-over with at
least one slot, as long as nothing is pending and each side finds the slots that it needs,
neither of them can observe the other's timing. -/
theorem timing_hidden (slots : Slots) (elementsPerSlot : Nat) (nonempty : 0 < slots.capacity)
    (requests : List HandoverRequest)
    (calm : ((create slots elementsPerSlot).after requests).hasPendingEvent = false) :
    ((create slots elementsPerSlot).after requests).HidesTiming := by
  have invariant := invariant_after (invariant_create slots elementsPerSlot nonempty) requests
  have stamped : ((create slots elementsPerSlot).after requests).ring.capacity =
      ((create slots elementsPerSlot).after requests).slots.capacity :=
    (capacity_after _ requests).trans (slotCount_after (create slots elementsPerSlot) requests).symm
  rw [hasPendingEvent_eq_false_iff] at calm
  exact
    { release_take := fun waiting handle => commuteAt_release_take calm waiting handle
      release_skip := fun handle => commuteAt_release_skip _ handle
      acquire_take := fun waiting free => commuteAt_acquire_take invariant stamped calm waiting free
      acquire_skip := fun free => commuteAt_acquire_skip calm free
      rows := by
        rintro writers devices free filled faultless steps rfl rfl
        exact observe_eq_sorted ⟨invariant, stamped, calm, free, filled, faultless⟩ }

/-- A ring of four slots with one slot on air, one filled, one with the writer and one free. -/
theorem timing_hidden_four :
    let handover := (create (Slots.silent 4 1 4) 4).after
      [.acquire, .release ⟨0, 0⟩, .acquire, .release ⟨1, 0⟩, .take, .acquire]
    let steps : List SideStep :=
      [.inl (.release ⟨2, 0⟩), .inr .take, .inl .acquire, .inr .skip, .inl (.release ⟨7, 1⟩)]
    0 < (Slots.silent 4 1 4).capacity ∧ handover.hasPendingEvent = false ∧
      handover.ring.held = some 0 ∧ handover.ring.filledSlots = [1] ∧
      handover.ring.writerSlots = [2] ∧ handover.ring.free = 1 ∧ handover.HidesTiming ∧
      handover.observe steps =
        handover.observe (sortedSteps (writerSteps steps) (deviceSteps steps)) := by
  intro handover steps
  have hidden := timing_hidden (Slots.silent 4 1 4) 4 (by decide)
    [.acquire, .release ⟨0, 0⟩, .acquire, .release ⟨1, 0⟩, .take, .acquire] (by decide)
  exact ⟨by decide, by decide, by decide, by decide, by decide, by decide, hidden,
    hidden.rows _ _ (by decide) (by decide) (by simp [steps, deviceSteps]) steps rfl rfl⟩

end Handover

end DacStream
