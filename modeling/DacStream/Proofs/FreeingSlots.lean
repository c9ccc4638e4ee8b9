import DacStream.Handover.Waiting
import DacStream.Proofs.SessionRuns
import DacStream.Proofs.SteadyState

/-!
# How the writer gets out of a full ring

A writer that holds no slot and still finds none free has filled the ring: every slot waits
for the device, but for the one that is on air.  It is up to the device then.  A transfer
frees the slot that was on air, if there was one, and puts another one on air.  So one
transfer makes room if the device holds a slot, and otherwise it takes two
(`Handover.transfersToRoom`).

The device must not run dry in the meantime, for then the writer would be told of an
underflow and lose what it has filled.  A ring of two slots is enough for that: each of
these transfers finds a filled slot (`Handover.Deliveries`).  It is also enough for a drain
to make room at once, although it leaves the slot on air to the device.
-/

namespace DacStream

set_option autoImplicit false

namespace Handover

variable {handover : Handover} {count : Nat}

/-! ## Transfers in a row -/

/-- A transfer gives the device a slot and raises nothing. -/
structure Serves (handover : Handover) : Prop where
  delivers : ∃ grant, handover.take.1 = some grant
  calm : handover.take.2.hasPendingEvent = false
  sameWriterNotice : handover.take.2.ring.writerNotice = handover.ring.writerNotice
  sameStatusNotice : handover.take.2.ring.statusNotice = handover.ring.statusNotice
  sameUnderflows : handover.take.2.counters.underflows = handover.counters.underflows

theorem serves_of_filled (calm : handover.ring.pending = none)
    (waiting : 0 < handover.ring.filled) : handover.Serves := by
  have delivers := take_of_filled calm waiting
  refine ⟨⟨_, congrArg Prod.fst delivers⟩, ?_, ?_, ?_, ?_⟩ <;> rw [delivers]
  · exact hasPendingEvent_eq_false_iff.mpr calm
  · rfl
  · rfl
  · rfl

/-- The hand-over after a row of transfers. -/
def afterTakes (handover : Handover) (count : Nat) : Handover :=
  handover.after (List.replicate count .take)

theorem afterTakes_succ (handover : Handover) (count : Nat) :
    handover.afterTakes (count + 1) = (handover.afterTakes count).take.2 := by
  rw [afterTakes, List.replicate_succ', after_append]
  rfl

/-- What a row of deliveries comes to. -/
structure Deliveries (handover : Handover) (count : Nat) : Prop where
  served : ∀ earlier < count, (handover.afterTakes earlier).Serves
  calm : (handover.afterTakes count).ring.pending = none
  notice : (handover.afterTakes count).ring.writerNotice = handover.ring.writerNotice
  filled : (handover.afterTakes count).ring.filled + count = handover.ring.filled
  writing : (handover.afterTakes count).ring.writing = handover.ring.writing
  onAir : 0 < count → (handover.afterTakes count).ring.held.isSome = true

/-- The device is served as long as there is something filled. -/
theorem deliveries_of_filled (calm : handover.ring.pending = none)
    (enough : count ≤ handover.ring.filled) :
    handover.Deliveries count := by
  induction count with
  | zero =>
      exact ⟨fun earlier below => absurd below earlier.not_lt_zero, calm, rfl, rfl, rfl,
        fun positive => absurd positive (Nat.lt_irrefl 0)⟩
  | succ count inductionHypothesis =>
      have before := inductionHypothesis (Nat.le_of_succ_le enough)
      have filled := before.filled
      have waiting : 0 < (handover.afterTakes count).ring.filled := by omega
      have delivers := take_of_filled before.calm waiting
      have reached : handover.afterTakes (count + 1) = (handover.afterTakes count).delivered := by
        rw [afterTakes_succ, delivers]
      refine ⟨?_, ?_, ?_, ?_, ?_, ?_⟩
      · intro earlier below
        obtain below | rfl := Nat.lt_succ_iff_lt_or_eq.mp below
        · exact before.served earlier below
        · exact serves_of_filled before.calm waiting
      · rw [reached]
        exact before.calm
      · rw [reached]
        exact before.notice
      · rw [reached]
        show (handover.afterTakes count).ring.filled - 1 + (count + 1) = handover.ring.filled
        omega
      · rw [reached]
        exact before.writing
      · intro _
        rw [reached]
        rfl

/-- Each delivery is room for the writer once it has been on air. -/
theorem Deliveries.free (invariant : handover.ring.Invariant)
    (deliveries : handover.Deliveries count) (positive : 0 < count) :
    (handover.afterTakes count).ring.free + 1 =
      handover.ring.free + handover.ring.held.toList.length + count := by
  have before := invariant.free_exact
  have afterwards := (invariant_after invariant (List.replicate count .take)).free_exact
  rw [capacity_after, ← afterTakes] at afterwards
  obtain ⟨index, onAir⟩ := Option.isSome_iff_exists.mp (deliveries.onAir positive)
  rw [onAir, Option.toList_some, List.length_singleton, deliveries.writing] at afterwards
  have filled := deliveries.filled
  omega

/-! ## A full ring -/

/-- The writer holds nothing, is to be told nothing, and finds nothing free. -/
structure Waits (handover : Handover) : Prop where
  calm : handover.hasPendingEvent = false
  untold : handover.ring.writerNotice = none
  empty : handover.ring.writing = 0
  timesOut : handover.acquire.1 = .error .timeout

/-- How many transfers it takes until something is free in a full ring. -/
def transfersToRoom (handover : Handover) : Nat := if handover.ring.held.isSome then 1 else 2

theorem transfersToRoom_le (handover : Handover) : handover.transfersToRoom ≤ 2 := by
  unfold transfersToRoom
  split <;> decide

theorem transfersToRoom_pos (handover : Handover) : 0 < handover.transfersToRoom := by
  unfold transfersToRoom
  split <;> decide

/-- A slot on air saves one transfer. -/
theorem transfersToRoom_eq (handover : Handover) :
    handover.transfersToRoom + handover.ring.held.toList.length = 2 := by
  cases held : handover.ring.held <;> simp [transfersToRoom, held]

namespace Waits

theorem pending (waits : handover.Waits) : handover.ring.pending = none :=
  hasPendingEvent_eq_false_iff.mp waits.calm

theorem full (waits : handover.Waits) : handover.ring.free = 0 := by
  by_contra room
  have granted := acquire_of_free waits.pending waits.untold (Nat.pos_of_ne_zero room)
  have timesOut := waits.timesOut
  rw [granted] at timesOut
  exact nomatch timesOut

/-- With two slots there is enough for the device until something is free. -/
theorem deliveries (waits : handover.Waits) (invariant : handover.ring.Invariant)
    (two : 2 ≤ handover.ring.capacity) (atMost : count ≤ handover.transfersToRoom) :
    handover.Deliveries count := by
  have exact := invariant.free_exact
  have room := handover.transfersToRoom_eq
  rw [waits.full, waits.empty] at exact
  exact deliveries_of_filled waits.pending (by omega)

/-- Until then the writer goes on waiting. -/
theorem acquire_before (waits : handover.Waits) (invariant : handover.ring.Invariant)
    (two : 2 ≤ handover.ring.capacity) (before : count < handover.transfersToRoom) :
    (handover.afterTakes count).acquire = (.error .timeout, handover.afterTakes count) := by
  have delivered := waits.deliveries invariant two (Nat.le_of_lt before)
  refine acquire_of_full delivered.calm (delivered.notice.trans waits.untold) ?_
  obtain rfl | positive := Nat.eq_zero_or_pos count
  · exact waits.full
  · have free := delivered.free invariant positive
    have room := handover.transfersToRoom_eq
    rw [waits.full] at free
    omega

/-- Then it gets a slot. -/
theorem acquire_then (waits : handover.Waits) (invariant : handover.ring.Invariant)
    (two : 2 ≤ handover.ring.capacity) :
    ∃ grant, (handover.afterTakes handover.transfersToRoom).acquire.1 = .ok grant := by
  have delivered := waits.deliveries invariant two (Nat.le_refl _)
  have free := delivered.free invariant handover.transfersToRoom_pos
  have room := handover.transfersToRoom_eq
  rw [waits.full] at free
  exact ⟨_, congrArg Prod.fst
    (acquire_of_free delivered.calm (delivered.notice.trans waits.untold) (by omega))⟩

end Waits

/-! ## Waiting through transfers -/

/-- A writer that waits while the device is served. -/
def acquireThroughTakes (handover : Handover) (transfers : Nat) :
    Except StreamError Grant × Handover :=
  attemptThrough acquire (List.replicate transfers fun reached => reached.take.2) handover

/-- It goes on waiting through transfers that make no room. -/
theorem acquireThroughTakes_of_full {transfers : Nat}
    (waits : ∀ earlier ≤ transfers, (handover.afterTakes earlier).acquire =
      (.error .timeout, handover.afterTakes earlier)) :
    handover.acquireThroughTakes transfers = (.error .timeout, handover.afterTakes transfers) := by
  induction transfers with
  | zero => exact waits 0 (Nat.le_refl 0)
  | succ transfers inductionHypothesis =>
      have sofar := inductionHypothesis fun earlier below => waits earlier (Nat.le_succ_of_le below)
      rw [acquireThroughTakes] at sofar ⊢
      rw [List.replicate_succ',
        attemptThrough_append_of_timeout (congrArg Prod.fst sofar), sofar, attemptThrough_nil,
        ← afterTakes_succ]
      exact waits (transfers + 1) (Nat.le_refl _)

/-- It gets the slot that becomes free, and does not wait for the transfers after that. -/
theorem acquireThroughTakes_of_room {transfers later : Nat} {grant : Grant}
    (waits : ∀ earlier ≤ transfers, (handover.afterTakes earlier).acquire =
      (.error .timeout, handover.afterTakes earlier))
    (granted : (handover.afterTakes (transfers + 1)).acquire.1 = .ok grant) :
    (handover.acquireThroughTakes (transfers + (later + 1))).1 = .ok grant := by
  have sofar := acquireThroughTakes_of_full waits
  rw [acquireThroughTakes] at sofar ⊢
  rw [List.replicate_add, List.replicate_succ,
    attemptThrough_append_of_timeout (congrArg Prod.fst sofar), sofar, ← afterTakes_succ,
    attemptThrough_of_ne_timeout (by rw [granted]; exact nofun), granted]

theorem Waits.acquireThroughTakes (waits : handover.Waits) (invariant : handover.ring.Invariant)
    (two : 2 ≤ handover.ring.capacity) {transfers : Nat} (enough : 2 ≤ transfers) :
    ∃ grant, (handover.acquireThroughTakes transfers).1 = .ok grant := by
  obtain ⟨grant, granted⟩ := waits.acquire_then invariant two
  obtain ⟨before, last⟩ := Nat.exists_eq_add_one.mpr handover.transfersToRoom_pos
  obtain ⟨later, rfl⟩ : ∃ later, transfers = before + (later + 1) := by
    have atMost := handover.transfersToRoom_le
    exact ⟨transfers - (before + 1), by omega⟩
  rw [last] at granted
  refine ⟨grant, acquireThroughTakes_of_room ?_ granted⟩
  intro earlier below
  exact waits.acquire_before invariant two (by omega)

/-! ## No deadlock -/

/-- The writer gets on, whatever the ring holds. -/
structure GetsOn (handover : Handover) : Prop where
  /-- A writer that holds nothing waits for two transfers at most.  Each of them finds a slot
  for the device, ... -/
  atMostTwo : handover.transfersToRoom ≤ 2
  served : handover.Waits → ∀ earlier < handover.transfersToRoom,
    (handover.afterTakes earlier).Serves
  /-- ... the writer gets nothing before the last of them ... -/
  waiting : handover.Waits → ∀ earlier < handover.transfersToRoom,
    (handover.afterTakes earlier).acquire = (.error .timeout, handover.afterTakes earlier)
  /-- ... and then it gets a slot. -/
  granted : handover.Waits →
    ∃ grant, (handover.afterTakes handover.transfersToRoom).acquire.1 = .ok grant
  /-- It is the same for an acquisition that waits in the meantime. -/
  waited : handover.Waits → ∀ transfers, 2 ≤ transfers →
    ∃ grant, (handover.acquireThroughTakes transfers).1 = .ok grant
  /-- A reset makes room at once. -/
  reset : handover.ring.pending = some .reset → ∃ tick,
    handover.acquire.1 = .ok ⟨⟨handover.ring.head, handover.ring.epoch + 1⟩, tick⟩

/-- Whatever a ring of two slots or more held, an acquisition that settles a reset succeeds. -/
theorem acquire_of_reset (two : 2 ≤ handover.ring.capacity)
    (reset : handover.ring.pending = some .reset) :
    ∃ tick, handover.acquire.1 = .ok ⟨⟨handover.ring.head, handover.ring.epoch + 1⟩, tick⟩ := by
  have settled : handover.settle.ring =
      { handover.ring.drain with pending := none, writerNotice := none, statusNotice := none } := by
    rw [settle, SlotRing.settle, reset]
  have nothing : handover.settle.ring.writerNotice = none := by rw [settled]
  have room : 0 < handover.settle.ring.free := by
    rw [settled]
    cases held : handover.ring.held <;> simp [SlotRing.free, SlotRing.drain, held] <;> omega
  obtain ⟨fault, notice, -⟩ | ⟨-, full, -⟩ | ⟨-, -, tick, same⟩ := handover.acquire_cases
  · rw [nothing] at notice
    cases notice
  · omega
  · refine ⟨tick, ?_⟩
    rw [same, settled]
    rfl

theorem GetsOn.of_invariant (invariant : handover.ring.Invariant)
    (two : 2 ≤ handover.ring.capacity) : handover.GetsOn := by
  refine ⟨handover.transfersToRoom_le, ?_, ?_, ?_, ?_, acquire_of_reset two⟩
  · intro waits
    exact (waits.deliveries invariant two (Nat.le_refl _)).served
  · intro waits earlier before
    exact waits.acquire_before invariant two before
  · intro waits
    exact waits.acquire_then invariant two
  · intro waits transfers enough
    exact waits.acquireThroughTakes invariant two enough

/-- **A ring of two slots cannot deadlock**: whatever was asked of a hand-over with at least
two slots, a writer that holds none of them and finds none free gets one after two transfers
at most, all of them served and none with an underflow, and a reset makes room at once. -/
theorem two_slots_never_deadlock (slots : Slots) (elementsPerSlot : Nat)
    (two : 2 ≤ slots.capacity) (requests : List HandoverRequest) :
    ((create slots elementsPerSlot).after requests).GetsOn := by
  have nonempty : 0 < slots.capacity := Nat.zero_lt_of_lt two
  have invariant := invariant_after (invariant_create slots elementsPerSlot nonempty) requests
  have sameCapacity := capacity_after (create slots elementsPerSlot) requests
  exact .of_invariant invariant (two.trans_eq sameCapacity.symm)

/-- Two full rings of two slots, one without and one with a slot on air, and one that is to be
reset while the device and the writer hold everything. -/
theorem two_slots_never_deadlock_full :
    let lent : List HandoverRequest := [.acquire, .release ⟨0, 0⟩, .acquire]
    let full := (create (.silent 2 1 4) 4).after (lent ++ [.release ⟨1, 0⟩])
    let onAir := (create (.silent 2 1 4) 4).after (lent ++ [.take, .release ⟨1, 0⟩])
    let reset := (create (.silent 2 1 4) 4).after (lent ++ [.take, .requestReset])
    2 ≤ (Slots.silent 2 1 4).capacity ∧
      full.Waits ∧ full.transfersToRoom = 2 ∧ full.GetsOn ∧
      onAir.Waits ∧ onAir.transfersToRoom = 1 ∧ onAir.GetsOn ∧
      reset.ring.pending = some .reset ∧ reset.ring.held = some 0 ∧ reset.ring.writing = 1 ∧
      reset.acquire.1 = .ok ⟨⟨1, 1⟩, 0⟩ ∧ reset.GetsOn :=
  ⟨by decide, ⟨by decide, by decide, by decide, by decide⟩, by decide,
    two_slots_never_deadlock _ 4 (by decide) _,
    ⟨by decide, by decide, by decide, by decide⟩, by decide,
    two_slots_never_deadlock _ 4 (by decide) _, by decide, by decide, by decide, by decide,
    two_slots_never_deadlock _ 4 (by decide) _⟩

/-- One slot is not enough: the device runs dry before the writer can get it back. -/
example :
    let handover := (create (.silent 1 1 4) 4).after [.acquire, .release ⟨0, 0⟩, .take]
    handover.acquire.1 = .error .timeout ∧ handover.take.1 = none ∧
      handover.take.2.acquire.1 = .error (.fault .underflow) := by
  decide

end Handover

/-- So the writer of a session always gets on: fewer slots are not accepted. -/
theorem Session.getsOn_after (requests : List SessionRequest) {stream : Stream}
    (has : (idle.after requests).stream? = some stream) : stream.handover.GetsOn := by
  have sound : stream.Sound := sound_idle.after requests stream has
  obtain ⟨request, limits, accepted⟩ := sound.accepted
  refine .of_invariant sound.ring ?_
  rw [sound.capacity]
  exact Stream.leastBufferCount_le accepted

end DacStream
