import DacStream.Proofs.FeedRuns
import Mathlib.Data.List.DropRight

/-!
# The clock of the device

The clock tells how many elements the device has transmitted.  Every transfer moves it on by
the elements of one slot, whether a slot was served, the ring was dry, or the transfer was
refused, and nothing else moves it but being set.  So it is told from the history of a run:
it is what it was set to last, and one slot for each transfer since then, in 64 bits.

A slot that goes on air is stamped with the clock as the transfer finds it.  The writer that
gets the slot later is shown this stamp, whatever the ring went through in between, or zero
if the slot was never on air (`Handover.KeepsTime`).
-/

namespace DacStream

set_option autoImplicit false

/-! ## The clock as its history tells it -/

namespace FeedRequest

/-- What a request sets the clock to, if it does so. -/
def setsClock? : FeedRequest → Option UInt64
  | .ask (.setClock clock) => some clock
  | _ => none

/-- Whether the device comes for a transfer, through a feed or by itself. -/
def isTransfer : FeedRequest → Bool
  | .transfer _ _ | .ask .take | .ask .skip => true
  | _ => false

/-- What the clock was set to last; it begins at zero. -/
def clockSetLast (history : List FeedRequest) : UInt64 :=
  (history.filterMap setsClock?).getLast?.getD 0

/-- How many transfers there were since the clock was set last. -/
def transfersSince (history : List FeedRequest) : Nat :=
  (history.rtakeWhile fun request => request.setsClock?.isNone).countP isTransfer

theorem clockSetLast_append_singleton (history : List FeedRequest) (request : FeedRequest) :
    clockSetLast (history ++ [request]) = request.setsClock?.getD (clockSetLast history) := by
  cases sets : request.setsClock? <;> simp [clockSetLast, sets]

theorem transfersSince_append_singleton (history : List FeedRequest) (request : FeedRequest) :
    transfersSince (history ++ [request]) =
      if request.setsClock?.isSome then 0
      else transfersSince history + if request.isTransfer then 1 else 0 := by
  cases sets : request.setsClock? <;>
    simp [transfersSince, sets, List.countP_append]

/-- A transfer does not set the clock. -/
theorem setsClock?_of_isTransfer {request : FeedRequest} (transfers : request.isTransfer = true) :
    request.setsClock? = none := by
  fun_cases setsClock? request
  · exact nomatch transfers
  · rfl

end FeedRequest

/-! ## The slots that went on air -/

/-- A slot that the device got, and the clock as it was then. -/
structure Delivery where
  index : Nat
  clock : UInt64
  deriving DecidableEq, Repr

/-- The delivery that a request makes: the device holds a slot after a transfer exactly if it
got this slot by it. -/
def FeedRequest.delivery? (request : FeedRequest) (handover : Handover) : Option Delivery :=
  if request.isTransfer then (request.run handover).ring.held.map (⟨·, handover.clock⟩) else none

/-- The deliveries of a run, the first one first. -/
def Handover.deliveries (handover : Handover) : List FeedRequest → List Delivery
  | [] => []
  | request :: requests =>
      (request.delivery? handover).toList ++ (request.run handover).deliveries requests

/-- The clock as it was when a slot was delivered last, or zero if it never was. -/
def Delivery.lastOf (deliveries : List Delivery) (index : Nat) : UInt64 :=
  ((deliveries.filter fun delivery => delivery.index == index).getLast?.map Delivery.clock).getD 0

theorem Delivery.lastOf_append_singleton (deliveries : List Delivery) (delivery : Delivery)
    (index : Nat) :
    lastOf (deliveries ++ [delivery]) index =
      if delivery.index = index then delivery.clock else lastOf deliveries index := by
  by_cases same : delivery.index = index <;> simp [lastOf, List.filter_append, same]

namespace Handover

theorem deliveries_append (handover : Handover) (requests more : List FeedRequest) :
    handover.deliveries (requests ++ more) =
      handover.deliveries requests ++ (handover.fed requests).deliveries more := by
  induction requests generalizing handover with
  | nil => rfl
  | cons request requests inductionHypothesis =>
      rw [List.cons_append, deliveries, deliveries, inductionHypothesis, List.append_assoc,
        fed_cons]

theorem deliveries_append_singleton (handover : Handover) (requests : List FeedRequest)
    (request : FeedRequest) :
    handover.deliveries (requests ++ [request]) =
      handover.deliveries requests ++ (request.delivery? (handover.fed requests)).toList := by
  rw [deliveries_append, deliveries, deliveries, List.append_nil]

end Handover

/-! ## What one request does to the clock and to the stamps -/

namespace Handover

variable {handover later : Handover}

/-- What a transfer does: the clock moves on by one slot, and the slot that the device has
got, if any, is stamped with the clock as it was. -/
structure TicksOn (handover later : Handover) : Prop where
  advanced : later.clock = handover.clock + handover.elementsPerSlot
  stamped : ∀ index < handover.slots.capacity, later.slots.tick? index =
    if later.ring.held = some index then some handover.clock else handover.slots.tick? index

theorem ticksOn_take (handover : Handover) : handover.TicksOn handover.take.2 := by
  unfold take
  by_cases empty : handover.settle.giveBack.ring.filled = 0
  · rw [if_pos empty]
    split <;> exact ⟨rfl, fun _ _ => rfl⟩
  · rw [if_neg empty]
    refine ⟨rfl, fun index inside => ?_⟩
    refine (handover.slots.tick?_setTick _ _ inside).trans ?_
    simp only [tickOn, SlotRing.deliver, Option.some.injEq]
    rfl

theorem ticksOn_skip (handover : Handover) : handover.TicksOn handover.skip :=
  ⟨rfl, fun _ _ => rfl⟩

/-- A fault raised with a transfer changes nothing of that. -/
theorem TicksOn.raise (ticksOn : handover.TicksOn later) (fault : Fault) :
    handover.TicksOn (later.raise fault) :=
  ⟨ticksOn.advanced, ticksOn.stamped⟩

theorem ticksOn_transfer (handover : Handover) (feed : Feed) (request : TransferRequest) :
    handover.TicksOn (feed.transfer request handover).2 := by
  cases served : request.isServed handover.slots.channelLength with
  | true =>
      rw [feed.transfer_of_served request handover served]
      exact handover.ticksOn_take
  | false =>
      rw [feed.transfer_of_refused request handover served]
      exact handover.ticksOn_skip.raise .underflow

/-- Every transfer counts once, whatever becomes of it. -/
theorem ticksOn_run (handover : Handover) {request : FeedRequest}
    (transfers : request.isTransfer = true) : handover.TicksOn (request.run handover) := by
  cases request with
  | transfer feed asked => exact handover.ticksOn_transfer feed asked
  | fill => exact nomatch transfers
  | ask asked =>
      cases asked with
      | take => exact handover.ticksOn_take
      | skip => exact handover.ticksOn_skip
      | acquire | release | requestReset | raise | pollFault | restart | setClock =>
          exact nomatch transfers

/-- What is not a transfer moves the clock only by setting it. -/
theorem clock_run_of_not_transfer (handover : Handover) {request : FeedRequest}
    (other : request.isTransfer = false) :
    (request.run handover).clock = request.setsClock?.getD handover.clock := by
  cases request with
  | transfer => cases other
  | fill => rfl
  | ask asked =>
      cases leaves : asked.leavesClock with
      | true =>
          have unset : (FeedRequest.ask asked).setsClock? = none := by
            cases asked with
            | setClock => cases leaves
            | _ => rfl
          obtain ⟨ring, counters, same⟩ := handover.run_of_leavesClock leaves
          rw [unset, FeedRequest.run, same]
          rfl
      | false =>
          obtain rfl | rfl | ⟨clock, rfl⟩ := HandoverRequest.cases_of_not_leavesClock leaves
          · cases other
          · cases other
          · rfl

/-- One request moves the clock on if it is a transfer, and else leaves it or sets it. -/
theorem clock_run (handover : Handover) (request : FeedRequest) :
    (request.run handover).clock =
      if request.isTransfer then handover.clock + handover.elementsPerSlot
      else request.setsClock?.getD handover.clock := by
  cases transfers : request.isTransfer with
  | true => exact (handover.ticksOn_run transfers).advanced
  | false => exact handover.clock_run_of_not_transfer transfers

/-- What is not a transfer stamps no slot. -/
theorem tick?_run_of_not_transfer (handover : Handover) {request : FeedRequest}
    (other : request.isTransfer = false) (index : Nat) :
    (request.run handover).slots.tick? index = handover.slots.tick? index := by
  cases request with
  | transfer => cases other
  | fill place content => exact handover.slots.tick?_modify place _ index
  | ask asked =>
      cases leaves : asked.leavesClock with
      | true =>
          obtain ⟨ring, counters, same⟩ := handover.run_of_leavesClock leaves
          rw [FeedRequest.run, same]
      | false =>
          obtain rfl | rfl | ⟨clock, rfl⟩ := HandoverRequest.cases_of_not_leavesClock leaves
          · cases other
          · cases other
          · rfl

/-- The step of the clock stays as it was made. -/
theorem elementsPerSlot_feedRequest (handover : Handover) (request : FeedRequest) :
    (request.run handover).elementsPerSlot = handover.elementsPerSlot := by
  cases request with
  | ask asked => exact handover.elementsPerSlot_run asked
  | fill => rfl
  | transfer feed asked =>
      rw [FeedRequest.run, feed.transfer_snd]
      exact handover.elementsPerSlot_after _

/-! ## The clock and the stamps in a run -/

theorem elementsPerSlot_fed (handover : Handover) (history : List FeedRequest) :
    (handover.fed history).elementsPerSlot = handover.elementsPerSlot := by
  induction history generalizing handover with
  | nil => rfl
  | cons request history inductionHypothesis =>
      rw [fed_cons, inductionHypothesis, elementsPerSlot_feedRequest]

/-- The clock is what it was set to last, moved on by every transfer since then. -/
theorem clock_fed (fresh : handover.clock = 0) (history : List FeedRequest) :
    (handover.fed history).clock = FeedRequest.clockSetLast history +
      handover.elementsPerSlot * UInt64.ofNat (FeedRequest.transfersSince history) := by
  induction history using List.reverseRecOn with
  | nil =>
      show handover.clock = _
      rw [fresh]
      simp [FeedRequest.clockSetLast, FeedRequest.transfersSince]
  | append_singleton history request inductionHypothesis =>
      rw [fed_append, fed_cons, FeedRequest.clockSetLast_append_singleton,
        FeedRequest.transfersSince_append_singleton]
      show (request.run (handover.fed history)).clock = _
      rw [clock_run, inductionHypothesis, elementsPerSlot_fed]
      cases transfers : request.isTransfer with
      | true =>
          rw [FeedRequest.setsClock?_of_isTransfer transfers]
          simp [UInt64.mul_add, UInt64.add_assoc]
      | false => cases request.setsClock? <;> simp

/-- A slot bears the stamp of its last delivery. -/
theorem tick?_fed {capacity channels channelLength : Nat}
    (sound : handover.Sound capacity channels channelLength) {index : Nat}
    (inside : index < capacity) (unstamped : handover.slots.tick? index = some 0)
    (history : List FeedRequest) :
    (handover.fed history).slots.tick? index =
      some (Delivery.lastOf (handover.deliveries history) index) := by
  induction history using List.reverseRecOn with
  | nil => exact unstamped
  | append_singleton history request inductionHypothesis =>
      rw [fed_append, deliveries_append_singleton]
      show (request.run (handover.fed history)).slots.tick? index = _
      unfold FeedRequest.delivery?
      cases transfers : request.isTransfer with
      | true =>
          have there : index < (handover.fed history).slots.capacity := by
            rwa [(sound.fed history).memory.slotCount]
          rw [(ticksOn_run _ transfers).stamped index there, inductionHypothesis, if_pos rfl]
          cases held : (request.run (handover.fed history)).ring.held with
          | none => simp
          | some given =>
              simp only [Option.map_some, Option.toList_some, Delivery.lastOf_append_singleton,
                Option.some.injEq]
              split <;> rfl
      | false =>
          rw [tick?_run_of_not_transfer _ transfers, inductionHypothesis]
          simp

/-! ## What either side is shown -/

/-- The writer is shown the stamp of the slot at `tail`. -/
theorem tick_acquire {grant : Grant} (granted : handover.acquire.1 = .ok grant) :
    grant.handle.index = handover.settle.ring.tail ∧
      grant.tick = (handover.slots.tick? grant.handle.index).getD 0 := by
  unfold acquire at granted
  cases notice : handover.settle.ring.writerNotice with
  | some fault => simp [notice] at granted
  | none =>
      by_cases free : handover.settle.ring.free = 0
      · simp [notice, free] at granted
      · simp only [notice, if_neg free, Except.ok.injEq] at granted
        subst granted
        exact ⟨rfl, rfl⟩

/-- The device is shown the clock, and holds the slot that it is shown. -/
theorem tick_take {grant : Grant} (granted : handover.take.1 = some grant) :
    grant.tick = handover.clock ∧ handover.take.2.ring.held = some grant.handle.index := by
  obtain ⟨-, -, none, -⟩ | ⟨-, -, none, -⟩ | ⟨-, given, same⟩ := handover.take_cases
  · exact nomatch none.symm.trans granted
  · exact nomatch none.symm.trans granted
  · obtain rfl := Option.some.inj (given.symm.trans granted)
    exact ⟨rfl, by rw [same]; rfl⟩

/-- What it means that a hand-over keeps the time of the device, after a history and the
deliveries that it made. -/
structure KeepsTime (handover : Handover) (elementsPerSlot : Nat) (history : List FeedRequest)
    (deliveries : List Delivery) : Prop where
  /-- The clock is told from the history. -/
  clock : handover.clock.toNat =
    ((FeedRequest.clockSetLast history).toNat +
      elementsPerSlot * FeedRequest.transfersSince history) % 2 ^ 64
  /-- Every transfer moves it on, once, and nothing else does. -/
  moves : ∀ request : FeedRequest, (request.run handover).clock =
    if request.isTransfer then handover.clock + UInt64.ofNat elementsPerSlot
    else request.setsClock?.getD handover.clock
  /-- The slot that a transfer is served is stamped with the clock as it was before. -/
  served : ∀ request : FeedRequest, request.isTransfer = true → ∀ index,
    (request.run handover).ring.held = some index →
      (request.run handover).slots.tick? index = some handover.clock
  /-- So the device is shown it. -/
  taken : ∀ grant, handover.take.1 = some grant →
    grant.tick = handover.clock ∧ handover.take.2.ring.held = some grant.handle.index
  /-- Every slot bears the stamp of its last delivery. -/
  stamps : ∀ index < handover.ring.capacity,
    handover.slots.tick? index = some (Delivery.lastOf deliveries index)
  /-- So the writer is shown it. -/
  acquired : ∀ grant, handover.acquire.1 = .ok grant →
    grant.tick = Delivery.lastOf deliveries grant.handle.index

/-- **The clock of a hand-over is the clock of its device**, whatever was asked of the
hand-over and in which order: it counts every transfer once, slots are stamped with it as
they go on air, and the writer is shown the stamp of the slot that it gets. -/
theorem clock_counts_transfers {capacity : Nat} (nonempty : 0 < capacity)
    (channels channelLength elementsPerSlot : Nat) (history : List FeedRequest) :
    let fresh := create (Slots.silent capacity channels channelLength) elementsPerSlot
    (fresh.fed history).KeepsTime elementsPerSlot history (fresh.deliveries history) := by
  intro fresh
  have sound : fresh.Sound capacity channels channelLength :=
    .create nonempty channels channelLength elementsPerSlot
  have soundThen : (fresh.fed history).Sound capacity channels channelLength := sound.fed history
  have stamps (index : Nat) (inside : index < capacity) :
      (fresh.fed history).slots.tick? index =
        some (Delivery.lastOf (fresh.deliveries history) index) :=
    tick?_fed sound inside (Slots.tick?_silent _ _ _ inside) history
  refine
    { clock := ?_
      moves := ?_
      served := ?_
      taken := fun _ granted => tick_take granted
      stamps := fun index inside => stamps index (soundThen.slotCount ▸ inside)
      acquired := ?_ }
  · rw [clock_fed rfl]
    simp [fresh, create]
  · intro request
    rw [clock_run, elementsPerSlot_fed]
    rfl
  · intro request transfers index held
    have inside : index < (fresh.fed history).slots.capacity := by
      rw [soundThen.memory.slotCount, ← (soundThen.feedRequest request).slotCount]
      exact (soundThen.feedRequest request).ring.held_lt held
    rw [(ticksOn_run _ transfers).stamped index inside, if_pos held]
  · intro grant granted
    obtain ⟨place, shown⟩ := tick_acquire granted
    have inside : grant.handle.index < capacity := by
      rw [place, ← soundThen.slotCount, ← SlotRing.capacity_settle]
      exact soundThen.ring.settle.tailInside
    rw [shown, stamps _ inside, Option.getD_some]

/-- A clock that was set to 100, and then a slot that is served, a dry ring, a fault and a
transfer that is too long.  The slot keeps its stamp through the restart. -/
theorem clock_counts_transfers_four :
    let feed : Feed := ⟨[0], 1⟩
    let fresh := create (Slots.silent 2 1 4) 4
    let history : List FeedRequest :=
      [.ask .take, .ask (.setClock 100), .ask .acquire, .ask (.release ⟨0, 0⟩),
        .transfer feed { length := 4 }, .transfer feed { length := 4 },
        .transfer feed { length := 4, deviceError := true }, .transfer feed { length := 9 },
        .ask .acquire, .ask .restart]
    0 < 2 ∧ (fresh.fed history).clock = 116 ∧ fresh.deliveries history = [⟨0, 100⟩] ∧
      (fresh.fed history).acquire.1 = .ok ⟨⟨0, 2⟩, 100⟩ ∧
      (fresh.fed history).KeepsTime 4 history (fresh.deliveries history) := by
  intro feed fresh history
  exact ⟨by decide, by decide +kernel, by decide +kernel, by decide +kernel,
    clock_counts_transfers (by decide : 0 < 2) 1 4 4 history⟩

end Handover

end DacStream
