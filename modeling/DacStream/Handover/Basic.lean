import DacStream.Handover.SlotRing
import DacStream.Handover.Slots

/-!
# Slot hand-over

A hand-over joins a ring with the memory of its slots, the clock of the device
and the counters.  The writer acquires slots and releases them in the order in
which it acquired them; the device takes the filled ones.

The clock counts elements.  Every transfer moves it on by the elements of one
slot, whether the slot came from the ring or not, and the slot that goes on air
is stamped with the tick at which it starts.  Clock and counters are 64 bits
wide and wrap around.
-/

namespace DacStream

set_option autoImplicit false

/-! ## Counters -/

/-- What happened on a hand-over so far. -/
structure Counters where
  /-- Slots published by the writer. -/
  released : UInt64 := 0
  /-- Slots given to the device. -/
  delivered : UInt64 := 0
  /-- Underflows raised. -/
  underflows : UInt64 := 0
  /-- Overflows raised. -/
  overflows : UInt64 := 0
  /-- Filled slots and slots of the writer thrown away by drains. -/
  discarded : UInt64 := 0
  /-- Drains for a reset. -/
  resets : UInt64 := 0
  deriving DecidableEq, Repr

namespace Counters

/-- Counts a slot published. -/
def countRelease (counters : Counters) : Counters :=
  { counters with released := counters.released + 1 }

/-- Counts a slot given to the device. -/
def countDelivery (counters : Counters) : Counters :=
  { counters with delivered := counters.delivered + 1 }

/-- Counts a fault. -/
def countFault (counters : Counters) : Fault → Counters
  | .underflow => { counters with underflows := counters.underflows + 1 }
  | .overflow => { counters with overflows := counters.overflows + 1 }

/-- Counts what settling a ring does. -/
def countSettling (counters : Counters) (ring : SlotRing) : Counters :=
  match ring.pending with
  | none => counters
  | some .reset =>
      { counters with
        discarded := counters.discarded + UInt64.ofNat ring.inFlight
        resets := counters.resets + 1 }
  | some .fault =>
      { counters with discarded := counters.discarded + UInt64.ofNat ring.inFlight }

end Counters

/-! ## Hand-overs -/

/-- The state of a hand-over. -/
structure Handover where
  slots : Slots
  /-- The elements of one slot, by which a transfer moves the clock on. -/
  elementsPerSlot : UInt64
  ring : SlotRing
  /-- The elements transmitted so far, silence included. -/
  clock : UInt64 := 0
  counters : Counters := {}
  deriving DecidableEq, Repr

/-- A slot that one side has got, with its tick. -/
structure Grant where
  handle : Handle
  tick : UInt64
  deriving DecidableEq, Repr

/-- How many slots are where. -/
structure Occupancy where
  capacity : Nat
  filled : Nat
  writing : Nat
  /-- Whether the device holds a slot. -/
  transmitting : Bool
  free : Nat
  deriving DecidableEq, Repr

namespace Handover

/-- A hand-over in which every slot is free. -/
def create (slots : Slots) (elementsPerSlot : Nat) : Handover where
  slots := slots
  elementsPerSlot := UInt64.ofNat elementsPerSlot
  ring := { capacity := slots.capacity }

/-- How many slots are where. -/
def occupancy (handover : Handover) : Occupancy where
  capacity := handover.ring.capacity
  filled := handover.ring.filled
  writing := handover.ring.writing
  transmitting := handover.ring.held.isSome
  free := handover.ring.free

/-- Whether a reset or a fault waits to be settled. -/
def hasPendingEvent (handover : Handover) : Bool := handover.ring.pending.isSome

/-! ## Parts of the operations -/

/-- Settles what is pending. -/
def settle (handover : Handover) : Handover :=
  { handover with
    ring := handover.ring.settle
    counters := handover.counters.countSettling handover.ring }

/-- Moves the clock on by one transfer. -/
def tickOn (handover : Handover) : Handover :=
  { handover with clock := handover.clock + handover.elementsPerSlot }

/-- The device gives back the slot it holds. -/
def giveBack (handover : Handover) : Handover :=
  { handover with ring := handover.ring.giveBack }

/-! ## The writer -/

/-- The writer asks for a free slot.  What is pending is settled first; a fault
that the writer was not told yet is reported instead of a slot. -/
def acquire (handover : Handover) : Except StreamError Grant × Handover :=
  let settled := handover.settle
  match settled.ring.writerNotice with
  | some fault => (.error (.fault fault), { settled with ring := settled.ring.writerTold })
  | none =>
      if settled.ring.free = 0 then (.error .timeout, settled)
      else
        (.ok ⟨settled.ring.tailHandle, (settled.slots.tick? settled.ring.tail).getD 0⟩,
          { settled with ring := settled.ring.lend })

/-- The writer publishes its oldest slot.  A handle from before the last drain
is passed over. -/
def release (handover : Handover) (handle : Handle) : Except StreamError Unit × Handover :=
  if !handover.ring.isCurrent handle then (.ok (), handover)
  else if !handover.ring.isOldest handle then (.error (.invalidHandle handle.index), handover)
  else
    (.ok (),
      { handover with
        ring := handover.ring.publish
        counters := handover.counters.countRelease })

/-! ## Faults and resets -/

/-- Raises a fault. -/
def raise (handover : Handover) (fault : Fault) : Handover :=
  { handover with
    ring := handover.ring.raise fault
    counters := handover.counters.countFault fault }

/-- Asks for a reset. -/
def requestReset (handover : Handover) : Handover :=
  { handover with ring := handover.ring.requestReset }

/-- Reports the fault that no status query has reported yet. -/
def pollFault (handover : Handover) : Option Fault × Handover :=
  (handover.ring.statusNotice, { handover with ring := handover.ring.statusTold })

/-- Empties the ring at once and forgets every event.  The device must not be
transmitting. -/
def restart (handover : Handover) : Handover :=
  { handover with ring := handover.ring.restart }

/-- Sets the clock. -/
def setClock (handover : Handover) (clock : UInt64) : Handover :=
  { handover with clock := clock }

/-! ## The device -/

/-- The device asks for the next slot and gives back the last one.  Running dry
after a delivery raises an underflow. -/
def take (handover : Handover) : Option Grant × Handover :=
  let ready := handover.settle.giveBack
  if ready.ring.filled = 0 then
    let dry : Handover := { ready with ring := ready.ring.runDry }
    (none, (if ready.ring.primed then dry.raise .underflow else dry).tickOn)
  else
    let index := ready.ring.head
    let delivered : Handover :=
      { ready with
        slots := ready.slots.setTick index ready.clock
        ring := ready.ring.deliver
        counters := ready.counters.countDelivery }
    (some ⟨ready.ring.headHandle, ready.clock⟩, delivered.tickOn)

/-- The device gives back its slot and goes without one for a transfer. -/
def skip (handover : Handover) : Handover := handover.giveBack.tickOn

end Handover

end DacStream
