import DacStream.Sample.Bytes

/-!
# The memory of a ring

Every slot holds one payload per channel, all of one length, and the tick at
which it was last on air.  New payloads are silent.
-/

namespace DacStream

set_option autoImplicit false

/-- One slot of a ring. -/
structure Slot where
  /-- The tick at which the slot was last on air. -/
  tick : UInt64
  /-- The payload of each channel. -/
  payloads : List Bytes
  deriving DecidableEq, Repr

/-- The slots of a ring. -/
structure Slots where
  /-- The number of payloads in a slot. -/
  channels : Nat
  /-- The number of bytes in a payload. -/
  channelLength : Nat
  /-- The slots, in order. -/
  cells : List Slot
  deriving DecidableEq, Repr

/-- Why a ring cannot be made. -/
inductive SlotsError where
  | noSlots
  deriving DecidableEq, Repr

/-- The error in words. -/
def SlotsError.message : SlotsError → String
  | .noSlots => "slot store needs at least one slot"

namespace Slots

/-- Silent slots that were never on air. -/
def silent (capacity channels channelLength : Nat) : Slots where
  channels := channels
  channelLength := channelLength
  cells := List.replicate capacity ⟨0, List.replicate channels (Bytes.silence channelLength)⟩

/-- Silent slots, of which there must be one at least. -/
def create (capacity channels channelLength : Nat) : Except SlotsError Slots :=
  if capacity = 0 then .error .noSlots else .ok (silent capacity channels channelLength)

/-- The number of slots. -/
def capacity (slots : Slots) : Nat := slots.cells.length

/-- The tick of a slot. -/
def tick? (slots : Slots) (index : Nat) : Option UInt64 := slots.cells[index]?.map Slot.tick

/-- The payload of a slot on one channel. -/
def payload? (slots : Slots) (index channel : Nat) : Option Bytes :=
  slots.cells[index]?.bind fun cell => cell.payloads[channel]?

/-- Stamps a slot with a tick. -/
def setTick (slots : Slots) (index : Nat) (tick : UInt64) : Slots :=
  { slots with cells := slots.cells.modify index fun cell => { cell with tick := tick } }

/-- Changes the payloads of a slot, each in its own way. -/
def modify (slots : Slots) (index : Nat) (change : Nat → Bytes → Bytes) : Slots :=
  { slots with
    cells := slots.cells.modify index fun cell =>
      { cell with payloads := cell.payloads.mapIdx change } }

/-- Changes one payload of a slot. -/
def modifyChannel (slots : Slots) (index channel : Nat) (change : Bytes → Bytes) : Slots :=
  slots.modify index fun each payload => if each = channel then change payload else payload

/-- Puts bytes over the start of the payloads of a slot, cut to the length of the
payload.  Channels beyond the list are left as they are. -/
def fill (slots : Slots) (index : Nat) (content : List Bytes) : Slots :=
  slots.modify index fun channel payload =>
    match content[channel]? with
    | some bytes => payload.startWith bytes
    | none => payload

/-! ## Elementary facts -/

theorem capacity_setTick (slots : Slots) (index : Nat) (tick : UInt64) :
    (slots.setTick index tick).capacity = slots.capacity := by
  simp [capacity, setTick]

theorem tick?_setTick_self (slots : Slots) (index : Nat) (tick : UInt64)
    (inside : index < slots.capacity) : (slots.setTick index tick).tick? index = some tick := by
  have cell : index < slots.cells.length := inside
  simp [tick?, setTick, cell]

end Slots

end DacStream
