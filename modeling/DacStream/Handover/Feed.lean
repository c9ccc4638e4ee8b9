import DacStream.Device.Buffers
import DacStream.Device.Run
import DacStream.Handover.Basic

/-!
# Feeding the device

A feed answers the transfers of a device from a hand-over.  It always answers
with a whole buffer set: each channel of the device gets silence, unless a slot
was filled and the channel is selected, and then it gets the payload of the
stream channel that feeds it.

A transfer is refused if the device reports a fault with it, or if it is longer
than a slot.  The device then gives back its slot and an underflow is raised.
These are two steps, and a writer that waits for a slot can get the one given
back in between.
-/

namespace DacStream

set_option autoImplicit false

/-! ## Steps of the device -/

/-- What the device does to a hand-over in one step. -/
inductive DeviceStep where
  | take
  | skip
  | raise (fault : Fault)
  deriving DecidableEq, Repr

/-- Does one step; the answer is the slot the device got by it. -/
def DeviceStep.run : DeviceStep → Handover → Option Grant × Handover
  | .take, handover => handover.take
  | .skip, handover => (none, handover.skip)
  | .raise fault, handover => (none, handover.raise fault)

/-- Whether a transfer can be answered from slots of a length. -/
def TransferRequest.isServed (request : TransferRequest) (channelLength : Nat) : Bool :=
  !request.isFaulty && request.length ≤ channelLength

/-- The steps by which a transfer is answered. -/
def TransferRequest.steps (request : TransferRequest) (channelLength : Nat) : List DeviceStep :=
  if request.isServed channelLength then [.take] else [.skip, .raise .underflow]

/-! ## Feeds -/

/-- What a channel of the device transmits. -/
inductive Origin where
  | idle
  /-- The payload of a slot on a channel of the stream. -/
  | payload (index channel : Nat)
  deriving DecidableEq, Repr

/-- The bytes a channel of the device transmits. -/
def Slots.read (slots : Slots) : Origin → Bytes
  | .idle => Bytes.silence slots.channelLength
  | .payload index channel =>
      (slots.payload? index channel).getD (Bytes.silence slots.channelLength)

/-- How the channels of a stream are laid on those of a device. -/
structure Feed where
  /-- The channel of the device that each channel of the stream feeds. -/
  selection : List Nat
  /-- The number of channels of the device. -/
  deviceChannels : Nat
  deriving DecidableEq, Repr

namespace Feed

/-- Silence on every channel of the device. -/
def idleSet (feed : Feed) (channelLength : Nat) : BufferSet Origin :=
  (List.range feed.deviceChannels).foldl (fun buffers channel => buffers.set channel .idle)
    (BufferSet.empty channelLength)

/-- The payloads of a slot on the selected channels, and silence on the others. -/
def slotSet (feed : Feed) (channelLength index : Nat) : BufferSet Origin :=
  feed.selection.zipIdx.foldl
    (fun buffers entry => buffers.set entry.1 (.payload index entry.2))
    (feed.idleSet channelLength)

/-- The buffer set for a transfer in which the device got this slot, if it got
one.  There is none if the selection is longer than the slot has channels. -/
def answer? (feed : Feed) (slots : Slots) (grant? : Option Grant) : Option (BufferSet Origin) :=
  match grant? with
  | none => some (feed.idleSet slots.channelLength)
  | some grant =>
      if feed.selection.length ≤ slots.channels then
        some (feed.slotSet slots.channelLength grant.handle.index)
      else none

/-- Answers a transfer. -/
def transfer (feed : Feed) (request : TransferRequest) (handover : Handover) :
    Option (BufferSet Origin) × Handover :=
  let done := (request.steps handover.slots.channelLength).foldl
    (fun state step =>
      let result := step.run state.2
      (result.1.or state.1, result.2))
    ((none : Option Grant), handover)
  (feed.answer? done.2.slots done.1, done.2)

/-! ## Elementary facts -/

theorem transfer_of_served (feed : Feed) (request : TransferRequest) (handover : Handover)
    (served : request.isServed handover.slots.channelLength = true) :
    feed.transfer request handover =
      (feed.answer? handover.take.2.slots handover.take.1, handover.take.2) := by
  simp [transfer, TransferRequest.steps, served, DeviceStep.run]

/-- A transfer that is refused is answered with silence, gives back the slot of
the device and raises an underflow. -/
theorem transfer_of_refused (feed : Feed) (request : TransferRequest) (handover : Handover)
    (refused : request.isServed handover.slots.channelLength = false) :
    feed.transfer request handover =
      (some (feed.idleSet handover.slots.channelLength), handover.skip.raise .underflow) := by
  simp [transfer, TransferRequest.steps, refused, DeviceStep.run, answer?, Handover.raise,
    Handover.skip, Handover.giveBack, Handover.tickOn]

end Feed

end DacStream
