import DacStream.Device.Limits

/-!
# Buffer sets

For every transfer the device asks for one buffer per channel.  It is answered
with a buffer set: a common length, and a buffer for each channel that has data.
What a buffer is, the bytes themselves or the place where they lie, is left
open.

A set that is too short for the transfer is not read at all: the device puts its
own fallback buffer on every channel.
-/

namespace DacStream

set_option autoImplicit false

variable {β : Type}

/-- The buffers for one transfer. -/
structure BufferSet (β : Type) where
  /-- The number of bytes in each buffer. -/
  length : Nat
  /-- The buffer of each channel, if it has one. -/
  channels : Vector (Option β) mostChannels

namespace BufferSet

/-- A set of buffers of one length in which no channel has a buffer yet. -/
def empty (length : Nat) : BufferSet β := ⟨length, Vector.replicate mostChannels none⟩

/-- Gives a channel a buffer.  Channels that no device has are passed over. -/
def set (buffers : BufferSet β) (channel : Nat) (buffer : β) : BufferSet β :=
  { buffers with channels := buffers.channels.setIfInBounds channel (some buffer) }

/-- The buffer of a channel. -/
def buffer? (buffers : BufferSet β) (channel : Nat) : Option β :=
  (buffers.channels[channel]?).join

/-- Whether a transfer of `required` bytes can be read from the set. -/
def covers (buffers : BufferSet β) (required : Nat) : Bool := required ≤ buffers.length

/-- The buffers that a transfer of `required` bytes is read from. -/
def resolve (buffers : BufferSet β) (required : Nat) (fallback : β) :
    Vector (Option β) mostChannels :=
  if buffers.covers required then buffers.channels
  else Vector.replicate mostChannels (some fallback)

/-- The same set with other buffers in the place of these. -/
def map {γ : Type} (change : β → γ) (buffers : BufferSet β) : BufferSet γ :=
  ⟨buffers.length, buffers.channels.map (·.map change)⟩

/-! ## Elementary facts -/

theorem buffer?_empty (length channel : Nat) :
    (empty length : BufferSet β).buffer? channel = none := by
  unfold buffer? empty
  by_cases inside : channel < mostChannels <;> simp [inside]

theorem buffer?_set_self (buffers : BufferSet β) (channel : Nat) (buffer : β)
    (inside : channel < mostChannels) :
    (buffers.set channel buffer).buffer? channel = some buffer := by
  simp [buffer?, set, inside]

theorem buffer?_set_ne (buffers : BufferSet β) (channel other : Nat) (buffer : β)
    (different : channel ≠ other) :
    (buffers.set channel buffer).buffer? other = buffers.buffer? other := by
  simp [buffer?, set, Vector.getElem?_setIfInBounds_ne different]

theorem length_set (buffers : BufferSet β) (channel : Nat) (buffer : β) :
    (buffers.set channel buffer).length = buffers.length := rfl

end BufferSet

end DacStream
