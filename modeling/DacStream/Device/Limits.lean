/-!
# What a device allows

A device has a number of channels and takes buffers of certain lengths.  Some
devices transmit buffers of one length only; for the others a length must be a
multiple of the alignment.
-/

namespace DacStream

set_option autoImplicit false

/-- The channels of the widest device: red, green and blue. -/
def mostChannels : Nat := 3

/-- The usual alignment of a buffer, in bytes per channel. -/
def usualAlignment : UInt64 := 512

/-- The usual length of a transfer, in bytes per channel. -/
def usualBufferLength : UInt64 := 1280 * 1024

/-- The limits a device sets to the streams that use it. -/
structure DeviceLimits where
  /-- The number of channels. -/
  channels : Nat
  /-- The number of bytes of which a buffer holds a multiple. -/
  alignment : UInt64 := usualAlignment
  /-- The buffer length for those who do not ask for one. -/
  defaultLength : UInt64 := usualBufferLength
  /-- The only buffer length the device takes, if there is only one. -/
  requiredLength? : Option UInt64 := none
  deriving DecidableEq, Repr

/-- The buffer length in use where none is asked for. -/
def DeviceLimits.usualLength (limits : DeviceLimits) : UInt64 :=
  limits.requiredLength?.getD limits.defaultLength

end DacStream
