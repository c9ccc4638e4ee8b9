import DacStream.Device.Error

/-!
# Transfers and runs

A running device asks for buffers again and again.  Each request tells how many
bytes it wants and what went wrong since the last one.

A run ends in one of three ways: the device returns, it fails, or it crashes.
Seen from the outside, a run that was just started either goes on until it is
stopped or is over already.
-/

namespace DacStream

set_option autoImplicit false

/-! ## Requests -/

/-- What a device tells when it asks for the next buffers. -/
structure TransferRequest where
  /-- The number of bytes per channel it wants. -/
  length : Nat
  /-- How often it ran out of data since the last request. -/
  underruns : UInt32 := 0
  /-- Whether the last transfer failed on the device. -/
  deviceError : Bool := false
  deriving DecidableEq, Repr

/-- Whether the device reports a fault. -/
def TransferRequest.isFaulty (request : TransferRequest) : Bool :=
  request.underruns != 0 || request.deviceError

/-! ## Runs -/

/-- How a run ended. -/
inductive RunEnding where
  | returned
  | failed (error : DeviceError)
  | crashed
  deriving DecidableEq, Repr

/-- A run that was started. -/
inductive Run where
  /-- It goes on until it is stopped, and then ends this way. -/
  | untilStopped (ending : RunEnding)
  /-- It is over. -/
  | over (ending : RunEnding)
  deriving DecidableEq, Repr

namespace Run

/-- Whether a run has ended on its own. -/
def isOver : Run → Bool
  | .untilStopped _ => false
  | .over _ => true

/-- How a run ends, if nothing but a stop ends it. -/
def ending : Run → RunEnding
  | .untilStopped ending => ending
  | .over ending => ending

end Run

end DacStream
