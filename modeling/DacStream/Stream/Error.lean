import DacStream.Device.Error
import DacStream.Sample.Format

/-!
# Stream errors

One type holds every reason for which a stream operation can fail.  Three of
them belong to ordinary streaming and are resolved by trying again: a wait that
ran out, and the two faults.  All others are mistakes in a request or in the
order of requests, or failures of the device.
-/

namespace DacStream

set_option autoImplicit false

/-! ## Directions and faults -/

/-- The direction a stream is asked for. -/
inductive Direction where
  | transmit
  | receive
  deriving DecidableEq, Repr

namespace Direction

/-- The short name of a direction. -/
def name : Direction → String
  | .transmit => "Tx"
  | .receive => "Rx"

/-- The direction with exactly this name. -/
def ofName? (name : List Char) : Option Direction :=
  [transmit, receive].find? fun direction => direction.name.toList == name

end Direction

/-- What can go wrong while a stream runs. -/
inductive Fault where
  /-- The device needed a buffer and none was filled. -/
  | underflow
  /-- The writer was faster than the device. -/
  | overflow
  deriving DecidableEq, Repr

namespace Fault

/-- The letter that stands for a fault on a console. -/
def letter : Fault → String
  | .underflow => "U"
  | .overflow => "O"

/-- The name of a fault. -/
def name : Fault → String
  | .underflow => "Underflow"
  | .overflow => "Overflow"

end Fault

/-! ## Errors -/

/-- Why a stream operation failed. -/
inductive StreamError where
  /-- Nothing happened within the time to wait. -/
  | timeout
  /-- A fault was reported. -/
  | fault (fault : Fault)
  /-- A flag or mode was asked for that the stream does not have. -/
  | notSupported (what : String)
  /-- Streams only transmit. -/
  | unsupportedDirection (direction : Direction)
  /-- No format has this name. -/
  | unsupportedFormat (name : String)
  /-- The selection repeats a channel or names one that the device lacks. -/
  | invalidChannelSelection (selection : List Nat) (available : Nat)
  /-- The buffer length is zero or not a multiple of the alignment. -/
  | invalidBufferLength (length alignment : Nat)
  /-- The device transmits buffers of one other length only. -/
  | bufferLengthMismatch (length required : Nat)
  /-- The buffer does not hold a whole number of elements. -/
  | misalignedElement (length elementBytes : Nat) (format : SampleFormat)
  /-- The ring is too short to hold a slot for either side. -/
  | invalidBufferCount (count : Nat)
  /-- The operation does not fit the state of the stream. -/
  | invalidState (operation state : String)
  /-- The samples are not of the type the stream was set up for. -/
  | formatMismatch (configured : SampleFormat) (requested : Component)
  /-- There is not one input per channel. -/
  | channelCountMismatch (expected actual : Nat)
  /-- The handle is not that of the oldest slot the writer holds. -/
  | invalidHandle (index : Nat)
  /-- The transmit helper could not be started. -/
  | helperNotStarted (reason : String)
  /-- The transmit helper has ended while the stream was active. -/
  | transmitterStopped
  /-- The transmit helper has crashed. -/
  | helperCrashed
  /-- The device failed. -/
  | device (error : DeviceError)
  deriving DecidableEq, Repr

/-- The fewest slots a ring can stream with: one is on air while another is
being filled. -/
def leastBufferCount : Nat := 2

namespace StreamError

/-! ## Wording -/

/-- A list of numbers between square brackets. -/
def listText (numbers : List Nat) : String :=
  "[" ++ ", ".intercalate (numbers.map toString) ++ "]"

/-- The error in words. -/
def message : StreamError → String
  | .timeout => "timed out waiting for the stream"
  | .fault .underflow => "transmit underflow"
  | .fault .overflow => "transmit overflow"
  | .notSupported what => "not supported: " ++ what
  | .unsupportedDirection direction => "unsupported stream direction " ++ direction.name
  | .unsupportedFormat name => "unsupported sample format '" ++ name ++ "'"
  | .invalidChannelSelection selection available =>
      "invalid channel selection " ++ listText selection ++ " for a " ++ toString available ++
        "-channel device"
  | .invalidBufferLength length alignment =>
      "buffer length " ++ toString length ++ " must be a positive multiple of " ++
        toString alignment ++ " bytes"
  | .bufferLengthMismatch length required =>
      "buffer length " ++ toString length ++ " differs from the " ++ toString required ++
        " bytes the device transmits"
  | .misalignedElement length elementBytes format =>
      "buffer length " ++ toString length ++ " is not a multiple of the " ++
        toString elementBytes ++ "-byte " ++ format.name ++ " element"
  | .invalidBufferCount count =>
      "buffer count must be at least " ++ toString leastBufferCount ++ ", got " ++ toString count
  | .invalidState operation state =>
      "cannot " ++ operation ++ " while the stream is " ++ state
  | .formatMismatch configured requested =>
      "stream is configured for " ++ configured.name ++ " but " ++ requested.name ++
        " samples were written"
  | .channelCountMismatch expected actual =>
      "expected " ++ toString expected ++ " channel buffers, got " ++ toString actual
  | .invalidHandle index =>
      "slot handle " ++ toString index ++ " is not the oldest outstanding writer slot"
  | .helperNotStarted reason => "failed to spawn transmit thread: " ++ reason
  | .transmitterStopped => "transmitter is no longer running"
  | .helperCrashed => "transmit thread panicked"
  | .device error => "driver error: " ++ error.message ++ " (" ++ error.identifier ++ ")"

/-! ## Classification -/

/-- The conventional status code of a software radio. -/
def status : StreamError → Int
  | .timeout => -1
  | .fault .overflow => -4
  | .fault .underflow => -7
  | .notSupported _ => -5
  | .unsupportedDirection _ => -5
  | _ => -2

/-- Whether the error belongs to ordinary streaming. -/
def isTransient : StreamError → Bool
  | .timeout => true
  | .fault _ => true
  | _ => false

/-- The words of the error that led to this one, if another one did. -/
def cause? : StreamError → Option String
  | .helperNotStarted reason => some reason
  | .device error => some error.message
  | _ => none

/-- Trying again helps exactly when the status code is one of the three that
streaming itself produces. -/
theorem isTransient_iff_status (error : StreamError) :
    error.isTransient = true ↔ error.status ∈ [-1, -4, -7] := by
  cases error with
  | fault fault => cases fault <;> simp [isTransient, status]
  | _ => simp [isTransient, status]

end StreamError

end DacStream
