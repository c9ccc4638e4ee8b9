import DacStream.Sample.Conversion
import DacStream.Stream.Options

/-!
# Stream configurations

A request for a stream is checked against the limits of the device.  The
requirements stand in a list, each with the error that reports it; the first one
that fails decides.  A request that meets them all becomes a configuration.
-/

namespace DacStream

set_option autoImplicit false

/-! ## Names of formats -/

/-- The format a user names, in letters of either case and with blanks around
the name left aside. -/
def SampleFormat.parse (name : String) : Except StreamError SampleFormat :=
  match SampleFormat.all.find? fun format =>
      sameLetters format.name.toList (trim name.toList) with
  | some format => .ok format
  | none => .error (.unsupportedFormat name)

/-! ## Requests -/

/-- What the caller asks of a stream. -/
structure StreamRequest where
  direction : Direction := .transmit
  format : SampleFormat
  /-- The channel of the device that each channel of the stream feeds.  An empty
  selection means the first channel of the device. -/
  selection : List Nat := []
  options : StreamOptions := {}
  deriving DecidableEq, Repr

namespace StreamRequest

/-- The channels that are selected. -/
def channels (request : StreamRequest) : List Nat :=
  if request.selection.isEmpty then [0] else request.selection

/-- The buffer length that is asked for, or else the usual one of the device. -/
def bufferLength (request : StreamRequest) (limits : DeviceLimits) : Nat :=
  (request.options.bufferLength?.getD limits.usualLength).toNat

end StreamRequest

/-- The number of bytes of which a buffer must hold a multiple, at least one. -/
def DeviceLimits.effectiveAlignment (limits : DeviceLimits) : Nat := max limits.alignment.toNat 1

/-! ## Configurations -/

/-- The description of one stream, after the request for it was checked. -/
structure StreamConfig where
  format : SampleFormat
  /-- The channel of the device that each channel of the stream feeds. -/
  selection : List Nat
  /-- Bytes per channel buffer. -/
  bufferLength : Nat
  /-- Buffers in the ring. -/
  bufferCount : Nat
  /-- Buffers in flight inside the device. -/
  asyncBuffers : UInt32
  /-- Whether the parts of a pair are exchanged. -/
  swap : Bool
  deriving DecidableEq, Repr

namespace StreamConfig

/-- What a request must fulfil on a device, and the error that reports each
requirement. -/
def requirements (request : StreamRequest) (limits : DeviceLimits) : List (Bool × StreamError) :=
  let channels := request.channels
  let length := request.bufferLength limits
  let count := request.options.bufferCount.toNat
  [(request.direction = .transmit, .unsupportedDirection request.direction),
   (channels.Nodup ∧ channels.length ≤ limits.channels ∧ ∀ channel ∈ channels,
      channel < limits.channels,
    .invalidChannelSelection channels limits.channels),
   (limits.requiredLength?.all fun required => length == required.toNat,
    .bufferLengthMismatch length limits.usualLength.toNat),
   (0 < length ∧ length % limits.effectiveAlignment = 0,
    .invalidBufferLength length limits.effectiveAlignment),
   (length % request.format.nativeBytes = 0,
    .misalignedElement length request.format.nativeBytes request.format),
   (leastBufferCount ≤ count, .invalidBufferCount count)]

/-- The configuration a request describes. -/
def ofRequest (request : StreamRequest) (limits : DeviceLimits) : StreamConfig where
  format := request.format
  selection := request.channels
  bufferLength := request.bufferLength limits
  bufferCount := request.options.bufferCount.toNat
  asyncBuffers := request.options.asyncBuffers
  swap := request.options.swap

/-- Checks a request against the limits of a device. -/
def create (request : StreamRequest) (limits : DeviceLimits) : Except StreamError StreamConfig :=
  match (requirements request limits).find? fun requirement => !requirement.1 with
  | some failed => .error failed.2
  | none => .ok (ofRequest request limits)

/-- The number of channels of the stream. -/
def channelCount (config : StreamConfig) : Nat := config.selection.length

/-- The number of elements a buffer holds. -/
def elementsPerBuffer (config : StreamConfig) : Nat :=
  config.bufferLength / config.format.nativeBytes

/-- The converter for the samples of the stream. -/
def converter (config : StreamConfig) : Converter := ⟨config.format, config.swap⟩

/-! ## Elementary facts -/

/-- A request is granted exactly when it meets every requirement. -/
theorem create_eq_ok_iff (request : StreamRequest) (limits : DeviceLimits)
    (config : StreamConfig) :
    create request limits = .ok config ↔
      (∀ requirement ∈ requirements request limits, requirement.1 = true) ∧
        ofRequest request limits = config := by
  unfold create
  split
  · rename_i failed found
    have broken := List.find?_some found
    have listed := List.mem_of_find?_eq_some found
    simp only [reduceCtorEq, false_iff, not_and]
    intro every
    simp [every failed listed] at broken
  · rename_i none_fails
    rw [List.find?_eq_none] at none_fails
    simp only [Except.ok.injEq]
    constructor
    · intro same
      exact ⟨fun requirement listed => by simpa using none_fails requirement listed, same⟩
    · exact fun both => both.2

end StreamConfig

end DacStream
