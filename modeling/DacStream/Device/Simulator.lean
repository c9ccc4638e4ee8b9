import DacStream.Device.Buffers
import DacStream.Device.Run
import DacStream.Sample.Bytes

/-!
# The simulated device

A simulator transmits into a capture instead of into the air.  It is stepped:
each step asks for buffers once and keeps a copy of what it got.  Faults can be
prepared; they are reported with the next transfer, or by the next start.

The capture is a bounded log, from which the oldest entries are dropped first.
Transfers are numbered from zero over all runs, in 64 bits.

A source of buffers may crash.  Then the run crashes with it, and since nobody
is left to say that it ended, the simulator stays in use for good.
-/

namespace DacStream

set_option autoImplicit false

/-! ## Configuration -/

/-- How a simulator is set up. -/
structure SimulatorConfig where
  /-- Channels, between one and three. -/
  channels : Nat := 1
  /-- Bytes per channel asked for with each transfer. -/
  bufferLength : UInt64 := usualAlignment
  /-- Transfers kept in the capture; zero keeps none. -/
  captureLimit : Nat := 64
  /-- Whether streams must use `bufferLength` as their buffer length. -/
  exactLength : Bool := false
  deriving DecidableEq, Repr

/-- The configuration with the number of channels brought into range. -/
def SimulatorConfig.clamped (config : SimulatorConfig) : SimulatorConfig :=
  { config with channels := min (max config.channels 1) mostChannels }

/-! ## State -/

/-- One transfer in the capture. -/
structure Capture where
  /-- The number of the transfer. -/
  number : UInt64
  /-- What the source was told. -/
  request : TransferRequest
  /-- The bytes of each channel, for channels that had any. -/
  channels : List (Option Bytes)
  deriving DecidableEq, Repr

/-- The state of a simulator. -/
structure Simulator where
  config : SimulatorConfig
  /-- Whether a run is under way. -/
  running : Bool := false
  /-- The error by which the next start fails. -/
  startFailure : Option DeviceError := none
  /-- The underruns to report with the next transfer. -/
  underruns : UInt32 := 0
  /-- Whether to report a device error with the next transfer. -/
  deviceError : Bool := false
  /-- The number of transfers so far. -/
  transfers : UInt64 := 0
  /-- The capture, oldest first. -/
  captured : List Capture := []
  deriving DecidableEq, Repr

namespace Simulator

/-- A simulator that was never used. -/
def create (config : SimulatorConfig) : Simulator := { config := config.clamped }

/-- The limits a simulator sets to streams. -/
def limits (simulator : Simulator) : DeviceLimits where
  channels := simulator.config.channels
  defaultLength := simulator.config.bufferLength
  requiredLength? :=
    if simulator.config.exactLength then some simulator.config.bufferLength else none

/-! ## Preparing faults -/

/-- Adds underruns to those reported with the next transfer.  The sum stops at
the largest number of 32 bits. -/
def injectUnderruns (simulator : Simulator) (count : UInt32) : Simulator :=
  { simulator with
    underruns := UInt32.ofNat (min (simulator.underruns.toNat + count.toNat) (UInt32.size - 1)) }

/-- Reports a device error with the next transfer. -/
def injectDeviceError (simulator : Simulator) : Simulator := { simulator with deviceError := true }

/-- Lets the next start fail. -/
def injectStartFailure (simulator : Simulator) (error : DeviceError) : Simulator :=
  { simulator with startFailure := some error }

/-! ## Runs -/

/-- Starts a run.  A device in use is busy; otherwise a prepared failure comes
to pass, once. -/
def start (simulator : Simulator) : Except DeviceError Unit × Simulator :=
  if simulator.running then (.error .busy, simulator)
  else
    match simulator.startFailure with
    | some error => (.error error, { simulator with startFailure := none })
    | none => (.ok (), { simulator with running := true })

/-- Ends the run that is under way. -/
def finish (simulator : Simulator) : Simulator := { simulator with running := false }

/-! ## Transfers -/

/-- What the next transfer tells the source, faults included. -/
def request (simulator : Simulator) : TransferRequest where
  length := simulator.config.bufferLength.toNat
  underruns := simulator.underruns
  deviceError := simulator.deviceError

/-- The simulator after the prepared faults were reported. -/
def reported (simulator : Simulator) : Simulator :=
  { simulator with underruns := 0, deviceError := false }

/-- What goes on air: for each channel the bytes asked for, or silence on every
channel if the set is too short. -/
def onAir (simulator : Simulator) (length : Nat) (buffers : BufferSet Bytes) :
    List (Option Bytes) :=
  ((buffers.resolve length (Bytes.silence length)).toList.take simulator.config.channels).map
    fun buffer => buffer.map fun bytes => bytes.take length

/-- Counts a transfer and puts it into the capture. -/
def record (simulator : Simulator) (request : TransferRequest) (buffers : BufferSet Bytes) :
    Simulator :=
  let entry : Capture :=
    { number := simulator.transfers
      request := request
      channels := simulator.onAir request.length buffers }
  let log := simulator.captured ++ [entry]
  { simulator with
    transfers := simulator.transfers + 1
    captured := log.drop (log.length - simulator.config.captureLimit) }

/-- Makes one transfer with the buffers of a source.  A source that crashes ends
the run, and whoever asked for the transfer finds the run gone. -/
def transfer {σ : Type} (source : TransferRequest → σ → Option (BufferSet Bytes) × σ)
    (simulator : Simulator) (state : σ) : Except DeviceError Unit × Simulator × σ :=
  let request := simulator.request
  let waiting := simulator.reported
  match source request state with
  | (none, after) => (.error .notFound, waiting, after)
  | (some buffers, after) => (.ok (), waiting.record request buffers, after)

/-- Empties the capture. -/
def takeCaptured (simulator : Simulator) : List Capture × Simulator :=
  (simulator.captured, { simulator with captured := [] })

/-! ## Elementary facts -/

theorem clamped_channels (config : SimulatorConfig) :
    1 ≤ config.clamped.channels ∧ config.clamped.channels ≤ mostChannels := by
  simp only [SimulatorConfig.clamped, mostChannels]
  omega

/-- The capture never holds more than its limit. -/
theorem length_captured_record (simulator : Simulator) (request : TransferRequest)
    (buffers : BufferSet Bytes) :
    (simulator.record request buffers).captured.length ≤ simulator.config.captureLimit := by
  simp only [record, List.length_drop]
  omega

end Simulator

end DacStream
