import DacStream.Handover.Waiting
import DacStream.Session.Clock
import DacStream.Session.Lifecycle
import DacStream.Session.Writing

/-!
# Sessions on one device

A bench is a device with the sessions that share it.  The device transmits for
the session whose run goes on; its transfers are answered from the stream of that
session and leave the other sessions alone.

A write that finds the ring full may wait for a transfer.  The transfer takes
place in steps, and the write gets its slot after the first step that frees one.
-/

namespace DacStream

set_option autoImplicit false

/-- A device and the sessions on it. -/
structure Bench where
  device : Device
  sessions : List Session
  deriving DecidableEq, Repr

/-- What became of a request to step the device. -/
inductive StepAnswer where
  /-- No session transmits. -/
  | notRunning
  /-- A simulator made a transfer, or its source crashed. -/
  | stepped (result : Except DeviceError Unit)
  /-- A scripted device got buffers, unless their source crashed. -/
  | served (request : TransferRequest) (buffers : Option (BufferSet Bytes))

namespace Session

/-- The session after a transfer was asked for.  A run whose transfer got no
answer has crashed. -/
def afterAnswer (answer? : Option (BufferSet Bytes)) (session : Session) : Session :=
  match answer?, session with
  | none, .active stream (.untilStopped _) => .active stream (.over .crashed)
  | _, other => other

/-- Answers a transfer, for a session whose run goes on. -/
def serve (session : Session) (deviceChannels : Nat) (request : TransferRequest) :
    Option (BufferSet Bytes) × Session :=
  match session with
  | .active stream (.untilStopped ending) =>
      let (answer?, after) := stream.serve deviceChannels request
      (answer?, (active after (.untilStopped ending)).afterAnswer answer?)
  | other => (none, other)

/-- Does one step of the device on the stream of a session. -/
def runStep (step : DeviceStep) (session : Session) : Option Grant × Session :=
  let onStream (stream : Stream) : Option Grant × Stream :=
    let (grant?, handover) := step.run stream.handover
    (grant?, { stream with handover := handover })
  match session with
  | .idle => (none, .idle)
  | .configured stream => (onStream stream).map id .configured
  | .active stream run => (onStream stream).map id (.active · run)

/-- Answers a transfer while an operation on the same session waits.  The
operation is tried before the transfer and after each of its steps, until it no
longer times out. -/
def serveWaiting {α : Type} (attempt : Session → Except StreamError α × Session)
    (session : Session) (deviceChannels : Nat) (request : TransferRequest) :
    Except StreamError α × Option (BufferSet Bytes) × Session :=
  let length := (session.stream?.map fun stream => stream.handover.slots.channelLength).getD 0
  let (answer, grant?, after) := attemptThroughSteps runStep attempt (request.steps length) session
  let buffers? := after.stream?.bind fun stream =>
    ((stream.feed deviceChannels).answer? stream.handover.slots grant?).map
      (·.map stream.handover.slots.read)
  (answer, buffers?, after.afterAnswer buffers?)

end Session

namespace Bench

/-- A device with idle sessions. -/
def create (device : Device) (sessions : Nat) : Bench := ⟨device, List.replicate sessions .idle⟩

/-! ## Acting on one session -/

section

variable {α : Type}

/-- Does something with one session. -/
def onSession (bench : Bench) (index : Nat) (act : Session → α × Session) : Option (α × Bench) :=
  bench.sessions[index]?.map fun session =>
    let (answer, after) := act session
    (answer, { bench with sessions := bench.sessions.set index after })

/-- Does something with one session and the device. -/
def onBoth (bench : Bench) (index : Nat) (act : Session → Device → α × Session × Device) :
    Option (α × Bench) :=
  bench.sessions[index]?.map fun session =>
    let (answer, after, device) := act session bench.device
    (answer, { device := device, sessions := bench.sessions.set index after })

/-! ## Stepping the device -/

/-- The session the device transmits for. -/
def transmitter? (bench : Bench) : Option Nat := bench.sessions.findIdx? Session.isTransmitting

/-- Makes one transfer with the transmitting session, whose answer `serve` gives.
A simulator decides itself what it asks for; a scripted device asks for what it
is told to. -/
def stepWith (bench : Bench) (request : TransferRequest) (initial : α)
    (serve : TransferRequest → Session → α × Option (BufferSet Bytes) × Session) :
    StepAnswer × α × Bench :=
  match bench.transmitter? with
  | none => (.notRunning, initial, bench)
  | some index =>
      let session := bench.sessions.getD index .idle
      match bench.device with
      | .simulated simulator =>
          let source (asked : TransferRequest) (state : α × Session) :
              Option (BufferSet Bytes) × (α × Session) :=
            let (answer, buffers?, after) := serve asked state.2
            (buffers?, answer, after)
          let (result, used, answer, after) := simulator.transfer source (initial, session)
          (.stepped result, answer,
            { device := .simulated used, sessions := bench.sessions.set index after })
      | .scripted _ =>
          let (answer, buffers?, after) := serve request session
          (.served request buffers?, answer,
            { bench with sessions := bench.sessions.set index after })

/-- Makes one transfer. -/
def step (bench : Bench) (request : TransferRequest) : StepAnswer × Bench :=
  let (answer, _, after) := bench.stepWith request () fun asked session =>
    let (buffers?, served) := session.serve bench.device.limits.channels asked
    ((), buffers?, served)
  (answer, after)

/-- Makes one transfer while an operation on a session waits for it.  An operation
on another session than the transmitting one is not helped by the transfer. -/
def stepDuring (bench : Bench) (index : Nat) (request : TransferRequest)
    (attempt : Session → Except StreamError α × Session) :
    Option (Except StreamError α × StepAnswer × Bench) :=
  if bench.transmitter? = some index then
    let (answer, result, after) := bench.stepWith request (.error .timeout) fun asked session =>
      session.serveWaiting attempt bench.device.limits.channels asked
    some (result, answer, after)
  else
    (bench.onSession index attempt).map fun (result, attempted) =>
      let (answer, after) := attempted.step request
      (result, answer, after)

end

/-! ## Preparing faults -/

/-- Changes the simulator, if the device is one. -/
def onSimulator {α : Type} (bench : Bench) (act : Simulator → α × Simulator) : Option (α × Bench) :=
  match bench.device with
  | .simulated simulator =>
      let (answer, after) := act simulator
      some (answer, { bench with device := .simulated after })
  | .scripted _ => none

end Bench

end DacStream
