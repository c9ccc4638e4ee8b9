import DacStream.Device.Basic
import DacStream.Handover.Feed
import DacStream.Stream.Config

/-!
# Sessions

A session goes from idle to configured, when a stream is set up, and on to
active, when the device is started for it.  While it is active, a helper sits in
the run of the device.  The session keeps what became of that run: it goes on, or
it is over, and then nothing drains the ring any more.

A stream that is written element by element has at most one slot in work, which
the writer has got from the ring but not yet filled.
-/

namespace DacStream

set_option autoImplicit false

/-! ## Streams -/

/-- A slot in work. -/
structure PartialSlot where
  handle : Handle
  /-- How many of its elements are written. -/
  filled : Nat
  deriving DecidableEq, Repr

/-- A stream that was set up. -/
structure Stream where
  config : StreamConfig
  handover : Handover
  /-- The slot in work, if there is one. -/
  inWork : Option PartialSlot := none
  deriving DecidableEq, Repr

namespace Stream

/-- A stream with all slots free and silent. -/
def create (config : StreamConfig) : Stream where
  config := config
  handover :=
    Handover.create (Slots.silent config.bufferCount config.channelCount config.bufferLength)
      config.elementsPerBuffer

/-- How the stream feeds a device with a number of channels. -/
def feed (stream : Stream) (deviceChannels : Nat) : Feed :=
  ⟨stream.config.selection, deviceChannels⟩

/-- Answers a transfer of the device, in bytes. -/
def serve (stream : Stream) (deviceChannels : Nat) (request : TransferRequest) :
    Option (BufferSet Bytes) × Stream :=
  let (answer?, handover) := (stream.feed deviceChannels).transfer request stream.handover
  (answer?.map (·.map handover.slots.read), { stream with handover := handover })

/-- Notes how a run ended.  A device that failed leaves an underflow behind, to
wake a writer who would otherwise wait for slots in vain. -/
def noteEnding (stream : Stream) : RunEnding → Stream
  | .failed _ => { stream with handover := stream.handover.raise .underflow }
  | .returned => stream
  | .crashed => stream

/-- Empties the ring and forgets the slot in work. -/
def restart (stream : Stream) : Stream :=
  { stream with handover := stream.handover.restart, inWork := none }

end Stream

/-! ## Sessions -/

/-- The state of a session. -/
inductive Session where
  | idle
  | configured (stream : Stream)
  | active (stream : Stream) (run : Run)
  deriving DecidableEq, Repr

namespace Session

/-- The name of the state a session is in. -/
def stateName : Session → String
  | .idle => "idle"
  | .configured _ => "configured"
  | .active _ _ => "active"

/-- The stream of a session. -/
def stream? : Session → Option Stream
  | .idle => none
  | .configured stream => some stream
  | .active stream _ => some stream

/-- Whether the device runs for a session. -/
def isTransmitting : Session → Bool
  | .active _ run => !run.isOver
  | _ => false

/-- The error of an operation that does not fit the state. -/
def misfit (session : Session) (operation : String) : StreamError :=
  .invalidState operation session.stateName

section

variable {α : Type}

/-- Does something with the stream of a session that has one. -/
def withStream (operation : String) (act : Stream → α × Stream) (session : Session) :
    Except StreamError α × Session :=
  match session with
  | .idle => (.error (session.misfit operation), session)
  | .configured stream =>
      let (answer, after) := act stream
      (.ok answer, .configured after)
  | .active stream run =>
      let (answer, after) := act stream
      (.ok answer, .active after run)

/-- Does something with the stream of an active session. -/
def whenActive (operation : String) (act : Stream → Except StreamError α × Stream)
    (session : Session) : Except StreamError α × Session :=
  match session with
  | .active stream run =>
      let (answer, after) := act stream
      (answer, .active after run)
  | other => (.error (other.misfit operation), other)

/-- Does something with the stream of an active session whose run goes on. -/
def whenTransmitting (operation : String) (act : Stream → Except StreamError α × Stream)
    (session : Session) : Except StreamError α × Session :=
  match session with
  | .active stream (.over ending) => (.error .transmitterStopped, .active stream (.over ending))
  | other => other.whenActive operation act

end

/-! ## Questions -/

/-- The configuration of the stream. -/
def config? (session : Session) : Option StreamConfig := session.stream?.map Stream.config

/-- The counters of the stream; without a stream they are zero. -/
def counters (session : Session) : Counters :=
  (session.stream?.map fun stream => stream.handover.counters).getD {}

/-- Where the slots of the stream are. -/
def occupancy? (session : Session) : Option Occupancy :=
  session.stream?.map fun stream => stream.handover.occupancy

/-- Asks the stream something; a session without one cannot answer. -/
def ask {α : Type} (session : Session) (operation : String) (question : Stream → α) :
    Except StreamError α :=
  match session.stream? with
  | some stream => .ok (question stream)
  | none => .error (session.misfit operation)

/-- The elements of a slot, which is the most that one write accepts. -/
def mtu (session : Session) : Except StreamError Nat :=
  session.ask "query the MTU" fun stream => stream.config.elementsPerBuffer

/-- The number of slots that can be filled in place. -/
def bufferCount (session : Session) : Except StreamError Nat :=
  session.ask "count direct access buffers" fun stream => stream.config.bufferCount

/-- The payloads of a slot. -/
def payloads (session : Session) (index : Nat) : Except StreamError (List Bytes) :=
  (session.ask "read buffer addresses" fun stream => stream.handover.slots.cells[index]?).bind
    fun cell? =>
      match cell? with
      | some cell => .ok cell.payloads
      | none => .error (.invalidHandle index)

end Session

end DacStream
