import DacStream.Session.Basic

/-!
# The life of a session

Setting up replaces the stream of a session that is not active.  Activating
empties the ring and starts the device; deactivating stops it, reports how the
run ended and empties the ring again.  Closing also gives up the stream.

A request that is refused leaves the session as it was.
-/

namespace DacStream

set_option autoImplicit false

/-- What a run that ended is reported as. -/
def RunEnding.report : RunEnding → Except StreamError Unit
  | .returned => .ok ()
  | .failed error => .error (.device error)
  | .crashed => .error .helperCrashed

namespace Session

/-! ## From one state to another -/

/-- Sets up a stream on a device. -/
def setUp (session : Session) (request : StreamRequest) (limits : DeviceLimits) :
    Except StreamError Unit × Session :=
  match session with
  | .active _ _ => (.error (session.misfit "set up"), session)
  | .idle | .configured _ =>
      match StreamConfig.create request limits with
      | .error error => (.error error, session)
      | .ok config => (.ok (), .configured (Stream.create config))

/-- Starts the device for the stream.  No flags are known. -/
def activate (session : Session) (flags : Int) (device : Device) :
    Except StreamError Unit × Session × Device :=
  if flags ≠ 0 then (.error (.notSupported "activate flags"), session, device)
  else
    match session with
    | .configured stream =>
        let (run, started) := device.start stream.config.asyncBuffers
        let ready := stream.restart
        match run with
        | .untilStopped _ => (.ok (), .active ready run, started)
        | .over ending => (.ok (), .active (ready.noteEnding ending) run, started)
    | other => (.error (other.misfit "activate"), other, device)

/-- Ends the run of an active session: the device stops, and the ring is emptied
whatever the run leaves behind. -/
def endRun (stream : Stream) (run : Run) (device : Device) :
    Except StreamError Unit × Stream × Device :=
  let ended :=
    match run with
    | .untilStopped ending => stream.noteEnding ending
    | .over _ => stream
  (run.ending.report, ended.restart, device.stop run)

/-- Stops the device.  No flags are known; a session that is configured stays as
it is. -/
def deactivate (session : Session) (flags : Int) (device : Device) :
    Except StreamError Unit × Session × Device :=
  if flags ≠ 0 then (.error (.notSupported "deactivate flags"), session, device)
  else
    match session with
    | .active stream run =>
        let (report, after, stopped) := endRun stream run device
        (report, .configured after, stopped)
    | .configured stream => (.ok (), .configured stream, device)
    | .idle => (.error (session.misfit "deactivate"), session, device)

/-- Stops the device if need be and gives up the stream. -/
def close (session : Session) (device : Device) : Except StreamError Unit × Session × Device :=
  match session with
  | .active stream run =>
      let (report, _, stopped) := endRun stream run device
      (report, .idle, stopped)
  | _ => (.ok (), .idle, device)

/-! ## Resets, faults and their reports -/

/-- Asks for everything in the ring to be thrown away. -/
def requestReset (session : Session) : Except StreamError Unit × Session :=
  session.withStream "reset" fun stream =>
    ((), { stream with handover := stream.handover.requestReset })

/-- Raises a fault on behalf of the application. -/
def signalFault (session : Session) (fault : Fault) : Except StreamError Unit × Session :=
  session.withStream "signal a fault" fun stream =>
    ((), { stream with handover := stream.handover.raise fault })

/-- Waits for something to report.  A fault comes first, then that the run is
over; otherwise the wait runs out. -/
def readStatus (session : Session) : StreamError × Session :=
  match session with
  | .idle => (session.misfit "read the stream status", session)
  | .configured stream =>
      let (fault?, handover) := stream.handover.pollFault
      ((fault?.map StreamError.fault).getD .timeout,
        .configured { stream with handover := handover })
  | .active stream run =>
      let (fault?, handover) := stream.handover.pollFault
      ((fault?.map StreamError.fault).getD (if run.isOver then .transmitterStopped else .timeout),
        .active { stream with handover := handover } run)

/-! ## Elementary facts -/

theorem close_idle (session : Session) (device : Device) : (session.close device).2.1 = .idle := by
  cases session <;> rfl

end Session

end DacStream
