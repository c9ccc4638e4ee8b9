import DacStream.Device.Simulator

/-!
# Devices

A stream transmits on a simulator or on a scripted device.  A scripted device
does what its script says each time it is started, and once the script is at its
end it goes on until it is stopped.  It is not stepped by itself but asks for
buffers when told to.
-/

namespace DacStream

set_option autoImplicit false

/-- A device whose runs follow a script. -/
structure ScriptedDevice where
  limits : DeviceLimits
  /-- How the next runs go, in turn. -/
  script : List Run := []
  /-- Whether a run is under way. -/
  running : Bool := false
  /-- The buffers in flight that the last start was given. -/
  asyncBuffers? : Option UInt32 := none
  deriving DecidableEq, Repr

/-- A device. -/
inductive Device where
  | simulated (simulator : Simulator)
  | scripted (device : ScriptedDevice)
  deriving DecidableEq, Repr

namespace Device

/-- The limits a device sets to streams. -/
def limits : Device → DeviceLimits
  | .simulated simulator => simulator.limits
  | .scripted device => device.limits

/-- Whether a run is under way. -/
def running : Device → Bool
  | .simulated simulator => simulator.running
  | .scripted device => device.running

/-- The buffers in flight that the last start was given, on devices that keep
them in mind. -/
def asyncBuffers? : Device → Option UInt32
  | .simulated _ => none
  | .scripted device => device.asyncBuffers?

/-- Starts a run. -/
def start (asyncBuffers : UInt32) : Device → Run × Device
  | .simulated simulator =>
      match simulator.start with
      | (.ok _, started) => (.untilStopped .returned, .simulated started)
      | (.error error, refused) => (.over (.failed error), .simulated refused)
  | .scripted device =>
      let run := device.script.head?.getD (.untilStopped .returned)
      (run,
        .scripted
          { device with
            script := device.script.tail
            running := device.running || !run.isOver
            asyncBuffers? := some asyncBuffers })

/-- Ends the run that is under way. -/
def finish : Device → Device
  | .simulated simulator => .simulated simulator.finish
  | .scripted device => .scripted { device with running := false }

/-- Stops a run that was started on the device.  A run that is over has left the
device already. -/
def stop (run : Run) (device : Device) : Device :=
  if run.isOver then device else device.finish

end Device

end DacStream
