import DacStream.Session.Basic

/-!
# Hardware time

The clock of the device counts elements.  At a rate of elements per second it
shows a time, which is given in nanoseconds.  The conversions are done in double
precision, rounded to the nearest integer with halves away from zero; results
beyond the range of the answer stop at its ends.  A rate that is not positive
has no time: everything is then zero.
-/

namespace DacStream

set_option autoImplicit false

/-- The time in nanoseconds at which the clock shows `ticks`. -/
def nanosecondsOfTicks (ticks : UInt64) (rate : Float) : Int64 :=
  if rate ≤ 0.0 then 0 else (ticks.toFloat * 1e9 / rate).round.toInt64

/-- What the clock shows at a time in nanoseconds; times before zero have no
ticks. -/
def ticksOfNanoseconds (time : Int64) (rate : Float) : UInt64 :=
  if rate ≤ 0.0 || time ≤ 0 then 0 else (time.toFloat * rate / 1e9).round.toUInt64

namespace Session

/-- The time of the device. -/
def hardwareTime (session : Session) (rate : Float) : Except StreamError Int64 :=
  session.ask "read hardware time" fun stream => nanosecondsOfTicks stream.handover.clock rate

/-- Sets the time of the device. -/
def setHardwareTime (session : Session) (time : Int64) (rate : Float) :
    Except StreamError Unit × Session :=
  session.withStream "set hardware time" fun stream =>
    ((), { stream with handover := stream.handover.setClock (ticksOfNanoseconds time rate) })

end Session

end DacStream
