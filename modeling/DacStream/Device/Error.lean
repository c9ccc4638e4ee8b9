/-!
# Device errors

A device reports a failure as a small negative code.  Six codes have a meaning;
any other negative code is taken as a wrong parameter, which is what devices
answer for everything they do not classify further.  A code that is not negative
reports success.
-/

namespace DacStream

set_option autoImplicit false

/-- Why a device refused or gave up. -/
inductive DeviceError where
  /-- A parameter was out of range or a handle was invalid. -/
  | invalidParameter
  /-- The device is gone or was never opened. -/
  | noDevice
  /-- What was asked for does not exist. -/
  | notFound
  /-- The device is already in use. -/
  | busy
  /-- The device did not answer in time. -/
  | timeout
  /-- The device has no memory for its transfers. -/
  | noMemory
  deriving DecidableEq, Repr

namespace DeviceError

/-- All errors, by falling code. -/
def all : List DeviceError :=
  [.invalidParameter, .noDevice, .notFound, .busy, .timeout, .noMemory]

/-- The code a device reports for an error. -/
def code : DeviceError → Int
  | .invalidParameter => -1
  | .noDevice => -2
  | .notFound => -5
  | .busy => -6
  | .timeout => -7
  | .noMemory => -11

/-- The identifier used in diagnostics. -/
def identifier : DeviceError → String
  | .invalidParameter => "FL2K_ERROR_INVALID_PARAM"
  | .noDevice => "FL2K_ERROR_NO_DEVICE"
  | .notFound => "FL2K_ERROR_NOT_FOUND"
  | .busy => "FL2K_ERROR_BUSY"
  | .timeout => "FL2K_ERROR_TIMEOUT"
  | .noMemory => "FL2K_ERROR_NO_MEM"

/-- The error in words. -/
def message : DeviceError → String
  | .invalidParameter => "invalid parameter"
  | .noDevice => "no device"
  | .notFound => "not found"
  | .busy => "resource busy"
  | .timeout => "operation timed out"
  | .noMemory => "insufficient memory"

/-- What a code reports: an error if it is negative. -/
def ofCode? (code : Int) : Option DeviceError :=
  if 0 ≤ code then none
  else some ((all.find? fun error => error.code == code).getD .invalidParameter)

/-- The identifier of what a code reports, success included. -/
def describe (code : Int) : String :=
  match ofCode? code with
  | none => "FL2K_SUCCESS"
  | some error => error.identifier

/-! ## Elementary facts -/

theorem ofCode?_code (error : DeviceError) : ofCode? error.code = some error := by
  cases error <;> decide

/-- A code reports success exactly when it is not negative. -/
theorem ofCode?_eq_none_iff (code : Int) : ofCode? code = none ↔ 0 ≤ code := by
  simp [ofCode?]

end DeviceError

end DacStream
