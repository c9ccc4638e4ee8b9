/-!
# Sample formats

An application hands over samples in one of ten formats.  A format says of what
type the components are and whether an element is one component or an I/Q pair.
The converter writes one byte per component, the byte the converters of the
device take, so an element takes as many bytes there as it has components.
-/

namespace DacStream

set_option autoImplicit false

/-! ## Components -/

/-- The type of one sample component. -/
inductive Component where
  | f32
  | s16
  | s8
  | u16
  | u8
  deriving DecidableEq, Repr

namespace Component

/-- All component types, in the order in which they are listed. -/
def all : List Component := [.f32, .s16, .s8, .u16, .u8]

/-- The name of a component type. -/
def name : Component → String
  | .f32 => "F32"
  | .s16 => "S16"
  | .s8 => "S8"
  | .u16 => "U16"
  | .u8 => "U8"

/-- The component type with exactly this name. -/
def ofName? (name : List Char) : Option Component :=
  all.find? fun component => component.name.toList == name

end Component

/-! ## Formats -/

/-- The layout of the samples an application writes. -/
structure SampleFormat where
  /-- The type of the components. -/
  component : Component
  /-- Whether an element is an I/Q pair. -/
  complex : Bool
  deriving DecidableEq, Repr

namespace SampleFormat

/-- All formats, pairs first. -/
def all : List SampleFormat :=
  Component.all.map (⟨·, true⟩) ++ Component.all.map (⟨·, false⟩)

/-- The format that needs no conversion. -/
def native : SampleFormat := ⟨.u8, true⟩

/-- The magnitude of a full-scale sample in the native format. -/
def nativeFullScale : Nat := 128

/-- The name of a format: that of its components, marked if they come in pairs. -/
def name (format : SampleFormat) : String :=
  (if format.complex then "C" else "") ++ format.component.name

/-- How many components an element has. -/
def width (format : SampleFormat) : Nat := if format.complex then 2 else 1

/-- How many bytes an element takes on one channel of the device. -/
def nativeBytes (format : SampleFormat) : Nat := format.width

/-- The format with exactly this name. -/
def ofName? (name : List Char) : Option SampleFormat :=
  all.find? fun format => format.name.toList == name

/-! ## Elementary facts -/

theorem mem_all (format : SampleFormat) : format ∈ all := by
  obtain ⟨component, complex⟩ := format
  cases component <;> cases complex <;> decide

theorem width_pos (format : SampleFormat) : 0 < format.width := by
  unfold width
  split <;> decide

theorem nativeBytes_pos (format : SampleFormat) : 0 < format.nativeBytes := format.width_pos

end SampleFormat

end DacStream
