import DacStream.Sample.Format

/-!
# Samples and their native bytes

The device takes one unsigned byte per component, centred on 128.  Each type of
sample has its own rule:

* a float is scaled from `[-1, 1]` to `[0, 255]`, saturating at the ends and
  rounded to the nearest integer, and what is not a number becomes silence;
* a 16-bit sample keeps its upper half, a signed one shifted by 128;
* a signed byte is shifted by 128, an unsigned one kept.

The integer types also number their values, by the bits of the sample.  A lookup
table is indexed by these bits.
-/

namespace DacStream

set_option autoImplicit false

/-- The native byte of silence. -/
def midScale : UInt8 := 128

/-! ## The rules -/

/-- The float between -1 and 1 that is nearest to a float. -/
def clampUnit (sample : Float32) : Float32 :=
  if sample < -1.0 then -1.0 else if sample > 1.0 then 1.0 else sample

/-- The native byte of a float. -/
def nativeOfFloat (sample : Float32) : UInt8 :=
  if sample.isNaN then midScale
  else (clampUnit sample * 127.5 + 127.5).round.toUInt8

/-- The native byte of a signed 16-bit sample. -/
def nativeOfInt16 (sample : Int16) : UInt8 := ((sample >>> 8) + 128).toUInt16.toUInt8

/-- The native byte of a signed 8-bit sample. -/
def nativeOfInt8 (sample : Int8) : UInt8 := sample.toUInt8 + 128

/-- The native byte of an unsigned 16-bit sample. -/
def nativeOfUInt16 (sample : UInt16) : UInt8 := (sample >>> 8).toUInt8

/-! ## Types of samples -/

/-- A type whose values can be written to a stream. -/
class Sample (α : Type) where
  /-- The component type the samples count as. -/
  component : Component
  /-- The byte a sample is transmitted as. -/
  native : α → UInt8
  /-- The number of a sample in a lookup table, for samples that have one. -/
  tableIndex? : α → Option UInt16

/-- A type of samples whose every bit pattern is a sample. -/
class WordSample (α : Type) extends Sample α where
  /-- The sample with these bits; bits beyond its width are ignored. -/
  ofBits : UInt16 → α

instance : Sample Float32 where
  component := .f32
  native := nativeOfFloat
  tableIndex? := fun _ => none

instance : WordSample Int16 where
  component := .s16
  native := nativeOfInt16
  tableIndex? := fun sample => some sample.toUInt16
  ofBits := UInt16.toInt16

instance : WordSample Int8 where
  component := .s8
  native := nativeOfInt8
  tableIndex? := fun sample => some sample.toUInt8.toUInt16
  ofBits := fun bits => bits.toUInt8.toInt8

instance : WordSample UInt16 where
  component := .u16
  native := nativeOfUInt16
  tableIndex? := some
  ofBits := id

instance : WordSample UInt8 where
  component := .u8
  native := id
  tableIndex? := fun sample => some sample.toUInt16
  ofBits := UInt16.toUInt8

/-- Samples of another type that keep their table index to themselves. -/
structure Unindexed (α : Type) where
  /-- The sample. -/
  sample : α

instance (α : Type) [Sample α] : Sample (Unindexed α) where
  component := Sample.component α
  native := fun wrapped => Sample.native wrapped.sample
  tableIndex? := fun _ => none

/-! ## Elementary facts -/

/-- A signed 16-bit sample leads back to itself through its bits. -/
theorem toInt16_toUInt16 (sample : Int16) : sample.toUInt16.toInt16 = sample := by simp

end DacStream
