import DacStream.Sample.Bytes
import DacStream.Stream.Error

/-!
# Conversion to native bytes

A converter is bound to a format and to whether the parts of a pair are
exchanged.  Where pairs of integers are exchanged it goes through a table: for
8-bit components the table takes both parts of a pair as one word, for 16-bit
components it takes one part at a time.  All other layouts are converted sample
by sample.

A table is the function that it tabulates.
-/

namespace DacStream

set_option autoImplicit false

/-! ## Tables -/

/-- A table of native bytes. -/
inductive Table where
  /-- The exchanged pair of native bytes for a word that holds the first part in
  its lower and the second part in its upper half. -/
  | pairs (entry : UInt16 → UInt8 × UInt8)
  /-- The native byte for the bits of one part. -/
  | parts (entry : UInt16 → UInt8)

/-- The pairs of native bytes for the pairs of 8-bit samples, exchanged. -/
def exchangedPair (α : Type) [WordSample α] (word : UInt16) : UInt8 × UInt8 :=
  let first : α := WordSample.ofBits (word &&& 0xFF)
  let second : α := WordSample.ofBits (word >>> 8)
  (Sample.native second, Sample.native first)

/-- The native byte of the sample with these bits. -/
def nativeOfBits (α : Type) [WordSample α] (bits : UInt16) : UInt8 :=
  Sample.native (WordSample.ofBits bits : α)

/-- The table for components of a type; floats have none. -/
def Table.ofComponent? : Component → Option Table
  | .s8 => some (.pairs (exchangedPair Int8))
  | .u8 => some (.pairs (exchangedPair UInt8))
  | .s16 => some (.parts (nativeOfBits Int16))
  | .u16 => some (.parts (nativeOfBits UInt16))
  | .f32 => none

/-- The word that stands for a pair of samples in a table of pairs.  A sample
without an index counts as silence. -/
def pairWord {α : Type} [Sample α] (first second : α) : UInt16 :=
  let low : UInt16 := (Sample.tableIndex? first).getD midScale.toUInt16
  let high : UInt16 := (Sample.tableIndex? second).getD midScale.toUInt16
  (low &&& (0xFF : UInt16)) ||| (high <<< (8 : UInt16))

/-- The native byte of a sample by a table of parts.  A sample without an index
is converted by its own rule. -/
def partEntry {α : Type} [Sample α] (entry : UInt16 → UInt8) (sample : α) : UInt8 :=
  match Sample.tableIndex? sample with
  | some bits => entry bits
  | none => Sample.native sample

/-! ## Converters -/

/-- How samples become native bytes. -/
structure Converter where
  /-- The format of the samples. -/
  format : SampleFormat
  /-- Whether the parts of a pair are exchanged. -/
  swap : Bool
  deriving DecidableEq, Repr

namespace Converter

/-- The table a converter goes through: only exchanged pairs have one. -/
def table? (converter : Converter) : Option Table :=
  if converter.format.complex && converter.swap then
    Table.ofComponent? converter.format.component
  else none

section

variable {α : Type} [Sample α]

/-- The native bytes of a pair. -/
def pair (converter : Converter) (first second : α) : UInt8 × UInt8 :=
  match converter.table? with
  | some (.pairs entry) => entry (pairWord first second)
  | some (.parts entry) => (partEntry entry second, partEntry entry first)
  | none =>
      if converter.swap then (Sample.native second, Sample.native first)
      else (Sample.native first, Sample.native second)

/-- The native bytes of a row of pairs; half a pair at the end is left out. -/
def pairBytes (converter : Converter) : List α → Bytes
  | first :: second :: rest =>
      let bytes := converter.pair first second
      bytes.1 :: bytes.2 :: converter.pairBytes rest
  | _ => []

/-- The native bytes of a row of samples. -/
def bytes (converter : Converter) (samples : List α) : Bytes :=
  if converter.format.complex then converter.pairBytes samples else samples.map Sample.native

/-- How many whole elements both a row of samples and a row of bytes have room
for. -/
def elements (converter : Converter) (samples room : Nat) : Nat :=
  min (samples / converter.format.width) (room / converter.format.width)

/-- Converts as many whole elements as fit over the start of `output`.  The
answer is their number and the output afterwards. -/
def fill (converter : Converter) (samples : List α) (output : Bytes) : Nat × Bytes :=
  let count := converter.elements samples.length output.length
  let used := count * converter.format.width
  (count, converter.bytes (samples.take used) ++ output.drop used)

/-- As `fill`, for samples whose type has yet to be checked. -/
def convert (converter : Converter) (samples : List α) (output : Bytes) :
    Except StreamError (Nat × Bytes) :=
  if Sample.component α ≠ converter.format.component then
    .error (.formatMismatch converter.format (Sample.component α))
  else .ok (converter.fill samples output)

end

/-! ## Elementary facts -/

/-- A row of an even number of samples gives one byte per sample. -/
theorem length_pairBytes {α : Type} [Sample α] (converter : Converter) :
    ∀ samples : List α, (converter.pairBytes samples).length = 2 * (samples.length / 2)
  | [] => by simp [pairBytes]
  | [_] => by simp [pairBytes]
  | first :: second :: rest => by
      have step := length_pairBytes converter rest
      simp only [pairBytes, List.length_cons, step]
      omega

/-- A row of whole elements gives one byte per component. -/
theorem length_bytes {α : Type} [Sample α] (converter : Converter) (samples : List α) (count : Nat)
    (whole : samples.length = count * converter.format.width) :
    (converter.bytes samples).length = count * converter.format.width := by
  unfold bytes
  split
  · rename_i complex
    have pairs : samples.length = count * 2 := by
      rw [whole, SampleFormat.width, if_pos complex]
    rw [length_pairBytes, SampleFormat.width, if_pos complex, pairs]
    omega
  · simpa using whole

/-- How many samples, and how many bytes, the elements take that are converted. -/
def used (converter : Converter) (samples room : Nat) : Nat :=
  converter.elements samples room * converter.format.width

theorem used_le (converter : Converter) (samples room : Nat) :
    converter.used samples room ≤ samples ∧ converter.used samples room ≤ room :=
  ⟨Nat.le_trans (Nat.mul_le_mul_right _ (Nat.min_le_left _ _)) (Nat.div_mul_le_self _ _),
    Nat.le_trans (Nat.mul_le_mul_right _ (Nat.min_le_right _ _)) (Nat.div_mul_le_self _ _)⟩

theorem fill_eq {α : Type} [Sample α] (converter : Converter) (samples : List α)
    (output : Bytes) :
    converter.fill samples output =
      (converter.elements samples.length output.length,
        converter.bytes (samples.take (converter.used samples.length output.length)) ++
          output.drop (converter.used samples.length output.length)) := rfl

/-- The samples that are converted are whole elements. -/
theorem length_take_used {α : Type} (converter : Converter) (samples : List α) (room : Nat) :
    (samples.take (converter.used samples.length room)).length =
      converter.used samples.length room := by
  rw [List.length_take, Nat.min_eq_left (converter.used_le samples.length room).1]

theorem convert_of_ne {α : Type} [Sample α] (converter : Converter) (samples : List α)
    (output : Bytes) (different : Sample.component α ≠ converter.format.component) :
    converter.convert samples output =
      .error (.formatMismatch converter.format (Sample.component α)) := by
  rw [convert, if_pos different]

end Converter

end DacStream
