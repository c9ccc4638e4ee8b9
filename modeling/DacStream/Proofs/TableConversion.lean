import DacStream.Sample.Conversion
import Mathlib.Data.List.Basic

/-!
# Tables and rules agree

A table was filled from the rule of the type it was made for.  So converting by
the table gives what the rule gives, for every type whose samples have the bits of
that type as their index (`TabulatedSample`).  The five types of samples are such.
For them a converter does just what its description says: every sample by the rule
of its type, and the parts of a pair exchanged if that is asked for
(`Converter.bytes_eq_plain`).
-/

namespace DacStream

set_option autoImplicit false

/-! ## What is asked of a conversion -/

/-- Exchanges the bytes of each pair. -/
def Bytes.exchangePairs : Bytes → Bytes
  | first :: second :: rest => second :: first :: exchangePairs rest
  | rest => rest

/-- Every sample by the rule of its type, and pairs exchanged if asked for. -/
def Converter.plain {α : Type} [Sample α] (converter : Converter) (samples : List α) : Bytes :=
  let native := samples.map Sample.native
  if converter.format.complex && converter.swap then Bytes.exchangePairs native else native

/-- A table gives what the rule of a type gives. -/
def Table.Agrees (α : Type) [Sample α] : Table → Prop
  | .pairs entry =>
      ∀ first second : α, entry (pairWord first second) = (Sample.native second, Sample.native first)
  | .parts entry => ∀ sample : α, partEntry entry sample = Sample.native sample

/-- A type of samples for which the table of its components, if there is one, gives
what its own rule gives. -/
class TabulatedSample (α : Type) [Sample α] : Prop where
  agrees : ∀ table, Table.ofComponent? (Sample.component α) = some table → table.Agrees α

/-! ## The tables -/

/-- A word of two bytes, as a number. -/
theorem toNat_word (low high : UInt8) :
    ((low.toUInt16 &&& (0xFF : UInt16)) ||| (high.toUInt16 <<< (8 : UInt16))).toNat =
      256 * high.toNat + low.toNat := by
  have lowBound := low.toNat_lt
  have highBound := high.toNat_lt
  have lowPart : low.toNat &&& 2 ^ 8 - 1 = low.toNat := by
    rw [Nat.and_two_pow_sub_one_eq_mod, Nat.mod_eq_of_lt lowBound]
  have highPart : high.toNat <<< 8 % 2 ^ 16 = 2 ^ 8 * high.toNat := by
    rw [Nat.shiftLeft_eq, Nat.mod_eq_of_lt (by omega), Nat.mul_comm]
  show _ = 2 ^ 8 * high.toNat + low.toNat
  rw [Nat.two_pow_add_eq_or_of_lt lowBound, ← lowPart, ← highPart, Nat.or_comm]
  rfl

theorem word_low (low high : UInt8) :
    (((low.toUInt16 &&& (0xFF : UInt16)) ||| (high.toUInt16 <<< (8 : UInt16))) &&& 0xFF).toUInt8 =
      low := by
  have lowBound := low.toNat_lt
  apply UInt8.toNat_inj.mp
  rw [UInt16.toNat_toUInt8, UInt16.toNat_and, toNat_word]
  show (_ &&& 2 ^ 8 - 1) % 2 ^ 8 = _
  rw [Nat.and_two_pow_sub_one_eq_mod]
  omega

theorem word_high (low high : UInt8) :
    (((low.toUInt16 &&& (0xFF : UInt16)) ||| (high.toUInt16 <<< (8 : UInt16))) >>> 8).toUInt8 =
      high := by
  have lowBound := low.toNat_lt
  have highBound := high.toNat_lt
  apply UInt8.toNat_inj.mp
  rw [UInt16.toNat_toUInt8, UInt16.toNat_shiftRight, toNat_word]
  show (_ >>> 8) % 2 ^ 8 = _
  rw [Nat.shiftRight_eq_div_pow]
  omega

instance : TabulatedSample Int8 where
  agrees := by
    rintro table ⟨⟩ first second
    show exchangedPair Int8 _ = _
    simp only [exchangedPair, pairWord, Sample.tableIndex?, WordSample.ofBits, Option.getD_some,
      word_low, word_high, UInt8.toInt8]

instance : TabulatedSample UInt8 where
  agrees := by
    rintro table ⟨⟩ first second
    simp only [exchangedPair, pairWord, Sample.tableIndex?, WordSample.ofBits, Option.getD_some,
      word_low, word_high]

instance : TabulatedSample Int16 where
  agrees := by
    rintro table ⟨⟩ sample
    simp only [partEntry, Sample.tableIndex?, nativeOfBits, WordSample.ofBits, toInt16_toUInt16]

instance : TabulatedSample UInt16 where
  agrees := by
    rintro table ⟨⟩ sample
    rfl

instance : TabulatedSample Float32 where
  agrees := by
    rintro table ⟨⟩

/-! ## Conversion -/

namespace Converter

section

variable {α : Type} [Sample α]

/-- Only exchanged pairs go through a table. -/
theorem swap_of_table {converter : Converter} {table : Table}
    (made : converter.table? = some table) : converter.swap = true := by
  unfold table? at made
  split at made
  · rename_i exchanged
    exact (Bool.and_eq_true_iff.mp exchanged).2
  · exact nomatch made

/-- The table of a converter is that of its components. -/
theorem agrees_of_tabulated [TabulatedSample α] {converter : Converter}
    (matching : Sample.component α = converter.format.component) (table : Table)
    (made : converter.table? = some table) : table.Agrees α := by
  refine TabulatedSample.agrees table ?_
  unfold table? at made
  split at made
  · rwa [matching]
  · exact nomatch made

/-- If the table of a converter, if it has one, gives what the rule gives, so does the
converter. -/
theorem pair_eq {converter : Converter}
    (agrees : ∀ table, converter.table? = some table → table.Agrees α) (first second : α) :
    converter.pair first second =
      if converter.swap then (Sample.native second, Sample.native first)
      else (Sample.native first, Sample.native second) := by
  unfold pair
  cases made : converter.table? with
  | none => rfl
  | some table =>
      have rule := agrees table made
      rw [if_pos (swap_of_table made)]
      cases table with
      | pairs entry => exact rule first second
      | parts entry => exact Prod.ext (rule second) (rule first)

theorem pairBytes_eq {converter : Converter}
    (agrees : ∀ table, converter.table? = some table → table.Agrees α) :
    ∀ samples : List α, samples.length % 2 = 0 →
      converter.pairBytes samples =
        if converter.swap then Bytes.exchangePairs (samples.map Sample.native)
        else samples.map Sample.native
  | [], _ => by simp [pairBytes, Bytes.exchangePairs]
  | [_], odd => by simp at odd
  | first :: second :: rest, even => by
      have shorter : rest.length % 2 = 0 := by
        simp only [List.length_cons] at even
        omega
      have inductionHypothesis := pairBytes_eq agrees rest shorter
      simp only [pairBytes, inductionHypothesis, pair_eq agrees]
      cases converter.swap <;> simp [Bytes.exchangePairs]

/-- Whole elements of pairs are of an even number of samples. -/
theorem even_of_whole {format : SampleFormat} (complex : format.complex = true)
    {length count : Nat} (whole : length = count * format.width) : length % 2 = 0 := by
  rw [whole, SampleFormat.width, if_pos complex]
  exact Nat.mul_mod_left _ _

theorem bytes_eq_of_agrees {converter : Converter}
    (agrees : ∀ table, converter.table? = some table → table.Agrees α) {samples : List α}
    {count : Nat} (whole : samples.length = count * converter.format.width) :
    converter.bytes samples = converter.plain samples := by
  unfold bytes plain
  cases complex : converter.format.complex with
  | false => simp
  | true =>
      simpa using pairBytes_eq agrees samples (even_of_whole complex whole)

/-- **A converter converts every sample by the rule of its type** and exchanges the
parts of pairs if asked to, whatever tables it uses for that. -/
theorem bytes_eq_plain [TabulatedSample α] (converter : Converter)
    (matching : Sample.component α = converter.format.component) {samples : List α} {count : Nat}
    (whole : samples.length = count * converter.format.width) :
    converter.bytes samples = converter.plain samples :=
  bytes_eq_of_agrees (agrees_of_tabulated matching) whole

/-- Where samples and bytes are of the same number of elements, all of the bytes are
converted samples. -/
theorem fill_whole (converter : Converter) {samples : List α} {output : Bytes} {count : Nat}
    (wholeInput : samples.length = count * converter.format.width)
    (wholeOutput : output.length = count * converter.format.width) :
    converter.fill samples output = (count, converter.bytes samples) := by
  have all : converter.elements samples.length output.length = count := by
    rw [elements, wholeInput, wholeOutput, Nat.mul_div_cancel _ converter.format.width_pos,
      Nat.min_self]
  have every : samples.take (count * converter.format.width) = samples := by
    rw [← wholeInput, List.take_length]
  have none : output.drop (count * converter.format.width) = [] := by
    rw [← wholeOutput, List.drop_length]
  simp only [fill, all, every, none, List.append_nil]

end

end Converter

end DacStream
