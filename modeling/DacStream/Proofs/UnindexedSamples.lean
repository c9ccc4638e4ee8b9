import DacStream.Proofs.ConversionRules

/-!
# Samples without an index

A type of samples may keep out of the tables by giving its samples no index.  A table of
parts is then passed over for the rule of the type.  A table of pairs is not: it is asked
for a pair of silent indices, whatever the samples are, and gives one and the same byte for
all of them (`Converter.unindexedByte?`).

So samples without an index are converted by their rule, except where pairs of 8-bit
components are exchanged; there the bytes are right only if every sample happens to have
that one byte (`Converter.convert_unindexed`).
-/

namespace DacStream

set_option autoImplicit false

namespace Bytes

theorem mem_exchangePairs (byte : UInt8) : ∀ bytes : Bytes,
    byte ∈ bytes.exchangePairs ↔ byte ∈ bytes
  | [] | [_] => Iff.rfl
  | first :: second :: rest => by
      simp only [exchangePairs, List.mem_cons, mem_exchangePairs byte rest]
      exact or_left_comm

end Bytes

namespace Converter

/-- The byte that a converter writes for every sample without an index, where it does not
go by the rule of the type. -/
def unindexedByte? (converter : Converter) : Option UInt8 :=
  if converter.format.complex && converter.swap then
    match converter.format.component with
    | .s8 => some 0
    | .u8 => some midScale
    | .s16 | .u16 | .f32 => none
  else none

variable {α : Type} [Sample α] {converter : Converter}

/-- A pair of samples without an index counts as a pair of silent indices. -/
theorem pairWord_unindexed (unindexed : ∀ sample : α, Sample.tableIndex? sample = none)
    (first second : α) : pairWord first second = 0x8080 := by
  simp only [pairWord, unindexed, Option.getD_none]
  rfl

/-- A table of parts is passed over. -/
theorem agrees_of_unindexed (unindexed : ∀ sample : α, Sample.tableIndex? sample = none)
    (byRule : converter.unindexedByte? = none) (table : Table)
    (made : converter.table? = some table) : table.Agrees α := by
  unfold table? at made
  unfold unindexedByte? at byRule
  split at made
  · rename_i exchanged
    rw [if_pos exchanged] at byRule
    cases component : converter.format.component <;> rw [component] at made byRule <;>
      cases made
    · exact fun sample => by rw [partEntry, unindexed]
    · exact nomatch byRule
    · exact fun sample => by rw [partEntry, unindexed]
    · exact nomatch byRule
  · exact nomatch made

/-- A table of pairs gives the same byte for both samples, whatever they are. -/
theorem pair_unindexed (unindexed : ∀ sample : α, Sample.tableIndex? sample = none)
    {byte : UInt8} (constant : converter.unindexedByte? = some byte) (first second : α) :
    converter.pair first second = (byte, byte) := by
  unfold unindexedByte? at constant
  split at constant
  · rename_i exchanged
    unfold pair table?
    rw [if_pos exchanged]
    cases component : converter.format.component <;> rw [component] at constant <;>
      cases constant
    all_goals
      simp only [Table.ofComponent?, pairWord_unindexed unindexed]
      rfl
  · exact nomatch constant

theorem pairBytes_unindexed (unindexed : ∀ sample : α, Sample.tableIndex? sample = none)
    {byte : UInt8} (constant : converter.unindexedByte? = some byte) :
    ∀ samples : List α, samples.length % 2 = 0 →
      converter.pairBytes samples = List.replicate samples.length byte
  | [], _ => rfl
  | [_], odd => by simp at odd
  | first :: second :: rest, even => by
      have shorter : rest.length % 2 = 0 := by
        simp only [List.length_cons] at even
        omega
      rw [pairBytes, pair_unindexed unindexed constant,
        pairBytes_unindexed unindexed constant rest shorter]
      rfl

theorem bytes_unindexed (unindexed : ∀ sample : α, Sample.tableIndex? sample = none)
    {byte : UInt8} (constant : converter.unindexedByte? = some byte) {samples : List α}
    {count : Nat} (whole : samples.length = count * converter.format.width) :
    converter.bytes samples = List.replicate samples.length byte := by
  have complex : converter.format.complex = true := by
    unfold unindexedByte? at constant
    split at constant
    · rename_i exchanged
      exact (Bool.and_eq_true_iff.mp exchanged).1
    · exact nomatch constant
  rw [bytes, if_pos complex]
  exact pairBytes_unindexed unindexed constant samples (even_of_whole complex whole)

theorem mem_plain (converter : Converter) (samples : List α) (byte : UInt8) :
    byte ∈ converter.plain samples ↔ ∃ sample ∈ samples, Sample.native sample = byte := by
  unfold plain
  split <;> simp [Bytes.mem_exchangePairs]

/-- A row of one byte is the plain one if every sample has this byte. -/
theorem replicate_eq_plain_iff (converter : Converter) (samples : List α) (byte : UInt8) :
    List.replicate samples.length byte = converter.plain samples ↔
      ∀ sample ∈ samples, Sample.native sample = byte := by
  rw [eq_comm, List.eq_replicate_iff]
  simp [length_plain, mem_plain]

/-- **Samples without an index are converted by their rule**, unless pairs of 8-bit
components are exchanged: then all their bytes are the same, and they are right only if
the rule gives this byte for every sample. -/
theorem convert_unindexed (converter : Converter)
    (unindexed : ∀ sample : α, Sample.tableIndex? sample = none)
    (matching : Sample.component α = converter.format.component) (samples : List α)
    (output : Bytes) :
    ∃ count written, converter.convertInto samples output = (.ok count, written) ∧
      (converter.Converts samples output count written ↔
        ∀ byte, converter.unindexedByte? = some byte →
          ∀ sample ∈ samples.take (count * converter.format.width),
            Sample.native sample = byte) ∧
      ∀ byte, converter.unindexedByte? = some byte →
        written = List.replicate (count * converter.format.width) byte ++
          output.drop (count * converter.format.width) := by
  have whole := converter.length_take_used samples output.length
  refine ⟨_, _, by simp only [convertInto, convert, matching, ne_eq, not_true_eq_false, if_false],
    (converter.fill_converts_iff samples output).trans ?_, ?_⟩
  · cases constant : converter.unindexedByte? with
    | none =>
        -- Whatever table there is, it is one of parts, and these are passed over.
        have plain := bytes_eq_of_agrees (agrees_of_unindexed unindexed constant) whole
        exact iff_of_true plain (by rintro _ ⟨⟩)
    | some byte =>
        rw [bytes_unindexed unindexed constant whole, replicate_eq_plain_iff]
        constructor
        · rintro same _ ⟨⟩
          exact same
        · exact fun same => same byte rfl
  · intro byte constant
    rw [fill_eq, bytes_unindexed unindexed constant whole, whole]
    rfl

/-- Signed bytes that keep their index to themselves, as exchanged pairs: both bytes come
out as 0, whatever they were. -/
theorem unindexed_pairs_unconverted :
    let converter : Converter := ⟨⟨.s8, true⟩, true⟩
    let samples : List (Unindexed Int8) := [⟨1⟩, ⟨2⟩]
    (∀ sample : Unindexed Int8, Sample.tableIndex? sample = none) ∧
      Sample.component (Unindexed Int8) = converter.format.component ∧
      converter.convertInto samples [9, 9] = (.ok 1, [0, 0]) ∧
      converter.plain samples = [130, 129] ∧
      ¬ ∃ count written, converter.convertInto samples [9, 9] = (.ok count, written) ∧
        converter.Converts samples [9, 9] count written := by
  intro converter samples
  have answer : converter.convertInto samples [9, 9] = (.ok 1, [0, 0]) := by decide
  refine ⟨fun _ => rfl, rfl, answer, by decide, ?_⟩
  rintro ⟨count, written, same, converts⟩
  obtain ⟨⟨⟩, rfl⟩ := Prod.ext_iff.mp (answer.symm.trans same)
  have plain := (converts.unique (converter.converts_plain samples [9, 9])).2
  exact absurd plain (by decide)

/-- The same with 16-bit components, which go by their rule, and with two signed bytes
that their rule makes 0. -/
theorem convert_unindexed_exchanged :
    let parts : Converter := ⟨⟨.s16, true⟩, true⟩
    let pairs : Converter := ⟨⟨.s8, true⟩, true⟩
    (∀ sample : Unindexed Int16, Sample.tableIndex? sample = none) ∧
      (∀ sample : Unindexed Int8, Sample.tableIndex? sample = none) ∧
      (∃ count written,
        parts.convertInto ([⟨256⟩, ⟨512⟩] : List (Unindexed Int16)) [9, 9] = (.ok count, written) ∧
          parts.Converts ([⟨256⟩, ⟨512⟩] : List (Unindexed Int16)) [9, 9] count written) ∧
      ∃ count written,
        pairs.convertInto ([⟨-128⟩, ⟨-128⟩] : List (Unindexed Int8)) [9, 9] = (.ok count, written) ∧
          pairs.Converts ([⟨-128⟩, ⟨-128⟩] : List (Unindexed Int8)) [9, 9] count written := by
  intro parts pairs
  obtain ⟨count, written, answer, converts, -⟩ :=
    convert_unindexed parts (fun _ => rfl) rfl ([⟨256⟩, ⟨512⟩] : List (Unindexed Int16)) [9, 9]
  obtain ⟨counted, others, answered, converted, -⟩ :=
    convert_unindexed pairs (fun _ => rfl) rfl ([⟨-128⟩, ⟨-128⟩] : List (Unindexed Int8)) [9, 9]
  refine ⟨fun _ => rfl, fun _ => rfl, ⟨count, written, answer, converts.mpr ?_⟩,
    counted, others, answered, converted.mpr ?_⟩
  · exact fun _ byRule => nomatch byRule
  · rintro _ ⟨⟩ sample listed
    have among := List.mem_of_mem_take listed
    simp only [List.mem_cons, List.not_mem_nil, or_false, or_self] at among
    rw [among]
    decide

end Converter

end DacStream
