import DacStream.Proofs.TableConversion

/-!
# What a conversion does, byte by byte

A conversion takes as many whole elements as both sides have room for.  For every
component it writes one byte, by the rule of the type of samples, and where pairs are
exchanged the byte comes from the other component of the pair.  What lies behind these
bytes is left alone (`Converter.Converts`).

There is only one such conversion (`Converter.Converts.unique`), and it puts the plain row
of bytes over the start of the output (`Converter.converts_plain`).  For the types of
samples that belong to the five component types every converter does just this, by pairs,
by parts or by rule (`Converter.convert_builtin`).
-/

namespace DacStream

set_option autoImplicit false

/-! ## Exchanged pairs, byte by byte -/

namespace Bytes

theorem length_exchangePairs : ∀ bytes : Bytes, bytes.exchangePairs.length = bytes.length
  | [] | [_] => rfl
  | first :: second :: rest => by
      simp only [exchangePairs, List.length_cons, length_exchangePairs rest]

theorem getElem?_exchangePairs : ∀ (bytes : Bytes) (element part : Nat), part < 2 →
    element * 2 + 1 < bytes.length →
      bytes.exchangePairs[element * 2 + part]? = bytes[element * 2 + (1 - part)]?
  | [], _, _, _, inside | [_], _, _, _, inside => by simp at inside
  | first :: second :: rest, 0, part, few, _ => by
      obtain rfl | rfl : part = 0 ∨ part = 1 := by omega
      all_goals rfl
  | first :: second :: rest, element + 1, part, few, inside => by
      have shorter : element * 2 + 1 < rest.length := by
        simp only [List.length_cons] at inside
        omega
      have next (offset : Nat) : (element + 1) * 2 + offset = (element * 2 + offset) + 2 := by omega
      rw [next, next]
      exact getElem?_exchangePairs rest element part few shorter

end Bytes

/-! ## The conversion that is asked for -/

namespace Converter

variable {α : Type} [Sample α]

/-- The component that a byte of an element is converted from. -/
def source (converter : Converter) (element part : Nat) : Nat :=
  element * converter.format.width +
    if converter.format.complex && converter.swap then 1 - part else part

/-- What it means that `count` elements were converted over the start of `output`, which
is `written` afterwards. -/
structure Converts (converter : Converter) (samples : List α) (output : Bytes) (count : Nat)
    (written : Bytes) : Prop where
  /-- As many whole elements as there are on both sides. -/
  elements : count =
    min (samples.length / converter.format.width) (output.length / converter.format.width)
  length : written.length = output.length
  /-- Every byte of an element is that of its component, by the rule. -/
  converted : ∀ element part, element < count → part < converter.format.width →
    ∃ sample, samples[converter.source element part]? = some sample ∧
      written[element * converter.format.width + part]? = some (Sample.native sample)
  /-- Every byte behind the elements is as it was. -/
  kept : ∀ index, count * converter.format.width ≤ index → written[index]? = output[index]?

theorem source_lt (converter : Converter) {count element part : Nat} (inside : element < count)
    (few : part < converter.format.width) :
    converter.source element part < count * converter.format.width := by
  have next : (element + 1) * converter.format.width ≤ count * converter.format.width :=
    Nat.mul_le_mul_right _ inside
  rw [Nat.add_mul, Nat.one_mul] at next
  unfold source
  split
  · rename_i exchanged
    have two : converter.format.width = 2 := if_pos (Bool.and_eq_true_iff.mp exchanged).1
    omega
  · omega

theorem length_plain (converter : Converter) (samples : List α) :
    (converter.plain samples).length = samples.length := by
  unfold plain
  split <;> simp [Bytes.length_exchangePairs]

/-- The plain row of bytes, byte by byte. -/
theorem getElem?_plain (converter : Converter) {samples : List α} {count element part : Nat}
    (whole : samples.length = count * converter.format.width) (inside : element < count)
    (few : part < converter.format.width) :
    (converter.plain samples)[element * converter.format.width + part]? =
      samples[converter.source element part]?.map Sample.native := by
  unfold plain source
  split
  · rename_i exchanged
    have two : converter.format.width = 2 := if_pos (Bool.and_eq_true_iff.mp exchanged).1
    rw [two] at whole few ⊢
    rw [Bytes.getElem?_exchangePairs _ _ _ few (by rw [List.length_map]; omega), List.getElem?_map]
  · rw [List.getElem?_map]

/-- Putting the plain row of bytes over the start of the output is such a conversion. -/
theorem converts_plain (converter : Converter) (samples : List α) (output : Bytes) :
    converter.Converts samples output (converter.elements samples.length output.length)
      (converter.plain (samples.take (converter.used samples.length output.length)) ++
        output.drop (converter.used samples.length output.length)) := by
  obtain ⟨enough, room⟩ := converter.used_le samples.length output.length
  have whole := converter.length_take_used samples output.length
  have plainLength := (converter.length_plain _).trans whole
  refine ⟨rfl, ?_, ?_, ?_⟩
  · rw [List.length_append, plainLength, List.length_drop]
    omega
  · intro element part inside few
    have before : converter.source element part < converter.used samples.length output.length :=
      converter.source_lt inside few
    have within : element * converter.format.width + part <
        converter.used samples.length output.length := by
      have next := Nat.mul_le_mul_right converter.format.width inside
      rw [Nat.succ_mul] at next
      exact Nat.lt_of_lt_of_le (Nat.add_lt_add_left few _) next
    have found := List.getElem?_eq_getElem (Nat.lt_of_lt_of_le before enough)
    refine ⟨_, found, ?_⟩
    rw [List.getElem?_append_left (Nat.lt_of_lt_of_eq within plainLength.symm),
      converter.getElem?_plain whole inside few, List.getElem?_take_of_lt before, found,
      Option.map_some]
  · intro index behind
    have after : converter.used samples.length output.length ≤ index := behind
    rw [List.getElem?_append_right (Nat.le_trans (Nat.le_of_eq plainLength) after), plainLength,
      List.getElem?_drop, Nat.add_sub_cancel' after]

/-- There is only one conversion. -/
theorem Converts.unique {converter : Converter} {samples : List α} {output written other : Bytes}
    {count counted : Nat} (converts : converter.Converts samples output count written)
    (otherwise : converter.Converts samples output counted other) :
    count = counted ∧ written = other := by
  obtain rfl : count = counted := converts.elements.trans otherwise.elements.symm
  refine ⟨rfl, List.ext_getElem? fun index => ?_⟩
  by_cases inside : index < count * converter.format.width
  · have inElement : index / converter.format.width < count :=
      Nat.div_lt_of_lt_mul (by rwa [Nat.mul_comm])
    have inPart : index % converter.format.width < converter.format.width :=
      Nat.mod_lt _ converter.format.width_pos
    have place : index / converter.format.width * converter.format.width +
        index % converter.format.width = index := Nat.div_add_mod' _ _
    obtain ⟨sample, found, byte⟩ := converts.converted _ _ inElement inPart
    obtain ⟨same, foundToo, byteToo⟩ := otherwise.converted _ _ inElement inPart
    obtain rfl := Option.some.inj (found.symm.trans foundToo)
    rw [place] at byte byteToo
    rw [byte, byteToo]
  · have behind := Nat.le_of_not_lt inside
    rw [converts.kept index behind, otherwise.kept index behind]

/-- A converter converts exactly if its bytes are the plain ones. -/
theorem fill_converts_iff (converter : Converter) (samples : List α) (output : Bytes) :
    converter.Converts samples output (converter.fill samples output).1
        (converter.fill samples output).2 ↔
      converter.bytes (samples.take (converter.used samples.length output.length)) =
        converter.plain (samples.take (converter.used samples.length output.length)) := by
  have plain := converter.converts_plain samples output
  constructor
  · intro converts
    exact List.append_cancel_right (converts.unique plain).2
  · intro same
    rw [← same] at plain
    exact plain

end Converter

/-! ## The types of samples -/

namespace Component

/-- The type of the samples that a component type stands for. -/
def Builtin : Component → Type
  | .f32 => Float32
  | .s16 => Int16
  | .s8 => Int8
  | .u16 => UInt16
  | .u8 => UInt8

instance : (component : Component) → Sample component.Builtin
  | .f32 => inferInstanceAs (Sample Float32)
  | .s16 => inferInstanceAs (Sample Int16)
  | .s8 => inferInstanceAs (Sample Int8)
  | .u16 => inferInstanceAs (Sample UInt16)
  | .u8 => inferInstanceAs (Sample UInt8)

theorem component_builtin (component : Component) :
    Sample.component component.Builtin = component := by
  cases component <;> rfl

instance (component : Component) : TabulatedSample component.Builtin := by
  cases component with
  | f32 => exact inferInstanceAs (TabulatedSample Float32)
  | s16 => exact inferInstanceAs (TabulatedSample Int16)
  | s8 => exact inferInstanceAs (TabulatedSample Int8)
  | u16 => exact inferInstanceAs (TabulatedSample UInt16)
  | u8 => exact inferInstanceAs (TabulatedSample UInt8)

end Component

/-! ## Conversion of the types of samples -/

namespace Converter

/-- The answer of a conversion, and the output afterwards, which a refused conversion
leaves as it is. -/
def convertInto {α : Type} [Sample α] (converter : Converter) (samples : List α)
    (output : Bytes) : Except StreamError Nat × Bytes :=
  match converter.convert samples output with
  | .ok (count, written) => (.ok count, written)
  | .error error => (.error error, output)

/-- **Tables make no difference**: of the type of samples that belongs to its format, every
converter converts every component by the rule of the type, and samples of another
component type it refuses. -/
theorem convert_builtin (converter : Converter) (output : Bytes) :
    (∀ samples : List converter.format.component.Builtin, ∃ count written,
      converter.convertInto samples output = (.ok count, written) ∧
        converter.Converts samples output count written) ∧
    ∀ (α : Type) [Sample α] (samples : List α),
      Sample.component α ≠ converter.format.component →
        converter.convertInto samples output =
          (.error (.formatMismatch converter.format (Sample.component α)), output) := by
  constructor
  · intro samples
    have matching := converter.format.component.component_builtin
    refine ⟨_, _, ?_, (converter.fill_converts_iff samples output).mpr
      (converter.bytes_eq_plain matching (converter.length_take_used _ _))⟩
    simp [convertInto, convert, matching]
  · intro α _ samples different
    rw [convertInto, converter.convert_of_ne samples output different]

/-- Exchanged pairs of signed bytes, with half a pair and half an element to spare; and
samples of another component type. -/
theorem convert_builtin_exchanged :
    let converter : Converter := ⟨⟨.s8, true⟩, true⟩
    converter.convertInto ([1, -2, 3] : List Int8) [9, 9, 9] = (.ok 1, [126, 129, 9]) ∧
      (∃ count written,
        converter.convertInto ([1, -2, 3] : List Int8) [9, 9, 9] = (.ok count, written) ∧
          converter.Converts ([1, -2, 3] : List Int8) [9, 9, 9] count written) ∧
      Sample.component UInt8 ≠ converter.format.component ∧
      converter.convertInto ([1, 2] : List UInt8) [9, 9, 9] =
        (.error (.formatMismatch converter.format .u8), [9, 9, 9]) := by
  intro converter
  obtain ⟨converts, refuses⟩ := convert_builtin converter [9, 9, 9]
  have different : Sample.component UInt8 ≠ converter.format.component := by decide
  exact ⟨by decide, converts ([1, -2, 3] : List Int8), different, refuses UInt8 [1, 2] different⟩

end Converter

end DacStream
