import DacStream.Proofs.WrittenValues
import DacStream.Stream.Config

/-!
# Options as keys and values

An option that its key gives a value has that value, and any other option has its default
(`StreamOptions.Settled`): a text that holds no number, a zero, a number that is too large
for its word, or a word that is neither yes nor no give none.  No option is told from
another key than its own.

So options can be written and read back (`ofKeyValues_of_writtenIn`), but for a zero where
the default is not zero.  The zero of the buffers in flight is not read, and is the default.

The defaults that are listed for a device are the ones in effect there: who passes them on as
they are listed gets the stream that the plain defaults give (`DefaultsInEffect`).
-/

namespace DacStream

set_option autoImplicit false

namespace StreamOptions

/-! ## What the keys give -/

section

variable {α : Type}

/-- The text under a key, if there is one, holds a value. -/
def Given (text? : Option String) (Holds : String → α → Prop) (value : α) : Prop :=
  ∃ text, text? = some text ∧ Holds text value

/-- An option has the value that it is given, or else the default. -/
def Settled (Given : α → Prop) (default value : α) : Prop :=
  Given value ∨ (∀ other, ¬Given other) ∧ value = default

variable {text? : Option String} {Holds : String → α → Prop} {read : String → Option α}

theorem bind_eq_some_iff_given (exact : ∀ {text value}, read text = some value ↔ Holds text value)
    {value : α} : text?.bind read = some value ↔ Given text? Holds value := by
  rw [Option.bind_eq_some_iff]
  simp only [exact]
  rfl

theorem getD_bind_eq_iff_settled
    (exact : ∀ {text value}, read text = some value ↔ Holds text value) {default value : α} :
    (text?.bind read).getD default = value ↔ Settled (Given text? Holds) default value := by
  have given : ∀ other, text?.bind read = some other ↔ Given text? Holds other :=
    fun _ => bind_eq_some_iff_given exact
  simp only [Settled, ← given]
  cases text?.bind read with
  | none => simp [eq_comm]
  | some found => simp

end

section

variable (entries : List (String × String))

theorem bufferLength_ofKeyValues : (ofKeyValues entries).bufferLength? =
    (entries.lookup OptionKey.bufferLength.name).bind positive64? :=
  Option.or_none

theorem bufferCount_ofKeyValues : (ofKeyValues entries).bufferCount =
    ((entries.lookup OptionKey.bufferCount.name).bind positive64?).getD 4 := rfl

theorem asyncBuffers_ofKeyValues : (ofKeyValues entries).asyncBuffers =
    ((entries.lookup OptionKey.asyncBuffers.name).bind positive32?).getD 0 := rfl

theorem swap_ofKeyValues : (ofKeyValues entries).swap =
    ((entries.lookup OptionKey.swap.name).bind truth?).getD false := rfl

end

/-- Two choices agree on an option. -/
def AgreeOn (first second : StreamOptions) : OptionKey → Prop
  | .bufferLength => first.bufferLength? = second.bufferLength?
  | .bufferCount => first.bufferCount = second.bufferCount
  | .asyncBuffers => first.asyncBuffers = second.asyncBuffers
  | .swap => first.swap = second.swap

theorem eq_of_agreeOn {first second : StreamOptions} (agree : ∀ key, first.AgreeOn second key) :
    first = second := by
  obtain ⟨_, _, _, _⟩ := first
  obtain ⟨_, _, _, _⟩ := second
  have length := agree .bufferLength
  have count := agree .bufferCount
  have async := agree .asyncBuffers
  have swap := agree .swap
  simp only [AgreeOn] at length count async swap
  rw [length, count, async, swap]

/-! ## Writing -/

/-- How an option is spelled.  A length that is left to the device is not. -/
def spelling? (options : StreamOptions) : OptionKey → Option (List Char)
  | .bufferLength => options.bufferLength?.map fun length => Numeral.digits length.toNat
  | .bufferCount => some (Numeral.digits options.bufferCount.toNat)
  | .asyncBuffers => some (Numeral.digits options.asyncBuffers.toNat)
  | .swap => some (if options.swap then "true".toList else "false".toList)

/-- Keys and values have each option under its key as it is spelled, with any blanks around it.
What they have under other keys does not matter. -/
def WrittenIn (options : StreamOptions) (entries : List (String × String)) : Prop :=
  ∀ key, match options.spelling? key with
    | none => entries.lookup key.name = none
    | some word => ∃ text, entries.lookup key.name = some text ∧ Padded text.toList word

/-- The digits of a number hold it, unless it is zero. -/
theorem holdsNumber_of_digits {text : String} {number other : Nat}
    (padded : Padded text.toList (Numeral.digits number)) :
    HoldsNumber text other ↔ other = number ∧ 0 < number := by
  have writes : Numeral.Writes (Numeral.digits number) number :=
    ⟨_, .inl rfl, Numeral.isDecimal_digits number⟩
  rw [holdsNumber_iff_trim, trim_of_padded (Numeral.solid_of_writes writes) padded,
    ← Numeral.read?_eq_some_iff, Numeral.read?_eq_some_iff.mpr writes, Option.some.injEq]
  constructor
  · rintro ⟨rfl, positive⟩
    exact ⟨rfl, positive⟩
  · rintro ⟨rfl, positive⟩
    exact ⟨rfl, positive⟩

theorem holdsTruth_of_word {text : String} {value : Bool}
    (padded : Padded text.toList (if value then "true".toList else "false".toList)) :
    HoldsTruth text value := by
  cases value with
  | true => exact ⟨"true", by decide, _, padded, List.forall₂_same.mpr fun _ _ => .inl rfl⟩
  | false => exact ⟨"false", by decide, _, padded, List.forall₂_same.mpr fun _ _ => .inl rfl⟩

/-- **Options that are written are read back**, but for a buffer length or a number of buffers
that is zero. -/
theorem ofKeyValues_of_writtenIn {options : StreamOptions} {entries : List (String × String)}
    (lengthNotZero : options.bufferLength? ≠ some 0) (countNotZero : 1 ≤ options.bufferCount)
    (written : options.WrittenIn entries) : ofKeyValues entries = options := by
  apply eq_of_agreeOn
  intro key
  have here := written key
  cases key with
  | bufferLength =>
      rw [AgreeOn, bufferLength_ofKeyValues]
      simp only [spelling?] at here
      cases asked : options.bufferLength? with
      | none =>
          rw [asked] at here
          rw [show entries.lookup OptionKey.bufferLength.name = none from here]
          rfl
      | some length =>
          rw [asked] at here
          obtain ⟨text, found, padded⟩ := here
          have positive : 0 < length.toNat := by
            apply Nat.pos_of_ne_zero
            intro zero
            have none : length = 0 := UInt64.toNat_inj.mp zero
            exact lengthNotZero (none ▸ asked)
          rw [found, Option.bind_some, positive64?_eq_some_iff.mpr
            ((holdsNumber_of_digits padded).mpr ⟨rfl, positive⟩)]
  | bufferCount =>
      obtain ⟨text, found, padded⟩ := here
      have positive : 0 < options.bufferCount.toNat := UInt64.le_iff_toNat_le.mp countNotZero
      rw [AgreeOn, bufferCount_ofKeyValues, found, Option.bind_some, positive64?_eq_some_iff.mpr
        ((holdsNumber_of_digits padded).mpr ⟨rfl, positive⟩)]
      rfl
  | asyncBuffers =>
      obtain ⟨text, found, padded⟩ := here
      rw [AgreeOn, asyncBuffers_ofKeyValues, getD_bind_eq_iff_settled positive32?_eq_some_iff]
      by_cases zero : options.asyncBuffers.toNat = 0
      · -- A zero is not read, and the default is zero.
        refine .inr ⟨?_, UInt32.toNat_inj.mp zero⟩
        rintro other ⟨otherText, same, holds⟩
        obtain rfl := Option.some.inj (found.symm.trans same)
        have positive := ((holdsNumber_of_digits padded).mp holds).2
        omega
      · exact .inl ⟨text, found,
          (holdsNumber_of_digits padded).mpr ⟨rfl, Nat.pos_of_ne_zero zero⟩⟩
  | swap =>
      obtain ⟨text, found, padded⟩ := here
      rw [AgreeOn, swap_ofKeyValues, found, Option.bind_some,
        truth?_eq_some_iff.mpr (holdsTruth_of_word padded)]
      rfl

/-! ## Reading -/

/-- How options are told from keys and values. -/
structure ReadsKeyValues (entries : List (String × String)) : Prop where
  /-- Each option is what the text under its key holds, or else the default.  The default of
  the buffer length is to have none. -/
  bufferLength : ∀ length, (ofKeyValues entries).bufferLength? = some length ↔
    Given (entries.lookup "bufflen") (fun text number => HoldsNumber text number.toNat) length
  bufferCount : ∀ count, (ofKeyValues entries).bufferCount = count ↔
    Settled (Given (entries.lookup "buffers") fun text (number : UInt64) =>
      HoldsNumber text number.toNat) 4 count
  asyncBuffers : ∀ count, (ofKeyValues entries).asyncBuffers = count ↔
    Settled (Given (entries.lookup "asyncBuffs") fun text (number : UInt32) =>
      HoldsNumber text number.toNat) 0 count
  swap : ∀ value, (ofKeyValues entries).swap = value ↔
    Settled (Given (entries.lookup "iq_swap") HoldsTruth) false value
  /-- No option is told from another key than its own. -/
  ownKey : ∀ (key : OptionKey) (other : List (String × String)),
    entries.lookup key.name = other.lookup key.name →
      (ofKeyValues entries).AgreeOn (ofKeyValues other) key
  /-- Options that are written are read back, but for zeros that are no defaults. -/
  readBack : ∀ options : StreamOptions, options.bufferLength? ≠ some 0 →
    1 ≤ options.bufferCount → options.WrittenIn entries → ofKeyValues entries = options

/-- **Keys and values are read exactly**: an option is overridden by what the text under its key
holds, if it holds a value at all, and by nothing else. -/
theorem key_values_read (entries : List (String × String)) : ReadsKeyValues entries where
  bufferLength := by
    intro length
    rw [bufferLength_ofKeyValues]
    exact bind_eq_some_iff_given positive64?_eq_some_iff
  bufferCount := fun _ => getD_bind_eq_iff_settled positive64?_eq_some_iff
  asyncBuffers := fun _ => getD_bind_eq_iff_settled positive32?_eq_some_iff
  swap := fun _ => getD_bind_eq_iff_settled truth?_eq_some_iff
  ownKey := by
    intro key other same
    cases key <;> simp only [AgreeOn, ofKeyValues, same]
  readBack := fun _ lengthNotZero countNotZero written =>
    ofKeyValues_of_writtenIn lengthNotZero countNotZero written

/-- Blanks, a sign, zeros in front and capitals are read past, and a number that is too large is
not read at all. -/
example : ofKeyValues [("buffers", "\t+007 "), ("iq_swap", "YeS"), ("asyncBuffs", "4294967296"),
    ("bufflen", "18446744073709551615")] = ⟨some 18446744073709551615, 7, 0, true⟩ := by
  decide

end StreamOptions

/-! ## The defaults of a device -/

/-- The keys and values of the options that are listed for a device. -/
def DeviceLimits.advertised (limits : DeviceLimits) : List (String × String) :=
  (OptionInfo.catalogue limits).map fun info => (info.key, info.value)

namespace DeviceLimits

variable (limits : DeviceLimits)

/-- The value that is listed for an option. -/
def listed : OptionKey → String
  | .bufferLength => toString limits.usualLength
  | .bufferCount => "4"
  | .asyncBuffers => "0"
  | .swap => "false"

theorem lookup_advertised (key : OptionKey) :
    limits.advertised.lookup key.name = some (limits.listed key) := by
  cases key <;> rfl

theorem padded_toString (number : UInt64) :
    Padded (toString number).toList (Numeral.digits number.toNat) := by
  refine ⟨[], [], ?_, by simp, by simp⟩
  rw [List.nil_append, List.append_nil]
  exact Nat.toList_repr

/-- Read back, the listed defaults are the plain ones, and the usual length besides if it is not
zero. -/
theorem ofKeyValues_advertised :
    StreamOptions.ofKeyValues limits.advertised =
      { bufferLength? := if limits.usualLength = 0 then none else some limits.usualLength } := by
  apply StreamOptions.eq_of_agreeOn
  intro key
  cases key with
  | bufferLength =>
      have held : ∀ number : UInt64,
          StreamOptions.positive64? (toString limits.usualLength) = some number ↔
            number.toNat = limits.usualLength.toNat ∧ 0 < limits.usualLength.toNat := fun _ =>
        StreamOptions.positive64?_eq_some_iff.trans
          (StreamOptions.holdsNumber_of_digits (padded_toString limits.usualLength))
      rw [StreamOptions.AgreeOn, StreamOptions.bufferLength_ofKeyValues, lookup_advertised, listed,
        Option.bind_some]
      by_cases zero : limits.usualLength = 0
      · rw [if_pos zero, Option.eq_none_iff_forall_ne_some]
        intro number read
        have positive := ((held number).mp read).2
        rw [zero] at positive
        exact absurd positive (by decide)
      · rw [if_neg zero, held]
        exact ⟨rfl, Nat.pos_of_ne_zero fun none => zero (UInt64.toNat_inj.mp none)⟩
  | bufferCount =>
      rw [StreamOptions.AgreeOn, StreamOptions.bufferCount_ofKeyValues, lookup_advertised]
      show ((some "4").bind StreamOptions.positive64?).getD 4 = 4
      decide
  | asyncBuffers =>
      rw [StreamOptions.AgreeOn, StreamOptions.asyncBuffers_ofKeyValues, lookup_advertised]
      show ((some "0").bind StreamOptions.positive32?).getD 0 = 0
      decide
  | swap =>
      rw [StreamOptions.AgreeOn, StreamOptions.swap_ofKeyValues, lookup_advertised]
      show ((some "false").bind StreamOptions.truth?).getD false = false
      decide

end DeviceLimits

/-- Options that differ in the length alone, and not in the length in force, decide a request
in the same way. -/
theorem StreamConfig.create_congr_length {request : StreamRequest} {limits : DeviceLimits}
    {length? : Option UInt64} (sameLength :
      length?.getD limits.usualLength = request.options.bufferLength?.getD limits.usualLength) :
    create { request with options := { request.options with bufferLength? := length? } } limits =
      create request limits := by
  have inForce : StreamRequest.bufferLength
      { request with options := { request.options with bufferLength? := length? } } limits =
        request.bufferLength limits := congrArg UInt64.toNat sameLength
  simp only [create, requirements, ofRequest, inForce]
  rfl

/-- What it means that the defaults that are listed for a device are in effect on it. -/
structure DefaultsInEffect (limits : DeviceLimits) : Prop where
  /-- No key is listed twice. -/
  distinct : (limits.advertised.map Prod.fst).Nodup
  /-- A request with the listed values is decided as one without any. -/
  sameResult : ∀ request : StreamRequest,
    StreamConfig.create
        { request with options := StreamOptions.ofKeyValues limits.advertised } limits =
      StreamConfig.create { request with options := {} } limits
  /-- The buffers of a stream that is granted on the defaults are as long as is listed. -/
  length : ∀ (request : StreamRequest) (config : StreamConfig),
    StreamConfig.create { request with options := {} } limits = .ok config →
      limits.advertised.lookup "bufflen" = some (toString config.bufferLength)

/-- **The listed defaults are in effect**, on every device: with them and without them a request
becomes the same stream, or is refused for the same reason. -/
theorem defaults_in_effect (limits : DeviceLimits) : DefaultsInEffect limits where
  distinct := by
    show ["bufflen", "buffers", "asyncBuffs", "iq_swap"].Nodup
    decide
  sameResult := by
    intro request
    rw [limits.ofKeyValues_advertised]
    apply @StreamConfig.create_congr_length { request with options := {} }
    split
    · rfl
    · rfl
  length := by
    intro request config accepted
    obtain ⟨-, rfl⟩ := (StreamConfig.create_eq_ok_iff _ limits config).mp accepted
    rfl

end DacStream
