import DacStream.Stream.Options
import Mathlib.Data.List.Forall2
import Mathlib.Data.List.TakeWhile

/-!
# What a written value says

An option value is a text with blanks around a word (`Padded`).  Its number is the one that
the word writes in decimal, with one plus sign at most in front of the digits
(`Numeral.Writes`); the digits of a number write that number, and so do they with zeros in
front.  Its truth value is told from eight words, in letters of either case
(`StreamOptions.HoldsTruth`).

Every reader is exact: it answers with a value exactly if the text says that value.
-/

namespace DacStream

set_option autoImplicit false

/-! ## Numerals -/

namespace Numeral

/-- The digits of a row write a number in decimal. -/
structure IsDecimal (row : List Char) (number : Nat) : Prop where
  nonempty : row ≠ []
  digits : ∀ digit ∈ row, digit.isDigit = true
  value : Nat.ofDigitChars 10 row 0 = number

/-- A text writes a number: in decimal, with or without a plus sign. -/
def Writes (text : List Char) (number : Nat) : Prop :=
  ∃ row, (text = row ∨ text = '+' :: row) ∧ IsDecimal row number

variable {row text : List Char} {number : Nat}

theorem valueFrom_zero (row : List Char) : valueFrom 0 row = Nat.ofDigitChars 10 row 0 := rfl

/-- The digits of a number write it. -/
theorem isDecimal_digits (number : Nat) : IsDecimal (digits number) number where
  nonempty := Nat.toDigits_ne_nil
  digits := fun _ listed => Nat.isDigit_of_mem_toDigits (by decide) (by decide) listed
  value := Nat.ofDigitChars_ten_toDigits

theorem readDigits?_eq_some_iff : readDigits? row = some number ↔ IsDecimal row number := by
  unfold readDigits?
  split
  · rename_i spelled
    rw [Option.some.injEq, valueFrom_zero]
    constructor
    · intro value
      exact ⟨spelled.1, List.all_eq_true.mp spelled.2, value⟩
    · exact fun decimal => decimal.value
  · rename_i unread
    simp only [reduceCtorEq, false_iff]
    exact fun decimal => unread ⟨decimal.nonempty, List.all_eq_true.mpr decimal.digits⟩

theorem read?_eq_some_iff : read? text = some number ↔ Writes text number := by
  unfold read?
  split
  · rename_i rest
    rw [readDigits?_eq_some_iff]
    constructor
    · intro decimal
      exact ⟨rest, .inr rfl, decimal⟩
    · rintro ⟨row, rfl | same, decimal⟩
      · -- A sign is no digit.
        exact absurd (decimal.digits '+' List.mem_cons_self) (by decide)
      · rw [(List.cons.inj same).2]
        exact decimal
  · rename_i unsigned
    rw [readDigits?_eq_some_iff]
    constructor
    · intro decimal
      exact ⟨text, .inl rfl, decimal⟩
    · rintro ⟨row, rfl | signed, decimal⟩
      · exact decimal
      · exact absurd signed (unsigned row)

theorem readWord64?_eq_some_iff {word : UInt64} :
    readWord64? text = some word ↔ Writes text word.toNat := by
  rw [← read?_eq_some_iff]
  unfold readWord64?
  rw [Option.bind_eq_some_iff]
  constructor
  · rintro ⟨number, read, fits⟩
    split at fits
    · rename_i small
      obtain rfl := Option.some.inj fits
      rw [read, UInt64.toNat_ofNat_of_lt' small]
    · cases fits
  · intro read
    exact ⟨word.toNat, read, by rw [if_pos word.toNat_lt_size, UInt64.ofNat_toNat]⟩

theorem readWord32?_eq_some_iff {word : UInt32} :
    readWord32? text = some word ↔ Writes text word.toNat := by
  rw [← read?_eq_some_iff]
  unfold readWord32?
  rw [Option.bind_eq_some_iff]
  constructor
  · rintro ⟨number, read, fits⟩
    split at fits
    · rename_i small
      obtain rfl := Option.some.inj fits
      rw [read, UInt32.toNat_ofNat_of_lt' small]
    · cases fits
  · intro read
    exact ⟨word.toNat, read, by rw [if_pos word.toNat_lt_size, UInt32.ofNat_toNat]⟩

end Numeral

/-! ## Blanks around a word -/

/-- A text is a word with blanks around it. -/
def Padded (text word : List Char) : Prop :=
  ∃ front back, text = front ++ word ++ back ∧
    (∀ character ∈ front, isBlank character = true) ∧
    ∀ character ∈ back, isBlank character = true

/-- There is no blank in a word. -/
def Solid (word : List Char) : Prop := ∀ character ∈ word, isBlank character = false

theorem trimStart_append_of_solid {word : List Char} (solid : Solid word) (nonempty : word ≠ [])
    (rest : List Char) : trimStart (word ++ rest) = word ++ rest := by
  obtain ⟨first, others, rfl⟩ := List.exists_cons_of_ne_nil nonempty
  exact trimStart_cons_of_not_blank first (others ++ rest) (solid first List.mem_cons_self)

/-- The blanks around a word are trimmed, -/
theorem trim_of_padded {text word : List Char} (solid : Solid word) (padded : Padded text word) :
    trim text = word := by
  obtain ⟨front, back, rfl, frontBlank, backBlank⟩ := padded
  rw [trim, List.append_assoc, trimStart_append front _ frontBlank, trimEnd]
  by_cases empty : word = []
  · subst empty
    rw [List.nil_append, trimStart_of_blank back backBlank]
    rfl
  · have reversed : Solid word.reverse := fun character listed =>
      solid character (List.mem_reverse.mp listed)
    have blanks : ∀ character ∈ back.reverse, isBlank character = true :=
      fun character listed => backBlank character (List.mem_reverse.mp listed)
    have kept := trimStart_append_of_solid reversed (by simpa using empty) []
    rw [List.append_nil] at kept
    rw [trimStart_append_of_solid solid empty, List.reverse_append,
      trimStart_append _ _ blanks, kept, List.reverse_reverse]

theorem exists_blanks_trimStart (text : List Char) :
    ∃ front, text = front ++ trimStart text ∧ ∀ character ∈ front, isBlank character = true :=
  ⟨text.takeWhile isBlank, List.takeWhile_append_dropWhile.symm,
    fun _ listed => List.mem_takeWhile_imp listed⟩

/-- and nothing but blanks is. -/
theorem padded_trim (text : List Char) : Padded text (trim text) := by
  obtain ⟨front, atStart, frontBlank⟩ := exists_blanks_trimStart text
  obtain ⟨back, atEnd, backBlank⟩ := exists_blanks_trimStart (trimStart text).reverse
  have ended : trimStart text = trim text ++ back.reverse := by
    rw [trim, trimEnd, ← List.reverse_append, ← atEnd, List.reverse_reverse]
  refine ⟨front, back.reverse, ?_, frontBlank, ?_⟩
  · rw [List.append_assoc, ← ended]
    exact atStart
  · exact fun character listed => backBlank character (List.mem_reverse.mp listed)

/-- What holds of a trimmed text holds of the word in it. -/
theorem trim_iff_exists_padded {text : List Char} (Holds : List Char → Prop)
    (solid : ∀ word, Holds word → Solid word) :
    Holds (trim text) ↔ ∃ word, Padded text word ∧ Holds word := by
  constructor
  · intro holds
    exact ⟨trim text, padded_trim text, holds⟩
  · rintro ⟨word, padded, holds⟩
    rwa [trim_of_padded (solid word holds) padded]

theorem not_isBlank_of_isDigit {digit : Char} (isDigit : digit.isDigit = true) :
    isBlank digit = false := by
  have code : 48 ≤ digit.toNat ∧ digit.toNat ≤ 57 := by
    simpa [Char.isDigit, UInt32.le_iff_toNat_le] using isDigit
  simp only [isBlank, blankRanges, List.any_cons, List.any_nil, Bool.or_false,
    Bool.or_eq_false_iff, Bool.and_eq_false_iff, decide_eq_false_iff_not]
  omega

theorem Numeral.solid_of_writes {text : List Char} {number : Nat} (writes : Writes text number) :
    Solid text := by
  obtain ⟨row, spelled, decimal⟩ := writes
  have solid : Solid row := fun digit listed => not_isBlank_of_isDigit (decimal.digits digit listed)
  rcases spelled with rfl | rfl
  · exact solid
  · intro character listed
    rcases List.mem_cons.mp listed with rfl | later
    · decide
    · exact solid character later

/-! ## Letters of either case -/

/-- A letter is another one, or the capital of it. -/
def SameLetter (letter small : Char) : Prop := letter = small ∨ letter = small.toUpper

theorem toNat_toLower (letter : Char) : letter.toLower.toNat =
    if 65 ≤ letter.toNat ∧ letter.toNat ≤ 90 then letter.toNat + 32 else letter.toNat := by
  unfold Char.toLower
  simp only [ge_iff_le, UInt32.le_iff_toNat_le]
  split
  · rename_i capital
    have code : 65 ≤ letter.toNat ∧ letter.toNat ≤ 90 := capital
    rw [if_pos code]
    show (letter.val + 32).toNat = letter.val.toNat + 32
    rw [UInt32.toNat_add]
    exact Nat.mod_eq_of_lt (Nat.lt_of_le_of_lt (Nat.add_le_add_right code.2 32) (by decide))
  · rename_i other
    have code : ¬(65 ≤ letter.toNat ∧ letter.toNat ≤ 90) := other
    rw [if_neg code]

theorem toNat_toUpper (letter : Char) : letter.toUpper.toNat =
    if 97 ≤ letter.toNat ∧ letter.toNat ≤ 122 then letter.toNat - 32 else letter.toNat := by
  unfold Char.toUpper
  simp only [UInt32.le_iff_toNat_le]
  split
  · rename_i small
    have code : 97 ≤ letter.toNat ∧ letter.toNat ≤ 122 := small
    rw [if_pos code]
    show (letter.val + ('A'.val - 'a'.val)).toNat = letter.val.toNat - 32
    rw [UInt32.toNat_add]
    -- The code of the capital is reached by going round the end of the word.
    show (letter.val.toNat + 4294967264) % 2 ^ 32 = letter.val.toNat - 32
    have bounds : 97 ≤ letter.val.toNat ∧ letter.val.toNat ≤ 122 := code
    omega
  · rename_i other
    have code : ¬(97 ≤ letter.toNat ∧ letter.toNat ≤ 122) := other
    rw [if_neg code]

/-- A letter becomes a small one in lower case if it is that or its capital. -/
theorem toLower_eq_iff {letter small : Char} (isSmall : small.isUpper = false) :
    letter.toLower = small ↔ SameLetter letter small := by
  have code : ¬(65 ≤ small.toNat ∧ small.toNat ≤ 90) := by
    intro capital
    have upper : small.isUpper = true := decide_eq_true capital
    exact absurd (isSmall.symm.trans upper) (by decide)
  rw [SameLetter, ← Char.toNat_inj, ← Char.toNat_inj, ← Char.toNat_inj, toNat_toLower,
    toNat_toUpper]
  split <;> split <;> omega

theorem lowerAscii_eq_iff {text word : List Char}
    (small : ∀ letter ∈ word, letter.isUpper = false) :
    lowerAscii text = word ↔ List.Forall₂ SameLetter text word := by
  rw [lowerAscii]
  induction word generalizing text with
  | nil => rw [List.map_eq_nil_iff, List.forall₂_nil_right_iff]
  | cons first rest inductionHypothesis =>
      cases text with
      | nil => simp
      | cons letter others =>
          rw [List.map_cons, List.cons.injEq, List.forall₂_cons,
            toLower_eq_iff (small first List.mem_cons_self),
            inductionHypothesis (List.forall_mem_cons.mp small).2]

/-! ## The values of options -/

namespace StreamOptions

/-- A text holds a number: it has blanks around a numeral that is not zero. -/
def HoldsNumber (text : String) (number : Nat) : Prop :=
  ∃ word, Padded text.toList word ∧ Numeral.Writes word number ∧ 0 < number

/-- The words for a truth value. -/
def truthWords : Bool → List String
  | true => ["true", "1", "yes", "on"]
  | false => ["false", "0", "no", "off"]

/-- A text holds a truth value: it has blanks around one of the words for it, in letters of
either case. -/
def HoldsTruth (text : String) (value : Bool) : Prop :=
  ∃ word ∈ truthWords value,
    ∃ spelling, Padded text.toList spelling ∧ List.Forall₂ SameLetter spelling word.toList

variable {text : String}

theorem holdsNumber_iff_trim {number : Nat} :
    HoldsNumber text number ↔ Numeral.Writes (trim text.toList) number ∧ 0 < number :=
  (trim_iff_exists_padded (fun word => Numeral.Writes word number ∧ 0 < number)
    fun _ holds => Numeral.solid_of_writes holds.1).symm

theorem positive64?_eq_some_iff {number : UInt64} :
    positive64? text = some number ↔ HoldsNumber text number.toNat := by
  rw [positive64?, Option.filter_eq_some_iff, Numeral.readWord64?_eq_some_iff, decide_eq_true_iff,
    UInt64.lt_iff_toNat_lt, holdsNumber_iff_trim]
  rfl

theorem positive32?_eq_some_iff {number : UInt32} :
    positive32? text = some number ↔ HoldsNumber text number.toNat := by
  rw [positive32?, Option.filter_eq_some_iff, Numeral.readWord32?_eq_some_iff, decide_eq_true_iff,
    UInt32.lt_iff_toNat_lt, holdsNumber_iff_trim]
  rfl

theorem solid_of_sameLetters {spelling word : List Char}
    (plain : ∀ letter ∈ word, isBlank letter = false ∧ isBlank letter.toUpper = false)
    (same : List.Forall₂ SameLetter spelling word) : Solid spelling := by
  induction same with
  | nil => exact fun letter listed => nomatch listed
  | @cons letter small _ _ first _ inductionHypothesis =>
      intro other listed
      rcases List.mem_cons.mp listed with rfl | later
      · obtain rfl | rfl := first
        · exact (plain _ List.mem_cons_self).1
        · exact (plain small List.mem_cons_self).2
      · exact inductionHypothesis
          (fun letter there => plain letter (List.mem_cons_of_mem small there)) other later

/-- The words for yes and no are spelled in small letters and digits. -/
theorem plain_words (value : Bool) : ∀ word ∈ truthWords value,
    ∀ letter ∈ word.toList, letter.isUpper = false ∧
      isBlank letter = false ∧ isBlank letter.toUpper = false := by
  have all : ∀ word ∈ truthWords value, word.toList.all fun letter =>
      !letter.isUpper && !isBlank letter && !isBlank letter.toUpper := by
    cases value <;> decide
  intro word listed letter there
  simpa [and_assoc] using List.all_eq_true.mp (all word listed) letter there

theorem holdsTruth_iff_trim {value : Bool} :
    HoldsTruth text value ↔
      String.ofList (lowerAscii (trim text.toList)) ∈ truthWords value := by
  have spelled : ∀ word ∈ truthWords value,
      (∃ spelling, Padded text.toList spelling ∧ List.Forall₂ SameLetter spelling word.toList) ↔
        String.ofList (lowerAscii (trim text.toList)) = word := by
    intro word listed
    have plain := plain_words value word listed
    rw [← trim_iff_exists_padded _ fun _ same => solid_of_sameLetters
      (fun letter there => (plain letter there).2) same,
      ← lowerAscii_eq_iff fun letter there => (plain letter there).1]
    constructor
    · intro same
      rw [same, String.ofList_toList]
    · rintro rfl
      rw [String.toList_ofList]
  constructor
  · rintro ⟨word, listed, spelling⟩
    rwa [(spelled word listed).mp spelling]
  · intro listed
    exact ⟨_, listed, (spelled _ listed).mpr rfl⟩

theorem truth?_eq_some_iff {value : Bool} : truth? text = some value ↔ HoldsTruth text value := by
  have apart : ∀ word ∈ noWords, word ∉ yesWords := by decide
  have words : truthWords value = if value then yesWords else noWords := by cases value <;> rfl
  rw [holdsTruth_iff_trim, words]
  unfold truth?
  by_cases yes : String.ofList (lowerAscii (trim text.toList)) ∈ yesWords
  · have notNo : String.ofList (lowerAscii (trim text.toList)) ∉ noWords :=
      fun no => apart _ no yes
    cases value <;> simp [yes, notNo]
  · cases value <;> simp [yes]

end StreamOptions

end DacStream
