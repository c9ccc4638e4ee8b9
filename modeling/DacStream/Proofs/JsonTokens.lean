import DacStream.Proofs.WrittenValues
import DacStream.Text.Json.Token

/-!
# How JSON strings and numbers are read

The spelling of a string is a row of characters and escapes up to a quote (`StringText`).  It
has a code for each of them, and the codes denote a text if every half of a surrogate pair is
next to its other half (`Denotes`).  A number is spelled in decimal, without zeros in front
(`WholeText`), and may have a sign, a fraction and an exponent (`OtherNumberText`).

A number has no end of its own: what follows it must not go on with it.  In a document nothing
follows a value but space, a comma or a closing bracket (`Ends`).

A text has a row of tokens if scanning it, with a limit that is large enough, gives that row
(`Lexes`).  `Scans text row rest` is the same for the part of a text before `rest`.
-/

namespace DacStream.Json

set_option autoImplicit false

/-! ## Strings -/

/-- A character is the hexadecimal digit for a value, in either case. -/
def HexDigit (digit : Char) (value : Nat) : Prop :=
  "0123456789abcdef".toList[value]? = some digit ∨ "0123456789ABCDEF".toList[value]? = some digit

/-- The characters that have an escape of one letter. -/
def letterEscapes : List (Char × Char) :=
  [('"', '"'), ('\\', '\\'), ('/', '/'), ('b', '\x08'), ('f', '\x0c'), ('n', '\n'), ('r', '\r'),
    ('t', '\t')]

/-- A text goes on with the inside of a string, up to its quote, and with what follows. -/
inductive StringText : List Char → List Nat → List Char → Prop
  | quote (rest : List Char) : StringText ('"' :: rest) [] rest
  | plain {character : Char} {text rest : List Char} {codes : List Nat} :
      0x20 ≤ character.toNat → character ≠ '"' → character ≠ '\\' →
        StringText text codes rest →
          StringText (character :: text) (character.toNat :: codes) rest
  | letter {letter character : Char} {text rest : List Char} {codes : List Nat} :
      (letter, character) ∈ letterEscapes → StringText text codes rest →
        StringText ('\\' :: letter :: text) (character.toNat :: codes) rest
  | code {a b c d : Char} {w x y z : Nat} {text rest : List Char} {codes : List Nat} :
      HexDigit a w → HexDigit b x → HexDigit c y → HexDigit d z → StringText text codes rest →
        StringText ('\\' :: 'u' :: a :: b :: c :: d :: text)
          ((((w * 16 + x) * 16 + y) * 16 + z) :: codes) rest

/-- A row of codes denotes a text: a code by itself, or two that are the halves of a pair. -/
inductive Denotes : List Nat → List Char → Prop
  | nil : Denotes [] []
  | single {codes : List Nat} {text : List Char} (character : Char) :
      Denotes codes text → Denotes (character.toNat :: codes) (character :: text)
  | pair {codes : List Nat} {text : List Char} {first second : Nat} {character : Char} :
      0xD800 ≤ first → first ≤ 0xDBFF → 0xDC00 ≤ second → second ≤ 0xDFFF →
        character.toNat = 0x10000 + (first - 0xD800) * 0x400 + (second - 0xDC00) →
          Denotes codes text → Denotes (first :: second :: codes) (character :: text)

/-- The text that codes denote, if they denote one. -/
def Spell (codes : List Nat) (text? : Option (List Char)) : Prop :=
  ∀ text, text? = some text ↔ Denotes codes text

theorem hexDigit?_of_hexDigit {digit : Char} {value : Nat} (hex : HexDigit digit value) :
    hexDigit? digit = some value ∧ value < 16 := by
  have small : value < 16 := by
    rcases hex with here | here
    · exact (List.getElem?_eq_some_iff.mp here).1
    · exact (List.getElem?_eq_some_iff.mp here).1
  have all : ∀ place : Fin 16,
      hexDigit? ("0123456789abcdef".toList[place.val]?.getD ' ') = some place.val ∧
        hexDigit? ("0123456789ABCDEF".toList[place.val]?.getD ' ') = some place.val := by
    decide
  refine ⟨?_, small⟩
  rcases hex with here | here
  · have read := (all ⟨value, small⟩).1
    rwa [here] at read
  · have read := (all ⟨value, small⟩).2
    rwa [here] at read

theorem escaped?_of_mem {letter character : Char} (listed : (letter, character) ∈ letterEscapes) :
    escaped? letter = some character ∧ letter ≠ 'u' := by
  have all : ∀ escape ∈ letterEscapes,
      escaped? escape.1 = some escape.2 ∧ escape.1 ≠ 'u' := by decide
  exact all (letter, character) listed

/-- A string is read up to its quote. -/
theorem scanString_of_stringText {text rest : List Char} {codes : List Nat}
    (string : StringText text codes rest) : scanString text = some (codes, rest) := by
  induction string with
  | quote rest => rfl
  | plain printable noQuote noEscape _ inductionHypothesis =>
      rw [scanString.eq_5 _ _ noQuote (fun _ _ _ _ _ escape => absurd escape noEscape)
        (fun _ _ escape => absurd escape noEscape),
        if_neg (not_or.mpr ⟨Nat.not_lt.mpr printable, noEscape⟩), inductionHypothesis]
      rfl
  | letter listed _ inductionHypothesis =>
      obtain ⟨escaped, noCode⟩ := escaped?_of_mem listed
      rw [scanString.eq_4 _ _ (fun _ _ _ _ _ code => absurd code noCode), escaped,
        inductionHypothesis]
      rfl
  | code first second third fourth _ inductionHypothesis =>
      rw [scanString.eq_3, hexQuad?, (hexDigit?_of_hexDigit first).1,
        (hexDigit?_of_hexDigit second).1, (hexDigit?_of_hexDigit third).1,
        (hexDigit?_of_hexDigit fourth).1, inductionHypothesis]
      rfl

theorem toNat_cases (character : Char) :
    character.toNat < 0xD800 ∨ 0xDFFF < character.toNat ∧ character.toNat < 0x110000 :=
  character.valid

/-- The codes of a string are code points. -/
theorem codes_lt_of_stringText {text rest : List Char} {codes : List Nat}
    (string : StringText text codes rest) : ∀ code ∈ codes, code < 0x110000 := by
  have point : ∀ character : Char, character.toNat < 0x110000 := fun character => by
    have := toNat_cases character
    omega
  induction string with
  | quote rest => exact fun _ listed => nomatch listed
  | @plain character _ _ _ _ _ _ _ inductionHypothesis =>
      exact List.forall_mem_cons.mpr ⟨point character, inductionHypothesis⟩
  | @letter _ character _ _ _ _ _ inductionHypothesis =>
      exact List.forall_mem_cons.mpr ⟨point character, inductionHypothesis⟩
  | code first second third fourth _ inductionHypothesis =>
      have small := (hexDigit?_of_hexDigit first).2
      have := (hexDigit?_of_hexDigit second).2
      have := (hexDigit?_of_hexDigit third).2
      have := (hexDigit?_of_hexDigit fourth).2
      exact List.forall_mem_cons.mpr ⟨by omega, inductionHypothesis⟩

theorem isLeading_iff {code : Nat} : isLeading code = true ↔ 0xD800 ≤ code ∧ code ≤ 0xDBFF := by
  simp [isLeading]

theorem isTrailing_iff {code : Nat} : isTrailing code = true ↔ 0xDC00 ≤ code ∧ code ≤ 0xDFFF := by
  simp [isTrailing]

theorem textOfCodes?_cons_single {code : Nat} (codes : List Nat) (notLeading : ¬isLeading code)
    (notTrailing : ¬isTrailing code) :
    textOfCodes? (code :: codes) = (textOfCodes? codes).map (Char.ofNat code :: ·) := by
  cases codes with
  | nil => simp [textOfCodes?, notLeading, notTrailing]
  | cons second rest => rw [textOfCodes?.eq_2, if_neg notLeading, if_neg notTrailing]

theorem not_half (character : Char) :
    ¬isLeading character.toNat = true ∧ ¬isTrailing character.toNat = true := by
  rw [isLeading_iff, isTrailing_iff]
  have := toNat_cases character
  omega

theorem textOfCodes?_of_denotes {codes : List Nat} {text : List Char}
    (denotes : Denotes codes text) : textOfCodes? codes = some text := by
  induction denotes with
  | nil => rfl
  | single character _ inductionHypothesis =>
      rw [textOfCodes?_cons_single _ (not_half character).1 (not_half character).2,
        inductionHypothesis, Option.map_some, Char.ofNat_toNat]
  | pair firstLow firstHigh secondLow secondHigh same _ inductionHypothesis =>
      rw [textOfCodes?.eq_2, if_pos (isLeading_iff.mpr ⟨firstLow, firstHigh⟩),
        if_pos (isTrailing_iff.mpr ⟨secondLow, secondHigh⟩), inductionHypothesis, ← same,
        Option.map_some, Char.ofNat_toNat]

/-- A code point that is no half of a pair is the code of a character. -/
theorem toNat_ofNat {code : Nat} (point : code < 0x110000)
    (noHalf : code < 0xD800 ∨ 0xDFFF < code) : (Char.ofNat code).toNat = code := by
  have valid : code.isValidChar := by
    unfold Nat.isValidChar
    omega
  rw [Char.ofNat, dif_pos valid]
  rfl

theorem denotes_single {code : Nat} {codes : List Nat} {text : List Char}
    (point : code < 0x110000) (notLeading : ¬isLeading code = true)
    (notTrailing : ¬isTrailing code = true) (denotes : Denotes codes text) :
    Denotes (code :: codes) (Char.ofNat code :: text) := by
  rw [isLeading_iff] at notLeading
  rw [isTrailing_iff] at notTrailing
  have same : (Char.ofNat code).toNat = code := toNat_ofNat point (by omega)
  have single := Denotes.single (Char.ofNat code) denotes
  rwa [same] at single

theorem denotes_of_textOfCodes? {codes : List Nat} {text : List Char}
    (points : ∀ code ∈ codes, code < 0x110000) (read : textOfCodes? codes = some text) :
    Denotes codes text := by
  induction codes using textOfCodes?.induct generalizing text with
  | case1 =>
      obtain rfl := Option.some.inj read
      exact .nil
  | case2 first second rest leading trailing inductionHypothesis =>
      rw [textOfCodes?.eq_2, if_pos leading, if_pos trailing] at read
      obtain ⟨others, readRest, rfl⟩ := Option.map_eq_some_iff.mp read
      obtain ⟨firstLow, firstHigh⟩ := isLeading_iff.mp leading
      obtain ⟨secondLow, secondHigh⟩ := isTrailing_iff.mp trailing
      have rest := inductionHypothesis (fun code listed => points code (by simp [listed])) readRest
      exact .pair firstLow firstHigh secondLow secondHigh
        (toNat_ofNat (by omega) (by omega)) rest
  | case3 first second rest leading notTrailing =>
      rw [textOfCodes?.eq_2, if_pos leading, if_neg notTrailing] at read
      cases read
  | case4 first second rest notLeading trailing =>
      rw [textOfCodes?.eq_2, if_neg notLeading, if_pos trailing] at read
      cases read
  | case5 first second rest notLeading notTrailing inductionHypothesis =>
      rw [textOfCodes?_cons_single _ notLeading notTrailing] at read
      obtain ⟨others, readRest, rfl⟩ := Option.map_eq_some_iff.mp read
      exact denotes_single (points first List.mem_cons_self) notLeading notTrailing
        (inductionHypothesis (fun code listed => points code (List.mem_cons_of_mem first listed))
          readRest)
  | case6 only half =>
      rw [textOfCodes?.eq_3, if_pos half] at read
      cases read
  | case7 only noHalf =>
      rw [textOfCodes?.eq_3, if_neg noHalf] at read
      obtain rfl := Option.some.inj read
      simp only [Bool.or_eq_true, not_or] at noHalf
      exact denotes_single (points only List.mem_cons_self) noHalf.1 noHalf.2 .nil

/-- The text of a string is the one that its codes denote. -/
theorem textOfCodes?_of_spell {text rest : List Char} {codes : List Nat}
    {text? : Option (List Char)} (string : StringText text codes rest)
    (spell : Spell codes text?) : textOfCodes? codes = text? := by
  apply Option.ext
  intro denoted
  rw [spell]
  exact ⟨denotes_of_textOfCodes? (codes_lt_of_stringText string), textOfCodes?_of_denotes⟩

/-! ## Numbers -/

/-- A row of digits, and at least one. -/
def SomeDigits (row : List Char) : Prop := row ≠ [] ∧ ∀ digit ∈ row, digit.isDigit = true

/-- A natural number in decimal, without zeros in front. -/
def WholeText (row : List Char) (number : Nat) : Prop :=
  Numeral.IsDecimal row number ∧ (row = ['0'] ∨ row.head? ≠ some '0')

/-- A fraction, or nothing. -/
def FractionText (row : List Char) : Prop :=
  row = [] ∨ ∃ digits, row = '.' :: digits ∧ SomeDigits digits

/-- An exponent, or nothing. -/
def ExponentText (row : List Char) : Prop :=
  row = [] ∨ ∃ mark sign digits, row = mark :: (sign ++ digits) ∧ (mark = 'e' ∨ mark = 'E') ∧
    (sign = [] ∨ sign = ['+'] ∨ sign = ['-']) ∧ SomeDigits digits

/-- A number that is not written as a natural number. -/
def OtherNumberText (row : List Char) : Prop :=
  ∃ sign whole number fraction exponent, row = sign ++ (whole ++ (fraction ++ exponent)) ∧
    (sign = [] ∨ sign = ['-']) ∧ WholeText whole number ∧ FractionText fraction ∧
    ExponentText exponent ∧ ¬(sign = [] ∧ fraction = [] ∧ exponent = [])

/-- The digits of a number do not start with a zero, unless it is zero. -/
theorem head?_digits_ne_zero {number : Nat} (positive : 0 < number) :
    (Numeral.digits number).head? ≠ some '0' := by
  unfold Numeral.digits
  induction number using Nat.strongRecOn with
  | ind number inductionHypothesis =>
      by_cases small : number < 10
      · rw [Nat.toDigits_of_lt_base small]
        have all : ∀ place : Fin 10, 0 < place.val → [place.val.digitChar].head? ≠ some '0' := by
          decide
        exact all ⟨number, small⟩ positive
      · rw [Nat.toDigits_of_base_le (by decide) (Nat.le_of_not_lt small),
          List.head?_append_of_ne_nil _ Nat.toDigits_ne_nil]
        exact inductionHypothesis (number / 10) (by omega) (by omega)

/-- The digits of a number are its spelling in a document. -/
theorem wholeText_digits (number : Nat) : WholeText (Numeral.digits number) number := by
  refine ⟨Numeral.isDecimal_digits number, ?_⟩
  rcases Nat.eq_zero_or_pos number with rfl | positive
  · exact .inl rfl
  · exact .inr (head?_digits_ne_zero positive)

/-- What can follow a value: the end of the text, or a character that belongs to no value. -/
def Ends (rest : List Char) : Prop :=
  ∀ character, rest.head? = some character →
    character ∈ [' ', '\t', '\n', '\r', ',', ']', '\x7d']

/-- A text that does not go on with a digit. -/
def DigitsEnd (rest : List Char) : Prop :=
  ∀ character, rest.head? = some character → character.isDigit = false

theorem takeWhile_digits {row rest : List Char} (digits : ∀ digit ∈ row, digit.isDigit = true)
    (ends : DigitsEnd rest) :
    (row ++ rest).takeWhile Char.isDigit = row ∧ (row ++ rest).dropWhile Char.isDigit = rest := by
  have none : rest.takeWhile Char.isDigit = [] ∧ rest.dropWhile Char.isDigit = rest := by
    cases rest with
    | nil => exact ⟨rfl, rfl⟩
    | cons first others =>
        have noDigit := ends first rfl
        simp [noDigit]
  rw [List.takeWhile_append_of_pos digits, List.dropWhile_append_of_pos digits, none.1, none.2,
    List.append_nil]
  exact ⟨rfl, rfl⟩

theorem scanInteger_of_wholeText {row rest : List Char} {number : Nat}
    (whole : WholeText row number) (ends : DigitsEnd rest) :
    scanInteger (row ++ rest) = some (number, rest) := by
  obtain ⟨decimal, zero | noZero⟩ := whole
  · subst zero
    obtain rfl : 0 = number := decimal.value
    rfl
  · obtain ⟨first, others, rfl⟩ := List.exists_cons_of_ne_nil decimal.nonempty
    have notZero : first ≠ '0' := fun zero => noZero (by rw [zero]; rfl)
    obtain ⟨isDigit, digits⟩ := List.forall_mem_cons.mp decimal.digits
    obtain ⟨taken, left⟩ := takeWhile_digits digits ends
    rw [List.cons_append, scanInteger.eq_2 _ _ notZero, if_pos isDigit, taken, left,
      Numeral.valueFrom_zero, decimal.value]

theorem scanFraction_of_fractionText {row rest : List Char} (fraction : FractionText row)
    (ends : DigitsEnd rest) (noPoint : rest.head? ≠ some '.') :
    scanFraction (row ++ rest) = some (!row.isEmpty, rest) := by
  rcases fraction with rfl | ⟨digits, rfl, nonempty, isDigit⟩
  · rw [List.nil_append]
    unfold scanFraction
    split
    · exact absurd rfl noPoint
    · rfl
  · obtain ⟨taken, left⟩ := takeWhile_digits isDigit ends
    rw [List.cons_append, scanFraction, taken, left, if_neg (by simpa using nonempty)]
    rfl

theorem scanExponent_of_exponentText {row rest : List Char} (exponent : ExponentText row)
    (ends : DigitsEnd rest) (noMark : rest.head? ≠ some 'e' ∧ rest.head? ≠ some 'E') :
    scanExponent (row ++ rest) = some (!row.isEmpty, rest) := by
  rcases exponent with rfl | ⟨mark, sign, digits, rfl, isMark, isSign, nonempty, isDigit⟩
  · cases rest with
    | nil => rfl
    | cons first others =>
        have other : ¬(first = 'e' ∨ first = 'E') := by
          simpa [not_or] using noMark
        simp only [List.nil_append, scanExponent, if_neg other]
        rfl
  · obtain ⟨taken, left⟩ := takeWhile_digits isDigit ends
    have someDigits : digits.isEmpty = false := by simpa using nonempty
    rcases isSign with rfl | rfl | rfl
    · obtain ⟨first, others, rfl⟩ := List.exists_cons_of_ne_nil nonempty
      have firstDigit := isDigit first List.mem_cons_self
      have noSign : first ≠ '+' ∧ first ≠ '-' :=
        ⟨fun plus => absurd (plus ▸ firstDigit) (by decide),
          fun minus => absurd (minus ▸ firstDigit) (by decide)⟩
      rw [List.cons_append] at taken left
      simp [scanExponent, isMark, noSign, taken, left]
    · simp [scanExponent, isMark, taken, left, someDigits]
    · simp [scanExponent, isMark, taken, left, someDigits]

theorem Ends.digitsEnd {rest : List Char} (ends : Ends rest) : DigitsEnd rest := by
  intro character here
  have listed := ends character here
  simp only [List.mem_cons, List.not_mem_nil, or_false] at listed
  rcases listed with rfl | rfl | rfl | rfl | rfl | rfl | rfl <;> rfl

theorem ExponentText.digitsEnd {row rest : List Char} (exponent : ExponentText row)
    (ends : DigitsEnd rest) : DigitsEnd (row ++ rest) := by
  rcases exponent with rfl | ⟨mark, sign, digits, rfl, rfl | rfl, _⟩
  · exact ends
  · exact fun character here => Option.some.inj here ▸ rfl
  · exact fun character here => Option.some.inj here ▸ rfl

theorem FractionText.digitsEnd {row rest : List Char} (fraction : FractionText row)
    (ends : DigitsEnd rest) : DigitsEnd (row ++ rest) := by
  rcases fraction with rfl | ⟨digits, rfl, _⟩
  · exact ends
  · exact fun character here => Option.some.inj here ▸ rfl

/-- A number is read up to its end, with its value if it is written as a natural number. -/
theorem scanUnsigned_of_texts {whole fraction exponent rest : List Char} {number : Nat}
    (wholeText : WholeText whole number) (fractionText : FractionText fraction)
    (exponentText : ExponentText exponent) (ends : Ends rest) :
    scanUnsigned (whole ++ (fraction ++ (exponent ++ rest))) =
      some (if fraction = [] ∧ exponent = [] then .natural number else .otherNumber, rest) := by
  have afterExponent : DigitsEnd (exponent ++ rest) := exponentText.digitsEnd ends.digitsEnd
  have noPoint : (exponent ++ rest).head? ≠ some '.' := by
    rcases exponentText with rfl | ⟨mark, sign, digits, rfl, rfl | rfl, _⟩
    · exact fun point => absurd (ends '.' point) (by decide)
    · exact fun point => absurd (Option.some.inj point) (by decide)
    · exact fun point => absurd (Option.some.inj point) (by decide)
  have noMark : rest.head? ≠ some 'e' ∧ rest.head? ≠ some 'E' :=
    ⟨fun mark => absurd (ends 'e' mark) (by decide), fun mark => absurd (ends 'E' mark) (by decide)⟩
  rw [scanUnsigned, scanInteger_of_wholeText wholeText (fractionText.digitsEnd afterExponent)]
  simp only [Option.bind_eq_bind, Option.bind_some,
    scanFraction_of_fractionText fractionText afterExponent noPoint,
    scanExponent_of_exponentText exponentText ends.digitsEnd noMark]
  by_cases natural : fraction = [] ∧ exponent = []
  · obtain ⟨rfl, rfl⟩ := natural
    rfl
  · rw [if_neg natural, if_pos (by simpa [imp_iff_not_or] using natural)]
    rfl

/-! ## One token -/

/-- White space, and then the rest. -/
def Spaced (text rest : List Char) : Prop :=
  ∃ blanks, (∀ blank ∈ blanks, blank ∈ [' ', '\t', '\n', '\r']) ∧ text = blanks ++ rest

/-- A text starts with a token, and not with white space. -/
structure Starts (text : List Char) (token : Token) (rest : List Char) : Prop where
  scan : Token.scan text = some (token, rest)
  solid : ∀ character, text.head? = some character → isSpace character = false
  shorter : rest.length < text.length

theorem isSpace_iff {character : Char} :
    isSpace character = true ↔ character ∈ [' ', '\t', '\n', '\r'] := by
  simp [isSpace, or_assoc]

theorem Spaced.dropWhile {text rest : List Char} (spaced : Spaced text rest) :
    text.dropWhile isSpace = rest.dropWhile isSpace := by
  obtain ⟨blanks, blank, rfl⟩ := spaced
  exact List.dropWhile_append_of_pos fun character listed =>
    isSpace_iff.mpr (blank character listed)

theorem Spaced.length_le {text rest : List Char} (spaced : Spaced text rest) :
    rest.length ≤ text.length := by
  obtain ⟨blanks, _, rfl⟩ := spaced
  simp

theorem Spaced.refl (text : List Char) : Spaced text text :=
  ⟨[], (fun _ listed => nomatch listed), rfl⟩

/-- Before white space and one of the characters that can follow a value, a value ends. -/
theorem Spaced.ends {text rest : List Char} (spaced : Spaced text rest) (ends : Ends rest) :
    Ends text := by
  obtain ⟨blanks, blank, rfl⟩ := spaced
  cases blanks with
  | nil => exact ends
  | cons first others =>
      intro character here
      obtain rfl := Option.some.inj here
      have listed := blank first List.mem_cons_self
      simp only [List.mem_cons, List.not_mem_nil, or_false] at listed ⊢
      tauto

/-- The marks and the words of a document, with their spelling. -/
def fixedTokens : List (List Char × Token) :=
  [(['['], .opening .square), ([']'], .closing .square), (['\x7b'], .opening .curly),
    (['\x7d'], .closing .curly), ([','], .comma), ([':'], .colon), ("null".toList, .null),
    ("true".toList, .truth true), ("false".toList, .truth false)]

theorem starts_of_mem {row : List Char} {token : Token} (listed : (row, token) ∈ fixedTokens)
    (rest : List Char) : Starts (row ++ rest) token rest := by
  simp only [fixedTokens, List.mem_cons, Prod.mk.injEq, List.not_mem_nil, or_false] at listed
  rcases listed with ⟨rfl, rfl⟩ | ⟨rfl, rfl⟩ | ⟨rfl, rfl⟩ | ⟨rfl, rfl⟩ | ⟨rfl, rfl⟩ | ⟨rfl, rfl⟩ |
    ⟨rfl, rfl⟩ | ⟨rfl, rfl⟩ | ⟨rfl, rfl⟩
  all_goals
    refine ⟨rfl, fun character here => Option.some.inj here ▸ rfl, ?_⟩
    simp only [List.length_append]
    exact Nat.lt_add_of_pos_left (by decide)

theorem length_lt_of_stringText {text rest : List Char} {codes : List Nat}
    (string : StringText text codes rest) : rest.length < text.length := by
  induction string with
  | quote rest => exact Nat.lt_succ_self rest.length
  | plain _ _ _ _ inductionHypothesis =>
      rw [List.length_cons]
      omega
  | letter _ _ inductionHypothesis =>
      simp only [List.length_cons]
      omega
  | code _ _ _ _ _ inductionHypothesis =>
      simp only [List.length_cons]
      omega

theorem starts_of_stringText {text rest : List Char} {codes : List Nat}
    {text? : Option (List Char)} (string : StringText text codes rest)
    (spell : Spell codes text?) : Starts ('"' :: text) (.string text?) rest := by
  refine ⟨?_, fun character here => Option.some.inj here ▸ rfl, ?_⟩
  · rw [Token.scan, scanString_of_stringText string, ← textOfCodes?_of_spell string spell]
    rfl
  · exact Nat.lt_succ_of_lt (length_lt_of_stringText string)

theorem scan_of_digit {first : Char} (others : List Char) (isDigit : first.isDigit = true) :
    Token.scan (first :: others) = scanUnsigned (first :: others) ∧ isSpace first = false := by
  constructor
  · unfold Token.scan
    split <;> first
      | rfl
      | (rename_i same
         obtain ⟨rfl, _⟩ := List.cons.inj same
         exact absurd isDigit (by decide))
  · rw [← Bool.not_eq_true, isSpace_iff]
    intro blank
    simp only [List.mem_cons, List.not_mem_nil, or_false] at blank
    rcases blank with rfl | rfl | rfl | rfl <;> exact absurd isDigit (by decide)

/-- An unsigned number is a token of its own. -/
theorem starts_of_texts {whole fraction exponent rest : List Char} {number : Nat}
    (wholeText : WholeText whole number) (fractionText : FractionText fraction)
    (exponentText : ExponentText exponent) (ends : Ends rest) :
    Starts (whole ++ (fraction ++ (exponent ++ rest)))
      (if fraction = [] ∧ exponent = [] then .natural number else .otherNumber) rest := by
  have scanned := scanUnsigned_of_texts wholeText fractionText exponentText ends
  obtain ⟨first, others, rfl⟩ := List.exists_cons_of_ne_nil wholeText.1.nonempty
  have isDigit := wholeText.1.digits first List.mem_cons_self
  obtain ⟨scan, solid⟩ := scan_of_digit (others ++ (fraction ++ (exponent ++ rest))) isDigit
  refine ⟨scan.trans scanned, fun character here => Option.some.inj here ▸ solid, ?_⟩
  simp only [List.length_append, List.length_cons]
  omega

theorem starts_of_wholeText {row rest : List Char} {number : Nat} (whole : WholeText row number)
    (ends : Ends rest) : Starts (row ++ rest) (.natural number) rest :=
  starts_of_texts whole (.inl rfl) (.inl rfl) ends

theorem starts_of_otherNumberText {row rest : List Char} (other : OtherNumberText row)
    (ends : Ends rest) : Starts (row ++ rest) .otherNumber rest := by
  obtain ⟨sign, whole, number, fraction, exponent, rfl, isSign, wholeText, fractionText,
    exponentText, notNatural⟩ := other
  simp only [List.append_assoc]
  rcases isSign with rfl | rfl
  · have starts := starts_of_texts wholeText fractionText exponentText ends
    rwa [if_neg fun none => notNatural ⟨rfl, none⟩] at starts
  · refine ⟨?_, fun character here => Option.some.inj here ▸ rfl, ?_⟩
    · rw [List.singleton_append, Token.scan,
        scanUnsigned_of_texts wholeText fractionText exponentText ends, Option.map_some]
    · simp only [List.length_append, List.length_cons]
      omega

/-! ## Rows of tokens -/

/-- A text has a row of tokens, whatever larger limit is put on their number. -/
def Lexes (text : List Char) (tokens : List Token) : Prop :=
  ∀ limit, text.length ≤ limit → Token.scanUpTo limit text = some tokens

/-- A text has a row of tokens before its rest. -/
def Scans (text : List Char) (row : List Token) (rest : List Char) : Prop :=
  ∀ later, Lexes rest later → Lexes text (row ++ later)

theorem Lexes.scanAll {text : List Char} {tokens : List Token} (lexes : Lexes text tokens) :
    Token.scanAll text = some tokens :=
  lexes text.length le_rfl

theorem lexes_nil : Lexes [] [] := fun limit _ => by
  rw [Token.scanUpTo]
  rfl

theorem Spaced.scans {text rest : List Char} (spaced : Spaced text rest) : Scans text [] rest := by
  intro later lexes limit enough
  have same := lexes limit (spaced.length_le.trans enough)
  rw [Token.scanUpTo.eq_def] at same ⊢
  dsimp only at same ⊢
  rwa [spaced.dropWhile]

theorem Starts.scans {text rest : List Char} {token : Token} (starts : Starts text token rest) :
    Scans text [token] rest := by
  intro later lexes limit enough
  obtain ⟨first, others, rfl⟩ :=
    List.exists_cons_of_length_pos ((Nat.zero_le _).trans_lt starts.shorter)
  have solid : (first :: others).dropWhile isSpace = first :: others :=
    List.dropWhile_cons_of_neg (by rw [starts.solid first rfl]; decide)
  have shorter := starts.shorter
  obtain ⟨limit, rfl⟩ : ∃ fewer, limit = fewer + 1 := ⟨limit - 1, by
    rw [List.length_cons] at enough
    omega⟩
  rw [Token.scanUpTo.eq_def]
  simp only [solid, starts.scan, Option.bind_eq_bind, Option.bind_some,
    lexes limit (by omega)]
  rfl

theorem Scans.trans {text middle rest : List Char} {row others : List Token}
    (here : Scans text row middle) (after : Scans middle others rest) :
    Scans text (row ++ others) rest := by
  intro later lexes
  rw [List.append_assoc]
  exact here _ (after later lexes)

end DacStream.Json
