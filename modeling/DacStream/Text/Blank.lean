/-!
# Blank characters

Names and option values are read with the blanks around them ignored.  A blank
is a character with the Unicode property `White_Space`; the table below lists
its twenty-five code points as ranges, in order.  Trimming drops the blanks at
both ends of a text and keeps those inside it.
-/

namespace DacStream

set_option autoImplicit false

/-! ## The table -/

/-- The code points with the property `White_Space`, as inclusive ranges. -/
def blankRanges : List (Nat × Nat) :=
  [(0x09, 0x0D), (0x20, 0x20), (0x85, 0x85), (0xA0, 0xA0), (0x1680, 0x1680),
   (0x2000, 0x200A), (0x2028, 0x2029), (0x202F, 0x202F), (0x205F, 0x205F), (0x3000, 0x3000)]

/-- Whether a character has the property `White_Space`. -/
def isBlank (character : Char) : Bool :=
  blankRanges.any fun range => range.1 ≤ character.toNat && character.toNat ≤ range.2

/-! ## Trimming -/

/-- The text without the blanks it starts with. -/
def trimStart (text : List Char) : List Char := text.dropWhile isBlank

/-- The text without the blanks it ends with. -/
def trimEnd (text : List Char) : List Char := (trimStart text.reverse).reverse

/-- The text without the blanks at either end. -/
def trim (text : List Char) : List Char := trimEnd (trimStart text)

/-! ## Letter case

Names and words are compared without regard to the case of ASCII letters; every
other letter stands for itself alone. -/

/-- The text with the letters `A` to `Z` in lower case. -/
def lowerAscii (text : List Char) : List Char := text.map Char.toLower

/-- Whether two texts agree up to the case of ASCII letters. -/
def sameLetters (first second : List Char) : Bool := lowerAscii first == lowerAscii second

/-! ## Elementary facts -/

/-- The ranges hold twenty-five code points. -/
theorem blankRanges_count :
    blankRanges.foldl (fun count range => count + (range.2 + 1 - range.1)) 0 = 25 := by decide

/-- Blanks in front of a text are not seen. -/
theorem trimStart_append (blanks text : List Char)
    (blank : ∀ character ∈ blanks, isBlank character) :
    trimStart (blanks ++ text) = trimStart text := by
  induction blanks with
  | nil => rfl
  | cons first rest ih =>
      have first_blank : isBlank first = true := blank first (by simp)
      simp only [trimStart, List.cons_append, List.dropWhile_cons, first_blank, if_true]
      exact ih fun character member => blank character (by simp [member])

/-- Nothing is left of a text of blanks. -/
theorem trimStart_of_blank (text : List Char) (blank : ∀ character ∈ text, isBlank character) :
    trimStart text = [] := by
  simpa [trimStart] using trimStart_append text [] blank

/-- A text that starts with a letter of its own is not shortened in front. -/
theorem trimStart_cons_of_not_blank (first : Char) (rest : List Char)
    (solid : isBlank first = false) : trimStart (first :: rest) = first :: rest := by
  simp [trimStart, solid]

end DacStream
