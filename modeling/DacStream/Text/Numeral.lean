/-!
# Unsigned numerals

Counts and lengths are read from texts such as `4096` or `+4096`: one plus sign
at most, then one or more of the ten ASCII digits, and nothing else.  A numeral
too large for the word it is meant for is refused rather than reduced.
-/

namespace DacStream

set_option autoImplicit false

namespace Numeral

/-! ## Writing -/

/-- The decimal digits of a number, most significant first. -/
def digits (number : Nat) : List Char := Nat.toDigits 10 number

/-! ## Reading -/

/-- The number that a row of digits stands for when `leading` stands before it. -/
def valueFrom (leading : Nat) (row : List Char) : Nat :=
  row.foldl (fun value digit => 10 * value + (digit.toNat - '0'.toNat)) leading

/-- Reads one or more digits and nothing else. -/
def readDigits? (text : List Char) : Option Nat :=
  if text ≠ [] ∧ text.all Char.isDigit then some (valueFrom 0 text) else none

/-- Reads digits that a single plus sign may precede. -/
def read? (text : List Char) : Option Nat :=
  match text with
  | '+' :: rest => readDigits? rest
  | other => readDigits? other

/-- Reads a numeral that must fit in 64 bits. -/
def readWord64? (text : List Char) : Option UInt64 :=
  (read? text).bind fun number =>
    if number < UInt64.size then some (UInt64.ofNat number) else none

/-- Reads a numeral that must fit in 32 bits. -/
def readWord32? (text : List Char) : Option UInt32 :=
  (read? text).bind fun number =>
    if number < UInt32.size then some (UInt32.ofNat number) else none

/-! ## Elementary facts -/

/-- A digit at the end of a row counts once and moves the others up. -/
theorem valueFrom_concat (leading : Nat) (row : List Char) (digit : Char) :
    valueFrom leading (row ++ [digit]) =
      10 * valueFrom leading row + (digit.toNat - '0'.toNat) := by
  simp [valueFrom, List.foldl_append]

end Numeral

end DacStream
