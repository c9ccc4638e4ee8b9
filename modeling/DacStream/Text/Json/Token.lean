import DacStream.Text.Numeral

/-!
# Tokens of JSON text

A JSON text is a row of tokens with white space between them: the six
punctuation marks, the three words, numbers and strings.  White space is the
space, the tab, the line feed and the carriage return.

Two kinds of token carry a value.  A number keeps its value only when it is
written as a natural number, in digits alone: a sign, a fraction or an exponent
makes it a number that no field of this library takes.  A string keeps its text
only when it denotes one: an escape may name one half of a surrogate pair, and
half a pair is no character.
-/

namespace DacStream.Json

set_option autoImplicit false

/-- The two kinds of brackets. -/
inductive Bracket where
  | square
  | curly
  deriving DecidableEq, Repr

/-- One token of a JSON text. -/
inductive Token where
  | opening (bracket : Bracket)
  | closing (bracket : Bracket)
  | comma
  | colon
  | null
  | truth (value : Bool)
  /-- Digits alone. -/
  | natural (value : Nat)
  /-- A number with a sign, a fraction or an exponent. -/
  | otherNumber
  /-- A string, with the text it denotes if it denotes one. -/
  | string (text : Option (List Char))
  deriving DecidableEq, Repr

/-! ## Strings -/

/-- The value of a hexadecimal digit. -/
def hexDigit? (digit : Char) : Option Nat :=
  if '0' ≤ digit ∧ digit ≤ '9' then some (digit.toNat - '0'.toNat)
  else if 'a' ≤ digit ∧ digit ≤ 'f' then some (digit.toNat - 'a'.toNat + 10)
  else if 'A' ≤ digit ∧ digit ≤ 'F' then some (digit.toNat - 'A'.toNat + 10)
  else none

/-- The number that four hexadecimal digits write. -/
def hexQuad? (first second third fourth : Char) : Option Nat := do
  let high ← hexDigit? first
  let upper ← hexDigit? second
  let lower ← hexDigit? third
  let low ← hexDigit? fourth
  return ((high * 16 + upper) * 16 + lower) * 16 + low

/-- What a one-letter escape stands for. -/
def escaped? (letter : Char) : Option Char :=
  match letter with
  | '"' => some '"'
  | '\\' => some '\\'
  | '/' => some '/'
  | 'b' => some '\x08'
  | 'f' => some '\x0c'
  | 'n' => some '\n'
  | 'r' => some '\r'
  | 't' => some '\t'
  | _ => none

/-- Reads the inside of a string up to its closing quote: the code of each
character or escape, and what follows the quote.  A control character may stand
in a string only as an escape. -/
def scanString : List Char → Option (List Nat × List Char)
  | [] => none
  | '"' :: rest => some ([], rest)
  | '\\' :: 'u' :: first :: second :: third :: fourth :: rest => do
      let code ← hexQuad? first second third fourth
      let (codes, after) ← scanString rest
      return (code :: codes, after)
  | '\\' :: letter :: rest => do
      let character ← escaped? letter
      let (codes, after) ← scanString rest
      return (character.toNat :: codes, after)
  | character :: rest =>
      if character.toNat < 0x20 ∨ character = '\\' then none
      else do
        let (codes, after) ← scanString rest
        return (character.toNat :: codes, after)

/-- Whether a code is the first half of a surrogate pair. -/
def isLeading (code : Nat) : Bool := 0xD800 ≤ code && code ≤ 0xDBFF

/-- Whether a code is the second half of a surrogate pair. -/
def isTrailing (code : Nat) : Bool := 0xDC00 ≤ code && code ≤ 0xDFFF

/-- The text that a row of codes denotes.  The halves of a pair stand side by
side and make one character together; half a pair denotes nothing. -/
def textOfCodes? : List Nat → Option (List Char)
  | [] => some []
  | first :: second :: rest =>
      if isLeading first then
        if isTrailing second then
          (textOfCodes? rest).map
            (Char.ofNat (0x10000 + (first - 0xD800) * 0x400 + (second - 0xDC00)) :: ·)
        else none
      else if isTrailing first then none
      else (textOfCodes? (second :: rest)).map (Char.ofNat first :: ·)
  | [only] => if isLeading only || isTrailing only then none else some [Char.ofNat only]

/-! ## Numbers -/

/-- What a number has after its integer part: its fraction and its exponent are
passed over.  The answer tells whether there was either. -/
def scanFraction (text : List Char) : Option (Bool × List Char) :=
  match text with
  | '.' :: rest =>
      if (rest.takeWhile Char.isDigit).isEmpty then none
      else some (true, rest.dropWhile Char.isDigit)
  | other => some (false, other)

/-- Passes over an exponent, if there is one. -/
def scanExponent (text : List Char) : Option (Bool × List Char) :=
  match text with
  | mark :: rest =>
      if mark = 'e' ∨ mark = 'E' then
        let unsigned := match rest with
          | '+' :: after => after
          | '-' :: after => after
          | other => other
        if (unsigned.takeWhile Char.isDigit).isEmpty then none
        else some (true, unsigned.dropWhile Char.isDigit)
      else some (false, text)
  | [] => some (false, [])

/-- The integer part of a number: a zero alone, or digits that do not start with
one. -/
def scanInteger (text : List Char) : Option (Nat × List Char) :=
  match text with
  | '0' :: rest => some (0, rest)
  | digit :: rest =>
      if digit.isDigit then
        some (Numeral.valueFrom 0 (digit :: rest.takeWhile Char.isDigit),
          rest.dropWhile Char.isDigit)
      else none
  | [] => none

/-- Reads an unsigned number. -/
def scanUnsigned (text : List Char) : Option (Token × List Char) := do
  let (value, afterInteger) ← scanInteger text
  let (fractional, afterFraction) ← scanFraction afterInteger
  let (scaled, after) ← scanExponent afterFraction
  return (if fractional || scaled then .otherNumber else .natural value, after)

/-! ## Token rows -/

/-- Whether a character may stand between tokens. -/
def isSpace (character : Char) : Bool :=
  character == ' ' || character == '\t' || character == '\n' || character == '\r'

/-- Reads the token a text starts with. -/
def Token.scan (text : List Char) : Option (Token × List Char) :=
  match text with
  | '[' :: rest => some (.opening .square, rest)
  | ']' :: rest => some (.closing .square, rest)
  | '\x7b' :: rest => some (.opening .curly, rest)
  | '\x7d' :: rest => some (.closing .curly, rest)
  | ',' :: rest => some (.comma, rest)
  | ':' :: rest => some (.colon, rest)
  | 'n' :: 'u' :: 'l' :: 'l' :: rest => some (.null, rest)
  | 't' :: 'r' :: 'u' :: 'e' :: rest => some (.truth true, rest)
  | 'f' :: 'a' :: 'l' :: 's' :: 'e' :: rest => some (.truth false, rest)
  | '"' :: rest => (scanString rest).map fun (codes, after) => (.string (textOfCodes? codes), after)
  | '-' :: rest => (scanUnsigned rest).map fun (_, after) => (.otherNumber, after)
  | other => scanUnsigned other

/-- Reads at most `limit` tokens; the text must end with the last of them. -/
def Token.scanUpTo : Nat → List Char → Option (List Token)
  | limit, text =>
      match text.dropWhile isSpace, limit with
      | [], _ => some []
      | _ :: _, 0 => none
      | start :: rest, limit + 1 => do
          let (token, after) ← Token.scan (start :: rest)
          let tokens ← Token.scanUpTo limit after
          return token :: tokens

/-- The tokens of a text.  Every token takes at least one character, so there
are no more tokens than characters. -/
def Token.scanAll (text : List Char) : Option (List Token) := Token.scanUpTo text.length text

end DacStream.Json
