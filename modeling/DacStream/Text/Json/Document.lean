import DacStream.Text.Json.Token

/-!
# JSON documents

The library reads JSON texts of small depth: a single value, a list of values,
or an object whose entries are values.  What lies deeper is checked against the
grammar and passed over, however deep it goes, because no option has a nested
value.

Passing over a nested value needs no recursion into it.  A row of open brackets
says where the reader stands, and what may come next depends on the innermost
bracket alone; this is the table in `Expectation.move?`.
-/

namespace DacStream.Json

set_option autoImplicit false

/-! ## Values and documents -/

/-- A value inside a document. -/
inductive Value where
  | null
  | truth (value : Bool)
  | natural (value : Nat)
  | otherNumber
  | string (text : Option (List Char))
  /-- A list or an object, whose contents are not kept. -/
  | nested
  deriving DecidableEq, Repr

/-- A whole document. -/
inductive Document where
  | single (value : Value)
  | list (values : List Value)
  | object (entries : List (List Char × Value))
  deriving DecidableEq, Repr

/-! ## Passing over nested values -/

/-- What may come next inside a nested value. -/
inductive Expectation where
  /-- A value. -/
  | value
  /-- A value, or the end of a list that has just begun. -/
  | firstValue
  /-- A key. -/
  | key
  /-- A key, or the end of an object that has just begun. -/
  | firstKey
  /-- The colon after a key. -/
  | colon
  /-- A comma or the closing bracket. -/
  | separator
  deriving DecidableEq, Repr

/-- What a token does to the place of the reader inside a nested value. -/
inductive Move where
  /-- The reader stays inside the same brackets. -/
  | expect (expectation : Expectation)
  /-- A bracket opens. -/
  | enter (bracket : Bracket)
  /-- The innermost bracket closes. -/
  | leave
  deriving DecidableEq, Repr

/-- What may come right after an open bracket. -/
def Bracket.start : Bracket → Expectation
  | .square => .firstValue
  | .curly => .firstKey

/-- The move of a token where a value is expected. -/
def Token.beginValue? : Token → Option Move
  | .null | .truth _ | .natural _ | .otherNumber | .string _ => some (.expect .separator)
  | .opening bracket => some (.enter bracket)
  | .closing _ | .comma | .colon => none

/-- The move of a token that comes inside `bracket`.  There is none if the token
does not fit. -/
def Expectation.move? (bracket : Bracket) : Expectation → Token → Option Move
  | .value, token => token.beginValue?
  | .firstValue, .closing .square => some .leave
  | .firstValue, token => token.beginValue?
  | .key, .string _ => some (.expect .colon)
  | .firstKey, .string _ => some (.expect .colon)
  | .firstKey, .closing .curly => some .leave
  | .colon, .colon => some (.expect .value)
  | .separator, .comma =>
      match bracket with
      | .square => some (.expect .value)
      | .curly => some (.expect .key)
  | .separator, .closing closed => if closed = bracket then some .leave else none
  | _, _ => none

/-- Passes over the rest of a nested value, up to the bracket that closes it.
`bracket` is the innermost open bracket and `outer` are those around it. -/
def skipFrom (bracket : Bracket) (outer : List Bracket) (expectation : Expectation) :
    List Token → Option (List Token)
  | [] => none
  | token :: rest =>
      match expectation.move? bracket token with
      | none => none
      | some (.expect next) => skipFrom bracket outer next rest
      | some (.enter inner) => skipFrom inner (bracket :: outer) inner.start rest
      | some .leave =>
          match outer with
          | [] => some rest
          | enclosing :: further => skipFrom enclosing further .separator rest

/-! ## Reading -/

/-- Reads one value. -/
def Value.read? : List Token → Option (Value × List Token)
  | .null :: rest => some (.null, rest)
  | .truth value :: rest => some (.truth value, rest)
  | .natural value :: rest => some (.natural value, rest)
  | .otherNumber :: rest => some (.otherNumber, rest)
  | .string text :: rest => some (.string text, rest)
  | .opening bracket :: rest => (skipFrom bracket [] bracket.start rest).map (.nested, ·)
  | _ => none

/-- Reads at most `limit` values with commas between them and the bracket that
ends the list. -/
def readValues? : Nat → List Token → Option (List Value × List Token)
  | 0, _ => none
  | limit + 1, tokens => do
      let (value, rest) ← Value.read? tokens
      match rest with
      | .closing .square :: after => return ([value], after)
      | .comma :: after =>
          let (values, behind) ← readValues? limit after
          return (value :: values, behind)
      | _ => none

/-- Reads at most `limit` entries with commas between them and the bracket that
ends the object.  A key must denote a text. -/
def readEntries? : Nat → List Token → Option (List (List Char × Value) × List Token)
  | limit + 1, .string (some key) :: .colon :: tokens => do
      let (value, rest) ← Value.read? tokens
      match rest with
      | .closing .curly :: after => return ([(key, value)], after)
      | .comma :: after =>
          let (entries, behind) ← readEntries? limit after
          return ((key, value) :: entries, behind)
      | _ => none
  | _, _ => none

/-- Reads a document from its tokens. -/
def Document.ofTokens? (tokens : List Token) : Option (Document × List Token) :=
  match tokens with
  | .opening .square :: .closing .square :: rest => some (.list [], rest)
  | .opening .square :: rest =>
      (readValues? rest.length rest).map fun (values, after) => (.list values, after)
  | .opening .curly :: .closing .curly :: rest => some (.object [], rest)
  | .opening .curly :: rest =>
      (readEntries? rest.length rest).map fun (entries, after) => (.object entries, after)
  | other => (Value.read? other).map fun (value, after) => (.single value, after)

/-- Reads a text as one document; only white space may follow it. -/
def Document.parse? (text : List Char) : Option Document := do
  let tokens ← Token.scanAll text
  let (document, rest) ← Document.ofTokens? tokens
  if rest.isEmpty then some document else none

/-! ## Writing

Values are written in the shortest spelling, without white space.  The texts
that this library writes hold no character that needs an escape. -/

/-- A text between quotes. -/
def quoted (text : List Char) : List Char := '"' :: text ++ ['"']

/-- The spelling of a truth value. -/
def truthWord : Bool → List Char
  | true => "true".toList
  | false => "false".toList

/-- An object, from its keys and the spelling of their values. -/
def renderObject (entries : List (List Char × List Char)) : List Char :=
  let members := entries.map fun (key, spelling) => quoted key ++ ':' :: spelling
  '\x7b' :: [','].intercalate members ++ ['\x7d']

end DacStream.Json
