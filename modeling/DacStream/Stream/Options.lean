import DacStream.Device.Limits
import DacStream.Stream.Error
import DacStream.Text.Blank
import DacStream.Text.Json.Document
import DacStream.Text.Numeral

/-!
# Stream options

The caller of a stream may choose the buffer length, the number of buffers in
the ring, the number of buffers the device keeps in flight, and whether the two
parts of a pair are exchanged.  The options come in two written forms.

* As keys and values, both texts.  A value that cannot be read, or a number that
  is zero, leaves the option at its default; this form is never refused.
* As a JSON document, either an object or the list of the values in order.  Here
  a value of the wrong kind, or an option named twice, is refused.

In both forms unknown keys are passed over.  The numbers are kept as words of
the width in which they are read.
-/

namespace DacStream

set_option autoImplicit false

/-- What the caller of a stream may choose. -/
structure StreamOptions where
  /-- Bytes per channel buffer; without it the device decides. -/
  bufferLength? : Option UInt64 := none
  /-- Buffers in the ring. -/
  bufferCount : UInt64 := 4
  /-- Buffers in flight inside the device; zero lets the device decide. -/
  asyncBuffers : UInt32 := 0
  /-- Whether the parts of a pair are exchanged. -/
  swap : Bool := false
  deriving DecidableEq, Repr

/-- The four options, in the order in which they are listed. -/
inductive OptionKey where
  | bufferLength
  | bufferCount
  | asyncBuffers
  | swap
  deriving DecidableEq, Repr

namespace OptionKey

/-- All options, in order. -/
def all : List OptionKey := [.bufferLength, .bufferCount, .asyncBuffers, .swap]

/-- The name of an option. -/
def name : OptionKey → String
  | .bufferLength => "bufflen"
  | .bufferCount => "buffers"
  | .asyncBuffers => "asyncBuffs"
  | .swap => "iq_swap"

/-- The second name of the option that has two. -/
def secondName? : OptionKey → Option String
  | .asyncBuffers => some "async_buffs"
  | _ => none

/-- The option that a key of a document names. -/
def ofName? (name : List Char) : Option OptionKey :=
  all.find? fun key =>
    key.name.toList == name || (key.secondName?.map String.toList) == some name

end OptionKey

namespace StreamOptions

/-! ## Keys and values -/

/-- The number a text holds, blanks around it left aside, unless it is zero. -/
def positive64? (text : String) : Option UInt64 :=
  (Numeral.readWord64? (trim text.toList)).filter fun number => 0 < number

/-- As `positive64?`, for numbers of 32 bits. -/
def positive32? (text : String) : Option UInt32 :=
  (Numeral.readWord32? (trim text.toList)).filter fun number => 0 < number

/-- The words for yes. -/
def yesWords : List String := ["true", "1", "yes", "on"]

/-- The words for no. -/
def noWords : List String := ["false", "0", "no", "off"]

/-- The truth value a text holds, in letters of either case. -/
def truth? (text : String) : Option Bool :=
  let word := String.ofList (lowerAscii (trim text.toList))
  if word ∈ yesWords then some true
  else if word ∈ noWords then some false
  else none

/-- Reads the options from keys and their values. -/
def ofKeyValues (entries : List (String × String)) : StreamOptions :=
  let value? (key : OptionKey) : Option String := entries.lookup key.name
  let defaults : StreamOptions := {}
  { bufferLength? := ((value? .bufferLength).bind positive64?).or defaults.bufferLength?
    bufferCount := ((value? .bufferCount).bind positive64?).getD defaults.bufferCount
    asyncBuffers := ((value? .asyncBuffers).bind positive32?).getD defaults.asyncBuffers
    swap := ((value? .swap).bind truth?).getD defaults.swap }

/-! ## Documents -/

/-- The options with one of them set from a value of a document. -/
def setValue? (options : StreamOptions) (key : OptionKey) (value : Json.Value) :
    Option StreamOptions :=
  match key, value with
  | .bufferLength, .null => some { options with bufferLength? := none }
  | .bufferLength, .natural number =>
      if number < UInt64.size then
        some { options with bufferLength? := some (UInt64.ofNat number) }
      else none
  | .bufferCount, .natural number =>
      if number < UInt64.size then some { options with bufferCount := UInt64.ofNat number } else none
  | .asyncBuffers, .natural number =>
      if number < UInt32.size then some { options with asyncBuffers := UInt32.ofNat number } else none
  | .swap, .truth value => some { options with swap := value }
  | _, _ => none

/-- The default options with some of them set. -/
def ofValues? (entries : List (OptionKey × Json.Value)) : Option StreamOptions :=
  entries.foldlM (fun options entry => options.setValue? entry.1 entry.2) {}

/-- Reads the options from a document. -/
def ofDocument? : Json.Document → Option StreamOptions
  | .object entries =>
      let known := entries.filterMap fun entry =>
        (OptionKey.ofName? entry.1).map fun key => (key, entry.2)
      if (known.map Prod.fst).Nodup then ofValues? known else none
  | .list values =>
      if values.length ≤ OptionKey.all.length then ofValues? (OptionKey.all.zip values) else none
  | .single _ => none

/-- Reads the options from the text of a document. -/
def parse? (text : List Char) : Option StreamOptions :=
  (Json.Document.parse? text).bind ofDocument?

/-- Writes the options as the text of a document. -/
def render (options : StreamOptions) : List Char :=
  Json.renderObject
    [(OptionKey.bufferLength.name.toList,
        match options.bufferLength? with
        | none => "null".toList
        | some length => Numeral.digits length.toNat),
      (OptionKey.bufferCount.name.toList, Numeral.digits options.bufferCount.toNat),
      (OptionKey.asyncBuffers.name.toList, Numeral.digits options.asyncBuffers.toNat),
      (OptionKey.swap.name.toList, Json.truthWord options.swap)]

end StreamOptions

/-! ## Names in documents -/

/-- The name that a document consists of: a string, or an object with the name
as its only key and nothing under it. -/
def Json.Document.name? : Json.Document → Option (List Char)
  | .single (.string text) => text
  | .object [(key, .null)] => some key
  | _ => none

/-! ## The catalogue of options -/

/-- The kind of value an option takes. -/
inductive OptionKind where
  | int
  | bool
  deriving DecidableEq, Repr

/-- The name of a kind. -/
def OptionKind.name : OptionKind → String
  | .int => "int"
  | .bool => "bool"

/-- What a user interface shows of an option. -/
structure OptionInfo where
  key : String
  /-- The default, as a value of the key. -/
  value : String
  name : String
  description : String
  units : String
  kind : OptionKind
  deriving DecidableEq, Repr

/-- The options and their defaults on a device. -/
def OptionInfo.catalogue (limits : DeviceLimits) : List OptionInfo :=
  let defaults : StreamOptions := {}
  [{ key := OptionKey.bufferLength.name
     value := toString limits.usualLength
     name := "Buffer Size"
     description :=
       match limits.requiredLength? with
       | some required =>
           "Number of bytes per buffer, fixed at " ++ toString required ++ " on this device."
       | none =>
           "Number of bytes per buffer, multiples of " ++ toString limits.alignment ++ " only."
     units := "bytes"
     kind := .int },
   { key := OptionKey.bufferCount.name
     value := toString defaults.bufferCount
     name := "Ring buffers"
     description :=
       "Number of buffers in the ring, at least " ++ toString leastBufferCount ++ "."
     units := "buffers"
     kind := .int },
   { key := OptionKey.asyncBuffers.name
     value := toString defaults.asyncBuffers
     name := "Async buffers"
     description := "Number of async usb buffers (advanced)."
     units := "buffers"
     kind := .int },
   { key := OptionKey.swap.name
     value := toString defaults.swap
     name := "I/Q Swap"
     description := "Swap I and Q of complex samples."
     units := ""
     kind := .bool }]

end DacStream
