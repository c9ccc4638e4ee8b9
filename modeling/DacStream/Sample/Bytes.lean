import DacStream.Sample.Native

/-!
# Native bytes

What is transmitted on one channel is a row of native bytes.  Rows are changed
in place: a part of a row is replaced, or its end is made silent, and the row
keeps its length.
-/

namespace DacStream

set_option autoImplicit false

/-- Native bytes of one channel. -/
abbrev Bytes := List UInt8

namespace Bytes

/-- A silent stretch of `length` bytes. -/
def silence (length : Nat) : Bytes := List.replicate length midScale

/-- Puts `part` over the bytes from `offset` on. -/
def overwrite (bytes : Bytes) (offset : Nat) (part : Bytes) : Bytes :=
  bytes.take offset ++ part ++ bytes.drop (offset + part.length)

/-- Puts as much of `part` over the start of the bytes as there is room for. -/
def startWith (bytes part : Bytes) : Bytes := bytes.overwrite 0 (part.take bytes.length)

/-- The `count` bytes from `offset` on. -/
def window (bytes : Bytes) (offset count : Nat) : Bytes := (bytes.drop offset).take count

/-- Makes the bytes from `start` on silent. -/
def muteFrom (bytes : Bytes) (start : Nat) : Bytes :=
  bytes.take start ++ silence (bytes.length - start)

theorem length_overwrite (bytes : Bytes) (offset : Nat) (part : Bytes)
    (fits : offset + part.length ≤ bytes.length) :
    (bytes.overwrite offset part).length = bytes.length := by
  simp only [overwrite, List.length_append, List.length_take, List.length_drop]
  omega

theorem length_muteFrom (bytes : Bytes) (start : Nat) :
    (bytes.muteFrom start).length = bytes.length := by
  simp only [muteFrom, silence, List.length_append, List.length_take, List.length_replicate]
  omega

theorem length_startWith (bytes part : Bytes) :
    (bytes.startWith part).length = bytes.length := by
  apply length_overwrite
  simp only [List.length_take]
  omega

end Bytes

end DacStream
