import DacStream.Session.Basic

/-!
# Writing to a stream

There are two ways to fill slots.

* `write` takes samples for every channel and converts them into the slot in
  work, taking a new slot when there is none.  A slot is published as soon as it
  is full; what does not fit into it is left for the next call.  `flush` makes
  the rest of the slot in work silent and publishes it.
* `acquireBuffer` hands out a slot for the caller to fill in place, and
  `releaseBuffer` publishes it.  A slot in work is flushed before that, so that
  slots stay in order.

A slot in work does not outlive a reset or a fault: it is dropped as soon as
either is pending or settled.
-/

namespace DacStream

set_option autoImplicit false

/-- What a write did. -/
structure WriteOutcome where
  /-- The elements taken from each input. -/
  written : Nat
  /-- Whether elements are left for another write. -/
  more : Bool
  deriving DecidableEq, Repr

/-- A slot handed out for filling in place. -/
structure LentBuffer where
  handle : Handle
  tick : UInt64
  /-- The elements the slot holds. -/
  capacity : Nat
  /-- What the slot holds so far, for each channel. -/
  payloads : List Bytes
  deriving DecidableEq, Repr

namespace Stream

/-! ## The slot in work -/

/-- Whether a drain has taken the slot in work away, or is about to. -/
def hasStaleSlot (stream : Stream) : Bool :=
  match stream.inWork with
  | none => false
  | some slot =>
      stream.handover.hasPendingEvent || !stream.handover.ring.isCurrent slot.handle

/-- Forgets a slot in work that is stale. -/
def dropStale (stream : Stream) : Stream :=
  if stream.hasStaleSlot then { stream with inWork := none } else stream

/-- The slot in work, or else a new one. -/
def claim (stream : Stream) : Except StreamError PartialSlot × Stream :=
  match stream.inWork with
  | some slot => (.ok slot, { stream with inWork := none })
  | none =>
      match stream.handover.acquire with
      | (.ok grant, handover) => (.ok ⟨grant.handle, 0⟩, { stream with handover := handover })
      | (.error error, handover) => (.error error, { stream with handover := handover })

/-- Publishes a slot. -/
def release (stream : Stream) (handle : Handle) : Except StreamError Unit × Stream :=
  let (answer, handover) := stream.handover.release handle
  (answer, { stream with handover := handover })

/-- Makes a slot of the writer silent behind its first elements, and publishes
it. -/
def padAndRelease (stream : Stream) (handle : Handle) (elements : Nat) :
    Except StreamError Unit × Stream :=
  let start := min elements stream.config.elementsPerBuffer * stream.config.format.nativeBytes
  let handover := stream.handover
  let padded : Handover :=
    if handover.ring.isWriterSlot handle then
      { handover with
        slots := handover.slots.modify handle.index fun _ payload => payload.muteFrom start }
    else handover
  { stream with handover := padded }.release handle

/-! ## Writing samples -/

section

variable {α : Type} [Sample α]

/-- How many elements a write is asked for: no more than any input holds. -/
def requested (stream : Stream) (inputs : List (List α)) (count : Nat) : Nat :=
  (inputs.map fun input => input.length / stream.config.format.width).foldl min count

/-- A payload with `count` elements of an input converted into it. -/
def place (stream : Stream) (offset count : Nat) (input : List α) (payload : Bytes) : Bytes :=
  let native := stream.config.format.nativeBytes
  let samples := input.take (count * stream.config.format.width)
  let target := payload.window (offset * native) (count * native)
  payload.overwrite (offset * native) (stream.config.converter.fill samples target).2

/-- The slots with `count` elements of each input converted into one of them. -/
def placeAll (stream : Stream) (index offset count : Nat) (inputs : List (List α)) : Slots :=
  stream.handover.slots.modify index fun channel payload =>
    match inputs[channel]? with
    | some input => stream.place offset count input payload
    | none => payload

/-- Writes into a slot that was claimed, and publishes the slot if it is full
then. -/
def writeInto (stream : Stream) (slot : PartialSlot) (inputs : List (List α)) (wanted : Nat) :
    Except StreamError WriteOutcome × Stream :=
  let capacity := stream.config.elementsPerBuffer
  let count := min wanted (capacity - slot.filled)
  let filled := slot.filled + count
  let slots := stream.placeAll slot.handle.index slot.filled count inputs
  let written : Stream := { stream with handover := { stream.handover with slots := slots } }
  let outcome : WriteOutcome := ⟨count, count < wanted⟩
  if filled = capacity then
    let (answer, published) := written.release slot.handle
    (answer.map fun _ => outcome, published)
  else (.ok outcome, { written with inWork := some ⟨slot.handle, filled⟩ })

/-- Converts up to `count` elements of each input into the slot in work, or into
a new one. -/
def write (stream : Stream) (inputs : List (List α)) (count : Nat) :
    Except StreamError WriteOutcome × Stream :=
  let config := stream.config
  if Sample.component α ≠ config.format.component then
    (.error (.formatMismatch config.format (Sample.component α)), stream)
  else if inputs.length ≠ config.channelCount then
    (.error (.channelCountMismatch config.channelCount inputs.length), stream)
  else
    let wanted := stream.requested inputs count
    if wanted = 0 then (.ok ⟨0, false⟩, stream)
    else
      match stream.dropStale.claim with
      | (.error error, after) => (.error error, after)
      | (.ok slot, claimed) => claimed.writeInto slot inputs wanted

end

/-- Publishes the slot in work, silent behind what was written.  The answer tells
whether there was one. -/
def flush (stream : Stream) : Except StreamError Bool × Stream :=
  let fresh := stream.dropStale
  match fresh.inWork with
  | none => (.ok false, fresh)
  | some slot =>
      let (answer, after) :=
        { fresh with inWork := none }.padAndRelease slot.handle slot.filled
      (answer.map fun _ => true, after)

/-! ## Filling in place -/

/-- Hands out the next slot, after the slot in work was flushed. -/
def acquireBuffer (stream : Stream) : Except StreamError LentBuffer × Stream :=
  match stream.flush with
  | (.error error, after) => (.error error, after)
  | (.ok _, flushed) =>
      match flushed.handover.acquire with
      | (.error error, handover) => (.error error, { flushed with handover := handover })
      | (.ok grant, handover) =>
          (.ok
            { handle := grant.handle
              tick := grant.tick
              capacity := flushed.config.elementsPerBuffer
              payloads := (handover.slots.cells[grant.handle.index]?.map Slot.payloads).getD [] },
            { flushed with handover := handover })

/-- The caller puts bytes over the start of the payloads of a slot. -/
def fillBuffer (stream : Stream) (index : Nat) (content : List Bytes) : Stream :=
  { stream with
    handover := { stream.handover with slots := stream.handover.slots.fill index content } }

end Stream

namespace Session

/-! ## Operations of a session -/

/-- Writes samples to the stream. -/
def write {α : Type} [Sample α] (session : Session) (inputs : List (List α)) (count : Nat) :
    Except StreamError WriteOutcome × Session :=
  session.whenTransmitting "write" fun stream => stream.write inputs count

/-- Publishes the slot in work. -/
def flush (session : Session) : Except StreamError Bool × Session :=
  session.whenActive "flush" Stream.flush

/-- Hands out a slot for filling in place. -/
def acquireBuffer (session : Session) : Except StreamError LentBuffer × Session :=
  session.whenTransmitting "acquire a write buffer" Stream.acquireBuffer

/-- Fills a slot in place. -/
def fillBuffer (session : Session) (index : Nat) (content : List Bytes) : Session :=
  match session with
  | .idle => .idle
  | .configured stream => .configured (stream.fillBuffer index content)
  | .active stream run => .active (stream.fillBuffer index content) run

/-- Publishes a slot that was filled in place, silent behind its first elements. -/
def releaseBuffer (session : Session) (handle : Handle) (elements : Nat) :
    Except StreamError Unit × Session :=
  session.whenActive "release a write buffer" fun stream => stream.padAndRelease handle elements

end Session

end DacStream
