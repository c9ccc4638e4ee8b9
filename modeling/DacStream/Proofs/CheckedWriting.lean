import DacStream.Proofs.CheckedHandover
import DacStream.Proofs.SlotInWork
import DacStream.Proofs.StreamFidelity

/-!
# Writes never crash

The operations by which samples are written are put together here from checked parts
(`Session.write?`, `Session.flush?`, `Session.acquireBuffer?`, `Session.releaseBuffer?`):
numbers are checked as they are in the hand-over, every slot and every channel is looked
up in the memory, every row of bytes or samples is cut out where it has to be in the row,
and a conversion that is refused ends the write in the middle.

Whatever was asked of a session since it was idle, and whatever these operations are given,
no check fails, and the operations answer as those without checks
(`Session.writing_never_crashes`).  That rests on the slot in work, which always has room
(`Stream.WorkFits`), on a memory of the shape that the configuration asks for
(`Stream.Sound`), and on slots that hold whole elements (`StreamConfig.Fit`).
-/

namespace DacStream

set_option autoImplicit false

/-! ## The memory, channel by channel -/

/-- As `muteFrom`: the silence begins in the row, or just behind it. -/
def Bytes.muteFrom? (bytes : Bytes) (start : Nat) : Option Bytes := do
  let _ ← part? bytes start bytes.length
  some (bytes.muteFrom start)

theorem Bytes.muteFrom?_eq {bytes : Bytes} {start : Nat} (inside : start ≤ bytes.length) :
    bytes.muteFrom? start = some (bytes.muteFrom start) := by
  rw [muteFrom?, part?_of_le inside (Nat.le_refl _)]
  rfl

namespace Slots

/-- Changes the payloads of a slot on the first channels, one after the other.  The first
change that is refused is the last one. -/
def changeFirst? (slots : Slots) (index : Nat)
    (change : Nat → Bytes → Option (Except StreamError Bytes)) :
    Nat → Option (Except StreamError Unit × Slots)
  | 0 => some (.ok (), slots)
  | channel + 1 => do
      match ← slots.changeFirst? index change channel with
      | (.error error, changed) => some (.error error, changed)
      | (.ok (), changed) =>
          let payload ← changed.payload? index channel
          match ← change channel payload with
          | .error error => some (.error error, changed)
          | .ok bytes => some (.ok (), changed.modifyChannel index channel fun _ => bytes)

/-- Makes the payloads of a slot silent from `start` on. -/
def silence? (slots : Slots) (index start : Nat) : Option (Except StreamError Unit × Slots) :=
  slots.changeFirst? index (fun _ payload => (payload.muteFrom? start).map .ok) slots.channels

/-- The payloads of a slot, looked up channel by channel. -/
def payloads? (slots : Slots) (index : Nat) : Option (List Bytes) :=
  (List.range slots.channels).mapM fun channel => slots.payload? index channel

variable {slots : Slots} {capacity channels channelLength index : Nat}

/-- If no change is refused, all of them can be made at once. -/
theorem Shaped.changeFirst?_eq (shaped : slots.Shaped capacity channels channelLength)
    (inside : index < capacity) {change : Nat → Bytes → Option (Except StreamError Bytes)}
    {made : Nat → Bytes → Bytes} {count : Nat} (enough : count ≤ channels)
    (makes : ∀ channel < count, ∀ payload : Bytes, payload.length = channelLength →
      change channel payload = some (.ok (made channel payload))) :
    slots.changeFirst? index change count =
      some (.ok (), slots.modify index fun channel payload =>
        if channel < count then made channel payload else payload) := by
  induction count with
  | zero =>
      simp only [changeFirst?, Nat.not_lt_zero, if_false, modify_unchanged]
  | succ count inductionHypothesis =>
      have before := inductionHypothesis (Nat.le_of_succ_le enough)
        fun channel below => makes channel (Nat.lt_succ_of_lt below)
      obtain ⟨payload, there, length⟩ := shaped.exists_payload inside (Nat.lt_of_succ_le enough)
      have unchanged : (slots.modify index fun channel payload =>
          if channel < count then made channel payload else payload).payload? index count =
            some payload := by
        rw [payload?_modify, if_pos rfl, there, Option.map_some, if_neg (Nat.lt_irrefl count)]
      have changed := makes count (Nat.lt_succ_self count) payload length
      simp only [changeFirst?, before, unchanged, changed, Option.bind_eq_bind, Option.bind_some]
      rw [modifyChannel, modify_modify]
      refine congrArg (fun reached => some (Except.ok (), reached)) (modify_congr ?_)
      intro channel other found
      by_cases last : channel = count
      · subst last
        obtain rfl := Option.some.inj (found.symm.trans there)
        rw [if_pos rfl, if_pos (Nat.lt_succ_self channel)]
      · rw [if_neg last]
        by_cases below : channel < count
        · rw [if_pos below, if_pos (Nat.lt_succ_of_lt below)]
        · rw [if_neg below, if_neg (by omega)]

theorem Shaped.silence?_eq (shaped : slots.Shaped capacity channels channelLength)
    (inside : index < capacity) {start : Nat} (startInside : start ≤ channelLength) :
    slots.silence? index start =
      some (.ok (), slots.modify index fun _ payload => payload.muteFrom start) := by
  have mutes (channel : Nat) (_ : channel < slots.channels) (payload : Bytes)
      (length : payload.length = channelLength) :
      (payload.muteFrom? start).map Except.ok =
        some (Except.ok (ε := StreamError) (payload.muteFrom start)) := by
    rw [Bytes.muteFrom?_eq (length ▸ startInside), Option.map_some]
  rw [silence?, shaped.changeFirst?_eq inside (Nat.le_of_eq shaped.channelCount) mutes]
  refine congrArg (fun reached => some (Except.ok (), reached)) (modify_congr ?_)
  intro channel payload there
  rw [if_pos (shaped.channelCount ▸ (shaped.of_payload? there).1)]

/-- Every channel has its payload. -/
theorem Shaped.payloads?_eq (shaped : slots.Shaped capacity channels channelLength)
    (inside : index < capacity) :
    slots.payloads? index = some ((slots.cells[index]?.map Slot.payloads).getD []) := by
  have stored : index < slots.cells.length := by
    rw [← shaped.slotCount] at inside
    exact inside
  have lengths := shaped.payloads slots.cells[index] (List.getElem_mem stored)
  have all : slots.cells[index].payloads.length = slots.channels := by
    rw [shaped.channelCount]
    simpa using congrArg List.length lengths
  have first : ∀ count ≤ slots.channels,
      (List.range count).mapM (fun channel => slots.payload? index channel) =
        some (slots.cells[index].payloads.take count) := by
    intro count below
    induction count with
    | zero => rfl
    | succ count inductionHypothesis =>
        have there : count < slots.cells[index].payloads.length := by omega
        have next : slots.payload? index count = some slots.cells[index].payloads[count] := by
          rw [payload?, List.getElem?_eq_getElem stored, Option.bind_some,
            List.getElem?_eq_getElem there]
        rw [List.range_succ, List.mapM_append, inductionHypothesis (Nat.le_of_succ_le below),
          List.mapM_cons, next, List.take_succ_eq_append_getElem there]
        rfl
  rw [payloads?, first _ (Nat.le_refl _), ← all, List.take_length,
    List.getElem?_eq_getElem stored, Option.map_some, Option.getD_some]

end Slots

/-! ## Conversions -/

/-- The upper half of a signed 16-bit sample. -/
theorem toInt_upperHalf (sample : Int16) : (sample >>> 8).toInt = sample.toInt / 256 := by
  have distance : ((8 : Int16).toBitVec.smod 16).toNat = 8 := by decide
  rw [← Int16.toInt_toBitVec, Int16.toBitVec_shiftRight, BitVec.sshiftRight_eq',
    BitVec.toInt_sshiftRight, distance, Int16.toInt_toBitVec, Int.shiftRight_eq_div_pow]
  rfl

/-- The one sum by which a sample is converted stays in the range of its type. -/
theorem toInt_upperHalf_add (sample : Int16) :
    ((sample >>> 8) + 128).toInt = (sample >>> 8).toInt + 128 := by
  have lower := Int16.le_toInt sample
  have upper := Int16.toInt_lt sample
  have shift : (128 : Int16).toInt = 128 := by decide
  rw [Int16.toInt_add, toInt_upperHalf, shift]
  refine Int.bmod_eq_of_le_mul_two ?_ ?_ <;> omega

namespace Converter

variable {α : Type} [Sample α]

/-- As `fill`: samples and output are both cut down to the elements that are converted. -/
def fill? (converter : Converter) (samples : List α) (output : Bytes) : Option (Nat × Bytes) := do
  let held ← quotient? samples.length converter.format.width
  let room ← quotient? output.length converter.format.width
  let used ← inWord? (min held room * converter.format.width)
  let source ← part? samples 0 used
  let _ ← part? output 0 used
  some (min held room, converter.bytes source ++ output.drop used)

/-- As `convert`. -/
def convert? (converter : Converter) (samples : List α) (output : Bytes) :
    Option (Except StreamError (Nat × Bytes)) :=
  if Sample.component α ≠ converter.format.component then
    some (.error (.formatMismatch converter.format (Sample.component α)))
  else do
    let filled ← converter.fill? samples output
    some (.ok filled)

theorem convert_of_eq (converter : Converter) (samples : List α) (output : Bytes)
    (matching : Sample.component α = converter.format.component) :
    converter.convert samples output = .ok (converter.fill samples output) := by
  rw [convert, if_neg (not_not.mpr matching)]

theorem fill?_eq (converter : Converter) (samples : List α) {output : Bytes}
    (word : output.length < UInt64.size) :
    converter.fill? samples output = some (converter.fill samples output) := by
  have width := converter.format.width_pos
  obtain ⟨inSamples, inOutput⟩ := converter.used_le samples.length output.length
  simp only [used, elements] at inSamples inOutput
  simp only [fill?, quotient?_of_pos width, inWord?_of_lt (Nat.lt_of_le_of_lt inOutput word),
    part?_zero inSamples, part?_zero inOutput, Option.bind_eq_bind, Option.bind_some]
  rfl

theorem convert?_eq (converter : Converter) (samples : List α) {output : Bytes}
    (word : output.length < UInt64.size) :
    converter.convert? samples output = some (converter.convert samples output) := by
  unfold convert? convert
  by_cases other : Sample.component α ≠ converter.format.component
  · rw [if_pos other, if_pos other]
  · rw [if_neg other, if_neg other, converter.fill?_eq samples word]
    rfl

end Converter

/-! ## Streams -/

/-- As `elementsPerBuffer`. -/
def StreamConfig.elementsPerBuffer? (config : StreamConfig) : Option Nat :=
  quotient? config.bufferLength config.format.nativeBytes

theorem StreamConfig.elementsPerBuffer?_eq (config : StreamConfig) :
    config.elementsPerBuffer? = some config.elementsPerBuffer :=
  quotient?_of_pos config.format.nativeBytes_pos _

namespace Stream

/-- As `claim`. -/
def claim? (stream : Stream) : Option (Except StreamError PartialSlot × Stream) :=
  match stream.inWork with
  | some slot => some (.ok slot, { stream with inWork := none })
  | none => do
      match ← stream.handover.acquire? with
      | (.ok grant, handover) => some (.ok ⟨grant.handle, 0⟩, { stream with handover := handover })
      | (.error error, handover) => some (.error error, { stream with handover := handover })

/-- As `release`. -/
def release? (stream : Stream) (handle : Handle) : Option (Except StreamError Unit × Stream) := do
  let (answer, handover) ← stream.handover.release? handle
  some (answer, { stream with handover := handover })

/-- As `padAndRelease`. -/
def padAndRelease? (stream : Stream) (handle : Handle) (elements : Nat) :
    Option (Except StreamError Unit × Stream) := do
  let writer ← stream.handover.ring.isWriterSlot? handle
  if writer then
    let capacity ← stream.config.elementsPerBuffer?
    let start ← inWord? (min elements capacity * stream.config.format.nativeBytes)
    let (_, slots) ← stream.handover.slots.silence? handle.index start
    (stream.withSlots slots).release? handle
  else stream.release? handle

section

variable {α : Type} [Sample α]

/-- As `requested`. -/
def requested? (stream : Stream) (inputs : List (List α)) (count : Nat) : Option Nat := do
  let held ← inputs.mapM fun input => quotient? input.length stream.config.format.width
  some (held.foldl min count)

/-- As `place`. -/
def place? (stream : Stream) (offset count : Nat) (input : List α) (payload : Bytes) :
    Option (Except StreamError Bytes) := do
  let start ← inWord? (offset * stream.config.format.nativeBytes)
  let stop ← inWord? ((offset + count) * stream.config.format.nativeBytes)
  let target ← part? payload start stop
  let used ← inWord? (count * stream.config.format.width)
  let samples ← part? input 0 used
  let answer ← stream.config.converter.convert? samples target
  some (answer.map fun filled => payload.overwrite start filled.2)

/-- As `place`, for the input of a channel. -/
def placeFrom? (stream : Stream) (offset count : Nat) (inputs : List (List α)) (channel : Nat)
    (payload : Bytes) : Option (Except StreamError Bytes) := do
  let input ← inputs[channel]?
  stream.place? offset count input payload

/-- As `writeInto`. -/
def writeInto? (stream : Stream) (slot : PartialSlot) (inputs : List (List α)) (wanted : Nat) :
    Option (Except StreamError WriteOutcome × Stream) := do
  let capacity ← stream.config.elementsPerBuffer?
  let room ← difference? capacity slot.filled
  let count := min wanted room
  match ← stream.handover.slots.changeFirst? slot.handle.index
      (stream.placeFrom? slot.filled count inputs) inputs.length with
  | (.error error, slots) => some (.error error, stream.withSlots slots)
  | (.ok (), slots) =>
      let written := stream.withSlots slots
      let filled ← inWord? (slot.filled + count)
      if filled = capacity then
        let (answer, published) ← written.release? slot.handle
        some (answer.map fun _ => ⟨count, count < wanted⟩, published)
      else some (.ok ⟨count, count < wanted⟩, { written with inWork := some ⟨slot.handle, filled⟩ })

/-- As `write`. -/
def write? (stream : Stream) (inputs : List (List α)) (count : Nat) :
    Option (Except StreamError WriteOutcome × Stream) :=
  if Sample.component α ≠ stream.config.format.component then
    some (.error (.formatMismatch stream.config.format (Sample.component α)), stream)
  else if inputs.length ≠ stream.config.channelCount then
    some (.error (.channelCountMismatch stream.config.channelCount inputs.length), stream)
  else do
    let wanted ← stream.requested? inputs count
    if wanted = 0 then some (.ok ⟨0, false⟩, stream)
    else
      match ← stream.dropStale.claim? with
      | (.error error, after) => some (.error error, after)
      | (.ok slot, claimed) => claimed.writeInto? slot inputs wanted

end

/-- As `flush`. -/
def flush? (stream : Stream) : Option (Except StreamError Bool × Stream) :=
  match stream.dropStale.inWork with
  | none => some (.ok false, stream.dropStale)
  | some slot => do
      let (answer, after) ←
        { stream.dropStale with inWork := none }.padAndRelease? slot.handle slot.filled
      some (answer.map fun _ => true, after)

/-- As `acquireBuffer`: the payloads that are handed out are looked up one by one. -/
def acquireBuffer? (stream : Stream) : Option (Except StreamError LentBuffer × Stream) := do
  match ← stream.flush? with
  | (.error error, after) => some (.error error, after)
  | (.ok _, flushed) =>
      match ← flushed.handover.acquire? with
      | (.error error, handover) => some (.error error, { flushed with handover := handover })
      | (.ok grant, handover) =>
          let payloads ← handover.slots.payloads? grant.handle.index
          let capacity ← flushed.config.elementsPerBuffer?
          some
            (.ok ⟨grant.handle, grant.tick, capacity, payloads⟩,
              { flushed with handover := handover })

variable {stream : Stream}

/-! ### What the checks rest on -/

/-- Every slot of the ring is in the memory. -/
theorem Sound.stored (sound : stream.Sound) :
    stream.handover.ring.capacity = stream.handover.slots.capacity :=
  sound.capacity.trans sound.memory.slotCount.symm

/-- The bytes of some of the elements of a slot are counted by a machine word. -/
theorem Sound.bytes_lt (sound : stream.Sound) {elements : Nat}
    (some : elements ≤ stream.config.elementsPerBuffer) :
    elements * stream.config.format.nativeBytes ≤ stream.config.bufferLength ∧
      elements * stream.config.format.nativeBytes < UInt64.size := by
  obtain ⟨request, limits, accepted⟩ := sound.accepted
  have inside : elements * stream.config.format.nativeBytes ≤ stream.config.bufferLength := by
    rw [← (StreamConfig.fit_of_accepted accepted).whole]
    exact Nat.mul_le_mul_right _ some
  exact ⟨inside, Nat.lt_of_le_of_lt inside (StreamConfig.bufferLength_lt_of_accepted accepted)⟩

/-! ### No check fails -/

theorem Sound.claim?_eq (sound : stream.Sound) : stream.claim? = some stream.claim := by
  unfold claim? claim
  cases stream.inWork with
  | some slot => rfl
  | none =>
      simp only [Handover.acquire?_eq sound.ring sound.stored, Option.bind_eq_bind,
        Option.bind_some]
      rcases stream.handover.acquire with ⟨error | grant, handover⟩ <;> rfl

theorem Sound.release?_eq (sound : stream.Sound) (handle : Handle) :
    stream.release? handle = some (stream.release handle) := by
  simp only [release?, Handover.release?_eq sound.ring, Option.bind_eq_bind, Option.bind_some]
  rfl

/-- Silence begins inside of a payload. -/
theorem Sound.padAndRelease?_eq (sound : stream.Sound) (handle : Handle) (elements : Nat) :
    stream.padAndRelease? handle elements = some (stream.padAndRelease handle elements) := by
  rw [padAndRelease_eq, padAndRelease?, sound.ring.isWriterSlot?_eq, padded]
  cases writer : stream.handover.ring.isWriterSlot handle with
  | false =>
      simp only [Option.bind_eq_bind, Option.bind_some, Bool.false_eq_true, if_false,
        sound.release?_eq]
      rfl
  | true =>
      have inside : handle.index < stream.config.bufferCount := by
        simp only [SlotRing.isWriterSlot, Bool.and_eq_true, decide_eq_true_eq] at writer
        rw [← sound.capacity]
        exact writer.1.2
      obtain ⟨start, word⟩ :=
        sound.bytes_lt (Nat.min_le_right elements stream.config.elementsPerBuffer)
      have padded := sound.moves (stream.moves_padded handle elements)
      rw [Stream.padded, if_pos writer] at padded
      simp only [if_true, StreamConfig.elementsPerBuffer?_eq, inWord?_of_lt word,
        sound.memory.silence?_eq inside start, Option.bind_eq_bind, Option.bind_some]
      exact padded.release?_eq handle

section

variable {α : Type} [Sample α] {inputs : List (List α)} {input : List α} {payload : Bytes}
  {slot : PartialSlot} {offset count wanted : Nat}

omit [Sample α] in
theorem requested?_eq (stream : Stream) (inputs : List (List α)) (count : Nat) :
    stream.requested? inputs count = some (stream.requested inputs count) := by
  simp only [requested?, quotient?_of_pos stream.config.format.width_pos]
  rw [show inputs.mapM (fun input => some (input.length / stream.config.format.width)) =
    some (inputs.map fun input => input.length / stream.config.format.width) from
      List.mapM_pure (m := Option)]
  rfl

/-- Elements are converted from inside of the input to inside of the payload. -/
theorem Sound.place?_eq (sound : stream.Sound)
    (matching : Sample.component α = stream.config.format.component)
    (length : payload.length = stream.config.bufferLength)
    (room : offset + count ≤ stream.config.elementsPerBuffer)
    (enough : count * stream.config.format.width ≤ input.length) :
    stream.place? offset count input payload =
      some (.ok (stream.place offset count input payload)) := by
  obtain ⟨inside, stop⟩ := sound.bytes_lt room
  obtain ⟨-, start⟩ := sound.bytes_lt (Nat.le_trans (Nat.le_add_right offset count) room)
  obtain ⟨-, used⟩ := sound.bytes_lt (Nat.le_trans (Nat.le_add_left count offset) room)
  have forward : offset * stream.config.format.nativeBytes ≤
      (offset + count) * stream.config.format.nativeBytes :=
    Nat.mul_le_mul_right _ (Nat.le_add_right offset count)
  have window : (offset + count) * stream.config.format.nativeBytes -
      offset * stream.config.format.nativeBytes = count * stream.config.format.nativeBytes := by
    rw [Nat.add_mul, Nat.add_sub_cancel_left]
  have short : ((payload.drop (offset * stream.config.format.nativeBytes)).take
      (count * stream.config.format.nativeBytes)).length < UInt64.size :=
    Nat.lt_of_le_of_lt (List.length_take_le _ _) used
  simp only [place?, inWord?_of_lt start, inWord?_of_lt stop,
    inWord?_of_lt (show count * stream.config.format.width < UInt64.size from used),
    part?_of_le forward (length ▸ inside), part?_zero enough, window, Option.bind_eq_bind,
    Option.bind_some, Converter.convert?_eq _ _ short,
    stream.config.converter.convert_of_eq _ _ matching]
  rfl

/-- The inputs are converted as they are all at once. -/
theorem Sound.placeAll?_eq (sound : stream.Sound) (accepts : stream.Accepts inputs) {index : Nat}
    (inside : index < stream.config.bufferCount)
    (room : offset + count ≤ stream.config.elementsPerBuffer)
    (enough : ∀ input ∈ inputs, count * stream.config.format.width ≤ input.length) :
    stream.handover.slots.changeFirst? index (stream.placeFrom? offset count inputs)
        inputs.length =
      some (.ok (), stream.placeAll index offset count inputs) := by
  have converts (channel : Nat) (below : channel < inputs.length) (payload : Bytes)
      (length : payload.length = stream.config.bufferLength) :
      stream.placeFrom? offset count inputs channel payload =
        some (.ok (inputs[channel]?.elim payload fun input =>
          stream.place offset count input payload)) := by
    rw [placeFrom?, List.getElem?_eq_getElem below]
    exact sound.place?_eq accepts.1 length room (enough _ (List.getElem_mem below))
  rw [sound.memory.changeFirst?_eq inside (Nat.le_of_eq accepts.2) converts, placeAll]
  refine congrArg (fun reached => some (Except.ok (), reached)) (Slots.modify_congr ?_)
  intro channel payload _
  by_cases below : channel < inputs.length
  · rw [if_pos below, List.getElem?_eq_getElem below, Option.elim_some]
  · rw [if_neg below, List.getElem?_eq_none (Nat.le_of_not_lt below)]

/-- **Writing into a slot that has room passes every check.** -/
theorem Sound.writeInto?_eq (sound : stream.Sound) (accepts : stream.Accepts inputs)
    (inside : slot.handle.index < stream.config.bufferCount)
    (room : slot.filled < stream.config.elementsPerBuffer)
    (enough : ∀ input ∈ inputs, wanted * stream.config.format.width ≤ input.length) :
    stream.writeInto? slot inputs wanted = some (stream.writeInto slot inputs wanted) := by
  have fits : slot.filled + min wanted (stream.config.elementsPerBuffer - slot.filled) ≤
      stream.config.elementsPerBuffer := by omega
  have word : slot.filled + min wanted (stream.config.elementsPerBuffer - slot.filled) <
      UInt64.size := by
    obtain ⟨-, bytes⟩ := sound.bytes_lt fits
    exact Nat.lt_of_le_of_lt (Nat.le_mul_of_pos_right _ stream.config.format.nativeBytes_pos) bytes
  have placed := sound.placeAll?_eq accepts inside fits fun input listed =>
    (Nat.mul_le_mul_right _ (Nat.min_le_left _ _)).trans (enough input listed)
  have written := sound.moves (stream.moves_placeAll slot.handle.index slot.filled
    (min wanted (stream.config.elementsPerBuffer - slot.filled)) inputs)
  simp only [writeInto?, StreamConfig.elementsPerBuffer?_eq,
    difference?_of_le (Nat.le_of_lt room), placed, inWord?_of_lt word, Option.bind_eq_bind,
    Option.bind_some, written.release?_eq]
  obtain ⟨_, rfl, _, rfl, ⟨full, same⟩ | ⟨notFull, same⟩⟩ :=
    stream.writeInto_cases slot inputs wanted
  · rw [if_pos full, same]
  · rw [if_neg notFull, same]

/-- **A write passes every check**, whatever the inputs. -/
theorem Sound.write?_eq (sound : stream.Sound) (fits : stream.WorkFits)
    (inputs : List (List α)) (count : Nat) :
    stream.write? inputs count = some (stream.write inputs count) := by
  unfold write? write
  by_cases component : Sample.component α ≠ stream.config.format.component
  · rw [if_pos component, if_pos component]
  · rw [if_neg component, if_neg component]
    by_cases channels : inputs.length ≠ stream.config.channelCount
    · rw [if_pos channels, if_pos channels]
    · have dropped := sound.moves stream.moves_dropStale
      simp only [if_neg channels, requested?_eq, dropped.claim?_eq, Option.bind_eq_bind,
        Option.bind_some]
      by_cases nothing : stream.requested inputs count = 0
      · rw [if_pos nothing, if_pos nothing]
      · rw [if_neg nothing, if_neg nothing]
        have claims (slot : PartialSlot) (claimed : stream.dropStale.claim.1 = .ok slot) :=
          fits.claimed sound claimed
        rcases same : stream.dropStale.claim with ⟨error | slot, after⟩
        · rfl
        · rw [same] at claims
          obtain ⟨claimed, config, room⟩ := claims slot rfl
          simp only at claimed config
          rw [← config] at room
          refine claimed.writeInto?_eq ?_ room.1 room.2 ?_
          · rw [Accepts, config]
            exact ⟨not_not.mp component, not_not.mp channels⟩
          · intro input listed
            rw [config]
            exact stream.requested_mul_width_le count listed

end

theorem Sound.flush?_eq (sound : stream.Sound) : stream.flush? = some stream.flush := by
  have forgotten := (sound.moves stream.moves_dropStale).moves (moves_work _ none)
  unfold flush? flush
  cases work : stream.dropStale.inWork with
  | none => simp only [work]
  | some slot =>
      simp only [work, forgotten.padAndRelease?_eq, Option.bind_eq_bind, Option.bind_some]

/-- **Handing out a slot passes every check.** -/
theorem Sound.acquireBuffer?_eq (sound : stream.Sound) :
    stream.acquireBuffer? = some stream.acquireBuffer := by
  have flushed := sound.moves stream.moves_flush
  unfold acquireBuffer? acquireBuffer
  rw [sound.flush?_eq]
  simp only [Option.bind_eq_bind, Option.bind_some]
  generalize stream.flush = answered at flushed
  obtain ⟨error | _, after⟩ := answered
  · rfl
  · have asked := Handover.acquire?_eq flushed.ring flushed.stored
    have lent := (flushed.moves (after.moves_handOver .acquire)).memory
    have insides (grant : Grant) (granted : after.handover.acquire.1 = .ok grant) :=
      flushed.index_lt_of_acquired granted
    simp only [HandoverRequest.run] at asked lent insides ⊢
    rw [asked]
    generalize after.handover.acquire = granted at lent insides
    obtain ⟨error | grant, handover⟩ := granted
    · rfl
    · simp only [Option.bind_some, lent.payloads?_eq (insides grant rfl),
        StreamConfig.elementsPerBuffer?_eq]

/-! ### Conversions are whole -/

section

variable {α : Type} [Sample α]

/-- What a write converts into a slot: at least one element, and on every channel as many
bytes as the part of the payload has that is meant for them. -/
structure ConvertsWhole (stream : Stream) (slot : PartialSlot) (inputs : List (List α))
    (wanted count : Nat) : Prop where
  counted : count = min wanted (stream.config.elementsPerBuffer - slot.filled)
  some : 1 ≤ count
  whole : ∀ channel input, inputs[channel]? = .some input → ∃ payload bytes,
    stream.handover.slots.payload? slot.handle.index channel = .some payload ∧
      (slot.filled + count) * stream.config.format.nativeBytes ≤ payload.length ∧
      count * stream.config.format.width ≤ input.length ∧
      stream.config.converter.convert (input.take (count * stream.config.format.width))
          (payload.window (slot.filled * stream.config.format.nativeBytes)
            (count * stream.config.format.nativeBytes)) = .ok (count, bytes) ∧
      bytes = stream.converted count input ∧
      bytes.length = count * stream.config.format.nativeBytes

theorem Sound.convertsWhole (sound : stream.Sound) {slot : PartialSlot}
    {inputs : List (List α)} {wanted : Nat} (accepts : stream.Accepts inputs)
    (inside : slot.handle.index < stream.config.bufferCount)
    (room : slot.filled < stream.config.elementsPerBuffer) (some : 0 < wanted)
    (enough : ∀ input ∈ inputs, wanted * stream.config.format.width ≤ input.length) :
    stream.ConvertsWhole slot inputs wanted
      (min wanted (stream.config.elementsPerBuffer - slot.filled)) := by
  generalize counted : min wanted (stream.config.elementsPerBuffer - slot.filled) = count
  refine ⟨counted.symm, by omega, ?_⟩
  intro channel input there
  obtain ⟨below, rfl⟩ := List.getElem?_eq_some_iff.mp there
  obtain ⟨payload, has, length⟩ := sound.memory.exists_payload inside (accepts.2 ▸ below)
  have inPayload : (slot.filled + count) * stream.config.format.nativeBytes ≤ payload.length := by
    rw [length]
    exact (sound.bytes_lt (by omega)).1
  have inInput : count * stream.config.format.width ≤ inputs[channel].length :=
    (Nat.mul_le_mul_right _ (by omega)).trans (enough _ (List.getElem_mem below))
  have wholeInput : (inputs[channel].take (count * stream.config.format.width)).length =
      count * stream.config.converter.format.width := by
    rw [List.length_take, Nat.min_eq_left inInput]
    rfl
  have wholeOutput : (payload.window (slot.filled * stream.config.format.nativeBytes)
      (count * stream.config.format.nativeBytes)).length =
        count * stream.config.converter.format.width := by
    rw [Nat.add_mul] at inPayload
    rw [Bytes.window, List.length_take, List.length_drop, Nat.min_eq_left (by omega)]
    rfl
  refine ⟨payload, stream.converted count inputs[channel], has, inPayload, inInput, ?_, rfl,
    stream.length_converted inInput⟩
  rw [stream.config.converter.convert_of_eq _ _ accepts.1,
    stream.config.converter.fill_whole wholeInput wholeOutput]
  rfl

end

end Stream

/-! ## Sessions -/

namespace Session

section

variable {β : Type}

/-- As `whenActive`. -/
def whenActive? (operation : String) (act : Stream → Option (Except StreamError β × Stream))
    (session : Session) : Option (Except StreamError β × Session) :=
  match session with
  | .active stream run => do
      let (answer, after) ← act stream
      some (answer, .active after run)
  | other => some (.error (other.misfit operation), other)

/-- As `whenTransmitting`. -/
def whenTransmitting? (operation : String) (act : Stream → Option (Except StreamError β × Stream))
    (session : Session) : Option (Except StreamError β × Session) :=
  match session with
  | .active stream (.over ending) =>
      some (.error .transmitterStopped, .active stream (.over ending))
  | other => other.whenActive? operation act

variable {session : Session} {act? : Stream → Option (Except StreamError β × Stream)}
  {act : Stream → Except StreamError β × Stream}

theorem whenActive?_eq
    (passes : ∀ stream, session.stream? = some stream → act? stream = some (act stream))
    (operation : String) :
    session.whenActive? operation act? = some (session.whenActive operation act) := by
  cases session with
  | idle | configured => rfl
  | active stream run =>
      simp only [whenActive?, whenActive, passes stream rfl, Option.bind_eq_bind,
        Option.bind_some]

theorem whenTransmitting?_eq
    (passes : ∀ stream, session.stream? = some stream → act? stream = some (act stream))
    (operation : String) :
    session.whenTransmitting? operation act? =
      some (session.whenTransmitting operation act) := by
  rcases session with _ | stream | ⟨stream, planned | ended⟩
  · rfl
  · rfl
  · exact whenActive?_eq passes operation
  · rfl

end

/-- As `write`. -/
def write? {α : Type} [Sample α] (session : Session) (inputs : List (List α)) (count : Nat) :
    Option (Except StreamError WriteOutcome × Session) :=
  session.whenTransmitting? "write" fun stream => stream.write? inputs count

/-- As `flush`. -/
def flush? (session : Session) : Option (Except StreamError Bool × Session) :=
  session.whenActive? "flush" Stream.flush?

/-- As `acquireBuffer`. -/
def acquireBuffer? (session : Session) : Option (Except StreamError LentBuffer × Session) :=
  session.whenTransmitting? "acquire a write buffer" Stream.acquireBuffer?

/-- As `releaseBuffer`. -/
def releaseBuffer? (session : Session) (handle : Handle) (elements : Nat) :
    Option (Except StreamError Unit × Session) :=
  session.whenActive? "release a write buffer" fun stream =>
    stream.padAndRelease? handle elements

/-- What is in range while a session is written to. -/
structure WritesInRange (session : Session) : Prop where
  /-- There is something in the slot in work, and room for more, and every channel of it is
  in the memory. -/
  continued : ∀ stream, session.stream? = some stream →
    ∀ slot, stream.inWork = some slot →
      0 < slot.filled ∧ slot.filled < stream.config.elementsPerBuffer ∧
        ∀ channel < stream.config.channelCount,
          ∃ payload, stream.handover.slots.payload? slot.handle.index channel = some payload
  /-- What a write converts is not refused, and fills the part that is meant for it. -/
  converted : ∀ stream, session.stream? = some stream →
    ∀ {α : Type} [Sample α] (inputs : List (List α)) (count : Nat) (slot : PartialSlot),
      stream.Accepts inputs → 0 < stream.requested inputs count →
        stream.dropStale.claim.1 = .ok slot → ∃ written,
          stream.dropStale.claim.2.ConvertsWhole slot inputs (stream.requested inputs count)
            written
  /-- The sums that pass on the way round the ring fit into a machine word, whatever else has
  become of the ring in the middle of an operation, if the slots are in a memory. -/
  summed : ∀ stream, session.stream? = some stream → stream.handover.slots.InMemory →
    ∀ ring : SlotRing, ring.capacity = stream.handover.ring.capacity →
      ∀ sum, ring.onRing? sum = some sum → inWord? sum = some sum
  /-- The sum in the rule for signed 16-bit samples does not overflow. -/
  shifted : ∀ sample : Int16, ((sample >>> 8) + 128).toInt = (sample >>> 8).toInt + 128
  /-- Silence begins inside of the payloads, or just behind them. -/
  silenced : ∀ stream, session.stream? = some stream → ∀ index channel payload,
    stream.handover.slots.payload? index channel = some payload → ∀ elements,
      min elements stream.config.elementsPerBuffer * stream.config.format.nativeBytes ≤
        payload.length
  /-- No check fails. -/
  write : ∀ {α : Type} [Sample α] (inputs : List (List α)) (count : Nat),
    session.write? inputs count = some (session.write inputs count)
  flush : session.flush? = some session.flush
  acquireBuffer : session.acquireBuffer? = some session.acquireBuffer
  releaseBuffer : ∀ handle elements,
    session.releaseBuffer? handle elements = some (session.releaseBuffer handle elements)

/-- **Writing never crashes**, whatever was asked of a session since it was idle and whatever
is written: all numbers are in range, all slots and channels that are used are in the memory,
and what is converted fills the part of the payload that it is meant for. -/
theorem writing_never_crashes (history : List SessionRequest) :
    (idle.after history).WritesInRange := by
  have sound := sound_idle.after history
  have fits := workFits_idle.after sound_idle history
  exact
    { continued := by
        intro stream has slot work
        obtain ⟨inside, begun, room⟩ := fits stream has slot work
        refine ⟨begun, room, fun channel below => ?_⟩
        obtain ⟨payload, there, -⟩ := (sound stream has).memory.exists_payload inside below
        exact ⟨payload, there⟩
      converted := by
        intro stream has α _ inputs count slot accepts some claimed
        obtain ⟨later, config, room⟩ := (fits stream has).claimed (sound stream has) claimed
        rw [← config] at room
        refine ⟨_, later.convertsWhole ?_ room.1 room.2 some fun input listed => ?_⟩
        · rwa [Stream.Accepts, config]
        · rw [config]
          exact stream.requested_mul_width_le count listed
      summed := fun stream has inMemory _ same _ passed =>
        SlotRing.inWord?_of_onRing? inMemory (same.trans (sound stream has).stored) passed
      shifted := toInt_upperHalf_add
      silenced := by
        intro stream has index channel payload there elements
        rw [((sound stream has).memory.of_payload? there).2]
        exact ((sound stream has).bytes_lt (Nat.min_le_right _ _)).1
      write := fun inputs count => whenTransmitting?_eq
        (fun stream has => (sound stream has).write?_eq (fits stream has) inputs count) _
      flush := whenActive?_eq (fun stream has => (sound stream has).flush?_eq) _
      acquireBuffer := whenTransmitting?_eq
        (fun stream has => (sound stream has).acquireBuffer?_eq) _
      releaseBuffer := fun handle elements => whenActive?_eq
        (fun stream has => (sound stream has).padAndRelease?_eq handle elements) _ }

end Session

end DacStream
