import DacStream.Proofs.QuietRequests
import DacStream.Proofs.StreamFidelity

/-!
# Where two memories agree

To say that nothing of what the slots held at some time is ever heard again, a
hand-over is compared with one that is the same but for its payloads.  The two run
side by side.  Every change of a payload puts bytes over a part of it, and these do not
come from the payload (`Bytes.Overlays`).  So where two payloads agree they go on
agreeing, and behind such a part they agree as well (`Slots.AgreeBelow.modify`,
`Slots.AgreeBelow.modify_self`).

From some epoch on, two such hand-overs agree where it matters (`Handover.Alike`): in the
filled slots, in what has been written of the slot in work, and in what the caller put
into slots itself.  Requests to the hand-over keep that, provided that a slot is
published only when the two agree in all of it.
-/

namespace DacStream

set_option autoImplicit false

/-! ## Rows of bytes -/

namespace Bytes

theorem getElem?_overwrite {bytes part : Bytes} {offset : Nat}
    (fits : offset + part.length ≤ bytes.length) (position : Nat) :
    (bytes.overwrite offset part)[position]? =
      if offset ≤ position ∧ position < offset + part.length then part[position - offset]?
      else bytes[position]? := by
  have before : (bytes.take offset).length = offset := by
    rw [List.length_take]
    omega
  rw [overwrite, List.append_assoc, List.getElem?_append, before]
  by_cases early : position < offset
  · rw [if_pos early, if_neg (by omega), List.getElem?_take_of_lt early]
  · rw [if_neg early, List.getElem?_append]
    by_cases inside : position < offset + part.length
    · rw [if_pos (by omega), if_pos (by omega)]
    · rw [if_neg (by omega), if_neg (by omega), List.getElem?_drop]
      congr 1
      omega

/-- Two rows have the same first bytes. -/
def AgreeBelow (bytes other : Bytes) (count : Nat) : Prop :=
  ∀ position < count, bytes[position]? = other[position]?

/-- A change of rows of one length puts the same part over each of them. -/
structure Overlays (change : Bytes → Bytes) (length offset : Nat) (part : Bytes) : Prop where
  fits : offset + part.length ≤ length
  same : ∀ bytes : Bytes, bytes.length = length → change bytes = bytes.overwrite offset part

variable {bytes other part : Bytes} {change : Bytes → Bytes} {count length offset : Nat}

theorem AgreeBelow.of_le (agree : bytes.AgreeBelow other count) {fewer : Nat}
    (below : fewer ≤ count) : bytes.AgreeBelow other fewer :=
  fun position inside => agree position (Nat.lt_of_lt_of_le inside below)

/-- Rows that agree in all their bytes are the same. -/
theorem AgreeBelow.eq (agree : bytes.AgreeBelow other count) (all : bytes.length ≤ count)
    (sameLength : other.length = bytes.length) : bytes = other := by
  apply List.ext_getElem?
  intro position
  by_cases inside : position < count
  · exact agree position inside
  · rw [List.getElem?_eq_none (by omega), List.getElem?_eq_none (by omega)]

/-- Where rows agree they go on agreeing. -/
theorem AgreeBelow.overlay (agree : bytes.AgreeBelow other count)
    (overlays : Overlays change length offset part) (first : bytes.length = length)
    (second : other.length = length) : (change bytes).AgreeBelow (change other) count := by
  intro position inside
  have fits := overlays.fits
  rw [overlays.same bytes first, overlays.same other second, getElem?_overwrite (by omega),
    getElem?_overwrite (by omega), agree position inside]

/-- Rows that agree before a part agree up to its end after it is put over them. -/
theorem AgreeBelow.overlay_self (agree : bytes.AgreeBelow other offset)
    (overlays : Overlays change length offset part) (first : bytes.length = length)
    (second : other.length = length) :
    (change bytes).AgreeBelow (change other) (offset + part.length) := by
  intro position inside
  have fits := overlays.fits
  rw [overlays.same bytes first, overlays.same other second, getElem?_overwrite (by omega),
    getElem?_overwrite (by omega)]
  by_cases early : position < offset
  · rw [agree position early]
  · rw [if_pos (by omega), if_pos (by omega)]

/-- Leaving rows as they are puts nothing over them. -/
theorem overlays_id (length : Nat) : Overlays id length 0 [] where
  fits := Nat.zero_le _
  same := by
    intro bytes _
    simp [overwrite]

theorem overlays_muteFrom {start : Nat} (inside : start ≤ length) :
    Overlays (·.muteFrom start) length start (silence (length - start)) where
  fits := by
    simp only [silence, List.length_replicate]
    omega
  same := by
    intro bytes exact
    have behind : bytes.drop (start + (length - start)) = [] :=
      List.drop_eq_nil_of_le (by omega)
    simp only [muteFrom, overwrite, silence, List.length_replicate, behind, exact,
      List.append_nil]

theorem overlays_startWith (length : Nat) (part : Bytes) :
    Overlays (·.startWith part) length 0 (part.take length) where
  fits := by
    rw [List.length_take]
    omega
  same := by
    intro bytes exact
    rw [startWith, exact]

end Bytes

/-! ## Memories -/

namespace Slots

variable {slots other : Slots} {capacity channels channelLength : Nat}

/-- Two memories have the same first bytes in the payload of a slot on a channel. -/
def AgreeBelow (slots other : Slots) (index channel count : Nat) : Prop :=
  ∀ payload twin, slots.payload? index channel = some payload →
    other.payload? index channel = some twin → payload.AgreeBelow twin count

variable {change : Nat → Bytes → Bytes} {index channel count : Nat}

theorem AgreeBelow.of_le (agree : slots.AgreeBelow other index channel count) {fewer : Nat}
    (below : fewer ≤ count) : slots.AgreeBelow other index channel fewer :=
  fun payload twin has hasTwin => (agree payload twin has hasTwin).of_le below

theorem agreeBelow_zero (slots other : Slots) (index channel : Nat) :
    slots.AgreeBelow other index channel 0 := by
  intro payload twin _ _ position inside
  exact absurd inside (Nat.not_lt_zero position)

/-- Where there are no payloads, all of them agree. -/
theorem agreeBelow_of_beyond (shaped : slots.Shaped capacity channels channelLength)
    (beyond : channels ≤ channel) (other : Slots) (index count : Nat) :
    slots.AgreeBelow other index channel count := by
  intro payload twin has _
  exact absurd (shaped.of_payload? has).1 (Nat.not_lt_of_le beyond)

/-- The same payloads agree as before. -/
theorem AgreeBelow.of_payload? (agree : slots.AgreeBelow other index channel count)
    {later laterOther : Slots}
    (same : later.payload? index channel = slots.payload? index channel)
    (sameOther : laterOther.payload? index channel = other.payload? index channel) :
    later.AgreeBelow laterOther index channel count := by
  unfold AgreeBelow
  rwa [same, sameOther]

/-- Agreement in all bytes of the payloads is agreement in any number of them. -/
theorem AgreeBelow.of_all (shaped : slots.Shaped capacity channels channelLength)
    (otherShaped : other.Shaped capacity channels channelLength)
    (agree : slots.AgreeBelow other index channel channelLength) (count : Nat) :
    slots.AgreeBelow other index channel count := by
  intro payload twin has hasTwin
  have first := (shaped.of_payload? has).2
  have second := (otherShaped.of_payload? hasTwin).2
  rw [(agree payload twin has hasTwin).eq (by omega) (by omega)]
  intro position _
  rfl

/-- A payload in which two memories agree is the same in both. -/
theorem AgreeBelow.payload?_eq (shaped : slots.Shaped capacity channels channelLength)
    (otherShaped : other.Shaped capacity channels channelLength)
    (agree : slots.AgreeBelow other index channel channelLength) (slotInside : index < capacity) :
    other.payload? index channel = slots.payload? index channel := by
  by_cases channelInside : channel < channels
  · obtain ⟨payload, has, first⟩ := shaped.exists_payload slotInside channelInside
    obtain ⟨twin, hasTwin, second⟩ := otherShaped.exists_payload slotInside channelInside
    rw [has, hasTwin, (agree payload twin has hasTwin).eq (by omega) (by omega)]
  · have none {memory : Slots} (shaped : memory.Shaped capacity channels channelLength) :
        memory.payload? index channel = none := by
      cases has : memory.payload? index channel with
      | none => rfl
      | some payload => exact absurd (shaped.of_payload? has).1 channelInside
    rw [none shaped, none otherShaped]

/-- A change that does not look at the payloads keeps what agrees. -/
theorem AgreeBelow.modify (shaped : slots.Shaped capacity channels channelLength)
    (otherShaped : other.Shaped capacity channels channelLength)
    (agree : slots.AgreeBelow other index channel count) (changed : Nat)
    (overlays : channel < channels →
      ∃ offset part, Bytes.Overlays (change channel) channelLength offset part) :
    (slots.modify changed change).AgreeBelow (other.modify changed change) index channel count := by
  intro payload twin has hasTwin
  rw [payload?_modify] at has hasTwin
  by_cases same : changed = index
  · rw [if_pos same, Option.map_eq_some_iff] at has hasTwin
    obtain ⟨bytes, there, rfl⟩ := has
    obtain ⟨otherBytes, thereToo, rfl⟩ := hasTwin
    obtain ⟨inside, length⟩ := shaped.of_payload? there
    obtain ⟨offset, part, overlay⟩ := overlays inside
    exact (agree bytes otherBytes there thereToo).overlay overlay length
      (otherShaped.of_payload? thereToo).2
  · rw [if_neg same] at has hasTwin
    exact agree payload twin has hasTwin

/-- Where two memories agree before a part that is changed, they agree up to its end
afterwards. -/
theorem AgreeBelow.modify_self (shaped : slots.Shaped capacity channels channelLength)
    (otherShaped : other.Shaped capacity channels channelLength) {offset : Nat} {part : Bytes}
    (agree : slots.AgreeBelow other index channel offset)
    (overlay : Bytes.Overlays (change channel) channelLength offset part) :
    (slots.modify index change).AgreeBelow (other.modify index change) index channel
      (offset + part.length) := by
  intro payload twin has hasTwin
  rw [payload?_modify, if_pos rfl, Option.map_eq_some_iff] at has hasTwin
  obtain ⟨bytes, there, rfl⟩ := has
  obtain ⟨otherBytes, thereToo, rfl⟩ := hasTwin
  exact (agree bytes otherBytes there thereToo).overlay_self overlay
    (shaped.of_payload? there).2 (otherShaped.of_payload? thereToo).2

end Slots

/-! ## Hand-overs -/

/-- Bytes that the caller put into a slot, and the handle of the slot at that time. -/
structure CallerFill where
  handle : Handle
  content : List Bytes
  deriving DecidableEq, Repr

namespace Handover

/-- The hand-over with other slots in its memory. -/
def withSlots (handover : Handover) (slots : Slots) : Handover := { handover with slots := slots }

/-- From an epoch on, another memory agrees with that of a hand-over where it matters:
in all bytes of the filled slots, in those of the slot in work that are written, and in
those that the caller put into slots. -/
structure Alike (config : StreamConfig) (bound : Nat) (fills : List CallerFill)
    (handover : Handover) (work : Option PartialSlot) (other : Slots) : Prop where
  accepted : ∃ request limits, StreamConfig.create request limits = .ok config
  invariant : handover.ring.Invariant
  capacity : handover.ring.capacity = config.bufferCount
  memory : handover.slots.Shaped config.bufferCount config.channelCount config.bufferLength
  otherMemory : other.Shaped config.bufferCount config.channelCount config.bufferLength
  /-- The ring comes to this epoch as soon as it is settled. -/
  ahead : bound ≤ handover.settledEpoch
  filled : bound ≤ handover.ring.epoch → ∀ index ∈ handover.ring.filledSlots, ∀ channel,
    handover.slots.AgreeBelow other index channel config.bufferLength
  partly : ∀ slot, work = some slot → bound ≤ slot.handle.epoch →
    slot.filled ≤ config.elementsPerBuffer ∧ ∀ channel,
      handover.slots.AgreeBelow other slot.handle.index channel
        (slot.filled * config.format.nativeBytes)
  callers : ∀ fill ∈ fills, bound ≤ fill.handle.epoch → ∀ channel row,
    fill.content[channel]? = some row →
      handover.slots.AgreeBelow other fill.handle.index channel row.length

variable {config : StreamConfig} {bound : Nat} {fills : List CallerFill} {handover : Handover}
  {work : Option PartialSlot} {other : Slots}

/-! ### Side by side -/

/-- An acquisition does not look at the payloads. -/
theorem acquire_withSlots (handover : Handover) (other : Slots) :
    (handover.withSlots other).acquire.1.map Grant.handle =
        handover.acquire.1.map Grant.handle ∧
      (handover.withSlots other).acquire.2 = handover.acquire.2.withSlots other := by
  have settled : (handover.withSlots other).settle = handover.settle.withSlots other := rfl
  unfold acquire
  rw [settled]
  cases notice : handover.settle.ring.writerNotice with
  | some fault => simp [withSlots, notice]
  | none =>
      by_cases empty : handover.settle.ring.free = 0
      · simp [withSlots, notice, empty]
      · simp [withSlots, notice, empty, Except.map]

/-- A slot is granted in the epoch of the settled ring. -/
theorem epoch_of_granted {grant : Grant} (granted : handover.acquire.1 = .ok grant) :
    grant.handle.epoch = handover.settledEpoch := by
  obtain ⟨fault, -, same⟩ | ⟨-, -, same⟩ | ⟨-, -, tick, same⟩ := handover.acquire_cases
  all_goals rw [same] at granted
  · exact nomatch granted
  · exact nomatch granted
  · obtain rfl := Except.ok.inj granted
    rfl

theorem release_withSlots (handover : Handover) (other : Slots) (handle : Handle) :
    (handover.withSlots other).release handle =
      ((handover.release handle).1, (handover.release handle).2.withSlots other) := by
  unfold release withSlots
  by_cases current : handover.ring.isCurrent handle = true
  · by_cases oldest : handover.ring.isOldest handle = true <;> simp [current, oldest]
  · simp [current]

/-- The device gets the same slot, whatever the payloads are. -/
theorem take_withSlots (handover : Handover) (other : Slots) :
    (handover.withSlots other).take.1 = handover.take.1 ∧
      (handover.withSlots other).take.2 =
        handover.take.2.withSlots (handover.withSlots other).take.2.slots := by
  have ready : (handover.withSlots other).settle.giveBack =
      handover.settle.giveBack.withSlots other := rfl
  unfold take
  rw [ready]
  by_cases empty : handover.settle.giveBack.ring.filled = 0
  · cases primed : handover.settle.giveBack.ring.primed <;>
      simp [withSlots, empty, primed, tickOn, raise]
  · simp [withSlots, empty, tickOn]

/-- What is asked of a hand-over does the same to it, whatever the payloads are. -/
theorem run_withSlots (handover : Handover) (other : Slots) (request : HandoverRequest) :
    request.run (handover.withSlots other) =
      (request.run handover).withSlots (request.run (handover.withSlots other)).slots := by
  cases request with
  | acquire =>
      have same := (handover.acquire_withSlots other).2
      rw [HandoverRequest.run, same]
      rfl
  | release handle =>
      have same := congrArg Prod.snd (handover.release_withSlots other handle)
      rw [HandoverRequest.run, same]
      rfl
  | take => exact (handover.take_withSlots other).2
  | skip | requestReset | raise | pollFault | restart | setClock => rfl

/-- Beside a publication, slots that are filled were filled before in the same epoch. -/
theorem filledSlots_run (invariant : handover.ring.Invariant) {request : HandoverRequest}
    (noRelease : ∀ handle, request ≠ .release handle) :
    (request.run handover).ring.filledSlots = [] ∨
      (request.run handover).ring.epoch = handover.ring.epoch ∧
        ∀ index ∈ (request.run handover).ring.filledSlots, index ∈ handover.ring.filledSlots := by
  have settled : handover.ring.settle.filledSlots = [] ∨ handover.ring.settle = handover.ring := by
    by_cases event : handover.ring.pending = none
    · exact .inr (handover.ring.settle_of_not_pending event)
    · exact .inl (SlotRing.settle_of_pending event).1
  have kept {later : SlotRing} (epoch : later.epoch = handover.ring.settle.epoch)
      (fewer : ∀ index ∈ later.filledSlots, index ∈ handover.ring.settle.filledSlots) :
      later.filledSlots = [] ∨ later.epoch = handover.ring.epoch ∧
        ∀ index ∈ later.filledSlots, index ∈ handover.ring.filledSlots := by
    rcases settled with none | same
    · left
      apply List.eq_nil_iff_forall_not_mem.mpr
      intro index listed
      simpa [none] using fewer index listed
    · right
      rw [same] at epoch fewer
      exact ⟨epoch, fewer⟩
  cases request with
  | acquire =>
      show handover.acquire.2.ring.filledSlots = [] ∨ _
      obtain ⟨fault, -, same⟩ | ⟨-, -, same⟩ | ⟨-, -, tick, same⟩ := handover.acquire_cases
      all_goals
        rw [HandoverRequest.run, same]
        exact kept rfl fun _ listed => listed
  | release handle => exact absurd rfl (noRelease handle)
  | take =>
      show handover.take.2.ring.filledSlots = [] ∨ _
      obtain ⟨-, -, -, same⟩ | ⟨-, -, -, same⟩ | ⟨waiting, -, same⟩ := handover.take_cases
      all_goals rw [HandoverRequest.run, same]
      · exact kept rfl fun _ listed => listed
      · exact kept rfl fun _ listed => listed
      · have ready : handover.readyRing.Invariant := invariant.settle.giveBack
        have first := SlotRing.filledSlots_eq_head_cons ready waiting
        refine kept rfl fun index listed => ?_
        show index ∈ handover.readyRing.filledSlots
        rw [first]
        exact List.mem_cons_of_mem _ listed
  | restart => exact .inl rfl
  | skip | requestReset | raise | pollFault | setClock => exact .inr ⟨rfl, fun _ listed => listed⟩

/-! ### What keeps memories alike -/

namespace Alike

variable (alike : handover.Alike config bound fills work other)

include alike

/-- Nothing needs to be in work. -/
theorem forget : handover.Alike config bound fills none other :=
  { alike with partly := fun _ none => nomatch none }

/-- The slot in work is another one, in which the memories agree. -/
theorem withWork {slot : PartialSlot} (fits : slot.filled ≤ config.elementsPerBuffer)
    (agree : ∀ channel, handover.slots.AgreeBelow other slot.handle.index channel
      (slot.filled * config.format.nativeBytes)) :
    handover.Alike config bound fills (some slot) other where
  accepted := alike.accepted
  invariant := alike.invariant
  capacity := alike.capacity
  memory := alike.memory
  otherMemory := alike.otherMemory
  ahead := alike.ahead
  filled := alike.filled
  partly := by
    rintro same ⟨⟩ -
    exact ⟨fits, agree⟩
  callers := alike.callers

/-- What is asked of the hand-over changes no payload, and fills no slot. -/
theorem run (request : HandoverRequest) (noRelease : ∀ handle, request ≠ .release handle) :
    (request.run handover).Alike config bound fills work
      (request.run (handover.withSlots other)).slots where
  accepted := alike.accepted
  invariant := invariant_run alike.invariant request
  capacity := (capacity_run handover request).trans alike.capacity
  memory := Stream.shaped_run alike.memory request
  otherMemory := by
    have before : (handover.withSlots other).slots.Shaped config.bufferCount
      config.channelCount config.bufferLength := alike.otherMemory
    exact Stream.shaped_run before request
  ahead := alike.ahead.trans (handover.settledEpoch_le_run request)
  filled := by
    intro late index listed channel
    rcases filledSlots_run alike.invariant noRelease with none | ⟨sameEpoch, fewer⟩
    · simp [none] at listed
    · rw [sameEpoch] at late
      exact (alike.filled late index (fewer index listed) channel).of_payload?
        (payload?_run _ _ _ _) (payload?_run _ _ _ _)
  partly := by
    intro slot inWork late
    obtain ⟨fits, agree⟩ := alike.partly slot inWork late
    exact ⟨fits, fun channel => (agree channel).of_payload? (payload?_run _ _ _ _)
      (payload?_run _ _ _ _)⟩
  callers := by
    intro fill listed late channel row there
    exact (alike.callers fill listed late channel row there).of_payload? (payload?_run _ _ _ _)
      (payload?_run _ _ _ _)

/-- An acquisition leaves the memories as they are. -/
theorem acquire : handover.acquire.2.Alike config bound fills work other := by
  have asked := alike.run .acquire (by simp)
  rwa [HandoverRequest.run, HandoverRequest.run, (handover.acquire_withSlots other).2] at asked

/-- A slot is published only when the memories agree in all of it. -/
theorem release {handle : Handle}
    (whole : handle.epoch = handover.ring.epoch → handover.ring.isOldest handle = true →
      bound ≤ handover.ring.epoch → ∀ channel,
        handover.slots.AgreeBelow other handle.index channel config.bufferLength) :
    (handover.release handle).2.Alike config bound fills work other := by
  obtain ⟨-, same⟩ | ⟨-, -, same⟩ | ⟨current, oldest, same⟩ := handover.release_cases handle
  · rwa [same]
  · rwa [same]
  · have agree := whole current oldest
    have keeps := invariant_release alike.invariant handle
    have ahead := alike.ahead
    rw [← handover.settledEpoch_release handle] at ahead
    rw [same] at keeps ahead ⊢
    obtain ⟨holds, named⟩ := SlotRing.eq_oldestHandle current oldest
    refine ⟨alike.accepted, keeps, alike.capacity, alike.memory, alike.otherMemory, ahead, ?_,
      alike.partly, alike.callers⟩
    intro late index listed channel
    rw [SlotRing.filledSlots_publish alike.invariant, List.mem_append, List.mem_singleton] at listed
    rcases listed with before | rfl
    · exact alike.filled late index before channel
    · have index : handle.index = handover.ring.oldest := congrArg Handle.index named
      rw [← index]
      exact agree late channel

/-- A change that does not look at the payloads keeps memories alike. -/
theorem modify (index : Nat) {change : Nat → Bytes → Bytes}
    (overlays : ∀ channel < config.channelCount,
      ∃ offset part, Bytes.Overlays (change channel) config.bufferLength offset part)
    (keeps : ∀ channel payload, (change channel payload).length = payload.length) :
    (handover.withSlots (handover.slots.modify index change)).Alike config bound fills work
      (other.modify index change) where
  accepted := alike.accepted
  invariant := alike.invariant
  capacity := alike.capacity
  memory := alike.memory.modify index keeps
  otherMemory := alike.otherMemory.modify index keeps
  ahead := alike.ahead
  filled := by
    intro late filled listed channel
    exact (alike.filled late filled listed channel).modify alike.memory alike.otherMemory index
      (overlays channel)
  partly := by
    intro slot inWork late
    obtain ⟨fits, agree⟩ := alike.partly slot inWork late
    exact ⟨fits, fun channel => (agree channel).modify alike.memory alike.otherMemory index
      (overlays channel)⟩
  callers := by
    intro fill listed late channel row there
    exact (alike.callers fill listed late channel row there).modify alike.memory
      alike.otherMemory index (overlays channel)

end Alike

end Handover

end DacStream
