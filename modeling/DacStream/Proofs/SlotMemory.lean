import DacStream.Handover.Slots

/-!
# What the memory of a ring keeps

Nothing that is done to the slots of a ring changes how many there are, how many
payloads each has, or how long these are (`Shaped`).  Changing the payloads of one
slot leaves those of every other slot alone (`payload?_modify`), and stamping a
slot changes no payload at all (`payload?_setTick`).  Its stamp is only changed by
stamping it (`tick?_setTick`, `tick?_modify`).
-/

namespace DacStream

set_option autoImplicit false

namespace Slots

/-! ## Shape -/

/-- There are `capacity` slots with `channels` payloads of `channelLength` bytes
each. -/
structure Shaped (slots : Slots) (capacity channels channelLength : Nat) : Prop where
  slotCount : slots.capacity = capacity
  channelCount : slots.channels = channels
  payloadLength : slots.channelLength = channelLength
  payloads : ∀ cell ∈ slots.cells,
    cell.payloads.map List.length = List.replicate channels channelLength

theorem Shaped.silent (capacity channels channelLength : Nat) :
    (Slots.silent capacity channels channelLength).Shaped capacity channels channelLength where
  slotCount := by simp [Slots.capacity, Slots.silent]
  channelCount := rfl
  payloadLength := rfl
  payloads := by
    intro cell listed
    rw [(List.mem_replicate.mp listed).2]
    simp [Bytes.silence]

/-- A change of one cell that keeps the lengths of its payloads keeps the shape. -/
theorem Shaped.modifyCell {slots : Slots} {capacity channels channelLength : Nat}
    (shaped : slots.Shaped capacity channels channelLength) (index : Nat) {change : Slot → Slot}
    (keeps : ∀ cell : Slot,
      (change cell).payloads.map List.length = cell.payloads.map List.length) :
    { slots with cells := slots.cells.modify index change }.Shaped
      capacity channels channelLength where
  slotCount := by
    rw [Slots.capacity, List.length_modify]
    exact shaped.slotCount
  channelCount := shaped.channelCount
  payloadLength := shaped.payloadLength
  payloads := by
    intro cell listed
    obtain ⟨place, found⟩ := List.mem_iff_getElem?.mp listed
    rw [List.getElem?_modify, Option.map_eq_map, Option.map_eq_some_iff] at found
    obtain ⟨original, there, rfl⟩ := found
    have before := shaped.payloads original (List.mem_of_getElem? there)
    split
    · rw [keeps, before]
    · exact before

theorem Shaped.setTick {slots : Slots} {capacity channels channelLength : Nat}
    (shaped : slots.Shaped capacity channels channelLength) (index : Nat) (tick : UInt64) :
    (slots.setTick index tick).Shaped capacity channels channelLength :=
  shaped.modifyCell index fun _ => rfl

theorem Shaped.modify {slots : Slots} {capacity channels channelLength : Nat}
    (shaped : slots.Shaped capacity channels channelLength) (index : Nat)
    {change : Nat → Bytes → Bytes}
    (keeps : ∀ channel payload, (change channel payload).length = payload.length) :
    (slots.modify index change).Shaped capacity channels channelLength := by
  refine shaped.modifyCell index fun cell => ?_
  refine List.ext_getElem? fun channel => ?_
  simp only [List.getElem?_map, List.getElem?_mapIdx, Option.map_map, Function.comp_def, keeps]

theorem Shaped.fill {slots : Slots} {capacity channels channelLength : Nat}
    (shaped : slots.Shaped capacity channels channelLength) (index : Nat) (content : List Bytes) :
    (slots.fill index content).Shaped capacity channels channelLength := by
  refine shaped.modify index fun channel payload => ?_
  split
  · exact Bytes.length_startWith _ _
  · rfl

/-- Every channel of every slot has a payload, of the one length. -/
theorem Shaped.exists_payload {slots : Slots} {capacity channels channelLength : Nat}
    (shaped : slots.Shaped capacity channels channelLength) {index channel : Nat}
    (slotInside : index < capacity) (channelInside : channel < channels) :
    ∃ payload, slots.payload? index channel = some payload ∧ payload.length = channelLength := by
  have inside : index < slots.cells.length := by
    rw [← shaped.slotCount] at slotInside
    exact slotInside
  have lengths := shaped.payloads slots.cells[index] (List.getElem_mem inside)
  have count : slots.cells[index].payloads.length = channels := by
    simpa using congrArg List.length lengths
  have there : channel < slots.cells[index].payloads.length := by omega
  refine ⟨slots.cells[index].payloads[channel], ?_, ?_⟩
  · simp [payload?, inside, there]
  · have listed : slots.cells[index].payloads[channel].length ∈
        slots.cells[index].payloads.map List.length :=
      List.mem_map_of_mem (List.getElem_mem there)
    rw [lengths] at listed
    exact List.eq_of_mem_replicate listed

/-- Every payload is that of a channel, and of the one length. -/
theorem Shaped.of_payload? {slots : Slots} {capacity channels channelLength : Nat}
    (shaped : slots.Shaped capacity channels channelLength)
    {index channel : Nat} {payload : Bytes} (has : slots.payload? index channel = some payload) :
    channel < channels ∧ payload.length = channelLength := by
  obtain ⟨cell, there, found⟩ := Option.bind_eq_some_iff.mp has
  have lengths := shaped.payloads cell (List.mem_of_getElem? there)
  obtain ⟨inside, rfl⟩ := List.getElem?_eq_some_iff.mp found
  constructor
  · rwa [← List.length_map List.length, lengths, List.length_replicate] at inside
  · have listed := List.mem_map_of_mem (f := List.length) (List.getElem_mem inside)
    rw [lengths] at listed
    exact List.eq_of_mem_replicate listed

/-! ## Contents -/

theorem payload?_setTick (slots : Slots) (stamped : Nat) (tick : UInt64) (index channel : Nat) :
    (slots.setTick stamped tick).payload? index channel = slots.payload? index channel := by
  simp only [payload?, setTick, List.getElem?_modify]
  cases slots.cells[index]? with
  | none => rfl
  | some cell => by_cases same : stamped = index <;> simp [same]

/-- Only the payloads of the changed slot change. -/
theorem payload?_modify (slots : Slots) (changed : Nat) (change : Nat → Bytes → Bytes)
    (index channel : Nat) :
    (slots.modify changed change).payload? index channel =
      if changed = index then (slots.payload? index channel).map (change channel)
      else slots.payload? index channel := by
  simp only [payload?, modify, List.getElem?_modify]
  cases slots.cells[index]? with
  | none => simp
  | some cell => by_cases same : changed = index <;> simp [same, List.getElem?_mapIdx]

/-- Changes that make the same of every payload of a slot are the same. -/
theorem modify_congr {slots : Slots} {index : Nat} {change other : Nat → Bytes → Bytes}
    (same : ∀ channel payload, slots.payload? index channel = some payload →
      change channel payload = other channel payload) :
    slots.modify index change = slots.modify index other := by
  suffices cells : slots.cells.modify index
      (fun cell => { cell with payloads := cell.payloads.mapIdx change }) =
        slots.cells.modify index
          (fun cell => { cell with payloads := cell.payloads.mapIdx other }) by
    rw [modify, modify, cells]
  refine List.ext_getElem? fun place => ?_
  simp only [List.getElem?_modify, Option.map_eq_map]
  cases there : slots.cells[place]? with
  | none => rfl
  | some cell =>
      by_cases here : index = place
      · subst here
        have payloads : cell.payloads.mapIdx change = cell.payloads.mapIdx other := by
          refine List.ext_getElem? fun channel => ?_
          rw [List.getElem?_mapIdx, List.getElem?_mapIdx]
          cases found : cell.payloads[channel]? with
          | none => rfl
          | some payload =>
              have known : slots.payload? index channel = some payload := by
                rw [payload?, there, Option.bind_some, found]
              exact congrArg some (same channel payload known)
        simp only [if_pos, Option.map_some, payloads]
      · simp only [if_neg here]

/-- Changing nothing changes nothing. -/
theorem modify_unchanged (slots : Slots) (index : Nat) :
    (slots.modify index fun _ payload => payload) = slots := by
  have same : (fun cell : Slot =>
      { cell with payloads := cell.payloads.mapIdx fun _ payload => payload }) = id := by
    funext cell
    have payloads : cell.payloads.mapIdx (fun _ payload => payload) = cell.payloads :=
      List.mapIdx_eq_iff.mpr fun channel => Option.map_id'.symm
    rw [payloads]
    rfl
  rw [modify, same, List.modify_id]

/-- Changes that leave every payload of a slot as it is change nothing. -/
theorem modify_eq_self {slots : Slots} {index : Nat} {change : Nat → Bytes → Bytes}
    (fixes : ∀ channel payload, slots.payload? index channel = some payload →
      change channel payload = payload) : slots.modify index change = slots :=
  (modify_congr fixes).trans (slots.modify_unchanged index)

/-- Two changes of a slot, one after the other, are one. -/
theorem modify_modify (slots : Slots) (index : Nat) (first second : Nat → Bytes → Bytes) :
    (slots.modify index first).modify index second =
      slots.modify index fun channel payload => second channel (first channel payload) := by
  simp only [modify]
  rw [List.modify_modify_eq]
  congr 2
  funext cell
  simp only [Function.comp_apply, List.mapIdx_mapIdx]
  rfl

/-- Changes that do not get into each other's way can be made in either order. -/
theorem modify_comm (slots : Slots) (index other : Nat) {first second : Nat → Bytes → Bytes}
    (apart : ∀ channel payload,
      second channel (first channel payload) = first channel (second channel payload)) :
    (slots.modify index first).modify other second =
      (slots.modify other second).modify index first := by
  by_cases same : index = other
  · subst same
    rw [modify_modify, modify_modify]
    exact congrArg (slots.modify index) (funext fun channel => funext (apart channel))
  · simp only [modify]
    rw [List.modify_modify_ne _ _ _ same]

/-! ## Stamps -/

theorem tick?_silent (capacity channels channelLength : Nat) {index : Nat}
    (inside : index < capacity) :
    (silent capacity channels channelLength).tick? index = some 0 := by
  simp [tick?, silent, inside]

theorem tick?_setTick (slots : Slots) (stamped : Nat) (tick : UInt64) {index : Nat}
    (inside : index < slots.capacity) :
    (slots.setTick stamped tick).tick? index =
      if stamped = index then some tick else slots.tick? index := by
  by_cases same : stamped = index
  · rw [if_pos same, same, tick?_setTick_self _ _ _ inside]
  · simp [tick?, setTick, same]

/-- Payloads are changed without the stamp. -/
theorem tick?_modify (slots : Slots) (changed : Nat) (change : Nat → Bytes → Bytes)
    (index : Nat) : (slots.modify changed change).tick? index = slots.tick? index := by
  simp only [tick?, modify, List.getElem?_modify]
  cases slots.cells[index]? with
  | none => rfl
  | some cell => by_cases same : changed = index <;> simp [same]

end Slots

end DacStream
