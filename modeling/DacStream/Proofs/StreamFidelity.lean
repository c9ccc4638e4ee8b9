import DacStream.Proofs.ContentConservation

/-!
# Writes, flushes and transfers lose no byte

The ways in which bytes move are put together to the operations of a stream.  What
a stream accepted on a channel is with the device, filled, or in work (`Stream.Flows`),
and this is kept by a write, by a flush and by a transfer without a fault.  A write
adds the native bytes of the elements that it took, however few these are; a flush
adds silence up to the end of the slot in work, and nothing if there is none; a
transfer serves the first of the filled slots (`Flows.write`, `Flows.flush`,
`Flows.serve`).

Two facts about the configuration are used.  A slot holds whole elements, so a
full slot is written to its end, and no channel of the device is selected twice, so
each one gets the payload of its own stream channel (`Flows.serve_buffers`).
-/

namespace DacStream

set_option autoImplicit false

/-! ## Configurations -/

namespace StreamConfig

variable {request : StreamRequest} {limits : DeviceLimits} {config : StreamConfig}

/-- A buffer holds whole elements, and at least one. -/
theorem whole_elements (accepted : create request limits = .ok config) :
    config.elementsPerBuffer * config.format.nativeBytes = config.bufferLength ∧
      0 < config.elementsPerBuffer :=
  have fit := fit_of_accepted accepted
  ⟨fit.whole, fit.positive⟩

end StreamConfig

/-! ## Converting into a slot -/

namespace Stream

/-- A write is not asked for more than any input holds. -/
theorem requested_mul_width_le {α : Type} (stream : Stream) {inputs : List (List α)} (count : Nat)
    {input : List α} (listed : input ∈ inputs) :
    stream.requested inputs count * stream.config.format.width ≤ input.length := by
  have bound : stream.requested inputs count ≤ input.length / stream.config.format.width := by
    rw [requested, List.foldl_min]
    exact (Nat.min_le_right _ _).trans
      (List.min?_getD_le_of_mem (List.mem_map_of_mem listed))
  exact (Nat.mul_le_mul_right _ bound).trans (Nat.div_mul_le_self _ _)

/-- The bytes of as many elements of an input. -/
def converted {α : Type} [Sample α] (stream : Stream) (count : Nat) (input : List α) : Bytes :=
  stream.config.converter.bytes (input.take (count * stream.config.format.width))

theorem length_converted {α : Type} [Sample α] (stream : Stream) {count : Nat} {input : List α}
    (enough : count * stream.config.format.width ≤ input.length) :
    (stream.converted count input).length = count * stream.config.format.nativeBytes := by
  refine stream.config.converter.length_bytes _ count ?_
  rw [List.length_take, Nat.min_eq_left enough]
  rfl

/-- Converting puts the bytes of the elements over those of the payload. -/
theorem place_eq {α : Type} [Sample α] (stream : Stream) {offset count capacity : Nat}
    {input : List α} {payload : Bytes}
    (length : payload.length = capacity * stream.config.format.nativeBytes)
    (room : offset + count ≤ capacity)
    (enough : count * stream.config.format.width ≤ input.length) :
    stream.place offset count input payload =
      payload.overwrite (offset * stream.config.format.nativeBytes)
        (stream.converted count input) := by
  have wholeInput : (input.take (count * stream.config.format.width)).length =
      count * stream.config.converter.format.width := by
    rw [List.length_take, Nat.min_eq_left enough]
    rfl
  have fits : (offset + count) * stream.config.format.nativeBytes ≤ payload.length := by
    rw [length]
    exact Nat.mul_le_mul_right _ room
  rw [Nat.add_mul] at fits
  have wholeOutput : (payload.window (offset * stream.config.format.nativeBytes)
      (count * stream.config.format.nativeBytes)).length =
        count * stream.config.converter.format.width := by
    rw [Bytes.window, List.length_take, List.length_drop, Nat.min_eq_left (by omega)]
    rfl
  rw [place, stream.config.converter.fill_whole wholeInput wholeOutput]
  rfl

/-- Converted elements stand behind those that were there before. -/
theorem take_place {α : Type} [Sample α] [TabulatedSample α] (stream : Stream)
    (matching : Sample.component α = stream.config.format.component) {offset count capacity : Nat}
    {input : List α} {payload : Bytes}
    (length : payload.length = capacity * stream.config.format.nativeBytes)
    (room : offset + count ≤ capacity)
    (enough : count * stream.config.format.width ≤ input.length) :
    (stream.place offset count input payload).take
        ((offset + count) * stream.config.format.nativeBytes) =
      payload.take (offset * stream.config.format.nativeBytes) ++
        stream.config.converter.plain (input.take (count * stream.config.format.width)) := by
  have wholeInput : (input.take (count * stream.config.format.width)).length =
      count * stream.config.converter.format.width := by
    rw [List.length_take, Nat.min_eq_left enough]
    rfl
  have fits : (offset + count) * stream.config.format.nativeBytes ≤ payload.length := by
    rw [length]
    exact Nat.mul_le_mul_right _ room
  rw [Nat.add_mul] at fits
  rw [stream.place_eq length room enough, Bytes.overwrite,
    ← stream.config.converter.bytes_eq_plain matching wholeInput]
  refine List.take_left' ?_
  rw [List.length_append, List.length_take, Nat.min_eq_left (by omega),
    stream.length_converted enough, Nat.add_mul]

end Stream

/-! ## Steps of the hand-over -/

namespace Conserves

variable {config : StreamConfig} {handover : Handover} {work : Option PartialSlot}
  {accepted served : Nat → Bytes}

theorem settle_eq (conserves : Conserves config handover work accepted served) :
    handover.settle = handover :=
  Handover.settle_of_calm conserves.calm

theorem acquire_error (conserves : Conserves config handover work accepted served)
    {error : StreamError} (failed : handover.acquire.1 = .error error) :
    Conserves config handover.acquire.2 work accepted served := by
  have settled := conserves.settle_eq
  obtain ⟨fault, -, same⟩ | ⟨-, -, same⟩ | ⟨-, -, tick, same⟩ := handover.acquire_cases
  all_goals rw [settled] at same; rw [same] at failed ⊢
  · exact conserves.of_same conserves.invariant.writerTold rfl conserves.calm rfl rfl rfl
  · exact conserves
  · exact nomatch failed

theorem acquire_ok (conserves : Conserves config handover none accepted served) {grant : Grant}
    (granted : handover.acquire.1 = .ok grant) :
    Conserves config handover.acquire.2 (some ⟨grant.handle, 0⟩) accepted served := by
  have settled := conserves.settle_eq
  obtain ⟨fault, -, same⟩ | ⟨-, -, same⟩ | ⟨-, free, tick, same⟩ := handover.acquire_cases
  all_goals rw [settled] at same; rw [same] at granted ⊢
  · exact nomatch granted
  · exact nomatch granted
  · obtain rfl := Except.ok.inj granted
    rw [settled] at free
    exact conserves.lend free

/-- A full slot in work is published, for it is the only one of the writer. -/
theorem release {slot : PartialSlot} (wholeSlots :
      config.elementsPerBuffer * config.format.nativeBytes = config.bufferLength)
    (conserves : Conserves config handover (some slot) accepted served)
    (full : slot.filled = config.elementsPerBuffer) :
    (handover.release slot.handle).1 = .ok () ∧
      Conserves config (handover.release slot.handle).2 none accepted served := by
  obtain ⟨current, only⟩ := conserves.writerSlots_eq
  obtain ⟨stale, -⟩ | ⟨-, refused, -⟩ | ⟨-, -, same⟩ := handover.release_cases slot.handle
  · exact absurd current stale
  · have oldest := (SlotRing.isOldest_iff conserves.invariant slot.handle).mpr (by simp [only])
    exact absurd oldest (by simp [refused])
  · rw [same]
    exact ⟨rfl, conserves.publish wholeSlots full _⟩

/-- The device takes the first of the filled slots, if there is one. -/
theorem take (conserves : Conserves config handover work accepted served)
    (quiet : handover.take.2.ring.pending = none) :
    Conserves config handover.take.2 work accepted
      (fun channel => served channel ++
        (handover.take.1.elim [] fun grant => handover.payload grant.handle.index channel)) := by
  have ready : handover.readyRing = handover.ring.giveBack := by
    rw [Handover.readyRing, handover.ring.settle_of_not_pending conserves.calm]
  have back : Conserves config handover.giveBack work accepted served :=
    conserves.of_same conserves.invariant.giveBack rfl conserves.calm rfl rfl rfl
  obtain ⟨-, -, nothing, same⟩ | ⟨-, -, nothing, same⟩ | ⟨waiting, granted, same⟩ :=
    handover.take_cases
  · obtain ⟨-, sameSlots⟩ | ⟨grant, other, -⟩ := handover.slots_take
    · simp only [nothing, Option.elim_none, List.append_nil]
      rw [ready] at same
      refine back.of_same ?_ ?_ quiet sameSlots ?_ ?_ <;> rw [same]
      · exact back.invariant.runDry
      · rfl
      · rfl
      · rfl
    · simp [nothing] at other
  · simp [same, SlotRing.raise] at quiet
  · obtain ⟨other, -⟩ | ⟨grant, other, sameSlots⟩ := handover.slots_take
    · simp [granted] at other
    · rw [ready] at same waiting granted
      rw [granted] at other
      obtain rfl := Option.some.inj other
      have samePayloads (index channel : Nat) :
          handover.take.2.payload index channel = handover.giveBack.payload index channel := by
        rw [Handover.payload, sameSlots, Slots.payload?_setTick]
        rfl
      rw [granted]
      refine back.deliver waiting same samePayloads ?_
      rw [sameSlots]
      exact conserves.memory.setTick _ _

end Conserves

theorem BufferSet.buffer?_map {β γ : Type} (change : β → γ) (buffers : BufferSet β)
    (channel : Nat) :
    (buffers.map change).buffer? channel = (buffers.buffer? channel).map change := by
  unfold BufferSet.buffer? BufferSet.map
  by_cases inside : channel < mostChannels <;> simp [inside]

/-- Buffers that are given to other channels leave the buffer of a channel alone. -/
theorem buffer?_foldl_set_of_notMem {β : Type} (value : Nat → β) (channel : Nat) :
    ∀ (entries : List (Nat × Nat)) (buffers : BufferSet β), channel ∉ entries.map Prod.fst →
      (entries.foldl (fun set entry => set.set entry.1 (value entry.2)) buffers).buffer? channel =
        buffers.buffer? channel
  | [], _, _ => rfl
  | entry :: entries, buffers, absent => by
      rw [List.map_cons, List.mem_cons, not_or] at absent
      rw [List.foldl_cons, buffer?_foldl_set_of_notMem value channel entries _ absent.2,
        buffers.buffer?_set_ne entry.1 channel _ (Ne.symm absent.1)]

/-- If every channel is given one buffer at most, it has that buffer. -/
theorem buffer?_foldl_set_of_mem {β : Type} (value : Nat → β) {channel source : Nat}
    (inside : channel < mostChannels) :
    ∀ (entries : List (Nat × Nat)) (buffers : BufferSet β), (entries.map Prod.fst).Nodup →
      (channel, source) ∈ entries →
        (entries.foldl (fun set entry => set.set entry.1 (value entry.2)) buffers).buffer? channel =
          some (value source)
  | entry :: entries, buffers, once, listed => by
      rw [List.map_cons, List.nodup_cons] at once
      rw [List.foldl_cons]
      rcases List.mem_cons.mp listed with same | later
      · obtain rfl := same
        rw [buffer?_foldl_set_of_notMem value channel entries _ once.1]
        exact buffers.buffer?_set_self channel _ inside
      · exact buffer?_foldl_set_of_mem value inside entries _ once.2 later

/-- A selected channel gets the payload of the stream channel that feeds it. -/
theorem Feed.buffer?_slotSet {feed : Feed} (once : feed.selection.Nodup) (channelLength index : Nat)
    {channel target : Nat} (selected : feed.selection[channel]? = some target)
    (inside : target < mostChannels) :
    (feed.slotSet channelLength index).buffer? target = some (.payload index channel) := by
  refine buffer?_foldl_set_of_mem (Origin.payload index) inside _ _ ?_ ?_
  · rwa [List.zipIdx_map_fst]
  · exact List.mk_mem_zipIdx_iff_getElem?.mpr selected

/-! ## Steps of the stream -/

namespace Stream

/-- The bytes that a write was granted on a channel. -/
def acceptedByWrite {α : Type} [Sample α] (config : StreamConfig) (inputs : List (List α))
    (answer : Except StreamError WriteOutcome) (channel : Nat) : Bytes :=
  match answer with
  | .ok outcome =>
      config.converter.plain
        ((inputs.getD channel []).take (outcome.written * config.format.width))
  | .error _ => []

/-- The silence up to the end of the slot that a flush ended, if it ended one. -/
def acceptedByFlush (config : StreamConfig) (answer : Except StreamError Bool) (before : Bytes) :
    Bytes :=
  match answer with
  | .ok true =>
      Bytes.silence
        ((config.bufferLength - before.length % config.bufferLength) % config.bufferLength)
  | _ => []

/-- A stream by which no byte is lost: what was accepted is with the device or on the
way, and a slot in work is neither empty nor full. -/
structure Flows (stream : Stream) (accepted served : Nat → Bytes) : Prop where
  config : ∃ request limits, StreamConfig.create request limits = .ok stream.config
  conserves : Conserves stream.config stream.handover stream.inWork accepted served
  partly : ∀ slot, stream.inWork = some slot →
    0 < slot.filled ∧ slot.filled < stream.config.elementsPerBuffer

namespace Flows

variable {stream : Stream} {accepted served : Nat → Bytes}

theorem whole_elements (flows : stream.Flows accepted served) :
    stream.config.elementsPerBuffer * stream.config.format.nativeBytes =
        stream.config.bufferLength ∧ 0 < stream.config.elementsPerBuffer := by
  obtain ⟨request, limits, accepted⟩ := flows.config
  exact StreamConfig.whole_elements accepted

/-- No slot in work is stale. -/
theorem dropStale_eq (flows : stream.Flows accepted served) : stream.dropStale = stream := by
  obtain ⟨slot, work, stale, -⟩ | ⟨same, -⟩ := stream.dropStale_cases
  · have conserves := flows.conserves
    rw [work] at conserves
    rcases stale with event | outdated
    · simp [Handover.hasPendingEvent, conserves.calm] at event
    · exact absurd conserves.writerSlots_eq.1 outdated
  · exact same

/-- Nothing more is accepted. -/
theorem of_nothing (flows : stream.Flows accepted served) {added : Nat → Bytes}
    (nothing : ∀ channel, added channel = []) :
    stream.Flows (fun channel => accepted channel ++ added channel) served := by
  simpa [nothing] using flows

/-- What was claimed to be written to is the slot in work. -/
theorem claim (flows : stream.Flows accepted served) {slot : PartialSlot}
    (claimed : stream.claim.1 = .ok slot) :
    Conserves stream.config stream.claim.2.handover (some slot) accepted served ∧
      stream.claim.2.config = stream.config ∧ stream.claim.2.inWork = none ∧
        slot.filled < stream.config.elementsPerBuffer := by
  obtain ⟨other, work, same⟩ | ⟨-, error, -, same⟩ | ⟨nothing, grant, granted, same⟩ :=
    stream.claim_cases
  · rw [same] at claimed ⊢
    obtain rfl := Except.ok.inj claimed
    have conserves := flows.conserves
    rw [work] at conserves
    exact ⟨conserves, rfl, rfl, (flows.partly other work).2⟩
  · simp [same] at claimed
  · rw [same] at claimed ⊢
    obtain rfl := Except.ok.inj claimed
    have conserves := flows.conserves
    rw [nothing] at conserves
    exact ⟨conserves.acquire_ok granted, rfl, nothing, flows.whole_elements.2⟩

theorem claim_error (flows : stream.Flows accepted served) {error : StreamError}
    (failed : stream.claim.1 = .error error) : stream.claim.2.Flows accepted served := by
  obtain ⟨other, -, same⟩ | ⟨-, other, refused, same⟩ | ⟨-, grant, -, same⟩ := stream.claim_cases
  · simp [same] at failed
  · rw [same]
    exact ⟨flows.config, flows.conserves.acquire_error refused, flows.partly⟩
  · simp [same] at failed

end Flows

/-- Samples are added to a claimed slot, which is published once it is full. -/
theorem flows_writeInto {α : Type} [Sample α] [TabulatedSample α] {stream : Stream}
    {accepted served : Nat → Bytes}
    (config : ∃ request limits, StreamConfig.create request limits = .ok stream.config)
    {slot : PartialSlot}
    (conserves : Conserves stream.config stream.handover (some slot) accepted served)
    (claimed : stream.inWork = none) (room : slot.filled < stream.config.elementsPerBuffer)
    {inputs : List (List α)}
    (accepts : stream.Accepts inputs) {wanted : Nat} (positive : 0 < wanted)
    (enough : ∀ input ∈ inputs, wanted * stream.config.format.width ≤ input.length) :
    (stream.writeInto slot inputs wanted).2.Flows
      (fun channel => accepted channel ++
        acceptedByWrite stream.config inputs (stream.writeInto slot inputs wanted).1 channel)
      served := by
  obtain ⟨request, limits, created⟩ := config
  obtain ⟨whole, -⟩ := StreamConfig.whole_elements created
  obtain ⟨count, amount, written, rfl, outcome⟩ := stream.writeInto_cases slot inputs wanted
  have fits : slot.filled + count ≤ stream.config.elementsPerBuffer := by omega
  have refilled : Conserves stream.config
      (stream.withSlots (stream.placeAll slot.handle.index slot.filled count inputs)).handover
      (some ⟨slot.handle, slot.filled + count⟩)
      (fun channel => accepted channel ++ stream.config.converter.plain
        ((inputs.getD channel []).take (count * stream.config.format.width))) served := by
    refine conserves.refill (fun channel payload => ?_) fits
      fun channel inside payload length => ?_
    · split
      · exact stream.length_place _ _ _ _
      · rfl
    · rw [← accepts.2] at inside
      rw [List.getD_eq_getElem?_getD, List.getElem?_eq_getElem inside, Option.getD_some]
      refine stream.take_place accepts.1 (length.trans whole.symm) fits ?_
      refine (Nat.mul_le_mul_right _ ?_).trans (enough _ (List.getElem_mem inside))
      omega
  rcases outcome with ⟨full, same⟩ | ⟨partly, same⟩
  · obtain ⟨published, conserved⟩ := refilled.release whole full
    rw [same, release_eq, published]
    refine ⟨⟨request, limits, created⟩, ?_, ?_⟩
    · simp only [withSlots, claimed]
      exact conserved
    · simp [withSlots, claimed]
  · rw [same]
    refine ⟨⟨request, limits, created⟩, refilled, ?_⟩
    have grown : 0 < slot.filled + count ∧
        slot.filled + count < stream.config.elementsPerBuffer := by
      omega
    rintro other ⟨⟩
    exact grown

/-- **A write puts what it accepts behind what was accepted before**, and nothing
else changes. -/
theorem Flows.write {α : Type} [Sample α] [TabulatedSample α] {stream : Stream}
    {accepted served : Nat → Bytes} (flows : stream.Flows accepted served)
    (inputs : List (List α)) (count : Nat) :
    (stream.write inputs count).2.Flows
      (fun channel => accepted channel ++
        acceptedByWrite stream.config inputs (stream.write inputs count).1 channel) served := by
  have cases := stream.write_cases inputs count
  rw [flows.dropStale_eq] at cases
  obtain ⟨-, error, same, -⟩ | ⟨-, -, same⟩ | ⟨-, -, error, failed, same⟩ |
      ⟨accepts, positive, slot, claimed, same⟩ := cases
  all_goals rw [same]
  · exact flows.of_nothing fun channel => rfl
  · refine flows.of_nothing fun channel => ?_
    simp [acceptedByWrite, Converter.plain, Bytes.exchangePairs]
  · exact (flows.claim_error failed).of_nothing fun channel => rfl
  · obtain ⟨conserves, sameConfig, nothing, room⟩ := flows.claim claimed
    rw [← sameConfig] at conserves room ⊢
    refine flows_writeInto ?_ conserves nothing room ?_ positive fun input listed => ?_
    · rw [sameConfig]
      exact flows.config
    · unfold Accepts at accepts ⊢
      rwa [sameConfig]
    · rw [sameConfig]
      exact stream.requested_mul_width_le count listed

/-- What was accepted ends in the middle of the slot in work. -/
theorem Flows.length_accepted {stream : Stream} {accepted served : Nat → Bytes}
    (flows : stream.Flows accepted served) {slot : PartialSlot} (work : stream.inWork = some slot)
    {channel : Nat} (inside : channel < stream.config.channelCount) :
    (accepted channel).length % stream.config.bufferLength =
        slot.filled * stream.config.format.nativeBytes ∧
      0 < slot.filled * stream.config.format.nativeBytes ∧
      slot.filled * stream.config.format.nativeBytes < stream.config.bufferLength := by
  obtain ⟨positive, partly⟩ := flows.partly slot work
  have conserves := flows.conserves
  rw [work] at conserves
  obtain ⟨-, length⟩ := conserves.payload_of_lt conserves.work_apart.1 inside
  have native := stream.config.format.nativeBytes_pos
  have below : slot.filled * stream.config.format.nativeBytes < stream.config.bufferLength := by
    rw [← flows.whole_elements.1]
    exact Nat.mul_lt_mul_of_pos_right partly native
  have written : (stream.handover.written stream.config.format.nativeBytes (some slot)
      channel).length = slot.filled * stream.config.format.nativeBytes := by
    rw [Handover.written, List.length_take, length, Nat.min_eq_left (Nat.le_of_lt below)]
  refine ⟨?_, Nat.mul_pos positive native, below⟩
  obtain ⟨rounds, whole⟩ := Nat.dvd_add (conserves.whole channel inside)
    (conserves.dvd_length_queued inside)
  rw [← conserves.content channel inside, List.length_append, List.length_append, whole, written,
    Nat.mul_add_mod, Nat.mod_eq_of_lt below]

/-- A flush ends the slot in work with silence, or finds none. -/
theorem Flows.flush {stream : Stream} {accepted served : Nat → Bytes}
    (flows : stream.Flows accepted served) :
    stream.flush.2.Flows
      (fun channel => accepted channel ++
        acceptedByFlush stream.config stream.flush.1 (accepted channel)) served := by
  obtain ⟨nothing, same⟩ | ⟨slot, work, -, same⟩ := stream.flush_cases
  · rw [same, flows.dropStale_eq]
    exact flows.of_nothing fun channel => rfl
  · obtain ⟨positive, partly⟩ := flows.partly slot work
    have conserves := flows.conserves
    rw [work] at conserves
    obtain ⟨current, only⟩ := conserves.writerSlots_eq
    have writers : stream.handover.ring.isWriterSlot slot.handle = true :=
      (SlotRing.isWriterSlot_iff conserves.invariant _).mpr ⟨current, by simp [only]⟩
    have padded : Conserves stream.config
        (stream.withSlots (stream.padded slot.handle slot.filled)).handover
        (some ⟨slot.handle, stream.config.elementsPerBuffer⟩)
        (fun channel => accepted channel ++
          acceptedByFlush stream.config (.ok true) (accepted channel)) served := by
      rw [Stream.padded, if_pos writers, Nat.min_eq_left (Nat.le_of_lt partly)]
      refine conserves.refill (fun _ payload => payload.length_muteFrom _) (Nat.le_refl _)
        fun channel inside payload length => ?_
      obtain ⟨rest, begun, below⟩ := flows.length_accepted work inside
      rw [flows.whole_elements.1, ← length, Bytes.muteFrom, List.take_of_length_le, length]
      · rw [acceptedByFlush, rest, Nat.mod_eq_of_lt (Nat.sub_lt (by omega) begun)]
      · exact Nat.le_of_eq (payload.length_muteFrom _)
    obtain ⟨published, conserved⟩ := padded.release flows.whole_elements.1 rfl
    let emptied : Stream := { stream with inWork := none }
    have answer : ((emptied.withSlots (emptied.padded slot.handle slot.filled)).handover.release
        slot.handle).1 = .ok () := published
    rw [same, padAndRelease_eq, release_eq, answer]
    exact ⟨flows.config, conserved, by simp [withSlots]⟩

/-- The payload of the slot that the device gets with its next transfer, if it gets
one. -/
def nextPayload (stream : Stream) (channel : Nat) : Bytes :=
  stream.handover.take.1.elim [] fun grant => stream.handover.payload grant.handle.index channel

/-- A transfer without a fault serves the next slot. -/
theorem Flows.serve {stream : Stream} {accepted served : Nat → Bytes}
    (flows : stream.Flows accepted served) (deviceChannels : Nat) {request : TransferRequest}
    (plain : request.isServed stream.config.bufferLength = true)
    (quiet : (stream.serve deviceChannels request).2.handover.hasPendingEvent = false) :
    (stream.serve deviceChannels request).2.Flows accepted
      (fun channel => served channel ++ stream.nextPayload channel) := by
  rw [← flows.conserves.memory.payloadLength] at plain
  simp only [Stream.serve, Feed.transfer_of_served _ _ _ plain] at quiet ⊢
  have calm : stream.handover.take.2.ring.pending = none :=
    Handover.hasPendingEvent_eq_false_iff.mp quiet
  exact ⟨flows.config, flows.conserves.take calm, flows.partly⟩

end Stream

end DacStream
