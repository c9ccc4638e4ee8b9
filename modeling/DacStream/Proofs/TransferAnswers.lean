import DacStream.Proofs.FeedRuns
import DacStream.Proofs.SlotDates
import DacStream.Proofs.StreamFidelity
import DacStream.Proofs.TransferBuffers

/-!
# How a transfer is answered

The buffers of an answer lie in three kinds of memory: in a slot of the ring, in the silent
buffer of the feed, and in the fallback buffer of the device.  They are passed on with one
length for all of them.  Whatever the device asks for, it does not read past any of them,
and it reads what is due: on a channel that the stream feeds, the payload of the slot that
it has just got, and silence on all others (`Feed.Hears`).

A slot is given to the device exactly if it reports no fault, asks for no more bytes than a
slot holds and finds a slot filled once the ring is settled.  Nothing else takes a slot out
of the queue, and a transfer that is refused raises one underflow and frees the slot of the
device (`TransferRequest.Exchanges`).
-/

namespace DacStream

set_option autoImplicit false

/-! ## The buffers of an answer -/

namespace BufferSet

variable {β : Type}

/-- A channel is read from the set if this covers the transfer, and from the fallback
otherwise. -/
theorem getElem?_resolve (buffers : BufferSet β) (required : Nat) (fallback : β) {channel : Nat}
    (inside : channel < mostChannels) :
    (buffers.resolve required fallback)[channel]? =
      some (if buffers.covers required then buffers.buffer? channel else some fallback) := by
  unfold resolve buffer?
  cases buffers.covers required <;> simp [inside]

end BufferSet

namespace Feed

variable (feed : Feed) (channelLength : Nat)

/-- Without a slot, every channel of the device has silence. -/
theorem buffer?_idleSet {target : Nat} (driven : target < feed.deviceChannels)
    (inside : target < mostChannels) :
    (feed.idleSet channelLength).buffer? target = some .idle := by
  unfold idleSet
  generalize feed.deviceChannels = count at driven
  induction count with
  | zero => exact absurd driven (Nat.not_lt_zero _)
  | succ count inductionHypothesis =>
      rw [List.range_succ, List.foldl_append, List.foldl_cons, List.foldl_nil]
      rcases Nat.lt_succ_iff_lt_or_eq.mp driven with before | rfl
      · rw [BufferSet.buffer?_set_ne _ _ _ _ (Nat.ne_of_gt before)]
        exact inductionHypothesis before
      · exact BufferSet.buffer?_set_self _ _ _ inside

/-- With a slot, the channels that the stream does not feed have silence. -/
theorem buffer?_slotSet_of_notMem (index : Nat) {target : Nat} (unfed : target ∉ feed.selection) :
    (feed.slotSet channelLength index).buffer? target =
      (feed.idleSet channelLength).buffer? target := by
  refine buffer?_foldl_set_of_notMem (Origin.payload index) target _ _ ?_
  rwa [List.zipIdx_map_fst]

theorem length_foldl_set {ι : Type} (target : ι → Nat) (given : ι → Origin) (entries : List ι)
    (buffers : BufferSet Origin) :
    (entries.foldl (fun set entry => set.set (target entry) (given entry)) buffers).length =
      buffers.length := by
  induction entries generalizing buffers with
  | nil => rfl
  | cons entry entries inductionHypothesis =>
      rw [List.foldl_cons, inductionHypothesis, BufferSet.length_set]

theorem length_idleSet : (feed.idleSet channelLength).length = channelLength :=
  length_foldl_set id (fun _ => Origin.idle) _ _

theorem length_slotSet (index : Nat) : (feed.slotSet channelLength index).length = channelLength :=
  (length_foldl_set Prod.fst (fun entry => Origin.payload index entry.2) _ _).trans
    (feed.length_idleSet channelLength)

end Feed

/-! ## What the device reads -/

namespace Feed

/-- The buffers that the device reads a transfer from, with a fallback of its own. -/
def read (feed : Feed) (request : TransferRequest) (fallback : Bytes) (handover : Handover) :
    Option (Vector (Option Bytes) mostChannels) :=
  let (buffers?, after) := feed.transfer request handover
  buffers?.map fun buffers => (buffers.map after.slots.read).resolve request.length fallback

/-- What the device reads on one of its channels, by the slot that it holds then: bytes
enough for the transfer, which are those of the stream channel that feeds it, or silence if
there is no slot or no such channel. -/
structure Hears (feed : Feed) (before after : Handover) (request : TransferRequest)
    (fallback : Bytes) (target : Nat) (buffer : Bytes) : Prop where
  enough : request.length ≤ buffer.length
  fed : ∀ index source, after.ring.held = some index → feed.selection[source]? = some target →
    ∃ payload, before.slots.payload? index source = some payload ∧
      request.length ≤ payload.length ∧
      buffer.take request.length = payload.take request.length
  silent : after.ring.held = none ∨ target ∉ feed.selection →
    (∃ count, fallback = Bytes.silence count) →
      buffer.take request.length = Bytes.silence request.length

end Feed

/-- What a transfer does to the queue and to the slot of the device. -/
structure TransferRequest.Exchanges (request : TransferRequest) (before after : Handover) :
    Prop where
  /-- The device has a slot afterwards exactly if it was given one. -/
  servedIff : after.ring.held ≠ none ↔
    request.isFaulty = false ∧ request.length ≤ before.slots.channelLength ∧
      0 < before.ring.settle.filled
  /-- The slot that it was given is the first one of the queue. -/
  first : ∀ index, after.ring.held = some index →
    before.ring.settle.filledSlots = index :: after.ring.filledSlots ∧
      after.counters.delivered = before.counters.delivered + 1
  /-- Without that nothing leaves the queue, unless the ring is settled. -/
  keeps : after.ring.held = none → after.counters.delivered = before.counters.delivered ∧
    (after.ring.filledSlots = before.ring.filledSlots ∨
      after.ring.filledSlots = before.ring.settle.filledSlots)
  /-- A transfer that is refused leaves the queue alone and raises one underflow, of which
  both sides are told. -/
  refused : request.isFaulty = true ∨ before.slots.channelLength < request.length →
    after.ring.held = none ∧ after.ring.filledSlots = before.ring.filledSlots ∧
      after.counters.raised = (before.counters.underflows + 1, before.counters.overflows) ∧
      after.ring.pending = some .fault ∧ after.ring.writerNotice = some .underflow ∧
      after.ring.statusNotice = some .underflow

/-! ## The three outcomes of a transfer -/

section

variable {handover : Handover} {capacity channels channelLength : Nat} {feed : Feed}

/-- A transfer is refused, or finds no slot, or is answered with the first of the slots that
are filled. -/
theorem Feed.transfer_cases (sound : handover.Sound capacity channels channelLength)
    (whole : feed.selection.length = channels) (request : TransferRequest) :
    (request.isServed channelLength = false ∧
      feed.transfer request handover =
        (some (feed.idleSet channelLength), handover.skip.raise .underflow)) ∨
    (request.isServed channelLength = true ∧ handover.readyRing.filled = 0 ∧
      feed.transfer request handover =
        (some (feed.idleSet channelLength), handover.take.2) ∧
      handover.take.2.ring.held = none ∧
      handover.take.2.ring.filledSlots = handover.ring.settle.filledSlots) ∨
    (request.isServed channelLength = true ∧ 0 < handover.readyRing.filled ∧
      feed.transfer request handover =
        (some (feed.slotSet channelLength handover.readyRing.head), handover.take.2) ∧
      handover.take.2.ring = handover.readyRing.deliver) := by
  have lengths := sound.memory.payloadLength
  have later := (sound.run .take).memory
  cases served : request.isServed channelLength with
  | false =>
      rw [← lengths] at served
      exact .inl ⟨rfl, by rw [feed.transfer_of_refused request handover served, lengths]⟩
  | true =>
      rw [← lengths] at served
      have answered := feed.transfer_of_served request handover served
      have laterLength : handover.take.2.slots.channelLength = channelLength := later.payloadLength
      have laterChannels : feed.selection.length ≤ handover.take.2.slots.channels :=
        Nat.le_of_eq (whole.trans later.channelCount.symm)
      obtain ⟨empty, -, none, same⟩ | ⟨empty, -, none, same⟩ | ⟨waiting, granted, same⟩ :=
        handover.take_cases
      · refine .inr (.inl ⟨rfl, empty, ?_, by rw [same]; exact ⟨rfl, rfl⟩⟩)
        rw [answered, none, Feed.answer?, laterLength]
      · refine .inr (.inl ⟨rfl, empty, ?_, by rw [same]; exact ⟨rfl, rfl⟩⟩)
        rw [answered, none, Feed.answer?, laterLength]
      · refine .inr (.inr ⟨rfl, waiting, ?_, same⟩)
        rw [answered, granted, Feed.answer?, if_pos laterChannels, laterLength]
        rfl

/-- A delivery is counted exactly if the device finds a slot. -/
theorem Handover.delivered_take (handover : Handover) :
    handover.take.2.counters.delivered =
      handover.counters.delivered + if handover.readyRing.filled = 0 then 0 else 1 := by
  have settled : handover.settle.counters.delivered = handover.counters.delivered := by
    show (handover.counters.countSettling handover.ring).delivered = _
    unfold Counters.countSettling
    split <;> rfl
  rw [counters_take]
  by_cases empty : handover.readyRing.filled = 0
  · rw [if_pos empty, if_pos empty, UInt64.add_zero, ← settled]
    cases handover.readyRing.primed <;> rfl
  · rw [if_neg empty, if_neg empty, ← settled]
    rfl

theorem TransferRequest.isServed_iff {request : TransferRequest} :
    request.isServed channelLength = true ↔
      request.isFaulty = false ∧ request.length ≤ channelLength := by
  simp [TransferRequest.isServed]

/-- What a transfer does to the queue does not depend on how its buffers are laid out. -/
theorem Feed.exchanges_transfer (sound : handover.Sound capacity channels channelLength)
    (whole : feed.selection.length = channels) (request : TransferRequest) :
    request.Exchanges handover (feed.transfer request handover).2 := by
  have lengths := sound.memory.payloadLength
  have wanted : request.isServed channelLength = true ↔
      request.isFaulty = false ∧ request.length ≤ handover.slots.channelLength := by
    rw [lengths]
    exact TransferRequest.isServed_iff
  have allowed (served : request.isServed channelLength = true) :
      ¬ (request.isFaulty = true ∨ handover.slots.channelLength < request.length) := by
    obtain ⟨sane, short⟩ := wanted.mp served
    simp [sane, short]
  obtain ⟨refused, same⟩ | ⟨served, empty, same, free, queue⟩ | ⟨served, waiting, same, ring⟩ :=
    Feed.transfer_cases sound whole request
  · rw [same]
    have notServed : ¬ (request.isFaulty = false ∧
        request.length ≤ handover.slots.channelLength) := by
      rw [← wanted, refused]
      exact Bool.false_ne_true
    exact
      { servedIff := ⟨fun held => absurd rfl held, fun all => absurd ⟨all.1, all.2.1⟩ notServed⟩
        first := fun _ held => nomatch held
        keeps := fun _ => ⟨rfl, .inl rfl⟩
        refused := fun _ => ⟨rfl, rfl, rfl, rfl, rfl, rfl⟩ }
  · rw [same]
    have counted := handover.delivered_take
    rw [if_pos empty, UInt64.add_zero] at counted
    exact
      { servedIff := ⟨fun held => absurd free held, fun all => absurd empty (Nat.ne_of_gt all.2.2)⟩
        first := fun _ held => nomatch free.symm.trans held
        keeps := fun _ => ⟨counted, .inr queue⟩
        refused := fun why => absurd why (allowed served) }
  · rw [same]
    have counted := handover.delivered_take
    rw [if_neg (Nat.ne_of_gt waiting)] at counted
    have ready : handover.readyRing.Invariant := sound.ring.settle.giveBack
    have order := SlotRing.filledSlots_eq_head_cons ready waiting
    obtain ⟨sane, short⟩ := wanted.mp served
    refine
      { servedIff := ⟨fun _ => ⟨sane, short, waiting⟩, fun _ => ?_⟩
        first := ?_
        keeps := fun free => ?_
        refused := fun why => absurd why (allowed served) }
    · rw [ring]
      exact Option.some_ne_none _
    · intro index held
      rw [ring] at held ⊢
      obtain rfl : handover.readyRing.head = index := Option.some.inj held
      exact ⟨order, counted⟩
    · rw [ring] at free
      exact nomatch free

/-! ## What is heard -/

/-- Silence is what is due on a channel that nothing feeds. -/
theorem Feed.hears_silence {before after : Handover} {request : TransferRequest} {target : Nat}
    (short : request.length ≤ channelLength)
    (unfed : after.ring.held = none ∨ target ∉ feed.selection) (fallback : Bytes) :
    feed.Hears before after request fallback target (Bytes.silence channelLength) where
  enough := by simpa [Bytes.silence] using short
  fed := by
    intro index source held selected
    rcases unfed with free | absent
    · cases free.symm.trans held
    · exact absurd (List.mem_of_getElem? selected) absent
  silent := by
    intro _ _
    simp [Bytes.silence, short]

/-- The device's own fallback is heard if no slot is given to it. -/
theorem Feed.hears_fallback {before after : Handover} {request : TransferRequest} {target : Nat}
    {fallback : Bytes} (enough : request.length ≤ fallback.length)
    (free : after.ring.held = none) :
    feed.Hears before after request fallback target fallback where
  enough := enough
  fed := fun _ _ held _ => nomatch free.symm.trans held
  silent := by
    rintro _ ⟨count, rfl⟩
    simpa [Bytes.silence] using enough

/-- Without a slot the device hears silence everywhere. -/
theorem Feed.hears_idleSet {before after : Handover} {request : TransferRequest} {target : Nat}
    (lengths : after.slots.channelLength = channelLength) (free : after.ring.held = none)
    {fallback : Bytes} (enough : request.length ≤ fallback.length)
    (driven : target < feed.deviceChannels) (inside : target < mostChannels) :
    ∃ buffer, (((feed.idleSet channelLength).map after.slots.read).resolve request.length
        fallback)[target]? = some (some buffer) ∧
      feed.Hears before after request fallback target buffer := by
  have length : ((feed.idleSet channelLength).map after.slots.read).length = channelLength :=
    feed.length_idleSet channelLength
  rw [BufferSet.getElem?_resolve _ _ _ inside, BufferSet.buffer?_map,
    feed.buffer?_idleSet _ driven inside]
  simp only [BufferSet.covers, length, decide_eq_true_eq]
  by_cases short : request.length ≤ channelLength
  · rw [if_pos short]
    refine ⟨_, rfl, ?_⟩
    rw [Slots.read, lengths]
    exact Feed.hears_silence short (.inl free) fallback
  · rw [if_neg short]
    exact ⟨_, rfl, Feed.hears_fallback enough free⟩

/-- With a slot it hears the payloads of the slot on the selected channels. -/
theorem Feed.hears_slotSet {before after : Handover} {request : TransferRequest}
    {target index : Nat}
    (sound : after.Sound capacity channels channelLength) (whole : feed.selection.length = channels)
    (once : feed.selection.Nodup)
    (same : ∀ channel, after.slots.payload? index channel = before.slots.payload? index channel)
    (held : after.ring.held = some index) (there : index < capacity)
    (short : request.length ≤ channelLength) (fallback : Bytes)
    (driven : target < feed.deviceChannels) (inside : target < mostChannels) :
    ∃ buffer, (((feed.slotSet channelLength index).map after.slots.read).resolve request.length
        fallback)[target]? = some (some buffer) ∧
      feed.Hears before after request fallback target buffer := by
  have length : ((feed.slotSet channelLength index).map after.slots.read).length = channelLength :=
    feed.length_slotSet channelLength index
  rw [BufferSet.getElem?_resolve _ _ _ inside, BufferSet.buffer?_map]
  simp only [BufferSet.covers, length, decide_eq_true_eq, if_pos short]
  by_cases fed : target ∈ feed.selection
  · obtain ⟨source, selected⟩ := List.mem_iff_getElem?.mp fed
    have sourceInside : source < channels := by
      rw [← whole]
      exact (List.getElem?_eq_some_iff.mp selected).1
    obtain ⟨payload, found, payloadLength⟩ := sound.memory.exists_payload there sourceInside
    have read : after.slots.read (.payload index source) = payload := by
      rw [Slots.read, found, Option.getD_some]
    rw [Feed.buffer?_slotSet once _ _ selected inside, Option.map_some, read]
    refine ⟨payload, rfl, ?_⟩
    have enough : request.length ≤ payload.length := payloadLength ▸ short
    refine ⟨enough, ?_, fun unfed => ?_⟩
    · intro other otherSource otherHeld otherSelected
      obtain rfl : index = other := Option.some.inj (held.symm.trans otherHeld)
      -- The selection names no channel twice, so no other source feeds this one.
      have again := Feed.buffer?_slotSet once channelLength index otherSelected inside
      rw [Feed.buffer?_slotSet once _ _ selected inside] at again
      obtain ⟨-, rfl⟩ := Origin.payload.inj (Option.some.inj again)
      exact ⟨payload, (same source).symm.trans found, enough, rfl⟩
    · rcases unfed with free | absent
      · cases held.symm.trans free
      · exact absurd fed absent
  · rw [feed.buffer?_slotSet_of_notMem _ _ fed, feed.buffer?_idleSet _ driven inside]
    refine ⟨_, rfl, ?_⟩
    rw [Slots.read, sound.memory.payloadLength]
    exact Feed.hears_silence short (.inr fed) fallback

/-- Whatever the device asks for, it reads what is due, within the bounds of every buffer. -/
theorem Feed.hears_transfer (sound : handover.Sound capacity channels channelLength)
    (few : feed.deviceChannels ≤ mostChannels) (once : feed.selection.Nodup)
    (whole : feed.selection.length = channels) (request : TransferRequest) {fallback : Bytes}
    (enough : request.length ≤ fallback.length) :
    ∃ buffers, feed.read request fallback handover = some buffers ∧
      ∀ target < feed.deviceChannels, ∃ buffer, buffers[target]? = some (some buffer) ∧
        feed.Hears handover (feed.transfer request handover).2 request fallback target buffer := by
  have lengths := sound.memory.payloadLength
  have later := sound.run .take
  obtain ⟨refused, same⟩ | ⟨-, -, same, free, -⟩ | ⟨served, -, same, ring⟩ :=
    Feed.transfer_cases sound whole request
  · simp only [Feed.read, same, Option.map_some]
    have lengthsThen : (handover.skip.raise .underflow).slots.channelLength = channelLength :=
      lengths
    exact ⟨_, rfl, fun target driven =>
      Feed.hears_idleSet lengthsThen rfl enough driven (Nat.lt_of_lt_of_le driven few)⟩
  · simp only [Feed.read, same, Option.map_some]
    exact ⟨_, rfl, fun target driven =>
      Feed.hears_idleSet later.memory.payloadLength free enough driven
        (Nat.lt_of_lt_of_le driven few)⟩
  · simp only [Feed.read, same, Option.map_some]
    have ready : handover.readyRing.Invariant := sound.ring.settle.giveBack
    have held : handover.take.2.ring.held = some handover.readyRing.head := by rw [ring]; rfl
    have there : handover.readyRing.head < capacity := by
      have slotCount : handover.readyRing.capacity = capacity :=
        handover.ring.capacity_settle.trans sound.slotCount
      exact slotCount ▸ ready.headInside
    exact ⟨_, rfl, fun target driven =>
      Feed.hears_slotSet later whole once (handover.payload?_run .take _) held there
        (TransferRequest.isServed_iff.mp served).2 fallback driven
        (Nat.lt_of_lt_of_le driven few)⟩

end

/-- **The device never reads past a buffer, and reads what is due on each of its channels**,
whatever was asked of the hand-over before, whatever it asks for itself, and however the
channels of the stream are laid on its own.  It is given a slot exactly if it can be. -/
theorem Feed.transfer_reads_due {capacity : Nat} (nonempty : 0 < capacity)
    (channels channelLength elementsPerSlot : Nat) (history : List FeedRequest) (feed : Feed)
    (few : feed.deviceChannels ≤ mostChannels) (once : feed.selection.Nodup)
    (whole : feed.selection.length = channels) (request : TransferRequest) :
    let before := (Handover.create (Slots.silent capacity channels channelLength)
      elementsPerSlot).fed history
    let after := (feed.transfer request before).2
    (∀ fallback : Bytes, request.length ≤ fallback.length →
      ∃ buffers, feed.read request fallback before = some buffers ∧
        ∀ target < feed.deviceChannels, ∃ buffer, buffers[target]? = some (some buffer) ∧
          feed.Hears before after request fallback target buffer) ∧
      request.Exchanges before after := by
  intro before after
  have sound : before.Sound capacity channels channelLength :=
    (Handover.Sound.create nonempty channels channelLength elementsPerSlot).fed history
  exact ⟨fun fallback enough => Feed.hears_transfer sound few once whole request enough,
    Feed.exchanges_transfer sound whole request⟩

/-- A device of three channels that reads a part of a slot with two of them. -/
theorem Feed.transfer_reads_due_part :
    let feed : Feed := ⟨[2, 0], 3⟩
    let request : TransferRequest := { length := 3 }
    let before := (Handover.create (Slots.silent 2 2 4) 4).fed
      [.ask .acquire, .fill 0 [[1, 2, 3, 4], [5, 6, 7, 8]], .ask (.release ⟨0, 0⟩)]
    0 < 2 ∧ feed.deviceChannels ≤ mostChannels ∧ feed.selection.Nodup ∧
      feed.selection.length = 2 ∧
      ((feed.read request (Bytes.silence 3) before).map Vector.toList =
        some [some [5, 6, 7, 8], some [128, 128, 128, 128], some [1, 2, 3, 4]]) ∧
      (∃ buffers, feed.read request (Bytes.silence 3) before = some buffers ∧
        ∀ target < feed.deviceChannels, ∃ buffer, buffers[target]? = some (some buffer) ∧
          feed.Hears before (feed.transfer request before).2 request (Bytes.silence 3) target
            buffer) ∧
      request.Exchanges before (feed.transfer request before).2 := by
  intro feed request before
  obtain ⟨hears, exchanges⟩ := Feed.transfer_reads_due (by decide : 0 < 2) 2 4 4
    [.ask .acquire, .fill 0 [[1, 2, 3, 4], [5, 6, 7, 8]], .ask (.release ⟨0, 0⟩)] feed
    (by decide) (by decide) rfl request
  exact ⟨by decide, by decide, by decide, rfl, by decide +kernel, hears _ (by decide), exchanges⟩

end DacStream
