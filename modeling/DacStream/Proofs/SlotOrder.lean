import DacStream.Proofs.HandoverRuns

/-!
# The order in which slots pass through

A journal of a run notes every slot that the writer got, that it published and
that the device got, with the epoch in which that happened.  In each epoch the
three rows are ordered by prefix: the device gets what was published, in that
order, and the writer publishes what it got, in that order.  In the current epoch
the difference between two rows is what the ring holds: published but not yet
delivered are the filled slots, and lent but not yet published are those of the
writer (`Journal.InOrder`).

A journal also shows that nothing is delivered twice: between the delivery of a
slot and the last time anything happened to that slot, there is its publication.

The order is kept by every step.  A step either leaves both rows of the ring as
they are, or begins an epoch with empty rows, or moves one slot; the journal grows
in the last case only.
-/

namespace DacStream

set_option autoImplicit false

/-- A place in a row with one more entry is the last one, or one in the row before. -/
theorem split_of_concat {α : Type} {row earlier later : List α} {last entry : α}
    (split : row ++ [last] = earlier ++ entry :: later) :
    (row = earlier ∧ last = entry) ∨ ∃ middle, row = earlier ++ entry :: middle := by
  rcases List.eq_nil_or_concat later with rfl | ⟨middle, newest, rfl⟩
  · obtain ⟨same, sameLast⟩ := List.append_inj' split rfl
    exact .inl ⟨same, List.singleton_inj.mp sameLast⟩
  · rw [List.concat_eq_append, ← List.cons_append, ← List.append_assoc] at split
    obtain ⟨same, -⟩ := List.append_inj' split rfl
    exact .inr ⟨middle, same⟩

/-! ## Journals -/

/-- What can happen to a slot. -/
inductive Passage where
  | lent
  | published
  | delivered
  deriving DecidableEq, Repr

/-- Something that happened to a slot. -/
structure JournalEntry where
  passage : Passage
  /-- The epoch in which it happened. -/
  epoch : Nat
  handle : Handle
  deriving DecidableEq, Repr

/-- What happened to slots, the oldest first. -/
abbrev Journal := List JournalEntry

/-- The handles of the slots to which something happened in an epoch. -/
def Journal.handles (journal : Journal) (passage : Passage) (epoch : Nat) : List Handle :=
  (journal.filter fun entry => entry.passage = passage ∧ entry.epoch = epoch).map
    JournalEntry.handle

/-- What a request does to slots, as its answer tells.  A release that is answered
with success has published its slot if the count of published slots has risen. -/
def HandoverRequest.entries (handover : Handover) : HandoverRequest → Journal
  | .acquire =>
      match handover.acquire with
      | (.ok grant, later) => [⟨.lent, later.ring.epoch, grant.handle⟩]
      | (.error _, _) => []
  | .release handle =>
      let later := (handover.release handle).2
      if later.counters.released = handover.counters.released then []
      else [⟨.published, later.ring.epoch, handle⟩]
  | .take =>
      let (grant?, later) := handover.take
      grant?.toList.map fun grant => ⟨.delivered, later.ring.epoch, grant.handle⟩
  | .skip | .requestReset | .raise _ | .pollFault | .restart | .setClock _ => []

/-- The journal of a run. -/
def Handover.journal (handover : Handover) : List HandoverRequest → Journal
  | [] => []
  | request :: requests =>
      request.entries handover ++ (request.run handover).journal requests

namespace SlotRing

/-- The filled slots as the device gets to know them. -/
def filledHandles (ring : SlotRing) : List Handle :=
  ring.filledSlots.map fun index => ⟨index, ring.epoch⟩

/-- The slots of the writer as it knows them. -/
def writerHandles (ring : SlotRing) : List Handle :=
  ring.writerSlots.map fun index => ⟨index, ring.epoch⟩

/-- The oldest slot of the writer as it knows it. -/
def oldestHandle (ring : SlotRing) : Handle := ⟨ring.oldest, ring.epoch⟩

theorem mem_writerHandles_iff {ring : SlotRing} {handle : Handle} :
    handle ∈ ring.writerHandles ↔ handle.epoch = ring.epoch ∧ handle.index ∈ ring.writerSlots := by
  constructor
  · intro listed
    obtain ⟨index, mine, rfl⟩ := List.mem_map.mp listed
    exact ⟨rfl, mine⟩
  · rintro ⟨current, mine⟩
    exact List.mem_map.mpr ⟨handle.index, mine, by rw [← current]⟩

theorem isWriterSlot_iff_mem {ring : SlotRing} (invariant : ring.Invariant) {handle : Handle} :
    ring.isWriterSlot handle = true ↔ handle ∈ ring.writerHandles := by
  rw [isWriterSlot_iff invariant, mem_writerHandles_iff]

theorem writerHandles_lend {ring : SlotRing} (invariant : ring.Invariant) :
    ring.lend.writerHandles = ring.writerHandles ++ [ring.tailHandle] := by
  rw [writerHandles, writerSlots_lend invariant, List.map_append]
  rfl

theorem writerHandles_eq_oldest_cons {ring : SlotRing} (invariant : ring.Invariant)
    (holds : 0 < ring.writing) :
    ring.writerHandles = ring.oldestHandle :: ring.publish.writerHandles := by
  rw [writerHandles, writerSlots_eq_oldest_cons invariant holds]
  rfl

theorem filledHandles_publish {ring : SlotRing} (invariant : ring.Invariant) :
    ring.publish.filledHandles = ring.filledHandles ++ [ring.oldestHandle] := by
  rw [filledHandles, filledSlots_publish invariant, List.map_append]
  rfl

theorem filledHandles_eq_head_cons {ring : SlotRing} (invariant : ring.Invariant)
    (waiting : 0 < ring.filled) :
    ring.filledHandles = ring.headHandle :: ring.deliver.filledHandles := by
  rw [filledHandles, filledSlots_eq_head_cons invariant waiting]
  rfl

theorem writerHandles_deliver {ring : SlotRing} (waiting : 0 < ring.filled) :
    ring.deliver.writerHandles = ring.writerHandles := by
  rw [writerHandles, writerSlots_deliver waiting]
  rfl

/-- The handle that may be released next is that of the oldest slot. -/
theorem eq_oldestHandle {ring : SlotRing} {handle : Handle} (current : handle.epoch = ring.epoch)
    (oldest : ring.isOldest handle = true) : 0 < ring.writing ∧ handle = ring.oldestHandle := by
  have both : ring.writing ≠ 0 ∧ handle.index = ring.oldest := by
    simpa [isOldest] using oldest
  obtain ⟨index, epoch⟩ := handle
  obtain rfl : epoch = ring.epoch := current
  exact ⟨Nat.pos_of_ne_zero both.1, by rw [oldestHandle, ← both.2]⟩

end SlotRing

namespace Journal

/-- A journal with one more thing noted. -/
def note (journal : Journal) (passage : Passage) (handle : Handle) : Journal :=
  journal ++ [⟨passage, handle.epoch, handle⟩]

theorem handles_note_self (journal : Journal) (passage : Passage) {handle : Handle} {epoch : Nat}
    (now : handle.epoch = epoch) :
    (journal.note passage handle).handles passage epoch =
      journal.handles passage epoch ++ [handle] := by
  simp [note, handles, now]

theorem handles_note_of_passage_ne (journal : Journal) (passage other : Passage)
    (different : passage ≠ other) (handle : Handle) (epoch : Nat) :
    (journal.note passage handle).handles other epoch = journal.handles other epoch := by
  simp [note, handles, different]

theorem handles_note_of_epoch_ne (journal : Journal) (passage other : Passage) {handle : Handle}
    {epoch : Nat} (different : handle.epoch ≠ epoch) :
    (journal.note passage handle).handles other epoch = journal.handles other epoch := by
  simp [note, handles, different]

/-- Rows only grow. -/
theorem handles_prefix_note (journal : Journal) (passage other : Passage) (handle : Handle)
    (epoch : Nat) :
    journal.handles other epoch <+: (journal.note passage handle).handles other epoch := by
  simp [note, handles]

theorem handles_eq_nil {journal : Journal} {epoch : Nat}
    (silent : ∀ entry ∈ journal, entry.epoch ≠ epoch) (passage : Passage) :
    journal.handles passage epoch = [] := by
  simp only [handles, List.map_eq_nil_iff, List.filter_eq_nil_iff, decide_eq_true_eq, not_and]
  exact fun entry listed _ => silent entry listed

/-! ## Order -/

/-- Since a slot was published, nothing has happened to it. -/
def Awaits (journal : Journal) (handle : Handle) : Prop :=
  ∃ earlier since : Journal, journal = earlier ++ ⟨.published, handle.epoch, handle⟩ :: since ∧
    ∀ entry ∈ since, entry.handle.index ≠ handle.index

theorem Awaits.note {journal : Journal} {awaited : Handle} (awaits : journal.Awaits awaited)
    (passage : Passage) {handle : Handle} (other : handle.index ≠ awaited.index) :
    (journal.note passage handle).Awaits awaited := by
  obtain ⟨earlier, since, same, alone⟩ := awaits
  refine ⟨earlier, since ++ [⟨passage, handle.epoch, handle⟩], by simp [Journal.note, same], ?_⟩
  intro entry listed
  rcases List.mem_append.mp listed with old | new
  · exact alone entry old
  · rw [List.mem_singleton.mp new]
    exact other

/-- Whatever was delivered had been left alone since it was published. -/
def DeliveredOnce (journal : Journal) : Prop :=
  ∀ (earlier later : Journal) (entry : JournalEntry), journal = earlier ++ entry :: later →
    entry.passage = .delivered → Awaits earlier entry.handle

theorem DeliveredOnce.note {journal : Journal} (once : journal.DeliveredOnce) {passage : Passage}
    {handle : Handle} (awaited : passage = .delivered → journal.Awaits handle) :
    (journal.note passage handle).DeliveredOnce := by
  intro earlier later entry split delivered
  obtain ⟨rfl, rfl⟩ | ⟨middle, same⟩ := split_of_concat split
  · exact awaited delivered
  · exact once earlier middle entry same delivered

/-- What a journal and the ring it led to have in common. -/
structure InOrder (journal : Journal) (ring : SlotRing) : Prop where
  /-- Handles are of the epoch in which they were used, and no epoch is to come. -/
  dated : ∀ entry ∈ journal, entry.handle.epoch = entry.epoch ∧ entry.epoch ≤ ring.epoch
  /-- In each epoch the device got what was published, in that order. -/
  deliveredPrefix : ∀ epoch, journal.handles .delivered epoch <+: journal.handles .published epoch
  /-- In each epoch the writer published what it got, in that order. -/
  publishedPrefix : ∀ epoch, journal.handles .published epoch <+: journal.handles .lent epoch
  /-- Published and not yet delivered are the filled slots. -/
  waiting : journal.handles .published ring.epoch =
    journal.handles .delivered ring.epoch ++ ring.filledHandles
  /-- Lent and not yet published are the slots of the writer. -/
  working : journal.handles .lent ring.epoch =
    journal.handles .published ring.epoch ++ ring.writerHandles
  /-- What is filled has been left alone since it was published. -/
  filledAwait : ∀ handle ∈ ring.filledHandles, journal.Awaits handle
  /-- What was delivered had been left alone since it was published. -/
  deliveredOnce : journal.DeliveredOnce

namespace InOrder

variable {journal : Journal} {ring : SlotRing}

/-- The empty journal of a ring on which nobody has a slot. -/
theorem empty (noneFilled : ring.filledSlots = []) (noneLent : ring.writerSlots = []) :
    InOrder [] ring where
  dated := by simp
  deliveredPrefix := fun _ => List.prefix_refl _
  publishedPrefix := fun _ => List.prefix_refl _
  waiting := by simp [handles, SlotRing.filledHandles, noneFilled]
  working := by simp [handles, SlotRing.writerHandles, noneLent]
  filledAwait := by simp [SlotRing.filledHandles, noneFilled]
  deliveredOnce := by simp [DeliveredOnce]

/-- A step that moves no slot and stays in the epoch. -/
theorem of_same (inOrder : journal.InOrder ring) {later : SlotRing}
    (sameEpoch : later.epoch = ring.epoch) (sameFilled : later.filledSlots = ring.filledSlots)
    (sameWriter : later.writerSlots = ring.writerSlots) : journal.InOrder later where
  dated := by rw [sameEpoch]; exact inOrder.dated
  deliveredPrefix := inOrder.deliveredPrefix
  publishedPrefix := inOrder.publishedPrefix
  waiting := by rw [SlotRing.filledHandles, sameFilled, sameEpoch]; exact inOrder.waiting
  working := by rw [SlotRing.writerHandles, sameWriter, sameEpoch]; exact inOrder.working
  filledAwait := by rw [SlotRing.filledHandles, sameFilled, sameEpoch]; exact inOrder.filledAwait
  deliveredOnce := inOrder.deliveredOnce

/-- A step that begins an epoch in which nobody has a slot yet. -/
theorem of_newer (inOrder : journal.InOrder ring) {later : SlotRing}
    (newer : ring.epoch < later.epoch) (noneFilled : later.filledSlots = [])
    (noneLent : later.writerSlots = []) : journal.InOrder later := by
  have silent : ∀ entry ∈ journal, entry.epoch ≠ later.epoch := fun entry listed =>
    Nat.ne_of_lt (Nat.lt_of_le_of_lt (inOrder.dated entry listed).2 newer)
  exact
    { dated := fun entry listed =>
        ⟨(inOrder.dated entry listed).1,
          Nat.le_of_lt (Nat.lt_of_le_of_lt (inOrder.dated entry listed).2 newer)⟩
      deliveredPrefix := inOrder.deliveredPrefix
      publishedPrefix := inOrder.publishedPrefix
      waiting := by simp [handles_eq_nil silent, SlotRing.filledHandles, noneFilled]
      working := by simp [handles_eq_nil silent, SlotRing.writerHandles, noneLent]
      filledAwait := by simp [SlotRing.filledHandles, noneFilled]
      deliveredOnce := inOrder.deliveredOnce }

/-- Settling either does nothing or begins an epoch. -/
theorem settle (inOrder : journal.InOrder ring) : journal.InOrder ring.settle := by
  unfold SlotRing.settle
  split
  · exact inOrder
  · exact inOrder.of_newer (Nat.lt_succ_self _) rfl rfl
  · exact inOrder.of_newer (Nat.lt_succ_self _) rfl rfl

theorem dated_note (inOrder : journal.InOrder ring) (passage : Passage) {handle : Handle}
    (now : handle.epoch = ring.epoch) :
    ∀ entry ∈ journal.note passage handle,
      entry.handle.epoch = entry.epoch ∧ entry.epoch ≤ ring.epoch := by
  intro entry listed
  rcases List.mem_append.mp listed with old | new
  · exact inOrder.dated entry old
  · rw [List.mem_singleton.mp new]
    exact ⟨rfl, Nat.le_of_eq now⟩

theorem lend (inOrder : journal.InOrder ring) (invariant : ring.Invariant)
    (free : 0 < ring.free) : (journal.note .lent ring.tailHandle).InOrder ring.lend := by
  have published := journal.handles_note_of_passage_ne .lent .published (by simp)
    ring.tailHandle
  have delivered := journal.handles_note_of_passage_ne .lent .delivered (by simp)
    ring.tailHandle
  have lent : (journal.note .lent ring.tailHandle).handles .lent ring.epoch =
      journal.handles .lent ring.epoch ++ [ring.tailHandle] := journal.handles_note_self .lent rfl
  refine ⟨inOrder.dated_note .lent rfl, ?_, ?_, ?_, ?_, ?_, inOrder.deliveredOnce.note (by simp)⟩
  · intro epoch
    rw [published, delivered]
    exact inOrder.deliveredPrefix epoch
  · intro epoch
    rw [published]
    exact (inOrder.publishedPrefix epoch).trans (journal.handles_prefix_note _ _ _ _)
  · rw [published, delivered]
    exact inOrder.waiting
  · show (journal.note .lent ring.tailHandle).handles .lent ring.epoch =
      (journal.note .lent ring.tailHandle).handles .published ring.epoch ++ ring.lend.writerHandles
    rw [lent, inOrder.working, published, SlotRing.writerHandles_lend invariant,
      List.append_assoc]
  · intro handle listed
    refine (inOrder.filledAwait handle listed).note .lent ?_
    obtain ⟨index, filled, rfl⟩ := List.mem_map.mp listed
    rintro rfl
    exact invariant.tail_free free (List.mem_append_left _ (List.mem_append_left _ filled))

theorem publish (inOrder : journal.InOrder ring) (invariant : ring.Invariant)
    (holds : 0 < ring.writing) :
    (journal.note .published ring.oldestHandle).InOrder ring.publish := by
  have lent := journal.handles_note_of_passage_ne .published .lent (by simp)
    ring.oldestHandle
  have delivered := journal.handles_note_of_passage_ne .published .delivered (by simp)
    ring.oldestHandle
  have published : (journal.note .published ring.oldestHandle).handles .published ring.epoch =
      journal.handles .published ring.epoch ++ [ring.oldestHandle] :=
    journal.handles_note_self .published rfl
  have shorter : ring.writerHandles = ring.oldestHandle :: ring.publish.writerHandles :=
    SlotRing.writerHandles_eq_oldest_cons invariant holds
  have longer : ring.publish.filledHandles = ring.filledHandles ++ [ring.oldestHandle] :=
    SlotRing.filledHandles_publish invariant
  have working : journal.handles .lent ring.epoch =
      journal.handles .published ring.epoch ++ [ring.oldestHandle] ++
        ring.publish.writerHandles := by
    rw [inOrder.working, shorter, List.append_assoc, List.singleton_append]
  refine ⟨inOrder.dated_note .published rfl, ?_, ?_, ?_, ?_, ?_,
    inOrder.deliveredOnce.note (by simp)⟩
  · intro epoch
    rw [delivered]
    exact (inOrder.deliveredPrefix epoch).trans (journal.handles_prefix_note _ _ _ _)
  · intro epoch
    rw [lent]
    by_cases now : ring.epoch = epoch
    · subst now
      rw [published, working]
      exact List.prefix_append _ _
    · rw [journal.handles_note_of_epoch_ne _ _ now]
      exact inOrder.publishedPrefix epoch
  · show (journal.note .published ring.oldestHandle).handles .published ring.epoch =
      (journal.note .published ring.oldestHandle).handles .delivered ring.epoch ++
        ring.publish.filledHandles
    rw [published, inOrder.waiting, delivered, longer, List.append_assoc]
  · show (journal.note .published ring.oldestHandle).handles .lent ring.epoch =
      (journal.note .published ring.oldestHandle).handles .published ring.epoch ++
        ring.publish.writerHandles
    rw [lent, working, published]
  · intro handle listed
    rw [longer] at listed
    rcases List.mem_append.mp listed with old | new
    · refine (inOrder.filledAwait handle old).note .published ?_
      obtain ⟨index, filled, rfl⟩ := List.mem_map.mp old
      rintro rfl
      have apart := (List.nodup_append.mp (List.nodup_append.mp invariant.slots_nodup).1).2.2
      have first := SlotRing.writerSlots_eq_oldest_cons invariant holds
      exact apart _ filled ring.oldest (by rw [first]; exact List.mem_cons_self) rfl
    · rw [List.mem_singleton.mp new]
      exact ⟨journal, [], rfl, by simp⟩

theorem deliver (inOrder : journal.InOrder ring) (invariant : ring.Invariant)
    (waiting : 0 < ring.filled) :
    (journal.note .delivered ring.headHandle).InOrder ring.deliver := by
  have lent := journal.handles_note_of_passage_ne .delivered .lent (by simp)
    ring.headHandle
  have published := journal.handles_note_of_passage_ne .delivered .published (by simp)
    ring.headHandle
  have delivered : (journal.note .delivered ring.headHandle).handles .delivered ring.epoch =
      journal.handles .delivered ring.epoch ++ [ring.headHandle] :=
    journal.handles_note_self .delivered rfl
  have shorter : ring.filledHandles = ring.headHandle :: ring.deliver.filledHandles :=
    SlotRing.filledHandles_eq_head_cons invariant waiting
  have left : journal.handles .published ring.epoch =
      journal.handles .delivered ring.epoch ++ [ring.headHandle] ++
        ring.deliver.filledHandles := by
    rw [inOrder.waiting, shorter, List.append_assoc, List.singleton_append]
  have same : ring.deliver.writerHandles = ring.writerHandles :=
    SlotRing.writerHandles_deliver waiting
  refine ⟨inOrder.dated_note .delivered rfl, ?_, ?_, ?_, ?_, ?_, inOrder.deliveredOnce.note ?_⟩
  · intro epoch
    rw [published]
    by_cases now : ring.epoch = epoch
    · subst now
      rw [delivered, left]
      exact List.prefix_append _ _
    · rw [journal.handles_note_of_epoch_ne _ _ now]
      exact inOrder.deliveredPrefix epoch
  · intro epoch
    rw [published, lent]
    exact inOrder.publishedPrefix epoch
  · show (journal.note .delivered ring.headHandle).handles .published ring.epoch =
      (journal.note .delivered ring.headHandle).handles .delivered ring.epoch ++
        ring.deliver.filledHandles
    rw [published, left, delivered]
  · rw [lent, published, same]
    exact inOrder.working
  · intro handle listed
    have queued : handle ∈ ring.filledHandles := by
      rw [shorter]
      exact List.mem_cons_of_mem _ listed
    refine (inOrder.filledAwait handle queued).note .delivered ?_
    obtain ⟨index, filled, rfl⟩ := List.mem_map.mp listed
    rintro rfl
    have apart := (List.nodup_append.mp (List.nodup_append.mp invariant.slots_nodup).1).1
    rw [SlotRing.filledSlots_eq_head_cons invariant waiting, List.nodup_cons] at apart
    exact apart.1 filled
  · intro _
    exact inOrder.filledAwait _ (by rw [shorter]; exact List.mem_cons_self)

end InOrder

end Journal

/-! ## The order in a run -/

namespace Handover

variable {journal : Journal} {handover : Handover}

theorem inOrder_acquire (inOrder : journal.InOrder handover.ring)
    (invariant : handover.ring.Invariant) :
    Journal.InOrder (journal ++ HandoverRequest.acquire.entries handover)
      handover.acquire.2.ring := by
  have settled : journal.InOrder handover.settle.ring := inOrder.settle
  simp only [HandoverRequest.entries]
  obtain ⟨fault, -, same⟩ | ⟨-, -, same⟩ | ⟨-, free, tick, same⟩ := handover.acquire_cases
  · simp only [same, List.append_nil]
    exact settled.of_same rfl rfl rfl
  · simp only [same, List.append_nil]
    exact settled
  · simp only [same]
    exact settled.lend invariant.settle free

/-- Counting a published slot is seen on the counter, even where it wraps around. -/
theorem released_countRelease_ne (counters : Counters) :
    counters.countRelease.released ≠ counters.released := by
  simp [Counters.countRelease]

theorem inOrder_release (inOrder : journal.InOrder handover.ring)
    (invariant : handover.ring.Invariant) (handle : Handle) :
    Journal.InOrder (journal ++ (HandoverRequest.release handle).entries handover)
      (handover.release handle).2.ring := by
  simp only [HandoverRequest.entries]
  obtain ⟨-, same⟩ | ⟨-, -, same⟩ | ⟨current, oldest, same⟩ := handover.release_cases handle
  · simpa [same] using inOrder
  · simpa [same] using inOrder
  · obtain ⟨holds, named⟩ := SlotRing.eq_oldestHandle current oldest
    simp only [same, if_neg (released_countRelease_ne handover.counters)]
    rw [named]
    exact inOrder.publish invariant holds

theorem inOrder_take (inOrder : journal.InOrder handover.ring)
    (invariant : handover.ring.Invariant) :
    Journal.InOrder (journal ++ HandoverRequest.take.entries handover) handover.take.2.ring := by
  have ready : journal.InOrder handover.readyRing := inOrder.settle.of_same rfl rfl rfl
  simp only [HandoverRequest.entries]
  obtain ⟨-, -, none, same⟩ | ⟨-, -, none, same⟩ | ⟨waiting, some, same⟩ := handover.take_cases
  · rw [none, Option.toList_none, List.map_nil, List.append_nil, same]
    exact ready.of_same rfl rfl rfl
  · rw [none, Option.toList_none, List.map_nil, List.append_nil, same]
    exact ready.of_same rfl rfl rfl
  · rw [some, Option.toList_some, List.map_singleton, same]
    exact ready.deliver invariant.settle.giveBack waiting

theorem inOrder_run (inOrder : journal.InOrder handover.ring)
    (invariant : handover.ring.Invariant) (request : HandoverRequest) :
    Journal.InOrder (journal ++ request.entries handover) (request.run handover).ring := by
  cases request with
  | acquire => exact inOrder_acquire inOrder invariant
  | release handle => exact inOrder_release inOrder invariant handle
  | take => exact inOrder_take inOrder invariant
  | restart =>
      rw [HandoverRequest.entries, List.append_nil]
      exact inOrder.of_newer (Nat.lt_succ_self _) rfl rfl
  | skip | requestReset | raise | pollFault | setClock =>
      rw [HandoverRequest.entries, List.append_nil]
      exact inOrder.of_same rfl rfl rfl

/-- Every run keeps the order. -/
theorem inOrder_after (inOrder : journal.InOrder handover.ring)
    (invariant : handover.ring.Invariant) (requests : List HandoverRequest) :
    Journal.InOrder (journal ++ handover.journal requests) (handover.after requests).ring := by
  induction requests generalizing handover journal with
  | nil =>
      rw [Handover.journal, List.append_nil]
      exact inOrder
  | cons request requests inductionHypothesis =>
      rw [Handover.journal, ← List.append_assoc, after_cons]
      exact inductionHypothesis (inOrder_run inOrder invariant request)
        (invariant_run invariant request)

/-- **In every epoch the device gets the published slots first in, first out, and
each exactly once**, whatever was asked of a hand-over with at least one slot, in
any order and with any handles. -/
theorem fifo_exactly_once (slots : Slots) (elementsPerSlot : Nat) (nonempty : 0 < slots.capacity)
    (requests : List HandoverRequest) :
    ((create slots elementsPerSlot).journal requests).InOrder
      ((create slots elementsPerSlot).after requests).ring := by
  have start : Journal.InOrder [] (create slots elementsPerSlot).ring := .empty rfl rfl
  exact inOrder_after start (invariant_create slots elementsPerSlot nonempty) requests

/-- A ring of two slots that goes round once, with a fault in between. -/
theorem fifo_exactly_once_two :
    0 < (Slots.silent 2 1 4).capacity ∧
      Journal.InOrder
        [⟨.lent, 0, ⟨0, 0⟩⟩, ⟨.published, 0, ⟨0, 0⟩⟩, ⟨.delivered, 0, ⟨0, 0⟩⟩, ⟨.lent, 0, ⟨1, 0⟩⟩,
          ⟨.lent, 1, ⟨1, 1⟩⟩, ⟨.published, 1, ⟨1, 1⟩⟩, ⟨.delivered, 1, ⟨1, 1⟩⟩]
        ((create (Slots.silent 2 1 4) 4).after
          [.acquire, .release ⟨0, 0⟩, .take, .acquire, .raise .underflow, .acquire, .acquire,
            .release ⟨1, 0⟩, .release ⟨1, 1⟩, .take]).ring :=
  ⟨by decide,
    fifo_exactly_once (Slots.silent 2 1 4) 4 (by decide)
      [.acquire, .release ⟨0, 0⟩, .take, .acquire, .raise .underflow, .acquire, .acquire,
        .release ⟨1, 0⟩, .release ⟨1, 1⟩, .take]⟩

end Handover

end DacStream
