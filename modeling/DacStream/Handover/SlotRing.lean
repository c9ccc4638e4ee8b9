import DacStream.Stream.Error

/-!
# The ring of slots

A ring hands its slots from a writer to the device and back.  Going round from
`head` it holds, in this order,

* the filled slots, which wait for the device,
* the slots the writer holds, the oldest first,
* the free slots, from `tail` on,
* and last, just before `head`, the slot the device holds, if it holds one.

A slot leaves the free ones when the writer takes it and comes back to them when
the device asks for the next one.

A reset or a fault drains the ring: the filled slots and those of the writer
become free at once, and a new epoch begins, by which the handles given out
before are known to be stale.  The drain itself is put off until either side
asks for a slot; until then the event is pending.  The slot the device holds is
not drained.

The definitions below say what each event does to the ring.  Payloads, clocks
and counters are not part of it.
-/

namespace DacStream

set_option autoImplicit false

/-- Names a slot in one epoch of the ring. -/
structure Handle where
  index : Nat
  epoch : Nat
  deriving DecidableEq, Repr

/-- An event that waits for either side to ask for a slot. -/
inductive PendingEvent where
  | reset
  | fault
  deriving DecidableEq, Repr

/-- The state of a ring. -/
structure SlotRing where
  /-- The number of slots. -/
  capacity : Nat
  /-- The oldest filled slot, or the next one to be filled. -/
  head : Nat := 0
  /-- The next slot for the writer. -/
  tail : Nat := 0
  /-- How many slots wait for the device. -/
  filled : Nat := 0
  /-- How many slots the writer holds. -/
  writing : Nat := 0
  /-- The slot the device holds. -/
  held : Option Nat := none
  /-- How often the ring was drained. -/
  epoch : Nat := 0
  /-- The event that waits to be settled. -/
  pending : Option PendingEvent := none
  /-- The fault that the writer has yet to be told. -/
  writerNotice : Option Fault := none
  /-- The fault that a status query has yet to report. -/
  statusNotice : Option Fault := none
  /-- Whether the device has got a slot since the last drain and has not run dry
  since. -/
  primed : Bool := false
  deriving DecidableEq, Repr

namespace SlotRing

/-! ## Reading a ring -/

/-- The slot after a slot. -/
def next (ring : SlotRing) (index : Nat) : Nat := (index + 1) % ring.capacity

/-- How many slots a drain discards. -/
def inFlight (ring : SlotRing) : Nat := ring.filled + ring.writing

/-- How many slots are free. -/
def free (ring : SlotRing) : Nat :=
  ring.capacity - ring.filled - ring.writing - (if ring.held.isSome then 1 else 0)

/-- The slot at `tail`, as the writer gets to know it. -/
def tailHandle (ring : SlotRing) : Handle := ⟨ring.tail, ring.epoch⟩

/-- The slot at `head`, as the device gets to know it. -/
def headHandle (ring : SlotRing) : Handle := ⟨ring.head, ring.epoch⟩

/-- The oldest of the slots the writer holds, if it holds any. -/
def oldest (ring : SlotRing) : Nat := (ring.tail + ring.capacity - ring.writing) % ring.capacity

/-- Whether no drain has made a handle stale. -/
def isCurrent (ring : SlotRing) (handle : Handle) : Bool := ring.epoch == handle.epoch

/-- Whether a handle is that of the slot the writer has to release next. -/
def isOldest (ring : SlotRing) (handle : Handle) : Bool :=
  ring.writing != 0 && handle.index == ring.oldest

/-- Whether a handle is that of a slot the writer holds: counted back from
`tail`, it is not farther than the writer has slots. -/
def isWriterSlot (ring : SlotRing) (handle : Handle) : Bool :=
  ring.isCurrent handle && decide (handle.index < ring.capacity) &&
    decide ((ring.tail + ring.capacity - handle.index - 1) % ring.capacity < ring.writing)

/-! ## The places in a ring, in order -/

/-- The slots met when going round from `start`, `count` of them. -/
def span (ring : SlotRing) (start count : Nat) : List Nat :=
  (List.range count).map fun offset => (start + offset) % ring.capacity

/-- The filled slots, in the order in which the device gets them. -/
def filledSlots (ring : SlotRing) : List Nat := ring.span ring.head ring.filled

/-- The slots the writer holds, in the order in which it took them. -/
def writerSlots (ring : SlotRing) : List Nat := ring.span (ring.head + ring.filled) ring.writing

/-! ## Events -/

/-- Discards the filled slots and those of the writer, and begins an epoch. -/
def drain (ring : SlotRing) : SlotRing :=
  { ring with
    tail := ring.head, filled := 0, writing := 0, epoch := ring.epoch + 1, primed := false }

/-- Settles what is pending.  A reset also withdraws the notices of faults. -/
def settle (ring : SlotRing) : SlotRing :=
  match ring.pending with
  | none => ring
  | some .reset =>
      { ring.drain with pending := none, writerNotice := none, statusNotice := none }
  | some .fault => { ring.drain with pending := none }

/-- Gives the slot at `tail` to the writer. -/
def lend (ring : SlotRing) : SlotRing :=
  { ring with tail := ring.next ring.tail, writing := ring.writing + 1 }

/-- Puts the oldest slot of the writer behind the filled ones. -/
def publish (ring : SlotRing) : SlotRing :=
  { ring with writing := ring.writing - 1, filled := ring.filled + 1 }

/-- Frees the slot the device holds. -/
def giveBack (ring : SlotRing) : SlotRing := { ring with held := none }

/-- Gives the slot at `head` to the device. -/
def deliver (ring : SlotRing) : SlotRing :=
  { ring with
    head := ring.next ring.head, filled := ring.filled - 1, held := some ring.head,
    primed := true }

/-- Notes that the device found nothing. -/
def runDry (ring : SlotRing) : SlotRing := { ring with primed := false }

/-- Raises a fault.  It replaces whatever was pending or had yet to be told. -/
def raise (ring : SlotRing) (fault : Fault) : SlotRing :=
  { ring with
    pending := some .fault, writerNotice := some fault, statusNotice := some fault }

/-- Asks for a reset.  It replaces whatever was pending. -/
def requestReset (ring : SlotRing) : SlotRing := { ring with pending := some .reset }

/-- Forgets the fault that the writer was told. -/
def writerTold (ring : SlotRing) : SlotRing := { ring with writerNotice := none }

/-- Forgets the fault that a status query reported. -/
def statusTold (ring : SlotRing) : SlotRing := { ring with statusNotice := none }

/-- An empty ring in the next epoch. -/
def restart (ring : SlotRing) : SlotRing := { capacity := ring.capacity, epoch := ring.epoch + 1 }

/-! ## Elementary facts -/

theorem length_filledSlots (ring : SlotRing) : ring.filledSlots.length = ring.filled := by
  simp [filledSlots, span]

theorem length_writerSlots (ring : SlotRing) : ring.writerSlots.length = ring.writing := by
  simp [writerSlots, span]

theorem pending_settle (ring : SlotRing) : ring.settle.pending = none := by
  unfold settle
  split <;> simp_all

theorem settle_of_not_pending (ring : SlotRing) (nothing : ring.pending = none) :
    ring.settle = ring := by
  simp [settle, nothing]

/-- Settling what is pending begins exactly one epoch. -/
theorem epoch_settle (ring : SlotRing) :
    ring.settle.epoch = ring.epoch + (if ring.pending.isSome then 1 else 0) := by
  unfold settle
  split <;> simp_all [drain]

/-- No drain takes the slot that the device holds. -/
theorem held_settle (ring : SlotRing) : ring.settle.held = ring.held := by
  unfold settle
  split <;> simp [drain]

end SlotRing

end DacStream
