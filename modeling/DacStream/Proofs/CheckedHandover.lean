import DacStream.Proofs.HandoverRuns
import DacStream.Proofs.SlotMemory

/-!
# Hand-overs that check every number

Where a program counts with machine words, a difference below zero, a sum too large for a
word, a remainder by zero or a place that is not there ends it at once.  `difference?`,
`inWord?`, `remainder?`, `quotient?` and `part?` have no result then, and neither has
anything that is put together from them.

The writer's side of a hand-over is put together from them here, check by check.  As long
as the ring keeps its invariant and every slot of it is in the memory, no check fails, and
the result is that of the operation without checks (`Handover.acquire?_eq`,
`Handover.release?_eq`).

On the way round the ring, a sum is checked against twice the number of slots.  That is the
stricter check: the slots are in a memory whose bytes are numbered by machine words, and a
slot takes more than two of them (`SlotRing.inWord?_of_onRing?`).

Epochs are counted without end, as they are by the ring.
-/

namespace DacStream

set_option autoImplicit false

/-! ## Checks -/

/-- A difference, if it is not below zero. -/
def difference? (first second : Nat) : Option Nat :=
  if second ≤ first then some (first - second) else none

/-- A number, if it fits into a machine word. -/
def inWord? (number : Nat) : Option Nat := if number < UInt64.size then some number else none

/-- A quotient, unless it is by zero. -/
def quotient? (number divisor : Nat) : Option Nat :=
  if divisor = 0 then none else some (number / divisor)

/-- A remainder, unless it is by zero. -/
def remainder? (number divisor : Nat) : Option Nat :=
  if divisor = 0 then none else some (number % divisor)

/-- The part of a row from `start` up to `stop`, if it lies in the row. -/
def part? {α : Type} (row : List α) (start stop : Nat) : Option (List α) :=
  if start ≤ stop ∧ stop ≤ row.length then some ((row.drop start).take (stop - start)) else none

section

variable {first second number divisor start stop : Nat}

theorem difference?_of_le (below : second ≤ first) :
    difference? first second = some (first - second) := if_pos below

theorem inWord?_of_lt (fits : number < UInt64.size) : inWord? number = some number := if_pos fits

theorem quotient?_of_pos (positive : 0 < divisor) (number : Nat) :
    quotient? number divisor = some (number / divisor) := if_neg (Nat.ne_of_gt positive)

theorem remainder?_of_pos (positive : 0 < divisor) (number : Nat) :
    remainder? number divisor = some (number % divisor) := if_neg (Nat.ne_of_gt positive)

theorem part?_of_le {α : Type} {row : List α} (forward : start ≤ stop)
    (inside : stop ≤ row.length) :
    part? row start stop = some ((row.drop start).take (stop - start)) := if_pos ⟨forward, inside⟩

theorem part?_zero {α : Type} {row : List α} (inside : stop ≤ row.length) :
    part? row 0 stop = some (row.take stop) := part?_of_le (Nat.zero_le stop) inside

end

/-! ## The size of a memory -/

/-- The bytes that a slot takes, its payloads apart: a word for its tick, one for the place of
its payloads and one for their number. -/
def Slot.bytes : Nat := 3 * 8

/-- All slots are in a memory whose bytes are numbered by machine words. -/
def Slots.InMemory (slots : Slots) : Prop := slots.capacity * Slot.bytes ≤ UInt64.size

/-! ## Rings -/

namespace SlotRing

/-- A sum on the way round the ring, if it is below twice the number of slots. -/
def onRing? (ring : SlotRing) (sum : Nat) : Option Nat :=
  if sum < 2 * ring.capacity then some sum else none

/-- As `free`. -/
def free? (ring : SlotRing) : Option Nat := do
  let unfilled ← difference? ring.capacity ring.filled
  let untaken ← difference? unfilled ring.writing
  difference? untaken (if ring.held.isSome then 1 else 0)

/-- As `oldest`. -/
def oldest? (ring : SlotRing) : Option Nat := do
  let around ← ring.onRing? (ring.tail + ring.capacity)
  let back ← difference? around ring.writing
  remainder? back ring.capacity

/-- As `isWriterSlot`. -/
def isWriterSlot? (ring : SlotRing) (handle : Handle) : Option Bool :=
  if ring.isCurrent handle && decide (handle.index < ring.capacity) then do
    let around ← ring.onRing? (ring.tail + ring.capacity)
    let beyond ← difference? around handle.index
    let back ← difference? beyond 1
    let age ← remainder? back ring.capacity
    some (decide (age < ring.writing))
  else some false

/-- As `settle`: a drain counts what it discards. -/
def settle? (ring : SlotRing) : Option SlotRing :=
  if ring.pending.isSome then do
    let _ ← ring.onRing? (ring.filled + ring.writing)
    some ring.settle
  else some ring

/-- As `lend`. -/
def lend? (ring : SlotRing) : Option SlotRing := do
  let behind ← ring.onRing? (ring.tail + 1)
  let tail ← remainder? behind ring.capacity
  let writing ← ring.onRing? (ring.writing + 1)
  some { ring with tail := tail, writing := writing }

/-- As `publish`. -/
def publish? (ring : SlotRing) : Option SlotRing := do
  let writing ← difference? ring.writing 1
  let filled ← ring.onRing? (ring.filled + 1)
  some { ring with writing := writing, filled := filled }

variable {ring : SlotRing}

theorem onRing?_of_lt {sum : Nat} (around : sum < 2 * ring.capacity) :
    ring.onRing? sum = some sum := if_pos around

/-- A sum that passes on the way round the ring fits into a word, if the slots of the ring are
in a memory. -/
theorem inWord?_of_onRing? {slots : Slots} (inMemory : slots.InMemory)
    (stored : ring.capacity = slots.capacity) {sum : Nat} (passed : ring.onRing? sum = some sum) :
    inWord? sum = some sum := by
  have around : sum < 2 * ring.capacity := by
    by_contra beyond
    rw [onRing?, if_neg beyond] at passed
    cases passed
  have bytes : slots.capacity * 24 ≤ UInt64.size := inMemory
  exact inWord?_of_lt (by omega)

namespace Invariant

theorem free?_eq (invariant : ring.Invariant) : ring.free? = some ring.free := by
  have fits := invariant.fits
  have last : (if ring.held.isSome then 1 else 0) ≤ ring.capacity - ring.filled - ring.writing := by
    cases held : ring.held <;> simp [held] at fits ⊢
    omega
  have filled : ring.filled ≤ ring.capacity := by omega
  have writing : ring.writing ≤ ring.capacity - ring.filled := by omega
  simp only [free?, difference?_of_le filled, difference?_of_le writing, difference?_of_le last,
    Option.bind_eq_bind, Option.bind_some]
  rfl

theorem oldest?_eq (invariant : ring.Invariant) : ring.oldest? = some ring.oldest := by
  have fits := invariant.fits
  have inside := invariant.tailInside
  have around : ring.tail + ring.capacity < 2 * ring.capacity := by omega
  have back : ring.writing ≤ ring.tail + ring.capacity := by omega
  simp only [oldest?, onRing?_of_lt around, difference?_of_le back,
    remainder?_of_pos invariant.capacity_pos, Option.bind_eq_bind, Option.bind_some]
  rfl

/-- Counting back from `tail` to a slot of the ring never ends below zero. -/
theorem isWriterSlot?_eq (invariant : ring.Invariant) (handle : Handle) :
    ring.isWriterSlot? handle = some (ring.isWriterSlot handle) := by
  unfold isWriterSlot? isWriterSlot
  cases near : ring.isCurrent handle && decide (handle.index < ring.capacity) with
  | false => rfl
  | true =>
      have index : handle.index < ring.capacity :=
        of_decide_eq_true (Bool.and_eq_true_iff.mp near).2
      have inside := invariant.tailInside
      have around : ring.tail + ring.capacity < 2 * ring.capacity := by omega
      have beyond : handle.index ≤ ring.tail + ring.capacity := by omega
      have back : 1 ≤ ring.tail + ring.capacity - handle.index := by omega
      simp only [if_true, onRing?_of_lt around, difference?_of_le beyond,
        difference?_of_le back, remainder?_of_pos invariant.capacity_pos, Option.bind_eq_bind,
        Option.bind_some, Bool.true_and]

theorem settle?_eq (invariant : ring.Invariant) : ring.settle? = some ring.settle := by
  have fits := invariant.fits
  have positive := invariant.capacity_pos
  have discarded : ring.filled + ring.writing < 2 * ring.capacity := by omega
  unfold settle?
  cases pending : ring.pending with
  | none => simp [ring.settle_of_not_pending pending]
  | some event => simp [onRing?_of_lt discarded]

theorem lend?_eq (invariant : ring.Invariant) (free : 0 < ring.free) :
    ring.lend? = some ring.lend := by
  have exact := invariant.free_exact
  have inside := invariant.tailInside
  have behind : ring.tail + 1 < 2 * ring.capacity := by omega
  have writing : ring.writing + 1 < 2 * ring.capacity := by omega
  simp only [lend?, onRing?_of_lt behind, onRing?_of_lt writing,
    remainder?_of_pos invariant.capacity_pos, Option.bind_eq_bind, Option.bind_some]
  rfl

theorem publish?_eq (invariant : ring.Invariant) (holds : 0 < ring.writing) :
    ring.publish? = some ring.publish := by
  have fits := invariant.fits
  have filled : ring.filled + 1 < 2 * ring.capacity := by omega
  simp only [publish?, difference?_of_le (show 1 ≤ ring.writing from holds), onRing?_of_lt filled,
    Option.bind_eq_bind, Option.bind_some]
  rfl

end Invariant

end SlotRing

/-! ## Hand-overs -/

namespace Handover

/-- As `settle`. -/
def settle? (handover : Handover) : Option Handover := do
  let ring ← handover.ring.settle?
  some { handover with ring := ring, counters := handover.counters.countSettling handover.ring }

/-- As `acquire`: the slot that is handed out is looked up for its stamp. -/
def acquire? (handover : Handover) : Option (Except StreamError Grant × Handover) := do
  let settled ← handover.settle?
  match settled.ring.writerNotice with
  | some fault => some (.error (.fault fault), { settled with ring := settled.ring.writerTold })
  | none =>
      let free ← settled.ring.free?
      if free = 0 then some (.error .timeout, settled)
      else
        let ring ← settled.ring.lend?
        let tick ← settled.slots.tick? settled.ring.tail
        some (.ok ⟨settled.ring.tailHandle, tick⟩, { settled with ring := ring })

/-- As `release`. -/
def release? (handover : Handover) (handle : Handle) : Option (Except StreamError Unit × Handover) :=
  if !handover.ring.isCurrent handle then some (.ok (), handover)
  else do
    let oldest ← handover.ring.oldest?
    if handover.ring.writing = 0 ∨ handle.index ≠ oldest then
      some (.error (.invalidHandle handle.index), handover)
    else
      let ring ← handover.ring.publish?
      some (.ok (), { handover with ring := ring, counters := handover.counters.countRelease })

variable {handover : Handover}

theorem settle?_eq (invariant : handover.ring.Invariant) :
    handover.settle? = some handover.settle := by
  simp only [settle?, invariant.settle?_eq, Option.bind_eq_bind, Option.bind_some]
  rfl

/-- **Asking for a slot passes every check**, if every slot is in the memory. -/
theorem acquire?_eq (invariant : handover.ring.Invariant)
    (stored : handover.ring.capacity = handover.slots.capacity) :
    handover.acquire? = some handover.acquire := by
  have settled : handover.settle.ring.Invariant := invariant.settle
  simp only [acquire?, settle?_eq invariant, Option.bind_eq_bind, Option.bind_some]
  unfold acquire
  cases notice : handover.settle.ring.writerNotice with
  | some fault => simp only [notice]
  | none =>
      simp only [notice, settled.free?_eq, Option.bind_some]
      by_cases none : handover.settle.ring.free = 0
      · rw [if_pos none, if_pos none]
      · have inside : handover.settle.ring.tail < handover.settle.slots.cells.length := by
          have tail := settled.tailInside
          rwa [show handover.settle.ring.capacity = _ from handover.ring.capacity_settle,
            stored] at tail
        have stamped : handover.settle.slots.tick? handover.settle.ring.tail =
            some (handover.settle.slots.cells[handover.settle.ring.tail]).tick := by
          rw [Slots.tick?, List.getElem?_eq_getElem inside, Option.map_some]
        simp only [if_neg none, settled.lend?_eq (Nat.pos_of_ne_zero none), stamped,
          Option.bind_some, Option.getD_some]

/-- **A release passes every check**, whatever the handle. -/
theorem release?_eq (invariant : handover.ring.Invariant) (handle : Handle) :
    handover.release? handle = some (handover.release handle) := by
  unfold release? release SlotRing.isOldest
  by_cases stale : !handover.ring.isCurrent handle
  · rw [if_pos stale, if_pos stale]
  · rw [if_neg stale, if_neg stale, invariant.oldest?_eq]
    by_cases refused : handover.ring.writing = 0 ∨ handle.index ≠ handover.ring.oldest
    · have found : (!(handover.ring.writing != 0 && handle.index == handover.ring.oldest)) = true := by
        rcases refused with none | other
        · simp [none]
        · simp [other]
      simp only [Option.bind_eq_bind, Option.bind_some, if_pos refused, if_pos found]
    · have found : ¬ (!(handover.ring.writing != 0 && handle.index == handover.ring.oldest)) = true := by
        simpa using refused
      have holds : 0 < handover.ring.writing :=
        Nat.pos_of_ne_zero fun none => refused (.inl none)
      simp only [Option.bind_eq_bind, Option.bind_some, if_neg refused, if_neg found,
        invariant.publish?_eq holds]

end Handover

end DacStream
