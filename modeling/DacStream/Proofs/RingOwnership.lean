import DacStream.Handover.SlotRing
import Mathlib.Data.List.Nodup
import Mathlib.Data.Nat.ModEq

/-!
# Who owns the slots of a ring

The filled slots, those of the writer and the one of the device lie next to each
other on the ring, and no slot belongs to two of them.  That rests on five facts
about the numbers a ring keeps (`Invariant`): both marks lie on the ring, `tail`
stands where the slots of the writer end, the counted slots fit on the ring, and
the device holds the slot just before `head`.

Every event of a ring keeps these facts, on the condition under which the event
takes place.  From the facts follow the order in which slots change hands: the
writer takes the slot behind its own (`writerSlots_lend`), publishes its oldest
one (`writerSlots_eq_oldest_cons`), and the device gets the first filled one
(`filledSlots_eq_head_cons`).
-/

namespace DacStream

set_option autoImplicit false

namespace SlotRing

/-! ## Going round -/

/-- The slots met when going round are those at a distance below the count. -/
theorem mem_span {ring : SlotRing} {start count index : Nat} :
    index ∈ ring.span start count ↔
      ∃ offset < count, (start + offset) % ring.capacity = index := by
  simp [span]

/-- Going round for `first + second` slots is going round twice in a row. -/
theorem span_add (ring : SlotRing) (start first second : Nat) :
    ring.span start (first + second) =
      ring.span start first ++ ring.span (start + first) second := by
  simp [span, List.range_add, Function.comp_def, Nat.add_assoc]

/-- It does not matter how often the start has gone round already. -/
theorem span_mod (ring : SlotRing) (start count : Nat) :
    ring.span (start % ring.capacity) count = ring.span start count := by
  simp [span]

theorem span_one (ring : SlotRing) (start : Nat) :
    ring.span start 1 = [start % ring.capacity] := by
  simp [span]

/-- Two distances of less than once round that lead to the same slot are the
same. -/
theorem offset_unique {capacity start first second : Nat}
    (same : (start + first) % capacity = (start + second) % capacity)
    (firstBelow : first < capacity) (secondBelow : second < capacity) : first = second := by
  have congruent : first ≡ second [MOD capacity] := Nat.ModEq.add_left_cancel' start same
  exact congruent.eq_of_lt_of_lt firstBelow secondBelow

/-- Going round at most once meets no slot twice. -/
theorem nodup_span (ring : SlotRing) (start count : Nat) (once : count ≤ ring.capacity) :
    (ring.span start count).Nodup := by
  refine List.Nodup.map_on ?_ List.nodup_range
  intro first firstListed second secondListed same
  rw [List.mem_range] at firstListed secondListed
  exact offset_unique same (by omega) (by omega)

/-- A slot farther on, but still within one round, is not met. -/
theorem notMem_span (ring : SlotRing) (start count offset : Nat) (beyond : count ≤ offset)
    (once : offset < ring.capacity) : (start + offset) % ring.capacity ∉ ring.span start count := by
  intro met
  obtain ⟨earlier, below, same⟩ := mem_span.mp met
  have := offset_unique same (by omega) once
  omega

/-! ## The numbers of a ring -/

/-- What holds of the numbers a ring keeps. -/
structure Invariant (ring : SlotRing) : Prop where
  headInside : ring.head < ring.capacity
  tailInside : ring.tail < ring.capacity
  tailFollows : ring.tail = (ring.head + ring.filled + ring.writing) % ring.capacity
  fits : ring.filled + ring.writing + ring.held.toList.length ≤ ring.capacity
  heldBeforeHead : ∀ index, ring.held = some index →
    index = (ring.head + ring.capacity - 1) % ring.capacity

namespace Invariant

variable {ring : SlotRing}

theorem capacity_pos (invariant : ring.Invariant) : 0 < ring.capacity :=
  Nat.lt_of_le_of_lt (Nat.zero_le _) invariant.headInside

theorem lt_of_mem_span (invariant : ring.Invariant) {start count index : Nat}
    (met : index ∈ ring.span start count) : index < ring.capacity := by
  obtain ⟨offset, -, rfl⟩ := mem_span.mp met
  exact Nat.mod_lt _ invariant.capacity_pos

theorem held_lt (invariant : ring.Invariant) {index : Nat} (held : ring.held = some index) :
    index < ring.capacity := by
  rw [invariant.heldBeforeHead index held]
  exact Nat.mod_lt _ invariant.capacity_pos

/-- The counted slots and the free ones are all there are: the count of the free
slots never falls short. -/
theorem free_exact (invariant : ring.Invariant) :
    ring.filled + ring.writing + ring.free + ring.held.toList.length = ring.capacity := by
  have fits := invariant.fits
  cases held : ring.held <;> simp [free, held] at fits ⊢ <;> omega

/-! ## Events keep the invariant -/

/-- A ring in which every slot is free, in any epoch. -/
theorem fresh (capacity epoch : Nat) (positive : 0 < capacity) :
    ({ capacity := capacity, epoch := epoch } : SlotRing).Invariant where
  headInside := positive
  tailInside := positive
  tailFollows := (Nat.zero_mod capacity).symm
  fits := Nat.zero_le _
  heldBeforeHead := by simp

theorem restart (invariant : ring.Invariant) : ring.restart.Invariant :=
  fresh ring.capacity (ring.epoch + 1) invariant.capacity_pos

theorem drain (invariant : ring.Invariant) : ring.drain.Invariant where
  headInside := invariant.headInside
  tailInside := invariant.headInside
  tailFollows := (Nat.mod_eq_of_lt invariant.headInside).symm
  fits := by
    have fits := invariant.fits
    simp only [SlotRing.drain]
    omega
  heldBeforeHead := invariant.heldBeforeHead

/-- Marks that do not concern the places of slots may be set freely. -/
theorem of_marks (invariant : ring.Invariant) (pending : Option PendingEvent)
    (writerNotice statusNotice : Option Fault) (primed : Bool) :
    { ring with
      pending := pending, writerNotice := writerNotice, statusNotice := statusNotice,
      primed := primed }.Invariant where
  headInside := invariant.headInside
  tailInside := invariant.tailInside
  tailFollows := invariant.tailFollows
  fits := invariant.fits
  heldBeforeHead := invariant.heldBeforeHead

theorem settle (invariant : ring.Invariant) : ring.settle.Invariant := by
  unfold SlotRing.settle
  split
  · exact invariant
  · exact invariant.drain.of_marks _ _ _ _
  · exact invariant.drain.of_marks _ _ _ _

theorem runDry (invariant : ring.Invariant) : ring.runDry.Invariant :=
  invariant.of_marks _ _ _ _

theorem raise (invariant : ring.Invariant) (fault : Fault) : (ring.raise fault).Invariant :=
  invariant.of_marks _ _ _ _

theorem requestReset (invariant : ring.Invariant) : ring.requestReset.Invariant :=
  invariant.of_marks _ _ _ _

theorem writerTold (invariant : ring.Invariant) : ring.writerTold.Invariant :=
  invariant.of_marks _ _ _ _

theorem statusTold (invariant : ring.Invariant) : ring.statusTold.Invariant :=
  invariant.of_marks _ _ _ _

theorem giveBack (invariant : ring.Invariant) : ring.giveBack.Invariant where
  headInside := invariant.headInside
  tailInside := invariant.tailInside
  tailFollows := invariant.tailFollows
  fits := by
    have fits := invariant.fits
    simp only [SlotRing.giveBack, Option.toList_none, List.length_nil]
    omega
  heldBeforeHead := by simp [SlotRing.giveBack]

/-- The writer is lent a slot only if one is free. -/
theorem lend (invariant : ring.Invariant) (free : 0 < ring.free) : ring.lend.Invariant where
  headInside := invariant.headInside
  tailInside := Nat.mod_lt _ invariant.capacity_pos
  tailFollows := by
    simp only [SlotRing.lend, next, invariant.tailFollows, Nat.mod_add_mod]
    rw [← Nat.add_assoc]
  fits := by
    have exact := invariant.free_exact
    simp only [SlotRing.lend]
    omega
  heldBeforeHead := invariant.heldBeforeHead

/-- The writer publishes only if it holds a slot. -/
theorem publish (invariant : ring.Invariant) (holds : 0 < ring.writing) :
    ring.publish.Invariant where
  headInside := invariant.headInside
  tailInside := invariant.tailInside
  tailFollows := by
    simp only [SlotRing.publish, invariant.tailFollows]
    congr 1
    omega
  fits := by
    have fits := invariant.fits
    simp only [SlotRing.publish]
    omega
  heldBeforeHead := invariant.heldBeforeHead

/-- The device gets a slot only if one is filled. -/
theorem deliver (invariant : ring.Invariant) (waiting : 0 < ring.filled) :
    ring.deliver.Invariant where
  headInside := Nat.mod_lt _ invariant.capacity_pos
  tailInside := invariant.tailInside
  tailFollows := by
    simp only [SlotRing.deliver, next, invariant.tailFollows, Nat.mod_add_mod, Nat.add_assoc]
    congr 1
    omega
  fits := by
    have fits := invariant.fits
    simp only [SlotRing.deliver, Option.toList_some, List.length_singleton]
    omega
  heldBeforeHead := by
    intro index held
    have inside := invariant.headInside
    simp only [SlotRing.deliver, Option.some.injEq] at held ⊢
    subst held
    -- `head` is met again after going once round less one step from the slot behind it.
    rw [next, Nat.add_sub_assoc (by omega), Nat.mod_add_mod,
      show ring.head + 1 + (ring.capacity - 1) = ring.head + ring.capacity by omega,
      Nat.add_mod_right, Nat.mod_eq_of_lt inside]

/-! ## No slot belongs to two -/

/-- The filled slots and those of the writer, one behind the other. -/
theorem slots_in_order (ring : SlotRing) :
    ring.filledSlots ++ ring.writerSlots = ring.span ring.head (ring.filled + ring.writing) :=
  (ring.span_add _ _ _).symm

/-- Slots beyond those of the writer are neither filled nor the writer's. -/
theorem notMem_of_beyond {offset : Nat} (beyond : ring.filled + ring.writing ≤ offset)
    (once : offset < ring.capacity) :
    (ring.head + offset) % ring.capacity ∉ ring.filledSlots ++ ring.writerSlots := by
  rw [slots_in_order]
  exact ring.notMem_span _ _ _ beyond once

/-- **No slot belongs to two sides**, and none is listed twice. -/
theorem slots_nodup (invariant : ring.Invariant) :
    (ring.filledSlots ++ ring.writerSlots ++ ring.held.toList).Nodup := by
  have fits := invariant.fits
  have queued : (ring.filledSlots ++ ring.writerSlots).Nodup := by
    rw [slots_in_order]
    exact ring.nodup_span _ _ (by omega)
  cases held : ring.held with
  | none => simpa using queued
  | some index =>
      have inside := invariant.headInside
      simp only [held, Option.toList_some, List.length_singleton] at fits
      have apart : index ∉ ring.filledSlots ++ ring.writerSlots := by
        rw [invariant.heldBeforeHead index held, Nat.add_sub_assoc (by omega)]
        exact notMem_of_beyond (by omega) (by omega)
      rw [Option.toList_some, ← List.concat_eq_append]
      exact List.Nodup.concat apart queued

/-- **The next slot for the writer belongs to nobody**, if one is free. -/
theorem tail_free (invariant : ring.Invariant) (free : 0 < ring.free) :
    ring.tail ∉ ring.filledSlots ++ ring.writerSlots ++ ring.held.toList := by
  have exact := invariant.free_exact
  rw [List.mem_append, not_or]
  constructor
  · rw [invariant.tailFollows, Nat.add_assoc]
    exact notMem_of_beyond (Nat.le_refl _) (by omega)
  · intro mine
    rw [Option.mem_toList] at mine
    have inside := invariant.headInside
    simp only [mine, Option.toList_some, List.length_singleton] at exact
    have same := invariant.heldBeforeHead _ mine
    rw [invariant.tailFollows, Nat.add_assoc, Nat.add_sub_assoc (by omega)] at same
    have := offset_unique same (by omega) (by omega)
    omega

end Invariant

/-! ## How slots change hands -/

theorem capacity_settle (ring : SlotRing) : ring.settle.capacity = ring.capacity := by
  unfold settle
  split <;> rfl

/-- The writer takes the slot behind its own. -/
theorem writerSlots_lend {ring : SlotRing} (invariant : ring.Invariant) :
    ring.lend.writerSlots = ring.writerSlots ++ [ring.tail] := by
  rw [invariant.tailFollows, ← span_one]
  exact ring.span_add _ _ _

/-- The oldest slot of the writer follows the filled ones. -/
theorem Invariant.oldest_eq {ring : SlotRing} (invariant : ring.Invariant) :
    ring.oldest = (ring.head + ring.filled) % ring.capacity := by
  have fits := invariant.fits
  have whole := Nat.mod_add_div (ring.head + ring.filled + ring.writing) ring.capacity
  rw [oldest, invariant.tailFollows]
  generalize (ring.head + ring.filled + ring.writing) % ring.capacity = rest at *
  generalize (ring.head + ring.filled + ring.writing) / ring.capacity = rounds at *
  have back : rest + ring.capacity - ring.writing + ring.capacity * rounds =
      ring.head + ring.filled + ring.capacity := by omega
  rw [← Nat.add_mul_mod_self_left _ _ rounds, back, Nat.add_mod_right]

/-- The writer publishes the first of its slots. -/
theorem writerSlots_eq_oldest_cons {ring : SlotRing} (invariant : ring.Invariant)
    (holds : 0 < ring.writing) : ring.writerSlots = ring.oldest :: ring.publish.writerSlots := by
  obtain ⟨rest, count⟩ := Nat.exists_eq_add_of_lt holds
  rw [Nat.zero_add] at count
  have behind : ring.publish.writerSlots = ring.span (ring.head + ring.filled + 1) rest := by
    simp only [writerSlots, publish, count, Nat.add_sub_cancel, ← Nat.add_assoc]
    rfl
  rw [behind, writerSlots, count, Nat.add_comm rest 1, span_add, span_one, invariant.oldest_eq,
    List.singleton_append]

/-- A published slot goes behind the filled ones. -/
theorem filledSlots_publish {ring : SlotRing} (invariant : ring.Invariant) :
    ring.publish.filledSlots = ring.filledSlots ++ [ring.oldest] := by
  rw [invariant.oldest_eq, ← span_one]
  exact ring.span_add _ _ _

/-- The device gets the first of the filled slots. -/
theorem filledSlots_eq_head_cons {ring : SlotRing} (invariant : ring.Invariant)
    (waiting : 0 < ring.filled) : ring.filledSlots = ring.head :: ring.deliver.filledSlots := by
  obtain ⟨rest, count⟩ := Nat.exists_eq_add_of_lt waiting
  rw [Nat.zero_add] at count
  have behind : ring.deliver.filledSlots = ring.span (ring.head + 1) rest := by
    simp only [filledSlots, deliver, count, Nat.add_sub_cancel, next]
    exact ring.span_mod _ _
  rw [behind, filledSlots, count, Nat.add_comm rest 1, span_add, span_one,
    Nat.mod_eq_of_lt invariant.headInside, List.singleton_append]

/-- A delivery leaves the slots of the writer alone. -/
theorem writerSlots_deliver {ring : SlotRing} (waiting : 0 < ring.filled) :
    ring.deliver.writerSlots = ring.writerSlots := by
  simp only [writerSlots, deliver, next, span, Nat.mod_add_mod, Nat.add_assoc]
  congr 2
  funext offset
  congr 1
  omega

/-! ## Which handles are the writer's -/

/-- A handle is that of the slot to be released next exactly when its slot is the
first of the writer's. -/
theorem isOldest_iff {ring : SlotRing} (invariant : ring.Invariant) (handle : Handle) :
    ring.isOldest handle = true ↔ ring.writerSlots.head? = some handle.index := by
  by_cases holds : 0 < ring.writing
  · rw [writerSlots_eq_oldest_cons invariant holds]
    simp only [isOldest, List.head?_cons, Option.some.injEq, Bool.and_eq_true, bne_iff_ne,
      beq_iff_eq]
    exact ⟨fun both => both.2.symm, fun same => ⟨Nat.ne_of_gt holds, same.symm⟩⟩
  · have none : ring.writing = 0 := by omega
    simp [isOldest, writerSlots, span, none]

/-- A slot lies among those of the writer exactly when, counted back from `tail`,
it is not farther than the writer has slots. -/
theorem mem_writerSlots_iff {ring : SlotRing} (invariant : ring.Invariant) {index : Nat}
    (inside : index < ring.capacity) :
    index ∈ ring.writerSlots ↔
      (ring.tail + ring.capacity - index - 1) % ring.capacity < ring.writing := by
  have fits := invariant.fits
  have positive := invariant.capacity_pos
  have ageBelow := Nat.mod_lt (ring.tail + ring.capacity - index - 1) positive
  have aged : (ring.tail + ring.capacity - index - 1) % ring.capacity + (index + 1) ≡
      ring.head + ring.filled + ring.writing [MOD ring.capacity] := by
    have back : ring.tail + ring.capacity - index - 1 + (index + 1) =
        ring.tail + ring.capacity := by omega
    calc (ring.tail + ring.capacity - index - 1) % ring.capacity + (index + 1)
        ≡ ring.tail + ring.capacity - index - 1 + (index + 1) [MOD ring.capacity] :=
          (Nat.mod_modEq _ _).add_right _
      _ ≡ ring.tail [MOD ring.capacity] := by rw [back]; exact Nat.add_modEq_right
      _ ≡ ring.head + ring.filled + ring.writing [MOD ring.capacity] := by
          rw [invariant.tailFollows]; exact Nat.mod_modEq _ _
  generalize (ring.tail + ring.capacity - index - 1) % ring.capacity = age at *
  rw [writerSlots, mem_span]
  constructor
  · rintro ⟨offset, below, same⟩
    have reached : ring.head + ring.filled + offset ≡ index [MOD ring.capacity] := by
      rw [← same]; exact (Nat.mod_modEq _ _).symm
    have sum : ring.head + ring.filled + (age + offset + 1) ≡
        ring.head + ring.filled + ring.writing [MOD ring.capacity] := by
      refine Nat.ModEq.trans ?_ aged
      have := (reached.add_right (age + 1))
      rwa [show ring.head + ring.filled + offset + (age + 1) =
        ring.head + ring.filled + (age + offset + 1) by omega,
        show index + (age + 1) = age + (index + 1) by omega] at this
    have rest : age + (offset + 1) ≡ ring.writing - (offset + 1) + (offset + 1)
        [MOD ring.capacity] := by
      rw [Nat.sub_add_cancel (by omega), ← Nat.add_assoc]
      exact Nat.ModEq.add_left_cancel' _ sum
    have := (Nat.ModEq.add_right_cancel' _ rest).eq_of_lt_of_lt ageBelow (by omega)
    omega
  · intro young
    refine ⟨ring.writing - (age + 1), by omega, ?_⟩
    have sum : ring.head + ring.filled + (ring.writing - (age + 1)) + (age + 1) ≡
        index + (age + 1) [MOD ring.capacity] := by
      rw [show ring.head + ring.filled + (ring.writing - (age + 1)) + (age + 1) =
        ring.head + ring.filled + ring.writing by omega,
        show index + (age + 1) = age + (index + 1) by omega]
      exact aged.symm
    have reached := Nat.ModEq.add_right_cancel' _ sum
    rw [reached, Nat.mod_eq_of_lt inside]

/-- **The test for slots of the writer is right** for every handle. -/
theorem isWriterSlot_iff {ring : SlotRing} (invariant : ring.Invariant) (handle : Handle) :
    ring.isWriterSlot handle = true ↔
      handle.epoch = ring.epoch ∧ handle.index ∈ ring.writerSlots := by
  by_cases inside : handle.index < ring.capacity
  · rw [mem_writerSlots_iff invariant inside]
    simp [isWriterSlot, isCurrent, inside, Bool.and_eq_true, @eq_comm _ handle.epoch]
  · have outside : handle.index ∉ ring.writerSlots := mt invariant.lt_of_mem_span inside
    simp [isWriterSlot, inside, outside]

end SlotRing

end DacStream
