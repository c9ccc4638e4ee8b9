import DacStream.Proofs.StreamSteps
import DacStream.Proofs.SlotOrder

/-!
# The slots of the writer and who carries them

A slot of the writer is either in work, or carried by a handle that was handed
out for filling in place.  A book is kept of these handles (`Custody`): which were
handed out and are not yet released, and for which slots the stream gave up the
slot in work without publishing it.  There are two occasions for that.  A write, a
flush or an acquisition takes the slot in work away before it publishes it, and if
an older slot of the writer is still outstanding, the publication is refused.  And
a flush drops a slot in work while an event is pending.

The book accounts for the ring (`Custody.Accounts`): in the current epoch the slot
in work, the handles in the book and the slots of the writer are the same, each
once.  Every operation of a stream keeps the accounts if its answer is noted, those
that fail included.
-/

namespace DacStream

set_option autoImplicit false

/-! ## The book -/

/-- The handles of slots that are not in work. -/
structure Custody where
  /-- Handed out and not yet released. -/
  lent : List Handle := []
  /-- Taken out of work by a publication that was refused. -/
  refused : List Handle := []
  /-- Taken out of work by a flush because of an event. -/
  dropped : List Handle := []
  deriving DecidableEq, Repr

/-- The handle, if its slot is the writer's. -/
def SlotRing.outstanding (ring : SlotRing) (handle? : Option Handle) : List Handle :=
  handle?.toList.filter fun handle => handle ∈ ring.writerHandles

/-- The handle of the slot in work. -/
def Stream.workHandle? (stream : Stream) : Option Handle := stream.inWork.map PartialSlot.handle

namespace Custody

/-- All handles in the book. -/
def handles (custody : Custody) : List Handle := custody.lent ++ custody.refused ++ custody.dropped

/-- Notes that a handle was handed out. -/
def lend (custody : Custody) (handle : Handle) : Custody :=
  { custody with lent := handle :: custody.lent }

/-- Notes that a handle was released. -/
def giveBack (custody : Custody) (handle : Handle) : Custody where
  lent := custody.lent.filter (· ≠ handle)
  refused := custody.refused.filter (· ≠ handle)
  dropped := custody.dropped.filter (· ≠ handle)

/-- Notes that the publication of a slot in work was refused. -/
def refuse (custody : Custody) (ring : SlotRing) (handle : Handle) : Custody :=
  { custody with refused := ring.outstanding (some handle) ++ custody.refused }

/-- Notes that the slot in work was dropped. -/
def drop (custody : Custody) (ring : SlotRing) (work : Option Handle) : Custody :=
  { custody with dropped := ring.outstanding work ++ custody.dropped }

/-- Notes what the answer of a write, a flush or an acquisition tells.  The slot it
names, if it names one, is of the current epoch. -/
def noteRefusal {α : Type} (custody : Custody) (answer : Except StreamError α) (ring : SlotRing) :
    Custody :=
  match answer with
  | .error (.invalidHandle index) => custody.refuse ring ⟨index, ring.epoch⟩
  | _ => custody

/-- Notes the answer of a flush.  If it found nothing to publish, it has dropped the
slot that was in work before. -/
def noteFlush (custody : Custody) (work : Option Handle) (answer : Except StreamError Bool)
    (ring : SlotRing) : Custody :=
  match answer with
  | .ok false => custody.drop ring work
  | _ => custody.noteRefusal answer ring

/-- Notes the answer of an acquisition. -/
def noteAcquisition (custody : Custody) (answer : Except StreamError LentBuffer)
    (ring : SlotRing) : Custody :=
  match answer with
  | .ok buffer => custody.lend buffer.handle
  | _ => custody.noteRefusal answer ring

/-- Notes the answer of a release. -/
def noteRelease (custody : Custody) (handle : Handle) (answer : Except StreamError Unit) :
    Custody :=
  match answer with
  | .ok _ => custody.giveBack handle
  | .error _ => custody

/-! ## The book accounts for the ring -/

/-- What the book, the ring and the slot in work have to do with each other. -/
structure Accounts (custody : Custody) (ring : SlotRing) (work : Option Handle) : Prop where
  invariant : ring.Invariant
  dated : ∀ handle ∈ custody.handles, handle.epoch ≤ ring.epoch
  /-- Each slot of the writer is listed once. -/
  carried : (ring.outstanding work ++
    custody.handles.filter fun handle => handle.epoch = ring.epoch).Perm ring.writerHandles
  /-- Slots are only dropped if an event is about to drain them. -/
  droppedDrain : ∀ handle ∈ custody.dropped, handle.epoch = ring.epoch → ring.pending ≠ none

variable {custody : Custody} {ring : SlotRing} {work : Option Handle}

/-- A step that leaves the slots of the writer alone. -/
theorem Accounts.of_same (accounts : custody.Accounts ring work) {later : SlotRing}
    (invariant : later.Invariant) (sameEpoch : later.epoch = ring.epoch)
    (sameWriter : later.writerHandles = ring.writerHandles)
    (stillPending : ring.pending ≠ none → later.pending ≠ none) : custody.Accounts later work where
  invariant := invariant
  dated := by
    rw [sameEpoch]
    exact accounts.dated
  carried := by
    rw [SlotRing.outstanding, sameWriter, sameEpoch]
    exact accounts.carried
  droppedDrain := by
    rw [sameEpoch]
    exact fun handle listed current => stillPending (accounts.droppedDrain handle listed current)

/-- In a new epoch in which the writer has no slot yet, every book of earlier epochs
accounts for the ring. -/
theorem Accounts.of_newer {later : SlotRing} (invariant : later.Invariant)
    (dated : ∀ handle ∈ custody.handles, handle.epoch < later.epoch)
    (noneLent : later.writerHandles = []) : custody.Accounts later work where
  invariant := invariant
  dated := fun handle listed => Nat.le_of_lt (dated handle listed)
  carried := by
    have silent : (custody.handles.filter fun handle => handle.epoch = later.epoch) = [] := by
      rw [List.filter_eq_nil_iff]
      intro handle listed
      simpa using Nat.ne_of_lt (dated handle listed)
    simp [SlotRing.outstanding, noneLent, silent]
  droppedDrain := fun handle listed current =>
    absurd current (Nat.ne_of_lt (dated handle (List.mem_append_right _ listed)))

/-- What is pending ends the epoch, and with it every claim to a slot. -/
theorem Accounts.settle_of_pending (accounts : custody.Accounts ring work)
    (event : ring.pending ≠ none) (other : Option Handle) : custody.Accounts ring.settle other := by
  have drained : ring.settle.epoch = ring.epoch + 1 ∧ ring.settle.writerHandles = [] := by
    rcases pending : ring.pending with _ | ⟨_ | _⟩
    · exact absurd pending event
    all_goals
      simp only [SlotRing.settle, pending]
      exact ⟨rfl, rfl⟩
  refine .of_newer accounts.invariant.settle (fun handle listed => ?_) drained.2
  rw [drained.1]
  exact Nat.lt_succ_of_le (accounts.dated handle listed)

theorem Accounts.settle (accounts : custody.Accounts ring work) :
    custody.Accounts ring.settle work := by
  by_cases event : ring.pending = none
  · rw [ring.settle_of_not_pending event]
    exact accounts
  · exact accounts.settle_of_pending event work

/-! ### A slot is lent -/

theorem nodup_writerHandles (invariant : ring.Invariant) : ring.writerHandles.Nodup := by
  have both := (List.nodup_append.mp invariant.slots_nodup).1
  exact (List.nodup_append.mp both).2.1.map fun _ _ same => congrArg Handle.index same

theorem Accounts.lend (accounts : custody.Accounts ring none) (free : 0 < ring.free) :
    (custody.lend ring.tailHandle).Accounts ring.lend none where
  invariant := accounts.invariant.lend free
  dated := by
    rintro handle (_ | ⟨_, listed⟩)
    · exact Nat.le_refl _
    · exact accounts.dated handle listed
  carried := by
    have carried := accounts.carried
    rw [SlotRing.writerHandles_lend accounts.invariant]
    simp only [SlotRing.outstanding, Option.toList_none, List.filter_nil,
      List.nil_append] at carried ⊢
    have now : ring.tailHandle.epoch = ring.lend.epoch := rfl
    simp only [handles, Custody.lend, List.cons_append, List.filter_cons, now, decide_true,
      if_true]
    exact (carried.cons _).trans (List.perm_append_singleton _ _).symm
  droppedDrain := accounts.droppedDrain

theorem Accounts.lendToWork (accounts : custody.Accounts ring none) (free : 0 < ring.free) :
    custody.Accounts ring.lend (some ring.tailHandle) where
  invariant := accounts.invariant.lend free
  dated := accounts.dated
  carried := by
    have carried := accounts.carried
    have longer := SlotRing.writerHandles_lend accounts.invariant
    have mine : ring.lend.outstanding (some ring.tailHandle) = [ring.tailHandle] := by
      simp [SlotRing.outstanding, longer]
    rw [mine, longer]
    exact (carried.cons _).trans (List.perm_append_singleton _ _).symm
  droppedDrain := accounts.droppedDrain

/-! ### A slot is published or given up -/

/-- Handles of other epochs do not count. -/
theorem Accounts.forget (accounts : custody.Accounts ring work)
    (stale : ∀ handle, work = some handle → handle.epoch ≠ ring.epoch) :
    custody.Accounts ring none where
  invariant := accounts.invariant
  dated := accounts.dated
  carried := by
    have nobody : ring.outstanding work = [] := by
      cases work with
      | none => rfl
      | some handle =>
          have elsewhere : handle ∉ ring.writerHandles := by
            intro listed
            exact stale handle rfl (SlotRing.mem_writerHandles_iff.mp listed).1
          simp [SlotRing.outstanding, elsewhere]
    have carried := accounts.carried
    rw [nobody] at carried
    exact carried
  droppedDrain := accounts.droppedDrain

theorem Accounts.publishWork {handle : Handle} (accounts : custody.Accounts ring (some handle))
    (current : handle.epoch = ring.epoch) (oldest : ring.isOldest handle = true) :
    custody.Accounts ring.publish none := by
  obtain ⟨holds, rfl⟩ := SlotRing.eq_oldestHandle current oldest
  have first := SlotRing.writerHandles_eq_oldest_cons accounts.invariant holds
  refine ⟨accounts.invariant.publish holds, accounts.dated, ?_, accounts.droppedDrain⟩
  have carried := accounts.carried
  have mine : ring.outstanding (some ring.oldestHandle) = [ring.oldestHandle] := by
    simp [SlotRing.outstanding, first]
  rw [mine, first] at carried
  exact carried.cons_inv

theorem handles_giveBack (custody : Custody) (handle : Handle) :
    (custody.giveBack handle).handles = custody.handles.filter (· ≠ handle) := by
  simp only [handles, giveBack, List.filter_append]

theorem mem_handles_of_giveBack {handle other : Handle}
    (listed : other ∈ (custody.giveBack handle).handles) : other ∈ custody.handles := by
  rw [handles_giveBack] at listed
  exact (List.mem_filter.mp listed).1

/-- The caller publishes the oldest slot, whose handle it may have from anywhere. -/
theorem Accounts.publish {handle : Handle} (accounts : custody.Accounts ring work)
    (current : handle.epoch = ring.epoch) (oldest : ring.isOldest handle = true) :
    (custody.giveBack handle).Accounts ring.publish work := by
  obtain ⟨holds, rfl⟩ := SlotRing.eq_oldestHandle current oldest
  have first := SlotRing.writerHandles_eq_oldest_cons accounts.invariant holds
  have once := nodup_writerHandles accounts.invariant
  rw [first, List.nodup_cons] at once
  refine ⟨accounts.invariant.publish holds,
    fun handle listed => accounts.dated handle (mem_handles_of_giveBack listed), ?_,
    fun handle listed => accounts.droppedDrain handle (List.mem_filter.mp listed).1⟩
  have others : ring.publish.writerHandles.filter (· ≠ ring.oldestHandle) =
      ring.publish.writerHandles := by
    rw [List.filter_eq_self]
    intro handle listed
    simpa using fun same : handle = ring.oldestHandle => once.1 (same ▸ listed)
  have rest := accounts.carried.filter (· ≠ ring.oldestHandle)
  rw [first, List.filter_cons_of_neg (by simp), others] at rest
  refine List.Perm.trans (List.Perm.of_eq ?_) rest
  rw [handles_giveBack, List.filter_append]
  congr 1
  · rw [SlotRing.outstanding, SlotRing.outstanding, List.filter_filter]
    refine List.filter_congr fun handle _ => ?_
    rw [first]
    by_cases same : handle = ring.oldestHandle
    · simp [same, once.1]
    · simp [same]
  · rw [List.filter_comm]
    rfl

/-- A handle from an earlier epoch is passed over. -/
theorem Accounts.passOver {handle : Handle} (accounts : custody.Accounts ring work)
    (stale : handle.epoch ≠ ring.epoch) : (custody.giveBack handle).Accounts ring work where
  invariant := accounts.invariant
  dated := fun handle listed => accounts.dated handle (mem_handles_of_giveBack listed)
  carried := by
    have same : ((custody.giveBack handle).handles.filter fun other => other.epoch = ring.epoch) =
        custody.handles.filter fun other => other.epoch = ring.epoch := by
      rw [handles_giveBack, List.filter_filter]
      refine List.filter_congr fun other _ => ?_
      by_cases mine : other = handle
      · simp [mine, stale]
      · simp [mine]
    rw [same]
    exact accounts.carried
  droppedDrain := fun handle listed => accounts.droppedDrain handle (List.mem_filter.mp listed).1

theorem epoch_of_outstanding {handle : Handle} (listed : handle ∈ ring.outstanding work) :
    handle.epoch = ring.epoch := by
  have mine := of_decide_eq_true (List.mem_filter.mp listed).2
  exact (SlotRing.mem_writerHandles_iff.mp mine).1

/-- The slot in work is outstanding as before, but now it stands in the book. -/
theorem carried_of_noted (accounts : custody.Accounts ring work) {noted : Custody}
    (moved : noted.handles.Perm (ring.outstanding work ++ custody.handles)) :
    (ring.outstanding none ++
      noted.handles.filter fun handle => handle.epoch = ring.epoch).Perm ring.writerHandles := by
  refine ((moved.filter _).trans (List.Perm.of_eq ?_)).trans accounts.carried
  rw [List.filter_append, List.filter_eq_self.mpr fun handle listed => by
    simpa using epoch_of_outstanding listed]

theorem dated_of_noted (accounts : custody.Accounts ring work) {noted : Custody}
    (moved : noted.handles.Perm (ring.outstanding work ++ custody.handles)) :
    ∀ handle ∈ noted.handles, handle.epoch ≤ ring.epoch := by
  intro handle listed
  rcases List.mem_append.mp (moved.mem_iff.mp listed) with mine | old
  · exact Nat.le_of_eq (epoch_of_outstanding mine)
  · exact accounts.dated handle old

theorem Accounts.refuse {handle : Handle} (accounts : custody.Accounts ring (some handle)) :
    (custody.refuse ring handle).Accounts ring none := by
  have moved : (custody.refuse ring handle).handles.Perm
      (ring.outstanding (some handle) ++ custody.handles) := by
    simp only [handles, Custody.refuse, List.append_assoc]
    exact List.perm_append_comm_assoc _ _ _
  exact ⟨accounts.invariant, dated_of_noted accounts moved, carried_of_noted accounts moved,
    accounts.droppedDrain⟩

/-- The slot in work is dropped, which happens only while an event is pending or
when the slot is of an earlier epoch. -/
theorem Accounts.drop (accounts : custody.Accounts ring work)
    (stale : ∀ handle, work = some handle → ring.pending ≠ none ∨ handle.epoch ≠ ring.epoch) :
    (custody.drop ring work).Accounts ring none := by
  have moved : (custody.drop ring work).handles.Perm
      (ring.outstanding work ++ custody.handles) := by
    simp only [handles, Custody.drop, List.append_assoc]
    rw [← List.append_assoc custody.lent, ← List.append_assoc custody.lent]
    exact List.perm_append_comm_assoc _ _ _
  refine ⟨accounts.invariant, dated_of_noted accounts moved, carried_of_noted accounts moved, ?_⟩
  intro handle listed current
  rcases List.mem_append.mp listed with mine | old
  · have same : work = some handle := by
      simpa using (List.mem_filter.mp mine).1
    exact (stale handle same).resolve_right fun outdated => outdated current
  · exact accounts.droppedDrain handle old current

/-! ## Hand-overs -/

variable {handover : Handover}

theorem accounts_acquire_error {error : StreamError}
    (settled : custody.Accounts handover.settle.ring none)
    (failed : handover.acquire.1 = .error error) :
    custody.Accounts handover.acquire.2.ring none ∧ ∀ index, error ≠ .invalidHandle index := by
  obtain ⟨fault, -, same⟩ | ⟨-, -, same⟩ | ⟨-, -, tick, same⟩ := handover.acquire_cases
  all_goals rw [same] at failed ⊢
  · obtain rfl := Except.error.inj failed
    exact ⟨settled.of_same settled.invariant.writerTold rfl rfl id, by simp⟩
  · obtain rfl := Except.error.inj failed
    exact ⟨settled, by simp⟩
  · exact nomatch failed

theorem accounts_acquire_ok {grant : Grant}
    (settled : custody.Accounts handover.settle.ring none)
    (granted : handover.acquire.1 = .ok grant) :
    (custody.lend grant.handle).Accounts handover.acquire.2.ring none ∧
      custody.Accounts handover.acquire.2.ring (some grant.handle) := by
  obtain ⟨fault, -, same⟩ | ⟨-, -, same⟩ | ⟨-, free, tick, same⟩ := handover.acquire_cases
  all_goals rw [same] at granted ⊢
  · exact nomatch granted
  · exact nomatch granted
  · obtain rfl := Except.ok.inj granted
    exact ⟨settled.lend free, settled.lendToWork free⟩

/-- The stream publishes its slot in work. -/
theorem accounts_release_work {handle : Handle}
    (accounts : custody.Accounts handover.ring (some handle)) :
    (custody.noteRefusal (handover.release handle).1 (handover.release handle).2.ring).Accounts
      (handover.release handle).2.ring none := by
  obtain ⟨stale, same⟩ | ⟨current, -, same⟩ | ⟨current, oldest, same⟩ :=
    handover.release_cases handle
  all_goals rw [same]
  · exact accounts.forget fun other mine => by rwa [← Option.some.inj mine]
  · simp only [noteRefusal, ← current]
    exact accounts.refuse
  · exact accounts.publishWork current oldest

/-- The caller publishes a slot. -/
theorem accounts_release (accounts : custody.Accounts handover.ring work) (handle : Handle) :
    (custody.noteRelease handle (handover.release handle).1).Accounts
      (handover.release handle).2.ring work := by
  obtain ⟨stale, same⟩ | ⟨-, -, same⟩ | ⟨current, oldest, same⟩ := handover.release_cases handle
  all_goals rw [same]
  · exact accounts.passOver stale
  · exact accounts
  · exact accounts.publish current oldest

/-- Raising a fault leaves the slots of the writer alone until it is settled. -/
theorem Accounts.raise (accounts : custody.Accounts ring work) (fault : Fault) :
    custody.Accounts (ring.raise fault) work :=
  accounts.of_same (accounts.invariant.raise fault) rfl rfl fun _ => Option.some_ne_none _

theorem Accounts.requestReset (accounts : custody.Accounts ring work) :
    custody.Accounts ring.requestReset work :=
  accounts.of_same accounts.invariant.requestReset rfl rfl fun _ => Option.some_ne_none _

/-- What the device does leaves the slots of the writer alone. -/
theorem accounts_deviceStep (accounts : custody.Accounts handover.ring work) (step : DeviceStep) :
    custody.Accounts (step.run handover).2.ring work := by
  cases step with
  | skip => exact accounts.of_same accounts.invariant.giveBack rfl rfl id
  | raise fault => exact accounts.raise fault
  | take =>
      have ready : custody.Accounts handover.readyRing work :=
        accounts.settle.of_same accounts.settle.invariant.giveBack rfl rfl id
      show custody.Accounts handover.take.2.ring work
      obtain ⟨-, -, -, same⟩ | ⟨-, -, -, same⟩ | ⟨waiting, -, same⟩ := handover.take_cases
      all_goals rw [same]
      · exact ready.of_same ready.invariant.runDry rfl rfl id
      · exact (ready.of_same ready.invariant.runDry rfl rfl id).raise .underflow
      · exact ready.of_same (ready.invariant.deliver waiting) rfl
          (SlotRing.writerHandles_deliver waiting) id

/-! ## Streams -/

/-- The book accounts for the ring of a stream and for its slot in work. -/
def Keeps (custody : Custody) (stream : Stream) : Prop :=
  custody.Accounts stream.handover.ring stream.workHandle?

variable {stream : Stream}

/-- When no slot is left in work, an event or an epoch has ended all claims, or
nothing was in work before. -/
theorem Keeps.settle_dropStale (keeps : custody.Keeps stream)
    (nothing : stream.dropStale.inWork = none) :
    custody.Accounts stream.dropStale.handover.settle.ring none := by
  obtain ⟨slot, work, stale, same⟩ | ⟨same, -⟩ := stream.dropStale_cases
  · rw [same]
    by_cases event : stream.handover.ring.pending = none
    · have outdated : slot.handle.epoch ≠ stream.handover.ring.epoch := by
        simpa [Handover.hasPendingEvent, event] using stale
      have forgotten : custody.Accounts stream.handover.ring none := by
        refine keeps.forget fun handle mine => ?_
        obtain rfl : slot.handle = handle := by simpa [Stream.workHandle?, work] using mine
        exact outdated
      exact forgotten.settle
    · exact keeps.settle_of_pending event none
  · rw [same] at nothing ⊢
    have accounts : custody.Accounts stream.handover.ring none := by
      simpa [Keeps, Stream.workHandle?, nothing] using keeps
    exact accounts.settle

/-- A claimed slot is outstanding as the slot in work. -/
theorem Keeps.claim {slot : PartialSlot} (keeps : custody.Keeps stream)
    (claimed : stream.dropStale.claim.1 = .ok slot) :
    custody.Accounts stream.dropStale.claim.2.handover.ring (some slot.handle) ∧
      stream.dropStale.claim.2.inWork = none := by
  obtain ⟨other, work, same⟩ | ⟨-, error, -, same⟩ | ⟨nothing, grant, granted, same⟩ :=
    stream.dropStale.claim_cases
  · rw [same] at claimed ⊢
    obtain rfl := Except.ok.inj claimed
    obtain ⟨-, -, -, dropped⟩ | ⟨kept, -⟩ := stream.dropStale_cases
    · simp [dropped] at work
    · rw [kept] at work ⊢
      have mine : stream.workHandle? = some other.handle := by simp [Stream.workHandle?, work]
      rw [Keeps, mine] at keeps
      exact ⟨keeps, rfl⟩
  · simp [same] at claimed
  · rw [same] at claimed ⊢
    obtain rfl := Except.ok.inj claimed
    exact ⟨(accounts_acquire_ok (keeps.settle_dropStale nothing) granted).2, nothing⟩

theorem Keeps.claim_error {error : StreamError} (keeps : custody.Keeps stream)
    (failed : stream.dropStale.claim.1 = .error error) :
    custody.Keeps stream.dropStale.claim.2 ∧ ∀ index, error ≠ .invalidHandle index := by
  obtain ⟨other, -, same⟩ | ⟨nothing, other, refused, same⟩ | ⟨-, grant, -, same⟩ :=
    stream.dropStale.claim_cases
  · simp [same] at failed
  · rw [same] at failed ⊢
    obtain rfl := Except.error.inj failed
    rw [Keeps, Stream.workHandle?, nothing]
    exact accounts_acquire_error (keeps.settle_dropStale nothing) refused
  · simp [same] at failed

/-- An answer that names no slot leaves the book as it is. -/
theorem noteRefusal_error {α : Type} (custody : Custody) {error : StreamError}
    (unnamed : ∀ index, error ≠ .invalidHandle index) (ring : SlotRing) :
    custody.noteRefusal (.error error : Except StreamError α) ring = custody := by
  unfold noteRefusal
  split
  · rename_i index same
    exact absurd (Except.error.inj same) (unnamed index)
  · rfl

theorem noteRefusal_map {α β : Type} (custody : Custody) (change : α → β)
    (answer : Except StreamError α) (ring : SlotRing) :
    custody.noteRefusal (answer.map change) ring = custody.noteRefusal answer ring := by
  rcases answer with error | value
  · cases error <;> rfl
  · rfl

/-- Writing accounts for every slot it takes. -/
theorem Keeps.write {α : Type} [Sample α] (keeps : custody.Keeps stream)
    (inputs : List (List α)) (count : Nat) :
    (custody.noteRefusal (stream.write inputs count).1
      (stream.write inputs count).2.handover.ring).Keeps (stream.write inputs count).2 := by
  obtain ⟨-, error, same, unnamed⟩ | ⟨-, -, same⟩ | ⟨-, -, error, failed, same⟩ |
      ⟨-, -, slot, claimed, same⟩ := stream.write_cases inputs count
  all_goals rw [same]
  · rw [noteRefusal_error custody unnamed]
    exact keeps
  · exact keeps
  · obtain ⟨kept, unnamed⟩ := keeps.claim_error failed
    rw [noteRefusal_error custody unnamed]
    exact kept
  · obtain ⟨accounts, nothing⟩ := keeps.claim claimed
    obtain ⟨count, -, written, rfl, outcome⟩ := stream.dropStale.claim.2.writeInto_cases slot
      inputs (stream.requested inputs count)
    rcases outcome with ⟨-, same⟩ | ⟨-, same⟩
    · rw [same, noteRefusal_map, Keeps, Stream.workHandle?, Stream.release_eq]
      simp only [Stream.withSlots, nothing, Option.map_none]
      exact accounts_release_work accounts
    · rw [same]
      exact accounts

theorem keeps_padAndRelease_work (stream : Stream) {handle : Handle}
    (accounts : custody.Accounts stream.handover.ring (some handle))
    (nothing : stream.inWork = none) (elements : Nat) :
    (custody.noteRefusal (stream.padAndRelease handle elements).1
      (stream.padAndRelease handle elements).2.handover.ring).Keeps
        (stream.padAndRelease handle elements).2 := by
  rw [Stream.padAndRelease_eq, Stream.release_eq, Keeps, Stream.workHandle?]
  simp only [Stream.withSlots, nothing, Option.map_none]
  exact accounts_release_work accounts

theorem noteFlush_published (custody : Custody) (work : Option Handle)
    (answer : Except StreamError Unit) (ring : SlotRing) :
    custody.noteFlush work (answer.map fun _ => true) ring = custody.noteRefusal answer ring := by
  rcases answer with error | value
  · exact custody.noteRefusal_map (fun _ => true) (.error error) ring
  · rfl

/-- After a flush no slot is in work, and each one is accounted for. -/
theorem Keeps.flush (keeps : custody.Keeps stream) :
    (custody.noteFlush stream.workHandle? stream.flush.1 stream.flush.2.handover.ring).Keeps
      stream.flush.2 := by
  obtain ⟨nothing, same⟩ | ⟨slot, work, -, same⟩ := stream.flush_cases
  · rw [same]
    have accounts : (custody.drop stream.handover.ring stream.workHandle?).Accounts
        stream.handover.ring none := by
      refine Accounts.drop keeps fun handle mine => ?_
      obtain ⟨slot, work, stale, -⟩ | ⟨kept, -⟩ := stream.dropStale_cases
      · obtain rfl : slot.handle = handle := by simpa [Stream.workHandle?, work] using mine
        exact stale.imp (fun event => Option.isSome_iff_ne_none.mp event) id
      · rw [kept] at nothing
        simp [Stream.workHandle?, nothing] at mine
    have left : stream.dropStale.workHandle? = none := by rw [Stream.workHandle?, nothing]; rfl
    show (custody.noteFlush stream.workHandle? (.ok false) stream.dropStale.handover.ring).Accounts
      stream.dropStale.handover.ring stream.dropStale.workHandle?
    rw [left, Stream.handover_dropStale]
    exact accounts
  · have accounts : custody.Accounts stream.handover.ring (some slot.handle) := by
      simpa [Keeps, Stream.workHandle?, work] using keeps
    rw [same, noteFlush_published]
    exact keeps_padAndRelease_work { stream with inWork := none } accounts rfl _

/-- After a flush that was not refused, all claims but those in the book are ended
as soon as what is pending is settled. -/
theorem Keeps.settle_flush (keeps : custody.Keeps stream) {flushed : Bool}
    (granted : stream.flush.1 = .ok flushed) :
    custody.Accounts stream.flush.2.handover.settle.ring none ∧ stream.flush.2.inWork = none := by
  obtain ⟨nothing, same⟩ | ⟨slot, work, -, same⟩ := stream.flush_cases
  · rw [same]
    exact ⟨keeps.settle_dropStale nothing, nothing⟩
  · have kept := keeps.flush
    have nothing : stream.flush.2.inWork = none := by
      rw [same, Stream.padAndRelease_eq, Stream.release_eq]
      rfl
    have published : flushed = true := by
      rw [same] at granted
      cases answer : ({ stream with inWork := none }.padAndRelease slot.handle slot.filled).1 with
      | error error => simp [answer, Except.map] at granted
      | ok => simpa [answer, Except.map] using granted.symm
    rw [granted, published] at kept
    have accounts : custody.Accounts stream.flush.2.handover.ring stream.flush.2.workHandle? := kept
    rw [Stream.workHandle?, nothing] at accounts
    exact ⟨Accounts.settle accounts, nothing⟩

/-- Handing out a slot accounts for it, and for the one that was flushed before. -/
theorem Keeps.acquireBuffer (keeps : custody.Keeps stream) :
    (custody.noteAcquisition stream.acquireBuffer.1 stream.acquireBuffer.2.handover.ring).Keeps
      stream.acquireBuffer.2 := by
  obtain ⟨error, failed, same⟩ | ⟨flushed, error, granted, failed, same⟩ |
      ⟨flushed, grant, buffer, granted, lent, sameHandle, same⟩ := stream.acquireBuffer_cases
  · have kept := keeps.flush
    rw [failed] at kept
    rw [same]
    cases error <;> exact kept
  · obtain ⟨settled, nothing⟩ := keeps.settle_flush granted
    obtain ⟨accounts, unnamed⟩ := accounts_acquire_error settled failed
    rw [same]
    show (custody.noteRefusal (.error error : Except StreamError LentBuffer) _).Accounts
      stream.flush.2.handover.acquire.2.ring stream.flush.2.workHandle?
    rw [noteRefusal_error custody unnamed, Stream.workHandle?, nothing]
    exact accounts
  · obtain ⟨settled, nothing⟩ := keeps.settle_flush granted
    rw [same]
    show (custody.lend buffer.handle).Accounts stream.flush.2.handover.acquire.2.ring
      stream.flush.2.workHandle?
    rw [sameHandle, Stream.workHandle?, nothing]
    exact (accounts_acquire_ok settled lent).1

theorem Keeps.padAndRelease (keeps : custody.Keeps stream) (handle : Handle) (elements : Nat) :
    (custody.noteRelease handle (stream.padAndRelease handle elements).1).Keeps
      (stream.padAndRelease handle elements).2 := by
  have padded : custody.Accounts
      (stream.withSlots (stream.padded handle elements)).handover.ring stream.workHandle? := keeps
  rw [Stream.padAndRelease_eq]
  exact accounts_release padded handle

theorem Keeps.restart (keeps : custody.Keeps stream) : custody.Keeps stream.restart :=
  .of_newer keeps.invariant.restart
    (fun handle listed => Nat.lt_succ_of_le (keeps.dated handle listed)) rfl

theorem Keeps.noteEnding (keeps : custody.Keeps stream) (ending : RunEnding) :
    custody.Keeps (stream.noteEnding ending) := by
  cases ending with
  | failed error => exact Accounts.raise keeps .underflow
  | returned | crashed => exact keeps

theorem Keeps.serve (keeps : custody.Keeps stream) (deviceChannels : Nat)
    (request : TransferRequest) : custody.Keeps (stream.serve deviceChannels request).2 := by
  cases served : request.isServed stream.handover.slots.channelLength with
  | true =>
      simp only [Stream.serve, Feed.transfer_of_served _ _ _ served]
      exact accounts_deviceStep keeps .take
  | false =>
      simp only [Stream.serve, Feed.transfer_of_refused _ _ _ served]
      exact (accounts_deviceStep keeps .skip).raise .underflow

end Custody

end DacStream
