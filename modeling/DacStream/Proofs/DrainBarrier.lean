import DacStream.Proofs.SlotOrder

/-!
# Nothing passes an interruption

A reset that is asked for, a fault that is raised and a restart of the ring
interrupt a hand-over.  What the writer had got before never reaches the device
afterwards, even if the writer still publishes it: a restart empties the ring at
once, and any other interruption is pending until either side asks for a slot and
then drains the ring before anything else happens.

The reason is one number.  The epoch in which the next slot changes hands is that
of the ring once it is settled.  It never falls (`settledEpoch_le_run`), everything
in the journal of an interrupted run is older (`epoch_lt_of_interrupts`), and a
delivery is of that epoch (`epoch_of_delivered`).

Between an interruption and the next request for a slot no other request begins an
epoch, so that any number of interruptions is settled by one drain
(`pending_after`), which leaves the slot of the device alone.
-/

namespace DacStream

set_option autoImplicit false

namespace HandoverRequest

/-- Whether a request interrupts a hand-over.  A device that asks for a slot does so
when it runs dry, and this is pending afterwards. -/
def Interrupts (handover : Handover) : HandoverRequest → Prop
  | .requestReset | .raise _ | .restart => True
  | .take => handover.take.2.hasPendingEvent = true
  | .acquire | .release _ | .skip | .pollFault | .setClock _ => False

/-- Whether a request asks for a slot. -/
def asks : HandoverRequest → Bool
  | .acquire | .take => true
  | _ => false

end HandoverRequest

/-! ## Settling -/

namespace SlotRing

/-- Settling an event leaves nothing filled and nothing with the writer. -/
theorem settle_of_pending {ring : SlotRing} (event : ring.pending ≠ none) :
    ring.settle.filledSlots = [] ∧ ring.settle.writerSlots = [] ∧
      ring.settle.primed = false ∧ ring.settle.epoch = ring.epoch + 1 := by
  rcases pending : ring.pending with _ | ⟨_ | _⟩
  · exact absurd pending event
  all_goals
    simp only [settle, pending]
    exact ⟨rfl, rfl, rfl, rfl⟩

end SlotRing

namespace Handover

variable {handover : Handover}

theorem hasPendingEvent_iff : handover.hasPendingEvent = true ↔ handover.ring.pending ≠ none := by
  rw [hasPendingEvent, Option.isSome_iff_ne_none]

/-- Settling twice is settling once. -/
theorem settle_settle (handover : Handover) : handover.settle.settle = handover.settle :=
  settle_of_calm handover.ring.pending_settle

/-! ## The epoch in which the next slot changes hands -/

/-- The epoch in which the next slot changes hands, if nothing else happens before. -/
def settledEpoch (handover : Handover) : Nat := handover.ring.settle.epoch

theorem epoch_le_settledEpoch (handover : Handover) :
    handover.ring.epoch ≤ handover.settledEpoch := by
  rw [settledEpoch, SlotRing.epoch_settle]
  exact Nat.le_add_right _ _

theorem settledEpoch_acquire (handover : Handover) :
    handover.acquire.2.settledEpoch = handover.settledEpoch := by
  have calm : handover.settle.ring.pending = none := handover.ring.pending_settle
  obtain ⟨fault, -, same⟩ | ⟨-, -, same⟩ | ⟨-, -, tick, same⟩ := handover.acquire_cases <;>
    rw [settledEpoch, SlotRing.epoch_settle, same] <;>
    simp only [SlotRing.writerTold, SlotRing.lend, calm] <;> rfl

theorem settledEpoch_release (handover : Handover) (handle : Handle) :
    (handover.release handle).2.settledEpoch = handover.settledEpoch := by
  obtain ⟨-, same⟩ | ⟨-, -, same⟩ | ⟨-, -, same⟩ := handover.release_cases handle
  · rw [same]
  · rw [same]
  · rw [settledEpoch, settledEpoch, SlotRing.epoch_settle, SlotRing.epoch_settle, same]
    rfl

/-- What the device finds is settled, and running dry only puts the next drain off. -/
theorem settledEpoch_le_take (handover : Handover) :
    handover.settledEpoch ≤ handover.take.2.settledEpoch := by
  have same : handover.take.2.ring.epoch = handover.settledEpoch := by
    obtain ⟨-, -, -, same⟩ | ⟨-, -, -, same⟩ | ⟨-, -, same⟩ := handover.take_cases <;>
      rw [same] <;> rfl
  rw [← same]
  exact handover.take.2.epoch_le_settledEpoch

/-- No request turns the epochs back. -/
theorem settledEpoch_le_run (handover : Handover) (request : HandoverRequest) :
    handover.settledEpoch ≤ (request.run handover).settledEpoch := by
  cases request with
  | acquire => exact Nat.le_of_eq handover.settledEpoch_acquire.symm
  | release handle => exact Nat.le_of_eq (handover.settledEpoch_release handle).symm
  | take => exact handover.settledEpoch_le_take
  | skip | pollFault | setClock => exact Nat.le_of_eq (by
      simp only [settledEpoch, SlotRing.epoch_settle]
      rfl)
  | requestReset | raise =>
      show handover.ring.settle.epoch ≤ handover.ring.epoch + 1
      rw [SlotRing.epoch_settle]
      split <;> omega
  | restart =>
      show handover.ring.settle.epoch ≤ handover.ring.epoch + 1
      rw [SlotRing.epoch_settle]
      split <;> omega

/-- The device only gets slots of that epoch. -/
theorem epoch_of_delivered (request : HandoverRequest) {entry : JournalEntry}
    (noted : entry ∈ request.entries handover) (delivered : entry.passage = .delivered) :
    entry.epoch = handover.settledEpoch := by
  cases request with
  | acquire =>
      simp only [HandoverRequest.entries] at noted
      split at noted
      · rw [List.mem_singleton.mp noted] at delivered
        cases delivered
      · cases noted
  | release handle =>
      simp only [HandoverRequest.entries] at noted
      split at noted
      · cases noted
      · rw [List.mem_singleton.mp noted] at delivered
        cases delivered
  | take =>
      obtain ⟨grant, -, rfl⟩ := List.mem_map.mp noted
      show handover.take.2.ring.epoch = _
      obtain ⟨-, -, -, same⟩ | ⟨-, -, -, same⟩ | ⟨-, -, same⟩ := handover.take_cases <;>
        rw [same] <;> rfl
  | skip | requestReset | raise | pollFault | restart | setClock => cases noted

/-- Along a run the device gets slots of that epoch or of later ones. -/
theorem settledEpoch_le_of_delivered {requests : List HandoverRequest} {entry : JournalEntry}
    (noted : entry ∈ handover.journal requests) (delivered : entry.passage = .delivered) :
    handover.settledEpoch ≤ entry.epoch := by
  induction requests generalizing handover with
  | nil => exact nomatch noted
  | cons request requests inductionHypothesis =>
      rcases List.mem_append.mp noted with now | later
      · exact Nat.le_of_eq (epoch_of_delivered request now delivered).symm
      · exact (handover.settledEpoch_le_run request).trans (inductionHypothesis later)

/-! ## Interruptions -/

/-- After an interruption something is pending, or the ring was restarted. -/
theorem pending_of_interrupts {event : HandoverRequest} (interrupts : event.Interrupts handover) :
    event = .restart ∨ (event.run handover).hasPendingEvent = true := by
  cases event with
  | restart => exact .inl rfl
  | requestReset | raise => exact .inr rfl
  | take => exact .inr interrupts
  | acquire | release | skip | pollFault | setClock => exact interrupts.elim

/-- Whatever was noted up to an interruption is of an earlier epoch than the next slot
to change hands. -/
theorem epoch_lt_of_interrupts {journal : Journal} {event : HandoverRequest}
    (interrupts : event.Interrupts handover) (inOrder : journal.InOrder handover.ring)
    (now : Journal.InOrder (journal ++ event.entries handover) (event.run handover).ring)
    {entry : JournalEntry} (noted : entry ∈ journal ++ event.entries handover) :
    entry.epoch < (event.run handover).settledEpoch := by
  rcases pending_of_interrupts interrupts with rfl | pending
  · -- A restart notes nothing, and it begins its epoch at once.
    rw [HandoverRequest.entries, List.append_nil] at noted
    exact Nat.lt_succ_of_le (inOrder.dated entry noted).2
  · rw [settledEpoch, (SlotRing.settle_of_pending (hasPendingEvent_iff.mp pending)).2.2.2]
    exact Nat.lt_succ_of_le (now.dated entry noted).2

/-- As long as nobody asks for a slot and the ring is not restarted, what is pending
stays so, and the epoch goes on, whatever else is raised. -/
theorem pending_after {between : List HandoverRequest}
    (quiet : ∀ request ∈ between, request.asks = false ∧ request ≠ .restart)
    (pending : handover.hasPendingEvent = true) :
    (handover.after between).hasPendingEvent = true ∧
      (handover.after between).ring.epoch = handover.ring.epoch := by
  induction between generalizing handover with
  | nil => exact ⟨pending, rfl⟩
  | cons request requests inductionHypothesis =>
      have once : (request.run handover).hasPendingEvent = true ∧
          (request.run handover).ring.epoch = handover.ring.epoch := by
        obtain ⟨none, running⟩ := quiet request List.mem_cons_self
        cases request with
        | acquire | take => exact nomatch none
        | restart => exact absurd rfl running
        | release handle =>
            obtain ⟨-, same⟩ | ⟨-, -, same⟩ | ⟨-, -, same⟩ := handover.release_cases handle <;>
              rw [HandoverRequest.run, same] <;> exact ⟨pending, rfl⟩
        | requestReset | raise => exact ⟨rfl, rfl⟩
        | skip | pollFault | setClock => exact ⟨pending, rfl⟩
      obtain ⟨still, same⟩ := inductionHypothesis
        (fun later listed => quiet later (List.mem_cons_of_mem _ listed)) once.1
      exact ⟨still, same.trans once.2⟩

/-- What a request for a slot does while something is pending. -/
structure SettlesFirst (handover : Handover) (ask : HandoverRequest) : Prop where
  /-- The ring is settled before anything else happens. -/
  acquireSettled : handover.acquire = handover.settle.acquire
  takeSettled : handover.take = handover.settle.take
  /-- One epoch begins. -/
  epoch : (ask.run handover).ring.epoch = handover.ring.epoch + 1
  calm : (ask.run handover).hasPendingEvent = false
  noneFilled : (ask.run handover).ring.filledSlots = []
  /-- The writer has what it just got, and nothing else. -/
  writers : (ask.run handover).ring.writerHandles =
    Journal.handles (ask.entries handover) .lent (handover.ring.epoch + 1)

theorem settlesFirst_acquire (pending : handover.hasPendingEvent = true)
    (invariant : handover.ring.Invariant) : handover.SettlesFirst .acquire := by
  obtain ⟨noneFilled, noneLent, -, next⟩ :=
    SlotRing.settle_of_pending (hasPendingEvent_iff.mp pending)
  have calm : handover.ring.settle.pending = none := handover.ring.pending_settle
  have nobody : handover.ring.settle.writerHandles = [] := by
    rw [SlotRing.writerHandles, noneLent, List.map_nil]
  -- Whatever the answer is, the ring is the settled one, up to the slot that is lent.
  have cases := handover.acquire_cases
  exact
    { acquireSettled := by rw [acquire, acquire, settle_settle]
      takeSettled := by rw [take, take, settle_settle]
      epoch := by
        obtain ⟨fault, -, same⟩ | ⟨-, -, same⟩ | ⟨-, -, tick, same⟩ := cases <;>
          simp only [HandoverRequest.run, same] <;> exact next
      calm := by
        obtain ⟨fault, -, same⟩ | ⟨-, -, same⟩ | ⟨-, -, tick, same⟩ := cases <;>
          simp only [HandoverRequest.run, same] <;> exact congrArg Option.isSome calm
      noneFilled := by
        obtain ⟨fault, -, same⟩ | ⟨-, -, same⟩ | ⟨-, -, tick, same⟩ := cases <;>
          simp only [HandoverRequest.run, same] <;> exact noneFilled
      writers := by
        obtain ⟨fault, -, same⟩ | ⟨-, -, same⟩ | ⟨-, -, tick, same⟩ := cases <;>
          simp only [HandoverRequest.run, HandoverRequest.entries, same]
        · exact nobody
        · exact nobody
        · have now : handover.ring.settle.lend.epoch = handover.ring.epoch + 1 := next
          show handover.ring.settle.lend.writerHandles = Journal.handles
            [⟨.lent, handover.ring.settle.lend.epoch, handover.ring.settle.tailHandle⟩] .lent
              (handover.ring.epoch + 1)
          rw [SlotRing.writerHandles_lend invariant.settle, nobody, now]
          simp [Journal.handles] }

/-- A ring that was just drained has nothing for the device, but no underflow is raised
for that. -/
theorem settlesFirst_take (pending : handover.hasPendingEvent = true) :
    handover.SettlesFirst .take := by
  obtain ⟨noneFilled, noneLent, idle, next⟩ :=
    SlotRing.settle_of_pending (hasPendingEvent_iff.mp pending)
  have calm : handover.ring.settle.pending = none := handover.ring.pending_settle
  have empty : handover.readyRing.filled = 0 := by
    rw [← SlotRing.length_filledSlots]
    exact congrArg List.length noneFilled
  have unserved : handover.readyRing.primed = false := idle
  obtain ⟨-, -, none, same⟩ | ⟨-, primed, -, -⟩ | ⟨waiting, -, -⟩ := handover.take_cases
  · refine ⟨by rw [acquire, acquire, settle_settle], by rw [take, take, settle_settle],
      ?_, ?_, ?_, ?_⟩ <;>
      simp only [HandoverRequest.run, HandoverRequest.entries, hasPendingEvent, same, none]
    · exact next
    · exact congrArg Option.isSome calm
    · exact noneFilled
    · exact congrArg (List.map _) noneLent
  · simp [unserved] at primed
  · omega

/-- Whoever asks for a slot first settles what is pending. -/
theorem settlesFirst_of_asks (pending : handover.hasPendingEvent = true)
    (invariant : handover.ring.Invariant) {ask : HandoverRequest} (asks : ask.asks = true) :
    handover.SettlesFirst ask := by
  cases ask with
  | acquire => exact settlesFirst_acquire pending invariant
  | take => exact settlesFirst_take pending
  | _ => exact nomatch asks

/-! ## The barrier -/

theorem after_append (handover : Handover) (requests later : List HandoverRequest) :
    handover.after (requests ++ later) = (handover.after requests).after later :=
  List.foldl_append

theorem journal_append (handover : Handover) (requests later : List HandoverRequest) :
    handover.journal (requests ++ later) =
      handover.journal requests ++ (handover.after requests).journal later := by
  induction requests generalizing handover with
  | nil => rfl
  | cons request requests inductionHypothesis =>
      simp only [List.cons_append, journal, inductionHypothesis, after_cons, List.append_assoc]

/-- What an interruption after a row of requests keeps apart. -/
structure Barrier (start : Handover) (earlier : List HandoverRequest) (event : HandoverRequest) :
    Prop where
  /-- Whatever the device gets later, the writer got later, and nothing that the writer
  had got before is among it. -/
  nonePasses : ∀ later, ∀ entry ∈ (start.after (earlier ++ [event])).journal later,
    entry.passage = .delivered →
      (∃ lent ∈ (start.after (earlier ++ [event])).journal later,
        lent.passage = .lent ∧ lent.handle = entry.handle) ∧
      ∀ old ∈ start.journal (earlier ++ [event]), old.handle ≠ entry.handle
  /-- A restart has emptied the ring, and otherwise the interruption is pending. -/
  interrupted : (event = .restart ∧
      (start.after (earlier ++ [event])).ring =
        { capacity := (start.after earlier).ring.capacity
          epoch := (start.after earlier).ring.epoch + 1 }) ∨
    (start.after (earlier ++ [event])).hasPendingEvent = true
  /-- Whatever else is raised before somebody asks for a slot, all of it is settled by
  the first request for one, with one drain. -/
  settledOnce : (start.after (earlier ++ [event])).hasPendingEvent = true →
    ∀ between : List HandoverRequest,
      (∀ request ∈ between, request.asks = false ∧ request ≠ .restart) →
        (start.after (earlier ++ event :: between)).ring.epoch =
            (start.after (earlier ++ [event])).ring.epoch ∧
          ∀ ask : HandoverRequest, ask.asks = true →
            (start.after (earlier ++ event :: between)).SettlesFirst ask
  /-- The slot of the device stays with it, and away from the writer, until the device
  comes back. -/
  heldKept : ∀ index, (start.after (earlier ++ [event])).ring.held = some index →
    ∀ later : List HandoverRequest, (∀ request ∈ later, request.leavesDevice = true) →
      (start.after (earlier ++ event :: later)).ring.held = some index ∧
        ∀ grant after, (start.after (earlier ++ event :: later)).acquire = (.ok grant, after) →
          grant.handle.index ≠ index

/-- A delivery is of a slot that was lent in the same epoch. -/
theorem exists_lent_of_delivered {journal : Journal} {ring : SlotRing}
    (inOrder : journal.InOrder ring) {entry : JournalEntry} (noted : entry ∈ journal)
    (delivered : entry.passage = .delivered) :
    ∃ lent ∈ journal, lent.passage = .lent ∧ lent.epoch = entry.epoch ∧
      lent.handle = entry.handle := by
  have listed : entry.handle ∈ journal.handles .delivered entry.epoch :=
    List.mem_map_of_mem (List.mem_filter.mpr ⟨noted, by simp [delivered]⟩)
  have lent := (inOrder.publishedPrefix _).subset ((inOrder.deliveredPrefix _).subset listed)
  obtain ⟨other, found, same⟩ := List.mem_map.mp lent
  obtain ⟨there, kind, now⟩ : other ∈ journal ∧ other.passage = .lent ∧
      other.epoch = entry.epoch := by
    simpa using List.mem_filter.mp found
  exact ⟨other, there, kind, now, same⟩

/-- A delivery that is younger than a part of the journal has nothing to do with it: its
slot was lent after that part, and no slot in it has the same handle. -/
theorem apart_of_older {before later : Journal} {ring : SlotRing}
    (inOrder : Journal.InOrder (before ++ later) ring) {entry : JournalEntry}
    (noted : entry ∈ later) (delivered : entry.passage = .delivered)
    (older : ∀ old ∈ before, old.epoch < entry.epoch) :
    (∃ lent ∈ later, lent.passage = .lent ∧ lent.handle = entry.handle) ∧
      ∀ old ∈ before, old.handle ≠ entry.handle := by
  constructor
  · obtain ⟨lent, listed, kind, now, same⟩ :=
      exists_lent_of_delivered inOrder (List.mem_append_right _ noted) delivered
    refine ⟨lent, (List.mem_append.mp listed).resolve_left ?_, kind, same⟩
    intro early
    exact Nat.ne_of_lt (older lent early) now
  · intro old there equal
    have dated := (inOrder.dated old (List.mem_append_left _ there)).1
    have current := (inOrder.dated entry (List.mem_append_right _ noted)).1
    rw [equal, current] at dated
    exact Nat.ne_of_lt (older old there) dated.symm

/-- **Nothing that the writer got before an interruption reaches the device after it**,
the first request for a slot drains the ring once, and the device keeps its slot. -/
theorem interruption_is_barrier (slots : Slots) (elementsPerSlot : Nat)
    (nonempty : 0 < slots.capacity) (earlier : List HandoverRequest) (event : HandoverRequest)
    (interrupts : event.Interrupts ((create slots elementsPerSlot).after earlier)) :
    (create slots elementsPerSlot).Barrier earlier event := by
  have fresh := invariant_create slots elementsPerSlot nonempty
  have start : Journal.InOrder [] (create slots elementsPerSlot).ring := .empty rfl rfl
  generalize create slots elementsPerSlot = handover at *
  have invariant := invariant_after fresh
  have inOrder (requests : List HandoverRequest) :
      (handover.journal requests).InOrder (handover.after requests).ring :=
    inOrder_after start fresh requests
  have stepped : handover.after (earlier ++ [event]) = event.run (handover.after earlier) :=
    handover.after_append earlier [event]
  have behind (later : List HandoverRequest) :
      handover.after (earlier ++ event :: later) =
        (handover.after (earlier ++ [event])).after later := by
    rw [← after_append, List.append_assoc, List.singleton_append]
  refine ⟨?_, ?_, ?_, ?_⟩
  · intro later entry noted delivered
    have whole := inOrder (earlier ++ [event] ++ later)
    rw [journal_append] at whole
    refine apart_of_older whole noted delivered ?_
    -- The epochs up to the event are below that of the delivery.
    intro old listed
    have now := inOrder (earlier ++ [event])
    rw [journal_append, stepped] at now
    rw [journal_append] at listed
    simp only [journal, List.append_nil] at now listed
    rw [stepped] at noted
    exact (epoch_lt_of_interrupts interrupts (inOrder earlier) now listed).trans_le
      (settledEpoch_le_of_delivered noted delivered)
  · rcases pending_of_interrupts interrupts with rfl | pending
    · exact .inl ⟨rfl, by rw [stepped]; rfl⟩
    · exact .inr (by rwa [stepped])
  · intro pending between quiet
    obtain ⟨still, same⟩ := pending_after quiet pending
    rw [← behind] at still same
    exact ⟨same, fun ask asks => settlesFirst_of_asks still (invariant _) asks⟩
  · intro index held later leave
    rw [behind]
    exact (SlotsOwned.of_invariant (invariant (earlier ++ [event]))).heldKept index held later leave

/-- Two slots are with the writer and one is on air when a fault is raised.  The writer
publishes one of its slots after that, and a reset is asked for as well; what the device
gets then is the slot that the writer got anew. -/
theorem interruption_is_barrier_three :
    let handover := create (Slots.silent 3 1 4) 4
    let earlier : List HandoverRequest := [.acquire, .release ⟨0, 0⟩, .take, .acquire, .acquire]
    0 < (Slots.silent 3 1 4).capacity ∧
      (HandoverRequest.raise .overflow).Interrupts (handover.after earlier) ∧
      (handover.after (earlier ++ [.raise .overflow])).ring.held = some 0 ∧
      (handover.after (earlier ++ [.raise .overflow])).journal
          [.release ⟨1, 0⟩, .requestReset, .acquire, .release ⟨1, 1⟩, .take] =
        [⟨.published, 0, ⟨1, 0⟩⟩, ⟨.lent, 1, ⟨1, 1⟩⟩, ⟨.published, 1, ⟨1, 1⟩⟩,
          ⟨.delivered, 1, ⟨1, 1⟩⟩] ∧
      handover.Barrier earlier (.raise .overflow) :=
  ⟨by decide, trivial, by decide, by decide,
    interruption_is_barrier (Slots.silent 3 1 4) 4 (by decide)
      [.acquire, .release ⟨0, 0⟩, .take, .acquire, .acquire] (.raise .overflow) trivial⟩

end Handover

end DacStream
