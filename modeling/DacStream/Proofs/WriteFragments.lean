import DacStream.Proofs.WriteCalls

/-!
# Writing everything, call by call

A write accepts what goes into one slot, and says whether something is left.  A caller who
writes again as long as something is left gets everything in, in as many calls as there are
slots that the elements take up (`Session.loop_writes_everything`).

The loop follows from one call by induction on the calls that may be made.  A call that
leaves something has filled its slot, so that the next one begins with an empty slot and has
one slot less to fill (`WriteCall.fragmentCount_eq_succ`).  That makes a fragment in front of
others (`WriteCall.Fragments.next`), and a call that leaves nothing is the last one
(`WriteCall.Fragments.last`).
-/

namespace DacStream

set_option autoImplicit false

/-! ## The loop -/

namespace Session

/-- The slot in work of a session. -/
def inWork? (session : Session) : Option PartialSlot := session.stream?.bind Stream.inWork

/-- Where the next write of a session begins. -/
def offset (session : Session) : Nat := (session.stream?.map Stream.offset).getD 0

end Session

/-- One call of a loop that writes. -/
structure WriteCall where
  before : Session
  answer : Except StreamError WriteOutcome
  /-- The session when the next call is made. -/
  after : Session

/-- Writes until nothing is left or a call fails.  For each call that may be made there is
a row of what others ask of the hand-over before the next one. -/
def Session.writeAll {α : Type} [Sample α] (width : Nat) :
    List (List HandoverRequest) → List (List α) → Nat → Session → List WriteCall
  | [], _, _, _ => []
  | meanwhile :: schedule, inputs, count, session =>
      let (answer, after) := writeMeanwhile inputs count meanwhile session
      let rest :=
        match answer with
        | .ok ⟨written, true⟩ =>
            writeAll width schedule (inputs.map (·.drop (written * width))) (count - written) after
        | _ => []
      ⟨session, answer, after⟩ :: rest

namespace WriteCall

/-- The elements that were written. -/
def written (call : WriteCall) : Nat :=
  match call.answer with
  | .ok outcome => outcome.written
  | .error _ => 0

/-- The call did not fail, and no event has happened since it was made. -/
structure Undisturbed (call : WriteCall) : Prop where
  succeeds : ∃ outcome, call.answer = .ok outcome
  quiet : call.after.ring.pending = none
  sameEpoch : call.after.ring.epoch = call.before.ring.epoch

instance : DecidablePred Undisturbed := fun call =>
  decidable_of_iff (call.answer.isOk = true ∧ call.after.ring.pending = none ∧
      call.after.ring.epoch = call.before.ring.epoch) <| by
    constructor
    · rintro ⟨succeeds, quiet, sameEpoch⟩
      refine ⟨?_, quiet, sameEpoch⟩
      cases answer : call.answer with
      | error error =>
          rw [answer] at succeeds
          exact nomatch succeeds
      | ok outcome => exact ⟨outcome, rfl⟩
    · rintro ⟨⟨outcome, answer⟩, quiet, sameEpoch⟩
      exact ⟨by rw [answer]; rfl, quiet, sameEpoch⟩

/-- The elements that were written by some calls. -/
def total (calls : List WriteCall) : Nat := (calls.map written).sum

theorem total_cons (call : WriteCall) (calls : List WriteCall) :
    total (call :: calls) = call.written + total calls := List.sum_cons

/-- A call that goes on with a slot that holds `offset` elements, and has `remaining` elements
to write.  It tells whether `more` are left, and publishes the slot if it `fills` it. -/
structure Takes (call : WriteCall) (capacity offset remaining : Nat) (more fills : Bool) :
    Prop where
  begins : call.before.offset = offset
  some : 1 ≤ call.written
  written : call.written = min remaining (capacity - offset)
  answer : call.answer = .ok ⟨call.written, more⟩
  published : call.after.counters.released =
    call.before.counters.released + if fills then 1 else 0

/-- Behind a call there are so many elements in the slot in work, which is of the current
epoch; if there are none, no slot is in work. -/
structure Leaves (call : WriteCall) (elements : Nat) : Prop where
  work : call.after.inWork?.map PartialSlot.filled = if elements = 0 then none else some elements
  current : ∀ slot, call.after.inWork? = some slot →
    slot.handle.epoch = call.after.ring.epoch

/-- The number of slots that elements take up, if the first slot holds some already. -/
def fragmentCount (capacity offset wanted : Nat) : Nat := (offset + wanted + (capacity - 1)) / capacity

/-- The calls write everything in as few fragments as there can be, unless they are cut off
before. -/
structure Fragments (capacity offset wanted limit : Nat) (calls : List WriteCall) : Prop where
  length : calls.length = min limit (fragmentCount capacity offset wanted)
  each : ∀ (position : Nat) (call : WriteCall), calls[position]? = some call →
    call.Takes capacity ((offset + total (calls.take position)) % capacity)
      (wanted - total (calls.take position))
      (position + 1 < fragmentCount capacity offset wanted)
      (position + 1 < fragmentCount capacity offset wanted ∨ (offset + wanted) % capacity = 0)
  finished : fragmentCount capacity offset wanted ≤ limit → total calls = wanted ∧
    ∀ call, calls.getLast? = some call → call.Leaves ((offset + wanted) % capacity)

section

variable {capacity offset wanted limit : Nat} {call : WriteCall} {calls : List WriteCall}

theorem fragmentCount_pos (positive : 0 < capacity) (some : 0 < wanted) :
    0 < fragmentCount capacity offset wanted :=
  Nat.div_pos (by omega) positive

/-- What has room in the first slot is one fragment. -/
theorem fragmentCount_eq_one (some : 0 < wanted) (room : offset + wanted ≤ capacity) :
    fragmentCount capacity offset wanted = 1 :=
  Nat.div_eq_of_lt_le (by omega) (by omega)

/-- Otherwise one fragment goes into the first slot and the others into empty ones. -/
theorem fragmentCount_eq_succ (below : offset < capacity) (beyond : capacity < offset + wanted) :
    fragmentCount capacity offset wanted =
      fragmentCount capacity 0 (wanted - (capacity - offset)) + 1 := by
  have split : offset + wanted + (capacity - 1) =
      0 + (wanted - (capacity - offset)) + (capacity - 1) + capacity := by omega
  rw [fragmentCount, split, Nat.add_div_right _ (by omega)]
  rfl

theorem Fragments.nil (some : 0 < wanted) (positive : 0 < capacity) :
    Fragments capacity offset wanted 0 [] where
  length := (Nat.zero_min _).symm
  each := fun _ _ none => nomatch none
  finished := fun none => absurd (fragmentCount_pos positive some) (Nat.not_lt_of_le none)

/-- A call that writes everything is the last one. -/
theorem Fragments.last (below : offset < capacity) (some : 0 < wanted)
    (room : offset + wanted ≤ capacity)
    (takes : call.Takes capacity offset wanted false (decide (offset + wanted = capacity)))
    (leaves : call.Leaves ((offset + wanted) % capacity)) :
    Fragments capacity offset wanted (limit + 1) [call] := by
  have one : fragmentCount capacity offset wanted = 1 := fragmentCount_eq_one some room
  have fills : (offset + wanted) % capacity = 0 ↔ offset + wanted = capacity := by
    constructor
    · intro full
      by_contra part
      rw [Nat.mod_eq_of_lt (by omega)] at full
      omega
    · intro full
      rw [full, Nat.mod_self]
  refine ⟨?_, ?_, fun _ => ⟨?_, ?_⟩⟩
  · rw [one, Nat.min_eq_right (Nat.succ_le_succ (Nat.zero_le limit))]
    rfl
  · intro position other there
    cases position with
    | zero =>
        obtain rfl := Option.some.inj there
        simpa [one, total, Nat.mod_eq_of_lt below, fills] using takes
    | succ position => exact nomatch there
  · rw [total_cons, takes.written]
    exact Nat.min_eq_left (by omega)
  · rintro _ ⟨⟩
    exact leaves

/-- A call that fills its slot goes before those that write the rest. -/
theorem Fragments.next (below : offset < capacity) (beyond : capacity < offset + wanted)
    (takes : call.Takes capacity offset wanted true true)
    (rest : Fragments capacity 0 (wanted - (capacity - offset)) limit calls) :
    Fragments capacity offset wanted (limit + 1) (call :: calls) := by
  have count := fragmentCount_eq_succ below beyond
  have positive : 0 < fragmentCount capacity 0 (wanted - (capacity - offset)) :=
    fragmentCount_pos (by omega) (by omega)
  have written : call.written = capacity - offset := by
    rw [takes.written]
    omega
  have last : (offset + wanted) % capacity = (0 + (wanted - (capacity - offset))) % capacity := by
    rw [show offset + wanted = 0 + (wanted - (capacity - offset)) + capacity by omega,
      Nat.add_mod_right]
  refine ⟨?_, ?_, fun enough => ⟨?_, ?_⟩⟩
  · rw [List.length_cons, rest.length, count]
    omega
  · intro position other there
    cases position with
    | zero =>
        obtain rfl := Option.some.inj there
        have notLast : 0 + 1 < fragmentCount capacity offset wanted := by omega
        simpa [notLast, total, Nat.mod_eq_of_lt below] using takes
    | succ position =>
        have each := rest.each position other there
        rw [← last] at each
        have begins : offset + (capacity - offset + total (calls.take position)) =
            0 + total (calls.take position) + capacity := by omega
        rw [List.take_succ_cons, total_cons, written, begins, Nat.add_mod_right, ← Nat.sub_sub]
        simpa only [count, Nat.add_lt_add_iff_right] using each
  · have done := (rest.finished (by omega)).1
    rw [total_cons, written, done]
    omega
  · rw [last]
    cases calls with
    | nil =>
        have length := rest.length
        rw [List.length_nil] at length
        omega
    | cons second others =>
        rw [List.getLast?_cons_cons]
        exact (rest.finished (by omega)).2

end

end WriteCall

/-! ## Everything is written -/

section

variable {stream later : Stream} (run : Run) {wanted written : Nat} {more : Bool}

/-- What a call takes that has written a fragment, -/
theorem Stream.WritesFragment.takes (fragment : stream.WritesFragment wanted ⟨written, more⟩ later)
    (some : 0 < wanted) (below : stream.offset < stream.config.elementsPerBuffer) :
    (⟨.active stream run, .ok ⟨written, more⟩, .active later run⟩ : WriteCall).Takes
      stream.config.elementsPerBuffer stream.offset wanted more
      (decide (stream.offset + written = stream.config.elementsPerBuffer)) where
  begins := rfl
  some := by
    have counted := fragment.written
    show 1 ≤ written
    simp only at counted
    omega
  written := fragment.written
  answer := rfl
  published := by
    simp only [decide_eq_true_eq]
    exact fragment.published

/-- and what it leaves. -/
theorem Stream.WritesFragment.leaves (fragment : stream.WritesFragment wanted ⟨written, more⟩ later)
    (some : 0 < wanted) (below : stream.offset < stream.config.elementsPerBuffer)
    (sameEpoch : later.handover.ring.epoch = stream.handover.ring.epoch) :
    (⟨.active stream run, .ok ⟨written, more⟩, .active later run⟩ : WriteCall).Leaves
      ((stream.offset + written) % stream.config.elementsPerBuffer) where
  work := by
    have counted := fragment.written
    show later.inWork.map PartialSlot.filled = _
    rw [fragment.work]
    simp only at counted ⊢
    by_cases fills : stream.offset + written = stream.config.elementsPerBuffer
    · rw [if_pos fills, fills, Nat.mod_self, if_pos rfl]
    · have part : stream.offset + written < stream.config.elementsPerBuffer := by omega
      rw [if_neg fills, Nat.mod_eq_of_lt part, if_neg (by omega)]
  current := fun slot inWork => (fragment.current slot inWork).trans sameEpoch.symm

end

namespace Session

variable {α : Type} [Sample α] {inputs : List (List α)} {count : Nat} {stream : Stream} {run : Run}
  {schedule : List (List HandoverRequest)}

theorem fragments_writeAll (sound : stream.Sound) (fits : stream.WorkFits)
    (some : 0 < stream.requested inputs count)
    (others : ∀ meanwhile ∈ schedule, ∀ request ∈ meanwhile, request.isOthers = true)
    (undisturbed : ∀ call ∈ writeAll stream.config.format.width schedule inputs count
      (active stream run), call.Undisturbed) :
    WriteCall.Fragments stream.config.elementsPerBuffer stream.offset
      (stream.requested inputs count) schedule.length
      (writeAll stream.config.format.width schedule inputs count (active stream run)) := by
  induction schedule generalizing stream inputs count with
  | nil => exact .nil some sound.elementsPerBuffer_pos
  | cons meanwhile schedule inductionHypothesis =>
      have below := fits.offset_lt sound
      have othersNow := others meanwhile List.mem_cons_self
      have othersLater := fun later listed => others later (List.mem_cons_of_mem meanwhile listed)
      rcases asked : writeMeanwhile inputs count meanwhile (active stream run) with ⟨answer, after⟩
      simp only [writeAll, asked] at undisturbed ⊢
      obtain ⟨⟨⟨written, more⟩, rfl⟩, quiet, sameEpoch⟩ := undisturbed _ List.mem_cons_self
      obtain ⟨later, reached, moves, laterFits, fragment⟩ :=
        writeMeanwhile_fragment othersNow sound fits some (by rw [asked])
          (by rw [asked]; exact quiet) (by rw [asked]; exact sameEpoch)
      rw [asked] at reached
      obtain rfl : after = active later run := reached
      have takes := fragment.takes run some below
      have counted := fragment.written
      have left := fragment.more
      simp only at counted left
      by_cases beyond : stream.config.elementsPerBuffer <
          stream.offset + stream.requested inputs count
      · have full : written = stream.config.elementsPerBuffer - stream.offset := by omega
        have fills : stream.offset + written = stream.config.elementsPerBuffer := by omega
        obtain rfl : more = true := by
          rw [left, decide_eq_true_iff]
          omega
        have config := Stream.config_of_moves moves
        have offset : later.offset = 0 := by
          rw [fragment.offset_eq below quiet sameEpoch, fills, Nat.mod_self]
        have wanted : later.requested
            (inputs.map (·.drop (written * stream.config.format.width))) (count - written) =
              stream.requested inputs count - written := by
          rw [Stream.requested_of_config config, Stream.requested_drop]
        have rest := inductionHypothesis (sound.moves moves) laterFits
          (by rw [wanted]; omega) othersLater
          (by rw [config]; exact fun call listed => undisturbed call (List.mem_cons_of_mem _ listed))
        rw [wanted, config, offset] at rest
        rw [decide_eq_true fills] at takes
        exact .next below beyond takes (full ▸ rest)
      · obtain rfl : written = stream.requested inputs count := by omega
        obtain rfl : more = false := by
          rw [left, decide_eq_false_iff_not]
          exact Nat.lt_irrefl _
        exact .last below some (by omega) takes (fragment.leaves run some below sameEpoch)

/-- **A loop of writes accepts everything in the fewest calls**, whatever was asked of a session
since it was idle and however much the slot in work holds.  If no call fails and no event
happens, the elements are taken in fragments, each of them as large as its slot has room for;
every call but the last fills and publishes its slot, and the rest is left in work.

It need not be said that nothing is pending at the beginning and that the writer has no other
slot.  An event that is pending would begin an epoch in the first call, and older slots of the
writer would make the first call fail that fills its slot. -/
theorem loop_writes_everything {history : List SessionRequest}
    (reached : idle.after history = .active stream run)
    (some : 0 < stream.requested inputs count)
    (others : ∀ meanwhile ∈ schedule, ∀ request ∈ meanwhile, request.isOthers = true)
    (undisturbed : ∀ call ∈ writeAll stream.config.format.width schedule inputs count
      (active stream run), call.Undisturbed) :
    WriteCall.Fragments stream.config.elementsPerBuffer stream.offset
      (stream.requested inputs count) schedule.length
      (writeAll stream.config.format.width schedule inputs count (active stream run)) :=
  fragments_writeAll (sound_idle.after history stream (by rw [reached]; rfl))
    (workFits_idle.after sound_idle history stream (by rw [reached]; rfl)) some others undisturbed

/-- Four elements behind one, in slots of two, while the device takes a slot. -/
theorem loop_writes_everything_odd :
    let session := idle.after [soleSetUp, .activate 0 soleDevice, .write [[(1 : UInt8)]] 1]
    let calls := writeAll 1 [[], [.take], [.pollFault], []] [[(2 : UInt8), 3, 4, 5]] 4 session
    session.offset = 1 ∧ calls.length = 3 ∧ WriteCall.Fragments 2 1 4 4 calls := by
  intro session calls
  have fragments := @loop_writes_everything UInt8 _ [[2, 3, 4, 5]] 4 _ _
    [[], [.take], [.pollFault], []]
    [soleSetUp, .activate 0 soleDevice, .write [[(1 : UInt8)]] 1] rfl
    (by decide) (by decide) (by decide)
  exact ⟨by decide, by decide, fragments⟩

end Session

end DacStream
