import DacStream.Proofs.RejectedRequests
import DacStream.Proofs.SlotInWork

/-!
# What one call of a write does

A write may have to wait for a slot, and others go on meanwhile.  Until it has one, the next
write begins where it would have begun before, and nothing is published
(`Stream.StandsStill`).  Once it has one, it fills as much of it as it can, and publishes it
if it is full (`Stream.WritesFragment`).  What others ask afterwards does not change that any
more (`Stream.PassesOn`).

Resets and faults are left out by looking at the end of a call alone: an event that happens
is pending or begins an epoch, and neither is taken back (`Stream.calm_between`).  If there
was none, a call that succeeds has written one fragment
(`Session.writeMeanwhile_fragment`).
-/

namespace DacStream

set_option autoImplicit false

/-! ## What others ask meanwhile -/

theorem Counters.released_countSettling (counters : Counters) (ring : SlotRing) :
    (counters.countSettling ring).released = counters.released := by
  unfold countSettling
  split <;> rfl

namespace HandoverRequest

/-- Whether others than the writer ask this of a hand-over that is in use. -/
def isOthers : HandoverRequest → Bool
  | .acquire | .release _ | .restart => false
  | .take | .skip | .requestReset | .raise _ | .pollFault | .setClock _ => true

/-- Others publish nothing. -/
theorem released_run {request : HandoverRequest} (others : request.isOthers = true)
    (handover : Handover) :
    (request.run handover).counters.released = handover.counters.released := by
  cases request with
  | acquire | release | restart => exact nomatch others
  | take =>
      have settled : handover.settle.counters.released = handover.counters.released :=
        handover.counters.released_countSettling _
      rw [run, Handover.counters_take, ← settled]
      split
      · split <;> rfl
      · rfl
  | skip | requestReset | pollFault | setClock => rfl
  | raise fault => cases fault <;> rfl

end HandoverRequest

namespace Stream

/-! ## What is left for the next call -/

section

variable {α : Type}

/-- Without the elements that were written, a write is asked for as many less. -/
theorem requested_drop (stream : Stream) (inputs : List (List α)) (count written : Nat) :
    stream.requested (inputs.map (·.drop (written * stream.config.format.width)))
        (count - written) = stream.requested inputs count - written := by
  unfold requested
  induction inputs generalizing count with
  | nil => rfl
  | cons input inputs inductionHypothesis =>
      have shorter : (input.drop (written * stream.config.format.width)).length /
          stream.config.format.width =
            input.length / stream.config.format.width - written := by
        rw [List.length_drop, Nat.mul_comm, Nat.sub_mul_div]
      have least : min (count - written) (input.length / stream.config.format.width - written) =
          min count (input.length / stream.config.format.width) - written := by
        omega
      simp only [List.map_cons, List.foldl_cons, shorter, least]
      exact inductionHypothesis _

theorem requested_of_config {stream later : Stream} (same : later.config = stream.config)
    (inputs : List (List α)) (count : Nat) :
    later.requested inputs count = stream.requested inputs count := by
  rw [requested, requested, same]

end

/-! ## Where a write begins -/

/-- How many elements the slot in work holds that the next write goes on with. -/
def offset (stream : Stream) : Nat := (stream.dropStale.inWork.map PartialSlot.filled).getD 0

variable {stream later : Stream}

theorem dropStale_of_nothing (nothing : stream.inWork = none) : stream.dropStale = stream := by
  obtain ⟨slot, work, -⟩ | ⟨same, -⟩ := stream.dropStale_cases
  · rw [nothing] at work
    exact nomatch work
  · exact same

theorem offset_of_nothing (nothing : stream.inWork = none) : stream.offset = 0 := by
  rw [offset, dropStale_of_nothing nothing, nothing]
  rfl

/-- A slot of the current epoch stays in work while nothing is pending. -/
theorem dropStale_of_current {slot : PartialSlot} (work : stream.inWork = some slot)
    (calm : stream.handover.ring.pending = none)
    (current : slot.handle.epoch = stream.handover.ring.epoch) : stream.dropStale = stream := by
  obtain ⟨found, there, stale, -⟩ | ⟨same, -⟩ := stream.dropStale_cases
  · obtain rfl := Option.some.inj (work.symm.trans there)
    rcases stale with event | outdated
    · rw [Handover.hasPendingEvent_iff] at event
      exact absurd calm event
    · exact absurd current outdated
  · exact same

/-- The next write begins behind what a slot of the current epoch holds already. -/
theorem offset_of_current {slot : PartialSlot} (work : stream.inWork = some slot)
    (calm : stream.handover.ring.pending = none)
    (current : slot.handle.epoch = stream.handover.ring.epoch) : stream.offset = slot.filled := by
  rw [offset, dropStale_of_current work calm current, work]
  rfl

theorem WorkFits.offset_lt (fits : stream.WorkFits) (sound : stream.Sound) :
    stream.offset < stream.config.elementsPerBuffer := by
  cases work : stream.dropStale.inWork with
  | none =>
      rw [offset, work]
      exact sound.elementsPerBuffer_pos
  | some slot =>
      have room := (fits.dropStale slot work).room
      rw [config_of_moves stream.moves_dropStale] at room
      rwa [offset, work]

/-- While nothing is pending, claiming a slot begins no epoch and publishes nothing. -/
theorem claimed_of_calm (calm : stream.handover.ring.pending = none) {slot : PartialSlot}
    (claimed : stream.dropStale.claim.1 = .ok slot) :
    slot.filled = stream.offset ∧
      stream.dropStale.claim.2.handover.ring.pending = none ∧
      stream.dropStale.claim.2.handover.ring.epoch = stream.handover.ring.epoch ∧
      stream.dropStale.claim.2.handover.counters = stream.handover.counters := by
  obtain ⟨found, work, same⟩ | ⟨-, error, -, same⟩ | ⟨nothing, grant, granted, same⟩ :=
    stream.dropStale.claim_cases
  all_goals rw [same] at claimed ⊢
  · obtain rfl := Except.ok.inj claimed
    refine ⟨?_, ?_⟩
    · rw [offset, work]
      rfl
    · show stream.dropStale.handover.ring.pending = none ∧ _ = _ ∧ stream.dropStale.handover.counters = _
      rw [handover_dropStale]
      exact ⟨calm, rfl, rfl⟩
  · exact nomatch claimed
  · obtain rfl := Except.ok.inj claimed
    rw [handover_dropStale] at granted ⊢
    have settled := Handover.settle_of_calm calm
    obtain ⟨_, -, asked⟩ | ⟨-, -, asked⟩ | ⟨-, -, tick, asked⟩ := stream.handover.acquire_cases
    all_goals rw [asked] at granted ⊢
    · exact nomatch granted
    · exact nomatch granted
    · rw [settled]
      refine ⟨?_, calm, rfl, rfl⟩
      rw [offset, nothing]
      rfl

/-- A slot of the current epoch is published by a release that succeeds. -/
theorem counters_release_of_current {handle : Handle}
    (current : handle.epoch = stream.handover.ring.epoch)
    (released : (stream.release handle).1 = .ok ()) :
    (stream.release handle).2.handover.counters = stream.handover.counters.countRelease := by
  rw [release_eq] at released ⊢
  obtain ⟨stale, -⟩ | ⟨-, -, same⟩ | ⟨-, -, same⟩ := stream.handover.release_cases handle
  · exact absurd current stale
  · rw [same] at released
    exact nomatch released
  · rw [same]

variable {α : Type} [Sample α] {inputs : List (List α)} {count : Nat}

/-- What a write does that is not disturbed: it writes as much as there is room for, and
publishes the slot if that fills it. -/
structure WritesFragment (stream : Stream) (wanted : Nat) (outcome : WriteOutcome)
    (later : Stream) : Prop where
  written : outcome.written = min wanted (stream.config.elementsPerBuffer - stream.offset)
  more : outcome.more = decide (outcome.written < wanted)
  published : later.handover.counters.released = stream.handover.counters.released +
    if stream.offset + outcome.written = stream.config.elementsPerBuffer then 1 else 0
  work : later.inWork.map PartialSlot.filled =
    if stream.offset + outcome.written = stream.config.elementsPerBuffer then none
    else some (stream.offset + outcome.written)
  current : ∀ slot, later.inWork = some slot → slot.handle.epoch = stream.handover.ring.epoch

theorem writesFragment_of_ok (calm : stream.handover.ring.pending = none)
    (some : 0 < stream.requested inputs count) (fits : stream.WorkFits) (sound : stream.Sound)
    {outcome : WriteOutcome} (wrote : (stream.write inputs count).1 = .ok outcome) :
    stream.WritesFragment (stream.requested inputs count) outcome
      (stream.write inputs count).2 := by
  obtain ⟨-, error, same, -⟩ | ⟨-, none, -⟩ | ⟨-, -, error, -, same⟩ | ⟨-, -, slot, claimed, same⟩ :=
    stream.write_cases inputs count
  · rw [same] at wrote
    exact nomatch wrote
  · exact absurd some (by rw [none]; exact Nat.lt_irrefl 0)
  · rw [same] at wrote
    exact nomatch wrote
  · obtain ⟨filled, -, epoch, counters⟩ := claimed_of_calm calm claimed
    have slotEpoch := epoch_of_claimed claimed
    obtain ⟨-, config, -⟩ := fits.claimed sound claimed
    have nothing := stream.dropStale.inWork_claim
    obtain ⟨written, counted, reached, placed, outcomes⟩ :=
      stream.dropStale.claim.2.writeInto_cases slot inputs (stream.requested inputs count)
    rw [config, filled] at counted
    have reachedCounters : reached.handover.counters = stream.handover.counters := by
      rw [placed]
      exact counters
    have reachedEpoch : slot.handle.epoch = reached.handover.ring.epoch := by
      rw [placed, ring_withSlots]
      exact slotEpoch
    rcases outcomes with ⟨full, answer⟩ | ⟨notFull, answer⟩ <;> rw [same, answer] at wrote ⊢
    · rw [config, filled] at full
      cases released : (reached.release slot.handle).1 with
      | error error =>
          rw [released] at wrote
          exact nomatch wrote
      | ok =>
          rw [released] at wrote
          obtain rfl := Except.ok.inj wrote
          have published := counters_release_of_current reachedEpoch released
          have nothingLeft : (reached.release slot.handle).2.inWork = none := by
            rw [release_eq, placed]
            exact nothing
          exact
            { written := counted
              more := rfl
              published := by rw [if_pos full, published, reachedCounters]; rfl
              work := by rw [if_pos full, nothingLeft]; rfl
              current := by
                intro slot work
                rw [nothingLeft] at work
                exact nomatch work }
    · rw [config, filled] at notFull
      obtain rfl := Except.ok.inj wrote
      exact
        { written := counted
          more := rfl
          published := by rw [if_neg notFull, reachedCounters, UInt64.add_zero]
          work := by rw [if_neg notFull, Option.map_some, filled]
          current := by
            rintro _ ⟨⟩
            exact slotEpoch.trans epoch }

/-- Behind a fragment, the next write begins where this one has ended. -/
theorem WritesFragment.offset_eq {wanted : Nat} {outcome : WriteOutcome}
    (fragment : stream.WritesFragment wanted outcome later)
    (room : stream.offset < stream.config.elementsPerBuffer)
    (calm : later.handover.ring.pending = none)
    (sameEpoch : later.handover.ring.epoch = stream.handover.ring.epoch) :
    later.offset = (stream.offset + outcome.written) % stream.config.elementsPerBuffer := by
  have work := fragment.work
  by_cases full : stream.offset + outcome.written = stream.config.elementsPerBuffer
  · rw [if_pos full, Option.map_eq_none_iff] at work
    rw [offset_of_nothing work, full, Nat.mod_self]
  · rw [if_neg full, Option.map_eq_some_iff] at work
    obtain ⟨slot, inWork, filled⟩ := work
    have current := (fragment.current slot inWork).trans sameEpoch.symm
    have below : stream.offset + outcome.written < stream.config.elementsPerBuffer := by
      have written := fragment.written
      omega
    rw [offset_of_current inWork calm current, filled, Nat.mod_eq_of_lt below]

/-- A write that finds no slot leaves nothing in work. -/
theorem write_of_timeout (timesOut : (stream.write inputs count).1 = .error .timeout) :
    stream.dropStale.inWork = none ∧ (stream.write inputs count).2.inWork = none ∧
      (stream.write inputs count).2.handover.counters.released =
        stream.handover.counters.released := by
  by_cases accepts : stream.Accepts inputs
  · obtain ⟨refused, -⟩ | ⟨-, -, same⟩ | ⟨-, -, error, failed, same⟩ | ⟨-, -, slot, -, same⟩ :=
      stream.write_cases inputs count
    · exact absurd accepts refused
    · rw [same] at timesOut
      exact nomatch timesOut
    · rw [same]
      obtain ⟨slot, -, claims⟩ | ⟨nothing, other, -, claims⟩ | ⟨-, grant, -, claims⟩ :=
        stream.dropStale.claim_cases
      · rw [claims] at failed
        exact nomatch failed
      · refine ⟨nothing, stream.dropStale.inWork_claim, ?_⟩
        rw [claims, handover_dropStale, Handover.counters_acquire]
        exact Counters.released_countSettling _ _
      · rw [claims] at failed
        exact nomatch failed
    · rw [same] at timesOut
      exact nomatch writeInto_error timesOut
  · obtain ⟨error, rejection, same⟩ := write_of_not_accepts accepts count
    rw [same] at timesOut
    obtain rfl := Except.error.inj timesOut
    exact nomatch rejection

end Stream

/-! ## Calls that wait -/

section

variable {σ α : Type} {attempt : σ → Except StreamError α × σ}

/-- What takes place after an answer finds what the attempt has left. -/
theorem attemptThrough_snd_of_answer {state : σ}
    (answers : (attempt state).1 ≠ .error .timeout) (events : List (σ → σ)) :
    (attemptThrough attempt events state).2 =
      events.foldl (fun reached next => next reached) (attempt state).2 := by
  cases events with
  | nil => rfl
  | cons event events =>
      unfold attemptThrough
      split
      · rename_i waited waits
        exact absurd (congrArg Prod.fst waits) answers
      · rename_i answer done _ same
        rw [same]

/-- Whoever is answered was answered at some moment, before which each attempt timed out.
What takes place later does not concern the answer. -/
theorem attemptThrough_answered (ready waiting : σ → Prop)
    (waits : ∀ state, ready state → (attempt state).1 = .error .timeout →
      waiting (attempt state).2)
    {events : List (σ → σ)}
    (goesOn : ∀ event ∈ events, ∀ state, waiting state → ready (event state))
    {state : σ} (now : ready state)
    (answered : (attemptThrough attempt events state).1 ≠ .error .timeout) :
    ∃ (reached : σ) (later : List (σ → σ)), ready reached ∧ (∀ event ∈ later, event ∈ events) ∧
      (attempt reached).1 = (attemptThrough attempt events state).1 ∧
      (attemptThrough attempt events state).2 =
        later.foldl (fun done next => next done) (attempt reached).2 := by
  induction events generalizing state with
  | nil => exact ⟨state, [], now, List.forall_mem_nil _, rfl, rfl⟩
  | cons event events inductionHypothesis =>
      by_cases timesOut : (attempt state).1 = .error .timeout
      · have again : attempt state = (.error .timeout, (attempt state).2) := Prod.ext timesOut rfl
        have waited := waits state now timesOut
        rw [attemptThrough_of_timeout attempt again] at answered ⊢
        obtain ⟨reached, later, there, listed, same, done⟩ := inductionHypothesis
          (fun other listed => goesOn other (List.mem_cons_of_mem event listed))
          (goesOn event List.mem_cons_self _ waited) answered
        exact ⟨reached, later, there, fun other late => List.mem_cons_of_mem event (listed other late),
          same, done⟩
      · exact ⟨state, event :: events, now, fun _ listed => listed,
          (attemptThrough_of_answer attempt timesOut).symm,
          attemptThrough_snd_of_answer timesOut _⟩

end

namespace Stream

variable {stream between later : Stream}

/-- Others have asked something of the hand-over of a stream. -/
structure PassesOn (stream later : Stream) : Prop where
  moves : stream.Moves later
  work : later.inWork = stream.inWork
  published : later.handover.counters.released = stream.handover.counters.released

theorem PassesOn.refl (stream : Stream) : stream.PassesOn stream := ⟨.refl, rfl, rfl⟩

theorem PassesOn.handOver (passesOn : stream.PassesOn between) {request : HandoverRequest}
    (others : request.isOthers = true) :
    stream.PassesOn { between with handover := request.run between.handover } where
  moves := passesOn.moves.trans (between.moves_handOver request)
  work := passesOn.work
  published := (HandoverRequest.released_run others _).trans passesOn.published

/-- The next write begins where it would have begun before, and nothing was published. -/
structure StandsStill (stream later : Stream) : Prop where
  moves : stream.Moves later
  fits : later.WorkFits
  published : later.handover.counters.released = stream.handover.counters.released
  offset : later.offset = stream.offset

variable {α : Type} [Sample α] {inputs : List (List α)} {count : Nat}

/-- A write that finds no slot changes nothing that matters to the next one. -/
theorem StandsStill.write (still : stream.StandsStill between) (sound : stream.Sound)
    (timesOut : (between.write inputs count).1 = .error .timeout) :
    stream.StandsStill (between.write inputs count).2 := by
  obtain ⟨before, after, published⟩ := write_of_timeout timesOut
  exact
    { moves := still.moves.trans (between.moves_write inputs count)
      fits := still.fits.write (sound.moves still.moves) inputs count
      published := published.trans still.published
      offset := by rw [offset_of_nothing after, ← still.offset, Stream.offset, before]; rfl }

theorem StandsStill.handOver (still : stream.StandsStill between) (nothing : between.inWork = none)
    {request : HandoverRequest} (others : request.isOthers = true) :
    stream.StandsStill { between with handover := request.run between.handover } where
  moves := still.moves.trans (between.moves_handOver request)
  fits := still.fits.of_moves (between.moves_handOver request) rfl
  published := (HandoverRequest.released_run others _).trans still.published
  offset := by rw [← still.offset, offset_of_nothing nothing]; exact offset_of_nothing nothing

/-- If nothing has happened to a stream in the end, then nothing had at any moment before. -/
theorem calm_between (before : stream.Moves between) (after : between.Moves later)
    (calm : later.handover.ring.pending = none)
    (sameEpoch : later.handover.ring.epoch = stream.handover.ring.epoch) :
    between.handover.ring.pending = none ∧
      between.handover.ring.epoch = stream.handover.ring.epoch := by
  have risen := epoch_le_of_moves before
  have bound := settledEpoch_le_of_moves after
  rw [Handover.settledEpoch, Handover.settledEpoch, SlotRing.epoch_settle,
    SlotRing.settle_of_not_pending _ calm, sameEpoch] at bound
  cases pending : between.handover.ring.pending with
  | none => exact ⟨rfl, by simp [pending] at bound; omega⟩
  | some event => simp [pending] at bound; omega

end Stream

namespace Session

variable {α : Type} [Sample α] {inputs : List (List α)} {count : Nat} {stream : Stream} {run : Run}
  {meanwhile : List HandoverRequest}

/-- A session whose next write begins where it would have begun before. -/
def StandsStill (stream : Stream) (run : Run) (session : Session) : Prop :=
  ∃ between, session = active between run ∧ stream.StandsStill between

/-- Such a session with nothing in work. -/
def StandsEmpty (stream : Stream) (run : Run) (session : Session) : Prop :=
  ∃ between, session = active between run ∧ stream.StandsStill between ∧ between.inWork = none

/-- A session after others have asked something of the hand-over. -/
def PassedOn (stream : Stream) (run : Run) (session : Session) : Prop :=
  ∃ later, session = active later run ∧ stream.PassesOn later

/-- A write that waits for a slot while others ask something of the hand-over, and goes on
asking until the next call. -/
def writeMeanwhile (inputs : List (List α)) (count : Nat) (meanwhile : List HandoverRequest)
    (session : Session) : Except StreamError WriteOutcome × Session :=
  attemptThrough (fun reached => reached.write inputs count) (meanwhile.map handOver) session

/-- A call that succeeds has waited for others, if at all, and then it was a write like any
other, after which others may have gone on. -/
theorem writeMeanwhile_ok (others : ∀ request ∈ meanwhile, request.isOthers = true)
    (sound : stream.Sound) (fits : stream.WorkFits) {outcome : WriteOutcome}
    (wrote : (writeMeanwhile inputs count meanwhile (active stream run)).1 = .ok outcome) :
    ∃ begun last, stream.StandsStill begun ∧ (begun.write inputs count).1 = .ok outcome ∧
      (begun.write inputs count).2.PassesOn last ∧
      (writeMeanwhile inputs count meanwhile (active stream run)).2 = active last run := by
  rcases run with ending | ending
  · have waits (session : Session) (ready : StandsStill stream (.untilStopped ending) session)
        (timesOut : (session.write inputs count).1 = .error .timeout) :
        StandsEmpty stream (.untilStopped ending) (session.write inputs count).2 := by
      obtain ⟨between, rfl, still⟩ := ready
      exact ⟨_, rfl, still.write sound timesOut, (Stream.write_of_timeout timesOut).2.1⟩
    have goesOn (event : Session → Session) (listed : event ∈ meanwhile.map handOver)
        (session : Session) (waiting : StandsEmpty stream (.untilStopped ending) session) :
        StandsStill stream (.untilStopped ending) (event session) := by
      obtain ⟨request, asked, rfl⟩ := List.mem_map.mp listed
      obtain ⟨between, rfl, still, nothing⟩ := waiting
      exact ⟨_, rfl, still.handOver nothing (others request asked)⟩
    have answered : (writeMeanwhile inputs count meanwhile
        (active stream (.untilStopped ending))).1 ≠ .error .timeout := by
      rw [wrote]
      exact nofun
    obtain ⟨_, later, ⟨begun, rfl, still⟩, listed, answer, done⟩ :=
      attemptThrough_answered (StandsStill stream (.untilStopped ending))
        (StandsEmpty stream (.untilStopped ending)) waits goesOn
        ⟨stream, rfl, .refl, fits, rfl, rfl⟩ answered
    have passed : PassedOn (begun.write inputs count).2 (.untilStopped ending)
        (later.foldl (fun done next => next done)
          (active (begun.write inputs count).2 (.untilStopped ending))) := by
      refine List.foldlRecOn (motive := PassedOn _ _) later _ ⟨_, rfl, .refl _⟩ ?_
      rintro _ ⟨between, rfl, passesOn⟩ event there
      obtain ⟨request, asked, rfl⟩ := List.mem_map.mp (listed event there)
      exact ⟨_, rfl, passesOn.handOver (others request asked)⟩
    obtain ⟨last, reached, passesOn⟩ := passed
    exact ⟨begun, last, still, answer.trans wrote, passesOn, done.trans reached⟩
  · have stopped : ((active stream (.over ending)).write inputs count).1 =
        .error .transmitterStopped := rfl
    have answers : ((active stream (.over ending)).write inputs count).1 ≠ .error .timeout := by
      rw [stopped]
      exact nofun
    have first := attemptThrough_of_ne_timeout answers (meanwhile.map handOver)
    exact nomatch wrote.symm.trans (first.trans stopped)

/-- If no event has happened by the end of a call, it has written a fragment. -/
theorem writeMeanwhile_fragment (others : ∀ request ∈ meanwhile, request.isOthers = true)
    (sound : stream.Sound) (fits : stream.WorkFits)
    (some : 0 < stream.requested inputs count) {outcome : WriteOutcome}
    (wrote : (writeMeanwhile inputs count meanwhile (active stream run)).1 = .ok outcome)
    (quiet : (writeMeanwhile inputs count meanwhile (active stream run)).2.ring.pending = none)
    (sameEpoch : (writeMeanwhile inputs count meanwhile (active stream run)).2.ring.epoch =
      stream.handover.ring.epoch) :
    ∃ later, (writeMeanwhile inputs count meanwhile (active stream run)).2 = active later run ∧
      stream.Moves later ∧ later.WorkFits ∧
      stream.WritesFragment (stream.requested inputs count) outcome later := by
  obtain ⟨begun, last, still, answer, passesOn, reached⟩ := writeMeanwhile_ok others sound fits wrote
  rw [reached] at quiet sameEpoch
  have soundBegun := sound.moves still.moves
  have moves := (begun.moves_write inputs count).trans passesOn.moves
  have config := Stream.config_of_moves still.moves
  have wanted : begun.requested inputs count = stream.requested inputs count :=
    Stream.requested_of_config config inputs count
  obtain ⟨calmBegun, epochBegun⟩ := Stream.calm_between still.moves moves quiet sameEpoch
  have fragment := Stream.writesFragment_of_ok calmBegun (wanted ▸ some) still.fits soundBegun answer
  refine ⟨last, reached, still.moves.trans moves,
    (still.fits.write soundBegun inputs count).of_moves passesOn.moves passesOn.work, ?_⟩
  exact
    { written := by rw [fragment.written, wanted, config, still.offset]
      more := by rw [fragment.more, wanted]
      published := by
        rw [passesOn.published, fragment.published, still.published, still.offset, config]
      work := by rw [passesOn.work, fragment.work, still.offset, config]
      current := by
        intro slot work
        rw [passesOn.work] at work
        rw [fragment.current slot work, epochBegun] }

end Session

end DacStream
