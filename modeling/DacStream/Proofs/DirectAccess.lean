import DacStream.Proofs.RefusedReleases
import DacStream.Proofs.WriteCalls

/-!
# Slots that are filled in place

Two operations publish a slot that is not written to its end, and both make it silent behind
the elements it holds: the release of a slot that was filled in place, and the request for
such a slot, which flushes the slot in work.  On every channel the elements stay as they were,
and no other slot is touched (`Stream.PublishesPadded`).

The flush comes first.  Whatever becomes of the request then, it is as if it had been made of
the flushed stream (`Stream.acquireBuffer_of_flush`).  It may have to wait, and in the end it
may have got no slot.  But without resets and faults the queue only loses slots at its front
meanwhile, to the device, and the slot that is handed out comes behind all of them
(`Stream.HandsOut`).  A plain request leaves no time for resets or faults, so that it is always
answered in this order (`Stream.acquireBuffer_inOrder`).
-/

namespace DacStream

set_option autoImplicit false

/-! ## Slots that are published with silence behind their elements -/

theorem Bytes.take_muteFrom (bytes : Bytes) (start : Nat) :
    (bytes.muteFrom start).take start = bytes.take start := by
  have noSilence : min (start - (bytes.take start).length) (bytes.length - start) = 0 := by
    rw [List.length_take]
    omega
  rw [muteFrom, List.take_append, List.take_take, Nat.min_self, silence, List.take_replicate,
    noSilence, List.replicate_zero, List.append_nil]

namespace Stream

variable {stream later : Stream} {handle : Handle} {elements : Nat}

/-- A slot of the writer has been published.  Its first elements are as they were, and behind
them it is silent. -/
structure PublishesPadded (stream : Stream) (handle : Handle) (elements : Nat)
    (later : Stream) : Prop where
  /-- From the first of the writer's slots it has become the last of the filled ones. -/
  published : (stream.withSlots later.handover.slots).handover.Publishes handle later.handover
  kept : later = { stream with handover := later.handover }
  stamps : ∀ index, later.handover.slots.tick? index = stream.handover.slots.tick? index
  payloads : ∀ channel < stream.config.channelCount, ∃ before after,
    stream.handover.slots.payload? handle.index channel = some before ∧
      later.handover.slots.payload? handle.index channel = some after ∧
      before.length = stream.config.bufferLength ∧ after.length = stream.config.bufferLength ∧
      after.take (stream.byteAfter elements) = before.take (stream.byteAfter elements) ∧
      after.SilentFrom (stream.byteAfter elements)
  others : ∀ index ≠ handle.index, ∀ channel,
    later.handover.slots.payload? index channel = stream.handover.slots.payload? index channel

theorem publishesPadded (sound : stream.Sound)
    (first : stream.handover.ring.writerHandles.head? = some handle) (elements : Nat) :
    ∃ later, stream.padAndRelease handle elements = (.ok (), later) ∧
      stream.PublishesPadded handle elements later := by
  have mine : handle ∈ stream.handover.ring.writerHandles := List.mem_of_head? first
  obtain ⟨current, oldest⟩ := (SlotRing.head?_writerHandles_iff sound.ring).mp first
  rw [padAndRelease_eq, padded_of_mem sound.ring mine, release_eq]
  obtain ⟨stale, -⟩ | ⟨-, younger, -⟩ | ⟨-, -, same⟩ := (stream.withSlots
    (stream.handover.slots.mute handle.index (stream.byteAfter elements))).handover.release_cases
      handle
  · exact absurd current stale
  · exact Bool.noConfusion (oldest.symm.trans younger)
  -- The slot is muted before it is published, and publishing it changes no payload.
  rw [same]
  refine ⟨_, rfl, ?_⟩
  exact
    { published := Handover.publishes_release sound.ring current oldest
      kept := rfl
      stamps := fun index => Slots.tick?_modify _ _ _ index
      payloads := by
        intro channel within
        have inside := sound.ring.lt_of_mem_span (SlotRing.mem_writerHandles_iff.mp mine).2
        rw [sound.capacity] at inside
        obtain ⟨before, there, length⟩ := sound.memory.exists_payload inside within
        refine ⟨before, before.muteFrom (stream.byteAfter elements), there, ?_, length, ?_,
          before.take_muteFrom _, before.silentFrom_muteFrom (Nat.le_refl _)⟩
        · show (stream.handover.slots.mute _ _).payload? _ _ = _
          rw [Slots.payload?_mute, if_pos rfl, there, Option.map_some]
        · rw [Bytes.length_muteFrom, length]
      others := by
        intro index other channel
        show (stream.handover.slots.mute _ _).payload? _ _ = _
        rw [Slots.payload?_mute, if_neg (Ne.symm other)] }

/-! ## The slot in work comes first -/

theorem flush_unchanged (nothing : stream.inWork = none) : stream.flush = (.ok false, stream) := by
  have kept := dropStale_of_nothing nothing
  rw [flush_of_nothing (kept.symm ▸ nothing), kept]

/-- A request for a slot is as good as a flush and another request. -/
theorem acquireBuffer_of_flush {flushed : Stream} {done : Bool}
    (flushes : stream.flush = (.ok done, flushed)) (nothing : flushed.inWork = none) :
    stream.acquireBuffer = flushed.acquireBuffer := by
  rw [acquireBuffer, flushes, acquireBuffer, flush_unchanged nothing]

/-- With nothing in work, the request is passed on to the hand-over. -/
theorem acquireBuffer_of_nothing (nothing : stream.inWork = none) :
    ∃ lend : Grant → LentBuffer, (∀ grant, (lend grant).handle = grant.handle) ∧
      stream.acquireBuffer = (stream.handover.acquire.1.map lend,
        { stream with handover := stream.handover.acquire.2 }) := by
  refine ⟨fun grant => ⟨grant.handle, grant.tick, stream.config.elementsPerBuffer,
    (stream.handover.acquire.2.slots.cells[grant.handle.index]?.map Slot.payloads).getD []⟩,
    fun _ => rfl, ?_⟩
  rw [acquireBuffer, flush_unchanged nothing]
  rcases asked : stream.handover.acquire with ⟨error | grant, handover⟩ <;> simp only [asked] <;> rfl

/-- The slot in work is published as far as it is written, if it is all that the writer has. -/
theorem flush_of_current (sound : stream.Sound) {slot : PartialSlot}
    (work : stream.inWork = some slot) (calm : stream.handover.ring.pending = none)
    (current : slot.handle.epoch = stream.handover.ring.epoch)
    (only : stream.handover.ring.writerHandles = [slot.handle]) :
    ∃ flushed, stream.flush = (.ok true, flushed) ∧
      { stream with inWork := none }.PublishesPadded slot.handle slot.filled flushed := by
  have first : stream.handover.ring.writerHandles.head? = some slot.handle := by
    rw [only, List.head?_cons]
  have without : { stream with inWork := none }.Sound := sound.moves (stream.moves_work none)
  obtain ⟨flushed, answer, publishes⟩ := publishesPadded without first slot.filled
  have kept := dropStale_of_current work calm current
  refine ⟨flushed, ?_, publishes⟩
  rw [flush_of_work (kept ▸ work), kept, answer]
  rfl

end Stream

/-! ## What is handed out behind it -/

/-- The slot that was handed out, if one was. -/
def LentBuffer.handed : Except StreamError LentBuffer → List Handle
  | .ok buffer => [buffer.handle]
  | .error _ => []

/-- What has become of a ring, without resets and faults, by the time a request for a slot has
its answer, or times out.  The device has asked for slots meanwhile. -/
structure SlotRing.HandsOut (ring : SlotRing) (takes : Nat)
    (answer : Except StreamError LentBuffer) (later : SlotRing) : Prop where
  told : later.writerNotice = none
  failed : ∀ error, answer = .error error → error = .timeout
  /-- The device has got the slots from the front of the queue, and nothing has come to it. -/
  queue : ∃ sent : List Handle, sent.length ≤ takes ∧
    ring.filledHandles = sent ++ later.filledHandles
  lent : later.writerHandles = ring.writerHandles ++ LentBuffer.handed answer

namespace SlotRing.HandsOut

variable {ring : SlotRing} {takes : Nat} {answer : Except StreamError LentBuffer}

/-- Others ask something, and no event comes of it. -/
theorem others {handover : Handover} (handsOut : ring.HandsOut takes answer handover.ring)
    {request : HandoverRequest} (others : request.isOthers = true)
    (invariant : handover.ring.Invariant) (before : handover.ring.pending = none)
    (after : (request.run handover).ring.pending = none) :
    ring.HandsOut (takes + if request = .take then 1 else 0) answer (request.run handover).ring := by
  obtain ⟨told, failed, ⟨sent, few, queue⟩, lent⟩ := handsOut
  cases request with
  | acquire | release | restart => exact Bool.noConfusion others
  | requestReset | raise => exact absurd after (Option.some_ne_none _)
  | skip | pollFault | setClock => exact ⟨told, failed, ⟨sent, few, queue⟩, lent⟩
  | take =>
      have ready : handover.readyRing = handover.ring.giveBack := by
        rw [Handover.readyRing, handover.ring.settle_of_not_pending before]
      change handover.take.2.ring.pending = none at after
      show ring.HandsOut (takes + 1) answer handover.take.2.ring
      obtain ⟨-, -, -, same⟩ | ⟨-, -, -, same⟩ | ⟨waiting, -, same⟩ := handover.take_cases
      · rw [same, ready]
        exact ⟨told, failed, ⟨sent, Nat.le_succ_of_le few, queue⟩, lent⟩
      · -- Running dry while it is served is an underflow, and that would be pending now.
        rw [same] at after
        exact absurd after (Option.some_ne_none _)
      · rw [same]
        rw [ready] at waiting ⊢
        have shorter := filledHandles_eq_head_cons invariant.giveBack waiting
        refine ⟨told, failed, ⟨sent ++ [handover.ring.giveBack.headHandle], ?_, ?_⟩, ?_⟩
        · rw [List.length_append]
          exact Nat.succ_le_succ few
        · rw [queue, List.append_assoc, List.singleton_append, ← shorter]
          rfl
        · rw [writerHandles_deliver waiting, ← lent]
          rfl

/-- The writer asks for a slot, while nothing is pending. -/
theorem acquire {handover : Handover}
    (handsOut : ring.HandsOut takes (.error .timeout) handover.ring)
    (invariant : handover.ring.Invariant) (calm : handover.ring.pending = none)
    {lend : Grant → LentBuffer} (named : ∀ grant, (lend grant).handle = grant.handle) :
    ring.HandsOut takes (handover.acquire.1.map lend) handover.acquire.2.ring := by
  have settled := Handover.settle_of_calm calm
  obtain ⟨fault, notice, -⟩ | ⟨-, -, same⟩ | ⟨-, -, tick, same⟩ := handover.acquire_cases
  · rw [settled, handsOut.told] at notice
    exact nomatch notice
  · rw [same, settled]
    exact handsOut
  · rw [same, settled]
    refine ⟨handsOut.told, nofun, handsOut.queue, ?_⟩
    show handover.ring.lend.writerHandles = ring.writerHandles ++ [(lend _).handle]
    rw [named, writerHandles_lend invariant, handsOut.lent]
    exact congrArg (· ++ _) (List.append_nil _)

end SlotRing.HandsOut

namespace Stream

/-- What has become of a stream by the time a request for a slot has its answer, or times out.
Nothing was published meanwhile, and no payload has changed. -/
structure HandsOut (stream : Stream) (takes : Nat) (answer : Except StreamError LentBuffer)
    (later : Stream) : Prop where
  moves : stream.Moves later
  work : later.inWork = none
  published : later.handover.counters.released = stream.handover.counters.released
  payloads : ∀ index channel,
    later.handover.slots.payload? index channel = stream.handover.slots.payload? index channel
  /-- A reset or a fault would be pending, or would have begun an epoch. -/
  inOrder : later.handover.ring.pending = none →
    later.handover.ring.epoch = stream.handover.ring.epoch →
      stream.handover.ring.HandsOut takes answer later.handover.ring

namespace HandsOut

variable {stream between : Stream} {takes : Nat} {answer : Except StreamError LentBuffer}

theorem refl (nothing : stream.inWork = none)
    (told : stream.handover.ring.writerNotice = none) :
    stream.HandsOut 0 (.error .timeout) stream where
  moves := .refl
  work := nothing
  published := rfl
  payloads := fun _ _ => rfl
  inOrder := fun _ _ =>
    { told := told
      failed := fun _ same => (Except.error.inj same).symm
      queue := ⟨[], Nat.le_refl 0, rfl⟩
      lent := (List.append_nil _).symm }

theorem handOver (handsOut : stream.HandsOut takes answer between) (sound : stream.Sound)
    {request : HandoverRequest} (others : request.isOthers = true) :
    stream.HandsOut (takes + if request = .take then 1 else 0) answer
      { between with handover := request.run between.handover } where
  moves := handsOut.moves.trans (between.moves_handOver request)
  work := handsOut.work
  published := (HandoverRequest.released_run others _).trans handsOut.published
  payloads := fun index channel =>
    (between.handover.payload?_run request index channel).trans (handsOut.payloads index channel)
  inOrder := by
    intro calm sameEpoch
    obtain ⟨before, epoch⟩ :=
      calm_between handsOut.moves (between.moves_handOver request) calm sameEpoch
    exact (handsOut.inOrder before epoch).others others (sound.moves handsOut.moves).ring before calm

theorem acquireBuffer (handsOut : stream.HandsOut takes (.error .timeout) between)
    (sound : stream.Sound) :
    stream.HandsOut takes between.acquireBuffer.1 between.acquireBuffer.2 := by
  have moves := between.moves_acquireBuffer
  have nothing := between.inWork_acquireBuffer
  obtain ⟨lend, named, same⟩ := acquireBuffer_of_nothing handsOut.work
  rw [same] at moves nothing ⊢
  exact
    { moves := handsOut.moves.trans moves
      work := nothing
      published := by
        rw [← handsOut.published, Handover.counters_acquire]
        exact Counters.released_countSettling _ _
      payloads := fun index channel =>
        (between.handover.payload?_run .acquire index channel).trans
          (handsOut.payloads index channel)
      inOrder := by
        intro calm sameEpoch
        obtain ⟨before, epoch⟩ := calm_between handsOut.moves moves calm sameEpoch
        exact (handsOut.inOrder before epoch).acquire (sound.moves handsOut.moves).ring before named }

end HandsOut

/-- With nothing in work and nothing pending, a plain request is answered in order: the queue
stays as it is, and the slot that is handed out comes behind all the others. -/
theorem acquireBuffer_inOrder {stream : Stream} (nothing : stream.inWork = none)
    (invariant : stream.handover.ring.Invariant) (calm : stream.handover.ring.pending = none)
    (told : stream.handover.ring.writerNotice = none) :
    stream.handover.ring.HandsOut 0 stream.acquireBuffer.1
      stream.acquireBuffer.2.handover.ring := by
  obtain ⟨lend, named, same⟩ := acquireBuffer_of_nothing nothing
  rw [same]
  exact ((HandsOut.refl nothing told).inOrder calm rfl).acquire invariant calm named

end Stream

namespace Session

variable {stream between : Stream} {run : Run} {takes : Nat}
  {answer : Except StreamError LentBuffer} {meanwhile : List HandoverRequest}

/-- A request for a slot that waits while others ask something of the hand-over, and goes on
asking until the next call. -/
def acquireMeanwhile (meanwhile : List HandoverRequest) (session : Session) :
    Except StreamError LentBuffer × Session :=
  attemptThrough acquireBuffer (meanwhile.map handOver) session

theorem count_take_cons (request : HandoverRequest) (meanwhile : List HandoverRequest) :
    (request :: meanwhile).count .take =
      (if request = .take then 1 else 0) + meanwhile.count .take := by
  rw [List.count_cons, Nat.add_comm]
  simp only [beq_iff_eq]

/-- Others ask something, one after the other. -/
theorem handsOut_handOver (handsOut : stream.HandsOut takes answer between) (sound : stream.Sound)
    (others : ∀ request ∈ meanwhile, request.isOthers = true) :
    ∃ later, (meanwhile.map handOver).foldl (fun reached next => next reached)
        (active between run) = active later run ∧
      stream.HandsOut (takes + meanwhile.count .take) answer later := by
  induction meanwhile generalizing between takes with
  | nil => exact ⟨between, rfl, handsOut⟩
  | cons request meanwhile inductionHypothesis =>
      rw [count_take_cons, ← Nat.add_assoc]
      exact inductionHypothesis (handsOut.handOver sound (others request List.mem_cons_self))
        fun other listed => others other (List.mem_cons_of_mem request listed)

theorem acquireBuffer_active (stream : Stream) (ending : RunEnding) :
    (active stream (.untilStopped ending)).acquireBuffer =
      (stream.acquireBuffer.1, active stream.acquireBuffer.2 (.untilStopped ending)) := rfl

/-- A call that has asked for a slot ends behind what a stream had published before. -/
def EndsBehind (stream : Stream) (run : Run) (takes : Nat)
    (call : Except StreamError LentBuffer × Session) : Prop :=
  ∃ later, call.2 = active later run ∧ stream.HandsOut takes call.1 later

/-- A call that has asked for a slot leaves the queue as a stream had it, and the slot that it
was handed comes behind all the others. -/
def AnswersInOrder (stream : Stream) (run : Run)
    (call : Except StreamError LentBuffer × Session) : Prop :=
  ∃ later, call.2 = active later run ∧
    stream.handover.ring.HandsOut 0 call.1 later.handover.ring

/-- A request waits as long as it times out, and others go on when it does not. -/
theorem endsBehind_acquireMeanwhile (ending : RunEnding)
    (handsOut : stream.HandsOut takes (.error .timeout) between)
    (sound : stream.Sound) (others : ∀ request ∈ meanwhile, request.isOthers = true) :
    EndsBehind stream (.untilStopped ending) (takes + meanwhile.count .take)
      (acquireMeanwhile meanwhile (active between (.untilStopped ending))) := by
  induction meanwhile generalizing between takes with
  | nil => exact ⟨_, rfl, handsOut.acquireBuffer sound⟩
  | cons request meanwhile inductionHypothesis =>
      have asked := handsOut.acquireBuffer sound
      by_cases timesOut : between.acquireBuffer.1 = .error .timeout
      · have waits : (active between (.untilStopped ending)).acquireBuffer =
            (.error .timeout, active between.acquireBuffer.2 (.untilStopped ending)) := by
          rw [acquireBuffer_active, timesOut]
        rw [timesOut] at asked
        rw [acquireMeanwhile, List.map_cons, attemptThrough_of_timeout acquireBuffer waits,
          count_take_cons, ← Nat.add_assoc]
        -- A request that timed out has handed out nothing, so it can be made again.
        exact inductionHypothesis (asked.handOver sound (others request List.mem_cons_self))
          fun other listed => others other (List.mem_cons_of_mem request listed)
      · have answers : ((active between (.untilStopped ending)).acquireBuffer).1 ≠
            .error .timeout := timesOut
        obtain ⟨later, reached, after⟩ := handsOut_handOver asked sound others
        refine ⟨later, (attemptThrough_snd_of_answer answers _).trans reached, ?_⟩
        rw [acquireMeanwhile, attemptThrough_of_ne_timeout answers]
        exact after

/-- The slot in work is out of the way before the request begins to wait. -/
theorem acquireMeanwhile_of_flush {ending : RunEnding} {flushed : Stream} {done : Bool}
    (flushes : stream.flush = (.ok done, flushed)) (nothing : flushed.inWork = none)
    (meanwhile : List HandoverRequest) :
    acquireMeanwhile meanwhile (active stream (.untilStopped ending)) =
      acquireMeanwhile meanwhile (active flushed (.untilStopped ending)) := by
  have same : (active stream (.untilStopped ending)).acquireBuffer =
      (active flushed (.untilStopped ending)).acquireBuffer := by
    rw [acquireBuffer_active, acquireBuffer_active, Stream.acquireBuffer_of_flush flushes nothing]
  cases meanwhile with
  | nil => exact same
  | cons =>
      rw [acquireMeanwhile, acquireMeanwhile, List.map_cons, attemptThrough, attemptThrough, same]

/-- **Direct access publishes exactly what was filled**, whatever was asked of a session since
it was idle.

If the writer releases its oldest slot, with any number of elements, the slot is published and
silent behind them.

If a slot is asked for while the device transmits, no event is pending, and the slot in work is
all that the writer has, then the slot in work is published before anything else, silent
behind what was written.  A plain request changes nothing else in the queue, and the slot that
it hands out comes behind all that is queued.  It does not matter if the request has to wait,
what others ask meanwhile, and whether there is a slot in the end.  If there is none, the next
call goes on where this one has ended. -/
theorem direct_access_publishes {history : List SessionRequest}
    (reached : idle.after history = .active stream run) :
    (∀ handle elements, stream.handover.ring.writerHandles.head? = some handle →
      ∃ later, (active stream run).releaseBuffer handle elements = (.ok (), active later run) ∧
        stream.PublishesPadded handle elements later) ∧
    ∀ slot, (active stream run).isTransmitting = true →
      stream.handover.hasPendingEvent = false → stream.inWork = some slot →
      stream.handover.ring.writerHandles = [slot.handle] →
      ∃ flushed, { stream with inWork := none }.PublishesPadded slot.handle slot.filled flushed ∧
        AnswersInOrder flushed run (active stream run).acquireBuffer ∧
        ∀ meanwhile : List HandoverRequest, (∀ request ∈ meanwhile, request.isOthers = true) →
          let call := acquireMeanwhile meanwhile (active stream run)
          EndsBehind flushed run (meanwhile.count .take) call ∧
            (call.1 = .error .timeout → ∀ again : List HandoverRequest,
              (∀ request ∈ again, request.isOthers = true) →
                EndsBehind flushed run (meanwhile.count .take + again.count .take)
                  (acquireMeanwhile again call.2)) := by
  have sound : stream.Sound := sound_idle.after history stream (by rw [reached]; rfl)
  have informed : stream.Informed := informed_idle.after history stream (by rw [reached]; rfl)
  refine ⟨fun handle elements first => ?_, fun slot transmits noEvent work only => ?_⟩
  · obtain ⟨later, answer, publishes⟩ := Stream.publishesPadded sound first elements
    refine ⟨later, ?_, publishes⟩
    rw [releaseBuffer, whenActive, answer]
  · rcases run with ending | ending
    · have calm := Handover.hasPendingEvent_eq_false_iff.mp noEvent
      have current : slot.handle.epoch = stream.handover.ring.epoch :=
        Custody.epoch_of_writerHandles (only ▸ List.mem_singleton_self _)
      obtain ⟨flushed, flushes, publishes⟩ := Stream.flush_of_current sound work calm current only
      have soundFlushed : flushed.Sound := by
        have kept := sound.moves stream.moves_flush
        rwa [flushes] at kept
      have nothing : flushed.inWork = none := by rw [publishes.kept]
      have told : flushed.handover.ring.writerNotice = none := by
        rw [publishes.published.kept]
        exact (informed slot work).told current calm
      have calmFlushed : flushed.handover.ring.pending = none := by
        rw [publishes.published.kept]
        exact calm
      have inOrder : AnswersInOrder flushed (.untilStopped ending)
          (active stream (.untilStopped ending)).acquireBuffer := by
        rw [acquireBuffer_active, Stream.acquireBuffer_of_flush flushes nothing]
        exact ⟨_, rfl, Stream.acquireBuffer_inOrder nothing soundFlushed.ring calmFlushed told⟩
      refine ⟨flushed, publishes, inOrder, fun meanwhile others => ?_⟩
      have waited := endsBehind_acquireMeanwhile ending (.refl nothing told) soundFlushed others
      rw [Nat.zero_add, ← acquireMeanwhile_of_flush flushes nothing] at waited
      refine ⟨waited, fun timesOut again othersAgain => ?_⟩
      obtain ⟨later, ended, handsOut⟩ := waited
      rw [timesOut] at handsOut
      rw [ended]
      exact endsBehind_acquireMeanwhile ending handsOut soundFlushed othersAgain
    · exact Bool.noConfusion transmits

/-- The last slot of a full ring is in work.  It can be released with any number of elements.
If another slot is asked for instead, there is none before the device has come twice. -/
theorem direct_access_publishes_full :
    let session := idle.after
      [soleSetUp, .activate 0 soleDevice, .write [[(1 : UInt8), 2]] 2, .write [[(3 : UInt8), 4]] 2,
        .write [[(5 : UInt8), 6]] 2, .write [[(7 : UInt8)]] 1]
    let once := acquireMeanwhile [.take] session
    let again := acquireMeanwhile [.take] once.2
    ∃ stream run released flushed, session = active stream run ∧
      stream.handover.ring.writerHandles = [⟨3, 1⟩] ∧ stream.inWork = some ⟨⟨3, 1⟩, 1⟩ ∧
      session.releaseBuffer ⟨3, 1⟩ 9 = (.ok (), active released run) ∧
      stream.PublishesPadded ⟨3, 1⟩ 9 released ∧
      { stream with inWork := none }.PublishesPadded ⟨3, 1⟩ 1 flushed ∧
      AnswersInOrder flushed run session.acquireBuffer ∧
      once.1 = .error .timeout ∧ EndsBehind flushed run 1 once ∧
      once.2.ring.filledHandles = [⟨1, 1⟩, ⟨2, 1⟩, ⟨3, 1⟩] ∧ once.2.ring.writerHandles = [] ∧
      EndsBehind flushed run 2 again ∧ again.2.ring.filledHandles = [⟨2, 1⟩, ⟨3, 1⟩] ∧
      again.2.ring.writerHandles = [⟨0, 1⟩] := by
  intro session once again
  obtain ⟨releases, acquires⟩ := direct_access_publishes (rfl : session = active _ _)
  obtain ⟨released, answer, publishes⟩ := releases ⟨3, 1⟩ 9 (by decide)
  obtain ⟨flushed, flushes, inOrder, waits⟩ :=
    acquires ⟨⟨3, 1⟩, 1⟩ (by decide) (by decide) (by decide) (by decide)
  obtain ⟨ends, goesOn⟩ := waits [.take] (by decide)
  have timesOut : once.1 = .error .timeout := by decide
  exact ⟨_, _, released, flushed, rfl, by decide, by decide, answer, publishes, flushes, inOrder,
    timesOut, ends, by decide, by decide, goesOn timesOut [.take] (by decide), by decide,
    by decide⟩

end Session

end DacStream
