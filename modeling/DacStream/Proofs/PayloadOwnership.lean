import DacStream.Proofs.HandleBacking
import DacStream.Proofs.HandleLifetime
import DacStream.Proofs.QuietRequests

/-!
# Which payloads a session changes

Along a run of a session a book is kept of the handles that the caller has: those that
it was handed since the stream was set up and that were not published since
(`Session.handedBy`).  As long as the caller releases no others, the ring backs these
handles and the slot in work (`Session.Guards.after`).  Then no operation ever changes a
payload of a filled slot or of the slot that the device holds, whatever was drained or
activated anew in between (`Session.payload_changes_owned`).
-/

namespace DacStream

set_option autoImplicit false

/-! ## Runs of a caller who releases what it was handed -/

namespace SessionRequest

/-- The handles that the caller has after a request.  It was handed none of a new
stream. -/
def noteHanded (handed : List Handle) (session : Session) : SessionRequest → List Handle
  | .setUp request limits =>
      match (session.setUp request limits).1 with
      | .ok _ => []
      | .error _ => handed
  | .acquireBuffer => handedAfter handed session.acquireBuffer.1
  | .releaseBuffer handle elements =>
      handedAfterRelease handed handle session.counters
        (session.releaseBuffer handle elements).2.counters
  | _ => handed

/-- Whether a request releases no handle but one that the caller has. -/
def ReleasesHanded (handed : List Handle) : SessionRequest → Prop
  | .releaseBuffer handle _ => handle ∈ handed
  | _ => True

/-- Whether a request is one that writes to slots. -/
def writes : SessionRequest → Bool
  | @write _ _ _ _ | .flush | .acquireBuffer | .releaseBuffer _ _ => true
  | _ => false

/-- The accesses of a request that writes to slots. -/
def accesses (session : Session) : SessionRequest → List Access
  | @write _ _ inputs count =>
      match session with
      | .active stream (.untilStopped _) => stream.writeAccesses inputs count
      | _ => []
  | .flush =>
      match session with
      | .active stream _ => stream.flushAccesses
      | _ => []
  | .acquireBuffer =>
      match session with
      | .active stream (.untilStopped _) => stream.acquireAccesses
      | _ => []
  | .releaseBuffer handle elements =>
      match session with
      | .active stream _ => stream.releaseAccesses handle elements
      | _ => []
  | _ => []

end SessionRequest

theorem Stream.Drifts.guards {stream later : Stream} {handed : List Handle}
    (drifts : stream.Drifts later) (guards : stream.Guards handed) : later.Guards handed := by
  obtain ⟨requests, noRelease, reached, work⟩ := drifts
  have kept := SlotRing.Guards.after guards noRelease
  rw [Stream.Guards, reached, workHandle?]
  rcases work with same | nothing
  · rwa [same]
  · rw [nothing]
    exact .of_handed kept.invariant kept.handed_backed

namespace Session

/-- The handles that the caller has after a run. -/
def handedBy (handed : List Handle) (session : Session) : List SessionRequest → List Handle
  | [] => handed
  | request :: requests =>
      (request.run session).handedBy (request.noteHanded handed session) requests

/-- Whether the caller releases, throughout a run, only handles that it has. -/
def ReleasesHanded (handed : List Handle) (session : Session) : List SessionRequest → Prop
  | [] => True
  | request :: requests =>
      request.ReleasesHanded handed ∧
        (request.run session).ReleasesHanded (request.noteHanded handed session) requests

/-- What the session has in work and what the caller has is backed by the ring. -/
def Guards (session : Session) (handed : List Handle) : Prop :=
  ∀ stream, session.stream? = some stream → stream.Guards handed

variable {session : Session} {handed : List Handle}

theorem guards_idle (handed : List Handle) : idle.Guards handed := by
  rintro stream ⟨⟩

theorem Guards.active {stream : Stream} {run : Run} (guards : stream.Guards handed) :
    (Session.active stream run).Guards handed := by
  rintro other ⟨⟩
  exact guards

/-- A new stream has nothing in work and has handed out nothing. -/
theorem Guards.setUp (guards : session.Guards handed) (request : StreamRequest)
    (limits : DeviceLimits) :
    ((SessionRequest.setUp request limits).run session).Guards
      ((SessionRequest.setUp request limits).noteHanded handed session) := by
  cases session with
  | active stream run => exact guards
  | idle | configured =>
      simp only [SessionRequest.noteHanded, SessionRequest.run, Session.setUp]
      cases made : StreamConfig.create request limits with
      | error error => exact guards
      | ok config =>
          rintro stream ⟨⟩
          exact .of_handed (Stream.Sound.create made).ring (by simp [SlotRing.Backs])

theorem Guards.quiet (guards : session.Guards handed) {request : SessionRequest}
    (quiet : request.isQuiet = true) : (request.run session).Guards handed := by
  intro later reached
  obtain ⟨setsUp, -⟩ | follows := request.run_cases session
  · exact absurd setsUp (SessionRequest.not_setsUp_of_quiet quiet)
  · obtain ⟨stream, has, -⟩ := follows later reached
    exact (SessionRequest.drifts quiet has reached).guards (guards stream has)

theorem Guards.run (guards : session.Guards handed) {request : SessionRequest}
    (releases : request.ReleasesHanded handed) :
    (request.run session).Guards (request.noteHanded handed session) := by
  cases request with
  | setUp request limits => exact guards.setUp request limits
  | write inputs count =>
      rcases session with _ | stream | ⟨stream, ending | ending⟩
      · exact guards
      · exact guards
      · exact .active ((guards stream rfl).write inputs count).1
      · exact guards
  | flush =>
      rcases session with _ | stream | ⟨stream, run⟩
      · exact guards
      · exact guards
      · exact .active (guards stream rfl).flush
  | acquireBuffer =>
      rcases session with _ | stream | ⟨stream, ending | ending⟩
      · exact guards
      · exact guards
      · exact .active (guards stream rfl).acquireBuffer
      · exact guards
  | fillBuffer index content =>
      rcases session with _ | stream | ⟨stream, run⟩
      · exact guards
      · rintro later ⟨⟩
        exact guards stream rfl
      · exact .active (guards stream rfl)
  | releaseBuffer handle elements =>
      rcases session with _ | stream | ⟨stream, run⟩
      · exact fun later reached => nomatch reached
      · have kept : (SessionRequest.releaseBuffer handle elements).noteHanded handed
            (.configured stream) = handed := if_pos rfl
        rw [kept]
        exact guards
      · exact .active ((guards stream rfl).releaseBuffer releases elements)
  | activate | deactivate | close | requestReset | signalFault | readStatus | setHardwareTime
  | transfer | deviceStep | runEnds => exact guards.quiet rfl

/-- Whatever is asked of a session, its ring backs the slot in work and the handles of
the caller, as long as the caller releases only these. -/
theorem Guards.after (guards : session.Guards handed) {requests : List SessionRequest}
    (releases : session.ReleasesHanded handed requests) :
    (session.after requests).Guards (session.handedBy handed requests) := by
  induction requests generalizing session handed with
  | nil => exact guards
  | cons request requests inductionHypothesis =>
      exact inductionHypothesis (guards.run releases.1) releases.2

/-! ## What changes payloads -/

/-- The ways in which a request can change the payloads of a stream. -/
structure ChangesPayloads (session : Session) (handed : List Handle) (request : SessionRequest)
    (stream later : Stream) : Prop where
  /-- A request that writes to slots does so in its accesses, each of which keeps to the
  slots that are the writer's at that moment. -/
  writing : request.writes = true →
    stream.handover.Leads (request.accesses session) later.handover
  /-- A caller who fills a slot of which it has the handle fills one of the writer. -/
  filling : ∀ index content, request = .fillBuffer index content →
    ⟨index, stream.handover.ring.epoch⟩ ∈ handed →
      stream.handover.ChangesOwn later.handover.slots
  /-- Nothing else changes a payload. -/
  others : request.writes = false → (∀ index content, request ≠ .fillBuffer index content) →
    ∀ index channel,
      later.handover.slots.payload? index channel = stream.handover.slots.payload? index channel

variable {request : SessionRequest} {stream later : Stream}

theorem Guards.leads (guards : session.Guards handed) (writes : request.writes = true)
    (has : session.stream? = some stream) (reached : (request.run session).stream? = some later) :
    stream.handover.Leads (request.accesses session) later.handover := by
  have mine := guards stream has
  cases request with
  | write inputs count =>
      rcases session with _ | _ | ⟨stream, ending | ending⟩ <;> cases has <;> cases reached
      · exact .nil
      · exact (mine.write inputs count).2
      · exact .nil
  | flush =>
      rcases session with _ | _ | ⟨stream, run⟩ <;> cases has <;> cases reached
      · exact .nil
      · exact Stream.leads_flush mine.invariant
  | acquireBuffer =>
      rcases session with _ | _ | ⟨stream, ending | ending⟩ <;> cases has <;> cases reached
      · exact .nil
      · exact Stream.leads_acquireBuffer mine.invariant
      · exact .nil
  | releaseBuffer handle elements =>
      rcases session with _ | _ | ⟨stream, run⟩ <;> cases has <;> cases reached
      · exact .nil
      · exact Stream.leads_padAndRelease mine.invariant handle elements
  | _ => exact nomatch writes

theorem stream?_fillBuffer (session : Session) (index : Nat) (content : List Bytes) :
    (session.fillBuffer index content).stream? =
      session.stream?.map fun stream => stream.fillBuffer index content := by
  cases session <;> rfl

theorem changesOwn_fillBuffer (guards : stream.Guards handed) {index : Nat} {content : List Bytes}
    (mine : ⟨index, stream.handover.ring.epoch⟩ ∈ handed) :
    stream.handover.ChangesOwn (stream.fillBuffer index content).handover.slots :=
  Handover.changesOwn_modify guards.invariant ((guards.handed_backed _ mine).2 rfl) _

/-- **Payloads change in slots of the writer only**, in every run of a session whose
caller releases only handles that it was handed since the stream was set up and that
were not published since: whatever writes to slots changes, at the moment of each
access, slots of the writer in the current epoch, and neither a filled slot nor the slot
of the device.  The caller's own bytes stay there, too, if it has the handle of the slot
that it fills, and nothing else changes a payload. -/
theorem payload_changes_owned (history : List SessionRequest) (request : SessionRequest)
    (releases : idle.ReleasesHanded [] history)
    (sameStream : ¬ request.SetsUp (idle.after history))
    (has : (idle.after history).stream? = some stream)
    (reached : (request.run (idle.after history)).stream? = some later) :
    (idle.after history).ChangesPayloads (idle.handedBy [] history) request stream later := by
  have guards : (idle.after history).Guards (idle.handedBy [] history) :=
    (guards_idle []).after releases
  refine ⟨fun writes => guards.leads writes has reached, ?_, ?_⟩
  · rintro index content rfl mine
    rw [SessionRequest.run, stream?_fillBuffer, has] at reached
    obtain rfl := Option.some.inj reached
    exact changesOwn_fillBuffer (guards stream has) mine
  · intro reads unfilled index channel
    cases request with
    | write | flush | acquireBuffer | releaseBuffer => cases reads
    | fillBuffer index content => exact absurd rfl (unfilled index content)
    | setUp request limits =>
        rw [SessionRequest.run_setUp_of_refused sameStream, has] at reached
        obtain rfl := Option.some.inj reached
        rfl
    | _ => exact (SessionRequest.drifts rfl has reached).payload? index channel

/-- A write that completes a slot while the device holds one and another, which the
caller has filled, waits for it. -/
theorem payload_changes_owned_completed :
    let history : List SessionRequest :=
      [soleSetUp, .activate 0 soleDevice, .write [[(7 : UInt8)]] 1, .acquireBuffer,
        .fillBuffer 1 [[5, 6]], .releaseBuffer ⟨1, 1⟩ 2, .deviceStep .take,
        .write [[(9 : UInt8)]] 1]
    let request : SessionRequest := .write [[(8 : UInt8)]] 1
    idle.ReleasesHanded [] history ∧ ¬ request.SetsUp (idle.after history) ∧
      ∃ stream later, (idle.after history).stream? = some stream ∧
        (request.run (idle.after history)).stream? = some later ∧
        stream.handover.ring.filledSlots = [1] ∧ stream.handover.ring.held = some 0 ∧
        stream.handover.slots.payload? 2 0 = some [9, 128] ∧
        later.handover.slots.payload? 2 0 = some [9, 8] ∧
        (idle.after history).ChangesPayloads (idle.handedBy [] history) request stream later := by
  intro history request
  have releases : idle.ReleasesHanded [] history :=
    ⟨trivial, trivial, trivial, trivial, trivial, List.mem_singleton_self _, trivial, trivial, trivial⟩
  exact ⟨releases, id, _, _, rfl, rfl, by decide, by decide, by decide, by decide,
    payload_changes_owned history request releases id rfl rfl⟩

end Session

end DacStream
