import DacStream.Proofs.SessionRuns
import DacStream.Proofs.SlotCustody

/-!
# Who can still release a slot of the writer

Along a run of a session the book of the handles is kept from the answers of the
requests (`Custody.after`), and every request keeps the accounts.  Hence a slot of
the writer can be released by somebody unless it was given up
(`Session.outstanding_carried_iff`).  A slot that was dropped comes back with the
drain that is pending; a slot whose publication was refused does not
(`Session.refused_flush_strands_slot`), and as long as it is outstanding no younger
slot can be published (`Handover.release_refused_iff`).
-/

namespace DacStream

set_option autoImplicit false

/-! ## The book of a run -/

namespace Session

/-- The ring of the stream; without a stream it is empty. -/
def ring (session : Session) : SlotRing :=
  (session.stream?.map fun stream => stream.handover.ring).getD { capacity := 0 }

/-- The handle of the slot in work. -/
def workHandle? (session : Session) : Option Handle := session.stream?.bind Stream.workHandle?

end Session

/-- The book after a request, as the answer tells.  A new stream has a new book. -/
def SessionRequest.note (custody : Custody) (session : Session) : SessionRequest → Custody
  | .setUp request limits =>
      match (session.setUp request limits).1 with
      | .ok _ => {}
      | .error _ => custody
  | @write _ _ inputs count =>
      let (answer, later) := session.write inputs count
      custody.noteRefusal answer later.ring
  | .flush =>
      let (answer, later) := session.flush
      custody.noteFlush session.workHandle? answer later.ring
  | .acquireBuffer =>
      let (answer, later) := session.acquireBuffer
      custody.noteAcquisition answer later.ring
  | .releaseBuffer handle elements =>
      custody.noteRelease handle (session.releaseBuffer handle elements).1
  | .activate _ _ | .deactivate _ _ | .close _ | .fillBuffer _ _ | .requestReset | .signalFault _
  | .readStatus | .setHardwareTime _ _ | .transfer _ _ | .deviceStep _ | .runEnds _ => custody

/-- The book after a run. -/
def Custody.after (custody : Custody) (session : Session) : List SessionRequest → Custody
  | [] => custody
  | request :: requests => (request.note custody session).after (request.run session) requests

/-! ## Requests -/

namespace Custody

/-- The book accounts for the stream of a session, if it has one. -/
def KeepsSession (custody : Custody) (session : Session) : Prop :=
  ∀ stream, session.stream? = some stream → custody.Keeps stream

variable {custody : Custody} {stream : Stream} {session : Session}

theorem KeepsSession.active {run : Run} (keeps : custody.Keeps stream) :
    custody.KeepsSession (.active stream run) := by
  rintro other ⟨⟩
  exact keeps

theorem KeepsSession.configured (keeps : custody.Keeps stream) :
    custody.KeepsSession (.configured stream) := by
  rintro other ⟨⟩
  exact keeps

theorem keepsSession_idle (custody : Custody) : custody.KeepsSession .idle := by
  rintro other ⟨⟩

/-- Something that is done to the stream of a session, and that keeps the book. -/
theorem KeepsSession.map (keeps : custody.KeepsSession session) {later : Session}
    (change : Stream → Stream)
    (same : later.stream? = session.stream?.map change)
    (kept : ∀ stream, custody.Keeps stream → custody.Keeps (change stream)) :
    custody.KeepsSession later := by
  intro after has
  rw [same, Option.map_eq_some_iff] at has
  obtain ⟨before, there, rfl⟩ := has
  exact kept before (keeps before there)

theorem KeepsSession.write {α : Type} [Sample α] (keeps : custody.KeepsSession session)
    (inputs : List (List α)) (count : Nat) :
    ((SessionRequest.write inputs count).note custody session).KeepsSession
      ((SessionRequest.write inputs count).run session) := by
  rcases session with _ | stream | ⟨stream, ending | ending⟩
  · exact keeps
  · exact keeps
  · exact .active ((keeps stream rfl).write inputs count)
  · exact keeps

theorem KeepsSession.flush (keeps : custody.KeepsSession session) :
    (SessionRequest.flush.note custody session).KeepsSession
      (SessionRequest.flush.run session) := by
  rcases session with _ | stream | ⟨stream, run⟩
  · exact keeps
  · exact keeps
  · exact .active (keeps stream rfl).flush

theorem KeepsSession.acquireBuffer (keeps : custody.KeepsSession session) :
    (SessionRequest.acquireBuffer.note custody session).KeepsSession
      (SessionRequest.acquireBuffer.run session) := by
  rcases session with _ | stream | ⟨stream, ending | ending⟩
  · exact keeps
  · exact keeps
  · exact .active (keeps stream rfl).acquireBuffer
  · exact keeps

theorem KeepsSession.releaseBuffer (keeps : custody.KeepsSession session) (handle : Handle)
    (elements : Nat) :
    ((SessionRequest.releaseBuffer handle elements).note custody session).KeepsSession
      ((SessionRequest.releaseBuffer handle elements).run session) := by
  rcases session with _ | stream | ⟨stream, run⟩
  · exact keeps
  · exact keeps
  · exact .active ((keeps stream rfl).padAndRelease handle elements)

theorem KeepsSession.activate (keeps : custody.KeepsSession session) (flags : Int)
    (device : Device) : custody.KeepsSession (session.activate flags device).2.1 := by
  by_cases known : flags = 0
  · subst known
    cases session with
    | idle | active => exact keeps
    | configured stream =>
        have ready := (keeps stream rfl).restart
        obtain ⟨-, run, same | ⟨ending, -, same⟩⟩ := Session.activate_configured stream device
        all_goals rw [same]
        · exact .active ready
        · exact .active (ready.noteEnding ending)
  · unfold Session.activate
    rw [if_pos known]
    exact keeps

theorem KeepsSession.deactivate (keeps : custody.KeepsSession session) (flags : Int)
    (device : Device) : custody.KeepsSession (session.deactivate flags device).2.1 := by
  unfold Session.deactivate
  split
  · exact keeps
  · rcases session with _ | stream | ⟨stream, ending | ending⟩
    · exact keeps
    · exact keeps
    · exact .configured ((keeps stream rfl).noteEnding ending).restart
    · exact .configured (keeps stream rfl).restart

/-- A new stream and a new book: nothing is lent. -/
theorem KeepsSession.setUp (keeps : custody.KeepsSession session) (request : StreamRequest)
    (limits : DeviceLimits) :
    ((SessionRequest.setUp request limits).note custody session).KeepsSession
      ((SessionRequest.setUp request limits).run session) := by
  cases session with
  | active stream run => exact keeps
  | idle | configured =>
      simp only [SessionRequest.note, SessionRequest.run, Session.setUp]
      cases made : StreamConfig.create request limits with
      | error error => exact keeps
      | ok config =>
          refine .configured ⟨(Stream.Sound.create made).ring, by simp [handles], ?_, by simp⟩
          exact List.Perm.refl []

theorem KeepsSession.serve (keeps : custody.KeepsSession session) (deviceChannels : Nat)
    (request : TransferRequest) :
    custody.KeepsSession (session.serve deviceChannels request).2 := by
  rcases session with _ | stream | ⟨stream, ending | ending⟩
  · exact keeps
  · exact keeps
  · intro after has
    rw [Session.serve, Session.stream?_afterAnswer] at has
    obtain rfl := Option.some.inj has
    exact (keeps stream rfl).serve deviceChannels request
  · exact keeps

theorem KeepsSession.run (keeps : custody.KeepsSession session) (request : SessionRequest) :
    (request.note custody session).KeepsSession (request.run session) := by
  cases request with
  | setUp request limits => exact keeps.setUp request limits
  | activate flags device => exact keeps.activate flags device
  | deactivate flags device => exact keeps.deactivate flags device
  | close device =>
      rw [SessionRequest.run, Session.close_idle]
      exact keepsSession_idle _
  | write inputs count => exact keeps.write inputs count
  | flush => exact keeps.flush
  | acquireBuffer => exact keeps.acquireBuffer
  | releaseBuffer handle elements => exact keeps.releaseBuffer handle elements
  | fillBuffer index content =>
      refine keeps.map (fun stream => stream.fillBuffer index content) ?_ fun _ kept => kept
      cases session <;> rfl
  | requestReset =>
      refine keeps.map (fun stream => { stream with handover := stream.handover.requestReset }) ?_
        fun _ kept => Accounts.requestReset kept
      cases session <;> rfl
  | signalFault fault =>
      refine keeps.map (fun stream => { stream with handover := stream.handover.raise fault }) ?_
        fun _ kept => Accounts.raise kept fault
      cases session <;> rfl
  | readStatus =>
      refine keeps.map (fun stream => { stream with handover := stream.handover.pollFault.2 }) ?_
        fun _ kept => Accounts.of_same kept kept.invariant.statusTold rfl rfl id
      cases session <;> rfl
  | setHardwareTime time rate =>
      refine keeps.map (fun stream =>
        { stream with handover := stream.handover.setClock (ticksOfNanoseconds time rate) }) ?_
        fun _ kept => kept
      cases session <;> rfl
  | transfer deviceChannels request => exact keeps.serve deviceChannels request
  | deviceStep step =>
      refine keeps.map (fun stream => { stream with handover := (step.run stream.handover).2 }) ?_
        fun _ kept => accounts_deviceStep kept step
      cases session <;> rfl
  | runEnds ending =>
      rcases session with _ | stream | ⟨stream, ended | ended⟩
      · exact keeps
      · exact keeps
      · exact .active ((keeps stream rfl).noteEnding ending)
      · exact keeps

/-- Every run keeps the accounts. -/
theorem KeepsSession.after (keeps : custody.KeepsSession session)
    (requests : List SessionRequest) :
    (custody.after session requests).KeepsSession (session.after requests) := by
  induction requests generalizing custody session with
  | nil => exact keeps
  | cons request requests inductionHypothesis => exact inductionHypothesis (keeps.run request)

/-! ## Who can release what -/

variable {ring : SlotRing} {work : Option Handle}

theorem epoch_of_writerHandles {handle : Handle} (listed : handle ∈ ring.writerHandles) :
    handle.epoch = ring.epoch :=
  (SlotRing.mem_writerHandles_iff.mp listed).1

/-- Somebody can release a slot of the writer exactly if it was not given up. -/
theorem Accounts.carried_iff (accounts : custody.Accounts ring work) {handle : Handle}
    (writers : handle ∈ ring.writerHandles) :
    work = some handle ∨ handle ∈ custody.lent ↔
      handle ∉ custody.refused ++ custody.dropped := by
  have current := epoch_of_writerHandles writers
  have split : (ring.outstanding work ++
      custody.lent.filter (fun other => other.epoch = ring.epoch) ++
        (custody.refused ++ custody.dropped).filter fun other => other.epoch = ring.epoch).Perm
      ring.writerHandles := by
    have carried := accounts.carried
    rwa [handles, List.append_assoc custody.lent, List.filter_append,
      ← List.append_assoc] at carried
  have once := split.nodup_iff.mpr (nodup_writerHandles accounts.invariant)
  have apart := (List.nodup_append.mp once).2.2
  have carriers : handle ∈ ring.outstanding work ++
      custody.lent.filter (fun other => other.epoch = ring.epoch) ↔
        work = some handle ∨ handle ∈ custody.lent := by
    simp [SlotRing.outstanding, writers, current]
  have givenUp : handle ∈ (custody.refused ++ custody.dropped).filter
      (fun other => other.epoch = ring.epoch) ↔ handle ∈ custody.refused ++ custody.dropped := by
    simp [current]
  rw [← carriers, ← givenUp]
  constructor
  · exact fun carried lost => apart _ carried _ lost rfl
  · intro kept
    exact (List.mem_append.mp (split.mem_iff.mpr writers)).resolve_right kept

/-- What was given up in the current epoch is still the writer's. -/
theorem Accounts.writers_of_givenUp (accounts : custody.Accounts ring work) {handle : Handle}
    (givenUp : handle ∈ custody.refused ++ custody.dropped) (current : handle.epoch = ring.epoch) :
    handle ∈ ring.writerHandles := by
  refine accounts.carried.mem_iff.mp (List.mem_append_right _ (List.mem_filter.mpr ⟨?_, ?_⟩))
  · rw [handles, List.append_assoc]
    exact List.mem_append_right _ givenUp
  · simpa using current

end Custody

/-- A slot of the writer cannot be published exactly while an older one is
outstanding. -/
theorem Handover.release_refused_iff {handover : Handover} (invariant : handover.ring.Invariant)
    {handle : Handle} (writers : handle ∈ handover.ring.writerHandles) :
    (handover.release handle).1 = .error (.invalidHandle handle.index) ↔
      ∃ older, handover.ring.writerHandles.head? = some older ∧ older ≠ handle := by
  have current := Custody.epoch_of_writerHandles writers
  have holds : 0 < handover.ring.writing := by
    simpa [SlotRing.writerHandles, SlotRing.length_writerSlots] using List.length_pos_of_mem writers
  have first := SlotRing.writerHandles_eq_oldest_cons invariant holds
  simp only [first, List.head?_cons, Option.some.injEq, exists_eq_left']
  obtain ⟨stale, -⟩ | ⟨-, younger, same⟩ | ⟨-, oldest, same⟩ := handover.release_cases handle
  · exact absurd current stale
  · have other : handover.ring.oldestHandle ≠ handle := by
      rintro rfl
      simp [SlotRing.isOldest, SlotRing.oldestHandle, Nat.ne_of_gt holds] at younger
    simp [same, other]
  · have mine := (SlotRing.eq_oldestHandle current oldest).2
    rw [same]
    simp [← mine]

/-- The book of a run that starts idle. -/
def Custody.ofRun (requests : List SessionRequest) : Custody :=
  Custody.after {} .idle requests

/-- **A slot of the writer can be released by somebody exactly if the stream has not
given it up**, at the end of every run of a session: every slot of the writer is in
work or carried by a handle that was handed out and not yet released, if and only if
no slot was given up in the current epoch.  Those that were dropped are about to be
drained. -/
theorem Session.outstanding_carried_iff (requests : List SessionRequest) (stream : Stream)
    (reached : (Session.idle.after requests).stream? = some stream) :
    ((∀ handle ∈ stream.handover.ring.writerHandles,
        stream.workHandle? = some handle ∨ handle ∈ (Custody.ofRun requests).lent) ↔
      ∀ handle ∈ (Custody.ofRun requests).refused ++ (Custody.ofRun requests).dropped,
        handle.epoch ≠ stream.handover.ring.epoch) ∧
    ∀ handle ∈ (Custody.ofRun requests).dropped, handle.epoch = stream.handover.ring.epoch →
      stream.handover.hasPendingEvent = true := by
  have keeps : (Custody.ofRun requests).Keeps stream :=
    (Custody.keepsSession_idle {}).after requests stream reached
  refine ⟨⟨fun carried handle givenUp current => ?_, fun none handle writers => ?_⟩, ?_⟩
  · have writers := keeps.writers_of_givenUp givenUp current
    exact (keeps.carried_iff writers).mp (carried handle writers) givenUp
  · refine (keeps.carried_iff writers).mpr fun givenUp => ?_
    exact none handle givenUp (Custody.epoch_of_writerHandles writers)
  · exact fun handle listed current =>
      Option.isSome_iff_ne_none.mpr (keeps.droppedDrain handle listed current)

/-- An owner flushes a slot in work while the handle of an older slot is out. -/
def refusedFlush : List SessionRequest :=
  let device : Device := .scripted { limits := { channels := 1, alignment := 1 } }
  [.setUp { format := ⟨.u8, false⟩, options := { bufferLength? := some 2 } } device.limits,
    .activate 0 device, .acquireBuffer, .write [[(7 : UInt8)]] 1, .flush]

theorem Session.outstanding_carried_iff_refusedFlush :
    ∃ stream, (Session.idle.after refusedFlush).stream? = some stream ∧
      ((∀ handle ∈ stream.handover.ring.writerHandles,
          stream.workHandle? = some handle ∨ handle ∈ (Custody.ofRun refusedFlush).lent) ↔
        ∀ handle ∈ (Custody.ofRun refusedFlush).refused ++ (Custody.ofRun refusedFlush).dropped,
          handle.epoch ≠ stream.handover.ring.epoch) ∧
      ∀ handle ∈ (Custody.ofRun refusedFlush).dropped,
        handle.epoch = stream.handover.ring.epoch → stream.handover.hasPendingEvent = true :=
  ⟨_, rfl, Session.outstanding_carried_iff refusedFlush _ rfl⟩

/-- The refused flush leaves a slot behind that is not in work, that no handle stands
for, and that no event will drain. -/
theorem Session.refused_flush_strands_slot :
    (Session.idle.after refusedFlush).isTransmitting = true ∧
      ∃ stream, (Session.idle.after refusedFlush).stream? = some stream ∧
        stream.handover.hasPendingEvent = false ∧
        ∃ handle ∈ stream.handover.ring.writerHandles,
          stream.workHandle? ≠ some handle ∧ handle ∉ (Custody.ofRun refusedFlush).lent :=
  ⟨rfl, _, rfl, rfl, ⟨1, 1⟩, by decide, by decide, by decide⟩

end DacStream
