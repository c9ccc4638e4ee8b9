import DacStream.Proofs.HandleLifetime
import DacStream.Proofs.SessionsSideBySide
import DacStream.Proofs.SlotDates

/-!
# No stale samples

A reset that is asked for, a fault that is raised and the end of an activation interrupt
the stream of a session.  What was written before is in the memory of the slots even
then, and slots may be filled or in work.

Along every run the dates of what a stream keeps are no later than its ring
(`Session.Dated.after`), so that an interruption leaves nothing that matters
(`Session.Dated.interrupted`).  From there on the session runs like one with
any other bytes in its memory: it answers every transfer as that one does, and a write
begins in a new slot (`Session.no_stale_samples`).
-/

namespace DacStream

set_option autoImplicit false

/-! ## Interruptions -/

namespace SessionRequest

/-- Whether a request raises a fault, which those that write never do. -/
def RaisesFault (session : Session) (request : SessionRequest) : Prop :=
  request.isQuiet = true ∧ (request.run session).counters.raised ≠ session.counters.raised

/-- Whether a request interrupts the stream of a session: it asks for a reset, raises a
fault or ends the activation. -/
def Interrupts (session : Session) (request : SessionRequest) : Prop :=
  request = .requestReset ∨ request.RaisesFault session ∨ request.EndsActivation session

/-- Whether a request is a write that accepts elements. -/
def WritesSome (session : Session) : SessionRequest → Prop
  | @write _ _ inputs count =>
      ∃ outcome, (session.write inputs count).1 = .ok outcome ∧ 0 < outcome.written
  | _ => False

variable {request : SessionRequest} {session : Session} {stream later : Stream}

theorem pending_noteEnding {ending : RunEnding}
    (raised : (stream.noteEnding ending).handover.counters.raised ≠
      stream.handover.counters.raised) :
    (stream.noteEnding ending).handover.ring.pending ≠ none := by
  cases ending with
  | failed error => exact Option.some_ne_none _
  | returned | crashed => exact absurd rfl raised

theorem pending_serve {deviceChannels : Nat} {request : TransferRequest}
    (raised : (stream.serve deviceChannels request).2.handover.counters.raised ≠
      stream.handover.counters.raised) :
    (stream.serve deviceChannels request).2.handover.ring.pending ≠ none := by
  cases served : request.isServed stream.handover.slots.channelLength with
  | true =>
      simp only [Stream.serve, Feed.transfer_of_served _ _ _ served] at raised ⊢
      exact stream.handover.raised_take.resolve_left raised
  | false =>
      simp only [Stream.serve, Feed.transfer_of_refused _ _ _ served]
      exact Option.some_ne_none _

theorem pending_activate {flags : Int} {device : Device} (has : session.stream? = some stream)
    (reached : (session.activate flags device).2.1.stream? = some later)
    (raised : later.handover.counters.raised ≠ stream.handover.counters.raised) :
    later.handover.ring.pending ≠ none := by
  by_cases known : flags = 0
  · subst known
    rcases session with _ | stream | ⟨stream, run⟩ <;> cases has
    · obtain ⟨-, run, same | ⟨ending, -, same⟩⟩ := Session.activate_configured stream device
      all_goals
        rw [same] at reached
        obtain rfl := Option.some.inj reached
      · exact absurd rfl raised
      · exact pending_noteEnding raised
    · obtain rfl := Option.some.inj reached
      exact absurd rfl raised
  · rw [Session.activate_of_flags known, has] at reached
    obtain rfl := Option.some.inj reached
    exact absurd rfl raised

/-- A fault that is raised is pending afterwards, unless the activation is over. -/
theorem RaisesFault.pending (raises : request.RaisesFault session)
    (has : session.stream? = some stream) (reached : (request.run session).stream? = some later) :
    later.handover.ring.pending ≠ none ∨ request.EndsActivation session := by
  obtain ⟨quiet, raised⟩ := raises
  simp only [Session.counters, has, reached, Option.map_some, Option.getD_some] at raised
  cases passed : request.passedOn? with
  | some asked =>
      rw [run_of_passedOn passed, Session.stream?_mapStream, has] at reached
      obtain rfl := Option.some.inj reached
      exact .inl (Handover.pending_of_raised raised)
  | none =>
      cases request with
      | setUp | write | flush | acquireBuffer | fillBuffer | releaseBuffer => exact nomatch quiet
      | requestReset | signalFault | readStatus | setHardwareTime | deviceStep =>
          exact nomatch passed
      | activate flags device => exact .inl (pending_activate has reached raised)
      | deactivate flags device =>
          by_cases known : flags = 0
          · subst known
            rcases session with _ | stream | ⟨stream, run⟩ <;> cases has
            · obtain rfl := Option.some.inj reached
              exact absurd rfl raised
            · exact .inr ⟨rfl, stream, run, rfl⟩
          · rw [run, Session.deactivate_of_flags known, has] at reached
            obtain rfl := Option.some.inj reached
            exact absurd rfl raised
      | close device =>
          rw [run, Session.close_idle] at reached
          cases reached
      | transfer deviceChannels request =>
          rcases session with _ | stream | ⟨stream, ending | ending⟩ <;> cases has
          · obtain rfl := Option.some.inj reached
            exact absurd rfl raised
          · rw [run, Session.serve, Session.stream?_afterAnswer] at reached
            obtain rfl := Option.some.inj reached
            exact .inl (pending_serve raised)
          · obtain rfl := Option.some.inj reached
            exact absurd rfl raised
      | runEnds ending =>
          rcases session with _ | stream | ⟨stream, planned | ended⟩ <;> cases has
          all_goals obtain rfl := Option.some.inj reached
          · exact absurd rfl raised
          · exact .inl (pending_noteEnding raised)
          · exact absurd rfl raised

/-! ## The slot in work along a run -/

/-- A request leaves the slot in work alone, or none is in work afterwards, or elements
were written into a slot of the current epoch. -/
theorem inWork_cases (sameStream : ¬ request.SetsUp session) (has : session.stream? = some stream)
    (reached : (request.run session).stream? = some later) :
    later.inWork = none ∨ later.inWork = stream.inWork ∨
    ∃ slot, later.inWork = some slot ∧ slot.handle.epoch = later.handover.ring.epoch ∧
      (stream.dropStale.inWork = none → request.WritesSome session) := by
  cases writes : request.isWrite with
  | false => exact (inWork_of_not_write writes sameStream has reached).imp id .inl
  | true =>
      cases request with
      | write inputs count =>
          rcases session with _ | stream | ⟨stream, ending | ending⟩ <;> cases has
          all_goals obtain rfl := Option.some.inj reached
          · exact .inr (.inl rfl)
          · refine (stream.inWork_write inputs count).imp id (Or.imp id ?_)
            rintro ⟨slot, outcome, wrote, inWork, current, some⟩
            exact ⟨slot, inWork, current, fun nothing => ⟨outcome, wrote, some nothing⟩⟩
          · exact .inr (.inl rfl)
      | _ => exact nomatch writes

/-- Bytes that the caller puts into a slot are dated by the ring. -/
theorem mem_noteFills {fills : List CallerFill} {fill : CallerFill}
    (listed : fill ∈ request.noteFills fills session) :
    fill ∈ fills ∨ fill.handle.epoch = session.ring.epoch := by
  cases request with
  | setUp request limits =>
      rw [noteFills] at listed
      split at listed
      · cases listed
      · exact .inl listed
  | fillBuffer index content =>
      rcases List.mem_cons.mp listed with rfl | before
      · exact .inr rfl
      · exact .inl before
  | _ => exact .inl listed

end SessionRequest

namespace Session

/-- What the stream keeps, if there is one, is dated by its ring. -/
def Dated (fills : List CallerFill) (session : Session) : Prop :=
  ∀ stream, session.stream? = some stream → stream.Dated fills

/-- The slot in work, if there is one, is outdated. -/
def WorkStale (session : Session) : Prop :=
  ∀ stream, session.stream? = some stream → stream.WorkStale

/-- Nothing in the memory of the stream, if there is one, matters any more. -/
def Interrupted (fills : List CallerFill) (session : Session) : Prop :=
  ∀ stream, session.stream? = some stream → stream.Interrupted fills

variable {session : Session} {fills : List CallerFill}

theorem Dated.run (dated : session.Dated fills) (request : SessionRequest) :
    (request.run session).Dated (request.noteFills fills session) := by
  intro later reached
  obtain ⟨setsUp, wanted, limits, config, rfl, -, rfl⟩ | ⟨sameStream, stream, has, moves⟩ :=
    SessionRequest.stream_cases reached
  · have none : (SessionRequest.setUp wanted limits).noteFills fills session = [] := by
      rw [SessionRequest.SetsUp] at setsUp
      rw [SessionRequest.noteFills, setsUp]
    rw [none]
    exact .create config
  · have before := dated stream has
    have rises := Stream.epoch_le_of_moves moves
    have named : session.ring = stream.handover.ring := by
      rw [ring, has]
      rfl
    constructor
    · intro slot inWork
      obtain nothing | kept | ⟨written, found, current, -⟩ :=
        SessionRequest.inWork_cases sameStream has reached
      · rw [nothing] at inWork
        cases inWork
      · rw [kept] at inWork
        exact (before.work slot inWork).trans rises
      · rw [found] at inWork
        obtain rfl := Option.some.inj inWork
        exact Nat.le_of_eq current
    · intro fill listed
      rcases SessionRequest.mem_noteFills listed with earlier | current
      · exact (before.callers fill earlier).trans rises
      · rw [current, named]
        exact rises

/-- Along a run, what is in work and what the caller put into slots is dated by the ring. -/
theorem Dated.after (dated : session.Dated fills) (requests : List SessionRequest) :
    (session.after requests).Dated (session.fillsBy fills requests) := by
  induction requests generalizing session fills with
  | nil => exact dated
  | cons request requests inductionHypothesis => exact inductionHypothesis (dated.run request)

theorem dated_idle (fills : List CallerFill) : idle.Dated fills := by
  rintro stream ⟨⟩

/-- A slot in work that is outdated stays so, unless elements are written. -/
theorem WorkStale.run (stale : session.WorkStale) {request : SessionRequest}
    (silent : ¬ request.WritesSome session) : (request.run session).WorkStale := by
  intro later reached slot inWork
  obtain ⟨-, _, _, config, -, -, rfl⟩ | ⟨sameStream, stream, has, moves⟩ :=
    SessionRequest.stream_cases reached
  · exact nomatch inWork
  · obtain nothing | kept | ⟨_, -, -, wrote⟩ := SessionRequest.inWork_cases sameStream has reached
    · rw [nothing] at inWork
      exact nomatch inWork
    · rw [kept] at inWork
      exact Nat.lt_of_lt_of_le (stale stream has slot inWork) (Stream.settledEpoch_le_of_moves moves)
    · have dropped : stream.dropStale.inWork = none := by
        rw [(stale stream has).dropStale]
      exact absurd (wrote dropped) silent

/-- Whether a write in a run accepts elements. -/
def WritesSomeIn (session : Session) : List SessionRequest → Prop
  | [] => False
  | request :: requests =>
      request.WritesSome session ∨ (request.run session).WritesSomeIn requests

theorem WorkStale.after (stale : session.WorkStale) {requests : List SessionRequest}
    (silent : ¬ session.WritesSomeIn requests) : (session.after requests).WorkStale := by
  induction requests generalizing session with
  | nil => exact stale
  | cons request requests inductionHypothesis =>
      rw [WritesSomeIn, not_or] at silent
      exact inductionHypothesis (stale.run silent.1) silent.2

/-! ## After an interruption -/

theorem Dated.ended (dated : session.Dated fills) {request : SessionRequest}
    (ends : request.EndsActivation session) : (request.run session).Interrupted fills := by
  cases request with
  | deactivate flags device =>
      obtain ⟨rfl, stream, run, rfl⟩ := ends
      have before := dated stream rfl
      rcases run with ending | ending
      · rintro later ⟨⟩
        exact (before.noteEnding ending).interrupted_restart
      · rintro later ⟨⟩
        exact before.interrupted_restart
  | close device =>
      rw [SessionRequest.run, close_idle]
      rintro later ⟨⟩
  | _ => exact ends.elim

/-- An interruption leaves nothing that matters in the memory of the stream. -/
theorem Dated.interrupted (dated : session.Dated fills) {request : SessionRequest}
    (interrupts : request.Interrupts session) :
    (request.run session).Interrupted (request.noteFills fills session) := by
  intro later reached
  have after := dated.run request later reached
  have ended (ends : request.EndsActivation session) :
      later.Interrupted (request.noteFills fills session) := by
    have sameFills : request.noteFills fills session = fills := by
      cases request with
      | setUp | fillBuffer => exact ends.elim
      | _ => rfl
    rw [sameFills]
    exact dated.ended ends later reached
  rcases interrupts with rfl | raises | ends
  · rw [SessionRequest.run_of_passedOn rfl, stream?_mapStream, Option.map_eq_some_iff] at reached
    obtain ⟨stream, -, rfl⟩ := reached
    exact after.interrupted_of_pending (Option.some_ne_none _)
  · have follows := (request.run_cases session).resolve_left fun created =>
      SessionRequest.not_setsUp_of_quiet raises.1 created.1
    obtain ⟨stream, has, -⟩ := follows later reached
    rcases raises.pending has reached with event | ends
    · exact after.interrupted_of_pending event
    · exact ended ends
  · exact ended ends

/-- A session whose stream is interrupted is like one with any other slots in its memory. -/
theorem Interrupted.alike (interrupted : session.Interrupted fills) (sound : session.Sound)
    {other : Slots}
    (shaped : ∀ stream, session.stream? = some stream → other.Shaped stream.config.bufferCount
      stream.config.channelCount stream.config.bufferLength) :
    ∃ bound, session.Alike bound fills other := by
  cases has : session.stream? with
  | none =>
      use 0
      intro stream there
      rw [has] at there
      exact nomatch there
  | some stream =>
      use stream.handover.settledEpoch
      intro same there
      obtain rfl := Option.some.inj (has.symm.trans there)
      exact (interrupted stream has).alike (sound stream has) (shaped stream has)

/-- Two sessions give a device the same: the same bytes in every transfer, and in a
single step the same slot, with the same payloads. -/
structure ServesLike (session twin : Session) : Prop where
  transfers : ∀ deviceChannels request,
    (session.serve deviceChannels request).1 = (twin.serve deviceChannels request).1
  sameSlots : ∀ step, (session.runStep step).1 = (twin.runStep step).1
  samePayloads : ∀ step grant, (session.runStep step).1 = some grant → ∀ channel,
    (session.runStep step).2.payload? grant.handle.index channel =
      (twin.runStep step).2.payload? grant.handle.index channel

theorem ServesLike.refl (session : Session) : session.ServesLike session :=
  ⟨fun _ _ => rfl, fun _ => rfl, fun _ _ _ _ => rfl⟩

theorem Alike.servesLike {bound : Nat} {other : Slots} (alike : session.Alike bound fills other) :
    session.ServesLike (session.withSlots other) where
  transfers := fun deviceChannels request => (alike.serve deviceChannels request).1.symm
  sameSlots := fun step => (alike.runStep step).1.symm
  samePayloads := fun step grant granted channel =>
    ((alike.runStep step).2 grant granted channel).symm

/-- The next write that accepts elements acquires a slot and begins at its first
element. -/
def WritesAfresh (session : Session) : Prop :=
  ∀ (α : Type) [Sample α] (inputs : List (List α)) (count : Nat) (outcome : WriteOutcome),
    (session.write inputs count).1 = .ok outcome → 0 < outcome.written →
      ∃ stream run grant acquired, session = .active stream run ∧
        stream.handover.acquire = (.ok grant, acquired) ∧
        ∃ result, result = ({ stream with inWork := none, handover := acquired } : Stream).writeInto
            ⟨grant.handle, 0⟩ inputs (stream.requested inputs count) ∧
          session.write inputs count = (result.1, .active result.2 run)

theorem WorkStale.writesAfresh (stale : session.WorkStale) : session.WritesAfresh := by
  intro α _ inputs count outcome wrote some
  rcases session with _ | stream | ⟨stream, ending | ending⟩
  · exact nomatch wrote
  · exact nomatch wrote
  · obtain ⟨grant, acquired, granted, same⟩ :=
      Stream.write_of_workStale (stale stream rfl) wrote some
    refine ⟨stream, _, grant, acquired, rfl, granted, _, rfl, ?_⟩
    exact congrArg (fun result => (result.1, Session.active result.2 _)) same
  · exact nomatch wrote

/-- **No stale samples**: whatever was asked of a session, after a reset that is asked for, a
fault that is raised or the end of the activation it does not matter what is in the
memory of the stream.  As long as the caller puts bytes over what it releases, every
transfer afterwards has the bytes that it would have if the slots had held any others at
that time, and the first write that accepts elements begins at the first element of a
slot that it acquires. -/
theorem no_stale_samples (history later : List SessionRequest) (event : SessionRequest)
    (interrupts : event.Interrupts (idle.after history)) :
    let session := event.run (idle.after history)
    let fills := event.noteFills (idle.fillsBy [] history) (idle.after history)
    (session.OverwritesFirst fills later →
      ∀ other : Slots,
        (∀ stream, session.stream? = some stream → other.Shaped stream.config.bufferCount
          stream.config.channelCount stream.config.bufferLength) →
        (session.after later).ServesLike ((session.withSlots other).after later)) ∧
    (¬ session.WritesSomeIn later → (session.after later).WritesAfresh) := by
  intro session fills
  have sound : session.Sound := (sound_idle.after history).run event
  have interrupted : session.Interrupted fills :=
    ((dated_idle []).after history).interrupted interrupts
  constructor
  · intro overwrites other shaped
    obtain ⟨bound, alike⟩ := interrupted.alike sound shaped
    obtain same | ⟨memory, same, kept⟩ := alike.after overwrites
    · rw [same]
      exact .refl _
    · rw [same]
      exact kept.servesLike
  · intro silent
    have stale : session.WorkStale := fun stream has => (interrupted stream has).work
    exact (stale.after silent).writesAfresh

/-- A reset while one slot is filled and another is in work.  The caller gets the first of
them again, puts one byte into it and releases it; the device hears nothing but that. -/
theorem no_stale_samples_reset :
    let history : List SessionRequest :=
      [soleSetUp, .activate 0 soleDevice, .write [[(1 : UInt8), 2]] 2, .write [[(3 : UInt8)]] 1]
    let later : List SessionRequest :=
      [.acquireBuffer, .fillBuffer 0 [[7]], .releaseBuffer ⟨0, 2⟩ 1]
    let session := SessionRequest.requestReset.run (idle.after history)
    let other : Slots := ⟨1, 2, List.replicate 4 ⟨0, [[9, 9]]⟩⟩
    SessionRequest.requestReset.Interrupts (idle.after history) ∧
      session.OverwritesFirst [] later ∧ ¬ session.WritesSomeIn later ∧
      session.ring.filledSlots = [0] ∧ session.payload? 0 0 = some [1, 2] ∧
      (session.after later).ring.filledSlots = [0] ∧
      (session.after later).payload? 0 0 = some [7, 128] ∧
      (session.after later).ServesLike ((session.withSlots other).after later) ∧
      (session.after later).WritesAfresh := by
  intro history later session other
  have interrupts : SessionRequest.requestReset.Interrupts (idle.after history) := .inl rfl
  have config : (session.after [.acquireBuffer, .fillBuffer 0 [[7]]]).config? =
      some ⟨⟨.u8, false⟩, [0], 2, 4, 0, false⟩ := by decide
  have fills : session.fillsBy [] [.acquireBuffer, .fillBuffer 0 [[7]]] = [⟨⟨0, 2⟩, [[7]]⟩] := by
    decide
  have overwrites : session.OverwritesFirst [] later := by
    refine ⟨trivial, trivial, ?_, trivial⟩
    intro stream has _ channel inside
    change (session.after [.acquireBuffer, .fillBuffer 0 [[7]]]).stream? = some stream at has
    change ∃ fill ∈ session.fillsBy [] [.acquireBuffer, .fillBuffer 0 [[7]]], _
    rw [config?, has] at config
    have named := Option.some.inj config
    rw [fills]
    rw [named] at inside ⊢
    obtain rfl : channel = 0 := Nat.lt_one_iff.mp inside
    exact ⟨_, List.mem_singleton_self _, rfl, [7], rfl, by decide⟩
  have silent : ¬ session.WritesSomeIn later := by
    simp [later, WritesSomeIn, SessionRequest.WritesSome]
  obtain ⟨serves, fresh⟩ := no_stale_samples history later .requestReset interrupts
  refine ⟨interrupts, overwrites, silent, by decide, by decide, by decide, by decide,
    serves overwrites other ?_, fresh silent⟩
  rintro stream ⟨⟩
  exact ⟨rfl, rfl, rfl, by decide⟩

end Session

end DacStream
