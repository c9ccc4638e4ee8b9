import DacStream.Proofs.LaterActivations
import DacStream.Proofs.RunEndings

/-!
# Sessions whose run is over

When the run of a device is over without having been stopped, the session stays active
until it is deactivated.  In the meantime it takes no data and hands out no slots, and it
says so (`Session.ReportsStopped`).

Deactivating it tells how the run ended.  Whatever that is, and whatever was left in the
stream, the stream is cleared then (`Stream.Cleared`).  So the end of a run is contained in
its activation: the next one is like a first one (`Session.ended_run_contained`).
-/

namespace DacStream

set_option autoImplicit false

/-- A stream with nothing left in it: no slot is in work, the ring is empty from its first
slot on, no event is pending, and there is no notice of a fault. -/
structure Stream.Cleared (stream : Stream) : Prop where
  work : stream.inWork = none
  ring : stream.handover.ring =
    { capacity := stream.config.bufferCount, epoch := stream.handover.ring.epoch }

theorem Stream.cleared_restart {stream : Stream} (sound : stream.Sound) :
    stream.restart.Cleared where
  work := rfl
  ring := by
    have capacity : stream.restart.config.bufferCount = stream.handover.ring.capacity :=
      sound.capacity.symm
    rw [capacity]
    rfl

namespace Session

/-- The session says that its run is over.  It takes no data and hands out no slot, and a
status query reports the fault that was not reported yet, or else that the transmitter has
stopped, but not that nothing happened in time. -/
structure ReportsStopped (session : Session) : Prop where
  takesNoData : ∀ {α : Type} [Sample α] (inputs : List (List α)) (count : Nat),
    session.write inputs count = (.error .transmitterStopped, session)
  lendsNoSlot : session.acquireBuffer = (.error .transmitterStopped, session)
  status : session.readStatus.1 =
    (session.statusNotice?.map StreamError.fault).getD .transmitterStopped
  noTimeout : session.readStatus.1 ≠ .timeout

theorem reportsStopped_of_over (stream : Stream) (ending : RunEnding) :
    (active stream (.over ending)).ReportsStopped where
  takesNoData := fun _ _ => rfl
  lendsNoSlot := rfl
  status := rfl
  noTimeout := by
    rw [readStatus_of_over]
    cases stream.handover.ring.statusNotice <;> simp

/-- Deactivation tells how the run ended, and starts the stream again. -/
theorem deactivate_of_over (stream : Stream) (ending : RunEnding) (device : Device) :
    (active stream (.over ending)).deactivate 0 device =
      (ending.report, .configured stream.restart, device) := rfl

/-- **The end of a run is contained in its activation.**  Through whatever is asked of the
session until it is deactivated, it reports that its run is over.  Deactivating it then
reports how the run ended and leaves the stream cleared, and every activation after that is
like a first one. -/
theorem ended_run_contained (history during : List SessionRequest) {ending : RunEnding}
    (isOver : (idle.after history).ending? = some ending)
    (keep : ∀ request ∈ during, request.keepsActivation = true) (device : Device) :
    ((idle.after history).after during).ReportsStopped ∧
      ∃ emptied, ((idle.after history).after during).deactivate 0 device =
          (ending.report, .configured emptied, device) ∧
        emptied.Cleared ∧
        ∀ (between : List SessionRequest) (again : Stream),
          (configured emptied).after between = .configured again →
            ∀ next, ActivatesAsFirst again next := by
  obtain ⟨begun, same⟩ := ending?_eq_some_iff.mp isOver
  obtain ⟨stream, reached⟩ := over_after keep begun ending
  rw [← same, ← after_append] at reached
  have sound : stream.Sound := by
    have everywhere := sound_idle.after (history ++ during)
    rw [reached] at everywhere
    exact everywhere stream rfl
  rw [← after_append, reached]
  refine ⟨reportsStopped_of_over stream ending, stream.restart,
    deactivate_of_over stream ending device, Stream.cleared_restart sound, ?_⟩
  intro between again activated next
  -- The whole story from the idle session on, with the deactivation in the middle.
  have story : idle.after (history ++ during ++ .deactivate 0 device :: between) =
      .configured again := by
    rw [after_append, after_cons, reached, SessionRequest.run, deactivate_of_over]
    exact activated
  exact activates_as_first _ story next

/-- A device that fails while a slot waits for it, another one is in work and the writer goes
on, and an activation after that. -/
theorem ended_run_contained_failed :
    let stopped := idle.after [soleSetUp, .activate 0 soleDevice, .write [[(1 : UInt8), 2]] 2,
      .write [[(3 : UInt8)]] 1, .runEnds (.failed .noDevice), .readStatus, .signalFault .overflow,
      .write [[(4 : UInt8)]] 1, .deactivate 1 soleDevice]
    let resumed := stopped.after [.deactivate 0 soleDevice, .activate 0 soleDevice]
    (stopped.ReportsStopped ∧ stopped.readStatus.1 = .fault .overflow) ∧
      (∃ emptied, stopped.deactivate 0 soleDevice =
          (.error (.device .noDevice), .configured emptied, soleDevice) ∧
        emptied.Cleared ∧ ActivatesAsFirst emptied soleDevice ∧
        resumed = activated emptied soleDevice) ∧
      (resumed.write [[(5 : UInt8), 6]] 2).1 = .ok ⟨2, false⟩ ∧
      (((resumed.write [[(5 : UInt8), 6]] 2).2.serve 1 { length := 2 }).1.bind (·.buffer? 0)) =
        some [5, 6] := by
  intro stopped resumed
  obtain ⟨reports, emptied, ended, cleared, later⟩ := ended_run_contained
    [soleSetUp, .activate 0 soleDevice, .write [[(1 : UInt8), 2]] 2, .write [[(3 : UInt8)]] 1,
      .runEnds (.failed .noDevice)]
    [.readStatus, .signalFault .overflow, .write [[(4 : UInt8)]] 1, .deactivate 1 soleDevice]
    rfl (by simp [SessionRequest.keepsActivation]) soleDevice
  have again : resumed = activated emptied soleDevice :=
    congrArg (fun ended => (ended.2.1.activate 0 soleDevice).2.1) ended
  exact ⟨⟨reports, by decide⟩, ⟨emptied, ended, cleared, later [] _ rfl soleDevice, again⟩,
    by decide, by decide +kernel⟩

end Session

end DacStream
