import DacStream.Proofs.SlotOrder

/-!
# Notices of faults

A fault that is raised is made known on two channels: the writer is told when it asks
for a slot, and a status query reports it.  What either of them makes known is decided
by the latest event that bears on it.

* On the writer bear the raising of a fault, a reset that is asked for, a restart, and
  that the writer was told.
* On status queries bear the raising of a fault, a drain for a reset, a restart, and
  that a query reported the fault.

A fault is made known exactly when the latest of these events is its raising
(`Handover.fault_notices_exact`).  So a notice is given once, a younger fault takes the
place of one that was not made known yet, and a reset or a restart withdraws it.  The
two channels do not share an event of their own: what is read on one is still to be read
on the other.

The writer's notice stands in the ring while a reset is pending and is withdrawn by the
drain.  What it comes to is read off the ring as it is after settling, and this is what
each request keeps in step with the events (`NoticeHistory.Explains`).
-/

namespace DacStream

set_option autoImplicit false

/-! ## What bears on notices -/

/-- What bears on the notices of faults. -/
inductive NoticeEvent where
  /-- A fault was raised. -/
  | raised (fault : Fault)
  /-- A reset was asked for. -/
  | resetRequested
  /-- The ring was drained for a reset. -/
  | resetDrained
  /-- The ring was restarted. -/
  | restarted
  /-- The writer asked for a slot and was told of a fault. -/
  | writerTold (fault : Fault)
  /-- A status query reported a fault. -/
  | statusTold (fault : Fault)
  deriving DecidableEq, Repr

namespace NoticeEvent

/-- Whether an event bears on what the writer is told. -/
def bearsOnWriter : NoticeEvent → Bool
  | .raised _ | .resetRequested | .restarted | .writerTold _ => true
  | .resetDrained | .statusTold _ => false

/-- Whether an event bears on what a status query reports. -/
def bearsOnStatus : NoticeEvent → Bool
  | .raised _ | .resetDrained | .restarted | .statusTold _ => true
  | .resetRequested | .writerTold _ => false

end NoticeEvent

/-- What happened that bears on notices, the oldest first. -/
abbrev NoticeHistory := List NoticeEvent

/-- The latest of the events that matter. -/
def NoticeHistory.latest? (history : NoticeHistory) (matters : NoticeEvent → Bool) :
    Option NoticeEvent :=
  (history.filter matters).getLast?

/-- The drain for a reset, if one is counted. -/
def Counters.resetDrains (before after : Counters) : NoticeHistory :=
  if after.resets = before.resets then [] else [.resetDrained]

/-- What a request does that bears on notices, as its answer and the counters tell. -/
def HandoverRequest.noticeEvents (handover : Handover) : HandoverRequest → NoticeHistory
  | .acquire =>
      let (answer, later) := handover.acquire
      handover.counters.resetDrains later.counters ++
        match answer with
        | .error (.fault fault) => [.writerTold fault]
        | _ => []
  | .take =>
      let later := handover.take.2
      handover.counters.resetDrains later.counters ++
        if later.counters.underflows = handover.counters.underflows then []
        else [.raised .underflow]
  | .requestReset => [.resetRequested]
  | .raise fault => [.raised fault]
  | .pollFault => handover.pollFault.1.toList.map .statusTold
  | .restart => [.restarted]
  | .release _ | .skip | .setClock _ => []

/-- What happens in a run that bears on notices. -/
def Handover.noticeHistory (handover : Handover) : List HandoverRequest → NoticeHistory
  | [] => []
  | request :: requests =>
      request.noticeEvents handover ++ (request.run handover).noticeHistory requests

/-! ## Status queries and the ring -/

namespace SlotRing

@[simp]
theorem writerNotice_statusTold (ring : SlotRing) :
    ring.statusTold.writerNotice = ring.writerNotice := rfl

@[simp]
theorem free_statusTold (ring : SlotRing) : ring.statusTold.free = ring.free := rfl

/-- It does not matter whether a status query comes before or after the ring is settled. -/
theorem settle_statusTold (ring : SlotRing) : ring.statusTold.settle = ring.settle.statusTold := by
  unfold settle
  simp only [statusTold]
  split <;> rfl

end SlotRing

/-! ## What a history explains -/

namespace NoticeHistory

theorem latest?_note (history : NoticeHistory) (event : NoticeEvent)
    (matters : NoticeEvent → Bool) :
    (history ++ [event]).latest? matters =
      if matters event then some event else history.latest? matters := by
  cases mattering : matters event <;> simp [latest?, List.filter_append, mattering]

/-- A history explains the notices of a ring: each channel makes a fault known if the
latest event that bears on it is the raising of that fault, and so it was whenever a
fault was made known before. -/
structure Explains (history : NoticeHistory) (ring : SlotRing) : Prop where
  writer : ∀ fault, ring.settle.writerNotice = some fault ↔
    history.latest? NoticeEvent.bearsOnWriter = some (.raised fault)
  status : ∀ fault, ring.statusNotice = some fault ↔
    history.latest? NoticeEvent.bearsOnStatus = some (.raised fault)
  writerTold : ∀ (earlier later : NoticeHistory) (fault : Fault),
    history = earlier ++ .writerTold fault :: later →
      earlier.latest? NoticeEvent.bearsOnWriter = some (.raised fault)
  statusTold : ∀ (earlier later : NoticeHistory) (fault : Fault),
    history = earlier ++ .statusTold fault :: later →
      earlier.latest? NoticeEvent.bearsOnStatus = some (.raised fault)

namespace Explains

variable {history : NoticeHistory} {ring later : SlotRing}

/-- Before anything happened, a ring knows of no fault. -/
theorem nil (noneToWriter : ring.settle.writerNotice = none)
    (noneToStatus : ring.statusNotice = none) : Explains [] ring where
  writer := by simp [noneToWriter, latest?]
  status := by simp [noneToStatus, latest?]
  writerTold := by simp
  statusTold := by simp

/-- What leaves the notices alone need not be noted. -/
theorem of_same (explains : history.Explains ring)
    (sameWriter : later.settle.writerNotice = ring.settle.writerNotice)
    (sameStatus : later.statusNotice = ring.statusNotice) : history.Explains later where
  writer := by rw [sameWriter]; exact explains.writer
  status := by rw [sameStatus]; exact explains.status
  writerTold := explains.writerTold
  statusTold := explains.statusTold

/-- As long as nothing is pending, what leaves the notices alone need not be noted. -/
theorem of_calm (explains : history.Explains ring) (calm : ring.pending = none)
    (calmLater : later.pending = none) (sameWriter : later.writerNotice = ring.writerNotice)
    (sameStatus : later.statusNotice = ring.statusNotice) : history.Explains later := by
  refine explains.of_same ?_ sameStatus
  rw [later.settle_of_not_pending calmLater, ring.settle_of_not_pending calm, sameWriter]

/-- One more event is noted.  On each channel it either bears on what is made known, and
then decides it, or leaves it alone. -/
theorem note (explains : history.Explains ring) (event : NoticeEvent)
    (writer : ∀ fault, later.settle.writerNotice = some fault ↔
      if event.bearsOnWriter then event = .raised fault
      else ring.settle.writerNotice = some fault)
    (status : ∀ fault, later.statusNotice = some fault ↔
      if event.bearsOnStatus then event = .raised fault else ring.statusNotice = some fault)
    (writerTold : ∀ fault, event = .writerTold fault → ring.settle.writerNotice = some fault)
    (statusTold : ∀ fault, event = .statusTold fault → ring.statusNotice = some fault) :
    (history ++ [event]).Explains later where
  writer := by
    intro fault
    rw [writer fault, latest?_note]
    split
    · exact Option.some_inj.symm
    · exact explains.writer fault
  status := by
    intro fault
    rw [status fault, latest?_note]
    split
    · exact Option.some_inj.symm
    · exact explains.status fault
  writerTold := by
    intro earlier rest fault split
    obtain ⟨rfl, same⟩ | ⟨middle, same⟩ := split_of_concat split
    · exact (explains.writer fault).mp (writerTold fault same)
    · exact explains.writerTold earlier middle fault same
  statusTold := by
    intro earlier rest fault split
    obtain ⟨rfl, same⟩ | ⟨middle, same⟩ := split_of_concat split
    · exact (explains.status fault).mp (statusTold fault same)
    · exact explains.statusTold earlier middle fault same

/-! ## Events of a ring -/

theorem raise (explains : history.Explains ring) (fault : Fault) :
    (history ++ [NoticeEvent.raised fault]).Explains (ring.raise fault) :=
  explains.note _
    (by simp [SlotRing.settle, SlotRing.raise, SlotRing.drain, NoticeEvent.bearsOnWriter])
    (by simp [SlotRing.raise, NoticeEvent.bearsOnStatus]) (by simp) (by simp)

theorem requestReset (explains : history.Explains ring) :
    (history ++ [NoticeEvent.resetRequested]).Explains ring.requestReset :=
  explains.note _
    (by simp [SlotRing.settle, SlotRing.requestReset, NoticeEvent.bearsOnWriter])
    (by simp [SlotRing.requestReset, NoticeEvent.bearsOnStatus]) (by simp) (by simp)

theorem restart (explains : history.Explains ring) :
    (history ++ [NoticeEvent.restarted]).Explains ring.restart :=
  explains.note _
    (by simp [SlotRing.settle, SlotRing.restart, NoticeEvent.bearsOnWriter])
    (by simp [SlotRing.restart, NoticeEvent.bearsOnStatus]) (by simp) (by simp)

/-- Settling the ring is noted if it is done for a reset. -/
theorem settle (explains : history.Explains ring) :
    (history ++ if ring.pending = some .reset then [NoticeEvent.resetDrained] else []).Explains
      ring.settle := by
  have settled : ring.settle.settle = ring.settle :=
    ring.settle.settle_of_not_pending ring.pending_settle
  rcases pending : ring.pending with _ | _ | _
  · rw [ring.settle_of_not_pending pending]
    simpa using explains
  · refine explains.note .resetDrained ?_ ?_ (by simp) (by simp)
    · simp [settled, NoticeEvent.bearsOnWriter]
    · simp [SlotRing.settle, pending, NoticeEvent.bearsOnStatus]
  · have kept : ring.settle.statusNotice = ring.statusNotice := by
      simp [SlotRing.settle, pending, SlotRing.drain]
    simpa using explains.of_same (congrArg SlotRing.writerNotice settled) kept

/-- The writer is told of a fault when nothing is pending. -/
theorem writerIsTold (explains : history.Explains ring) (calm : ring.pending = none)
    {fault : Fault} (notice : ring.writerNotice = some fault) :
    (history ++ [NoticeEvent.writerTold fault]).Explains ring.writerTold := by
  have settled : ring.settle = ring := ring.settle_of_not_pending calm
  have calmLater : ring.writerTold.settle = ring.writerTold :=
    ring.writerTold.settle_of_not_pending calm
  refine explains.note _ ?_ ?_ ?_ (by simp)
  · rw [calmLater]
    simp [SlotRing.writerTold, NoticeEvent.bearsOnWriter]
  · simp [SlotRing.writerTold, NoticeEvent.bearsOnStatus]
  · rintro told ⟨⟩
    rwa [settled]

/-- A status query reports its notice. -/
theorem statusIsTold (explains : history.Explains ring) :
    (history ++ ring.statusNotice.toList.map NoticeEvent.statusTold).Explains ring.statusTold := by
  have kept : ring.statusTold.settle.writerNotice = ring.settle.writerNotice := by
    rw [ring.settle_statusTold, SlotRing.writerNotice_statusTold]
  cases notice : ring.statusNotice with
  | none => simpa using explains.of_same kept notice.symm
  | some fault =>
      refine explains.note _ ?_ ?_ (by simp) ?_
      · simp [kept, NoticeEvent.bearsOnWriter]
      · simp [SlotRing.statusTold, NoticeEvent.bearsOnStatus]
      · rintro told ⟨⟩
        exact notice

end Explains

end NoticeHistory

/-! ## Requests -/

namespace Handover

variable {handover : Handover} {history : NoticeHistory}

/-- A drain for a reset is counted as one. -/
theorem resetDrains_settle (handover : Handover) :
    handover.counters.resetDrains handover.settle.counters =
      if handover.ring.pending = some .reset then [.resetDrained] else [] := by
  rcases pending : handover.ring.pending with _ | _ | _ <;>
    simp [Counters.resetDrains, settle, Counters.countSettling, pending]

/-- Settling the ring does not look like an underflow. -/
theorem underflows_settle (handover : Handover) :
    handover.settle.counters.underflows = handover.counters.underflows := by
  rcases pending : handover.ring.pending with _ | _ | _ <;>
    simp [settle, Counters.countSettling, pending]

/-- Settling the ring is noted as the drain that the counters tell of. -/
theorem explains_settle (explains : history.Explains handover.ring) :
    (history ++ handover.counters.resetDrains handover.settle.counters).Explains
      handover.settle.ring := by
  rw [resetDrains_settle]
  exact explains.settle

theorem explains_acquire (explains : history.Explains handover.ring) :
    (history ++ HandoverRequest.acquire.noticeEvents handover).Explains handover.acquire.2.ring := by
  have settled := explains_settle explains
  have calm : handover.settle.ring.pending = none := handover.ring.pending_settle
  rw [← counters_acquire] at settled
  unfold HandoverRequest.noticeEvents
  obtain ⟨fault, notice, same⟩ | ⟨-, -, same⟩ | ⟨-, -, tick, same⟩ := handover.acquire_cases
  all_goals simp only [same, ← List.append_assoc, List.append_nil] at settled ⊢
  · exact settled.writerIsTold calm notice
  · exact settled
  · exact settled.of_calm calm calm rfl rfl

theorem explains_take (explains : history.Explains handover.ring) :
    (history ++ HandoverRequest.take.noticeEvents handover).Explains handover.take.2.ring := by
  have calm : handover.readyRing.pending = none := handover.ring.pending_settle
  have ready : (history ++ handover.counters.resetDrains handover.settle.counters).Explains
      handover.readyRing := (explains_settle explains).of_calm calm calm rfl rfl
  unfold HandoverRequest.noticeEvents
  obtain ⟨empty, idle, -, ring⟩ | ⟨empty, served, -, ring⟩ | ⟨waiting, -, ring⟩ :=
    handover.take_cases
  · have counted : handover.take.2.counters = handover.settle.counters := by
      simp [counters_take, empty, idle]
    simp only [ring, counted, underflows_settle, if_true, List.append_nil]
    exact ready.of_calm calm calm rfl rfl
  · have counted : handover.take.2.counters = handover.settle.counters.countFault .underflow := by
      simp [counters_take, empty, served]
    -- The counter wraps around, but one step always changes it.
    have raised : (handover.settle.counters.countFault .underflow).underflows ≠
        handover.counters.underflows := by
      simp [Counters.countFault, underflows_settle]
    simp only [ring, counted, if_neg raised, ← List.append_assoc]
    have dry : (history ++ handover.counters.resetDrains handover.settle.counters).Explains
        handover.readyRing.runDry := ready.of_calm calm calm rfl rfl
    exact dry.raise .underflow
  · have counted : handover.take.2.counters = handover.settle.counters.countDelivery := by
      simp [counters_take, Nat.ne_of_gt waiting]
    have kept : handover.settle.counters.countDelivery.underflows = handover.counters.underflows :=
      handover.underflows_settle
    simp only [ring, counted, kept, if_true, List.append_nil]
    exact ready.of_calm calm calm rfl rfl

/-- Whatever is asked of a hand-over, what it does to the notices is noted. -/
theorem explains_run (explains : history.Explains handover.ring) (request : HandoverRequest) :
    (history ++ request.noticeEvents handover).Explains (request.run handover).ring := by
  cases request with
  | acquire => exact explains_acquire explains
  | take => exact explains_take explains
  | requestReset => exact explains.requestReset
  | raise fault => exact explains.raise fault
  | pollFault => exact explains.statusIsTold
  | restart => exact explains.restart
  | release handle =>
      rw [HandoverRequest.noticeEvents, List.append_nil]
      show history.Explains (handover.release handle).2.ring
      obtain ⟨-, same⟩ | ⟨-, -, same⟩ | ⟨-, -, same⟩ := handover.release_cases handle <;> rw [same]
      · exact explains
      · exact explains
      · refine explains.of_same ?_ rfl
        rcases pending : handover.ring.pending with _ | _ | _ <;>
          simp [SlotRing.settle, SlotRing.publish, SlotRing.drain, pending]
  | skip =>
      rw [HandoverRequest.noticeEvents, List.append_nil]
      refine explains.of_same ?_ rfl
      rcases pending : handover.ring.pending with _ | _ | _ <;>
        simp [HandoverRequest.run, skip, giveBack, tickOn, SlotRing.settle, SlotRing.giveBack,
          SlotRing.drain, pending]
  | setClock clock =>
      rw [HandoverRequest.noticeEvents, List.append_nil]
      exact explains

/-- A run keeps its history and the notices in step. -/
theorem explains_after (explains : history.Explains handover.ring)
    (requests : List HandoverRequest) :
    (history ++ handover.noticeHistory requests).Explains (handover.after requests).ring := by
  induction requests generalizing handover history with
  | nil =>
      rw [noticeHistory, List.append_nil]
      exact explains
  | cons request requests inductionHypothesis =>
      rw [noticeHistory, ← List.append_assoc]
      exact inductionHypothesis (explains_run explains request)

/-! ## What is made known -/

/-- What a hand-over makes known of faults is what its history asks for. -/
structure NoticesExact (handover : Handover) (history : NoticeHistory) : Prop where
  /-- The writer is told of a fault exactly if nothing that bears on this channel happened
  since the fault was raised. -/
  writer : ∀ fault, handover.acquire.1 = .error (.fault fault) ↔
    history.latest? NoticeEvent.bearsOnWriter = some (.raised fault)
  /-- So it is with a status query. -/
  status : ∀ fault, handover.pollFault.1 = some fault ↔
    history.latest? NoticeEvent.bearsOnStatus = some (.raised fault)
  /-- So it was whenever the writer was told before. -/
  writerTold : ∀ (earlier later : NoticeHistory) (fault : Fault),
    history = earlier ++ .writerTold fault :: later →
      earlier.latest? NoticeEvent.bearsOnWriter = some (.raised fault)
  /-- So it was whenever a status query reported a fault before. -/
  statusTold : ∀ (earlier later : NoticeHistory) (fault : Fault),
    history = earlier ++ .statusTold fault :: later →
      earlier.latest? NoticeEvent.bearsOnStatus = some (.raised fault)
  /-- A status query takes nothing from the writer. -/
  writerKept : handover.pollFault.2.acquire.1 = handover.acquire.1
  /-- A writer that is told of a fault takes nothing from status queries. -/
  statusKept : ∀ fault, handover.acquire.1 = .error (.fault fault) →
    handover.acquire.2.pollFault.1 = handover.pollFault.1

/-- A status query does not change what the writer is answered. -/
theorem acquire_pollFault (handover : Handover) :
    handover.pollFault.2.acquire.1 = handover.acquire.1 := by
  have settled : handover.pollFault.2.settle.ring = handover.settle.ring.statusTold :=
    handover.ring.settle_statusTold
  unfold acquire
  simp only [settled, SlotRing.writerNotice_statusTold, SlotRing.free_statusTold]
  split
  · rfl
  · split <;> rfl

/-- What the writer is told is not withdrawn, and so neither is the other notice. -/
theorem pollFault_acquire {handover : Handover} {fault : Fault}
    (told : handover.acquire.1 = .error (.fault fault)) :
    handover.acquire.2.pollFault.1 = handover.pollFault.1 := by
  obtain ⟨other, notice, same⟩ | ⟨-, -, same⟩ | ⟨-, -, tick, same⟩ := handover.acquire_cases
  · rw [same]
    show handover.ring.settle.statusNotice = handover.ring.statusNotice
    rcases pending : handover.ring.pending with _ | _ | _
    · rw [handover.ring.settle_of_not_pending pending]
    · -- A reset would have withdrawn the notice that the writer got.
      simp [settle, SlotRing.settle, pending] at notice
    · simp [SlotRing.settle, SlotRing.drain, pending]
  · rw [same] at told
    cases told
  · rw [same] at told
    cases told

theorem NoticesExact.of_explains (explains : history.Explains handover.ring) :
    handover.NoticesExact history where
  writer := fun fault => (handover.acquire_fault_iff fault).trans (explains.writer fault)
  status := explains.status
  writerTold := explains.writerTold
  statusTold := explains.statusTold
  writerKept := handover.acquire_pollFault
  statusKept := fun _ told => pollFault_acquire told

/-- **Notices of faults are exact**: whatever was asked of a hand-over, in any order and
with any handles, the writer is told of a fault, or a status query reports it, exactly if
the latest event that bears on this channel is the raising of that fault. -/
theorem fault_notices_exact (slots : Slots) (elementsPerSlot : Nat)
    (requests : List HandoverRequest) :
    ((create slots elementsPerSlot).after requests).NoticesExact
      ((create slots elementsPerSlot).noticeHistory requests) := by
  have nothing : NoticeHistory.Explains [] (create slots elementsPerSlot).ring := .nil rfl rfl
  exact .of_explains (explains_after nothing requests)

/-- A reset that is asked for before the drain withdraws what the writer was to be told;
the drain withdraws what a status query had to report. -/
example :
    (create (.silent 2 1 4) 4).noticeHistory
        [.raise .overflow, .requestReset, .pollFault, .raise .underflow, .acquire, .acquire,
          .pollFault, .raise .overflow, .requestReset, .take, .pollFault] =
      [.raised .overflow, .resetRequested, .statusTold .overflow, .raised .underflow,
        .writerTold .underflow, .statusTold .underflow, .raised .overflow, .resetRequested,
        .resetDrained] := by
  decide

end Handover

end DacStream
