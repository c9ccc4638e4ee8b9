import DacStream.Device.Trial
import DacStream.Proofs.BenchRuns
import DacStream.Proofs.TransferAnswers

/-!
# The capture is a log of the latest transfers

A simulator makes transfers, is prepared for faults, is started and stopped, and now and
then somebody takes what it has captured (`SimulatorEvent`).  All that was taken, one after
the other, and what is still captured in the end is the log of such a history
(`Simulator.log`).

A transfer is missing from the log only because others overtook it: as many transfers as
the capture has room for were made after it and before the capture was taken.  How many
they are can be told from the events alone (`SimulatorEvent.overtakings`).  The invariant
of a history is `Simulator.log_eq`: of what is captured already, the log will have all but
the entries that are still to be overtaken, and behind them the new transfers that are not.

What an entry shows is what the source was told and what went on air (`Capture.Shows`).
-/

namespace DacStream

set_option autoImplicit false

/-! ## Histories of a simulator -/

/-- What was said in one transfer: what the source was told, and what it answered. -/
structure Exchange where
  request : TransferRequest
  buffers : BufferSet Bytes

/-- A source that notes what it is told and what it answers. -/
def noting (answer : TransferRequest → BufferSet Bytes) (request : TransferRequest)
    (noted : List Exchange) : Option (BufferSet Bytes) × List Exchange :=
  (some (answer request), noted ++ [⟨request, answer request⟩])

/-- What can happen to a simulator.  Runs come and go, and a transfer may be made at any time. -/
inductive SimulatorEvent where
  | prepare (preparation : Preparation)
  | start
  | finish
  /-- A transfer, with what the source would answer to each request at that moment. -/
  | transfer (answer : TransferRequest → BufferSet Bytes)

namespace SimulatorEvent

/-- Whether the capture is taken. -/
def isTaking : SimulatorEvent → Bool
  | .prepare .takeCaptured => true
  | _ => false

def isTransfer : SimulatorEvent → Bool
  | .transfer _ => true
  | _ => false

/-- The simulator after an event. -/
def run : SimulatorEvent → Simulator → Simulator
  | .prepare preparation, simulator => preparation.run simulator
  | .start, simulator => simulator.start.2
  | .finish, simulator => simulator.finish
  | .transfer answer, simulator => (simulator.transfer (noting answer) []).2.1

/-- What the source noted at an event. -/
def noted : SimulatorEvent → Simulator → List Exchange
  | .transfer answer, simulator => (simulator.transfer (noting answer) []).2.2
  | _, _ => []

/-- What was taken from the capture at an event. -/
def taken : SimulatorEvent → Simulator → List Capture
  | .prepare .takeCaptured, simulator => simulator.takeCaptured.1
  | _, _ => []

/-- The transfers that are made before the capture is next taken. -/
def transfersToTaking (events : List SimulatorEvent) : Nat :=
  (events.takeWhile fun event => !event.isTaking).countP isTransfer

/-- For each transfer, how many others are made after it before the capture is next
taken. -/
def overtakings : List SimulatorEvent → List Nat
  | [] => []
  | event :: later =>
      if event.isTransfer then transfersToTaking later :: overtakings later
      else overtakings later

end SimulatorEvent

namespace Simulator

/-- The simulator after a row of events. -/
def after (simulator : Simulator) (events : List SimulatorEvent) : Simulator :=
  events.foldl (fun before event => event.run before) simulator

/-- What comes of each event of a row, one after the other. -/
def gathered {α : Type} (gives : SimulatorEvent → Simulator → List α) (simulator : Simulator) :
    List SimulatorEvent → List α
  | [] => []
  | event :: later => gives event simulator ++ gathered gives (event.run simulator) later

/-- What was said in the transfers of a history. -/
def exchanges (simulator : Simulator) (events : List SimulatorEvent) : List Exchange :=
  simulator.gathered SimulatorEvent.noted events

/-- All that was ever taken from the capture and what is still in it. -/
def log (simulator : Simulator) (events : List SimulatorEvent) : List Capture :=
  simulator.gathered SimulatorEvent.taken events ++ (simulator.after events).captured

end Simulator

/-! ## What an entry shows -/

/-- Whether each buffer of a set holds as many bytes as the set is said to have. -/
def BufferSet.Backed (buffers : BufferSet Bytes) : Prop :=
  ∀ channel bytes, buffers.buffer? channel = some bytes → buffers.length ≤ bytes.length

/-- The entry of the capture for a transfer with a number. -/
structure Capture.Shows (config : SimulatorConfig) (transfer : Nat × Exchange)
    (entry : Capture) : Prop where
  number : entry.number = UInt64.ofNat transfer.1
  /-- It repeats what the source was told. -/
  request : entry.request = transfer.2.request
  channelCount : entry.channels.length = config.channels
  /-- A set that is long enough is heard as far as the transfer goes. -/
  heard : config.bufferLength.toNat ≤ transfer.2.buffers.length →
    ∀ channel < config.channels, entry.channels[channel]? =
      some ((transfer.2.buffers.buffer? channel).map (·.take config.bufferLength.toNat))
  /-- Of one that is too short, nothing is. -/
  silent : transfer.2.buffers.length < config.bufferLength.toNat →
    ∀ channel < config.channels, entry.channels[channel]? =
      some (some (List.replicate config.bufferLength.toNat midScale))
  /-- No channel has more bytes or less than the transfer. -/
  whole : transfer.2.buffers.Backed →
    ∀ bytes, some bytes ∈ entry.channels → bytes.length = config.bufferLength.toNat

namespace Simulator

variable {simulator : Simulator}

/-- The entry that a transfer adds to the capture. -/
def entry (simulator : Simulator) (exchange : Exchange) : Capture where
  number := simulator.transfers
  request := exchange.request
  channels := simulator.onAir exchange.request.length exchange.buffers

theorem getElem?_onAir (few : simulator.config.channels ≤ mostChannels) (length : Nat)
    (buffers : BufferSet Bytes) {channel : Nat} (inside : channel < simulator.config.channels) :
    (simulator.onAir length buffers)[channel]? =
      some ((if buffers.covers length then buffers.buffer? channel
        else some (Bytes.silence length)).map (·.take length)) := by
  have known : channel < mostChannels := Nat.lt_of_lt_of_le inside few
  rw [onAir, List.getElem?_map, List.getElem?_take_of_lt inside, Vector.getElem?_toList,
    buffers.getElem?_resolve length _ known, Option.map_some]

/-- The entry for what the source is told next shows that transfer. -/
theorem shows_entry (few : simulator.config.channels ≤ mostChannels) {number : Nat}
    (counted : simulator.transfers = UInt64.ofNat number) (buffers : BufferSet Bytes) :
    Capture.Shows simulator.config (number, ⟨simulator.request, buffers⟩)
      (simulator.entry ⟨simulator.request, buffers⟩) := by
  have channelCount : (simulator.onAir simulator.request.length buffers).length =
      simulator.config.channels := by
    simp [onAir, few]
  have covered (long : simulator.config.bufferLength.toNat ≤ buffers.length) (channel : Nat)
      (inside : channel < simulator.config.channels) :
      (simulator.onAir simulator.request.length buffers)[channel]? =
        some ((buffers.buffer? channel).map (·.take simulator.config.bufferLength.toNat)) := by
    have covers : buffers.covers simulator.request.length = true := decide_eq_true long
    rw [getElem?_onAir few _ _ inside, if_pos covers]
    rfl
  have uncovered (short : buffers.length < simulator.config.bufferLength.toNat) (channel : Nat)
      (inside : channel < simulator.config.channels) :
      (simulator.onAir simulator.request.length buffers)[channel]? =
        some (some (List.replicate simulator.config.bufferLength.toNat midScale)) := by
    have covers : buffers.covers simulator.request.length ≠ true := fun long =>
      absurd (of_decide_eq_true long) (Nat.not_le.mpr short)
    rw [getElem?_onAir few _ _ inside, if_neg covers, Option.map_some, Bytes.silence,
      List.take_of_length_le (by simp)]
    rfl
  refine
    { number := counted
      request := rfl
      channelCount := channelCount
      heard := covered
      silent := uncovered
      whole := ?_ }
  intro backed bytes listed
  obtain ⟨channel, inside, here⟩ := List.getElem_of_mem listed
  have there := List.getElem?_eq_getElem inside
  rw [here] at there
  have driven : channel < simulator.config.channels := channelCount ▸ inside
  rcases Nat.lt_or_ge buffers.length simulator.config.bufferLength.toNat with short | long
  · have same := there.symm.trans (uncovered short channel driven)
    simp only [Option.some.injEq] at same
    rw [same, List.length_replicate]
  · have same := there.symm.trans (covered long channel driven)
    simp only [Option.some.injEq] at same
    obtain ⟨given, has, rfl⟩ := Option.map_eq_some_iff.mp same.symm
    have held : buffers.length ≤ given.length := backed channel given has
    rw [List.length_take]
    omega

end Simulator

/-! ## One event -/

/-- What an event that concerns nobody who reads the log does to it. -/
structure SimulatorEvent.LeavesLog (event : SimulatorEvent) (simulator : Simulator) : Prop where
  noTaking : event.isTaking = false
  noTransfer : event.isTransfer = false
  noted : event.noted simulator = []
  taken : event.taken simulator = []
  config : (event.run simulator).config = simulator.config
  transfers : (event.run simulator).transfers = simulator.transfers
  captured : (event.run simulator).captured = simulator.captured

namespace SimulatorEvent

theorem leavesLog_start (simulator : Simulator) : start.LeavesLog simulator := by
  have same : ∃ running startFailure,
      simulator.start.2 = { simulator with running := running, startFailure := startFailure } := by
    obtain ⟨-, busy⟩ | ⟨-, error, failed⟩ | ⟨-, begun⟩ := simulator.start_cases
    · exact ⟨_, _, by rw [busy]⟩
    · exact ⟨_, none, by rw [failed]⟩
    · exact ⟨true, _, by rw [begun]⟩
  obtain ⟨running, startFailure, same⟩ := same
  have after : start.run simulator =
      { simulator with running := running, startFailure := startFailure } := same
  exact ⟨rfl, rfl, rfl, rfl, by rw [after], by rw [after], by rw [after]⟩

/-- The capture is taken, a transfer is made, or the log stays as it is. -/
theorem cases_of_log (event : SimulatorEvent) (simulator : Simulator) :
    event = .prepare .takeCaptured ∨ (∃ answer, event = .transfer answer) ∨
      event.LeavesLog simulator := by
  cases event with
  | prepare preparation =>
      cases preparation with
      | takeCaptured => exact .inl rfl
      | _ => exact .inr (.inr ⟨rfl, rfl, rfl, rfl, rfl, rfl, rfl⟩)
  | start => exact .inr (.inr (leavesLog_start simulator))
  | finish => exact .inr (.inr ⟨rfl, rfl, rfl, rfl, rfl, rfl, rfl⟩)
  | transfer answer => exact .inr (.inl ⟨answer, rfl⟩)

theorem transfersToTaking_of_leavesLog {event : SimulatorEvent} {simulator : Simulator}
    (leaves : event.LeavesLog simulator) (later : List SimulatorEvent) :
    transfersToTaking (event :: later) = transfersToTaking later := by
  simp [transfersToTaking, leaves.noTaking, leaves.noTransfer]

theorem transfersToTaking_transfer (answer : TransferRequest → BufferSet Bytes)
    (later : List SimulatorEvent) :
    transfersToTaking (transfer answer :: later) = transfersToTaking later + 1 := by
  rw [transfersToTaking, List.takeWhile_cons_of_pos rfl, List.countP_cons_of_pos rfl]
  rfl

theorem overtakings_of_leavesLog {event : SimulatorEvent} {simulator : Simulator}
    (leaves : event.LeavesLog simulator) (later : List SimulatorEvent) :
    overtakings (event :: later) = overtakings later := by
  simp [overtakings, leaves.noTransfer]

theorem config_run (event : SimulatorEvent) (simulator : Simulator) :
    (event.run simulator).config = simulator.config := by
  obtain rfl | ⟨answer, rfl⟩ | leaves := event.cases_of_log simulator
  · rfl
  · rfl
  · exact leaves.config

/-- A transfer of any source is such an event, unless the source crashes. -/
theorem run_transfer {σ : Type}
    (source : TransferRequest → σ → Option (BufferSet Bytes) × σ) (state : σ)
    (answer : TransferRequest → BufferSet Bytes)
    (answers : ∀ request, (source request state).1 = some (answer request))
    (simulator : Simulator) :
    (simulator.transfer source state).2.1 = (transfer answer).run simulator := by
  have answered : source simulator.request state =
      (some (answer simulator.request), (source simulator.request state).2) :=
    Prod.ext (answers simulator.request) rfl
  simp only [Simulator.transfer]
  rw [answered]
  rfl

end SimulatorEvent

/-! ## The invariant -/

namespace Simulator

variable {simulator : Simulator}

/-- The transfers that are kept in the log, numbered from `first` on: those that fewer others
overtake than the capture has room for. -/
def keptFrom (limit first : Nat) (exchanges : List Exchange) (overtakings : List Nat) :
    List (Nat × Exchange) :=
  (((exchanges.zip overtakings).zipIdx first).filter fun transfer =>
    decide (transfer.1.2 < limit)).map fun transfer => (transfer.2, transfer.1.1)

theorem keptFrom_cons (limit first : Nat) (exchange : Exchange) (exchanges : List Exchange)
    (later : Nat) (overtakings : List Nat) :
    keptFrom limit first (exchange :: exchanges) (later :: overtakings) =
      (if later < limit then [(first, exchange)] else []) ++
        keptFrom limit (first + 1) exchanges overtakings := by
  unfold keptFrom
  rw [List.zip_cons_cons, List.zipIdx_cons, List.filter_cons]
  by_cases room : later < limit <;> simp [room]

/-- A new entry is put behind the others, and of all of them the log keeps those that are not
overtaken: the two ways to drop the oldest are one. -/
theorem drop_captured_record (simulator : Simulator) (exchange : Exchange) (later : Nat)
    (fits : simulator.captured.length ≤ simulator.config.captureLimit) :
    let after := simulator.record exchange.request exchange.buffers
    after.captured.drop (after.captured.length + later - simulator.config.captureLimit) =
      simulator.captured.drop
          (simulator.captured.length + (later + 1) - simulator.config.captureLimit) ++
        (if later < simulator.config.captureLimit then [simulator.entry exchange] else []) := by
  intro after
  have captured : after.captured = (simulator.captured ++ [simulator.entry exchange]).drop
      ((simulator.captured ++ [simulator.entry exchange]).length -
        simulator.config.captureLimit) := rfl
  rw [captured, List.drop_drop, List.drop_append]
  congr 1
  · congr 1
    simp only [List.length_drop, List.length_append, List.length_singleton]
    omega
  · simp only [List.length_drop, List.length_append, List.length_singleton]
    split
    · rw [Nat.sub_eq_zero_of_le (by omega)]
      rfl
    · rw [List.drop_eq_nil_of_le]
      simp only [List.length_singleton]
      omega

theorem log_cons (simulator : Simulator) (event : SimulatorEvent) (later : List SimulatorEvent) :
    simulator.log (event :: later) =
      event.taken simulator ++ (event.run simulator).log later := by
  simp only [log, gathered, after, List.foldl_cons, List.append_assoc]

theorem exchanges_cons (simulator : Simulator) (event : SimulatorEvent)
    (later : List SimulatorEvent) :
    simulator.exchanges (event :: later) =
      event.noted simulator ++ (event.run simulator).exchanges later := rfl

/-- **The log of a history**: what is captured already, but for the entries that are still to
be overtaken, and behind it an entry for each transfer that is not. -/
theorem log_eq (events : List SimulatorEvent) (first : Nat)
    (few : simulator.config.channels ≤ mostChannels)
    (counted : simulator.transfers = UInt64.ofNat first)
    (fits : simulator.captured.length ≤ simulator.config.captureLimit) :
    ∃ entries, simulator.log events =
        simulator.captured.drop (simulator.captured.length +
          SimulatorEvent.transfersToTaking events - simulator.config.captureLimit) ++ entries ∧
      List.Forall₂ (Capture.Shows simulator.config)
        (keptFrom simulator.config.captureLimit first (simulator.exchanges events)
          (SimulatorEvent.overtakings events)) entries := by
  induction events generalizing simulator first with
  | nil =>
      refine ⟨[], ?_, .nil⟩
      rw [List.append_nil, SimulatorEvent.transfersToTaking, List.takeWhile_nil, List.countP_nil,
        Nat.add_zero, Nat.sub_eq_zero_of_le fits]
      rfl
  | cons event later inductionHypothesis =>
      rw [log_cons, exchanges_cons]
      obtain rfl | ⟨answer, rfl⟩ | leaves := event.cases_of_log simulator
      · -- All that is captured gets into the log, and nothing of it can be overtaken.
        obtain ⟨entries, same, shown⟩ :=
          @inductionHypothesis simulator.takeCaptured.2 first few counted (Nat.zero_le _)
        refine ⟨entries, ?_, shown⟩
        show simulator.captured ++ simulator.takeCaptured.2.log later = simulator.captured.drop
          (simulator.captured.length + 0 - simulator.config.captureLimit) ++ entries
        rw [same, Nat.add_zero, Nat.sub_eq_zero_of_le fits, takeCaptured]
        simp only [List.drop_nil, List.nil_append, List.drop_zero]
      · -- The new entry comes first of those for which there is still room.
        let exchange : Exchange := ⟨simulator.request, answer simulator.request⟩
        have recorded := length_captured_record simulator.reported exchange.request exchange.buffers
        have countedNext : simulator.transfers + 1 = UInt64.ofNat (first + 1) := by
          rw [UInt64.ofNat_add, ← counted]
          rfl
        obtain ⟨entries, same, shown⟩ :=
          @inductionHypothesis (simulator.reported.record exchange.request exchange.buffers)
            (first + 1) few countedNext recorded
        have kept := simulator.reported.drop_captured_record exchange
          (SimulatorEvent.transfersToTaking later) fits
        refine ⟨(if SimulatorEvent.transfersToTaking later < simulator.config.captureLimit
          then [simulator.entry exchange] else []) ++ entries, ?_, ?_⟩
        · rw [SimulatorEvent.transfersToTaking_transfer, ← List.append_assoc]
          exact same.trans (congrArg (· ++ entries) kept)
        · show List.Forall₂ _ (keptFrom _ first
            (exchange :: exchanges _ later) (_ :: SimulatorEvent.overtakings later)) _
          rw [keptFrom_cons]
          apply List.rel_append _ shown
          split
          · exact .cons (shows_entry few counted _) .nil
          · exact .nil
      · obtain ⟨entries, same, shown⟩ :=
          @inductionHypothesis (event.run simulator) first (by rwa [leaves.config])
            (by rwa [leaves.transfers]) (by rwa [leaves.captured, leaves.config])
        rw [leaves.config] at shown
        rw [leaves.captured, leaves.config] at same
        refine ⟨entries, ?_, ?_⟩
        · rw [leaves.taken, SimulatorEvent.transfersToTaking_of_leavesLog leaves]
          exact same
        · rw [leaves.noted, SimulatorEvent.overtakings_of_leavesLog leaves]
          exact shown

/-! ## Histories of a new simulator -/

theorem mem_keptFrom_zero_iff {limit : Nat} {exchanges : List Exchange} {overtakings : List Nat}
    {transfer : Nat × Exchange} :
    transfer ∈ keptFrom limit 0 exchanges overtakings ↔
      exchanges[transfer.1]? = some transfer.2 ∧
        ∃ later, overtakings[transfer.1]? = some later ∧ later < limit := by
  obtain ⟨number, exchange⟩ := transfer
  simp only [keptFrom, List.mem_map, List.mem_filter, Prod.exists, Prod.mk.injEq,
    List.mk_mem_zipIdx_iff_getElem?, List.getElem?_zip_eq_some, decide_eq_true_eq]
  constructor
  · rintro ⟨given, later, place, ⟨⟨here, overtaken⟩, room⟩, rfl, rfl⟩
    exact ⟨here, later, overtaken, room⟩
  · rintro ⟨here, later, overtaken, room⟩
    exact ⟨exchange, later, number, ⟨⟨here, overtaken⟩, room⟩, rfl, rfl⟩

theorem pairwise_keptFrom (limit first : Nat) (exchanges : List Exchange)
    (overtakings : List Nat) :
    ((keptFrom limit first exchanges overtakings).map Prod.fst).Pairwise (· < ·) := by
  have numbers : (((exchanges.zip overtakings).zipIdx first).map Prod.snd).Pairwise (· < ·) := by
    rw [List.zipIdx_map_snd]
    exact List.pairwise_lt_range'
  have part : ((keptFrom limit first exchanges overtakings).map Prod.fst).Sublist
      (((exchanges.zip overtakings).zipIdx first).map Prod.snd) := by
    rw [keptFrom, List.map_map]
    exact List.filter_sublist.map _
  exact numbers.sublist part

theorem numbers_of_shows {config : SimulatorConfig} {kept : List (Nat × Exchange)}
    {log : List Capture} (shown : List.Forall₂ (Capture.Shows config) kept log) :
    log.map Capture.number = kept.map fun transfer => UInt64.ofNat transfer.1 := by
  induction shown with
  | nil => rfl
  | cons first _ inductionHypothesis =>
      rw [List.map_cons, List.map_cons, first.number, inductionHypothesis]

theorem length_overtakings (simulator : Simulator) (events : List SimulatorEvent) :
    (SimulatorEvent.overtakings events).length = (simulator.exchanges events).length := by
  induction events generalizing simulator with
  | nil => rfl
  | cons event later inductionHypothesis =>
      rw [exchanges_cons, List.length_append, ← inductionHypothesis (event.run simulator)]
      obtain rfl | ⟨answer, rfl⟩ | leaves := event.cases_of_log simulator
      · exact (Nat.zero_add _).symm
      · exact Nat.add_comm _ 1
      · rw [SimulatorEvent.overtakings_of_leavesLog leaves, leaves.noted]
        exact (Nat.zero_add _).symm

theorem after_concat (simulator : Simulator) (events : List SimulatorEvent)
    (event : SimulatorEvent) :
    simulator.after (events ++ [event]) = event.run (simulator.after events) := by
  simp only [after, List.foldl_append, List.foldl_cons, List.foldl_nil]

theorem length_captured_run (event : SimulatorEvent)
    (fits : simulator.captured.length ≤ simulator.config.captureLimit) :
    (event.run simulator).captured.length ≤ (event.run simulator).config.captureLimit := by
  obtain rfl | ⟨answer, rfl⟩ | leaves := event.cases_of_log simulator
  · exact Nat.zero_le _
  · exact length_captured_record simulator.reported simulator.request (answer simulator.request)
  · rwa [leaves.captured, leaves.config]

theorem length_captured_after (events : List SimulatorEvent)
    (fits : simulator.captured.length ≤ simulator.config.captureLimit) :
    (simulator.after events).captured.length ≤ simulator.config.captureLimit := by
  induction events generalizing simulator with
  | nil => exact fits
  | cons event later inductionHypothesis =>
      rw [← event.config_run simulator]
      exact inductionHypothesis (length_captured_run event fits)

theorem transfers_after (simulator : Simulator) (events : List SimulatorEvent) :
    (simulator.after events).transfers =
      simulator.transfers + UInt64.ofNat (simulator.exchanges events).length := by
  induction events generalizing simulator with
  | nil => exact (UInt64.add_zero _).symm
  | cons event later inductionHypothesis =>
      have counted : (event.run simulator).transfers =
          simulator.transfers + UInt64.ofNat (event.noted simulator).length := by
        obtain rfl | ⟨answer, rfl⟩ | leaves := event.cases_of_log simulator
        · exact (UInt64.add_zero _).symm
        · rfl
        · rw [leaves.transfers, leaves.noted]
          exact (UInt64.add_zero _).symm
      rw [exchanges_cons, List.length_append, UInt64.ofNat_add, ← UInt64.add_assoc, ← counted]
      exact inductionHypothesis (event.run simulator)

/-- What it means that the log of a history has the transfers that are `kept`, each with its
number, and that these are the latest ones. -/
structure LogsLatest (config : SimulatorConfig) (events : List SimulatorEvent)
    (kept : List (Nat × Exchange)) : Prop where
  /-- There is one entry for each of them, in the same order. -/
  entries : List.Forall₂ (Capture.Shows config.clamped) kept ((create config).log events)
  /-- They are transfers of the history, which are counted from zero, -/
  made : ∀ transfer ∈ kept, ((create config).exchanges events)[transfer.1]? = some transfer.2
  /-- in the order in which they were made, and none of them is there twice. -/
  inOrder : (kept.map Prod.fst).Pairwise (· < ·)
  /-- A transfer is missing exactly if as many others as there is room for overtake it. -/
  missing_iff : ∀ number later,
    (SimulatorEvent.overtakings events)[number]? = some later →
      (number ∉ kept.map Prod.fst ↔ config.captureLimit ≤ later)
  /-- Every transfer of the history is told of that way, and counted by the simulator. -/
  told : (SimulatorEvent.overtakings events).length = ((create config).exchanges events).length
  counted : ((create config).after events).transfers =
    UInt64.ofNat ((create config).exchanges events).length
  /-- The capture never holds more than its limit. -/
  bounded : ((create config).after events).captured.length ≤ config.captureLimit
  /-- With a transfer of any source that does not crash, the history goes on. -/
  goesOn : ∀ {σ : Type} (source : TransferRequest → σ → Option (BufferSet Bytes) × σ) (state : σ)
    (answer : TransferRequest → BufferSet Bytes),
    (∀ request, (source request state).1 = some (answer request)) →
      (((create config).after events).transfer source state).2.1 =
        (create config).after (events ++ [.transfer answer])
  /-- The numbers rise from entry to entry, as long as 64 bits suffice to count. -/
  rising : ((create config).exchanges events).length ≤ 2 ^ 64 →
    (((create config).log events).map Capture.number).Pairwise (· < ·)

/-- **The capture is a log of the latest transfers**, whatever happens to a simulator and
whenever its capture is taken: a transfer is missing from it only when as many others as the
capture has room for overtook it, and what an entry shows is what went on air. -/
theorem capture_logs_latest (config : SimulatorConfig) (events : List SimulatorEvent) :
    ∃ kept, LogsLatest config events kept := by
  have few : (create config).config.channels ≤ mostChannels := (clamped_channels config).2
  have empty : (create config).captured.length ≤ (create config).config.captureLimit :=
    Nat.zero_le _
  obtain ⟨entries, same, shown⟩ := log_eq events 0 few rfl empty
  have log : (create config).log events = entries := by
    rw [same, show (create config).captured = [] from rfl, List.drop_nil, List.nil_append]
  rw [← log] at shown
  have made := fun transfer => (@mem_keptFrom_zero_iff config.captureLimit
    ((create config).exchanges events) (SimulatorEvent.overtakings events) transfer).mp
  have inOrder := pairwise_keptFrom config.captureLimit 0 ((create config).exchanges events)
    (SimulatorEvent.overtakings events)
  have told := (create config).length_overtakings events
  refine ⟨_,
    { entries := shown
      made := fun transfer listed => (made transfer listed).1
      inOrder := inOrder
      missing_iff := ?_
      told := told
      counted := (transfers_after _ events).trans (UInt64.zero_add _)
      bounded := length_captured_after events empty
      goesOn := by
        intro σ source state answer answers
        rw [after_concat]
        exact SimulatorEvent.run_transfer source state answer answers _
      rising := ?_ }⟩
  · intro number later overtaken
    constructor
    · intro missing
      apply Nat.le_of_not_lt
      intro room
      obtain ⟨inside, -⟩ := List.getElem?_eq_some_iff.mp overtaken
      have here := List.getElem?_eq_getElem (told ▸ inside)
      exact missing (List.mem_map.mpr
        ⟨(number, _), mem_keptFrom_zero_iff.mpr ⟨here, later, overtaken, room⟩, rfl⟩)
    · rintro full listed
      obtain ⟨transfer, kept, rfl⟩ := List.mem_map.mp listed
      obtain ⟨-, other, same, room⟩ := made transfer kept
      rw [overtaken, Option.some.injEq] at same
      exact absurd (same ▸ room) (Nat.not_lt.mpr full)
  · intro countable
    rw [numbers_of_shows shown, List.pairwise_map]
    refine (List.pairwise_map.mp inOrder).imp_of_mem fun {earlier later} _ listed less => ?_
    obtain ⟨inside, -⟩ := List.getElem?_eq_some_iff.mp (made later listed).1
    have word : later.1 < 2 ^ 64 := Nat.lt_of_lt_of_le inside countable
    exact (UInt64.ofNat_lt_iff_lt (Nat.lt_trans less word) word).mpr less

/-- Two of three transfers are kept, and the fourth has the log to itself. -/
example :
    let transfer : SimulatorEvent := .transfer fun request => .filled request.length [(0, 7)]
    let history : List SimulatorEvent :=
      [.start, transfer, transfer, .prepare (.underruns 3), transfer, .prepare .takeCaptured,
        .finish, .start, transfer]
    SimulatorEvent.overtakings history = [2, 1, 0, 0] ∧
      (log (create { bufferLength := 2, captureLimit := 2 }) history).map
          (fun entry => (entry.number, entry.request.underruns, entry.channels)) =
        [(1, 0, [some [7, 7]]), (2, 3, [some [7, 7]]), (3, 0, [some [7, 7]])] := by
  decide

end Simulator

end DacStream
