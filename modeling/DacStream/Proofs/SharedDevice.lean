import DacStream.Proofs.BenchRuns

/-!
# Sessions that share a device

Sessions on one simulator do not disturb each other (`Bench.sessions_share_device`).  The
simulator runs exactly if one of them has a run that goes on, and then there is no second one.
Each transfer is answered by the stream of that session, which never fails to, and a request
changes no session but the one that it is made to and the one that transmits
(`Bench.Shares.apart`).

A session that is activated while another one transmits finds the device busy.  Its run is
over at once, which nobody else notices.  It reports an underflow, then that the transmitter
has stopped, and that the device was busy when it is deactivated (`Bench.EndsBusy`), whatever
else goes on at the bench in between: as long as its owner does not interfere, all that
happens to such a session are requests that it was asked itself
(`Bench.sessions_after_of_over`).
-/

namespace DacStream

set_option autoImplicit false

/-! ## What a request has to do with a session -/

namespace BenchRequest

/-- Whether a request may change a session: it is made to it, or is a transfer, and this
session transmits. -/
def Touches (bench : Bench) (index : Nat) : BenchRequest → Prop
  | .ask place _ _ => place = index
  | .prepare _ => False
  | .step _ => bench.Transmits index
  | .stepDuring place _ _ _ => place = index ∨ bench.Transmits index

/-- Whether what the owner of a session asks is among the requests that are allowed. -/
def AsksOnly (index : Nat) (allowed : SessionRequest → Bool) : BenchRequest → Prop
  | .ask place request _ | .stepDuring place request _ _ => place = index → allowed request = true
  | .prepare _ | .step _ => True

end BenchRequest

namespace Bench

variable {bench : Bench} {simulator : Simulator} {index : Nat}

theorem sessions_ask_of_ne {place : Nat} {request : SessionRequest}
    (owners : request.isOwners = true) (other : place ≠ index) :
    ((BenchRequest.ask place request owners).run bench).sessions[index]? =
      bench.sessions[index]? := by
  cases there : bench.sessions[place]? with
  | none => simp [BenchRequest.run, ask, onBoth, there]
  | some session => simp [BenchRequest.run, ask, onBoth, there, List.getElem?_set_ne other]

theorem sessions_ask_self {session : Session} (there : bench.sessions[index]? = some session)
    (request : SessionRequest) (owners : request.isOwners = true) :
    ((BenchRequest.ask index request owners).run bench).sessions[index]? =
      some ((request.on bench.device).run session) := by
  obtain ⟨bound, rfl⟩ := List.getElem?_eq_some_iff.mp there
  simp [BenchRequest.run, ask, onBoth, bound]

theorem Shares.sessions_step_of_ne (shares : bench.Shares simulator)
    (still : ¬bench.Transmits index) (transfer : TransferRequest) :
    (bench.step transfer).2.sessions[index]? = bench.sessions[index]? := by
  cases running : simulator.running with
  | false => rw [shares.step_idle running]
  | true =>
      obtain ⟨place, session, there, transmits⟩ := shares.running_iff.mp running
      have other : place ≠ index := by
        rintro rfl
        exact still ⟨session, there, transmits⟩
      obtain ⟨stream, ending, rfl⟩ := Session.isTransmitting_iff.mp transmits
      obtain ⟨buffers, later, -, -, same⟩ := shares.step_eq there transfer
      rw [same]
      exact List.getElem?_set_ne other

/-- A request leaves the sessions alone that it has nothing to do with. -/
theorem Shares.apart (shares : bench.Shares simulator) {request : BenchRequest}
    (apart : ¬request.Touches bench index) :
    (request.run bench).sessions[index]? = bench.sessions[index]? := by
  cases request with
  | ask place request owners => exact sessions_ask_of_ne owners apart
  | prepare preparation => simp [BenchRequest.run, onSimulator, shares.device]
  | step transfer => exact shares.sessions_step_of_ne apart transfer
  | stepDuring place request waits transfer =>
      obtain ⟨other, still⟩ := not_or.mp apart
      rw [BenchRequest.run]
      obtain ⟨-, same⟩ | ⟨stream, ending, answer, buffers, later, -, -, same⟩ |
        ⟨session, attempted, -, transmits, rfl, sharesToo, same⟩ :=
        shares.askDuring_cases place waits transfer
      · rw [same]
        rfl
      · rw [same]
        exact List.getElem?_set_ne other
      · rw [same]
        have stillToo : ¬Transmits
            { bench with sessions := bench.sessions.set place (request.run session) } index := by
          rintro ⟨session', there, transmits⟩
          rw [List.getElem?_set_ne other] at there
          exact still ⟨session', there, transmits⟩
        exact (sharesToo.sessions_step_of_ne stillToo transfer).trans (List.getElem?_set_ne other)

/-- A request that waits in vain for a transfer of another session is made before it. -/
theorem Shares.sessions_stepDuring_self (shares : bench.Shares simulator) {session : Session}
    (there : bench.sessions[index]? = some session) (still : session.isTransmitting = false)
    {request : SessionRequest} (waits : request.mayWait = true) (transfer : TransferRequest) :
    ((BenchRequest.stepDuring index request waits transfer).run bench).sessions[index]? =
      some (request.run session) := by
  rw [BenchRequest.run]
  obtain ⟨missing, -⟩ | ⟨stream, ending, -, -, -, there', -⟩ |
    ⟨session', attempted, there', -, rfl, sharesToo, same⟩ :=
    shares.askDuring_cases index waits transfer
  · rw [there] at missing
    cases missing
  · rw [there] at there'
    cases there'
    cases still
  · rw [there] at there'
    cases there'
    have asked : (bench.sessions.set index (request.run session))[index]? =
        some (request.run session) :=
      List.getElem?_set_self (List.getElem?_eq_some_iff.mp there).1
    have sameRun := Session.isTransmitting_of_run? (SessionRequest.run?_of_leavesRun
      (SessionRequest.leavesRun_of_mayWait waits) session)
    have stillToo : ¬Transmits
        { bench with sessions := bench.sessions.set index (request.run session) } index := by
      rw [transmits_iff asked, sameRun, still]
      exact Bool.false_ne_true
    rw [same]
    exact (sharesToo.sessions_step_of_ne stillToo transfer).trans asked

/-! ## Sessions whose run is over -/

/-- What happens to a session whose run is over is what it is asked itself. -/
theorem sessions_run_of_over (shares : bench.Shares simulator) {stream : Stream}
    {ending : RunEnding} (there : bench.sessions[index]? = some (.active stream (.over ending)))
    {allowed : SessionRequest → Bool}
    (onDevice : ∀ device request, allowed (request.on device) = allowed request)
    {request : BenchRequest} (only : request.AsksOnly index allowed) :
    ∃ row, (∀ asked ∈ row, allowed asked = true) ∧
      (request.run bench).sessions[index]? =
        some ((Session.active stream (.over ending)).after row) := by
  have still : ¬bench.Transmits index := by
    rw [transmits_iff there]
    exact Bool.false_ne_true
  by_cases touches : request.Touches bench index
  · cases request with
    | ask place request owners =>
        obtain rfl : place = index := touches
        exact ⟨[request.on bench.device], by simpa [onDevice] using only rfl,
          sessions_ask_self there request owners⟩
    | prepare => exact touches.elim
    | step => exact absurd touches still
    | stepDuring place request waits transfer =>
        obtain rfl : place = index := touches.resolve_right still
        exact ⟨[request], by simpa using only rfl,
          shares.sessions_stepDuring_self there rfl waits transfer⟩
  · refine ⟨[], by simp, ?_⟩
    rw [shares.apart touches, there]
    rfl

/-- So it is through a row of requests. -/
theorem sessions_after_of_over (shares : bench.Shares simulator) {stream : Stream}
    {ending : RunEnding} (there : bench.sessions[index]? = some (.active stream (.over ending)))
    {allowed : SessionRequest → Bool}
    (onDevice : ∀ device request, allowed (request.on device) = allowed request)
    (keeps : ∀ request, allowed request = true → request.keepsActivation = true)
    {requests : List BenchRequest} (only : ∀ request ∈ requests, request.AsksOnly index allowed) :
    ∃ row, (∀ asked ∈ row, allowed asked = true) ∧
      (bench.after requests).sessions[index]? =
        some ((Session.active stream (.over ending)).after row) := by
  induction requests generalizing bench simulator stream with
  | nil => exact ⟨[], by simp, there⟩
  | cons request requests inductionHypothesis =>
      obtain ⟨row, allowedRow, reached⟩ :=
        sessions_run_of_over shares there onDevice (only request List.mem_cons_self)
      obtain ⟨left, sharesLater⟩ := shares_run shares request
      obtain ⟨next, same⟩ := Session.over_after
        (fun asked listed => keeps asked (allowedRow asked listed)) stream ending
      rw [same] at reached
      obtain ⟨rest, allowedRest, reachedLater⟩ := inductionHypothesis sharesLater reached
        fun other listed => only other (List.mem_cons_of_mem _ listed)
      refine ⟨row ++ rest, ?_, ?_⟩
      · intro asked listed
        rcases List.mem_append.mp listed with early | late
        · exact allowedRow asked early
        · exact allowedRest asked late
      · rw [after_cons, reachedLater, Session.after_append, same]

/-! ## A busy device -/

/-- How a session whose activation found the device busy comes to know of it. -/
structure EndsBusy (bench : Bench) (index : Nat) : Prop where
  /-- It reports an underflow, whatever is asked at the bench in between, as long as its owner
  asks for no status or reset and raises no fault. -/
  underflow : ∀ between : List BenchRequest,
    (∀ request ∈ between, request.AsksOnly index SessionRequest.leavesStatus) →
      ∃ session, (bench.after between).sessions[index]? = some session ∧
        session.readStatus.1 = .fault .underflow
  /-- After that it reports that the transmitter has stopped. -/
  stopped : ∀ between later : List BenchRequest,
    (∀ request ∈ between ++ later, request.AsksOnly index SessionRequest.leavesStatus) →
      ∃ session,
        (bench.after (between ++ .ask index .readStatus rfl :: later)).sessions[index]? =
          some session ∧ session.readStatus.1 = .transmitterStopped
  /-- When it is deactivated, it reports that the device was busy, and leaves the device
  alone. -/
  busy : ∀ between : List BenchRequest,
    (∀ request ∈ between, request.AsksOnly index SessionRequest.keepsActivation) →
      ∃ session, (bench.after between).sessions[index]? = some session ∧
        ∃ emptied, ∀ device, session.deactivate 0 device =
          (.error (.device .busy), .configured emptied, device)

theorem after_append (bench : Bench) (requests later : List BenchRequest) :
    bench.after (requests ++ later) = (bench.after requests).after later :=
  List.foldl_append

theorem leavesStatus_on (device : Device) (request : SessionRequest) :
    (request.on device).leavesStatus = request.leavesStatus := by
  cases request <;> rfl

theorem keepsActivation_on (device : Device) (request : SessionRequest) :
    (request.on device).keepsActivation = request.keepsActivation := by
  cases request <;> rfl

theorem endsBusy_of_over (shares : bench.Shares simulator) {stream : Stream}
    (there : bench.sessions[index]? = some (.active stream (.over (.failed .busy))))
    (notice : stream.handover.ring.statusNotice = some .underflow) : bench.EndsBusy index := by
  -- Through requests that leave the status, the session stays over and keeps its notice.
  have goesOn {bench : Bench} {simulator : Simulator} (shares : bench.Shares simulator)
      {stream : Stream}
      (there : bench.sessions[index]? = some (.active stream (.over (.failed .busy))))
      {requests : List BenchRequest}
      (only : ∀ request ∈ requests, request.AsksOnly index SessionRequest.leavesStatus) :
      ∃ later, (bench.after requests).sessions[index]? =
          some (.active later (.over (.failed .busy))) ∧
        later.handover.ring.statusNotice = stream.handover.ring.statusNotice := by
    obtain ⟨row, leave, reached⟩ := sessions_after_of_over shares there leavesStatus_on
      (fun _ => SessionRequest.keepsActivation_of_leavesStatus) only
    have kept := Session.statusNotice?_after leave stream (.failed .busy)
    obtain ⟨later, same⟩ := Session.over_after (fun asked listed =>
      SessionRequest.keepsActivation_of_leavesStatus (leave asked listed)) stream (.failed .busy)
    rw [same] at reached kept
    exact ⟨later, reached, kept⟩
  refine ⟨?_, ?_, ?_⟩
  · intro between only
    obtain ⟨later, reached, kept⟩ := goesOn shares there only
    refine ⟨_, reached, ?_⟩
    rw [Session.readStatus_of_over, kept, notice]
    rfl
  · intro between later only
    obtain ⟨first, reached, -⟩ := goesOn shares there fun request listed =>
      only request (List.mem_append_left _ listed)
    obtain ⟨left, sharesFirst⟩ := shares_after shares between
    have read := sessions_ask_self reached .readStatus rfl
    obtain ⟨leftToo, sharesRead⟩ := shares_ask sharesFirst index .readStatus rfl
    obtain ⟨last, reachedLast, kept⟩ := goesOn sharesRead read fun request listed =>
      only request (List.mem_append_right _ listed)
    refine ⟨_, by rw [after_append, after_cons]; exact reachedLast, ?_⟩
    rw [Session.readStatus_of_over, kept]
    rfl
  · intro between only
    obtain ⟨row, keep, reached⟩ := sessions_after_of_over shares there keepsActivation_on
      (fun _ => id) only
    obtain ⟨later, same⟩ := Session.over_after keep stream (.failed .busy)
    rw [same] at reached
    exact ⟨_, reached, later.restart, fun device => Session.deactivate_of_over later _ device⟩

/-! ## Every bench -/

/-- How the sessions of a bench share its device. -/
structure SharesDevice (bench : Bench) : Prop where
  /-- The device runs exactly if some session is active and its run goes on. -/
  running : bench.device.running = true ↔ ∃ index, bench.Transmits index
  /-- There are never two such sessions. -/
  unique : ∀ first second, bench.Transmits first → bench.Transmits second → first = second
  /-- A transfer is answered by the stream of that session.  No other session and no other
  part of it changes, and the simulator transmits what it was answered. -/
  served : ∀ index stream ending transfer,
    bench.sessions[index]? = some (.active stream (.untilStopped ending)) →
      ∃ simulator buffers later, bench.device = .simulated simulator ∧
        stream.serve simulator.config.channels simulator.request = (some buffers, later) ∧
        bench.step transfer = (.stepped (.ok ()),
          { device := .simulated (afterTransfer simulator buffers)
            sessions := bench.sessions.set index (.active later (.untilStopped ending)) })
  /-- No transfer fails, whether somebody waits for it or not. -/
  answered : ∀ (request : BenchRequest) (answer : StepAnswer),
    request.stepAnswer? bench = some answer →
      answer = if bench.device.running then .stepped (.ok ()) else .notRunning
  /-- A request changes no session that it has nothing to do with. -/
  apart : ∀ (request : BenchRequest) (index : Nat), ¬request.Touches bench index →
    (request.run bench).sessions[index]? = bench.sessions[index]?
  /-- Who activates a session while the device runs is told so later.  Neither the device
  nor another session notices. -/
  busy : ∀ index stream device, bench.sessions[index]? = some (.configured stream) →
    bench.device.running = true →
      ∃ later, bench.ask index (.activate 0 device) =
          some (.driven (.ok ()) bench.device, later) ∧
        later.device = bench.device ∧
        (∀ other, other ≠ index → later.sessions[other]? = bench.sessions[other]?) ∧
        later.EndsBusy index

/-- No transfer fails. -/
theorem Shares.stepAnswer (shares : bench.Shares simulator) {transfer : TransferRequest} :
    (bench.step transfer).1 =
      if simulator.running then .stepped (.ok ()) else .notRunning := by
  cases running : simulator.running with
  | false => rw [shares.step_idle running]; rfl
  | true =>
      obtain ⟨index, session, there, transmits⟩ := shares.running_iff.mp running
      obtain ⟨stream, ending, rfl⟩ := Session.isTransmitting_iff.mp transmits
      obtain ⟨buffers, later, -, -, same⟩ := shares.step_eq there transfer
      rw [same]
      rfl

theorem Shares.stepAnswer? (shares : bench.Shares simulator) {request : BenchRequest}
    {answer : StepAnswer} (given : request.stepAnswer? bench = some answer) :
    answer = if simulator.running then .stepped (.ok ()) else .notRunning := by
  cases request with
  | ask | prepare => cases given
  | step transfer =>
      cases given
      exact shares.stepAnswer
  | stepDuring index request waits transfer =>
      rw [BenchRequest.stepAnswer?] at given
      obtain ⟨-, same⟩ | ⟨stream, ending, _, buffers, later, there, -, same⟩ |
        ⟨session, attempted, -, -, -, sharesToo, same⟩ :=
        shares.askDuring_cases index waits transfer
      · rw [same] at given
        cases given
      · rw [same] at given
        cases given
        rw [if_pos (shares.running_iff.mpr ⟨index, _, there, rfl⟩)]
      · rw [same] at given
        cases given
        exact sharesToo.stepAnswer

/-- An activation on a busy device ends, and only this session is changed by it. -/
theorem Shares.ask_activate_busy (shares : bench.Shares simulator) {stream : Stream}
    (there : bench.sessions[index]? = some (.configured stream))
    (running : simulator.running = true) (device : Device) :
    bench.ask index (.activate 0 device) = some (.driven (.ok ()) bench.device,
      { bench with
        sessions := bench.sessions.set index
          (.active (stream.restart.noteEnding (.failed .busy)) (.over (.failed .busy))) }) := by
  obtain ⟨error, left, -, busy, same⟩ | ⟨free, -⟩ := Session.activate_simulated simulator stream
  · obtain ⟨rfl, rfl⟩ := busy running
    simp only [ask, onBoth, there, Option.map_some, shares.device, SessionRequest.on,
      SessionRequest.answer, SessionRequest.run, same, SessionAnswer.device?, Option.getD_some]
  · rw [running] at free
    cases free

theorem SharesDevice.of_shares (shares : bench.Shares simulator) : bench.SharesDevice := by
  have sameRunning : bench.device.running = simulator.running := by rw [shares.device]; rfl
  refine
    { running := by rw [sameRunning]; exact shares.running_iff
      unique := fun _ _ one other => shares.unique one other
      served := ?_
      answered := fun _ _ given => by rw [sameRunning]; exact shares.stepAnswer? given
      apart := fun _ _ untouched => shares.apart untouched
      busy := ?_ }
  · intro index stream ending transfer there
    obtain ⟨buffers, later, -, served, same⟩ := shares.step_eq there transfer
    exact ⟨simulator, buffers, later, shares.device, served, same⟩
  · intro index stream device there running
    rw [sameRunning] at running
    have asked := shares.ask_activate_busy there running device
    obtain ⟨left, sharesLater⟩ := shares_ask shares index (.activate 0 device) rfl
    simp only [BenchRequest.run, asked, Option.map_some, Option.getD_some] at sharesLater
    refine ⟨_, asked, rfl, fun other different => List.getElem?_set_ne (Ne.symm different), ?_⟩
    exact endsBusy_of_over sharesLater
      (List.getElem?_set_self (List.getElem?_eq_some_iff.mp there).1) rfl

/-- **Sessions that share a device do not disturb each other**, whatever was asked of them in
any order, whatever faults were prepared, and however many of them there are. -/
theorem sessions_share_device (config : SimulatorConfig) (sessions : Nat)
    (history : List BenchRequest) :
    ((create (.simulated (Simulator.create config)) sessions).after history).SharesDevice := by
  obtain ⟨simulator, shares⟩ := shares_after (shares_create config sessions) history
  exact .of_shares shares

/-- The second session is activated while the first one transmits. -/
example :
    let setUp : SessionRequest := .setUp { format := ⟨.u8, false⟩ } Session.soleDevice.limits
    let activate : SessionRequest := .activate 0 Session.soleDevice
    let bench := (create (.simulated (Simulator.create {})) 2).after
      [.ask 0 setUp rfl, .ask 1 setUp rfl, .ask 0 activate rfl, .ask 1 activate rfl]
    bench.device.running = true ∧ bench.sessions.map Session.isTransmitting = [true, false] ∧
      bench.sessions.map (·.counters.underflows) = [0, 1] := by
  decide

end Bench

end DacStream
