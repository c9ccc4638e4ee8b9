import DacStream.Device.Simulator

/-!
# Trial runs

A trial drives a simulator with a scripted source, to see what the simulator
does by itself.  The source answers its first call by the first entry of the
script, the second by the second, and all further calls by the last one.
-/

namespace DacStream

set_option autoImplicit false

/-! ## Scripted sources -/

/-- Buffers of a length, each of one byte throughout. -/
def BufferSet.filled (length : Nat) (fills : List (Nat × UInt8)) : BufferSet Bytes :=
  fills.foldl (fun buffers fill => buffers.set fill.1 (List.replicate length fill.2))
    (BufferSet.empty length)

/-- What a scripted source does at one call. -/
inductive SourceEntry where
  /-- Answers with buffers of a length, each of one byte throughout. -/
  | buffers (length : Nat) (fills : List (Nat × UInt8))
  | crash
  deriving DecidableEq, Repr

/-- The buffer set an entry stands for, unless it crashes. -/
def SourceEntry.answer? : SourceEntry → Option (BufferSet Bytes)
  | .buffers length fills => some (BufferSet.filled length fills)
  | .crash => none

/-- A scripted source and what it was asked so far. -/
structure ScriptedSource where
  script : List SourceEntry
  /-- The requests, first one first. -/
  seen : List TransferRequest := []
  deriving DecidableEq, Repr

/-- Answers a request.  An empty script stands for empty buffers. -/
def ScriptedSource.answer (request : TransferRequest) (source : ScriptedSource) :
    Option (BufferSet Bytes) × ScriptedSource :=
  let entry := (source.script[source.seen.length]?.or source.script.getLast?).getD (.buffers 0 [])
  (entry.answer?, { source with seen := source.seen ++ [request] })

/-! ## Trials -/

/-- A simulator, a source, and the run that was started and not yet joined. -/
structure Trial where
  simulator : Simulator
  source : ScriptedSource
  run? : Option Run := none
  deriving DecidableEq, Repr

namespace Trial

/-- A trial that has not begun. -/
def create (config : SimulatorConfig) (script : List SourceEntry) : Trial where
  simulator := Simulator.create config
  source := { script := script }

/-- Makes one transfer.  If the source crashes, the run is over. -/
def transfer (trial : Trial) : Except DeviceError Unit × Trial :=
  let (answer, simulator, source) :=
    trial.simulator.transfer ScriptedSource.answer trial.source
  let run? := match answer with
    | .ok _ => trial.run?
    | .error _ => some (.over .crashed)
  (answer, { trial with simulator := simulator, source := source, run? := run? })

/-- Asks for a transfer.  Without a run that goes on, nobody answers. -/
def step (trial : Trial) : Except DeviceError Unit × Trial :=
  match trial.run? with
  | some (.untilStopped _) => trial.transfer
  | _ => (.error .timeout, trial)

/-- Asks for several transfers, one after the other. -/
def steps : Nat → Trial → List (Except DeviceError Unit) × Trial
  | 0, trial => ([], trial)
  | count + 1, trial =>
      let (answer, next) := trial.step
      let (answers, last) := steps count next
      (answer :: answers, last)

/-- Starts a run for which transfers were asked for in advance; the answer tells
how each of them went. -/
def start (trial : Trial) (queued : Nat) :
    Except DeviceError (List (Except DeviceError Unit)) × Trial :=
  match trial.simulator.start with
  | (.error error, simulator) => (.error error, { trial with simulator := simulator })
  | (.ok _, simulator) =>
      let (answers, done) :=
        steps queued { trial with simulator := simulator, run? := some (.untilStopped .returned) }
      (.ok answers, done)

/-- Starts a run that was asked to stop before it began. -/
def startStopped (trial : Trial) : Except DeviceError Unit × Trial :=
  match trial.simulator.start with
  | (.error error, simulator) => (.error error, { trial with simulator := simulator })
  | (.ok _, simulator) => (.ok (), { trial with simulator := simulator.finish })

/-- Stops the run and waits for its end, if one was started. -/
def stop (trial : Trial) : Option RunEnding × Trial :=
  match trial.run? with
  | none => (none, trial)
  | some (.untilStopped ending) =>
      (some ending, { trial with simulator := trial.simulator.finish, run? := none })
  | some (.over ending) => (some ending, { trial with run? := none })

end Trial

/-! ## Timed trials -/

/-- What a timed run leaves behind. -/
structure TimedReport where
  ending : RunEnding
  /-- The number of transfers in the capture. -/
  captured : Nat
  /-- Whether the captured transfers are numbered without a gap. -/
  consecutive : Bool
  /-- Whether the last captured transfer is the last one of all. -/
  newest : Bool
  /-- What was on air, with equal transfers in a row taken as one. -/
  contents : List (List (Option Bytes))
  deriving DecidableEq, Repr

/-- Whether each number is the one after the number before it. -/
def consecutiveNumbers : List UInt64 → Bool
  | first :: second :: rest => second == first + 1 && consecutiveNumbers (second :: rest)
  | _ => true

/-- The list with equal neighbours taken as one. -/
def mergeNeighbours {α : Type} [DecidableEq α] : List α → List α
  | first :: second :: rest =>
      if first = second then mergeNeighbours (second :: rest)
      else first :: mergeNeighbours (second :: rest)
  | short => short

/-- Runs a simulator by itself until `count` transfers have been made, and stops
it then. -/
def TimedReport.ofTrial (trial : Trial) (count : Nat) : TimedReport :=
  let (_, started) := trial.start count
  let (ending?, stopped) := started.stop
  let log := stopped.simulator.captured
  { ending := ending?.getD .returned
    captured := log.length
    consecutive := consecutiveNumbers (log.map Capture.number)
    newest := log.getLast?.all fun last => last.number + 1 == stopped.simulator.transfers
    contents := mergeNeighbours (log.map Capture.channels) }

end DacStream
