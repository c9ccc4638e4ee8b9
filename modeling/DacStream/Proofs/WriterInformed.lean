import DacStream.Handover.Waiting
import DacStream.Proofs.HandleLifetime
import DacStream.Proofs.QuietRequests

/-!
# The writer misses no fault

The writer is told of a fault when it asks the hand-over for a slot.  A write that goes
on with the slot in work does not ask, and yet no fault is missed: a slot of the current
epoch, with nothing pending, was got after the writer had been told everything there was
to tell (`SlotRing.Informs`).  A fault that was raised since is pending, or the drain
that settled it has begun another epoch, and in both cases the slot in work is dropped.

So a write answers with a fault exactly when asking for a slot would
(`Session.write_hides_no_fault`).
-/

namespace DacStream

set_option autoImplicit false

/-! ## Slots that hide no notice -/

/-- A writer with a slot of some epoch misses no notice as long as it looks whether the
epoch is over and whether something is pending. -/
structure SlotRing.Informs (ring : SlotRing) (epoch : Nat) : Prop where
  reached : epoch ≤ ring.epoch
  told : epoch = ring.epoch → ring.pending = none → ring.writerNotice = none

theorem SlotRing.Informs.settle {ring : SlotRing} {epoch : Nat} (informs : ring.Informs epoch) :
    ring.settle.Informs epoch := by
  by_cases calm : ring.pending = none
  · rwa [ring.settle_of_not_pending calm]
  · have late : ring.settle.epoch = ring.epoch + 1 := (settle_of_pending calm).2.2.2
    have past : epoch < ring.settle.epoch := late ▸ Nat.lt_succ_of_le informs.reached
    exact ⟨Nat.le_of_lt past, fun same => absurd same (Nat.ne_of_lt past)⟩

namespace Handover

variable {handover : Handover} {epoch : Nat}

/-- Nothing that is asked of a hand-over makes an earlier slot hide a notice. -/
theorem informs_run (informs : handover.ring.Informs epoch) (request : HandoverRequest) :
    (request.run handover).ring.Informs epoch := by
  have settled := informs.settle
  cases request with
  | acquire =>
      show handover.acquire.2.ring.Informs epoch
      obtain ⟨fault, -, same⟩ | ⟨-, -, same⟩ | ⟨-, -, tick, same⟩ := handover.acquire_cases <;>
        rw [same]
      · exact ⟨settled.reached, fun _ _ => rfl⟩
      · exact settled
      · exact ⟨settled.reached, settled.told⟩
  | release handle =>
      show (handover.release handle).2.ring.Informs epoch
      obtain ⟨-, same⟩ | ⟨-, -, same⟩ | ⟨-, -, same⟩ := handover.release_cases handle <;> rw [same]
      · exact informs
      · exact informs
      · exact ⟨informs.reached, informs.told⟩
  | take =>
      show handover.take.2.ring.Informs epoch
      obtain ⟨-, -, -, same⟩ | ⟨-, -, -, same⟩ | ⟨-, -, same⟩ := handover.take_cases <;> rw [same]
      · exact ⟨settled.reached, settled.told⟩
      · exact ⟨settled.reached, fun _ calm => nomatch calm⟩
      · exact ⟨settled.reached, settled.told⟩
  | requestReset | raise => exact ⟨informs.reached, fun _ calm => nomatch calm⟩
  | restart =>
      have past : epoch < handover.ring.epoch + 1 := Nat.lt_succ_of_le informs.reached
      exact ⟨Nat.le_of_lt past, fun same => absurd same (Nat.ne_of_lt past)⟩
  | skip | pollFault | setClock => exact ⟨informs.reached, informs.told⟩

/-- A writer that gets a slot has been told everything. -/
theorem informs_acquire {grant : Grant} (granted : handover.acquire.1 = .ok grant) :
    handover.acquire.2.ring.Informs grant.handle.epoch := by
  obtain ⟨fault, -, same⟩ | ⟨-, -, same⟩ | ⟨notice, -, tick, same⟩ := handover.acquire_cases <;>
    rw [same] at granted ⊢
  · exact nomatch granted
  · exact nomatch granted
  · obtain rfl := Except.ok.inj granted
    exact ⟨Nat.le_refl _, fun _ _ => notice⟩

end Handover

/-! ## The slot in work -/

namespace Stream

/-- The slot in work hides no notice. -/
def Informed (stream : Stream) : Prop :=
  ∀ slot, stream.inWork = some slot → stream.handover.ring.Informs slot.handle.epoch

variable {stream later : Stream}

theorem informs_of_moves {epoch : Nat} (informs : stream.handover.ring.Informs epoch)
    (moves : stream.Moves later) : later.handover.ring.Informs epoch := by
  induction moves with
  | refl => exact informs
  | tail _ move inductionHypothesis =>
      cases move with
      | handOver request => exact Handover.informs_run inductionHypothesis request
      | refill | work => exact inductionHypothesis

theorem Informed.of_moves (informed : stream.Informed) (moves : stream.Moves later)
    (kept : later.inWork = stream.inWork) : later.Informed :=
  fun slot inWork => informs_of_moves (informed slot (kept ▸ inWork)) moves

theorem Informed.dropStale (informed : stream.Informed) : stream.dropStale.Informed := by
  obtain ⟨slot, -, -, same⟩ | ⟨same, -⟩ := stream.dropStale_cases <;> rw [same]
  · exact fun _ nothing => nomatch nothing
  · exact informed

/-- A slot that is claimed hides no notice. -/
theorem Informed.claim (informed : stream.Informed) {slot : PartialSlot}
    (claimed : stream.claim.1 = .ok slot) :
    stream.claim.2.handover.ring.Informs slot.handle.epoch := by
  obtain ⟨found, work, same⟩ | ⟨-, error, -, same⟩ | ⟨-, grant, granted, same⟩ :=
    stream.claim_cases <;> rw [same] at claimed ⊢
  · obtain rfl := Except.ok.inj claimed
    exact informed found work
  · exact nomatch claimed
  · obtain rfl := Except.ok.inj claimed
    exact Handover.informs_acquire granted

variable {α : Type} [Sample α] {inputs : List (List α)} {count : Nat}

/-- Afterwards the slot that was written is in work, or what was in work before. -/
theorem inWork_writeInto (stream : Stream) (slot : PartialSlot) (inputs : List (List α))
    (wanted : Nat) :
    (stream.writeInto slot inputs wanted).2.inWork = stream.inWork ∨
      ∃ filled, (stream.writeInto slot inputs wanted).2.inWork = some ⟨slot.handle, filled⟩ := by
  obtain ⟨_, -, written, rfl, ⟨-, same⟩ | ⟨-, same⟩⟩ := stream.writeInto_cases slot inputs wanted
  · exact .inl (by rw [same, release_eq, inWork_withSlots])
  · exact .inr ⟨_, by rw [same]⟩

theorem Informed.write (informed : stream.Informed) (inputs : List (List α)) (count : Nat) :
    (stream.write inputs count).2.Informed := by
  obtain ⟨-, error, same, -⟩ | ⟨-, -, same⟩ | ⟨-, -, error, -, same⟩ | ⟨-, -, slot, claimed, same⟩ :=
    stream.write_cases inputs count <;> rw [same]
  · exact informed
  · exact informed
  · intro slot work
    rw [inWork_claim] at work
    exact nomatch work
  · intro found work
    have current := informed.dropStale.claim claimed
    have moves := stream.dropStale.claim.2.moves_writeInto slot inputs
      (stream.requested inputs count)
    obtain kept | ⟨filled, written⟩ :=
      stream.dropStale.claim.2.inWork_writeInto slot inputs (stream.requested inputs count)
    · rw [kept, inWork_claim] at work
      exact nomatch work
    · rw [written] at work
      obtain rfl := Option.some.inj work
      exact informs_of_moves current moves

/-! ## What a write answers -/

/-- As long as the slot in work is fit for use, nothing is pending and there is nothing to
tell the writer. -/
theorem Informed.nothing_to_tell (informed : stream.Informed) {slot : PartialSlot}
    (work : stream.dropStale.inWork = some slot) :
    stream.handover.hasPendingEvent = false ∧ stream.handover.ring.writerNotice = none := by
  obtain ⟨-, -, -, same⟩ | ⟨same, current⟩ := stream.dropStale_cases <;> rw [same] at work
  · exact nomatch work
  · obtain ⟨calm, epoch⟩ := current slot work
    have settled := Handover.hasPendingEvent_eq_false_iff.mp calm
    exact ⟨calm, (informed slot work).told epoch settled⟩

/-- Writing into a slot goes wrong only if the slot cannot be published. -/
theorem writeInto_error {slot : PartialSlot} {wanted : Nat} {error : StreamError}
    (failed : (stream.writeInto slot inputs wanted).1 = .error error) :
    error = .invalidHandle slot.handle.index := by
  obtain ⟨_, -, written, rfl, ⟨-, same⟩ | ⟨-, same⟩⟩ := stream.writeInto_cases slot inputs wanted <;>
    rw [same] at failed
  · rw [release_eq] at failed
    obtain ⟨-, answer⟩ | ⟨-, -, answer⟩ | ⟨-, -, answer⟩ :=
      (stream.withSlots _).handover.release_cases slot.handle <;> rw [answer] at failed
    · exact nomatch failed
    · exact (Except.error.inj failed).symm
    · exact nomatch failed
  · exact nomatch failed

/-- Without a slot in work that is fit for use, a write asks for one, and if it gets none
it answers as the hand-over does. -/
theorem write_of_nothing (accepts : stream.Accepts inputs)
    (some : 0 < stream.requested inputs count) (nothing : stream.dropStale.inWork = none) :
    (∃ error, stream.handover.acquire.1 = .error error ∧
      stream.write inputs count =
        (.error error, { stream with handover := stream.handover.acquire.2, inWork := none })) ∨
    (∃ grant, stream.handover.acquire.1 = .ok grant ∧
      ∀ error, (stream.write inputs count).1 = .error error →
        ∃ index, error = .invalidHandle index) := by
  have dropped : stream.dropStale = { stream with inWork := none } := by
    obtain ⟨-, -, -, same⟩ | ⟨same, -⟩ := stream.dropStale_cases
    · exact same
    · rw [same] at nothing ⊢
      rw [← nothing]
  obtain ⟨refused, -⟩ | ⟨-, none, -⟩ | ⟨-, -, error, failed, same⟩ | ⟨-, -, slot, claimed, same⟩ :=
    stream.write_cases inputs count
  · exact absurd accepts refused
  · exact absurd some (by rw [none]; exact Nat.lt_irrefl 0)
  · left
    obtain ⟨_, work, -⟩ | ⟨-, _, asked, answer⟩ | ⟨-, _, -, answer⟩ := stream.dropStale.claim_cases
    · rw [nothing] at work
      exact nomatch work
    · rw [answer] at failed
      obtain rfl := Except.error.inj failed
      rw [handover_dropStale] at asked
      refine ⟨_, asked, ?_⟩
      rw [same, answer, dropped]
    · rw [answer] at failed
      exact nomatch failed
  · right
    obtain ⟨_, work, -⟩ | ⟨-, _, -, answer⟩ | ⟨-, grant, granted, -⟩ :=
      stream.dropStale.claim_cases
    · rw [nothing] at work
      exact nomatch work
    · rw [answer] at claimed
      exact nomatch claimed
    · rw [handover_dropStale] at granted
      refine ⟨grant, granted, fun error failed => ?_⟩
      rw [same] at failed
      exact ⟨_, writeInto_error failed⟩

/-- So it answers with a timeout or a fault exactly when the hand-over does. -/
theorem write_error_iff (accepts : stream.Accepts inputs)
    (some : 0 < stream.requested inputs count) (nothing : stream.dropStale.inWork = none)
    {error : StreamError} (other : ∀ index, error ≠ .invalidHandle index) :
    (stream.write inputs count).1 = .error error ↔ stream.handover.acquire.1 = .error error := by
  obtain ⟨told, asked, same⟩ | ⟨grant, granted, answers⟩ := write_of_nothing accepts some nothing
  · simp only [asked, same, Except.error.injEq]
  · constructor
    · intro failed
      obtain ⟨index, refused⟩ := answers error failed
      exact absurd refused (other index)
    · rw [granted]
      exact fun failed => nomatch failed

/-- With a slot in work that is fit for use, a write does not ask for another. -/
theorem write_of_inWork (accepts : stream.Accepts inputs)
    (some : 0 < stream.requested inputs count) {slot : PartialSlot}
    (work : stream.dropStale.inWork = .some slot) {error : StreamError}
    (failed : (stream.write inputs count).1 = .error error) :
    error = .invalidHandle slot.handle.index := by
  have claims : stream.dropStale.claim.1 = .ok slot := by
    rw [claim, work]
  obtain ⟨refused, -⟩ | ⟨-, none, -⟩ | ⟨-, -, _, answer, -⟩ | ⟨-, -, _, claimed, same⟩ :=
    stream.write_cases inputs count
  · exact absurd accepts refused
  · exact absurd some (by rw [none]; exact Nat.lt_irrefl 0)
  · rw [claims] at answer
    exact nomatch answer
  · rw [claims] at claimed
    obtain rfl := Except.ok.inj claimed
    rw [same] at failed
    exact writeInto_error failed

/-- A write answers with a fault exactly when asking for a slot would. -/
theorem Informed.write_fault_iff (informed : stream.Informed) (accepts : stream.Accepts inputs)
    (some : 0 < stream.requested inputs count) (fault : Fault) :
    (stream.write inputs count).1 = .error (.fault fault) ↔
      stream.handover.acquire.1 = .error (.fault fault) := by
  cases work : stream.dropStale.inWork with
  | none => exact write_error_iff accepts some work (by simp)
  | some slot =>
      obtain ⟨calm, notice⟩ := informed.nothing_to_tell work
      constructor
      · intro failed
        exact nomatch write_of_inWork accepts some work failed
      · intro told
        have settled := Handover.settle_of_calm (Handover.hasPendingEvent_eq_false_iff.mp calm)
        have due := (stream.handover.acquire_fault_iff fault).mp told
        rw [settled, notice] at due
        cases due

end Stream

/-! ## Sessions -/

namespace Session

/-- What is asked of the hand-over while a session waits. -/
def handOver (request : HandoverRequest) (session : Session) : Session :=
  session.mapStream fun stream => { stream with handover := request.run stream.handover }

/-- The slot in work, if the session has a stream, hides no notice. -/
def Informed (session : Session) : Prop :=
  ∀ stream, session.stream? = some stream → stream.Informed

variable {session : Session}

theorem Informed.run (informed : session.Informed) (request : SessionRequest) :
    (request.run session).Informed := by
  intro later reached
  obtain nothing | ⟨stream, has, ⟨moves, kept⟩ | ⟨_, _, inputs, count, rfl⟩⟩ :=
    SessionRequest.work_cases reached
  · intro slot inWork
    rw [nothing] at inWork
    exact nomatch inWork
  · exact (informed stream has).of_moves moves kept
  · exact (informed stream has).write inputs count

/-- Along a run, the slot in work hides no notice. -/
theorem Informed.after (informed : session.Informed) (requests : List SessionRequest) :
    (session.after requests).Informed := by
  induction requests generalizing session with
  | nil => exact informed
  | cons request requests inductionHypothesis => exact inductionHypothesis (informed.run request)

theorem informed_idle : idle.Informed := by
  rintro stream ⟨⟩

variable {α : Type} [Sample α] {inputs : List (List α)} {count : Nat} {stream : Stream}
  {ending : RunEnding}

theorem write_active (stream : Stream) (ending : RunEnding) (inputs : List (List α))
    (count : Nat) :
    (active stream (.untilStopped ending)).write inputs count =
      ((stream.write inputs count).1,
        active (stream.write inputs count).2 (.untilStopped ending)) := rfl

/-- A write that waits for a slot is told of a fault exactly when the hand-over tells of it
one who waits there, whatever is asked of the hand-over meanwhile. -/
theorem write_waiting_fault_iff (accepts : stream.Accepts inputs)
    (some : 0 < stream.requested inputs count) (nothing : stream.dropStale.inWork = none)
    (meanwhile : List HandoverRequest) (fault : Fault) :
    (attemptThrough (fun session => session.write inputs count) (meanwhile.map handOver)
        (active stream (.untilStopped ending))).1 = .error (.fault fault) ↔
      (attemptThrough Handover.acquire (meanwhile.map HandoverRequest.run) stream.handover).1 =
        .error (.fault fault) := by
  induction meanwhile generalizing stream with
  | nil => exact Stream.write_error_iff accepts some nothing (by simp)
  | cons request meanwhile inductionHypothesis =>
      have timesOut : (stream.write inputs count).1 = .error .timeout ↔
          stream.handover.acquire.1 = .error .timeout :=
        Stream.write_error_iff accepts some nothing (by simp)
      by_cases waits : stream.handover.acquire.1 = .error .timeout
      · obtain ⟨error, asked, same⟩ | ⟨grant, granted, -⟩ :=
          Stream.write_of_nothing accepts some nothing
        · obtain rfl := Except.error.inj (asked.symm.trans waits)
          have writes : (active stream (.untilStopped ending)).write inputs count =
              (.error .timeout,
                active { stream with handover := stream.handover.acquire.2, inWork := none }
                  (.untilStopped ending)) := by
            rw [write_active, same]
          rw [List.map_cons, List.map_cons,
            attemptThrough_of_timeout (fun session : Session => session.write inputs count) writes,
            attemptThrough_of_timeout Handover.acquire (Prod.ext waits rfl)]
          -- The attempt left nothing in work, so the next one asks the hand-over again.
          exact inductionHypothesis accepts some rfl
        · rw [granted] at waits
          exact nomatch waits
      · have writes : ((active stream (.untilStopped ending)).write inputs count).1 ≠
            .error .timeout := mt timesOut.mp waits
        rw [List.map_cons, List.map_cons,
          attemptThrough_of_answer (fun session : Session => session.write inputs count) writes,
          attemptThrough_of_answer Handover.acquire waits]
        exact Stream.write_error_iff accepts some nothing (by simp)

/-- **A write hides no fault**, whatever was asked of a session since it was idle.  While
the device transmits, a write of something answers with a fault exactly when asking the
hand-over for a slot would; if it needs a slot, it may even wait for it.  When it goes on
with the slot in work instead, nothing is pending and there is nothing to tell. -/
theorem write_hides_no_fault {requests : List SessionRequest}
    (reached : idle.after requests = .active stream (.untilStopped ending))
    (accepts : stream.Accepts inputs) (some : 0 < stream.requested inputs count) :
    (∀ fault, ((active stream (.untilStopped ending)).write inputs count).1 =
        .error (.fault fault) ↔ stream.handover.acquire.1 = .error (.fault fault)) ∧
      (stream.dropStale.inWork = none → ∀ (meanwhile : List HandoverRequest) (fault : Fault),
        (attemptThrough (fun session => session.write inputs count) (meanwhile.map handOver)
            (active stream (.untilStopped ending))).1 = .error (.fault fault) ↔
          (attemptThrough Handover.acquire (meanwhile.map HandoverRequest.run)
            stream.handover).1 = .error (.fault fault)) ∧
      ∀ slot, stream.dropStale.inWork = .some slot →
        stream.handover.hasPendingEvent = false ∧ stream.handover.ring.writerNotice = none := by
  have informed : stream.Informed :=
    informed_idle.after requests stream (by rw [reached]; rfl)
  exact ⟨informed.write_fault_iff accepts some,
    fun nothing => write_waiting_fault_iff accepts some nothing,
    fun slot work => informed.nothing_to_tell work⟩

/-- A slot in work that the device has made stale by settling a fault.  Nothing is pending
any more when the next element is written, and still the writer is told. -/
theorem write_hides_no_fault_settled :
    let session := idle.after
      [soleSetUp, .activate 0 soleDevice, .write [[(1 : UInt8)]] 1, .signalFault .overflow,
        .deviceStep .take]
    ∃ stream ending, session = .active stream (.untilStopped ending) ∧
      stream.Accepts [[(2 : UInt8)]] ∧ 0 < stream.requested [[(2 : UInt8)]] 1 ∧
      stream.inWork = some ⟨⟨0, 1⟩, 1⟩ ∧ stream.handover.hasPendingEvent = false ∧
      (session.write [[(2 : UInt8)]] 1).1 = .error (.fault .overflow) ∧
      (attemptThrough (fun waiting => waiting.write [[(2 : UInt8)]] 1)
        ([HandoverRequest.take].map handOver) session).1 = .error (.fault .overflow) := by
  intro session
  obtain ⟨hidesNone, waits, -⟩ := @write_hides_no_fault _ _ [[(2 : UInt8)]] 1 _ _ _
    (rfl : idle.after _ = session) ⟨rfl, rfl⟩ (by decide)
  exact ⟨_, _, rfl, ⟨rfl, rfl⟩, by decide, by decide, by decide,
    (hidesNone .overflow).mpr (by decide), (waits rfl [.take] .overflow).mpr (by decide)⟩

end Session

end DacStream
