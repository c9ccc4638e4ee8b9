import DacStream.Proofs.DrainBarrier
import DacStream.Proofs.StreamPasts

/-!
# The accounts of a hand-over

A ledger of a run notes, one entry after the other, what was done to the slots of a
hand-over: that one was lent, published or delivered, that the device found none, and how
many were thrown away by a drain or by a restart.  It also notes the faults that were
raised.  No counter is looked at for this; all of it is told from answers and from the ring.

What was lent is either still with the writer, or waits for the device, or was delivered, or
was thrown away; what was published has the same ways to go, but for the first one.  The
counters, which have 64 bits, can be read off the ledger.  A ledger of which all this is so
is balanced (`Ledger.Balanced`).

A request does a few things at most to the ring and the counters, one after the other, and
each is noted (`LedgerStep`).  So what every step keeps is kept by every run
(`Handover.ledgerSteps_after`).  Balance is kept (`Ledger.Balanced.step`), and from there the
balance of the counters is arithmetic modulo 2^64 (`Handover.accounts_balance`).

Drains and restarts have to be told apart: only a drain counts what it throws away.
-/

namespace DacStream

set_option autoImplicit false

/-! ## Entries -/

/-- Something that was done to the slots of a hand-over. -/
inductive LedgerEntry where
  | lent
  | published
  | delivered
  /-- The device asked for a slot and got none.  If it was starved by that, an underflow was
  raised. -/
  | foundNone (starved : Bool)
  /-- A drain for an event threw away filled slots and slots of the writer. -/
  | drained (event : PendingEvent) (filled writing : Nat)
  /-- A restart did. -/
  | restarted (filled writing : Nat)
  /-- A fault was raised from outside. -/
  | signalled (fault : Fault)
  deriving DecidableEq, Repr

namespace LedgerEntry

/-- The slots that a drain threw away. -/
@[simp]
def drainedSlots : LedgerEntry → Nat
  | .drained _ filled writing => filled + writing
  | _ => 0

/-- The slots that a restart threw away. -/
@[simp]
def restartedSlots : LedgerEntry → Nat
  | .restarted filled writing => filled + writing
  | _ => 0

/-- The filled slots that were thrown away by either. -/
@[simp]
def filledLost : LedgerEntry → Nat
  | .drained _ filled _ => filled
  | .restarted filled _ => filled
  | _ => 0

/-- The fault that was raised, if one was. -/
@[simp]
def fault? : LedgerEntry → Option Fault
  | .foundNone true => some .underflow
  | .signalled fault => some fault
  | _ => none

/-- Whether the ring was drained for a reset. -/
@[simp]
def isResetDrain : LedgerEntry → Bool
  | .drained .reset _ _ => true
  | _ => false

end LedgerEntry

/-! ## Ledgers -/

/-- What was done to slots, the oldest first. -/
abbrev Ledger := List LedgerEntry

namespace Ledger

variable (ledger more : Ledger)

/-- What the entries of a ledger amount to. -/
def total (amount : LedgerEntry → Nat) : Nat := (ledger.map amount).sum

/-- How often a fault was raised. -/
def raised (fault : Fault) : Nat := ledger.countP fun entry => entry.fault? = some fault

/-- The counters, read off a ledger. -/
def counters : Counters where
  released := UInt64.ofNat (ledger.count .published)
  delivered := UInt64.ofNat (ledger.count .delivered)
  underflows := UInt64.ofNat (ledger.raised .underflow)
  overflows := UInt64.ofNat (ledger.raised .overflow)
  discarded := UInt64.ofNat (ledger.total LedgerEntry.drainedSlots)
  resets := UInt64.ofNat (ledger.countP LedgerEntry.isResetDrain)

@[simp]
theorem total_append (amount : LedgerEntry → Nat) :
    (ledger ++ more).total amount = ledger.total amount + more.total amount := by
  simp [total]

@[simp]
theorem total_singleton (entry : LedgerEntry) (amount : LedgerEntry → Nat) :
    total [entry] amount = amount entry := by
  simp [total]

theorem counters_append : (ledger ++ more).counters = ledger.counters.plus more.counters := by
  simp [counters, raised, Counters.plus]

/-- Underflows and overflows are all the faults there are. -/
theorem raised_add_raised :
    ledger.raised .underflow + ledger.raised .overflow =
      ledger.countP fun entry => entry.fault?.isSome := by
  induction ledger with
  | nil => rfl
  | cons entry entries inductionHypothesis =>
      have once : (if entry.fault? = some .underflow then 1 else 0) +
          (if entry.fault? = some .overflow then 1 else 0) =
          if entry.fault?.isSome then 1 else 0 := by
        generalize entry.fault? = fault?
        obtain _ | _ | _ := fault? <;> rfl
      simp only [raised, List.countP_cons, decide_eq_true_eq] at inductionHypothesis ⊢
      omega

/-- An underflow was either come upon by the device or raised from outside. -/
theorem raised_underflow :
    ledger.raised .underflow =
      ledger.count (.foundNone true) + ledger.count (.signalled .underflow) := by
  induction ledger with
  | nil => rfl
  | cons entry entries inductionHypothesis =>
      have once : (if entry.fault? = some .underflow then 1 else 0) =
          (if entry == .foundNone true then 1 else 0) +
            if entry == .signalled .underflow then 1 else 0 := by
        cases entry with
        | foundNone starved => cases starved <;> rfl
        | signalled fault => cases fault <;> rfl
        | lent | published | delivered | drained | restarted => rfl
      simp only [raised, List.countP_cons, List.count_cons, decide_eq_true_eq]
        at inductionHypothesis ⊢
      omega

end Ledger

/-- The drain by which a ring is settled, if something is pending. -/
def SlotRing.drainEntries (ring : SlotRing) : Ledger :=
  ring.pending.toList.map fun event => .drained event ring.filled ring.writing

/-- What a request does to slots, as its answer and the ring tell.  A release has published
its slot if another number of slots is filled, and a device that found none was starved if an
event is pending afterwards. -/
def HandoverRequest.ledgerEntries (handover : Handover) : HandoverRequest → Ledger
  | .acquire =>
      handover.ring.drainEntries ++
        match handover.acquire.1 with
        | .ok _ => [.lent]
        | .error _ => []
  | .release handle =>
      if (handover.release handle).2.ring.filled = handover.ring.filled then [] else [.published]
  | .take =>
      handover.ring.drainEntries ++
        match handover.take.1 with
        | some _ => [.delivered]
        | none => [.foundNone handover.take.2.hasPendingEvent]
  | .raise fault => [.signalled fault]
  | .restart => [.restarted handover.ring.filled handover.ring.writing]
  | .skip | .requestReset | .pollFault | .setClock _ => []

/-- The ledger of a run. -/
def Handover.ledger (handover : Handover) : List HandoverRequest → Ledger
  | [] => []
  | request :: requests =>
      request.ledgerEntries handover ++ (request.run handover).ledger requests

/-! ## Steps -/

/-- What can be done at once to a ring and the counters, and what is noted of it. -/
inductive LedgerStep (ring : SlotRing) (counters : Counters) : Ledger → SlotRing → Counters → Prop
  /-- No slot moves, and nothing is counted. -/
  | silent {later : SlotRing} (sameFilled : later.filled = ring.filled)
      (sameWriting : later.writing = ring.writing) (samePrimed : later.primed = ring.primed) :
      LedgerStep ring counters [] later counters
  | drain (event : PendingEvent) (pending : ring.pending = some event) :
      LedgerStep ring counters [.drained event ring.filled ring.writing] ring.settle
        (counters.countSettling ring)
  | lend : LedgerStep ring counters [.lent] ring.lend counters
  | publish (holds : 0 < ring.writing) :
      LedgerStep ring counters [.published] ring.publish counters.countRelease
  | deliver (waiting : 0 < ring.filled) :
      LedgerStep ring counters [.delivered] ring.deliver counters.countDelivery
  /-- The device finds none, but was not being served. -/
  | idle (unserved : ring.primed = false) :
      LedgerStep ring counters [.foundNone false] ring.runDry counters
  /-- The device finds none while it is being served. -/
  | starve (served : ring.primed = true) :
      LedgerStep ring counters [.foundNone true] (ring.runDry.raise .underflow)
        (counters.countFault .underflow)
  | signal (fault : Fault) :
      LedgerStep ring counters [.signalled fault] (ring.raise fault) (counters.countFault fault)
  | restart :
      LedgerStep ring counters [.restarted ring.filled ring.writing] ring.restart counters

/-- Rows of steps. -/
inductive LedgerSteps (ring : SlotRing) (counters : Counters) :
    Ledger → SlotRing → Counters → Prop
  | nil : LedgerSteps ring counters [] ring counters
  | concat {middle later : SlotRing} {counted final : Counters} {noted more : Ledger}
      (row : LedgerSteps ring counters noted middle counted)
      (step : LedgerStep middle counted more later final) :
      LedgerSteps ring counters (noted ++ more) later final

namespace LedgerSteps

variable {ring middle later : SlotRing} {counters counted final : Counters} {noted more : Ledger}

theorem single (step : LedgerStep ring counters noted later counted) :
    LedgerSteps ring counters noted later counted := by
  rw [← List.nil_append noted]
  exact .concat .nil step

theorem trans (row : LedgerSteps ring counters noted middle counted)
    (rest : LedgerSteps middle counted more later final) :
    LedgerSteps ring counters (noted ++ more) later final := by
  induction rest with
  | nil =>
      rw [List.append_nil]
      exact row
  | concat _ step inductionHypothesis =>
      rw [← List.append_assoc]
      exact .concat inductionHypothesis step

/-- A silent step at the end of a row. -/
theorem silent (row : LedgerSteps ring counters noted middle counted)
    (sameFilled : later.filled = middle.filled) (sameWriting : later.writing = middle.writing)
    (samePrimed : later.primed = middle.primed) :
    LedgerSteps ring counters noted later counted := by
  rw [← List.append_nil noted]
  exact .concat row (.silent sameFilled sameWriting samePrimed)

/-- What every step keeps is kept by a row of them. -/
theorem keeps (kept : Ledger → SlotRing → Counters → Prop)
    (stepKeeps : ∀ {ledger noted : Ledger} {ring later : SlotRing} {counters counted : Counters},
      kept ledger ring counters → LedgerStep ring counters noted later counted →
        kept (ledger ++ noted) later counted)
    (row : LedgerSteps ring counters noted later counted) {ledger : Ledger}
    (before : kept ledger ring counters) : kept (ledger ++ noted) later counted := by
  induction row with
  | nil =>
      rw [List.append_nil]
      exact before
  | concat _ step inductionHypothesis =>
      rw [← List.append_assoc]
      exact stepKeeps inductionHypothesis step

/-- Settling a ring is a drain, if something is pending. -/
theorem settle (ring : SlotRing) (counters : Counters) :
    LedgerSteps ring counters ring.drainEntries ring.settle (counters.countSettling ring) := by
  cases pending : ring.pending with
  | none =>
      rw [SlotRing.drainEntries, Counters.countSettling, ring.settle_of_not_pending pending,
        pending]
      exact .nil
  | some event =>
      have noted : ring.drainEntries = [.drained event ring.filled ring.writing] := by
        simp [SlotRing.drainEntries, pending]
      rw [noted]
      exact .single (.drain event pending)

end LedgerSteps

namespace Handover

variable (handover : Handover)

theorem ledgerSteps_acquire :
    LedgerSteps handover.ring handover.counters (HandoverRequest.acquire.ledgerEntries handover)
      handover.acquire.2.ring handover.acquire.2.counters := by
  have settled : LedgerSteps handover.ring handover.counters handover.ring.drainEntries
      handover.settle.ring handover.settle.counters := .settle _ _
  unfold HandoverRequest.ledgerEntries
  rw [counters_acquire]
  obtain ⟨fault, -, same⟩ | ⟨-, -, same⟩ | ⟨-, -, tick, same⟩ := handover.acquire_cases
  all_goals simp only [same, List.append_nil]
  · exact settled.silent rfl rfl rfl
  · exact settled
  · exact settled.concat .lend

theorem ledgerSteps_release (handle : Handle) :
    LedgerSteps handover.ring handover.counters
      ((HandoverRequest.release handle).ledgerEntries handover)
      (handover.release handle).2.ring (handover.release handle).2.counters := by
  unfold HandoverRequest.ledgerEntries
  obtain ⟨-, same⟩ | ⟨-, -, same⟩ | ⟨-, oldest, same⟩ := handover.release_cases handle
  · simpa [same] using LedgerSteps.nil
  · simpa [same] using LedgerSteps.nil
  · have holds : 0 < handover.ring.writing := by
      simp only [SlotRing.isOldest, Bool.and_eq_true, bne_iff_ne] at oldest
      exact Nat.pos_of_ne_zero oldest.1
    have more : handover.ring.publish.filled ≠ handover.ring.filled := by simp [SlotRing.publish]
    simp only [same, if_neg more]
    exact .single (.publish holds)

/-- The ring that the device finds. -/
theorem ledgerSteps_ready :
    LedgerSteps handover.ring handover.counters handover.ring.drainEntries handover.readyRing
      handover.settle.counters :=
  (LedgerSteps.settle handover.ring handover.counters).silent rfl rfl rfl

theorem ledgerSteps_take :
    LedgerSteps handover.ring handover.counters (HandoverRequest.take.ledgerEntries handover)
      handover.take.2.ring handover.take.2.counters := by
  have ready := handover.ledgerSteps_ready
  have calm : handover.readyRing.pending = none := handover.ring.pending_settle
  unfold HandoverRequest.ledgerEntries
  rw [counters_take]
  obtain ⟨empty, unserved, none, ring⟩ | ⟨empty, served, none, ring⟩ | ⟨waiting, some, ring⟩ :=
    handover.take_cases
  · have unstarved : handover.take.2.hasPendingEvent = false := by
      simp [hasPendingEvent, ring, SlotRing.runDry, calm]
    simp only [empty, unserved, none, ring, unstarved]
    exact ready.concat (.idle unserved)
  · have starved : handover.take.2.hasPendingEvent = true := by
      simp [hasPendingEvent, ring, SlotRing.raise]
    simp only [empty, served, none, ring, starved]
    exact ready.concat (.starve served)
  · simp only [Nat.ne_of_gt waiting, some, ring]
    exact ready.concat (.deliver waiting)

/-- What a request does to the ring and the counters is what is noted of it. -/
theorem ledgerSteps_run (request : HandoverRequest) :
    LedgerSteps handover.ring handover.counters (request.ledgerEntries handover)
      (request.run handover).ring (request.run handover).counters := by
  cases request with
  | acquire => exact handover.ledgerSteps_acquire
  | release handle => exact handover.ledgerSteps_release handle
  | take => exact handover.ledgerSteps_take
  | raise fault => exact .single (.signal fault)
  | restart => exact .single .restart
  | skip | requestReset | pollFault | setClock =>
      exact LedgerSteps.nil.silent rfl rfl rfl

/-- So it is through a row of requests. -/
theorem ledgerSteps_after (requests : List HandoverRequest) :
    LedgerSteps handover.ring handover.counters (handover.ledger requests)
      (handover.after requests).ring (handover.after requests).counters := by
  induction requests generalizing handover with
  | nil => exact .nil
  | cons request requests inductionHypothesis =>
      exact (handover.ledgerSteps_run request).trans (inductionHypothesis _)

end Handover

/-! ## Balance -/

namespace Ledger

/-- What a ledger has in common with the ring and the counters it led to. -/
structure Balanced (ledger : Ledger) (ring : SlotRing) (counters : Counters) : Prop where
  /-- Where the slots are that were lent. -/
  lent : ledger.count .lent =
    ledger.count .delivered + ledger.total LedgerEntry.drainedSlots + ring.inFlight +
      ledger.total LedgerEntry.restartedSlots
  /-- Where the slots are that were published. -/
  published : ledger.count .published =
    ledger.count .delivered + ring.filled + ledger.total LedgerEntry.filledLost
  /-- The counters are those of the ledger. -/
  counted : counters = ledger.counters

namespace Balanced

variable {ledger noted : Ledger} {ring later : SlotRing} {counters counted : Counters}

/-- What is noted must explain where slots went and what was counted. -/
theorem append (balanced : ledger.Balanced ring counters) (more : Ledger) (laterCounters : Counters)
    (lent : more.count .lent + ring.inFlight =
      more.count .delivered + more.total LedgerEntry.drainedSlots + later.inFlight +
        more.total LedgerEntry.restartedSlots)
    (published : more.count .published + ring.filled =
      more.count .delivered + later.filled + more.total LedgerEntry.filledLost)
    (counted : laterCounters = counters.plus more.counters) :
    (ledger ++ more).Balanced later laterCounters where
  lent := by
    have before := balanced.lent
    simp only [List.count_append, total_append]
    omega
  published := by
    have before := balanced.published
    simp only [List.count_append, total_append]
    omega
  counted := by rw [counted, balanced.counted, counters_append]

/-- What moves no slot and counts nothing. -/
theorem of_same (balanced : ledger.Balanced ring counters) (sameFilled : later.filled = ring.filled)
    (sameWriting : later.writing = ring.writing) : ledger.Balanced later counters where
  lent := by
    rw [SlotRing.inFlight, sameFilled, sameWriting]
    exact balanced.lent
  published := by
    rw [sameFilled]
    exact balanced.published
  counted := balanced.counted

/-- Each step that is noted keeps the ledger balanced. -/
theorem step (balanced : ledger.Balanced ring counters)
    (step : LedgerStep ring counters noted later counted) :
    (ledger ++ noted).Balanced later counted := by
  cases step with
  | silent sameFilled sameWriting =>
      rw [List.append_nil]
      exact balanced.of_same sameFilled sameWriting
  | drain event pending =>
      have empty : ring.settle.filled = 0 ∧ ring.settle.writing = 0 := by
        cases event <;> simp [SlotRing.settle, SlotRing.drain, pending]
      refine balanced.append _ _ ?_ ?_ ?_
      · simp [SlotRing.inFlight, empty]
      · simp [empty]
      · cases event <;>
          simp [Counters.countSettling, pending, Counters.plus, Ledger.counters, raised,
            SlotRing.inFlight]
  | lend =>
      refine balanced.append _ _ ?_ ?_ ?_
      · simp [SlotRing.inFlight, SlotRing.lend]
        omega
      · simp [SlotRing.lend]
      · simp [Counters.plus, Ledger.counters, raised]
  | publish holds =>
      refine balanced.append _ _ ?_ ?_ ?_
      · simp [SlotRing.inFlight, SlotRing.publish]
        omega
      · simp [SlotRing.publish]
        omega
      · simp [Counters.plus, Ledger.counters, raised, Counters.countRelease]
  | deliver waiting =>
      refine balanced.append _ _ ?_ ?_ ?_
      · simp [SlotRing.inFlight, SlotRing.deliver]
        omega
      · simp [SlotRing.deliver]
        omega
      · simp [Counters.plus, Ledger.counters, raised, Counters.countDelivery]
  | idle =>
      refine balanced.append _ _ ?_ ?_ ?_
      · simp [SlotRing.inFlight, SlotRing.runDry]
      · simp [SlotRing.runDry]
      · simp [Counters.plus, Ledger.counters, raised]
  | starve =>
      refine balanced.append _ _ ?_ ?_ ?_
      · simp [SlotRing.inFlight, SlotRing.raise, SlotRing.runDry]
      · simp [SlotRing.raise, SlotRing.runDry]
      · simp [Counters.plus, Ledger.counters, raised, Counters.countFault]
  | signal fault =>
      refine balanced.append _ _ ?_ ?_ ?_
      · simp [SlotRing.inFlight, SlotRing.raise]
      · simp [SlotRing.raise]
      · cases fault <;> simp [Counters.plus, Ledger.counters, raised, Counters.countFault]
  | restart =>
      refine balanced.append _ _ ?_ ?_ ?_
      · simp [SlotRing.inFlight, SlotRing.restart]
      · simp [SlotRing.restart]
      · simp [Counters.plus, Ledger.counters, raised]

end Balanced

end Ledger

namespace Handover

variable {handover : Handover} {ledger : Ledger}

/-- The ledger of a run is balanced. -/
theorem balanced_after (slots : Slots) (elementsPerSlot : Nat)
    (requests : List HandoverRequest) :
    ((create slots elementsPerSlot).ledger requests).Balanced
      ((create slots elementsPerSlot).after requests).ring
      ((create slots elementsPerSlot).after requests).counters := by
  have nothing : Ledger.Balanced [] (create slots elementsPerSlot).ring
      (create slots elementsPerSlot).counters := ⟨rfl, rfl, rfl⟩
  have steps := (create slots elementsPerSlot).ledgerSteps_after requests
  exact steps.keeps Ledger.Balanced .step nothing

/-! ## The counters -/

/-- How the counters of a hand-over, its ring and a ledger balance. -/
structure AccountsBalance (handover : Handover) (ledger : Ledger) : Prop where
  /-- Slots that the writer got were delivered or thrown away, unless they are still in the
  ring. -/
  acquired : UInt64.ofNat (ledger.count .lent) =
    handover.counters.delivered + handover.counters.discarded +
      UInt64.ofNat handover.ring.filled + UInt64.ofNat handover.ring.writing +
      UInt64.ofNat (ledger.total LedgerEntry.restartedSlots)
  /-- So it is with those that it published. -/
  released : handover.counters.released =
    handover.counters.delivered + UInt64.ofNat handover.ring.filled +
      UInt64.ofNat (ledger.total LedgerEntry.filledLost)
  /-- No more slots are delivered than are published. -/
  deliveredLe : ledger.count .delivered ≤ ledger.count .published
  /-- The counters say so, too, unless they have wrapped around. -/
  deliveredLeReleased : ledger.count .published < 2 ^ 64 →
    handover.counters.delivered ≤ handover.counters.released
  /-- Every fault is counted, as the one or as the other. -/
  faults : handover.counters.underflows + handover.counters.overflows =
    UInt64.ofNat (ledger.countP fun entry => entry.fault?.isSome)
  /-- Every drain for a reset is counted as one. -/
  resets : handover.counters.resets = UInt64.ofNat (ledger.countP LedgerEntry.isResetDrain)

theorem AccountsBalance.of_balanced
    (balanced : ledger.Balanced handover.ring handover.counters) :
    handover.AccountsBalance ledger := by
  have fewer : ledger.count .delivered ≤ ledger.count .published := by
    have published := balanced.published
    omega
  refine
    { acquired := ?_
      released := ?_
      deliveredLe := fewer
      deliveredLeReleased := ?_
      faults := ?_
      resets := by rw [balanced.counted]; rfl }
  · rw [balanced.counted, balanced.lent, SlotRing.inFlight]
    simp only [UInt64.ofNat_add, Ledger.counters]
    ac_rfl
  · rw [balanced.counted]
    simp only [Ledger.counters, balanced.published, UInt64.ofNat_add]
  · intro inRange
    rw [balanced.counted, UInt64.le_iff_toNat_le]
    simp only [Ledger.counters, UInt64.toNat_ofNat']
    rw [Nat.mod_eq_of_lt inRange, Nat.mod_eq_of_lt (Nat.lt_of_le_of_lt fewer inRange)]
    exact fewer
  · rw [balanced.counted, ← Ledger.raised_add_raised, UInt64.ofNat_add]
    rfl

/-- **The accounts balance**: whatever was asked of a hand-over, in any order and with any
handles, every slot that the writer got and every one that it published is accounted for, and
so is every fault and every drain for a reset. -/
theorem accounts_balance (slots : Slots) (elementsPerSlot : Nat)
    (requests : List HandoverRequest) :
    ((create slots elementsPerSlot).after requests).AccountsBalance
      ((create slots elementsPerSlot).ledger requests) :=
  .of_balanced (balanced_after slots elementsPerSlot requests)

/-- A restart throws away a filled slot and one of the writer, and counts neither of them. -/
example :
    (create (.silent 3 1 4) 4).ledger
        [.acquire, .release ⟨0, 0⟩, .take, .acquire, .raise .overflow, .requestReset, .take,
          .acquire, .release ⟨1, 1⟩, .acquire, .restart] =
      [.lent, .published, .delivered, .lent, .signalled .overflow, .drained .reset 0 1,
        .foundNone false, .lent, .published, .lent, .restarted 1 1] := by
  decide

end Handover

end DacStream
