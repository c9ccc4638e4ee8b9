import DacStream.Proofs.SlotAccounts
import Mathlib.Data.List.Induction

/-!
# One starvation, one underflow

A device that finds no slot is starved by that only if it was being served: some slot was
delivered, and since the latest delivery the device found one each time, no drain threw slots
away and the ring was not restarted.  The ledger of a run tells whether this is so
(`Ledger.Flows`).  Nothing else that is noted of the device or of the writer interrupts it.

The ring has a single flag for it.  The flag agrees with the ledger as long as every entry that
is noted moves both in the same way, which every step does (`Ledger.Follows.step`).  Hence a
device that finds none raises an underflow exactly if its ledger flows once the ring is settled
(`Handover.starvation_episodes`), and neither an idle start nor what follows a drain, a restart
or an underflow raises one.

That there are not more underflows than stretches of deliveries is a fact about ledgers: an
underflow ends a stretch, and there is none in between (`Ledger.count_starved_le`).
-/

namespace DacStream

set_option autoImplicit false

/-! ## Stretches of deliveries -/

/-- Whether an entry ends a stretch of deliveries. -/
def LedgerEntry.interrupts : LedgerEntry → Bool
  | .foundNone _ | .drained _ _ _ | .restarted _ _ => true
  | .lent | .published | .delivered | .signalled _ => false

namespace Ledger

variable {ledger : Ledger}

/-- Whether a stretch of deliveries is going on: there was a delivery, and nothing has
interrupted since the latest one. -/
def Flows (ledger : Ledger) : Prop :=
  ∃ earlier since : Ledger, ledger = earlier ++ .delivered :: since ∧ .delivered ∉ since ∧
    ∀ entry ∈ since, entry.interrupts = false

/-- Whether a delivery was noted. -/
def delivers (ledger : Ledger) : Bool := decide (.delivered ∈ ledger)

/-- The stretches of deliveries, with whatever else was noted between two interruptions. -/
def stretches (ledger : Ledger) : List Ledger :=
  (ledger.splitOnP LedgerEntry.interrupts).filter delivers

theorem not_flows_nil : ¬Flows [] := by
  rintro ⟨earlier, since, same, -⟩
  simp at same

/-- One more entry keeps a stretch going, unless it interrupts, and a delivery begins one. -/
theorem flows_note (ledger : Ledger) (entry : LedgerEntry) :
    Flows (ledger ++ [entry]) ↔
      entry = .delivered ∨ entry.interrupts = false ∧ ledger.Flows := by
  constructor
  · rintro ⟨earlier, since, split, latest, calm⟩
    rcases List.eq_nil_or_concat since with rfl | ⟨between, last, rfl⟩
    · obtain ⟨-, same⟩ := List.append_inj' split rfl
      exact .inl (List.singleton_inj.mp same)
    · rw [List.concat_eq_append, ← List.cons_append, ← List.append_assoc] at split
      obtain ⟨same, sameLast⟩ := List.append_inj' split rfl
      obtain rfl := List.singleton_inj.mp sameLast
      rw [List.concat_eq_append] at latest calm
      refine .inr ⟨calm entry (by simp), earlier, between, same, ?_, ?_⟩
      · exact fun listed => latest (List.mem_append_left _ listed)
      · exact fun other listed => calm other (List.mem_append_left _ listed)
  · rintro (rfl | ⟨quiet, earlier, since, rfl, latest, calm⟩)
    · exact ⟨ledger, [], rfl, by simp, by simp⟩
    · by_cases delivery : entry = .delivered
      · exact ⟨earlier ++ .delivered :: since, [], by rw [delivery], by simp, by simp⟩
      · refine ⟨earlier, since ++ [entry], by simp, ?_, ?_⟩
        · simp [latest, Ne.symm delivery]
        · intro other listed
          rcases List.mem_append.mp listed with old | new
          · exact calm other old
          · rwa [List.mem_singleton.mp new]

/-- Without a delivery since an interruption, nothing is going on. -/
theorem not_flows_of_interrupted {earlier since : Ledger} {entry : LedgerEntry}
    (interrupts : entry.interrupts = true) (none : .delivered ∉ since) :
    ¬Flows (earlier ++ entry :: since) := by
  induction since using List.reverseRecOn with
  | nil =>
      rw [flows_note]
      rintro (rfl | ⟨quiet, -⟩)
      · cases interrupts
      · simp [interrupts] at quiet
  | append_singleton since last inductionHypothesis =>
      rw [← List.cons_append, ← List.append_assoc, flows_note]
      rintro (rfl | ⟨-, flows⟩)
      · exact none (by simp)
      · exact inductionHypothesis (fun listed => none (List.mem_append_left _ listed)) flows

theorem delivered_mem_of_flows (flows : ledger.Flows) : .delivered ∈ ledger := by
  obtain ⟨earlier, since, rfl, -⟩ := flows
  simp

/-! ## Starvations -/

/-- Whether starvations are noted exactly when the device finds none while a stretch of
deliveries is going on. -/
def StarvesExactly (ledger : Ledger) : Prop :=
  ∀ (earlier later : Ledger) (starved : Bool),
    ledger = earlier ++ .foundNone starved :: later → (starved = true ↔ earlier.Flows)

theorem StarvesExactly.note (told : ledger.StarvesExactly) {entry : LedgerEntry}
    (now : ∀ starved, entry = .foundNone starved → (starved = true ↔ ledger.Flows)) :
    StarvesExactly (ledger ++ [entry]) := by
  intro earlier later starved split
  obtain ⟨rfl, same⟩ | ⟨middle, same⟩ := split_of_concat split
  · exact now starved same
  · exact told earlier middle starved same

/-- What is noted behind an entry has at most one starvation more than there are stretches
behind the next interruption.  It has that one only if a stretch is going on before that. -/
theorem count_starved_le_of_split (earlier : Ledger) {rest first : Ledger} {others : List Ledger}
    (told : StarvesExactly (earlier ++ rest))
    (split : rest.splitOnP LedgerEntry.interrupts = first :: others) :
    rest.count (.foundNone true) ≤ (others.filter delivers).length + 1 ∧
      (¬earlier.Flows → .delivered ∉ first →
        rest.count (.foundNone true) ≤ (others.filter delivers).length) := by
  induction rest generalizing earlier first others with
  | nil => simp
  | cons entry rest inductionHypothesis =>
      obtain ⟨next, more, tailSplit⟩ :=
        List.exists_cons_of_ne_nil (List.splitOnP_ne_nil LedgerEntry.interrupts rest)
      obtain ⟨most, fewer⟩ :=
        inductionHypothesis (earlier ++ [entry]) (by simpa using told) tailSplit
      rw [List.splitOnP_cons_eq_if_modifyHead, tailSplit] at split
      cases interrupts : entry.interrupts with
      | true =>
          -- The entry cuts off an empty part, and nothing goes on behind it.
          obtain ⟨rfl, rfl⟩ : [] = first ∧ next :: more = others := by
            simpa [interrupts] using split
          have stopped : ¬Flows (earlier ++ [entry]) :=
            not_flows_of_interrupted interrupts (by simp)
          have behind :
              rest.count (.foundNone true) ≤ ((next :: more).filter delivers).length := by
            by_cases delivery : .delivered ∈ next
            · simpa [delivers, delivery] using most
            · simpa [delivers, delivery] using fewer stopped delivery
          constructor
          · rw [List.count_cons]
            split <;> omega
          · intro idle _
            have unstarved : entry ≠ .foundNone true := by
              rintro rfl
              exact idle ((told earlier rest true rfl).mp rfl)
            rwa [List.count_cons_of_ne unstarved]
      | false =>
          obtain ⟨rfl, rfl⟩ : entry :: next = first ∧ more = others := by
            simpa [interrupts] using split
          have unstarved : entry ≠ .foundNone true := by
            rintro rfl
            cases interrupts
          rw [List.count_cons_of_ne unstarved]
          refine ⟨most, fun stopped none => fewer ?_ ?_⟩
          · rw [flows_note]
            rintro (rfl | ⟨-, flows⟩)
            · exact none List.mem_cons_self
            · exact stopped flows
          · exact fun listed => none (List.mem_cons_of_mem _ listed)

/-- Each stretch of deliveries ends in one starvation at most. -/
theorem count_starved_le (told : ledger.StarvesExactly) :
    ledger.count (.foundNone true) ≤ ledger.stretches.length := by
  obtain ⟨first, others, split⟩ :=
    List.exists_cons_of_ne_nil (List.splitOnP_ne_nil LedgerEntry.interrupts ledger)
  obtain ⟨most, fewer⟩ := count_starved_le_of_split [] told split
  rw [stretches, split]
  by_cases delivery : .delivered ∈ first
  · simpa [delivers, delivery] using most
  · simpa [delivers, delivery] using fewer not_flows_nil delivery

/-! ## The flag of the ring -/

/-- What a ledger of starvations has in common with the ring it led to. -/
structure Follows (ledger : Ledger) (ring : SlotRing) : Prop where
  /-- The ring knows whether a stretch of deliveries is going on. -/
  primed : ring.primed = true ↔ ledger.Flows
  exactly : ledger.StarvesExactly

namespace Follows

variable {noted : Ledger} {ring later : SlotRing} {counters counted : Counters}

theorem of_same (follows : ledger.Follows ring) (same : later.primed = ring.primed) :
    ledger.Follows later := by
  refine ⟨?_, follows.exactly⟩
  rw [same]
  exact follows.primed

/-- An entry has to move the flag as it moves the ledger, and must be true of the ring. -/
theorem note (follows : ledger.Follows ring) {entry : LedgerEntry}
    (primed : later.primed = true ↔
      entry = .delivered ∨ entry.interrupts = false ∧ ring.primed = true)
    (starved : ∀ starved, entry = .foundNone starved → starved = ring.primed) :
    Follows (ledger ++ [entry]) later where
  primed := by rw [primed, flows_note, follows.primed]
  exactly := follows.exactly.note fun _ same => by rw [starved _ same, follows.primed]

/-- Each step moves the flag as it moves the ledger. -/
theorem step (follows : ledger.Follows ring)
    (step : LedgerStep ring counters noted later counted) :
    Follows (ledger ++ noted) later := by
  cases step with
  | silent _ _ samePrimed =>
      rw [List.append_nil]
      exact follows.of_same samePrimed
  | drain event pending =>
      have idle : ring.settle.primed = false :=
        (SlotRing.settle_of_pending (by simp [pending])).2.2.1
      exact follows.note (by simp [idle, LedgerEntry.interrupts]) (by simp)
  | lend => exact follows.note (by simp [SlotRing.lend, LedgerEntry.interrupts]) (by simp)
  | publish => exact follows.note (by simp [SlotRing.publish, LedgerEntry.interrupts]) (by simp)
  | deliver => exact follows.note (by simp [SlotRing.deliver]) (by simp)
  | idle unserved =>
      exact follows.note (by simp [SlotRing.runDry, LedgerEntry.interrupts]) (by simp [unserved])
  | starve served =>
      exact follows.note (by simp [SlotRing.raise, SlotRing.runDry, LedgerEntry.interrupts])
        (by simp [served])
  | signal fault =>
      exact follows.note (by simp [SlotRing.raise, LedgerEntry.interrupts]) (by simp)
  | restart => exact follows.note (by simp [SlotRing.restart, LedgerEntry.interrupts]) (by simp)

/-- So does a row of steps. -/
theorem steps (follows : ledger.Follows ring)
    (row : LedgerSteps ring counters noted later counted) : Follows (ledger ++ noted) later :=
  row.keeps (fun ledger ring _ => ledger.Follows ring) step follows

end Follows

end Ledger

namespace Handover

variable {handover : Handover} {ledger : Ledger}

/-- Whatever is asked of a hand-over, its ring knows whether it is being served. -/
theorem follows_after (slots : Slots) (elementsPerSlot : Nat) (requests : List HandoverRequest) :
    ((create slots elementsPerSlot).ledger requests).Follows
      ((create slots elementsPerSlot).after requests).ring := by
  have nothing : Ledger.Follows [] (create slots elementsPerSlot).ring := by
    refine ⟨by simp [create, Ledger.not_flows_nil], ?_⟩
    intro earlier later starved split
    simp at split
  exact nothing.steps ((create slots elementsPerSlot).ledgerSteps_after requests)

/-! ## Underflows -/

/-- The hand-over once the device has found nothing filled. -/
def dry (handover : Handover) : Handover :=
  { handover.settle with ring := handover.readyRing.runDry }

/-- A device that gets no slot raises an underflow if it was being served, and nothing
otherwise. -/
theorem take_of_none (none : handover.take.1 = none) :
    handover.take.2 =
      (if handover.readyRing.primed then handover.dry.raise .underflow
        else handover.dry).tickOn := by
  have empty : handover.settle.giveBack.ring.filled = 0 := by
    obtain ⟨empty, -⟩ | ⟨empty, -⟩ | ⟨-, some, -⟩ := handover.take_cases
    · exact empty
    · exact empty
    · rw [some] at none
      cases none
  unfold take
  simp only [empty, if_true]
  rfl

/-- When the device raises an underflow, as a ledger tells it. -/
structure StarvesOncePerStretch (handover : Handover) (ledger : Ledger) : Prop where
  /-- If a stretch of deliveries is going on once the ring is settled, an underflow is raised. -/
  starved : handover.take.1 = none → Ledger.Flows (ledger ++ handover.ring.drainEntries) →
    handover.take.2 = (handover.dry.raise .underflow).tickOn
  /-- Otherwise nothing is raised. -/
  idle : handover.take.1 = none → ¬Ledger.Flows (ledger ++ handover.ring.drainEntries) →
    handover.take.2 = handover.dry.tickOn
  /-- So it was each time the device found none before. -/
  exactly : ledger.StarvesExactly
  /-- Nothing is raised before the first delivery. -/
  idleStart : .delivered ∉ ledger → handover.take.1 = none → handover.take.2 = handover.dry.tickOn
  /-- Nothing is raised while a reset or a fault waits to be settled. -/
  idleAfterEvent : handover.hasPendingEvent = true → handover.take = (none, handover.dry.tickOn)
  /-- Nothing is raised until the first delivery after an interruption. -/
  idleAfterInterruption : ∀ (earlier since : Ledger) (entry : LedgerEntry),
    ledger = earlier ++ entry :: since → entry.interrupts = true → .delivered ∉ since →
      handover.take.1 = none → handover.take.2 = handover.dry.tickOn
  /-- The underflows that were not signalled from outside are the starvations. -/
  counted : handover.counters.underflows =
    UInt64.ofNat (ledger.count (.foundNone true) + ledger.count (.signalled .underflow))
  /-- There are no more of them than stretches of deliveries. -/
  episodes : ledger.count (.foundNone true) ≤ ledger.stretches.length

theorem StarvesOncePerStretch.of_follows
    (balanced : ledger.Balanced handover.ring handover.counters)
    (follows : ledger.Follows handover.ring) : handover.StarvesOncePerStretch ledger := by
  have served := (follows.steps handover.ledgerSteps_ready).primed
  have idle : handover.take.1 = none → ¬Ledger.Flows (ledger ++ handover.ring.drainEntries) →
      handover.take.2 = handover.dry.tickOn := by
    intro none stopped
    rw [take_of_none none, if_neg (mt served.mp stopped)]
  -- Settling the ring brings no delivery.
  have noDelivery : .delivered ∉ handover.ring.drainEntries := by simp [SlotRing.drainEntries]
  refine
    { starved := ?_
      idle := idle
      exactly := follows.exactly
      idleStart := ?_
      idleAfterEvent := ?_
      idleAfterInterruption := ?_
      counted := ?_
      episodes := Ledger.count_starved_le follows.exactly }
  · intro none flows
    rw [take_of_none none, if_pos (served.mpr flows)]
  · intro before none
    refine idle none fun flows => ?_
    rcases List.mem_append.mp (Ledger.delivered_mem_of_flows flows) with listed | listed
    · exact before listed
    · exact noDelivery listed
  · intro pending
    obtain ⟨noneFilled, -, unserved, -⟩ :=
      SlotRing.settle_of_pending (hasPendingEvent_iff.mp pending)
    have none : handover.take.1 = none := by
      obtain ⟨-, -, none, -⟩ | ⟨-, -, none, -⟩ | ⟨waiting, -, -⟩ := handover.take_cases
      · exact none
      · exact none
      · have empty : handover.readyRing.filled = 0 := by
          rw [← SlotRing.length_filledSlots]
          exact congrArg List.length noneFilled
        omega
    refine Prod.ext none (idle none fun flows => ?_)
    exact absurd (served.mpr flows) (by rw [readyRing]; simp [SlotRing.giveBack, unserved])
  · intro earlier since entry split interrupts undelivered none
    refine idle none ?_
    rw [split, List.append_assoc, List.cons_append]
    refine Ledger.not_flows_of_interrupted interrupts fun listed => ?_
    rcases List.mem_append.mp listed with old | new
    · exact undelivered old
    · exact noDelivery new
  · rw [balanced.counted, ← Ledger.raised_underflow]
    rfl

/-- **One starvation, one underflow**: whatever was asked of a hand-over, in any order and with
any handles, a device that finds no slot raises an underflow exactly if a stretch of deliveries
was going on, and no stretch ends in two of them. -/
theorem starvation_episodes (slots : Slots) (elementsPerSlot : Nat)
    (requests : List HandoverRequest) :
    ((create slots elementsPerSlot).after requests).StarvesOncePerStretch
      ((create slots elementsPerSlot).ledger requests) := by
  have balanced := balanced_after slots elementsPerSlot requests
  have follows := follows_after slots elementsPerSlot requests
  exact .of_follows balanced follows

/-- The first stretch is ended by a reset, the second by a starvation. -/
example :
    let ledger := (create (.silent 2 1 4) 4).ledger
      [.take, .acquire, .release ⟨0, 0⟩, .take, .requestReset, .take, .acquire, .release ⟨1, 1⟩,
        .take, .take, .take, .take]
    ledger.count (.foundNone true) = 1 ∧ ledger.stretches.length = 2 := by
  decide

end Handover

end DacStream
