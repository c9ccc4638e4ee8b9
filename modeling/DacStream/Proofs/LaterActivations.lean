import DacStream.Proofs.SessionPasts
import DacStream.Proofs.SlotDates

/-!
# Later activations

An activation begins with an empty ring, whatever was left behind by what came before.  All
that it takes over is the clock, the memory of the slots and a past: the epochs that the
ring has gone through and what was counted (`Stream.past`).  So the session is that of a
first activation of the same stream, with other slots in its memory and a past behind it
(`Session.activated_eq`), and it answers like that (`Session.activates_as_first`).

The memory only shows where a caller releases what it has not overwritten, or reads a slot
that it was just handed out.
-/

namespace DacStream

set_option autoImplicit false

/-! ## What a stream is left with -/

namespace Stream

/-- A transfer moves the clock on by the elements of one slot. -/
def Paced (stream : Stream) : Prop :=
  stream.handover.elementsPerSlot = UInt64.ofNat stream.config.elementsPerBuffer

theorem Paced.moves {stream later : Stream} (paced : stream.Paced) (moves : stream.Moves later) :
    later.Paced := by
  induction moves with
  | refl => exact paced
  | tail _ move inductionHypothesis =>
      cases move with
      | handOver request => exact (Handover.elementsPerSlot_run _ request).trans inductionHypothesis
      | refill | work => exact inductionHypothesis

/-- What a stream has behind it. -/
def past (stream : Stream) : Past := ⟨stream.handover.ring.epoch, stream.handover.counters⟩

/-- A new stream of the same configuration, with the clock set to the same tick. -/
def renewed (stream : Stream) : Stream :=
  let fresh := create stream.config
  { fresh with handover := fresh.handover.setClock stream.handover.clock }

/-- Nothing matters any more of what was in a stream that starts again. -/
theorem interrupted_restart (stream : Stream) : stream.restart.Interrupted [] where
  filled := fun _ => rfl
  work := fun _ none => nomatch none
  callers := fun _ listed => nomatch listed

/-- A stream that starts again is a new one that does so, apart from its memory and its
past. -/
theorem restart_eq {stream : Stream} (sound : stream.Sound) (paced : stream.Paced) :
    stream.restart =
      (stream.renewed.restart.withSlots stream.handover.slots).withPast stream.past := by
  have capacity : stream.handover.ring.capacity =
      (Slots.silent stream.config.bufferCount stream.config.channelCount
        stream.config.bufferLength).capacity :=
    sound.capacity.trans (Slots.Shaped.silent _ _ _).slotCount.symm
  have begun : stream.handover.ring.epoch + 1 = 0 + 1 + stream.handover.ring.epoch := by omega
  simp only [restart, Handover.restart, SlotRing.restart, capacity, begun, renewed, create, past,
    Handover.create, Handover.setClock, withSlots, withPast, Handover.withPast, SlotRing.withPast,
    Counters.zero_plus, Option.map_none]
  rw [← paced]

end Stream

namespace Session

/-- What holds of every new stream and is kept by every move holds of every stream that a
session comes to have. -/
theorem holds_after {property : Stream → Prop} (created : ∀ config, property (.create config))
    (kept : ∀ {stream later : Stream}, property stream → stream.Moves later → property later)
    {session : Session} (holds : ∀ stream, session.stream? = some stream → property stream)
    (requests : List SessionRequest) :
    ∀ stream, (session.after requests).stream? = some stream → property stream := by
  induction requests generalizing session with
  | nil => exact holds
  | cons request requests inductionHypothesis =>
      apply inductionHypothesis
      intro stream has
      obtain ⟨-, _, _, config, -, -, rfl⟩ | ⟨-, before, there, moves⟩ :=
        SessionRequest.stream_cases has
      · exact created config
      · exact kept (holds before there) moves

/-- Every stream that a session comes to have is paced. -/
theorem paced_after (history : List SessionRequest) {stream : Stream}
    (has : (idle.after history).stream? = some stream) : stream.Paced :=
  holds_after (fun _ => rfl) (fun paced moves => paced.moves moves) (fun _ none => nomatch none)
    history stream has

/-! ## Two activations -/

/-- The session after a device was started for a stream. -/
def activated (stream : Stream) (device : Device) : Session :=
  ((configured stream).activate 0 device).2.1

/-- What becomes of an activation is up to the device and the configuration: the run goes on
or is over at once, whatever else there is in the stream. -/
theorem activated_cases (config : StreamConfig) (device : Device) :
    (∃ planned, ∀ stream : Stream, stream.config = config →
      activated stream device = .active stream.restart (.untilStopped planned)) ∨
    (∃ ending, ∀ stream : Stream, stream.config = config →
      activated stream device = .active (stream.restart.noteEnding ending) (.over ending)) := by
  rcases starts : device.start config.asyncBuffers with ⟨planned | ending, started⟩
  · refine .inl ⟨planned, ?_⟩
    rintro stream rfl
    rw [activated, activate_of_runs stream starts]
  · refine .inr ⟨ending, ?_⟩
    rintro stream rfl
    rw [activated, activate_of_over stream starts]

/-- Nor does the device find out what was there before. -/
theorem device_activate_renewed (stream : Stream) (device : Device) :
    ((configured stream).activate 0 device).2.2 =
      ((configured stream.renewed).activate 0 device).2.2 := by
  have config : stream.renewed.config = stream.config := rfl
  rcases starts : device.start stream.config.asyncBuffers with ⟨planned | ending, started⟩ <;>
    simp [activate, config, starts]

/-- An activation is a first one, apart from the memory and the past of the stream. -/
theorem activated_eq {stream : Stream} (sound : stream.Sound) (paced : stream.Paced)
    (device : Device) :
    activated stream device =
      ((activated stream.renewed device).withSlots stream.handover.slots).withPast stream.past := by
  have again := stream.restart_eq sound paced
  obtain ⟨planned, same⟩ | ⟨ending, same⟩ := activated_cases stream.config device
  · rw [same stream rfl, same stream.renewed rfl, again]
    rfl
  · rw [same stream rfl, same stream.renewed rfl, again, Stream.noteEnding_withPast,
      Stream.noteEnding_withSlots]
    rfl

/-- With silent slots in its memory it is a first one apart from the past alone. -/
theorem activated_withSlots {stream : Stream} (sound : stream.Sound) (paced : stream.Paced)
    (device : Device) :
    (activated stream device).withSlots stream.renewed.handover.slots =
      (activated stream.renewed device).withPast stream.past := by
  rw [activated_eq sound paced]
  obtain ⟨planned, same⟩ | ⟨ending, same⟩ := activated_cases stream.config device
  · rw [same stream.renewed rfl]
    rfl
  · rw [same stream.renewed rfl]
    cases ending <;> rfl

/-- What is in the memory when a device is started does not matter. -/
theorem alike_activated {stream : Stream} (sound : stream.Sound) (device : Device) {other : Slots}
    (shaped : other.Shaped stream.config.bufferCount stream.config.channelCount
      stream.config.bufferLength) :
    (activated stream device).Alike stream.restart.handover.settledEpoch [] other := by
  have ready : stream.restart.Alike stream.restart.handover.settledEpoch [] other :=
    stream.interrupted_restart.alike (sound.moves stream.moves_restart) shaped
  obtain ⟨planned, same⟩ | ⟨ending, same⟩ := activated_cases stream.config device
  · rw [same stream rfl]
    exact .active ready
  · rw [same stream rfl]
    exact .active (ready.noteEnding ending)

theorem reaches_activated (stream : Stream) (device : Device) :
    (activated stream device).Reaches 1 := by
  have begun : 1 ≤ stream.restart.handover.ring.epoch := Nat.le_add_left _ _
  obtain ⟨planned, same⟩ | ⟨ending, same⟩ := activated_cases stream.config device
  · rw [same stream rfl]
    rintro _ ⟨⟩
    exact begun
  · rw [same stream rfl]
    rintro _ ⟨⟩
    cases ending <;> exact begun

theorem Reaches.withSlots {session : Session} {epoch : Nat} (reaches : session.Reaches epoch)
    (slots : Slots) : (session.withSlots slots).Reaches epoch := by
  intro stream has
  rw [Session.withSlots, stream?_mapStream, Option.map_eq_some_iff] at has
  obtain ⟨before, there, rfl⟩ := has
  exact reaches before there

/-- A stream is set up anew in a run on both sides, or on neither. -/
theorem Alike.setsUpIn {session : Session} {bound : Nat} {fills : List CallerFill} {other : Slots}
    (alike : session.Alike bound fills other) {requests : List SessionRequest}
    (overwrites : session.OverwritesFirst fills requests) :
    (session.withSlots other).SetsUpIn requests ↔ session.SetsUpIn requests := by
  induction requests generalizing session fills other with
  | nil => exact Iff.rfl
  | cons request requests inductionHypothesis =>
      obtain ⟨first, rest⟩ := overwrites
      have now : request.SetsUp (session.withSlots other) ↔ request.SetsUp session := by
        cases request with
        | setUp wanted limits => exact session.setsUp_withSlots other wanted limits
        | _ => exact Iff.rfl
      rw [SetsUpIn, SetsUpIn, now]
      by_cases setsUp : request.SetsUp session
      · simp only [setsUp, true_or]
      · obtain ⟨later, same, kept⟩ := alike.run first setsUp
        rw [same, inductionHypothesis kept rest]

/-! ## Answers -/

/-- Starting a device for a stream gives a session that answers as if it had been activated
for the first time, with the clock at the same tick. -/
structure ActivatesAsFirst (stream : Stream) (device : Device) : Prop where
  granted : ((configured stream).activate 0 device).1 = .ok ()
  sameDevice : ((configured stream).activate 0 device).2.2 =
    ((configured stream.renewed).activate 0 device).2.2
  /-- With the same memory, nothing tells the two from each other but the epochs of
  handles. -/
  sameMemory : ∀ later : List SessionRequest, ¬ (activated stream device).SetsUpIn later →
    (activated stream device).answers later =
      (((activated stream.renewed device).withSlots stream.handover.slots).answers
        (later.map (·.withoutPast stream.past))).map (·.withPast stream.past)
  /-- Beside a stream with silent slots, only a caller who reads a slot that is handed out
  or releases what it has not overwritten can tell. -/
  silentMemory : ∀ later : List SessionRequest, ¬ (activated stream device).SetsUpIn later →
    (activated stream device).OverwritesFirst [] later →
      ((activated stream device).answers later).map SessionAnswer.unread =
        (((activated stream.renewed device).answers
          (later.map (·.withoutPast stream.past))).map (·.withPast stream.past)).map
            SessionAnswer.unread

/-- **Every activation is like a first one**, whatever was asked of the session before. -/
theorem activates_as_first (history : List SessionRequest) {stream : Stream}
    (reached : idle.after history = configured stream) (device : Device) :
    ActivatesAsFirst stream device := by
  have has : (idle.after history).stream? = some stream := by rw [reached]; rfl
  have sound := sound_idle.after history stream has
  have paced := paced_after history has
  exact
    { granted := (activate_configured stream device).1
      sameDevice := device_activate_renewed stream device
      sameMemory := by
        intro later sameStream
        have begun := (reaches_activated stream.renewed device).withSlots stream.handover.slots
        rw [activated_eq sound paced] at sameStream ⊢
        exact answers_withPast begun sameStream
      silentMemory := by
        intro later sameStream overwrites
        have shaped : stream.renewed.handover.slots.Shaped _ _ _ := Slots.Shaped.silent _ _ _
        have alike := alike_activated sound device shaped
        have begun := reaches_activated stream.renewed device
        rw [← alike.setsUpIn overwrites, activated_withSlots sound paced] at sameStream
        rw [← alike.answers overwrites, activated_withSlots sound paced,
          answers_withPast begun sameStream] }

end Session

end DacStream
