import DacStream.Proofs.HandleLifetime
import DacStream.Proofs.SideBySide

/-!
# Releases that are refused

A release is refused if its handle is of the current epoch but is not that of the oldest
slot of the writer.  Nothing is published then: the ring, the clock, the stamps and the
counters are what they were.  But before the hand-over is asked to publish the slot, it is
muted behind the released elements, and whoever mutes it has only asked whether it is one of
the writer's slots.  The two questions differ for the younger slots of the writer: their
release is refused, and yet they lose what stood behind those elements
(`Stream.refusesRelease`).

The loss is not made good by releasing the slots in their order.  It does not matter whether
a slot is muted before or after a row of releases (`Stream.releaseAll_muted`), so the loss
shows in what is published, unless that is silent there in any case.  It is silent if the
slot is published with no more elements than the refused release named
(`Stream.releaseAll_in_order`).
-/

namespace DacStream

set_option autoImplicit false

/-! ## Silence -/

namespace Bytes

variable {bytes : Bytes}

/-- The bytes are silent from `start` on. -/
def SilentFrom (bytes : Bytes) (start : Nat) : Prop :=
  bytes.drop start = silence (bytes.length - start)

theorem muteFrom_eq_self_iff {start : Nat} :
    bytes.muteFrom start = bytes ↔ bytes.SilentFrom start := by
  have split : bytes.take start ++ bytes.drop start = bytes := List.take_append_drop start bytes
  constructor
  · intro same
    rw [muteFrom] at same
    exact List.append_cancel_left (split.trans same.symm)
  · intro silent
    rw [SilentFrom] at silent
    rw [muteFrom, ← silent, split]

/-- Muting twice is muting once, from the lower start. -/
theorem muteFrom_muteFrom (bytes : Bytes) (first second : Nat) :
    (bytes.muteFrom first).muteFrom second = bytes.muteFrom (min first second) := by
  refine List.ext_getElem? fun place => ?_
  simp only [muteFrom, silence, List.getElem?_append, List.getElem?_take, List.getElem?_replicate,
    List.length_append, List.length_take, List.length_replicate]
  grind

theorem muteFrom_comm (bytes : Bytes) (first second : Nat) :
    (bytes.muteFrom first).muteFrom second = (bytes.muteFrom second).muteFrom first := by
  rw [muteFrom_muteFrom, muteFrom_muteFrom, Nat.min_comm]

theorem silentFrom_muteFrom (bytes : Bytes) {start later : Nat} (behind : start ≤ later) :
    (bytes.muteFrom start).SilentFrom later := by
  rw [← muteFrom_eq_self_iff, muteFrom_muteFrom, Nat.min_eq_left behind]

end Bytes

namespace Slots

variable {slots : Slots} {index start : Nat}

/-- Makes the payloads of a slot silent from `start` on. -/
def mute (slots : Slots) (index start : Nat) : Slots :=
  slots.modify index fun _ payload => payload.muteFrom start

/-- The payloads of a slot are silent from `start` on. -/
def SilentFrom (slots : Slots) (index start : Nat) : Prop :=
  ∀ channel payload, slots.payload? index channel = some payload → payload.SilentFrom start

theorem payload?_mute (slots : Slots) (muted start index channel : Nat) :
    (slots.mute muted start).payload? index channel =
      if muted = index then (slots.payload? index channel).map (·.muteFrom start)
      else slots.payload? index channel :=
  slots.payload?_modify muted _ index channel

theorem mute_eq_self_iff : slots.mute index start = slots ↔ slots.SilentFrom index start := by
  constructor
  · intro same channel payload there
    have muted := slots.payload?_mute index start index channel
    rw [same, if_pos rfl, there] at muted
    exact Bytes.muteFrom_eq_self_iff.mp (Option.some.inj muted).symm
  · intro silent
    refine modify_eq_self fun channel payload there => ?_
    exact Bytes.muteFrom_eq_self_iff.mpr (silent channel payload there)

theorem mute_comm (slots : Slots) (index start other later : Nat) :
    (slots.mute index start).mute other later = (slots.mute other later).mute index start :=
  slots.modify_comm index other fun _ payload => payload.muteFrom_comm start later

theorem silentFrom_mute (slots : Slots) {later : Nat} (behind : start ≤ later) :
    (slots.mute index start).SilentFrom index later := by
  intro channel payload there
  rw [payload?_mute, if_pos rfl, Option.map_eq_some_iff] at there
  obtain ⟨before, -, rfl⟩ := there
  exact before.silentFrom_muteFrom behind

end Slots

namespace Stream

variable {stream : Stream} {handle : Handle} {elements : Nat}

/-! ## Muted slots -/

/-- Where the bytes behind a number of elements begin in a payload. -/
def byteAfter (stream : Stream) (elements : Nat) : Nat :=
  min elements stream.config.elementsPerBuffer * stream.config.format.nativeBytes

theorem byteAfter_le (stream : Stream) {fewer : Nat} (atMost : fewer ≤ elements) :
    stream.byteAfter fewer ≤ stream.byteAfter elements :=
  Nat.mul_le_mul_right _ (min_le_min_right _ atMost)

/-- The stream with the payloads of a slot silent from `start` on. -/
def muted (stream : Stream) (index start : Nat) : Stream :=
  stream.withSlots (stream.handover.slots.mute index start)

theorem muted_eq_self_iff {index start : Nat} :
    stream.muted index start = stream ↔ stream.handover.slots.SilentFrom index start := by
  rw [← Slots.mute_eq_self_iff]
  constructor
  · intro same
    exact congrArg (fun reached : Stream => reached.handover.slots) same
  · intro same
    rw [muted, same]
    rfl

theorem padded_of_mem (invariant : stream.handover.ring.Invariant)
    (mine : handle ∈ stream.handover.ring.writerHandles) (elements : Nat) :
    stream.padded handle elements =
      stream.handover.slots.mute handle.index (stream.byteAfter elements) := by
  rw [padded, if_pos ((SlotRing.isWriterSlot_iff_mem invariant).mpr mine)]
  rfl

theorem padded_muted (stream : Stream) (index start : Nat) (handle : Handle) (elements : Nat) :
    (stream.muted index start).padded handle elements =
      (stream.padded handle elements).mute index start := by
  rw [padded, padded]
  by_cases writer : stream.handover.ring.isWriterSlot handle = true
  · rw [if_pos writer]
    exact (if_pos writer).trans (Slots.mute_comm _ _ _ _ _)
  · rw [if_neg writer]
    exact if_neg writer

/-- A release publishes the payloads as they are. -/
theorem slots_padAndRelease (stream : Stream) (handle : Handle) (elements : Nat) :
    (stream.padAndRelease handle elements).2.handover.slots = stream.padded handle elements := by
  rw [padAndRelease_eq, release_eq]
  obtain ⟨-, same⟩ | ⟨-, -, same⟩ | ⟨-, -, same⟩ :=
    (stream.withSlots (stream.padded handle elements)).handover.release_cases handle <;>
    rw [same] <;> rfl

/-- A slot can as well be muted after a release. -/
theorem padAndRelease_muted (stream : Stream) (index start : Nat) (handle : Handle)
    (elements : Nat) :
    (stream.muted index start).padAndRelease handle elements =
      ((stream.padAndRelease handle elements).1,
        (stream.padAndRelease handle elements).2.muted index start) := by
  have memory := stream.padded_muted index start handle elements
  rw [muted] at memory
  rw [muted, padAndRelease_withSlots, memory, muted, slots_padAndRelease]

/-! ## Releases in a row -/

/-- The stream after a row of releases, each with a number of elements. -/
def releaseAll (stream : Stream) (releases : List (Handle × Nat)) : Stream :=
  releases.foldl (fun reached release => (reached.padAndRelease release.1 release.2).2) stream

theorem releaseAll_cons (stream : Stream) (release : Handle × Nat)
    (releases : List (Handle × Nat)) :
    stream.releaseAll (release :: releases) =
      (stream.padAndRelease release.1 release.2).2.releaseAll releases := rfl

theorem releaseAll_concat (stream : Stream) (releases : List (Handle × Nat)) (handle : Handle)
    (elements : Nat) :
    stream.releaseAll (releases ++ [(handle, elements)]) =
      ((stream.releaseAll releases).padAndRelease handle elements).2 :=
  List.foldl_append

theorem moves_releaseAll (stream : Stream) (releases : List (Handle × Nat)) :
    stream.Moves (stream.releaseAll releases) := by
  induction releases generalizing stream with
  | nil => exact .refl
  | cons release releases inductionHypothesis =>
      exact (stream.moves_padAndRelease _ _).trans (inductionHypothesis _)

/-- A slot can as well be muted after any row of releases. -/
theorem releaseAll_muted (stream : Stream) (index start : Nat) (releases : List (Handle × Nat)) :
    (stream.muted index start).releaseAll releases =
      (stream.releaseAll releases).muted index start := by
  induction releases generalizing stream with
  | nil => rfl
  | cons release releases inductionHypothesis =>
      rw [releaseAll_cons, releaseAll_cons, padAndRelease_muted, inductionHypothesis]

/-- The writer keeps a slot while others are released. -/
theorem mem_writerHandles_padAndRelease (invariant : stream.handover.ring.Invariant)
    (mine : handle ∈ stream.handover.ring.writerHandles) {other : Handle} (apart : other ≠ handle)
    (elements : Nat) :
    handle ∈ (stream.padAndRelease other elements).2.handover.ring.writerHandles := by
  rw [padAndRelease_eq, release_eq]
  obtain ⟨-, same⟩ | ⟨-, -, same⟩ | ⟨current, oldest, same⟩ :=
    (stream.withSlots (stream.padded other elements)).handover.release_cases other
  · rw [same]
    exact mine
  · rw [same]
    exact mine
  · rw [same]
    obtain ⟨holds, named⟩ := SlotRing.eq_oldestHandle current oldest
    rw [SlotRing.writerHandles_eq_oldest_cons invariant holds] at mine
    exact (List.mem_cons.mp mine).resolve_left fun first => apart (named.trans first.symm)

theorem mem_writerHandles_releaseAll (sound : stream.Sound)
    (mine : handle ∈ stream.handover.ring.writerHandles) {releases : List (Handle × Nat)}
    (others : ∀ release ∈ releases, release.1 ≠ handle) :
    handle ∈ (stream.releaseAll releases).handover.ring.writerHandles := by
  induction releases generalizing stream with
  | nil => exact mine
  | cons release releases inductionHypothesis =>
      refine inductionHypothesis (sound.moves (stream.moves_padAndRelease _ _)) ?_ ?_
      · exact mem_writerHandles_padAndRelease sound.ring mine (others release List.mem_cons_self) _
      · intro later listed
        exact others later (List.mem_cons_of_mem _ listed)

/-- A slot that is to be published with no more elements can be muted before. -/
theorem releaseAll_in_order (sound : stream.Sound)
    (mine : handle ∈ stream.handover.ring.writerHandles) {earlier : List (Handle × Nat)}
    (others : ∀ release ∈ earlier, release.1 ≠ handle) {fewer : Nat} (atMost : fewer ≤ elements) :
    (stream.muted handle.index (stream.byteAfter elements)).releaseAll
        (earlier ++ [(handle, fewer)]) =
      stream.releaseAll (earlier ++ [(handle, fewer)]) := by
  have moves := stream.moves_releaseAll earlier
  have still := mem_writerHandles_releaseAll sound mine others
  have sameStart : (stream.releaseAll earlier).byteAfter fewer = stream.byteAfter fewer := by
    rw [byteAfter, config_of_moves moves, byteAfter]
  rw [releaseAll_muted, muted_eq_self_iff, releaseAll_concat, slots_padAndRelease,
    padded_of_mem (sound.moves moves).ring still, sameStart]
  exact Slots.silentFrom_mute _ (stream.byteAfter_le atMost)

/-! ## Refused releases -/

/-- A release was refused, and what it has left of the stream. -/
structure RefusesRelease (stream : Stream) (handle : Handle) (elements : Nat)
    (error : StreamError) (refused : Stream) : Prop where
  named : error = .invalidHandle handle.index
  /-- The handle is not stale, but it is not the turn of its slot. -/
  current : handle.epoch = stream.handover.ring.epoch
  notInTurn : stream.handover.ring.writerHandles.head? ≠ some handle
  /-- All but the memory is kept: the ring, the clock, the counters and the slot in work. -/
  kept : refused = stream.withSlots refused.handover.slots
  stamps : ∀ index, refused.handover.slots.tick? index = stream.handover.slots.tick? index
  /-- A slot of the writer is muted behind the elements, and no other payload is changed. -/
  payloads : ∀ index channel, refused.handover.slots.payload? index channel =
    if handle ∈ stream.handover.ring.writerHandles ∧ handle.index = index then
      (stream.handover.slots.payload? index channel).map
        (·.muteFrom (stream.byteAfter elements))
    else stream.handover.slots.payload? index channel
  /-- So nothing at all has changed exactly if there was nothing to mute. -/
  unchanged_iff : refused = stream ↔
    (handle ∈ stream.handover.ring.writerHandles →
      stream.handover.slots.SilentFrom handle.index (stream.byteAfter elements))
  /-- Whatever is released afterwards, it is as if the refused release had not been tried
  exactly if the slot would then be silent there. -/
  forgotten_iff : ∀ releases : List (Handle × Nat),
    refused.releaseAll releases = stream.releaseAll releases ↔
      (handle ∈ stream.handover.ring.writerHandles →
        (stream.releaseAll releases).handover.slots.SilentFrom handle.index
          (stream.byteAfter elements))
  /-- It is so for a caller who goes on to release the slots in their order, and this one with
  no more elements than before. -/
  inOrder : ∀ (earlier : List (Handle × Nat)) (fewer : Nat),
    (∀ release ∈ earlier, release.1 ≠ handle) → fewer ≤ elements →
      refused.releaseAll (earlier ++ [(handle, fewer)]) =
        stream.releaseAll (earlier ++ [(handle, fewer)])

/-- A handle that is refused is current, but not that of the oldest slot. -/
theorem refused_cases (invariant : stream.handover.ring.Invariant) {error : StreamError}
    (failed : (stream.padAndRelease handle elements).1 = .error error) :
    error = .invalidHandle handle.index ∧ handle.epoch = stream.handover.ring.epoch ∧
      stream.handover.ring.writerHandles.head? ≠ some handle ∧
        (stream.padAndRelease handle elements).2 =
          stream.withSlots (stream.padded handle elements) := by
  rw [padAndRelease_eq, release_eq] at failed ⊢
  obtain ⟨-, same⟩ | ⟨current, younger, same⟩ | ⟨-, -, same⟩ :=
    (stream.withSlots (stream.padded handle elements)).handover.release_cases handle
  · rw [same] at failed
    cases failed
  · rw [same] at failed ⊢
    cases failed
    refine ⟨rfl, current, ?_, rfl⟩
    intro first
    have oldest := ((SlotRing.head?_writerHandles_iff invariant).mp first).2
    exact Bool.noConfusion (oldest.symm.trans younger)
  · rw [same] at failed
    cases failed

theorem refusesRelease (sound : stream.Sound) {error : StreamError}
    (failed : (stream.padAndRelease handle elements).1 = .error error) :
    stream.RefusesRelease handle elements error (stream.padAndRelease handle elements).2 := by
  obtain ⟨named, current, notInTurn, same⟩ := refused_cases sound.ring failed
  by_cases mine : handle ∈ stream.handover.ring.writerHandles
  · rw [padded_of_mem sound.ring mine, ← muted] at same
    rw [same]
    refine
      { named := named
        current := current
        notInTurn := notInTurn
        kept := rfl
        stamps := fun index => Slots.tick?_modify _ _ _ index
        payloads := ?_
        unchanged_iff := ?_
        forgotten_iff := ?_
        inOrder := ?_ }
    · intro index channel
      simp only [mine, true_and]
      exact stream.handover.slots.payload?_mute _ _ _ _
    · simp only [mine, forall_const]
      exact muted_eq_self_iff
    · intro releases
      rw [releaseAll_muted]
      simp only [mine, forall_const]
      exact muted_eq_self_iff
    · intro earlier fewer others atMost
      exact releaseAll_in_order sound mine others atMost
  · rw [padAndRelease_of_notMem sound.ring mine]
    exact
      { named := named
        current := current
        notInTurn := notInTurn
        kept := rfl
        stamps := fun _ => rfl
        payloads := fun _ _ => by simp only [mine, false_and, if_false]
        unchanged_iff := by simp only [mine, false_implies]
        forgotten_iff := fun _ => by simp only [mine, false_implies]
        inOrder := fun _ _ _ _ => rfl }

end Stream

namespace Session

/-- **A refused release publishes nothing, but mutes**: whatever was asked of a session before,
when a release fails, everything but the payloads is what it was, and exactly the slots that
the writer holds and may not release yet lose what stood behind the elements. -/
theorem refused_release_mutes (history : List SessionRequest) {stream : Stream} {run : Run}
    (isActive : idle.after history = .active stream run) (handle : Handle) (elements : Nat)
    {error : StreamError}
    (failed : ((idle.after history).releaseBuffer handle elements).1 = .error error) :
    ∃ refused, ((idle.after history).releaseBuffer handle elements).2 = .active refused run ∧
      stream.RefusesRelease handle elements error refused := by
  have sound : stream.Sound := sound_idle.after history stream (by rw [isActive]; rfl)
  rw [isActive] at failed ⊢
  exact ⟨_, rfl, Stream.refusesRelease sound failed⟩

/-- What the caller does below: it fills two slots and holds them both. -/
def twoSlotsFilled : List SessionRequest :=
  [soleSetUp, .activate 0 soleDevice, .acquireBuffer, .fillBuffer 0 [[7, 7]], .acquireBuffer,
    .fillBuffer 1 [[9, 9]]]

/-- The younger slot is refused and muted, one that is with nobody is only refused. -/
theorem refused_release_mutes_younger :
    ∃ stream run refused alike, idle.after twoSlotsFilled = .active stream run ∧
      stream.handover.ring.writerHandles = [⟨0, 1⟩, ⟨1, 1⟩] ∧
      ((idle.after twoSlotsFilled).releaseBuffer ⟨1, 1⟩ 1).1 = .error (.invalidHandle 1) ∧
      stream.RefusesRelease ⟨1, 1⟩ 1 (.invalidHandle 1) refused ∧ refused ≠ stream ∧
      ((idle.after twoSlotsFilled).releaseBuffer ⟨2, 1⟩ 1).1 = .error (.invalidHandle 2) ∧
      stream.RefusesRelease ⟨2, 1⟩ 1 (.invalidHandle 2) alike ∧ alike = stream := by
  have younger : ((idle.after twoSlotsFilled).releaseBuffer ⟨1, 1⟩ 1).1 =
      .error (.invalidHandle 1) := by decide
  have nobodys : ((idle.after twoSlotsFilled).releaseBuffer ⟨2, 1⟩ 1).1 =
      .error (.invalidHandle 2) := by decide
  obtain ⟨refused, same, refuses⟩ := refused_release_mutes twoSlotsFilled rfl ⟨1, 1⟩ 1 younger
  obtain ⟨alike, kept, likewise⟩ := refused_release_mutes twoSlotsFilled rfl ⟨2, 1⟩ 1 nobodys
  cases same
  cases kept
  exact ⟨_, _, _, _, rfl, by decide, younger, refuses, by decide, nobodys, likewise, by decide⟩

/-- The writer releases its slots in the wrong order, is refused, and releases them in the right
order then.  What it had filled into the second slot is not what is transmitted. -/
theorem refused_release_loses_bytes :
    let session := idle.after twoSlotsFilled
    let refused := session.releaseBuffer ⟨1, 1⟩ 1
    let inOrder : List SessionRequest :=
      [.releaseBuffer ⟨0, 1⟩ 2, .releaseBuffer ⟨1, 1⟩ 2, .transfer 1 { length := 2 }]
    refused.1 = .error (.invalidHandle 1) ∧
      session.payloads 1 = .ok [[9, 9]] ∧ refused.2.payloads 1 = .ok [[9, 128]] ∧
      (((refused.2.after inOrder).serve 1 { length := 2 }).1.bind (·.buffer? 0)) = some [9, 128] ∧
      (((session.after inOrder).serve 1 { length := 2 }).1.bind (·.buffer? 0)) = some [9, 9] := by
  intro session refused inOrder
  exact ⟨by decide, by decide, by decide, by decide +kernel, by decide +kernel⟩

end Session

end DacStream
