import DacStream.Handover.Feed

/-!
# What a buffer set is made of

A transfer is answered with silence on the channels that nothing feeds and with the
payloads of one slot on the others (`Feed.origin_of_slotSet`).  So two memories answer it
with the same bytes if they have the same payloads in that slot, whatever they hold
elsewhere (`BufferSet.map_congr`).
-/

namespace DacStream

set_option autoImplicit false

namespace BufferSet

variable {β γ : Type}

/-- Giving a channel a buffer gives no other buffer to anybody. -/
theorem buffer?_set_cases (buffers : BufferSet β) (target channel : Nat) {given buffer : β}
    (has : (buffers.set target given).buffer? channel = some buffer) :
    buffer = given ∨ buffers.buffer? channel = some buffer := by
  by_cases same : target = channel
  · subst same
    by_cases inside : target < mostChannels
    · rw [buffers.buffer?_set_self target given inside] at has
      exact .inl (Option.some.inj has).symm
    · simp [buffer?, set, inside] at has
  · rw [buffers.buffer?_set_ne target channel given same] at has
    exact .inr has

/-- What holds of the buffers of a set and of those that are given holds of all. -/
theorem forall_buffer?_foldl_set {ι : Type} (holds : β → Prop) (target : ι → Nat) (given : ι → β)
    (all : ∀ entry, holds (given entry)) (entries : List ι) (buffers : BufferSet β)
    (before : ∀ channel buffer, buffers.buffer? channel = some buffer → holds buffer) :
    ∀ channel buffer,
      (entries.foldl (fun set entry => set.set (target entry) (given entry)) buffers).buffer?
        channel = some buffer → holds buffer := by
  induction entries generalizing buffers with
  | nil => exact before
  | cons entry entries inductionHypothesis =>
      apply inductionHypothesis
      intro channel buffer has
      rcases buffers.buffer?_set_cases _ _ has with rfl | there
      · exact all entry
      · exact before channel buffer there

/-- Two ways to read the buffers of a set are the same if they are on its buffers. -/
theorem map_congr {buffers : BufferSet β} {first second : β → γ}
    (same : ∀ channel buffer, buffers.buffer? channel = some buffer →
      first buffer = second buffer) : buffers.map first = buffers.map second := by
  unfold map
  congr 1
  apply Vector.ext
  intro channel inside
  rw [Vector.getElem_map, Vector.getElem_map]
  cases has : buffers.channels[channel] with
  | none => rfl
  | some buffer =>
      have there : buffers.buffer? channel = some buffer := by
        simp [buffer?, inside, has]
      rw [Option.map_some, Option.map_some, same channel buffer there]

end BufferSet

namespace Feed

theorem idle_of_idleSet (feed : Feed) (channelLength : Nat) :
    ∀ channel origin, (feed.idleSet channelLength).buffer? channel = some origin →
      origin = .idle := by
  apply BufferSet.forall_buffer?_foldl_set (· = .idle) id (fun _ => Origin.idle) (fun _ => rfl)
  intro channel origin has
  rw [BufferSet.buffer?_empty] at has
  exact nomatch has

/-- A slot is heard on some channels, and silence on the others. -/
theorem origin_of_slotSet (feed : Feed) (channelLength index : Nat) :
    ∀ channel origin, (feed.slotSet channelLength index).buffer? channel = some origin →
      origin = .idle ∨ ∃ source, origin = .payload index source := by
  apply BufferSet.forall_buffer?_foldl_set
    (fun origin => origin = .idle ∨ ∃ source, origin = .payload index source) Prod.fst
    (fun entry => Origin.payload index entry.2) (fun entry => .inr ⟨entry.2, rfl⟩)
  intro channel origin has
  exact .inl (feed.idle_of_idleSet channelLength channel origin has)

variable {slots other : Slots}

/-- Memories of one shape are equally silent. -/
theorem map_read_idleSet (feed : Feed) (channelLength : Nat)
    (sameLength : other.channelLength = slots.channelLength) :
    (feed.idleSet channelLength).map other.read = (feed.idleSet channelLength).map slots.read := by
  apply BufferSet.map_congr
  intro channel origin has
  rw [feed.idle_of_idleSet channelLength channel origin has, Slots.read, Slots.read, sameLength]

/-- Two memories answer a transfer with the same bytes if they have the same payloads in
the slot that the device got. -/
theorem map_read_answer? (feed : Feed) (sameChannels : other.channels = slots.channels)
    (sameLength : other.channelLength = slots.channelLength) {grant? : Option Grant}
    (samePayloads : ∀ grant, grant? = some grant → ∀ channel,
      other.payload? grant.handle.index channel = slots.payload? grant.handle.index channel) :
    (feed.answer? other grant?).map (·.map other.read) =
      (feed.answer? slots grant?).map (·.map slots.read) := by
  cases grant? with
  | none =>
      simp only [answer?, sameLength, Option.map_some]
      rw [feed.map_read_idleSet _ sameLength]
  | some grant =>
      simp only [answer?, sameChannels, sameLength]
      by_cases enough : feed.selection.length ≤ slots.channels
      · rw [if_pos enough, Option.map_some, Option.map_some]
        congr 1
        apply BufferSet.map_congr
        intro channel origin has
        rcases feed.origin_of_slotSet _ _ channel origin has with rfl | ⟨source, rfl⟩
        · rw [Slots.read, Slots.read, sameLength]
        · rw [Slots.read, Slots.read, samePayloads grant rfl source, sameLength]
      · rw [if_neg enough]
        rfl

end Feed

end DacStream
