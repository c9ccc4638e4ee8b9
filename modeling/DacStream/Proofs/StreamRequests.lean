import DacStream.Stream.Config
import Mathlib.Data.List.Perm.Subperm

/-!
# Which streams are granted

A request for a stream is asked six things, one after the other (`Requirement.all`), and
the first that it does not meet is reported (`FirstUnmet`).  What each of them asks is said
here without the length of the selection: channels that are all different and all on the
device are never more than the device has (`length_channels_le`), so that the test for it
refuses nothing that the others let through.

A request that meets them all is granted, and what it becomes is fit for streaming
(`StreamConfig.Fit`): it feeds one channel at least and none twice, and a buffer holds one
element at least and no part of one.
-/

namespace DacStream

set_option autoImplicit false

namespace StreamRequest

/-- The buffer length in force: the one that is asked for, or else the only one of the
device, or else the one of its choice. -/
def lengthInForce (request : StreamRequest) (limits : DeviceLimits) : Nat :=
  ((request.options.bufferLength?.or limits.requiredLength?).getD limits.defaultLength).toNat

theorem bufferLength_eq (request : StreamRequest) (limits : DeviceLimits) :
    request.bufferLength limits = request.lengthInForce limits := by
  unfold bufferLength lengthInForce DeviceLimits.usualLength
  cases request.options.bufferLength? <;> rfl

theorem channels_ne_nil (request : StreamRequest) : request.channels ≠ [] := by
  unfold channels
  split
  · exact List.cons_ne_nil 0 []
  · rename_i some
    exact fun none => some (List.isEmpty_iff.mpr none)

/-- **Different channels of the device are never more than it has.** -/
theorem length_channels_le {request : StreamRequest} {limits : DeviceLimits}
    (different : request.channels.Nodup)
    (inside : ∀ channel ∈ request.channels, channel < limits.channels) :
    request.channels.length ≤ limits.channels := by
  have listed : request.channels ⊆ List.range limits.channels := fun channel selected =>
    List.mem_range.mpr (inside channel selected)
  simpa using (different.subperm listed).length_le

end StreamRequest

/-! ## Requirements -/

/-- What is required of a request. -/
inductive Requirement where
  | direction
  | selection
  | fixedLength
  | alignment
  | wholeElements
  | bufferCount
  deriving DecidableEq, Repr

namespace Requirement

/-- All requirements, in the order in which they are asked. -/
def all : List Requirement :=
  [.direction, .selection, .fixedLength, .alignment, .wholeElements, .bufferCount]

theorem mem_all (requirement : Requirement) : requirement ∈ all := by
  cases requirement <;> decide

variable (request : StreamRequest) (limits : DeviceLimits)

/-- Whether a request meets a requirement on a device. -/
def Met : Requirement → Prop
  | .direction => request.direction = .transmit
  | .selection =>
      request.channels.Nodup ∧ ∀ channel ∈ request.channels, channel < limits.channels
  | .fixedLength => ∀ required, limits.requiredLength? = some required →
      request.lengthInForce limits = required.toNat
  | .alignment =>
      0 < request.lengthInForce limits ∧
        max limits.alignment.toNat 1 ∣ request.lengthInForce limits
  | .wholeElements => request.format.nativeBytes ∣ request.lengthInForce limits
  | .bufferCount => 2 ≤ request.options.bufferCount.toNat

/-- The error that reports a requirement as not met.  (Only a device that takes one length
alone finds another length to be wrong, so the length it is said to take is that one.) -/
def error : Requirement → StreamError
  | .direction => .unsupportedDirection request.direction
  | .selection => .invalidChannelSelection request.channels limits.channels
  | .fixedLength =>
      .bufferLengthMismatch (request.lengthInForce limits)
        (limits.requiredLength?.getD limits.defaultLength).toNat
  | .alignment =>
      .invalidBufferLength (request.lengthInForce limits) (max limits.alignment.toNat 1)
  | .wholeElements =>
      .misalignedElement (request.lengthInForce limits) request.format.nativeBytes request.format
  | .bufferCount => .invalidBufferCount request.options.bufferCount.toNat

/-- The one length of a device, read off as it is checked. -/
theorem all_requiredLength_iff :
    (limits.requiredLength?.all fun required => request.lengthInForce limits == required.toNat) ↔
      Met request limits .fixedLength := by
  rw [Option.all_eq_true]
  simp only [beq_iff_eq]
  rfl

instance : DecidablePred (Met request limits)
  | .direction => inferInstanceAs (Decidable (_ = _))
  | .selection => inferInstanceAs (Decidable (_ ∧ _))
  | .fixedLength => decidable_of_iff _ (all_requiredLength_iff request limits)
  | .alignment => inferInstanceAs (Decidable (_ ∧ _))
  | .wholeElements => inferInstanceAs (Decidable (_ ∣ _))
  | .bufferCount => inferInstanceAs (Decidable (_ ≤ _))

/-- The requirement is not met, and all that are asked before it are. -/
def FirstUnmet (requirement : Requirement) : Prop :=
  ∃ before after, all = before ++ requirement :: after ∧
    (∀ earlier ∈ before, earlier.Met request limits) ∧ ¬ requirement.Met request limits

theorem find?_unmet_iff {request : StreamRequest} {limits : DeviceLimits}
    {requirement : Requirement} :
    all.find? (fun each => !decide (each.Met request limits)) = some requirement ↔
      requirement.FirstUnmet request limits := by
  rw [List.find?_eq_some_iff_append]
  simp only [Bool.not_eq_true', decide_eq_false_iff_not, Bool.not_not, decide_eq_true_eq]
  constructor
  · rintro ⟨unmet, before, after, split, met⟩
    exact ⟨before, after, split, met, unmet⟩
  · rintro ⟨before, after, split, met, unmet⟩
    exact ⟨unmet, before, after, split, met⟩

/-- What is checked is what is required, in the same order and with the same errors. -/
theorem requirements_eq :
    StreamConfig.requirements request limits =
      all.map fun requirement =>
        (decide (requirement.Met request limits), requirement.error request limits) := by
  have length := request.bufferLength_eq limits
  have selection : (request.channels.Nodup ∧ request.channels.length ≤ limits.channels ∧
      ∀ channel ∈ request.channels, channel < limits.channels) ↔
        Met request limits .selection :=
    ⟨fun all => ⟨all.1, all.2.2⟩,
      fun both => ⟨both.1, request.length_channels_le both.1 both.2, both.2⟩⟩
  have fixedLength : (limits.requiredLength?.all fun required =>
      request.lengthInForce limits == required.toNat) = decide (Met request limits .fixedLength) := by
    rw [Bool.eq_iff_iff, decide_eq_true_iff]
    exact all_requiredLength_iff request limits
  have alignment : (0 < request.lengthInForce limits ∧
      request.lengthInForce limits % limits.effectiveAlignment = 0) ↔
        Met request limits .alignment :=
    and_congr_right fun _ => Nat.dvd_iff_mod_eq_zero.symm
  have wholeElements : request.lengthInForce limits % request.format.nativeBytes = 0 ↔
      Met request limits .wholeElements := Nat.dvd_iff_mod_eq_zero.symm
  simp only [StreamConfig.requirements, length, selection, fixedLength, alignment, wholeElements]
  rfl

/-- A request is granted exactly if it meets every requirement. -/
theorem create_ok_iff (config : StreamConfig) :
    StreamConfig.create request limits = .ok config ↔
      (∀ requirement : Requirement, requirement.Met request limits) ∧
        StreamConfig.ofRequest request limits = config := by
  rw [StreamConfig.create_eq_ok_iff, requirements_eq, List.forall_mem_map]
  simp only [decide_eq_true_eq, mem_all, true_implies]

/-- A request that is refused is refused for the first requirement that it does not meet. -/
theorem create_error_iff (error : StreamError) :
    StreamConfig.create request limits = .error error ↔
      ∃ requirement : Requirement, requirement.FirstUnmet request limits ∧
        error = requirement.error request limits := by
  have checked : (StreamConfig.requirements request limits).find? (fun each => !each.1) =
      (all.find? fun each => !decide (each.Met request limits)).map fun requirement =>
        (decide (requirement.Met request limits), requirement.error request limits) := by
    rw [requirements_eq, List.find?_map]
    rfl
  rw [StreamConfig.create, checked]
  simp only [← find?_unmet_iff]
  cases all.find? fun each => !decide (each.Met request limits) with
  | none => simp
  | some failed => simp [eq_comm]

end Requirement

/-! ## Configurations -/

namespace StreamConfig

variable {request : StreamRequest} {limits : DeviceLimits} {config : StreamConfig}

/-- What the data path relies on. -/
structure Fit (config : StreamConfig) (limits : DeviceLimits) : Prop where
  /-- There is a channel, and each one is a channel of the device of its own. -/
  nonempty : config.selection ≠ []
  distinct : config.selection.Nodup
  inside : ∀ channel ∈ config.selection, channel < limits.channels
  atMost : config.selection.length ≤ limits.channels
  /-- A buffer holds whole elements, and at least one. -/
  positive : 1 ≤ config.elementsPerBuffer
  whole : config.elementsPerBuffer * config.format.nativeBytes = config.bufferLength
  enough : 2 ≤ config.bufferCount

theorem fit_of_accepted (accepted : create request limits = .ok config) : config.Fit limits := by
  obtain ⟨met, rfl⟩ := (Requirement.create_ok_iff request limits config).mp accepted
  have sameLength : (ofRequest request limits).bufferLength = request.lengthInForce limits :=
    request.bufferLength_eq limits
  obtain ⟨positive, -⟩ := met .alignment
  have whole : (ofRequest request limits).elementsPerBuffer * request.format.nativeBytes =
      (ofRequest request limits).bufferLength := by
    rw [elementsPerBuffer, sameLength]
    exact Nat.div_mul_cancel (met .wholeElements)
  obtain ⟨distinct, inside⟩ := met .selection
  exact
    { nonempty := request.channels_ne_nil
      distinct := distinct
      inside := inside
      atMost := request.length_channels_le distinct inside
      positive := by
        refine Nat.pos_of_ne_zero fun none => ?_
        rw [none, Nat.zero_mul, sameLength] at whole
        omega
      whole := whole
      enough := met .bufferCount }

/-- The length of a buffer is a machine word. -/
theorem bufferLength_lt_of_accepted (accepted : create request limits = .ok config) :
    config.bufferLength < UInt64.size := by
  obtain ⟨-, rfl⟩ := (Requirement.create_ok_iff request limits config).mp accepted
  exact UInt64.toNat_lt_size _

/-- How a request is decided on a device. -/
structure Decides (request : StreamRequest) (limits : DeviceLimits) : Prop where
  /-- It is granted exactly if it meets every requirement, -/
  granted_iff : (∃ config, create request limits = .ok config) ↔
    ∀ requirement : Requirement, requirement.Met request limits
  /-- and else refused for the first that it does not meet. -/
  refused_iff : ∀ error, create request limits = .error error ↔
    ∃ requirement : Requirement, requirement.FirstUnmet request limits ∧
      error = requirement.error request limits
  /-- What is granted is what was asked for, and it is fit for streaming. -/
  granted : ∀ config, create request limits = .ok config →
    config = ⟨request.format, request.channels, request.lengthInForce limits,
      request.options.bufferCount.toNat, request.options.asyncBuffers, request.options.swap⟩ ∧
    config.Fit limits
  /-- A selection is never refused for its length alone. -/
  lengthIdle : request.channels.Nodup → (∀ channel ∈ request.channels, channel < limits.channels) →
    request.channels.length ≤ limits.channels

/-- **Requests are decided by their requirements**: a request is granted if and only if it
meets all of them on its device, and is refused for the first one that it does not meet. -/
theorem requests_decided (request : StreamRequest) (limits : DeviceLimits) :
    Decides request limits where
  granted_iff := by
    constructor
    · rintro ⟨config, accepted⟩
      exact ((Requirement.create_ok_iff request limits config).mp accepted).1
    · exact fun met => ⟨_, (Requirement.create_ok_iff request limits _).mpr ⟨met, rfl⟩⟩
  refused_iff := Requirement.create_error_iff request limits
  granted := by
    intro config accepted
    refine ⟨?_, fit_of_accepted accepted⟩
    obtain ⟨-, rfl⟩ := (Requirement.create_ok_iff request limits config).mp accepted
    rw [ofRequest, request.bufferLength_eq limits]
  lengthIdle := request.length_channels_le

end StreamConfig

end DacStream
