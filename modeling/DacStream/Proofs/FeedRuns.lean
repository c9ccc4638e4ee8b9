import DacStream.Proofs.SessionRuns

/-!
# Runs of a hand-over and its feeds

A run of a hand-over that feeds a device is a row of three kinds of requests: what either
side asks of the hand-over itself, bytes that the writer puts into slots, and transfers,
each of which may be answered through another feed.

A transfer is nothing but one or two requests of the device (`TransferRequest.asks`), so it
keeps what these keep.  Throughout a run the ring keeps its invariant and the memory its
shape (`Handover.Sound.fed`).
-/

namespace DacStream

set_option autoImplicit false

/-! ## Requests -/

/-- What can be asked of a hand-over that feeds a device. -/
inductive FeedRequest where
  /-- Something is asked of the hand-over itself. -/
  | ask (request : HandoverRequest)
  /-- The writer puts bytes over the payloads of a slot. -/
  | fill (index : Nat) (content : List Bytes)
  /-- The device asks for a transfer. -/
  | transfer (feed : Feed) (request : TransferRequest)

/-- The hand-over after a request, its answer left aside. -/
def FeedRequest.run : FeedRequest → Handover → Handover
  | .ask request, handover => request.run handover
  | .fill index content, handover =>
      { handover with slots := handover.slots.fill index content }
  | .transfer feed request, handover => (feed.transfer request handover).2

namespace Handover

/-- The hand-over after a row of requests. -/
def fed (handover : Handover) (requests : List FeedRequest) : Handover :=
  requests.foldl (fun reached request => request.run reached) handover

theorem fed_cons (handover : Handover) (request : FeedRequest) (requests : List FeedRequest) :
    handover.fed (request :: requests) = (request.run handover).fed requests := rfl

theorem fed_append (handover : Handover) (requests more : List FeedRequest) :
    handover.fed (requests ++ more) = (handover.fed requests).fed more :=
  List.foldl_append

end Handover

/-! ## A transfer as requests of the device -/

/-- What the device asks of the hand-over in a transfer. -/
def TransferRequest.asks (request : TransferRequest) (channelLength : Nat) :
    List HandoverRequest :=
  (request.steps channelLength).map DeviceStep.request

theorem Feed.transfer_snd (feed : Feed) (request : TransferRequest) (handover : Handover) :
    (feed.transfer request handover).2 =
      handover.after (request.asks handover.slots.channelLength) := by
  cases served : request.isServed handover.slots.channelLength with
  | true =>
      rw [feed.transfer_of_served request handover served]
      simp only [TransferRequest.asks, TransferRequest.steps, served]
      rfl
  | false =>
      rw [feed.transfer_of_refused request handover served]
      simp only [TransferRequest.asks, TransferRequest.steps, served]
      rfl

/-! ## Soundness in a run -/

/-- The ring keeps its invariant and has as many slots as the memory, which is of a given
shape. -/
structure Handover.Sound (capacity channels channelLength : Nat) (handover : Handover) : Prop where
  ring : handover.ring.Invariant
  slotCount : handover.ring.capacity = capacity
  memory : handover.slots.Shaped capacity channels channelLength

namespace Handover

variable {handover : Handover} {capacity channels channelLength : Nat}

theorem Sound.create (nonempty : 0 < capacity) (channels channelLength elementsPerSlot : Nat) :
    (create (Slots.silent capacity channels channelLength) elementsPerSlot).Sound
      capacity channels channelLength where
  ring := by
    refine invariant_create _ _ ?_
    rwa [(Slots.Shaped.silent _ _ _).slotCount]
  slotCount := (Slots.Shaped.silent _ _ _).slotCount
  memory := .silent _ _ _

theorem Sound.run (sound : handover.Sound capacity channels channelLength)
    (request : HandoverRequest) : (request.run handover).Sound capacity channels channelLength where
  ring := invariant_run sound.ring request
  slotCount := (capacity_run _ request).trans sound.slotCount
  memory := Stream.shaped_run sound.memory request

theorem Sound.after (sound : handover.Sound capacity channels channelLength)
    (requests : List HandoverRequest) :
    (handover.after requests).Sound capacity channels channelLength := by
  induction requests generalizing handover with
  | nil => exact sound
  | cons request requests inductionHypothesis => exact inductionHypothesis (sound.run request)

theorem Sound.feedRequest (sound : handover.Sound capacity channels channelLength)
    (request : FeedRequest) : (request.run handover).Sound capacity channels channelLength := by
  cases request with
  | ask asked => exact sound.run asked
  | fill index content =>
      exact
        { ring := sound.ring
          slotCount := sound.slotCount
          memory := sound.memory.fill index content }
  | transfer feed asked =>
      rw [FeedRequest.run, feed.transfer_snd]
      exact sound.after _

/-- Every run keeps a hand-over sound. -/
theorem Sound.fed (sound : handover.Sound capacity channels channelLength)
    (requests : List FeedRequest) :
    (handover.fed requests).Sound capacity channels channelLength := by
  induction requests generalizing handover with
  | nil => exact sound
  | cons request requests inductionHypothesis =>
      exact inductionHypothesis (sound.feedRequest request)

end Handover

end DacStream
