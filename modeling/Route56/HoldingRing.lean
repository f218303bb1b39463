import Route56.Xmit
import Route56.Lib.Transition

namespace Route56

open Transition

/-- What `save_tx_buffer_request` returns. -/
def saveTxBufferRequestReturn (info : R56Struct) : Nat :=
  if info.txHoldingCount ≥ info.numTxHoldingBuffers then 0 else 1

inductive HoldingCall
  | save (buffer : Nat → U8) (bufferSize : Nat)
  | load

/-- The driver, with the frames of the requests for which 1 was returned. -/
structure HoldingState where
  info : R56Struct
  accepted : List (List U8) := []

/-- One call. The DMA ring and all else that is no transmit data may have changed since the last
call, so any number of DMA buffers is free. -/
inductive HoldingStep (s : HoldingState) : HoldingCall → HoldingState → Prop
  | save (info : R56Struct) (same : info.xmit = s.info.xmit) (buffer : Nat → U8) (size : Nat) :
      HoldingStep s (.save buffer size)
        { info := saveTxBufferRequest info buffer size
          accepted := if saveTxBufferRequestReturn info = 1 then s.accepted ++ [Memory.read buffer 0 size]
            else s.accepted }
  | load (info : R56Struct) (same : info.xmit = s.info.xmit) :
      HoldingStep s .load { s with info := (loadNextTxHoldingBuffer info).1 }

/-- The count and the two indices of the ring of holding buffers. -/
structure HoldingIndices (info : R56Struct) : Prop where
  count : info.txHoldingCount ≤ info.numTxHoldingBuffers
  get : 0 < info.numTxHoldingBuffers → info.getTxHoldingIndex < info.numTxHoldingBuffers
  put : 0 < info.numTxHoldingBuffers → info.putTxHoldingIndex < info.numTxHoldingBuffers ∧
    info.putTxHoldingIndex = (info.getTxHoldingIndex + info.txHoldingCount) % info.numTxHoldingBuffers

/-- Since `start` the frames loaded are the frames accepted, in order, but for those still held back. -/
def HoldingFifo (start : R56Struct) (s : HoldingState) : Prop :=
  ∃ loaded : List (List U8),
    s.info.history.loads = start.history.loads ++ loaded.map (Prod.mk .holding) ∧
      loaded ++ s.info.xmit.held = s.accepted ∧ s.info.xmit.held.length = s.info.txHoldingCount

theorem Xmit.length_held (x : Xmit) : x.held.length = x.holding := by
  rw [Xmit.held, List.length_map, CircularBuffer.length_queue]

theorem save_refused {info : R56Struct} (buffer : Nat → U8) (size : Nat)
    (refused : saveTxBufferRequestReturn info = 0) : saveTxBufferRequest info buffer size = info := by
  unfold saveTxBufferRequestReturn at refused
  unfold saveTxBufferRequest
  split at refused
  · rename_i full
    rw [if_pos full]
  · cases refused

theorem load_refused {info : R56Struct} (refused : (loadNextTxHoldingBuffer info).2 = false) :
    (loadNextTxHoldingBuffer info).1 = info := by
  unfold loadNextTxHoldingBuffer at refused ⊢
  dsimp only at refused ⊢
  split at refused
  · cases refused
  · rename_i kept
    rw [if_neg kept]

/-- What every sequence of calls keeps. -/
structure HoldingInv (start : R56Struct) (s : HoldingState) : Prop where
  queued : s.info.xmit.Queued
  holders : s.info.xmit.holders = start.xmit.holders
  order : ∃ loaded : List (List U8),
    s.info.xmit.loads = start.xmit.loads ++ loaded.map (Prod.mk .holding) ∧
      loaded ++ s.info.xmit.held = s.accepted

theorem HoldingInv.saved {start : R56Struct} {s : HoldingState} (inv : HoldingInv start s)
    {info : R56Struct} (same : info.xmit = s.info.xmit) (buffer : Nat → U8) (size : Nat)
    (room : info.txHoldingCount < info.numTxHoldingBuffers) :
    HoldingInv start ⟨saveTxBufferRequest info buffer size, s.accepted ++ [Memory.read buffer 0 size]⟩ := by
  obtain ⟨queued, holders, loaded, loads, order⟩ := inv
  have stored : (saveTxBufferRequest info buffer size).xmit = info.xmit.hold buffer size :=
    saveTxBufferRequest_xmit buffer size room
  rw [← same] at queued holders loads order
  obtain ⟨kept, held⟩ := queued.hold room buffer size
  refine ⟨?_, ?_, loaded, ?_, ?_⟩
  · rw [stored]
    exact kept
  · rw [stored]
    exact holders
  · rw [stored]
    exact loads
  · rw [stored, held, ← List.append_assoc, order]

theorem HoldingInv.loaded {start : R56Struct} {s : HoldingState} (inv : HoldingInv start s)
    {info : R56Struct} (same : info.xmit = s.info.xmit) :
    HoldingInv start { s with info := (loadNextTxHoldingBuffer info).1 } := by
  obtain ⟨queued, holders, loaded, loads, order⟩ := inv
  rw [← same] at queued holders loads order
  rcases loadNextTxHoldingBuffer_xmit info with kept | ⟨waiting, taken⟩
  · refine ⟨?_, ?_, loaded, ?_, ?_⟩
    · rw [kept]
      exact queued
    · rw [kept]
      exact holders
    · rw [kept]
      exact loads
    · rw [kept]
      exact order
  · obtain ⟨left, first⟩ := queued.unhold waiting
    refine ⟨?_, ?_, loaded ++ [(info.xmit.buffers info.xmit.get).frame], ?_, ?_⟩
    · rw [taken]
      exact left
    · rw [taken]
      exact holders
    · have more : info.xmit.unhold.loads =
          info.xmit.loads ++ [(.holding, (info.xmit.buffers info.xmit.get).frame)] := rfl
      rw [taken, more, loads, List.map_append, List.append_assoc]
      rfl
    · rw [taken, List.append_assoc, List.singleton_append, ← first]
      exact order

theorem HoldingInv.step {start : R56Struct} {s t : HoldingState} {call : HoldingCall}
    (inv : HoldingInv start s) (step : HoldingStep s call t) : HoldingInv start t := by
  cases step with
  | save info same buffer size =>
    by_cases full : info.txHoldingCount ≥ info.numTxHoldingBuffers
    · have returned : saveTxBufferRequestReturn info = 0 := if_pos full
      rw [save_refused buffer size returned, returned, if_neg (by decide)]
      obtain ⟨queued, holders, order⟩ := inv
      rw [← same] at queued holders order
      exact ⟨queued, holders, order⟩
    · have returned : saveTxBufferRequestReturn info = 1 := if_neg full
      rw [returned, if_pos rfl]
      exact inv.saved same buffer size (by omega)
  | load info same => exact inv.loaded same

theorem HoldingInv.init (info : R56Struct) :
    HoldingInv (r56ResetTxDmaBuffers info) { info := r56ResetTxDmaBuffers info } := by
  refine ⟨⟨Nat.zero_le _, id, fun some => ?_⟩, rfl, [], (List.append_nil _).symm, rfl⟩
  exact (CircularBuffer.cell_zero some).symm

theorem HoldingInv.indices {start : R56Struct} {s : HoldingState} (inv : HoldingInv start s) :
    HoldingIndices s.info := by
  refine ⟨inv.queued.le, inv.queued.get, fun some => ?_⟩
  have put : s.info.putTxHoldingIndex =
      (s.info.getTxHoldingIndex + s.info.txHoldingCount) % s.info.numTxHoldingBuffers := inv.queued.put some
  refine ⟨?_, put⟩
  rw [put]
  exact Nat.mod_lt _ some

/-- One holding buffer and one DMA buffer, with a frame of one byte accepted. -/
def holdingOne : R56Struct :=
  saveTxBufferRequest (r56ResetTxDmaBuffers { numTxHoldingBuffers := 1, txBufferCount := 1 }) (fun _ => 7) 1

end Route56
