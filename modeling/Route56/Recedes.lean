import Route56.RxFrame
import Route56.Driver

namespace Route56

open CircularBuffer

/-- The driver has made entries free, and may have stopped or restarted the DMA channel. -/
structure Recedes (s t : R56Struct) : Prop where
  count : t.rxBufferCount = s.rxBufferCount
  current : s.currentRxBuffer < s.rxBufferCount → t.currentRxBuffer < s.rxBufferCount
  entries : ∀ i, t.rxBufferList i = s.rxBufferList i ∨ (t.rxBufferList i).free
  dma : t.usc.rxDma = s.usc.rxDma ∨ t.usc.rxDma.inUse = false ∧ t.usc.rxDma.frame = []

theorem Recedes.refl (s : R56Struct) : Recedes s s := ⟨rfl, id, fun _ => .inl rfl, .inl rfl⟩

theorem Recedes.trans {s t u : R56Struct} (first : Recedes s t) (second : Recedes t u) : Recedes s u := by
  refine ⟨second.count.trans first.count, fun inside => ?_, fun i => ?_, ?_⟩
  · have here := second.current (by rw [first.count]; exact first.current inside)
    rwa [first.count] at here
  · rcases second.entries i with same | free
    · rw [same]
      exact first.entries i
    · exact .inr free
  · rcases second.dma with same | idle
    · rw [same]
      exact first.dma
    · exact .inr idle

/-- Nothing of the receive side has changed but counters, flags and registers. -/
theorem Recedes.same {s t : R56Struct} (list : t.rxBufferList = s.rxBufferList)
    (count : t.rxBufferCount = s.rxBufferCount) (current : t.currentRxBuffer = s.currentRxBuffer)
    (dma : t.usc.rxDma = s.usc.rxDma) : Recedes s t :=
  ⟨count, fun inside => current ▸ inside, fun i => .inl (congrFun list i), .inl dma⟩

theorem reset_recedes (info : R56Struct) : Recedes info (r56ResetRxDmaBuffers info) := by
  refine ⟨rfl, fun inside => Nat.zero_lt_of_lt inside, fun i => ?_, .inl rfl⟩
  show (if i < info.rxBufferCount then _ else _) = _ ∨ (if i < info.rxBufferCount then _ else _ : DmaBufferEntry).free
  split
  · exact .inr ((info.rxBufferList i).reset_free _)
  · exact .inl rfl

theorem uscStartReceiver_recedes (info : R56Struct) : Recedes info (uscStartReceiver info) := by
  obtain ⟨list, count, current, _⟩ := uscStartReceiver_fields info
  have reset := reset_recedes info
  refine ⟨count, fun inside => ?_, fun i => ?_, .inr (uscStartReceiver_rxDma info)⟩
  · rw [current]
    exact Nat.zero_lt_of_lt inside
  · rw [list]
    exact reset.entries i

theorem freeRxEntries_recedes {lp64 : Bool} {n endIndex : Nat} (fuel : Nat) :
    ∀ (index : Nat) (list : Nat → DmaBufferEntry),
      (index < n → (freeRxEntries lp64 n endIndex fuel index list).2 < n) ∧
      ∀ i, (freeRxEntries lp64 n endIndex fuel index list).1 i = list i ∨
        ((freeRxEntries lp64 n endIndex fuel index list).1 i).free := by
  induction fuel with
  | zero => exact fun index list => ⟨id, fun _ => .inl rfl⟩
  | succ fuel ih =>
    intro index list
    have stored (i : Nat) : Function.update list index ((list index).storeLong lp64 4096) i = list i ∨
        (Function.update list index ((list index).storeLong lp64 4096) i).free := by
      by_cases here : i = index
      · subst here
        rw [Function.update_self]
        exact .inr ((list i).reset_free lp64)
      · rw [Function.update_of_ne here]
        exact .inl rfl
    unfold freeRxEntries
    dsimp only
    split
    · exact ⟨fun inside => next_lt inside, stored⟩
    · obtain ⟨within, entries⟩ := ih (next n index) (Function.update list index ((list index).storeLong lp64 4096))
      refine ⟨fun inside => within (next_lt inside), fun i => ?_⟩
      rcases entries i with same | free
      · rw [same]
        exact stored i
      · exact .inr free

theorem r56FreeRxFrameBuffers_recedes (info : R56Struct) (startIndex endIndex : Nat)
    (inside : info.currentRxBuffer < info.rxBufferCount → startIndex < info.rxBufferCount) :
    Recedes info (r56FreeRxFrameBuffers info startIndex endIndex) := by
  obtain ⟨within, entries⟩ := @freeRxEntries_recedes info.build.lp64 info.rxBufferCount
    endIndex info.rxBufferCount startIndex info.rxBufferList
  exact ⟨rfl, fun first => within (inside first), entries, .inl rfl⟩

theorem resetRxEntries_recedes {lp64 : Bool} {n endIndex : Nat} (fuel : Nat) :
    ∀ (index : Nat) (list : Nat → DmaBufferEntry) (i : Nat),
      resetRxEntries lp64 n endIndex fuel index list i = list i ∨
        (resetRxEntries lp64 n endIndex fuel index list i).free := by
  induction fuel with
  | zero => exact fun index list i => .inl rfl
  | succ fuel ih =>
    intro index list i
    have stored : Function.update list index ((list index).storeLong lp64 4096) i = list i ∨
        (Function.update list index ((list index).storeLong lp64 4096) i).free := by
      by_cases here : i = index
      · subst here
        rw [Function.update_self]
        exact .inr ((list i).reset_free lp64)
      · rw [Function.update_of_ne here]
        exact .inl rfl
    unfold resetRxEntries
    dsimp only
    split
    · rcases ih (next n index) (Function.update list index ((list index).storeLong lp64 4096)) i with same | free
      · rw [same]
        exact stored
      · exact .inr free
    · exact stored

theorem uscProcessRxoverrunSync_recedes (info : R56Struct) : Recedes info (uscProcessRxoverrunSync info) := by
  have discard : Recedes info (overrunDiscard info).1 := by
    unfold overrunDiscard
    dsimp only
    split
    · exact reset_recedes info
    split
    · exact ⟨rfl, id, fun i => resetRxEntries_recedes _ _ _ i, .inl rfl⟩
    · exact .refl info
  unfold uscProcessRxoverrunSync
  dsimp only
  split
  · refine discard.trans ⟨rfl, id, fun _ => .inl rfl, .inr ?_⟩
    rw [initRxChannel_rxDma]
    exact ⟨rfl, rfl⟩
  · refine ⟨discard.count, discard.current, discard.entries, .inl rfl⟩

/-- A pass, and whether another one follows. -/
def bhReceivePass (info : R56Struct) : R56Struct × Bool :=
  if info.rxRccUnderrun then (uscStartReceiver info, false) else getRxFrame info info

theorem recedes_of_exceptDelivery {s t : R56Struct} (frame : t.exceptDelivery = s.exceptDelivery) : Recedes s t :=
  .same (congrArg (·.rxBufferList) frame) (congrArg (·.rxBufferCount) frame) (congrArg (·.currentRxBuffer) frame)
    (congrArg (·.usc.rxDma) frame)

theorem restartOnOverflow_recedes (info : R56Struct) (index : Nat) : Recedes info (restartOnOverflow info index) := by
  unfold restartOnOverflow
  split
  · split
    · exact uscStartReceiver_recedes info
    · exact .refl info
  · exact .refl info

theorem r56GetRxFrame_recedes (info : R56Struct) : Recedes info (r56GetRxFrame info).1 := by
  unfold r56GetRxFrame
  dsimp only
  split
  · rename_i endIndex _
    have delivered := deliverRxFrame_frame info info.currentRxBuffer endIndex
    have current : (deliverRxFrame info info.currentRxBuffer endIndex).currentRxBuffer = info.currentRxBuffer :=
      congrArg (·.currentRxBuffer) delivered
    have freed := r56FreeRxFrameBuffers_recedes (deliverRxFrame info info.currentRxBuffer endIndex)
      info.currentRxBuffer endIndex (fun inside => current.symm.trans_lt inside)
    exact ((recedes_of_exceptDelivery delivered).trans freed).trans (restartOnOverflow_recedes _ _)
  · exact restartOnOverflow_recedes _ _
  · rename_i endIndex _
    split
    · exact (uscStartReceiver_recedes info).trans (restartOnOverflow_recedes _ endIndex)
    · exact restartOnOverflow_recedes _ _

theorem r56GetRawRxFrame_recedes (info : R56Struct) : Recedes info (r56GetRawRxFrame info).1 := by
  unfold r56GetRawRxFrame
  dsimp only
  split
  · have delivered := deliverRawFrame_frame info info.currentRxBuffer
    have current : (deliverRawFrame info info.currentRxBuffer).currentRxBuffer = info.currentRxBuffer :=
      congrArg (·.currentRxBuffer) delivered
    have freed := r56FreeRxFrameBuffers_recedes (deliverRawFrame info info.currentRxBuffer) info.currentRxBuffer
      info.currentRxBuffer (fun inside => current.symm.trans_lt inside)
    exact ((recedes_of_exceptDelivery delivered).trans freed).trans (restartOnOverflow_recedes _ _)
  · exact restartOnOverflow_recedes _ _

theorem bhReceivePass_recedes (info : R56Struct) : Recedes info (bhReceivePass info).1 := by
  unfold bhReceivePass
  split
  · exact uscStartReceiver_recedes info
  · unfold getRxFrame
    split
    · exact r56GetRxFrame_recedes info
    · exact r56GetRawRxFrame_recedes info

/-- The interrupt is the receiver's: its DMA channel, its status, or the receive count underrun. -/
def R56Struct.receiveInterrupt (info : R56Struct) : Prop :=
  info.uscVector = 0 ∧ uscInDmaReg info.usc .divr &&& (bit10 ||| bit9) ≠ bit10 ∨
    info.uscVector = 1 ∨ info.uscVector = 6

instance (info : R56Struct) : Decidable info.receiveInterrupt := inferInstanceAs (Decidable (_ ∨ _))

/-- The routines that serve such an interrupt. -/
theorem serviceInterrupt_receives {info : R56Struct} (receives : info.receiveInterrupt) :
    info.uscVector ≠ 6 ∧ serviceInterrupt info = r56IsrReceiveDma info ∨
      info.uscVector ≠ 6 ∧ serviceInterrupt info = r56IsrMisc info ∨
      info.uscVector = 6 ∧ serviceInterrupt info = r56IsrReceiveStatus info := by
  unfold serviceInterrupt
  dsimp only
  rcases receives with ⟨vector, other⟩ | vector | vector
  · rw [if_neg (not_not.mpr vector), if_neg other, vector]
    exact .inl ⟨by decide, rfl⟩
  · rw [if_pos (by rw [vector]; decide), vector]
    exact .inr (.inl ⟨by decide, rfl⟩)
  · rw [if_pos (by rw [vector]; decide), vector]
    exact .inr (.inr ⟨rfl, rfl⟩)

theorem r56IsrReceiveDma_recedes (info : R56Struct) : Recedes info (r56IsrReceiveDma info) := by
  unfold r56IsrReceiveDma
  dsimp only
  split
  · exact .same rfl rfl rfl rfl
  · exact .same rfl rfl rfl rfl

theorem r56IsrMisc_recedes (info : R56Struct) : Recedes info (r56IsrMisc info) := by
  unfold r56IsrMisc haltOnRccUnderrun
  dsimp only
  split
  · exact ⟨rfl, id, fun _ => .inl rfl, .inr ⟨rfl, rfl⟩⟩
  · exact .same rfl rfl rfl rfl

theorem r56IsrReceiveStatus_recedes (info : R56Struct) : Recedes info (r56IsrReceiveStatus info) := by
  have inserted (value : U16) : Recedes info (completeInsertion info value) := by
    unfold completeInsertion
    split
    · exact .same rfl rfl rfl rfl
    · exact .refl info
  have recovered (t : R56Struct) (value : U16) : Recedes t (recoverOverrun t value) := by
    unfold recoverOverrun
    split
    · have counted : Recedes t { t with icount := { t.icount with rxover := t.icount.rxover + 1 } } :=
        .same rfl rfl rfl rfl
      exact counted.trans (uscProcessRxoverrunSync_recedes _)
    · exact .refl t
  have counted (t : R56Struct) (icount : R56Icount) : Recedes t { t with icount := icount } := .same rfl rfl rfl rfl
  have acked (t : R56Struct) (value : U16) :
      Recedes t { t with usc := uscUnlatchRxstatusBits (uscClearIrqPendingBits t.usc receiveStatus) value } :=
    .same rfl rfl rfl rfl
  unfold r56IsrReceiveStatus
  dsimp only
  exact (((inserted _).trans (counted _ _)).trans (recovered _ _)).trans (acked _ _)

theorem r56Interrupt_recedes {info : R56Struct} (receives : info.receiveInterrupt) :
    Recedes info (r56Interrupt info) := by
  have scheduled (s : R56Struct) : Recedes s (scheduleBh s) := by
    unfold scheduleBh
    split
    · exact .same rfl rfl rfl rfl
    · exact .refl s
  have halted (s : R56Struct) : Recedes s (haltOnOverflow s) := by
    unfold haltOnOverflow
    split
    · exact .same rfl rfl rfl rfl
    · exact .refl s
  have served : Recedes info (serviceInterrupt info) := by
    rcases serviceInterrupt_receives receives with ⟨_, dma⟩ | ⟨_, misc⟩ | ⟨_, status⟩
    · rw [dma]
      exact r56IsrReceiveDma_recedes info
    · rw [misc]
      exact r56IsrMisc_recedes info
    · rw [status]
      exact r56IsrReceiveStatus_recedes info
  exact served.trans ((halted _).trans (scheduled _))

end Route56
