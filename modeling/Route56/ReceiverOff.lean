import Route56.Recedes
import Route56.CommandWords
import Route56.Lifecycle
import Route56.RawReceive
import Route56.AutoRts
import Route56.FlagBuffer

namespace Route56

open CircularBuffer Transition

instance (search : RxSearch) : Decidable (∃ last, search = .frame last) :=
  match search with
  | .frame last => .isTrue ⟨last, rfl⟩
  | .unused _ => .isFalse fun ⟨_, same⟩ => RxSearch.noConfusion same
  | .exhausted _ => .isFalse fun ⟨_, same⟩ => RxSearch.noConfusion same

/-- `r56_get_rx_frame` or `r56_get_raw_rx_frame`: `r56_bh_receive` chooses once, before its loop. -/
def takeFrame (hdlc : Bool) (info : R56Struct) : R56Struct × Bool :=
  if hdlc then r56GetRxFrame info else r56GetRawRxFrame info

theorem getRxFrame_eq (info : R56Struct) : getRxFrame info = takeFrame (decide (info.params.mode = r56ModeHdlc)) := by
  unfold getRxFrame takeFrame
  by_cases hdlc : info.params.mode = r56ModeHdlc
  · rw [if_pos hdlc]
    funext s
    rw [if_pos (decide_eq_true hdlc)]
  · rw [if_neg hdlc]
    funext s
    rw [if_neg (fun chosen => hdlc (of_decide_eq_true chosen))]

/-- A pass of the loop. -/
def bhPass (hdlc : Bool) (info : R56Struct) : R56Struct :=
  if info.rxRccUnderrun then uscStartReceiver info else (takeFrame hdlc info).1

/-- There is something in the ring for the bottom half. -/
def rxReady (hdlc : Bool) (info : R56Struct) : Prop :=
  if hdlc then
    ∃ last, searchRxFrame info.rxBufferList info.rxBufferCount info.currentRxBuffer info.rxBufferCount
      info.currentRxBuffer = .frame last
  else rawFrameReady info info.currentRxBuffer

instance (hdlc : Bool) (info : R56Struct) : Decidable (rxReady hdlc info) := inferInstanceAs (Decidable (ite _ _ _))

section

variable {hdlc : Bool} {info : R56Struct}

/-- The entry at `current_rx_buffer` is then in use. -/
theorem rxReady_used (ready : rxReady hdlc info) : ¬(info.rxBufferList info.currentRxBuffer).free := by
  rintro ⟨status, count⟩
  unfold rxReady at ready
  split at ready
  · obtain ⟨last, found⟩ := ready
    cases size : info.rxBufferCount with
    | zero =>
      rw [size] at found
      exact RxSearch.noConfusion found
    | succ n =>
      rw [size, searchRxFrame, if_neg (not_not.mpr status), if_pos count] at found
      exact RxSearch.noConfusion found
  · rcases ready with ends | ⟨used, _⟩
    · exact ends status
    · exact count used

/-- A frame that is found after entries have been given back was there before. -/
theorem searchRxFrame_recedes {list before : Nat → DmaBufferEntry} {n startIndex last : Nat}
    (entries : ∀ i, list i = before i ∨ (list i).free) :
    ∀ (fuel index : Nat), searchRxFrame list n startIndex fuel index = .frame last →
      searchRxFrame before n startIndex fuel index = .frame last := by
  intro fuel
  induction fuel with
  | zero => exact fun _ found => RxSearch.noConfusion found
  | succ fuel ih =>
    intro index found
    rw [searchRxFrame] at found ⊢
    rcases entries index with same | free
    · rw [same] at found
      split
      · rwa [if_pos ‹_›] at found
      rw [if_neg ‹_›] at found
      split
      · rwa [if_pos ‹_›] at found
      rw [if_neg ‹_›] at found
      split
      · rwa [if_pos ‹_›] at found
      · rw [if_neg ‹_›] at found
        exact ih _ found
    · rw [if_neg (not_not.mpr free.1), if_pos free.2] at found
      exact RxSearch.noConfusion found

theorem rxReady_recedes {after : R56Struct} (count : after.rxBufferCount = info.rxBufferCount)
    (current : after.currentRxBuffer = info.currentRxBuffer)
    (entries : ∀ i, after.rxBufferList i = info.rxBufferList i ∨ (after.rxBufferList i).free)
    (ready : rxReady hdlc after) : rxReady hdlc info := by
  unfold rxReady rawFrameReady at ready ⊢
  rw [count, current] at ready
  cases hdlc with
  | true =>
    obtain ⟨last, found⟩ := ready
    exact ⟨last, searchRxFrame_recedes entries _ _ found⟩
  | false =>
    rcases ready with ends | ⟨used, also⟩
    · rcases entries info.currentRxBuffer with same | free
      · exact .inl (same ▸ ends)
      · exact absurd free.1 ends
    · rcases entries info.currentRxBuffer with same | free
      · rcases entries (next info.rxBufferCount info.currentRxBuffer) with follows | free
        · exact .inr ⟨same ▸ used, follows ▸ also⟩
        · exact absurd also free.2
      · exact absurd used free.2

/-- Without it the pass leaves an overflowed or idle ring to `restartOnOverflow`. -/
theorem takeFrame_unready (waits : ¬rxReady hdlc info) :
    ∃ s index, takeFrame hdlc info = (restartOnOverflow s index, false) ∧
      (s = info ∨ info.rxEnabled = true ∧ s = uscStartReceiver info) := by
  unfold rxReady at waits
  unfold takeFrame
  cases hdlc with
  | true =>
    rw [if_pos rfl] at waits ⊢
    unfold r56GetRxFrame
    dsimp only
    generalize search : searchRxFrame info.rxBufferList info.rxBufferCount info.currentRxBuffer info.rxBufferCount
      info.currentRxBuffer = found at waits
    cases found with
    | frame last => exact absurd ⟨last, rfl⟩ waits
    | unused last => exact ⟨info, last, rfl, .inl rfl⟩
    | exhausted last =>
      refine ⟨_, last, rfl, ?_⟩
      by_cases enabled : info.rxEnabled = true
      · exact .inr ⟨enabled, if_pos enabled⟩
      · exact .inl (if_neg enabled)
  | false =>
    rw [if_neg Bool.false_ne_true] at waits ⊢
    unfold r56GetRawRxFrame
    dsimp only
    rw [if_neg waits]
    exact ⟨info, _, rfl, .inl rfl⟩

/-- A pass that hands something on finds it in the ring. -/
theorem bhPass_ready (hands : (bhPass hdlc info).handed ≠ info.handed) :
    rxReady hdlc info ∧ ¬info.rxRccUnderrun = true := by
  unfold bhPass at hands
  by_cases underrun : info.rxRccUnderrun = true
  · rw [if_pos underrun] at hands
    exact absurd rfl hands
  refine ⟨?_, underrun⟩
  by_contra waits
  refine hands ?_
  rw [if_neg underrun]
  obtain ⟨s, index, call, unmoved | ⟨_, started⟩⟩ := takeFrame_unready waits
  · rw [call, unmoved]
    exact restartOnOverflow_handed _ index
  · rw [call, started]
    exact restartOnOverflow_handed _ index

/-- With the receiver off and nothing in the ring a pass does nothing, or starts the receiver. -/
theorem bhPass_off (off : info.rxEnabled = false) (waits : info.rxRccUnderrun = true ∨ ¬rxReady hdlc info) :
    bhPass hdlc info = info ∨ bhPass hdlc info = uscStartReceiver info := by
  unfold bhPass
  by_cases underrun : info.rxRccUnderrun = true
  · rw [if_pos underrun]
    exact .inr rfl
  · rw [if_neg underrun]
    obtain ⟨s, index, call, rfl | ⟨enabled, _⟩⟩ := takeFrame_unready (waits.resolve_left underrun)
    · left
      rw [call]
      unfold restartOnOverflow
      rw [off, Bool.false_and, if_neg Bool.false_ne_true]
    · rw [off] at enabled
      exact Bool.noConfusion enabled

theorem uscStartReceiver_enabled (info : R56Struct) : (uscStartReceiver info).rxEnabled = true :=
  (uscStartReceiver_fields info).2.2.2.1

/-- A pass never turns the receiver off. -/
theorem bhPass_on (enabled : info.rxEnabled = true) : (bhPass hdlc info).rxEnabled = true := by
  have restarted (s : R56Struct) (index : Nat) (on : s.rxEnabled = true) :
      (restartOnOverflow s index).rxEnabled = true := by
    unfold restartOnOverflow
    split
    · split
      · exact uscStartReceiver_enabled s
      · exact on
    · exact on
  unfold bhPass takeFrame
  split
  · exact uscStartReceiver_enabled info
  split
  · unfold r56GetRxFrame
    dsimp only
    split
    · rename_i last _
      have same : (deliverRxFrame info info.currentRxBuffer last).rxEnabled = info.rxEnabled :=
        congrArg (·.rxEnabled) (deliverRxFrame_frame info info.currentRxBuffer last)
      exact restarted _ _ (same.trans enabled)
    · exact restarted _ _ enabled
    · rw [if_pos enabled]
      exact restarted _ _ (uscStartReceiver_enabled info)
  · unfold r56GetRawRxFrame
    dsimp only
    split
    · have same : (deliverRawFrame info info.currentRxBuffer).rxEnabled = info.rxEnabled :=
        congrArg (·.rxEnabled) (deliverRawFrame_frame info info.currentRxBuffer)
      exact restarted _ _ (same.trans enabled)
    · exact restarted _ _ enabled

theorem bhPass_recedes (hdlc : Bool) (info : R56Struct) : Recedes info (bhPass hdlc info) := by
  unfold bhPass takeFrame
  split
  · exact uscStartReceiver_recedes info
  · split
    · exact r56GetRxFrame_recedes info
    · exact r56GetRawRxFrame_recedes info

end

section

variable {info : R56Struct}

/-- The driver has left the receiver on or off, and what is ready in the ring was ready before. -/
structure Steady (s t : R56Struct) : Prop where
  enabled : t.rxEnabled = s.rxEnabled
  ready : ∀ hdlc, rxReady hdlc t → rxReady hdlc s

theorem Steady.refl (s : R56Struct) : Steady s s := ⟨rfl, fun _ => id⟩

theorem Steady.trans {s t u : R56Struct} (first : Steady s t) (second : Steady t u) : Steady s u :=
  ⟨second.enabled.trans first.enabled, fun hdlc ready => first.ready hdlc (second.ready hdlc ready)⟩

theorem Steady.same {s t : R56Struct} (enabled : t.rxEnabled = s.rxEnabled) (list : t.rxBufferList = s.rxBufferList)
    (count : t.rxBufferCount = s.rxBufferCount) (current : t.currentRxBuffer = s.currentRxBuffer) : Steady s t :=
  ⟨enabled, fun _ => rxReady_recedes count current fun i => .inl (congrFun list i)⟩

theorem uscProcessRxoverrunSync_steady (some : 0 < info.rxBufferCount) :
    Steady info (uscProcessRxoverrunSync info) := by
  have discard : Steady info (overrunDiscard info).1 := by
    unfold overrunDiscard
    dsimp only
    split
    · refine ⟨rfl, fun hdlc ready => absurd ?_ (rxReady_used ready)⟩
      show (if 0 < info.rxBufferCount then _ else _ : DmaBufferEntry).free
      rw [if_pos some]
      exact (info.rxBufferList 0).reset_free _
    split
    · exact ⟨rfl, fun _ => rxReady_recedes rfl rfl fun i => resetRxEntries_recedes _ _ _ i⟩
    · exact .refl info
  unfold uscProcessRxoverrunSync
  dsimp only
  split
  · exact discard.trans (.same rfl rfl rfl rfl)
  · exact discard.trans (.same rfl rfl rfl rfl)

theorem r56IsrReceiveStatus_steady (some : 0 < info.rxBufferCount) : Steady info (r56IsrReceiveStatus info) := by
  have inserted (status : U16) : Steady info (completeInsertion info status) ∧
      (completeInsertion info status).rxBufferCount = info.rxBufferCount := by
    unfold completeInsertion
    split
    · exact ⟨.same rfl rfl rfl rfl, rfl⟩
    · exact ⟨.refl info, rfl⟩
  have recovered (status overrun : U16) (icount : R56Icount) :
      Steady info (recoverOverrun { completeInsertion info status with icount := icount } overrun) := by
    have counted : Steady info { completeInsertion info status with icount := icount } :=
      (inserted status).1.trans (.same rfl rfl rfl rfl)
    have size : ({ completeInsertion info status with icount := icount } : R56Struct).rxBufferCount =
        info.rxBufferCount := (inserted status).2
    generalize ({ completeInsertion info status with icount := icount } : R56Struct) = t at counted size ⊢
    unfold recoverOverrun
    split
    · have again : Steady t { t with icount := { t.icount with rxover := t.icount.rxover + 1 } } :=
        .same rfl rfl rfl rfl
      refine counted.trans (again.trans (uscProcessRxoverrunSync_steady ?_))
      show 0 < t.rxBufferCount
      rw [size]
      exact some
    · exact counted
  have acked (s : R56Struct) (status : U16) :
      Steady s { s with usc := uscUnlatchRxstatusBits (uscClearIrqPendingBits s.usc receiveStatus) status } :=
    .same rfl rfl rfl rfl
  unfold r56IsrReceiveStatus
  dsimp only
  exact (recovered _ _ _).trans (acked _ _)

/-- The interrupts of the receiver do not turn it on or off, and make nothing ready. -/
theorem r56Interrupt_steady (some : 0 < info.rxBufferCount) (receives : info.receiveInterrupt) :
    Steady info (r56Interrupt info) := by
  have done (s : R56Struct) : Steady s (scheduleBh (haltOnOverflow s)) := by
    unfold scheduleBh haltOnOverflow
    split
    · split
      · exact .same rfl rfl rfl rfl
      · exact .same rfl rfl rfl rfl
    · split
      · exact .same rfl rfl rfl rfl
      · exact .same rfl rfl rfl rfl
  refine Steady.trans ?_ (done (serviceInterrupt info))
  rcases serviceInterrupt_receives receives with ⟨_, served⟩ | ⟨_, served⟩ | ⟨_, served⟩
  · rw [served]
    unfold r56IsrReceiveDma
    dsimp only
    split
    · exact .same rfl rfl rfl rfl
    · exact .same rfl rfl rfl rfl
  · rw [served]
    unfold r56IsrMisc haltOnRccUnderrun
    dsimp only
    split
    · exact .same rfl rfl rfl rfl
    · exact .same rfl rfl rfl rfl
  · rw [served]
    exact r56IsrReceiveStatus_steady some

end

/-- The DMA channel stands still. -/
def RxDma.idle (dma : RxDma) : Prop := dma.inUse = false ∧ dma.frame = []

/-- The ring as `usc_start_receiver` leaves it. -/
structure Emptied (info : R56Struct) : Prop where
  frees : ∀ i, i < info.rxBufferCount → (info.rxBufferList i).free
  current : info.currentRxBuffer = 0
  idle : info.usc.rxDma.idle

/-- What is in the ring has stayed there. -/
def Unmoved (s t : R56Struct) : Prop := t.rxBufferList = s.rxBufferList ∧ t.currentRxBuffer = s.currentRxBuffer

/-- The driver has left the receiver as it was, has stopped it, or has emptied the ring. -/
structure Switched (s t : R56Struct) : Prop where
  count : t.rxBufferCount = s.rxBufferCount
  ring : Unmoved s t ∧ t.rxEnabled = s.rxEnabled ∧ t.usc.rxDma = s.usc.rxDma ∨
    Unmoved s t ∧ t.rxEnabled = false ∧ t.usc.rxDma.idle ∨ Emptied t

/-- Nothing of the receiver has changed. -/
theorem Switched.same {s t : R56Struct} (list : t.rxBufferList = s.rxBufferList)
    (count : t.rxBufferCount = s.rxBufferCount) (current : t.currentRxBuffer = s.currentRxBuffer)
    (enabled : t.rxEnabled = s.rxEnabled) (dma : t.usc.rxDma = s.usc.rxDma) : Switched s t :=
  ⟨count, .inl ⟨⟨list, current⟩, enabled, dma⟩⟩

theorem Switched.refl (s : R56Struct) : Switched s s := .same rfl rfl rfl rfl rfl

theorem Switched.trans {s t u : R56Struct} (first : Switched s t) (second : Switched t u) : Switched s u := by
  refine ⟨second.count.trans first.count, ?_⟩
  have moved {a b c : R56Struct} (x : Unmoved a b) (y : Unmoved b c) : Unmoved a c := ⟨y.1.trans x.1, y.2.trans x.2⟩
  rcases second.ring with ⟨stays, enabled, dma⟩ | ⟨stays, off, idle⟩ | emptied
  · rcases first.ring with ⟨here, on, channel⟩ | ⟨here, off, idle⟩ | emptied
    · exact .inl ⟨moved here stays, enabled.trans on, dma.trans channel⟩
    · exact .inr (.inl ⟨moved here stays, enabled.trans off, by rw [dma]; exact idle⟩)
    · refine .inr (.inr ⟨?_, stays.2.trans emptied.current, by rw [dma]; exact emptied.idle⟩)
      rw [stays.1, second.count]
      exact emptied.frees
  · rcases first.ring with ⟨here, _⟩ | ⟨here, _⟩ | emptied
    · exact .inr (.inl ⟨moved here stays, off, idle⟩)
    · exact .inr (.inl ⟨moved here stays, off, idle⟩)
    · refine .inr (.inr ⟨?_, stays.2.trans emptied.current, idle⟩)
      rw [stays.1, second.count]
      exact emptied.frees
  · exact .inr (.inr emptied)

theorem uscStopReceiver_switched (info : R56Struct) : Switched info (uscStopReceiver info) :=
  ⟨rfl, .inr (.inl ⟨⟨rfl, rfl⟩, rfl, rfl, rfl⟩)⟩

theorem uscStartReceiver_emptied (info : R56Struct) : Emptied (uscStartReceiver info) := by
  have fields := uscStartReceiver_fields info
  refine ⟨fun i inside => ?_, fields.2.2.1, uscStartReceiver_rxDma info⟩
  rw [fields.2.1] at inside
  exact uscStartReceiver_free inside

theorem uscStartReceiver_switched (info : R56Struct) : Switched info (uscStartReceiver info) :=
  ⟨(uscStartReceiver_fields info).2.1, .inr (.inr (uscStartReceiver_emptied info))⟩

theorem r56Rxenable_switched (info : R56Struct) (enable : Bool) : Switched info (r56Rxenable info enable) := by
  unfold r56Rxenable
  split
  · split
    · exact .refl info
    · exact uscStartReceiver_switched info
  · split
    · exact uscStopReceiver_switched info
    · exact .refl info

theorem uscSetInterface_rxDma (info : R56Struct) : (uscSetInterface info).usc.rxDma = info.usc.rxDma := by
  unfold uscSetInterface
  split
  · rfl
  · rfl

theorem uscEnableLoopback_rxDma (info : R56Struct) (enable : Bool) (u : Usc) :
    (uscEnableLoopback info enable u).rxDma = u.rxDma := by
  unfold uscEnableLoopback
  split
  · rfl
  · rfl

theorem enableIsaInten_rxDma (info : R56Struct) (u : Usc) : (enableIsaInten info u).rxDma = u.rxDma := by
  unfold enableIsaInten
  split
  · rfl
  · rfl

/-- The receiver is off. -/
def R56Struct.receiverOff (info : R56Struct) : Prop := info.rxEnabled = false ∧ info.usc.rxDma.idle

theorem receiverOff_of_eq {s t : R56Struct} (enabled : t.rxEnabled = s.rxEnabled) (dma : t.usc.rxDma = s.usc.rxDma)
    (off : s.receiverOff) : t.receiverOff := by
  refine ⟨enabled.trans off.1, ?_⟩
  rw [dma]
  exact off.2

theorem uscSetSdlcMode_off (info : R56Struct) : (uscSetSdlcMode info).receiverOff := by
  have stopped (s : R56Struct) : (uscStopReceiver s).receiverOff := ⟨rfl, rfl, rfl⟩
  have set (s : R56Struct) : (uscSetInterface s).rxEnabled = s.rxEnabled := by
    unfold uscSetInterface
    split
    · rfl
    · rfl
  unfold uscSetSdlcMode
  dsimp only
  exact receiverOff_of_eq (set _) (uscSetInterface_rxDma _) (stopped _)

theorem uscLoopbackFrame_off (info : R56Struct) : (uscLoopbackFrame info).receiverOff := by
  have sdlc := uscSetSdlcMode_off { info with
    params := { info.params with mode := r56ModeHdlc }, usc := uscDisableMasterIrqBit info.usc }
  unfold uscLoopbackFrame
  dsimp only
  generalize uscSetSdlcMode _ = after at sdlc ⊢
  have sent (u : Usc) : (uscEnableMasterIrqBit (uscEnableLoopback after false
      (uscEnableTransmitter (uscTCmd u tCmdSendFrame) enableUnconditional))).rxDma = u.rxDma :=
    uscEnableLoopback_rxDma after false (uscEnableTransmitter (uscTCmd u tCmdSendFrame) enableUnconditional)
  refine receiverOff_of_eq rfl ?_ sdlc
  exact (sent _).trans (uscEnableLoopback_rxDma after true after.usc)

theorem programMode_off (info : R56Struct) : (programMode info).receiverOff := by
  have aux (s : R56Struct) (rate : Nat) (u : Usc) : (uscEnableAuxClock s rate u).rxDma = u.rxDma := by
    unfold uscEnableAuxClock
    split
    · rfl
    · rfl
  have clock (s : R56Struct) (rate : Nat) (u : Usc) : (uscEnableAsyncClock s rate u).rxDma = u.rxDma := by
    unfold uscEnableAsyncClock
    split
    · rfl
    · rfl
  have idleMode (s : R56Struct) (u : Usc) : (uscSetTxidle s u).rxDma = u.rxDma := by
    unfold uscSetTxidle
    dsimp only
    split
    · rfl
    · rfl
  unfold programMode
  split
  · have sdlc := uscSetSdlcMode_off (uscLoopbackFrame info)
    unfold uscSetSyncMode
    dsimp only
    generalize uscSetSdlcMode _ = after at sdlc ⊢
    refine @receiverOff_of_eq after _ rfl ?_ sdlc
    dsimp only
    split
    · rw [uscEnableLoopback_rxDma, aux, enableIsaInten_rxDma]
    · rw [aux, enableIsaInten_rxDma]
  · have looped := uscLoopbackFrame_off { info with
      usc := uscDmaCmd (uscOutReg (outb (uscDisableMasterIrqBit info.usc) 0 5) .dcar 0) dmaCmdResetAllChannels }
    have set (s : R56Struct) : (uscSetInterface s).rxEnabled = s.rxEnabled := by
      unfold uscSetInterface
      split
      · rfl
      · rfl
    unfold uscSetAsyncMode
    dsimp only
    generalize uscLoopbackFrame _ = after at looped ⊢
    refine @receiverOff_of_eq after _ (set _) ?_ looped
    rw [uscSetInterface_rxDma]
    exact (enableIsaInten_rxDma after _).trans ((clock after _ _).trans (idleMode after _))

/-- Programming the chip stops the receiver, and starts it where it is to receive. -/
theorem r56ProgramHw_switched (info : R56Struct) : Switched info (r56ProgramHw info) := by
  have frame := programMode_frame { uscStopTransmitter (uscStopReceiver info) with
    xmitCnt := 0, xmitHead := 0, xmitTail := 0 }
  have off := programMode_off { uscStopTransmitter (uscStopReceiver info) with
    xmitCnt := 0, xmitHead := 0, xmitTail := 0 }
  unfold r56ProgramHw
  dsimp only
  generalize programMode { uscStopTransmitter (uscStopReceiver info) with
    xmitCnt := 0, xmitHead := 0, xmitTail := 0 } = after at frame off ⊢
  have programmed : Switched info after :=
    ⟨congrArg (·.rxBufferCount) frame,
      .inr (.inl ⟨⟨congrArg (·.rxBufferList) frame, congrArg (·.currentRxBuffer) frame⟩, off.1, off.2⟩)⟩
  have shown : Switched after (programSignals after) := .same rfl rfl rfl rfl rfl
  split
  · exact (programmed.trans shown).trans (uscStartReceiver_switched _)
  · exact programmed.trans shown

theorem r56ChangeParams_switched (info : R56Struct) : Switched info (r56ChangeParams info) := by
  unfold r56ChangeParams
  split
  · exact .refl info
  · dsimp only
    refine Switched.trans ?_ (r56ProgramHw_switched _)
    exact .same rfl rfl rfl rfl rfl

theorem uscLoadTxfifo_switched (info : R56Struct) : Switched info (uscLoadTxfifo info) := by
  refine @uscLoadTxfifo_kept Switched .refl Switched.trans (fun s rest => ?_) (fun s => ?_)
    (fun s fifocount => ?_) info
  · exact .same rfl rfl rfl rfl rfl
  · exact .same rfl rfl rfl rfl rfl
  · unfold loadTxfifoStep
    dsimp only
    split
    · exact .same rfl rfl rfl rfl rfl
    · split
      · exact .same rfl rfl rfl rfl rfl
      · exact .same rfl rfl rfl rfl rfl

theorem ignoreEcho_switched (info : R56Struct) : Switched info (ignoreEcho info) := by
  have noted (s : R56Struct) (note : Bool) : Switched s { s with enableRxOnTxDone := note } :=
    .same rfl rfl rfl rfl rfl
  unfold ignoreEcho silenceReceiver
  dsimp only
  split
  · split
    · exact (noted info false).trans ((uscStopReceiver_switched _).trans (noted _ true))
    · exact noted info false
  · exact noted info false

theorem feedTransmitter_switched (info : R56Struct) : Switched info (feedTransmitter info) := by
  unfold feedTransmitter
  split
  · unfold startAsyncTransmitter
    split
    · exact .refl info
    · refine Switched.trans ?_ (uscLoadTxfifo_switched _)
      exact .same rfl rfl rfl rfl rfl
  · have dma : (startTxDma info).usc.rxDma = info.usc.rxDma := by
      unfold startTxDma
      dsimp only
      split
      · rfl
      · rfl
    exact .same rfl rfl rfl rfl dma

theorem uscStartTransmitter_switched (info : R56Struct) : Switched info (uscStartTransmitter info) := by
  have enabled (s : R56Struct) : Switched s (enableIfDisabled s) := by
    unfold enableIfDisabled
    dsimp only
    split
    · exact .refl s
    · split
      · exact .same rfl rfl rfl rfl rfl
      · exact .same rfl rfl rfl rfl rfl
  have asserted (s : R56Struct) : Switched s (assertAutoRts s) := by
    unfold assertAutoRts raiseRts
    dsimp only
    split
    · split
      · exact .same rfl rfl rfl rfl rfl
      · exact .same rfl rfl rfl rfl rfl
    · exact .same rfl rfl rfl rfl rfl
  have sent (s : R56Struct) : Switched s (sendXmit s) := by
    have fed := ((asserted s).trans (ignoreEcho_switched _)).trans (feedTransmitter_switched _)
    exact fed.trans (.same rfl rfl rfl rfl rfl)
  unfold uscStartTransmitter
  split
  · exact (sent info).trans (enabled _)
  · exact enabled info

theorem r56SetTermios_switched (info : R56Struct) (oldCflag : U32) : Switched info (r56SetTermios info oldCflag) := by
  have entered (s : R56Struct) : Switched s (enterB0 s oldCflag) := by
    unfold enterB0
    split
    · exact .same rfl rfl rfl rfl rfl
    · exact .refl s
  have left (s : R56Struct) : Switched s (leaveB0 s oldCflag) := by
    unfold leaveB0
    dsimp only
    split
    · exact .same rfl rfl rfl rfl rfl
    · exact .refl s
  have resumed (s : R56Struct) : Switched s (leaveCrtscts s oldCflag) := by
    unfold leaveCrtscts r56Start
    split
    · split
      · exact .same rfl rfl rfl rfl rfl
      · refine Switched.trans ?_ (uscStartTransmitter_switched _)
        exact .same rfl rfl rfl rfl rfl
    · exact .refl s
  exact (r56ChangeParams_switched info).trans ((entered _).trans ((left _).trans (resumed _)))

/-- `startup`, when nothing fails: the adapter passes `r56_dma_test`. -/
def startupTested (adapter : DmaTestRun) (physEntry : Nat → U32) (info : R56Struct) : R56Struct × Bool :=
  let claimed := r56AllocIntermediateRxbufferMemory
    (r56AllocBufferListMemory (countDmaBuffers (requestIrq (startupBegin info))) physEntry)
  let tested := r56DmaTest adapter claimed
  (startupEnd tested.1, tested.2)

/-- `shutdown`. -/
def closePort (info : R56Struct) : R56Struct :=
  shutdownEnd (r56FreeIntermediateRxbufferMemory (r56FreeDmaBuffers (freeIrq (shutdownHardware info))))

theorem uscReset_rxDma (info : R56Struct) : (uscReset info).usc.rxDma = info.usc.rxDma := by
  have adapter (u : Usc) : (resetPciAdapter info u).rxDma = u.rxDma := by
    unfold resetPciAdapter
    dsimp only
    split
    · rfl
    · rfl
  unfold uscReset
  dsimp only
  split
  · exact adapter info.usc
  · rfl

/-- The receiver is off, the ring has this size, and the driver is at this entry. -/
def R56Struct.offAt (info : R56Struct) (count current : Nat) : Prop :=
  info.receiverOff ∧ info.rxBufferCount = count ∧ info.currentRxBuffer = current

section

variable {s : R56Struct} {count current : Nat}

theorem looped_offAt (before : s.offAt count current) :
    ({ s with usc := uscOutDmaReg (uscEnableLoopback s true s.usc) .rdmr 0xe200 } : R56Struct).offAt count current :=
  ⟨@receiverOff_of_eq s _ rfl (uscEnableLoopback_rxDma s true s.usc) before.1, before.2⟩

theorem programmed_offAt (before : s.offAt count current) :
    ({ s with usc := dmaTestTransmitter s (dmaTestReceiver s s.usc) } : R56Struct).offAt count current :=
  ⟨⟨before.1.1, rfl, rfl⟩, before.2⟩

theorem sent_offAt (sends : Bool) (before : s.offAt count current) :
    (if sends then { s with usc := dmaTestSend s.usc } else s : R56Struct).offAt count current := by
  cases sends with
  | true => exact before
  | false => exact before

theorem ended_offAt (params : R56Params) (before : s.offAt count current) :
    ({ uscReset s with params := params } : R56Struct).offAt count current := by
  refine ⟨⟨before.1.1, ?_⟩, before.2⟩
  show (uscReset s).usc.rxDma.idle
  rw [uscReset_rxDma]
  exact before.1.2

end

/-- The test leaves the receiver off. -/
theorem r56DmaTest_off (adapter : DmaTestRun) (info : R56Struct) :
    (r56DmaTest adapter info).1.offAt info.rxBufferCount info.currentRxBuffer := by
  have sdlc := uscSetSdlcMode_off (uscReset { info with params := defaultParams })
  have frame := uscSetSdlcMode_frame (uscReset { info with params := defaultParams })
  have begun : (uscSetSdlcMode (uscReset { info with params := defaultParams })).offAt info.rxBufferCount
      info.currentRxBuffer := ⟨sdlc, congrArg (·.rxBufferCount) frame, congrArg (·.currentRxBuffer) frame⟩
  have looped := looped_offAt begun
  have placed : (dmaTestBuffers _).offAt info.rxBufferCount info.currentRxBuffer := looped
  have read {s : R56Struct} (before : s.offAt info.rxBufferCount info.currentRxBuffer) :
      ({ s with rxBufferList := Function.update s.rxBufferList 0 adapter.rxEntry } : R56Struct).offAt
        info.rxBufferCount info.currentRxBuffer := before
  exact ended_offAt _ (read (sent_offAt _ (programmed_offAt placed)))

/-- An opened port begins at the first entry, with the receiver off or the ring empty. -/
theorem startupTested_switched (adapter : DmaTestRun) (physEntry : Nat → U32) (info : R56Struct) :
    ∃ mid : R56Struct, Switched mid (startupTested adapter physEntry info).1 ∧ mid.receiverOff ∧
      mid.rxBufferCount = (countDmaBuffers info).rxBufferCount ∧ mid.currentRxBuffer = 0 := by
  obtain ⟨off, count, current⟩ := r56DmaTest_off adapter (r56AllocIntermediateRxbufferMemory
    (r56AllocBufferListMemory (countDmaBuffers (requestIrq (startupBegin info))) physEntry))
  have ended (s : R56Struct) : Switched s (startupEnd s) :=
    (r56ChangeParams_switched s).trans (.same rfl rfl rfl rfl rfl)
  exact ⟨_, ended _, off, count, current⟩

theorem closePort_switched (info : R56Struct) : Switched info (closePort info) := by
  have stopped : Switched info (shutdownHardware info) := by
    have begun : Switched info { info with
        txTimer := false, xmitBufPtr := false, usc := uscDisableMasterIrqBit info.usc } :=
      .same rfl rfl rfl rfl rfl
    have quiet := begun.trans (uscStopReceiver_switched _)
    unfold shutdownHardware
    dsimp only
    generalize uscStopReceiver _ = after at quiet ⊢
    refine quiet.trans ?_
    split
    · exact .same rfl rfl rfl rfl rfl
    · exact .same rfl rfl rfl rfl rfl
  have released (s : R56Struct) :
      Switched s (shutdownEnd (r56FreeIntermediateRxbufferMemory (r56FreeDmaBuffers (freeIrq s)))) :=
    .same rfl rfl rfl rfl rfl
  exact stopped.trans (released _)

/-- The entries in the ring that are not free, and the one the chip is using, are among these. -/
def R56Struct.within (info : R56Struct) (entries : List Nat) : Prop :=
  (∀ i, i < info.rxBufferCount → ¬(info.rxBufferList i).free → i ∈ entries) ∧
    (info.usc.rxDma.inUse = true → info.usc.rxDma.pos ∈ entries)

theorem within_of_eq {s t : R56Struct} {entries : List Nat} (list : t.rxBufferList = s.rxBufferList)
    (count : t.rxBufferCount = s.rxBufferCount) (dma : t.usc.rxDma = s.usc.rxDma) (inside : s.within entries) :
    t.within entries := by
  unfold R56Struct.within
  rw [list, count, dma]
  exact inside

theorem Emptied.within {info : R56Struct} (emptied : Emptied info) (entries : List Nat) : info.within entries := by
  refine ⟨fun i inside used => absurd (emptied.frees i inside) used, fun inUse => ?_⟩
  rw [emptied.idle.1] at inUse
  exact Bool.noConfusion inUse

theorem Recedes.within {s t : R56Struct} {entries : List Nat} (recedes : Recedes s t) (inside : s.within entries) :
    t.within entries := by
  refine ⟨fun i inRing used => ?_, fun inUse => ?_⟩
  · rcases recedes.entries i with same | free
    · rw [same] at used
      exact inside.1 i (recedes.count ▸ inRing) used
    · exact absurd free used
  · rcases recedes.dma with same | ⟨idle, _⟩
    · rw [same] at inUse ⊢
      exact inside.2 inUse
    · rw [idle] at inUse
      exact Bool.noConfusion inUse

inductive RxOffEvent
  | chip (reception : Reception)
  | interrupt (report : UscReport)
  | pass (hdlc : Bool)
  | rxenable (enable : Bool)
  | setParams (newParams : R56Params)
  | setTermios (cCflag cIflag : U32) (baudRate : Nat)
  | startup (adapter : DmaTestRun) (physEntry : Nat → U32)
  | shutdown

/-- `left` says whether there was something in the ring when the receiver was last configured, `disabled` whether
the last call of `r56_rxenable` was to disable it, and `renewed` whether it has been enabled after that. Then
`fresh` has the entries that the chip has begun to use since. -/
structure RxOffState where
  info : R56Struct
  left : Bool → Bool
  disabled : Bool := false
  renewed : Bool := false
  fresh : List Nat := []

/-- What is in the ring now. -/
def R56Struct.leftover (info : R56Struct) (hdlc : Bool) : Bool := decide (rxReady hdlc info)

def RxOffState.configured (s : RxOffState) (info : R56Struct) : RxOffState :=
  { s with info := info, left := info.leftover }

/-- The entries the chip begins to use. -/
def Reception.begun (pos : Nat) : Reception → List Nat
  | .use => [pos]
  | .store _ => []
  | .move => []
  | .finish _ => []

/-- The chip does what it can, an interrupt is one of the receiver, and an open succeeds. -/
def RxOffEvent.possible (s : RxOffState) : RxOffEvent → Prop
  | .chip reception => reception.possible s.info
  | .interrupt report => (s.info.reporting report).receiveInterrupt
  | .startup adapter physEntry =>
    0 < (countDmaBuffers s.info).rxBufferCount ∧ (startupTested adapter physEntry s.info).2 = true
  | _ => True

instance (s : RxOffState) : (event : RxOffEvent) → Decidable (event.possible s)
  | .chip reception => inferInstanceAs (Decidable (reception.possible s.info))
  | .interrupt report => inferInstanceAs (Decidable (s.info.reporting report).receiveInterrupt)
  | .startup _ _ => inferInstanceAs (Decidable (_ ∧ _))
  | .pass _ => .isTrue trivial
  | .rxenable _ => .isTrue trivial
  | .setParams _ => .isTrue trivial
  | .setTermios _ _ _ => .isTrue trivial
  | .shutdown => .isTrue trivial

/-- Receptions of the chip, interrupts of the receiver, passes of the bottom half, calls to enable and disable the
receiver, changes of the parameters, opens and closes. -/
def RxOffState.next (s : RxOffState) : RxOffEvent → RxOffState
  | .chip reception =>
    { s with info := receive s.info reception, fresh := reception.begun s.info.usc.rxDma.pos ++ s.fresh }
  | .interrupt report => { s with info := r56Interrupt (s.info.reporting report) }
  | .pass hdlc => { s with info := bhPass hdlc s.info }
  | .rxenable enable =>
    { s.configured (r56Rxenable s.info enable) with
      disabled := !enable
      renewed := s.renewed || enable && s.disabled
      fresh := if enable && s.disabled then [] else s.fresh }
  | .setParams newParams => s.configured (r56SetParams s.info newParams)
  | .setTermios cCflag cIflag baudRate =>
    s.configured (r56SetTermios { s.info with
      tty := { s.info.tty with cCflag := cCflag, cIflag := cIflag, baudRate := baudRate } } s.info.tty.cCflag)
  | .startup adapter physEntry => s.configured (startupTested adapter physEntry s.info).1
  | .shutdown => s.configured (closePort s.info)

def RxOffStep (s : RxOffState) (event : RxOffEvent) (t : RxOffState) : Prop := event.possible s ∧ t = s.next event

/-- A pass that hands something on does so with the receiver enabled, and what it hands on is in entries that the
chip began to use after the receiver was enabled again. -/
def RxOffRight (s : RxOffState) (event : RxOffEvent) (t : RxOffState) : Prop :=
  match event with
  | .pass _ =>
    t.info.handed ≠ s.info.handed →
      s.info.rxEnabled = true ∧ (s.renewed = true → s.info.currentRxBuffer ∈ s.fresh)
  | _ => True

/-- While the receiver is off no pass is made over a ring in which something was left, and a receiver that is
enabled again is off, or has received nothing. -/
def keepsQuiet (s : RxOffState) (event : RxOffEvent) : Prop :=
  match event with
  | .pass hdlc => s.info.rxEnabled = true ∨ s.info.rxRccUnderrun = true ∨ s.left hdlc = false
  | .rxenable true => s.disabled = true → s.info.rxEnabled = false ∨ s.info.within []
  | _ => True

structure RxOffInv (s : RxOffState) : Prop where
  inside : s.info.currentRxBuffer < s.info.rxBufferCount
  still : s.info.rxEnabled = false → s.info.usc.rxDma.inUse = false
  quiet : s.info.rxEnabled = false → ∀ hdlc, s.left hdlc = false → ¬rxReady hdlc s.info
  since : s.info.rxEnabled = true → s.renewed = true → s.info.within s.fresh

section

variable {s : RxOffState}

theorem leftover_false {info : R56Struct} {hdlc : Bool} (nothing : info.leftover hdlc = false) : ¬rxReady hdlc info :=
  of_decide_eq_false nothing

/-- A configured receiver. -/
theorem RxOffInv.switched {info : R56Struct} (inv : RxOffInv s) (switched : Switched s.info info) :
    RxOffInv (s.configured info) := by
  have some := Nat.zero_lt_of_lt inv.inside
  refine ⟨?_, fun off => ?_, fun _ _ => leftover_false, fun on renewed => ?_⟩
  · show info.currentRxBuffer < info.rxBufferCount
    rw [switched.count]
    rcases switched.ring with ⟨stays, _⟩ | ⟨stays, _⟩ | emptied
    · rw [stays.2]
      exact inv.inside
    · rw [stays.2]
      exact inv.inside
    · rw [emptied.current]
      exact some
  · show info.usc.rxDma.inUse = false
    rcases switched.ring with ⟨_, enabled, dma⟩ | ⟨_, _, idle⟩ | emptied
    · rw [dma]
      exact inv.still (enabled.symm.trans off)
    · exact idle.1
    · exact emptied.idle.1
  · rcases switched.ring with ⟨stays, enabled, dma⟩ | ⟨_, off, _⟩ | emptied
    · exact within_of_eq stays.1 switched.count dma (inv.since (enabled.symm.trans on) renewed)
    · exact absurd (off.symm.trans on) Bool.false_ne_true
    · exact emptied.within s.fresh

/-- A receiver that is enabled after it has been disabled. -/
theorem rxenable_within (quiet : s.info.rxEnabled = false ∨ s.info.within []) :
    (r56Rxenable s.info true).within [] := by
  unfold r56Rxenable
  rw [if_pos rfl]
  by_cases on : s.info.rxEnabled = true
  · rw [if_pos on]
    exact quiet.resolve_left fun off => Bool.false_ne_true (off.symm.trans on)
  · rw [if_neg on]
    exact (uscStartReceiver_emptied s.info).within []

theorem RxOffInv.chip (inv : RxOffInv s) {reception : Reception} (possible : reception.possible s.info) :
    RxOffInv { s with
      info := receive s.info reception, fresh := reception.begun s.info.usc.rxDma.pos ++ s.fresh } := by
  -- the chip receives only while the receiver is on, and changes only the entry it is at
  have on : s.info.rxEnabled = true := by
    have used (inUse : s.info.usc.rxDma.inUse = true) : s.info.rxEnabled = true :=
      Bool.eq_true_of_not_eq_false fun off => Bool.false_ne_true ((inv.still off).symm.trans inUse)
    cases reception with
    | use => exact possible.1
    | store bytes => exact used possible.1
    | move => exact used possible.1
    | finish status => exact used possible.1
  refine ⟨inv.inside, fun off => ?_, fun off => ?_, fun _ renewed => ?_⟩
  · exact absurd (off.symm.trans on) Bool.false_ne_true
  · exact absurd (off.symm.trans on) Bool.false_ne_true
  · have since := inv.since on renewed
    have here : s.info.usc.rxDma.pos ∈ reception.begun s.info.usc.rxDma.pos ++ s.fresh := by
      cases reception with
      | use => exact List.mem_append_left _ (List.mem_singleton.mpr rfl)
      | store bytes => exact List.mem_append_right _ (since.2 possible.1)
      | move => exact List.mem_append_right _ (since.2 possible.1)
      | finish status => exact List.mem_append_right _ (since.2 possible.1)
    refine ⟨fun i inRing used => ?_, fun inUse => ?_⟩
    · by_cases same : i = s.info.usc.rxDma.pos
      · rw [same]
        exact here
      · have kept : (receive s.info reception).rxBufferList i = s.info.rxBufferList i :=
          Function.update_of_ne same _ _
        rw [kept] at used
        exact List.mem_append_right _ (since.1 i inRing used)
    · cases reception with
      | use => exact here
      | store bytes => exact here
      | move => exact Bool.noConfusion inUse
      | finish status => exact Bool.noConfusion inUse

theorem RxOffInv.interrupt (inv : RxOffInv s) {report : UscReport}
    (receives : (s.info.reporting report).receiveInterrupt) :
    RxOffInv { s with info := r56Interrupt (s.info.reporting report) } := by
  have shown : Recedes s.info (s.info.reporting report) := .same rfl rfl rfl rfl
  have recedes := shown.trans (r56Interrupt_recedes receives)
  have unchanged : Steady s.info (s.info.reporting report) := .same rfl rfl rfl rfl
  have some : 0 < (s.info.reporting report).rxBufferCount := Nat.zero_lt_of_lt inv.inside
  have steady := unchanged.trans (r56Interrupt_steady some receives)
  refine ⟨?_, fun off => ?_, fun off hdlc nothing ready => ?_, fun on renewed => ?_⟩
  · show (r56Interrupt (s.info.reporting report)).currentRxBuffer < (r56Interrupt _).rxBufferCount
    rw [recedes.count]
    exact recedes.current inv.inside
  · rcases recedes.dma with same | ⟨idle, _⟩
    · exact (congrArg (·.inUse) same).trans (inv.still (steady.enabled.symm.trans off))
    · exact idle
  · exact inv.quiet (steady.enabled.symm.trans off) hdlc nothing (steady.ready hdlc ready)
  · exact recedes.within (inv.since (steady.enabled.symm.trans on) renewed)

theorem RxOffInv.pass (inv : RxOffInv s) {hdlc : Bool}
    (quiet : s.info.rxEnabled = true ∨ s.info.rxRccUnderrun = true ∨ s.left hdlc = false) :
    RxOffInv { s with info := bhPass hdlc s.info } ∧
      RxOffRight s (.pass hdlc) { s with info := bhPass hdlc s.info } := by
  have recedes := bhPass_recedes hdlc s.info
  have inside : (bhPass hdlc s.info).currentRxBuffer < (bhPass hdlc s.info).rxBufferCount := by
    rw [recedes.count]
    exact recedes.current inv.inside
  by_cases on : s.info.rxEnabled = true
  · have stays : (bhPass hdlc s.info).rxEnabled = true := bhPass_on on
    refine ⟨⟨inside, fun off => ?_, fun off => ?_, fun _ renewed => recedes.within (inv.since on renewed)⟩,
      fun hands => ⟨on, fun renewed => ?_⟩⟩
    · exact absurd (off.symm.trans stays) Bool.false_ne_true
    · exact absurd (off.symm.trans stays) Bool.false_ne_true
    · exact (inv.since on renewed).1 _ inv.inside (rxReady_used (bhPass_ready hands).1)
  · have off : s.info.rxEnabled = false := Bool.eq_false_of_not_eq_true on
    have waits : s.info.rxRccUnderrun = true ∨ ¬rxReady hdlc s.info :=
      (quiet.resolve_left on).imp id (inv.quiet off hdlc)
    refine ⟨?_, fun hands => absurd (bhPass_ready hands) fun both => waits.elim both.2 fun none => none both.1⟩
    rcases bhPass_off off waits with same | started
    · rw [same]
      exact inv
    · rw [started]
      have emptied := uscStartReceiver_emptied s.info
      refine ⟨started ▸ inside, fun _ => emptied.idle.1, fun off => ?_, fun _ _ => emptied.within s.fresh⟩
      exact absurd (off.symm.trans (uscStartReceiver_enabled s.info)) Bool.false_ne_true

theorem RxOffInv.rxenable (inv : RxOffInv s) {enable : Bool} (quiet : keepsQuiet s (.rxenable enable)) :
    RxOffInv { s.configured (r56Rxenable s.info enable) with
      disabled := !enable
      renewed := s.renewed || enable && s.disabled
      fresh := if enable && s.disabled then [] else s.fresh } := by
  have switched := inv.switched (r56Rxenable_switched s.info enable)
  refine ⟨switched.inside, switched.still, switched.quiet, fun on renewed => ?_⟩
  by_cases again : (enable && s.disabled) = true
  · rw [if_pos again]
    obtain ⟨rfl, disabled⟩ := Bool.and_eq_true_iff.mp again
    exact rxenable_within (quiet disabled)
  · rw [if_neg again]
    rw [Bool.eq_false_of_not_eq_true again, Bool.or_false] at renewed
    exact switched.since on renewed

end

/-- The receiver is off in the middle of the call of `startup`. -/
theorem RxOffInv.startup {s : RxOffState} (adapter : DmaTestRun) (physEntry : Nat → U32)
    (some : 0 < (countDmaBuffers s.info).rxBufferCount) :
    RxOffInv (s.configured (startupTested adapter physEntry s.info).1) := by
  obtain ⟨mid, switched, off, count, current⟩ := startupTested_switched adapter physEntry s.info
  have begun : RxOffInv (s.configured mid) := by
    refine ⟨?_, fun _ => off.2.1, fun _ _ => leftover_false, fun on => ?_⟩
    · show mid.currentRxBuffer < mid.rxBufferCount
      rw [current, count]
      exact some
    · exact absurd (off.1.symm.trans on) Bool.false_ne_true
  exact begun.switched switched

theorem RxOffInv.step {s t : RxOffState} {event : RxOffEvent} (inv : RxOffInv s) (step : RxOffStep s event t)
    (quiet : keepsQuiet s event) : RxOffInv t ∧ RxOffRight s event t := by
  obtain ⟨possible, rfl⟩ := step
  cases event with
  | chip reception => exact ⟨inv.chip possible, trivial⟩
  | interrupt report => exact ⟨inv.interrupt possible, trivial⟩
  | pass hdlc => exact inv.pass quiet
  | rxenable enable => exact ⟨inv.rxenable quiet, trivial⟩
  | setParams newParams =>
    have set : Switched s.info { s.info with params := newParams } := .same rfl rfl rfl rfl rfl
    exact ⟨inv.switched (set.trans (r56ChangeParams_switched _)), trivial⟩
  | setTermios cCflag cIflag baudRate =>
    have set : Switched s.info { s.info with
        tty := { s.info.tty with cCflag := cCflag, cIflag := cIflag, baudRate := baudRate } } :=
      .same rfl rfl rfl rfl rfl
    exact ⟨inv.switched (set.trans (r56SetTermios_switched _ _)), trivial⟩
  | startup adapter physEntry => exact ⟨.startup adapter physEntry possible.1, trivial⟩
  | shutdown => exact ⟨inv.switched (closePort_switched s.info), trivial⟩

/-- In every run that keeps quiet while the receiver is off, frames are handed on only while it is on, and after it
has been enabled again only frames whose reception began since. -/
theorem handed_on_while_enabled {info : R56Struct} (first : info.currentRxBuffer < info.rxBufferCount)
    (still : info.rxEnabled = false → info.usc.rxDma.inUse = false) {p : List (RxOffEvent × RxOffState)}
    (run : Run RxOffStep { info := info, left := info.leftover } p)
    (quiet : Run (fun s event _ => keepsQuiet s event) { info := info, left := info.leftover } p) :
    Run RxOffRight { info := info, left := info.leftover } p := by
  have init : RxOffInv { info := info, left := info.leftover } :=
    ⟨first, still, fun _ _ => leftover_false, fun _ renewed => absurd renewed Bool.false_ne_true⟩
  have both := run_and.mpr ⟨run, quiet⟩
  exact both.steps_of_invariant (fun s event t inv step => inv.step step.1 step.2) init

/-- A run of `r56_bh_receive` is made of passes of one function. -/
theorem r56BhReceiveLoop_passes (hdlc : Bool) {after : R56Struct} :
    ∀ (fuel : Nat) (s : RxOffState), r56BhReceiveLoop (takeFrame hdlc) fuel s.info = some after →
      ∃ p, Run RxOffStep s p ∧ (∀ x ∈ p, x.1 = .pass hdlc) ∧ (last s p).info = after := by
  intro fuel
  induction fuel with
  | zero =>
    intro s returned
    exact absurd returned (by simp [r56BhReceiveLoop])
  | succ fuel ih =>
    intro s returned
    have alone (ends : bhPass hdlc s.info = after) :
        ∃ p, Run RxOffStep s p ∧ (∀ x ∈ p, x.1 = .pass hdlc) ∧ (last s p).info = after :=
      ⟨[(.pass hdlc, s.next (.pass hdlc))], ⟨⟨trivial, rfl⟩, trivial⟩,
        fun x member => congrArg Prod.fst (List.mem_singleton.mp member), ends⟩
    rw [r56BhReceiveLoop] at returned
    by_cases underrun : s.info.rxRccUnderrun = true
    · rw [if_pos underrun] at returned
      refine alone ?_
      rw [bhPass, if_pos underrun]
      exact Option.some.inj returned
    · have pass : bhPass hdlc s.info = (takeFrame hdlc s.info).1 := if_neg underrun
      rw [if_neg underrun] at returned
      split at returned
      · rw [← pass] at returned
        obtain ⟨p, run, passes, ends⟩ := ih (s.next (.pass hdlc)) returned
        refine ⟨(.pass hdlc, s.next (.pass hdlc)) :: p, ⟨⟨trivial, rfl⟩, run⟩, fun x member => ?_, ends⟩
        rcases List.mem_cons.mp member with rfl | later
        · rfl
        · exact passes x later
      · refine alone ?_
        rw [pass]
        exact Option.some.inj returned

/-- So what is shown of the passes holds of the calls of `r56_bh_receive`. -/
theorem r56BhReceive_passes {s : RxOffState} {after : R56Struct} (returned : r56BhReceive s.info = some after) :
    ∃ p, Run RxOffStep s p ∧ (∀ x ∈ p, x.1 = .pass (decide (s.info.params.mode = r56ModeHdlc))) ∧
      (last s p).info = after := by
  unfold r56BhReceive at returned
  rw [getRxFrame_eq] at returned
  exact r56BhReceiveLoop_passes _ _ s returned

def RxOffState.states (s : RxOffState) : List RxOffEvent → List (RxOffEvent × RxOffState)
  | [] => []
  | event :: rest => (event, s.next event) :: (s.next event).states rest

/-- A ring of two entries, and a receiver that has been started. -/
def rxOpened : RxOffState := { info := twoEntries, left := twoEntries.leftover }

/-- A frame is received and handed on, the receiver is disabled and enabled again, and another is received. -/
def rxRenewed : List RxOffEvent :=
  [.chip .use, .chip (.store [1, 2, 3, 4]), .chip (.finish bit4), .pass true, .rxenable false, .rxenable true,
    .chip .use, .chip (.store [5, 6, 7, 8]), .chip (.finish bit4)]

/-- The second frame is handed on from an entry used after the receiver was enabled. -/
theorem handed_on_after_enable :
    let s := last rxOpened (rxOpened.states rxRenewed)
    s.renewed = true ∧ (bhPass true s.info).history.ldisc = [[1, 2], [5, 6]] ∧ s.info.currentRxBuffer ∈ s.fresh := by
  intro s
  have run : Run RxOffStep rxOpened (rxOpened.states (rxRenewed ++ [.pass true])) := by
    refine ⟨⟨?_, rfl⟩, ⟨?_, rfl⟩, ⟨?_, rfl⟩, ⟨trivial, rfl⟩, ⟨trivial, rfl⟩, ⟨trivial, rfl⟩, ⟨?_, rfl⟩, ⟨?_, rfl⟩,
      ⟨?_, rfl⟩, ⟨trivial, rfl⟩, trivial⟩ <;> decide +kernel
  have quiet : Run (fun s event _ => keepsQuiet s event) rxOpened (rxOpened.states (rxRenewed ++ [.pass true])) := by
    refine ⟨trivial, trivial, trivial, .inl ?_, trivial, fun _ => .inl ?_, trivial, trivial, trivial, .inl ?_,
      trivial⟩ <;> decide +kernel
  have right := handed_on_while_enabled (show twoEntries.currentRxBuffer < twoEntries.rxBufferCount by decide)
    (fun _ => rfl) run quiet
  have renewed : s.renewed = true := by decide +kernel
  have handed : (bhPass true s.info).history.ldisc = [[1, 2], [5, 6]] := by decide +kernel
  have before : s.info.history.ldisc = [[1, 2]] := by decide +kernel
  have here : RxOffRight s (.pass true) (s.next (.pass true)) := right.2.2.2.2.2.2.2.2.2.1
  have hands : (s.next (.pass true)).info.handed ≠ s.info.handed := by
    intro same
    have ldisc : (bhPass true s.info).history.ldisc = s.info.history.ldisc := congrArg Prod.fst same
    rw [handed, before] at ldisc
    exact absurd ldisc (by decide)
  exact ⟨renewed, handed, (here hands).2 renewed⟩

/-- A frame that is in the ring when the receiver is disabled is handed on. -/
example :
    let s := last rxOpened (rxOpened.states
      [.chip .use, .chip (.store [1, 2, 3, 4]), .chip (.finish bit4), .rxenable false])
    s.info.rxEnabled = false ∧ s.left true = true ∧ (bhPass true s.info).history.ldisc = [[1, 2]] := by decide +kernel

end Route56
