import Route56.ModeAgreement

namespace Route56

open Transition

/-- The copies of the idle pattern: the mode requested, the shadow of TCSR and the last value
written to TCSR. -/
structure Idle where
  mode : Nat
  value : U16
  written : U16

def R56Struct.idle (info : R56Struct) : Idle where
  mode := info.idleMode
  value := info.usc.tcsrValue
  written := info.usc.reg .tcsr

/-- Both words hold the code of a pattern, and the command and status bits of the shadow are clear. -/
structure Idle.Codes (i : Idle) (code : U16) : Prop where
  clear : i.value.toNat % 256 = 0
  value : i.value &&& idlemodeMask = code
  written : i.written &&& idlemodeMask = code

/-- The words hold the code of the mode requested. -/
def Idle.matched (i : Idle) : Prop := i.Codes (idleModeBits i.mode)

theorem idle_toNat (x : U16) : (x &&& idlemodeMask).toNat = x.toNat / 256 % 8 * 256 := by
  have shifted : x &&& idlemodeMask = ((x >>> 8) &&& 7#16) <<< 8 := by
    refine BitVec.eq_of_getLsbD_eq fun i hi => ?_
    interval_cases i <;> simp [idlemodeMask]
  have low : ((x >>> 8) &&& 7#16).toNat = x.toNat / 256 % 8 := by
    rw [BitVec.toNat_and, BitVec.toNat_ushiftRight, Nat.shiftRight_eq_div_pow]
    exact Nat.and_two_pow_sub_one_eq_mod _ 3
  rw [shifted, BitVec.toNat_shiftLeft, low, Nat.shiftLeft_eq]
  omega

/-- Commands and status bits do not reach the idle field. -/
theorem idle_add {value bits : U16} (clear : value.toNat % 256 = 0) (outside : bits.toNat / 256 % 16 = 0) :
    (value + bits) &&& idlemodeMask = value &&& idlemodeMask := by
  apply BitVec.eq_of_toNat_eq
  rw [idle_toNat, idle_toNat, BitVec.toNat_add]
  omega

theorem lowByte_outside (x : U16) : (x &&& 0x00ff).toNat / 256 % 16 = 0 := by
  have small := Nat.and_le_right (n := x.toNat) (m := 255)
  rw [BitVec.toNat_and]
  have bound : x.toNat &&& (0x00ff : U16).toNat ≤ 255 := small
  omega

theorem idleModeBits_outside (mode : Nat) :
    (idleModeBits mode).toNat % 256 = 0 ∧ idleModeBits mode &&& idlemodeMask = idleModeBits mode := by
  unfold idleModeBits
  repeat' split
  all_goals decide

/-- The mode and the shadow are kept, and what was written is the shadow with bits outside the
idle field. -/
structure KeepsIdle (i j : Idle) : Prop where
  mode : j.mode = i.mode
  value : j.value = i.value
  written : j.written = i.written ∨ ∃ bits : U16, bits.toNat / 256 % 16 = 0 ∧ j.written = i.value + bits

namespace KeepsIdle

theorem refl (i : Idle) : KeepsIdle i i := ⟨rfl, rfl, .inl rfl⟩

theorem of_eq {i j : Idle} (same : j = i) : KeepsIdle i j := by
  rw [same]
  exact refl i

theorem trans {i j k : Idle} (first : KeepsIdle i j) (second : KeepsIdle j k) : KeepsIdle i k := by
  refine ⟨second.mode.trans first.mode, second.value.trans first.value, ?_⟩
  rcases second.written with same | ⟨bits, outside, written⟩
  · rw [same]
    exact first.written
  · rw [first.value] at written
    exact .inr ⟨bits, outside, written⟩

theorem codes {i j : Idle} (kept : KeepsIdle i j) {code : U16} (codes : i.Codes code) : j.Codes code := by
  have value : j.value &&& idlemodeMask = code := by rw [kept.value, codes.value]
  refine ⟨by rw [kept.value]; exact codes.clear, value, ?_⟩
  rcases kept.written with same | ⟨bits, outside, written⟩
  · rw [same]
    exact codes.written
  · rw [written, idle_add codes.clear outside]
    exact codes.value

theorem matched {i j : Idle} (kept : KeepsIdle i j) (matched : i.matched) : j.matched := by
  unfold Idle.matched
  rw [kept.mode]
  exact kept.codes matched

end KeepsIdle

/-- A function keeps the idle pattern. -/
abbrev Keeps (s t : R56Struct) : Prop := KeepsIdle s.idle t.idle

theorem Keeps.command {s t : R56Struct} (mode : t.idleMode = s.idleMode) (value : t.usc.tcsrValue = s.usc.tcsrValue)
    {b : U16} (outside : b.toNat / 256 % 16 = 0) (written : t.usc.reg .tcsr = s.usc.tcsrValue + b) :
    Keeps s t := ⟨mode, value, .inr ⟨b, outside, written⟩⟩

theorem uscStopReceiver_idle (info : R56Struct) : (uscStopReceiver info).idle = info.idle := rfl

theorem initRxChannel_idle (info s : R56Struct) (u : Usc) (entry : Nat) :
    ({ s with usc := initRxChannel info u entry } : R56Struct).idle = ({ s with usc := u } : R56Struct).idle := by
  unfold initRxChannel
  dsimp only
  split
  · rfl
  · rfl

theorem uscStartReceiver_idle (info : R56Struct) : (uscStartReceiver info).idle = info.idle := by
  have stopped (s : R56Struct) (u : Usc) :
      ({ s with usc := if s.synchronous then initRxChannel s u 0 else startAsyncReceiver u } : R56Struct).idle =
        ({ s with usc := u } : R56Struct).idle := by
    split
    · exact initRxChannel_idle s s u 0
    · rfl
  exact stopped (uscStopReceiver (r56ResetRxDmaBuffers _)) _

theorem uscProcessRxoverrunSync_idle (info : R56Struct) : (uscProcessRxoverrunSync info).idle = info.idle := by
  have discard : (overrunDiscard info).1.idleMode = info.idleMode := by
    unfold overrunDiscard
    dsimp only
    split
    · rfl
    · split <;> rfl
  have mode (u : Usc) : ({ (overrunDiscard info).1 with usc := u } : R56Struct).idle =
      ({ info with usc := u } : R56Struct).idle := by
    unfold R56Struct.idle
    dsimp only
    rw [discard]
  unfold uscProcessRxoverrunSync
  dsimp only
  split
  · rw [initRxChannel_idle, mode]
    rfl
  · rw [mode]
    rfl

theorem idle_of_exceptDelivery {s t : R56Struct} (frame : t.exceptDelivery = s.exceptDelivery) : t.idle = s.idle := by
  have same := congrArg R56Struct.idle frame
  exact same

theorem restartOnOverflow_idle (info : R56Struct) (index : Nat) : (restartOnOverflow info index).idle = info.idle := by
  unfold restartOnOverflow
  split
  · split
    · exact uscStartReceiver_idle info
    · rfl
  · rfl

theorem getRxFrame_idle (mode info : R56Struct) : (getRxFrame mode info).1.idle = info.idle := by
  have freed (s : R56Struct) (startIndex endIndex : Nat) :
      (r56FreeRxFrameBuffers s startIndex endIndex).idle = s.idle := rfl
  unfold getRxFrame
  split
  · unfold r56GetRxFrame
    dsimp only
    split
    · exact (restartOnOverflow_idle _ _).trans
        ((freed _ _ _).trans (idle_of_exceptDelivery (deliverRxFrame_frame _ _ _)))
    · exact restartOnOverflow_idle _ _
    · refine (restartOnOverflow_idle _ _).trans ?_
      split
      · exact uscStartReceiver_idle info
      · rfl
  · unfold r56GetRawRxFrame
    dsimp only
    split
    · exact (restartOnOverflow_idle _ _).trans
        ((freed _ _ _).trans (idle_of_exceptDelivery (deliverRawFrame_frame _ _)))
    · exact restartOnOverflow_idle _ _

theorem r56BhReceive_idle {info after : R56Struct} (returned : r56BhReceive info = some after) :
    after.idle = info.idle := by
  have loop : ∀ (fuel : Nat) (mode start : R56Struct),
      r56BhReceiveLoop (getRxFrame mode) fuel start = some after → after.idle = start.idle := by
    intro fuel mode
    induction fuel with
    | zero => intro start h; simp [r56BhReceiveLoop] at h
    | succ fuel ih =>
      intro start h
      unfold r56BhReceiveLoop at h
      split at h
      · cases h
        exact uscStartReceiver_idle start
      · split at h
        · exact (ih _ h).trans (getRxFrame_idle mode start)
        · cases h
          exact getRxFrame_idle mode start
  exact loop _ _ _ returned

theorem uscStopTransmitter_idle (info : R56Struct) : Keeps info (uscStopTransmitter info) :=
  Keeps.command rfl rfl (lowByte_outside txstatusAll) rfl

theorem uscLoadTxfifo_idle (info : R56Struct) : Keeps info (uscLoadTxfifo info) := by
  have step (s : R56Struct) (fifocount : Nat) : (loadTxfifoStep s fifocount).idle = s.idle := by
    unfold loadTxfifoStep
    dsimp only
    split
    · rfl
    · split <;> rfl
  have selected (s : R56Struct) : Keeps s { s with usc := uscTCmd s.usc tCmdSelectTicrTxFifostatus } :=
    Keeps.command rfl rfl (b := tCmdSelectTicrTxFifostatus) (by decide) rfl
  exact uscLoadTxfifo_kept (R := Keeps) (fun _ => .refl _) KeepsIdle.trans (fun _ _ => .of_eq rfl) selected
    (fun s fifocount => .of_eq (step s fifocount)) info

theorem startTxDma_idle (info : R56Struct) : Keeps info (startTxDma info) := by
  refine Keeps.command (b := tCmdSendFrame) rfl ?_ (by decide) ?_
  · unfold startTxDma
    dsimp only
    split <;> rfl
  · unfold startTxDma
    dsimp only
    split <;> rfl

theorem feedTransmitter_idle (info : R56Struct) : Keeps info (feedTransmitter info) := by
  have async : Keeps info (startAsyncTransmitter info) := by
    have cleared (u : Usc) (value : u.tcsrValue = info.usc.tcsrValue)
        (written : u.reg .tcsr = info.usc.tcsrValue + (txstatusAll &&& 0x00ff)) : Keeps info { info with usc := u } :=
      Keeps.command rfl value (lowByte_outside txstatusAll) written
    unfold startAsyncTransmitter
    dsimp only
    split
    · exact .refl _
    · refine KeepsIdle.trans ?_ (uscLoadTxfifo_idle _)
      exact cleared _ rfl rfl
  unfold feedTransmitter
  split
  · exact async
  · exact startTxDma_idle info

theorem uscStartTransmitter_idle (info : R56Struct) : Keeps info (uscStartTransmitter info) := by
  have kept : KeptPrepare Keeps :=
    ⟨fun _ => .refl _, KeepsIdle.trans, fun _ _ => .of_eq rfl, fun _ => .of_eq rfl, fun _ => .of_eq rfl,
      fun _ _ => .of_eq rfl, fun _ => .of_eq rfl, fun _ => .of_eq rfl, fun _ _ => .of_eq rfl⟩
  exact kept.start fun _ => feedTransmitter_idle _

theorem startIfIdle_idle (info : R56Struct) : Keeps info (startIfIdle info) := by
  unfold startIfIdle
  split
  · split
    · exact .refl _
    · exact uscStartTransmitter_idle info
  · exact .refl _

theorem writeAsync_idle (buf : Nat → U8) (fuel count : Nat) (info : R56Struct) :
    (writeAsync info fuel buf count).1.idle = info.idle := by
  induction fuel generalizing info buf count with
  | zero => rfl
  | succ fuel ih =>
    unfold writeAsync
    dsimp only
    split
    · rfl
    · exact ih _ _ _

theorem loadNextTxHoldingBuffer_idle (info : R56Struct) : (loadNextTxHoldingBuffer info).1.idle = info.idle := by
  unfold loadNextTxHoldingBuffer
  dsimp only
  split
  · rfl
  · rfl

theorem r56Write_idle (info : R56Struct) (buf : Nat → U8) (count : Nat) : Keeps info (r56Write info buf count).1 := by
  have saved (s : R56Struct) : (saveTxBufferRequest s buf count).idle = s.idle := by
    unfold saveTxBufferRequest
    split
    · rfl
    · rfl
  have loaded (s : R56Struct) (source : TxSource) (data : Nat → U8) (size : Nat) :
      (r56LoadTxDmaBuffer s source data size).idle = s.idle := rfl
  unfold r56Write
  split
  · exact .refl _
  split
  · split
    · split
      · exact .refl _
      split
      · exact .refl _
      · exact .of_eq ((loadNextTxHoldingBuffer_idle _).trans (saved info))
    split
    · exact .refl _
    split
    · exact (KeepsIdle.of_eq (loaded _ _ _ _)).trans (startIfIdle_idle _)
    · exact (KeepsIdle.of_eq (loaded { info with xmitCnt := count } _ _ _)).trans (startIfIdle_idle _)
  · exact (KeepsIdle.of_eq (writeAsync_idle buf (count + 1) count info)).trans (startIfIdle_idle _)

theorem r56FlushChars_idle (info : R56Struct) : Keeps info (r56FlushChars info) := by
  have loaded : (loadXmitBuf info).idle = info.idle := rfl
  unfold r56FlushChars
  split
  · exact .refl _
  split
  · exact .refl _
  split
  · exact (KeepsIdle.of_eq loaded).trans (uscStartTransmitter_idle _)
  · exact uscStartTransmitter_idle info

theorem r56Start_idle (info : R56Struct) : Keeps info (r56Start info) := by
  unfold r56Start
  split
  · exact .refl _
  · exact uscStartTransmitter_idle info

theorem r56SendXchar_idle (info : R56Struct) (ch : U8) : Keeps info (r56SendXchar info ch) := by
  have started : Keeps info (uscStartTransmitter { info with xChar := ch }) :=
    uscStartTransmitter_idle { info with xChar := ch }
  unfold r56SendXchar
  dsimp only
  split
  · exact started
  · exact .refl _

theorem signalRts_idle (info : R56Struct) (on : Bool) : (signalRts info on).idle = info.idle := by
  unfold signalRts
  split
  · rfl
  · rfl

theorem r56Throttle_idle (info : R56Struct) : Keeps info (r56Throttle info) := by
  refine KeepsIdle.trans ?_ (.of_eq (signalRts_idle _ _))
  unfold sendStopChar
  split
  · exact r56SendXchar_idle info _
  · exact .refl _

theorem r56Unthrottle_idle (info : R56Struct) : Keeps info (r56Unthrottle info) := by
  refine KeepsIdle.trans ?_ (.of_eq (signalRts_idle _ _))
  unfold sendStartChar
  split
  · split
    · exact .refl _
    · exact r56SendXchar_idle info _
  · exact .refl _

theorem r56Txenable_idle (info : R56Struct) (enable : Bool) : Keeps info (r56Txenable info enable) := by
  have inserted (s : R56Struct) : (uscLoopmodeInsertRequest s).idle = s.idle := rfl
  unfold r56Txenable
  dsimp only
  split
  · split
    · exact .refl _
    split
    · exact (uscStartTransmitter_idle info).trans (.of_eq (inserted _))
    · exact uscStartTransmitter_idle info
  split
  · exact uscStopTransmitter_idle info
  · exact .refl _

theorem r56Rxenable_idle (info : R56Struct) (enable : Bool) : (r56Rxenable info enable).idle = info.idle := by
  unfold r56Rxenable
  split
  · split
    · rfl
    · exact uscStartReceiver_idle info
  · split
    · rfl
    · rfl

theorem r56Txabort_idle (info : R56Struct) : Keeps info (r56Txabort info) := by
  have cancelled : (uscLoopmodeCancelTransmit info).idle = info.idle := rfl
  unfold r56Txabort
  split
  · split
    · exact .of_eq cancelled
    · exact Keeps.command rfl rfl (b := tCmdSendAbort) (by decide) rfl
  · exact .refl _

theorem r56IsrReceiveStatus_idle (info : R56Struct) : (r56IsrReceiveStatus info).idle = info.idle := by
  have inserted (s : R56Struct) (status : U16) : (completeInsertion s status).idle = s.idle := by
    unfold completeInsertion
    split
    · rfl
    · rfl
  have recovered (s : R56Struct) (status : U16) : (recoverOverrun s status).idle = s.idle := by
    unfold recoverOverrun
    split
    · exact uscProcessRxoverrunSync_idle _
    · rfl
  exact (recovered _ _).trans (inserted info _)

theorem r56IsrTransmitStatus_idle (info : R56Struct) : Keeps info (r56IsrTransmitStatus info) := by
  have acked (status : U16) : Keeps info (ackTxStatus info status) := by
    refine Keeps.command rfl ?_ (lowByte_outside status) ?_
    · unfold ackTxStatus
      dsimp only
      split <;> rfl
    · unfold ackTxStatus
      dsimp only
      split <;> rfl
  have dropped (s : R56Struct) : (dropAutoRts s).idle = s.idle := by
    unfold dropAutoRts negateRts
    split
    · dsimp only
      split <;> rfl
    · rfl
  have ended := (acked (uscInReg info.usc .tcsr)).trans (.of_eq (dropped _))
  unfold r56IsrTransmitStatus
  dsimp only
  split
  · exact ended
  split
  · exact ended.trans (uscStopTransmitter_idle _)
  · exact ended

theorem r56IsrIoPin_idle (info : R56Struct) : Keeps info (r56IsrIoPin info) := by
  have counted (s : R56Struct) (status : U16) : (countIoPins s status).idle = s.idle := by
    have line (s : R56Struct) (chkcount : Nat) (sicr : U16) :
        ({ s with usc := (ioPinLine chkcount s.usc sicr).2 } : R56Struct).idle = s.idle := by
      unfold ioPinLine
      dsimp only
      split
      · rfl
      · rfl
    have ri (s : R56Struct) : (countRi s status).idle = s.idle := by
      unfold countRi
      split
      · exact line s s.riChkcount sicrRi
      · rfl
    have dsr (s : R56Struct) : (countDsr s status).idle = s.idle := by
      unfold countDsr
      split
      · exact line s s.dsrChkcount sicrDsr
      · rfl
    have dcd (s : R56Struct) : (countDcd s status).idle = s.idle := by
      unfold countDcd
      split
      · exact line s s.dcdChkcount sicrDcd
      · rfl
    have cts (s : R56Struct) : (countCts s status).idle = s.idle := by
      unfold countCts
      split
      · exact line s s.ctsChkcount sicrCts
      · rfl
    exact (cts _).trans ((dcd _).trans ((dsr _).trans (ri _)))
  have done (s : R56Struct) (status : U16) : (ioPinDone s status).idle = s.idle := by
    unfold ioPinDone
    dsimp only
    split
    · rfl
    · rfl
  have flow (s : R56Struct) (status : U16) : Keeps s (ctsFlowControl s status) := by
    have started : Keeps s (uscStartTransmitter { s with tty := { s.tty with hwStopped := false } }) :=
      uscStartTransmitter_idle { s with tty := { s.tty with hwStopped := false } }
    have stopped : Keeps s (uscStopTransmitter { s with tty := { s.tty with hwStopped := true } }) :=
      uscStopTransmitter_idle { s with tty := { s.tty with hwStopped := true } }
    unfold ctsFlowControl
    dsimp only
    split
    · split
      · exact started
      · exact .of_eq (done s status)
    · split
      · exact stopped.trans (.of_eq (done _ status))
      · exact .of_eq (done s status)
  have served (s : R56Struct) (status : U16) : Keeps s (serviceIoPins s status) := by
    unfold serviceIoPins
    dsimp only
    split
    · exact (KeepsIdle.of_eq (counted s status)).trans (flow _ status)
    · exact .of_eq ((done _ status).trans (counted s status))
  have acked (u : Usc) (value : u.tcsrValue = info.usc.tcsrValue) (written : u.reg .tcsr = info.usc.reg .tcsr) :
      Keeps info { info with usc := u } := ⟨rfl, value, .inl written⟩
  unfold r56IsrIoPin
  dsimp only
  split
  · refine KeepsIdle.trans ?_ (served _ _)
    exact acked _ rfl rfl
  · exact .of_eq (done _ _)

theorem r56IsrTransmitData_idle (info : R56Struct) : Keeps info (r56IsrTransmitData info) := by
  have fed (s : R56Struct) : Keeps s (continueAsync s) := by
    unfold continueAsync
    split
    · exact uscLoadTxfifo_idle s
    · exact .refl _
  have cleared : Keeps info { info with usc := uscClearIrqPendingBits info.usc transmitData } := .of_eq rfl
  unfold r56IsrTransmitData
  dsimp only
  split
  · exact cleared.trans (uscStopTransmitter_idle _)
  split
  · exact cleared.trans (fed _)
  · exact cleared.trans (fed _)

theorem receiveChars_idle (chars : List (U8 × U16)) (info : R56Struct) (work : Nat) :
    (receiveChars chars info work).1.idle = info.idle := by
  have inserted (s : R56Struct) (dataByte : U8) (status : U16) (flag : Nat) :
      (insertChar s dataByte status flag).1.idle = s.idle := by
    unfold insertChar
    dsimp only
    split
    · rfl
    · rfl
  have bad (s : R56Struct) (dataByte : U8) (status : U16) : (receiveBadChar s dataByte status).1.idle = s.idle := by
    have purged (u : Usc) : ({ s with usc := purgeOnOverrun u status } : R56Struct).idle =
        ({ s with usc := u } : R56Struct).idle := by
      unfold purgeOnOverrun
      split
      · rfl
      · rfl
    unfold receiveBadChar
    dsimp only
    split
    · exact purged _
    · exact (inserted _ _ _ _).trans (purged _)
  induction chars generalizing info work with
  | nil => rfl
  | cons char rest ih =>
    have received : (receiveChar info char.1 char.2).1.idle = info.idle := by
      unfold receiveChar
      dsimp only
      split
      · exact bad _ _ _
      · exact inserted _ _ _ _
    exact (ih _ _).trans received

theorem r56IsrReceiveData_idle (info : R56Struct) : (r56IsrReceiveData info).idle = info.idle := by
  have received (u : Usc) : (receiveChars u.rxFifo { info with usc := { u with rxFifo := [] } } 0).1.idle =
      ({ info with usc := u } : R56Struct).idle := receiveChars_idle _ _ _
  unfold r56IsrReceiveData
  dsimp only
  split
  · exact received _
  · exact received _

theorem serviceInterrupt_idle (info : R56Struct) : Keeps info (serviceInterrupt info) := by
  have served := serviceInterrupt_serviced info
  generalize serviceInterrupt info = after at served ⊢
  cases served with
  | transmitDma _ _ =>
    have done (s : R56Struct) : (txBufferDone s).idle = s.idle := by
      have loaded := loadNextTxHoldingBuffer_idle { s with txDmaBuffersUsed := s.txDmaBuffersUsed - 1 }
      unfold txBufferDone
      dsimp only
      split
      · exact loaded
      · exact loaded
    unfold r56IsrTransmitDma
    dsimp only
    split
    · exact .of_eq (done _)
    · exact .of_eq rfl
  | receiveDma _ _ =>
    unfold r56IsrReceiveDma
    dsimp only
    split
    · exact .of_eq rfl
    · exact .of_eq rfl
  | misc _ =>
    have halted (status : U16) : (haltOnRccUnderrun info status).idle = info.idle := by
      unfold haltOnRccUnderrun
      split
      · rfl
      · rfl
    exact .of_eq (halted _)
  | ioPin _ => exact r56IsrIoPin_idle info
  | transmitData _ => exact r56IsrTransmitData_idle info
  | transmitStatus _ => exact r56IsrTransmitStatus_idle info
  | receiveData _ => exact .of_eq (r56IsrReceiveData_idle info)
  | receiveStatus _ => exact .of_eq (r56IsrReceiveStatus_idle info)
  | null _ => exact .refl _

theorem r56Interrupt_idle (info : R56Struct) (report : UscReport) :
    Keeps info (r56Interrupt (info.reporting report)) := by
  have halted (s : R56Struct) : (haltOnOverflow s).idle = s.idle := by
    unfold haltOnOverflow
    split
    · rfl
    · rfl
  have scheduled (s : R56Struct) : (scheduleBh s).idle = s.idle := by
    unfold scheduleBh
    split
    · rfl
    · rfl
  have shown : Keeps info (info.reporting report) := .of_eq rfl
  exact shown.trans ((serviceInterrupt_idle _).trans (.of_eq ((scheduled _).trans (halted _))))

theorem r56BhTransmit_idle (info : R56Struct) : (r56BhTransmit info).idle = info.idle := by
  unfold r56BhTransmit
  split
  · rfl
  · rfl

theorem r56TxTimeout_idle (info : R56Struct) : (r56TxTimeout info).idle = info.idle := by
  have counted (s : R56Struct) : (countTxTimeout s).idle = s.idle := by
    unfold countTxTimeout
    split
    · rfl
    · rfl
  have cancelled (s : R56Struct) : (cancelLoopmodeTransmit s).idle = s.idle := by
    unfold cancelLoopmodeTransmit
    split
    · rfl
    · rfl
  have ended : (cancelLoopmodeTransmit (endTransmission (countTxTimeout { info with txTimer := false }))).idle =
      info.idle := (cancelled _).trans (counted _)
  unfold r56TxTimeout
  dsimp only
  split
  · exact ended
  · exact (r56BhTransmit_idle _).trans ended

/-- The request sets the idle mode. -/
def Op.setsIdle : Op → Prop
  | .setTxidle _ => True
  | _ => False

theorem exec_idle {info after : R56Struct} {op : Op} (free : ¬op.programs) (other : ¬op.setsIdle)
    (ran : exec info op = some after) : Keeps info after := by
  cases op with
  | setParams newParams => exact absurd trivial free
  | setTermios cCflag cIflag baudRate => exact absurd trivial free
  | setTxidle idleMode => exact absurd trivial other
  | write buf count => cases ran; exact r56Write_idle info buf count
  | putChar ch =>
    cases ran
    show Keeps info (r56PutChar info ch).1
    unfold r56PutChar
    split
    · exact .of_eq rfl
    · exact .refl _
  | flushChars => cases ran; exact r56FlushChars_idle info
  | flushBuffer => cases ran; exact .of_eq rfl
  | stop =>
    cases ran
    show Keeps info (r56Stop info)
    unfold r56Stop
    split
    · exact uscStopTransmitter_idle info
    · exact .refl _
  | start => cases ran; exact r56Start_idle info
  | sendXchar ch => cases ran; exact r56SendXchar_idle info ch
  | throttle => cases ran; exact r56Throttle_idle info
  | unthrottle => cases ran; exact r56Unthrottle_idle info
  | txenable enable => cases ran; exact r56Txenable_idle info enable
  | rxenable enable => cases ran; exact .of_eq (r56Rxenable_idle info enable)
  | txabort => cases ran; exact r56Txabort_idle info
  | loopmodeSendDone =>
    cases ran
    show Keeps info (r56LoopmodeSendDone info)
    unfold r56LoopmodeSendDone
    split
    · split
      · exact .of_eq rfl
      · exact .of_eq rfl
    · exact .refl _
  | tiocmset set clear => cases ran; exact .of_eq rfl
  | dtrRts on => cases ran; exact .of_eq rfl
  | setBreak on => cases ran; exact .of_eq rfl
  | interrupt report => cases ran; exact r56Interrupt_idle info report
  | bhReceive => exact .of_eq (r56BhReceive_idle ran)
  | bhTransmit => cases ran; exact .of_eq (r56BhTransmit_idle info)
  | bhStatus => cases ran; exact .of_eq rfl
  | txTimeout => cases ran; exact .of_eq (r56TxTimeout_idle info)
  | flow stopped hwStopped => cases ran; exact .of_eq rfl
  | reception list rxDma => cases ran; exact .of_eq rfl

/-- The shadow of TCSR and the last value written to TCSR. -/
def Usc.tcsr (u : Usc) : U16 × U16 := (u.tcsrValue, u.reg .tcsr)

theorem idle_of_tcsr {s : R56Struct} {u v : Usc} (same : u.tcsr = v.tcsr) :
    ({ s with usc := u } : R56Struct).idle = ({ s with usc := v } : R56Struct).idle := by
  have value : u.tcsrValue = v.tcsrValue := congrArg Prod.fst same
  have written : u.reg .tcsr = v.reg .tcsr := congrArg Prod.snd same
  unfold R56Struct.idle
  dsimp only
  rw [value, written]

theorem uscSetInterface_idle (info : R56Struct) : (uscSetInterface info).idle = info.idle := by
  unfold uscSetInterface
  split
  · rfl
  · rfl

theorem programClockMode_tcsr (info : R56Struct) (u : Usc) : (programClockMode info u).tcsr = u.tcsr := by
  unfold programClockMode
  dsimp only
  repeat' split
  all_goals rfl

theorem programHardwareConfiguration_tcsr (info : R56Struct) (u : Usc) :
    (programHardwareConfiguration info u).tcsr = u.tcsr := by
  unfold programHardwareConfiguration
  dsimp only
  split
  · rfl
  · rfl

theorem programDma_tcsr (info : R56Struct) (u : Usc) : (programDma info u).tcsr = u.tcsr := by
  unfold programDma
  dsimp only
  split
  · split <;> rfl
  · split <;> rfl

theorem uscEnableLoopback_tcsr (info : R56Struct) (enable : Bool) (u : Usc) :
    (uscEnableLoopback info enable u).tcsr = u.tcsr := by
  unfold uscEnableLoopback
  cases enable with
  | true => rfl
  | false => rfl

theorem uscEnableAuxClock_tcsr (info : R56Struct) (dataRate : Nat) (u : Usc) :
    (uscEnableAuxClock info dataRate u).tcsr = u.tcsr := by
  unfold uscEnableAuxClock
  split
  · rfl
  · rfl

theorem uscEnableAsyncClock_tcsr (info : R56Struct) (dataRate : Nat) (u : Usc) :
    (uscEnableAsyncClock info dataRate u).tcsr = u.tcsr := by
  unfold uscEnableAsyncClock
  split
  · rfl
  · rfl

theorem enableIsaInten_tcsr (info : R56Struct) (u : Usc) : (enableIsaInten info u).tcsr = u.tcsr := by
  unfold enableIsaInten
  split
  · rfl
  · rfl

theorem codes_of_tcsr {s : R56Struct} {value code : U16} (tcsr : s.usc.tcsr = (value, value))
    (clear : value.toNat % 256 = 0) (field : value &&& idlemodeMask = code) : s.idle.Codes code := by
  have shadow : s.usc.tcsrValue = value := congrArg Prod.fst tcsr
  have written : s.usc.reg .tcsr = value := congrArg Prod.snd tcsr
  refine ⟨?_, ?_, ?_⟩
  · rw [R56Struct.idle, shadow]
    exact clear
  · rw [R56Struct.idle, shadow]
    exact field
  · rw [R56Struct.idle, written]
    exact field

/-- `usc_set_sdlc_mode` leaves the code for flags, whatever mode was requested. -/
theorem uscSetSdlcMode_idle (info : R56Struct) : (uscSetSdlcMode info).idle.Codes idlemodeFlags := by
  -- programming the transmitter, the shadow starts from nothing again
  have transmitter (pre : Bool) (u v : Usc) (same : v.tcsr = (programTransmitter info pre u).tcsr) :
      ({ info with usc := v } : R56Struct).idle.Codes idlemodeFlags := by
    cases pre with
    | true =>
      have tcsr : v.tcsr = (0, 0) := same
      exact codes_of_tcsr (s := { info with usc := v }) tcsr (by decide) (by decide)
    | false =>
      have tcsr : v.tcsr = (tcsrUnderwait, tcsrUnderwait) := same
      exact codes_of_tcsr (s := { info with usc := v }) tcsr (by decide) (by decide)
  have rest (u : Usc) : (programPreamble info (programDma info (programHardwareConfiguration info
      (programClockMode info u)))).tcsr = u.tcsr :=
    (programDma_tcsr _ _).trans ((programHardwareConfiguration_tcsr _ _).trans (programClockMode_tcsr _ _))
  have stopped (s : R56Struct) : Keeps s (uscStopReceiver (uscStopTransmitter s)) :=
    (uscStopTransmitter_idle s).trans (.of_eq (uscStopReceiver_idle _))
  unfold uscSetSdlcMode
  dsimp only
  rw [uscSetInterface_idle]
  exact (stopped _).codes (transmitter _ _ _ (rest _))

theorem uscLoopbackFrame_idle (info : R56Struct) : (uscLoopbackFrame info).idle.Codes idlemodeFlags := by
  have sdlc := uscSetSdlcMode_idle { info with
    params := { info.params with mode := r56ModeHdlc }, usc := uscDisableMasterIrqBit info.usc }
  unfold uscLoopbackFrame
  dsimp only
  generalize uscSetSdlcMode _ = after at sdlc ⊢
  have sent (u : Usc) (params : R56Params) (value : u.tcsrValue = after.usc.tcsrValue) :
      Keeps after { after with
        usc := uscEnableMasterIrqBit (uscEnableLoopback after false
          (uscEnableTransmitter (uscTCmd u tCmdSendFrame) enableUnconditional))
        params := params } := by
    refine Keeps.command rfl value (b := tCmdSendFrame) (by decide) ?_
    rw [← value]
    rfl
  refine (sent _ _ ?_).codes sdlc
  exact congrArg Prod.fst (uscEnableLoopback_tcsr after true after.usc)

theorem uscSetSyncMode_idle (info : R56Struct) : (uscSetSyncMode info).idle.Codes idlemodeFlags := by
  have sdlc := uscSetSdlcMode_idle (uscLoopbackFrame info)
  unfold uscSetSyncMode
  dsimp only
  generalize uscSetSdlcMode _ = after at sdlc ⊢
  have clocked : (uscEnableAuxClock after (after.params.clockSpeed % 2 ^ 32) (enableIsaInten after after.usc)).tcsr =
      after.usc.tcsr := (uscEnableAuxClock_tcsr _ _ _).trans (enableIsaInten_tcsr _ _)
  split
  · rw [idle_of_tcsr ((uscEnableLoopback_tcsr _ _ _).trans clocked)]
    exact sdlc
  · rw [idle_of_tcsr clocked]
    exact sdlc

theorem add_field {others bits : Nat} (inField : bits / 256 % 8 * 256 = bits) (outside : others % 2048 = 0) :
    (others + bits) % 65536 / 256 % 8 * 256 = bits := by
  obtain ⟨k, rfl⟩ := Nat.dvd_of_mod_eq_zero outside
  have small : bits / 256 < 8 := by omega
  generalize bits / 256 = field at inField small
  rw [Nat.mod_eq_of_lt small] at inField
  subst inField
  omega

/-- The idle field of a word replaced. -/
theorem idle_replace {value bits : U16} (clear : value.toNat % 256 = 0) (bitsClear : bits.toNat % 256 = 0)
    (inField : bits &&& idlemodeMask = bits) :
    ((value &&& ~~~idlemodeMask) + bits).toNat % 256 = 0 ∧
      ((value &&& ~~~idlemodeMask) + bits) &&& idlemodeMask = bits := by
  have field := congrArg BitVec.toNat inField
  rw [idle_toNat] at field
  -- what is left of the word has nothing in the idle field
  have rest : value.toNat = (value &&& ~~~idlemodeMask).toNat + (value &&& idlemodeMask).toNat := by
    have apart : (value &&& ~~~idlemodeMask) &&& (value &&& idlemodeMask) = 0 := by
      refine BitVec.eq_of_getLsbD_eq fun i hi => ?_
      simp only [BitVec.getLsbD_and, BitVec.getLsbD_not]
      cases value.getLsbD i <;> cases idlemodeMask.getLsbD i <;> simp
    have whole : (value &&& ~~~idlemodeMask) + (value &&& idlemodeMask) = value := by
      rw [BitVec.add_eq_or_of_and_eq_zero _ _ apart, ← BitVec.and_or_distrib_left, BitVec.or_comm,
        BitVec.or_not_self, BitVec.and_allOnes]
    have sum := BitVec.toNat_add_of_and_eq_zero apart
    rw [whole] at sum
    exact sum
  rw [idle_toNat] at rest
  have sum := BitVec.toNat_add (value &&& ~~~idlemodeMask) bits
  generalize (value &&& ~~~idlemodeMask) = others at rest sum ⊢
  clear inField
  have outside : others.toNat % 2048 = 0 := by omega
  refine ⟨by omega, BitVec.eq_of_toNat_eq ((idle_toNat _).trans ?_)⟩
  rw [sum]
  exact add_field field outside

theorem programIdleMode_codes {s : R56Struct} (clear : s.usc.tcsrValue.toNat % 256 = 0) (mode : Nat) :
    ({ s with usc := programIdleMode s.usc (idleModeBits mode) } : R56Struct).idle.Codes (idleModeBits mode) := by
  obtain ⟨bitsClear, inField⟩ := idleModeBits_outside mode
  obtain ⟨value, field⟩ := idle_replace clear bitsClear inField
  exact ⟨value, field, field⟩

theorem uscSetTxidle_codes {s info : R56Struct} (clear : s.usc.tcsrValue.toNat % 256 = 0) :
    ({ s with usc := uscSetTxidle info s.usc } : R56Struct).idle.Codes (idleModeBits info.idleMode) := by
  have programmed := programIdleMode_codes clear info.idleMode
  unfold uscSetTxidle
  dsimp only
  split
  · exact programmed
  · exact programmed

theorem uscSetAsyncMode_idle (info : R56Struct) : (uscSetAsyncMode info).idle.matched := by
  have looped (u : Usc) := uscLoopbackFrame_idle { info with usc := u }
  unfold uscSetAsyncMode Idle.matched
  dsimp only
  rw [uscSetInterface_idle]
  generalize after_eq : uscLoopbackFrame _ = after
  have flags : after.idle.Codes idlemodeFlags := by
    rw [← after_eq]
    exact looped _
  -- the idle mode is put into a shadow that holds only the flags code
  generalize before : uscOutReg _ .tmr _ = u
  have value : u.tcsrValue = after.usc.tcsrValue := by
    rw [← before]
    rfl
  have idled : ({ after with usc := uscSetTxidle after u } : R56Struct).idle.Codes (idleModeBits after.idleMode) := by
    have clear : u.tcsrValue.toNat % 256 = 0 := by
      rw [value]
      exact flags.clear
    exact uscSetTxidle_codes (s := { after with usc := u }) clear
  generalize uscSetTxidle after u = v at idled ⊢
  have finished (w : Usc) (tcsr : w.tcsr = (v.tcsrValue, v.tcsrValue + (txstatusAll &&& 0x00ff))) :
      Keeps { after with usc := v } { after with usc := w } :=
    Keeps.command rfl (congrArg Prod.fst tcsr) (lowByte_outside txstatusAll) (congrArg Prod.snd tcsr)
  have clocked (w : Usc) : (enableIsaInten after (uscEnableMasterIrqBit (uscClearIrqPendingBits
      (uscDisableInterrupts (uscOutReg (uscEnableAsyncClock after (after.params.dataRate % 2 ^ 32) w) .ccsr 0x0020)
        (transmitStatus + transmitData + receiveData + receiveStatus))
      (transmitStatus + transmitData + receiveData + receiveStatus)))).tcsr = w.tcsr :=
    (enableIsaInten_tcsr _ _).trans (uscEnableAsyncClock_tcsr after (after.params.dataRate % 2 ^ 32) w)
  refine (finished _ ((clocked _).trans ?_)).codes idled
  rfl

/-- The code programmed for the parameters in effect: a synchronous mode forgets the mode requested. -/
def R56Struct.programmedCode (info : R56Struct) : U16 :=
  match info.programBranch with
  | .frames => idlemodeFlags
  | .characters => idleModeBits info.idleMode

theorem r56ProgramHw_codes (info : R56Struct) :
    (r56ProgramHw info).idle.Codes info.programmedCode ∧ (r56ProgramHw info).idleMode = info.idleMode ∧
      (r56ProgramHw info).programBranch = info.programBranch := by
  have setup := r56ProgramHw_setup info
  have branch : (r56ProgramHw info).programBranch = info.programBranch :=
    programBranch_congr (congrArg (·.params.mode) setup) (congrArg Setup.netcount setup)
  have mode (s : R56Struct) : (programMode s).idleMode = s.idleMode ∧ (programMode s).idle.Codes s.programmedCode := by
    rw [programMode_branch]
    unfold R56Struct.programmedCode
    cases s.programBranch with
    | frames =>
      have kept := congrArg R56Struct.idleMode (uscSetSyncMode_frame s)
      exact ⟨kept, uscSetSyncMode_idle s⟩
    | characters =>
      have kept := congrArg R56Struct.idleMode (uscSetAsyncMode_frame s)
      change (uscSetAsyncMode s).idleMode = s.idleMode at kept
      have matched := uscSetAsyncMode_idle s
      unfold Idle.matched at matched
      rw [show (uscSetAsyncMode s).idle.mode = (uscSetAsyncMode s).idleMode from rfl, kept] at matched
      exact ⟨kept, matched⟩
  have signals (s : R56Struct) : (programSignals s).idle = s.idle := rfl
  have same (s : R56Struct) : (programSignals s).idleMode = s.idleMode := congrArg Idle.mode (signals s)
  obtain ⟨kept, codes⟩ := mode { uscStopTransmitter (uscStopReceiver info) with xmitCnt := 0, xmitHead := 0, xmitTail := 0 }
  refine (and_assoc.mp ⟨?_, branch⟩)
  unfold r56ProgramHw
  dsimp only
  split
  · have started := uscStartReceiver_idle (programSignals (programMode
      { uscStopTransmitter (uscStopReceiver info) with xmitCnt := 0, xmitHead := 0, xmitTail := 0 }))
    rw [started, signals]
    exact ⟨codes, (congrArg Idle.mode started).trans ((same _).trans kept)⟩
  · rw [signals]
    exact ⟨codes, (same _).trans kept⟩

theorem r56ChangeParams_codes {info : R56Struct} (attached : info.port.tty = true) :
    (r56ChangeParams info).idle.Codes info.programmedCode ∧ (r56ChangeParams info).idleMode = info.idleMode ∧
      (r56ChangeParams info).programBranch = info.programBranch := by
  unfold r56ChangeParams
  rw [if_neg (not_not.mpr attached)]
  exact r56ProgramHw_codes _

/-- The statements of `r56_set_termios` after the chip is reprogrammed. -/
theorem termios_idle (info : R56Struct) (oldCflag : U32) :
    Keeps info (leaveCrtscts (leaveB0 (enterB0 info oldCflag) oldCflag) oldCflag) := by
  have entered (s : R56Struct) : (enterB0 s oldCflag).idle = s.idle := by
    unfold enterB0
    split
    · rfl
    · rfl
  have left (s : R56Struct) : (leaveB0 s oldCflag).idle = s.idle := by
    unfold leaveB0
    dsimp only
    split
    · rfl
    · rfl
  have resumed (s : R56Struct) : Keeps s (leaveCrtscts s oldCflag) := by
    have started : Keeps s (r56Start { s with tty := { s.tty with hwStopped := false } }) :=
      r56Start_idle { s with tty := { s.tty with hwStopped := false } }
    unfold leaveCrtscts
    split
    · exact started
    · exact .refl _
  exact (KeepsIdle.of_eq ((left _).trans (entered info))).trans (resumed _)

/-- In a synchronous configuration the idle bits of `tcsr_value` and of the last value written to
TCSR are the code of `idle_mode`. -/
def R56Struct.idlePattern (info : R56Struct) : Prop :=
  info.programBranch = .frames →
    info.usc.tcsrValue &&& idlemodeMask = idleModeBits info.idleMode ∧
      info.usc.reg .tcsr &&& idlemodeMask = idleModeBits info.idleMode

/-- A step. The tty requests that reprogram the chip come through an open tty. -/
structure IdleStep (info : R56Struct) (event : ModeEvent) (after : R56Struct) : Prop where
  ran : event.run info = some after
  attached : ∀ op, event = .tty op → op.programs → info.port.tty = true

/-- The configuration after an event. -/
def ModeEvent.branchAfter (info : R56Struct) : ModeEvent → Branch
  | .tty (.setParams newParams) => ({ info with params := newParams } : R56Struct).programBranch
  | _ => info.programBranch

/-- A synchronous configuration is programmed only while flags are requested. -/
def programsFlags (info : R56Struct) (event : ModeEvent) : Prop :=
  event.programs info → event.branchAfter info = .frames → idleModeBits info.idleMode = idlemodeFlags

/-- What programming and setting the idle mode establish, and all else keeps. -/
structure IdleInv (info : R56Struct) : Prop where
  clear : info.usc.tcsrValue.toNat % 256 = 0
  async : info.programBranch = .characters → info.idle.matched

theorem IdleInv.matched {info : R56Struct} (inv : IdleInv info) (pattern : info.idlePattern) : info.idle.matched := by
  cases branch : info.programBranch with
  | characters => exact inv.async branch
  | frames => exact ⟨inv.clear, (pattern branch).1, (pattern branch).2⟩

/-- The chip programmed for a configuration. -/
structure Programmed (branch : Branch) (mode : Nat) (after : R56Struct) : Prop where
  codes : after.idle.Codes (match branch with | .frames => idlemodeFlags | .characters => idleModeBits mode)
  mode : after.idleMode = mode
  branch : after.programBranch = branch

theorem Programmed.inv {branch : Branch} {mode : Nat} {after : R56Struct} (programmed : Programmed branch mode after) :
    IdleInv after ∧ (after.idlePattern ↔ (branch = .frames → idleModeBits mode = idlemodeFlags)) := by
  obtain ⟨codes, rfl, rfl⟩ := programmed
  refine ⟨⟨codes.clear, fun async => ?_⟩, ?_⟩
  · rw [async] at codes
    exact codes
  · unfold R56Struct.idlePattern
    constructor
    · intro pattern frames
      rw [frames] at codes
      exact (pattern frames).1.symm.trans codes.value
    · intro flags frames
      rw [flags frames]
      rw [frames] at codes
      exact ⟨codes.value, codes.written⟩

theorem programIfUp_programmed {info : R56Struct} (up : info.netcount ≠ 0) :
    Programmed info.programBranch info.idleMode (programIfUp info) := by
  obtain ⟨codes, mode, branch⟩ := r56ProgramHw_codes info
  unfold programIfUp
  rw [if_pos up]
  exact ⟨codes, mode, branch⟩

/-- An event that programs the chip, by the configuration it programs. -/
theorem programs_programmed {info after : R56Struct} {event : ModeEvent} (programs : event.programs info)
    (step : IdleStep info event after) : Programmed (event.branchAfter info) info.idleMode after := by
  cases event with
  | tty op =>
    have attached := step.attached op rfl programs
    have ran : exec info op = some after := step.ran
    cases op with
    | setParams newParams =>
      cases ran
      obtain ⟨codes, mode, branch⟩ := @r56ChangeParams_codes { info with params := newParams } attached
      exact ⟨codes, mode, branch⟩
    | setTermios cCflag cIflag baudRate =>
      obtain ⟨codes, mode, branch⟩ := @r56ChangeParams_codes { info with
        tty := { info.tty with cCflag := cCflag, cIflag := cIflag, baudRate := baudRate } } attached
      have after_eq := Option.some.inj ran
      have setup := setup_kept.termios (r56ChangeParams { info with
        tty := { info.tty with cCflag := cCflag, cIflag := cIflag, baudRate := baudRate } }) info.tty.cCflag
      have kept := termios_idle (r56ChangeParams { info with
        tty := { info.tty with cCflag := cCflag, cIflag := cIflag, baudRate := baudRate } }) info.tty.cCflag
      have same : after.programBranch = (r56ChangeParams { info with
          tty := { info.tty with cCflag := cCflag, cIflag := cIflag, baudRate := baudRate } }).programBranch := by
        rw [← after_eq]
        exact programBranch_congr (congrArg (·.params.mode) setup) (congrArg Setup.netcount setup)
      refine ⟨?_, ?_, same.trans branch⟩
      · rw [← after_eq]
        exact kept.codes codes
      · rw [← after_eq]
        exact kept.mode.trans mode
    | _ => exact absurd programs id
  | hdlcdevXmit data len => exact absurd programs id
  | hdlcdevAttach newEncoding newCrctype =>
    have after_eq := Option.some.inj step.ran
    rw [← after_eq]
    exact @programIfUp_programmed { info with
      params := { info.params with encoding := newEncoding, crcType := newCrctype } } programs
  | hdlcdevIoctl flags loopback clockRate =>
    have after_eq := Option.some.inj step.ran
    rw [← after_eq]
    unfold hdlcdevIoctl
    generalize clocked : ({ info with params := _ } : R56Struct) = t
    have mode : t.params.mode = info.params.mode ∧ t.netcount = info.netcount ∧ t.idleMode = info.idleMode := by
      rw [← clocked]
      exact ⟨rfl, rfl, rfl⟩
    have programmed := programIfUp_programmed (fun down => programs (mode.2.1.symm.trans down))
    rw [programBranch_congr mode.1 mode.2.1, mode.2.2] at programmed
    exact programmed

theorem programIfUp_down {info : R56Struct} (down : ¬info.netcount ≠ 0) : programIfUp info = info := if_neg down

/-- Every other event but the request for an idle mode keeps the pattern. -/
theorem run_keeps {info after : R56Struct} {event : ModeEvent} (free : ¬event.programs info)
    (other : ∀ idleMode, event ≠ .tty (.setTxidle idleMode)) (ran : event.run info = some after) :
    Keeps info after := by
  cases event with
  | tty op =>
    refine exec_idle free (fun sets => ?_) ran
    cases op with
    | setTxidle idleMode => exact other idleMode rfl
    | _ => exact sets
  | hdlcdevXmit data len =>
    have after_eq := Option.some.inj ran
    have loaded : (r56LoadTxDmaBuffer { info with xmitCnt := len } .write data len).idle = info.idle := rfl
    rw [← after_eq]
    unfold hdlcdevXmit
    dsimp only
    split
    · exact .of_eq loaded
    · exact (KeepsIdle.of_eq loaded).trans (uscStartTransmitter_idle _)
  | hdlcdevAttach newEncoding newCrctype =>
    have after_eq := Option.some.inj ran
    rw [← after_eq]
    unfold hdlcdevAttach
    refine .of_eq ((congrArg R56Struct.idle (programIfUp_down ?_)).trans ?_)
    · exact free
    · rfl
  | hdlcdevIoctl flags loopback clockRate =>
    have after_eq := Option.some.inj ran
    rw [← after_eq]
    unfold hdlcdevIoctl
    refine .of_eq ((congrArg R56Struct.idle (programIfUp_down ?_)).trans ?_)
    · exact free
    · rfl

theorem r56SetTxidle_matched {info : R56Struct} (clear : info.usc.tcsrValue.toNat % 256 = 0) (idleMode : Nat) :
    (r56SetTxidle info idleMode).idle.matched := by
  have first := programIdleMode_codes clear info.idleMode
  exact @uscSetTxidle_codes
    { info with idleMode := idleMode, usc := programIdleMode info.usc (idleModeBits info.idleMode) }
    { info with idleMode := idleMode } first.clear

theorem matched_pattern {info : R56Struct} (matched : info.idle.matched) : IdleInv info ∧ info.idlePattern :=
  ⟨⟨matched.clear, fun _ => matched⟩, fun _ => ⟨matched.value, matched.written⟩⟩

/-- Step lemma: the pattern is lost only by programming a synchronous configuration while
another pattern than flags is requested. -/
theorem idleStep_iff {info after : R56Struct} {event : ModeEvent} (inv : IdleInv info)
    (step : IdleStep info event after) :
    IdleInv after ∧ (info.idlePattern → (after.idlePattern ↔ programsFlags info event)) := by
  by_cases programs : event.programs info
  · obtain ⟨kept, pattern⟩ := (programs_programmed programs step).inv
    refine ⟨kept, fun _ => pattern.trans ?_⟩
    unfold programsFlags
    exact ⟨fun flags _ => flags, fun flags => flags programs⟩
  · have quiet : programsFlags info event := fun programmed => absurd programmed programs
    by_cases sets : ∃ idleMode, event = .tty (.setTxidle idleMode)
    · obtain ⟨idleMode, rfl⟩ := sets
      have after_eq : r56SetTxidle info idleMode = after := Option.some.inj step.ran
      obtain ⟨kept, pattern⟩ := matched_pattern (r56SetTxidle_matched inv.clear idleMode)
      rw [← after_eq]
      exact ⟨kept, fun _ => iff_of_true pattern quiet⟩
    · have keeps := run_keeps programs (fun idleMode same => sets ⟨idleMode, same⟩) step.ran
      have params : ∀ newParams, event ≠ .tty (.setParams newParams) := by
        rintro newParams rfl
        exact programs trivial
      obtain ⟨mode, up⟩ := run_mode step.ran params
      have branch := programBranch_congr mode up
      have clear : after.usc.tcsrValue.toNat % 256 = 0 := by
        rw [show after.usc.tcsrValue = info.usc.tcsrValue from keeps.value]
        exact inv.clear
      refine ⟨⟨clear, fun async => keeps.matched (inv.async (branch.symm.trans async))⟩, fun pattern => ?_⟩
      exact iff_of_true (matched_pattern (keeps.matched (inv.matched pattern))).2 quiet

/-- In every run from the programming of the chip, the programmed idle pattern is the one requested
in every state exactly when synchronous configurations are programmed only while flags are
requested. -/
theorem idle_pattern_requested_iff {info : R56Struct} {run : List (ModeEvent × R56Struct)}
    (steps : Run IdleStep (r56ProgramHw info) run) :
    (r56ProgramHw info).idlePattern ∧ (∀ x ∈ run, x.2.idlePattern) ↔
      (info.programBranch = .frames → idleModeBits info.idleMode = idlemodeFlags) ∧
        Run (fun s event _ => programsFlags s event) (r56ProgramHw info) run := by
  obtain ⟨codes, mode, branch⟩ := r56ProgramHw_codes info
  have programmed : Programmed info.programBranch info.idleMode (r56ProgramHw info) := ⟨codes, mode, branch⟩
  obtain ⟨inv, pattern⟩ := programmed.inv
  rw [← pattern]
  have exact_step : ∀ s event t, s.idlePattern → IdleInv s → IdleStep s event t →
      (t.idlePattern ↔ programsFlags s event) :=
    fun s event t matched inv step => (idleStep_iff inv step).2 matched
  have preserved : ∀ s event t, IdleInv s → IdleStep s event t → IdleInv t :=
    fun s event t inv step => (idleStep_iff inv step).1
  exact and_congr_right fun start => Run.good_iff exact_step preserved steps start inv

/-- An asynchronous port: the idle mode is set, and kept over a write and over new parameters. -/
theorem idle_pattern_requested_iff_set :
    let port := r56ProgramHw { openedDevice with params := { defaultParams with mode := r56ModeAsync } }
    let marks := r56SetTxidle port hdlcTxidleMark
    let written := (r56Write marks (fun _ => 0x55) 1).1
    let again := r56SetParams written written.params
    port.idlePattern ∧ marks.idlePattern ∧ written.idlePattern ∧ again.idlePattern := by
  intro port marks written again
  have set : IdleStep port (.tty (.setTxidle hdlcTxidleMark)) marks :=
    ⟨rfl, fun op same programs => by cases same; exact absurd programs id⟩
  have write : IdleStep marks (.tty (.write (fun _ => 0x55) 1)) written :=
    ⟨rfl, fun op same programs => by cases same; exact absurd programs id⟩
  have change : IdleStep written (.tty (.setParams written.params)) again := ⟨rfl, fun _ _ _ => by decide +kernel⟩
  have characters : ModeEvent.branchAfter written (.tty (.setParams written.params)) ≠ .frames := by decide +kernel
  have before : (R56Struct.programBranch { openedDevice with params := { defaultParams with mode := r56ModeAsync } }) ≠
      .frames := by decide +kernel
  have quiet : Run (fun s event _ => programsFlags s event) port [(.tty (.setTxidle hdlcTxidleMark), marks),
      (.tty (.write (fun _ => 0x55) 1), written), (.tty (.setParams written.params), again)] :=
    ⟨fun programs => absurd programs id, fun programs => absurd programs id, fun _ frames => absurd frames characters,
      trivial⟩
  have steps : Run IdleStep port [(.tty (.setTxidle hdlcTxidleMark), marks), (.tty (.write (fun _ => 0x55) 1), written),
      (.tty (.setParams written.params), again)] := ⟨set, write, change, trivial⟩
  obtain ⟨programmed, kept⟩ := (idle_pattern_requested_iff steps).mpr ⟨fun frames => absurd frames before, quiet⟩
  exact ⟨programmed, kept (.tty (.setTxidle hdlcTxidleMark), marks) List.mem_cons_self,
    kept (.tty (.write (fun _ => 0x55) 1), written) (.tail _ List.mem_cons_self),
    kept (.tty (.setParams written.params), again) (.tail _ (.tail _ List.mem_cons_self))⟩

/-- Marks are requested on an HDLC port and its parameters are set again: the chip idles with flags,
and the request still reports marks. -/
theorem reprogrammed_idle_flags :
    let marks := r56SetTxidle (r56ProgramHw openedDevice) hdlcTxidleMark
    let again := r56SetParams marks marks.params
    Run IdleStep (r56ProgramHw openedDevice)
        [(.tty (.setTxidle hdlcTxidleMark), marks), (.tty (.setParams marks.params), again)] ∧
      ¬again.idlePattern := by
  intro marks again
  have first : IdleStep (r56ProgramHw openedDevice) (.tty (.setTxidle hdlcTxidleMark)) marks :=
    ⟨rfl, fun op same programs => by cases same; exact absurd programs id⟩
  have second : IdleStep marks (.tty (.setParams marks.params)) again := ⟨rfl, fun _ _ _ => by decide⟩
  refine ⟨⟨first, second, trivial⟩, fun pattern => ?_⟩
  have requested := (pattern (by decide +kernel)).1
  exact absurd requested (by decide +kernel)

end Route56
