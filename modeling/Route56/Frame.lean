import Route56.Configuration

namespace Route56

/-- `info` without the fields of the receive side. Such a frame erases what a group of functions may change; that a
function keeps the frame says that every other field has its old value. -/
def R56Struct.exceptReceiver (info : R56Struct) : R56Struct :=
  { info with
    usc := {}, icount := {}
    rxBufferList := fun _ => {}, currentRxBuffer := 0
    rxEnabled := false, rxOverflow := false, rxRccUnderrun := false
    history := { info.history with ldisc := [], netRx := [], rxStarts := [] } }

theorem uscStopReceiver_frame (info : R56Struct) :
    (uscStopReceiver info).exceptReceiver = info.exceptReceiver := rfl

theorem uscStartReceiver_frame (info : R56Struct) :
    (uscStartReceiver info).exceptReceiver = info.exceptReceiver := by
  simp only [R56Struct.exceptReceiver, uscStartReceiver, uscStopReceiver, r56ResetRxDmaBuffers]

theorem overrunDiscard_frame (info : R56Struct) :
    (overrunDiscard info).1.exceptReceiver = info.exceptReceiver := by
  unfold overrunDiscard
  dsimp only
  split
  · rfl
  · split <;> rfl

theorem uscProcessRxoverrunSync_frame (info : R56Struct) :
    (uscProcessRxoverrunSync info).exceptReceiver = info.exceptReceiver := by
  have discard := overrunDiscard_frame info
  unfold uscProcessRxoverrunSync
  dsimp only
  split
  · exact discard
  · exact discard

/-- `info` without the counters and the record of what was passed on. -/
def R56Struct.exceptDelivery (info : R56Struct) : R56Struct :=
  { info with icount := {}, history := { info.history with ldisc := [], netRx := [] } }

theorem countBadFrame_frame (info : R56Struct) (status : U16) :
    (countBadFrame info status).exceptDelivery = info.exceptDelivery := by
  unfold countBadFrame
  split <;> rfl

theorem passRxFrame_frame (info : R56Struct) (status : U16) (data : List U8) :
    (passRxFrame info status data).exceptDelivery = info.exceptDelivery := by
  unfold passRxFrame
  dsimp only
  split <;> split <;> rfl

theorem deliverRxFrame_frame (info : R56Struct) (startIndex endIndex : Nat) :
    (deliverRxFrame info startIndex endIndex).exceptDelivery = info.exceptDelivery := by
  have counted := countBadFrame_frame info (info.rxBufferList endIndex).status
  unfold deliverRxFrame
  dsimp only
  split
  · exact counted
  · split
    · exact counted
    · exact (passRxFrame_frame _ _ _).trans counted

theorem deliverRawFrame_frame (info : R56Struct) (index : Nat) :
    (deliverRawFrame info index).exceptDelivery = info.exceptDelivery := by
  have counted := countBadFrame_frame info (info.rxBufferList index).status
  unfold deliverRawFrame
  dsimp only
  split
  · exact counted
  · exact counted

theorem exceptReceiver_of_exceptDelivery {s t : R56Struct} (frame : t.exceptDelivery = s.exceptDelivery) :
    t.exceptReceiver = s.exceptReceiver := by
  have same := congrArg R56Struct.exceptReceiver frame
  exact same

theorem r56FreeRxFrameBuffers_frame (info : R56Struct) (startIndex endIndex : Nat) :
    (r56FreeRxFrameBuffers info startIndex endIndex).exceptReceiver = info.exceptReceiver := by
  simp only [R56Struct.exceptReceiver, r56FreeRxFrameBuffers]

theorem restartOnOverflow_frame (info : R56Struct) (index : Nat) :
    (restartOnOverflow info index).exceptReceiver = info.exceptReceiver := by
  unfold restartOnOverflow
  split
  · split
    · exact uscStartReceiver_frame info
    · rfl
  · rfl

theorem r56GetRxFrame_frame (info : R56Struct) :
    (r56GetRxFrame info).1.exceptReceiver = info.exceptReceiver := by
  unfold r56GetRxFrame
  dsimp only
  split
  · exact (restartOnOverflow_frame _ _).trans
      ((r56FreeRxFrameBuffers_frame _ _ _).trans (exceptReceiver_of_exceptDelivery (deliverRxFrame_frame _ _ _)))
  · exact restartOnOverflow_frame _ _
  · refine (restartOnOverflow_frame _ _).trans ?_
    split
    · exact uscStartReceiver_frame info
    · rfl

theorem r56GetRawRxFrame_frame (info : R56Struct) :
    (r56GetRawRxFrame info).1.exceptReceiver = info.exceptReceiver := by
  unfold r56GetRawRxFrame
  dsimp only
  split
  · exact (restartOnOverflow_frame _ _).trans
      ((r56FreeRxFrameBuffers_frame _ _ _).trans (exceptReceiver_of_exceptDelivery (deliverRawFrame_frame _ _)))
  · exact restartOnOverflow_frame _ _

theorem getRxFrame_frame (mode info : R56Struct) :
    (getRxFrame mode info).1.exceptReceiver = info.exceptReceiver := by
  unfold getRxFrame
  split
  · exact r56GetRxFrame_frame info
  · exact r56GetRawRxFrame_frame info

/-- The bottom half changes the receive side only. -/
theorem r56BhReceive_frame {info after : R56Struct} (returned : r56BhReceive info = some after) :
    after.exceptReceiver = info.exceptReceiver := by
  have loop : ∀ (fuel : Nat) (mode start : R56Struct),
      r56BhReceiveLoop (getRxFrame mode) fuel start = some after → after.exceptReceiver = start.exceptReceiver := by
    intro fuel mode
    induction fuel with
    | zero => intro start h; simp [r56BhReceiveLoop] at h
    | succ fuel ih =>
      intro start h
      unfold r56BhReceiveLoop at h
      split at h
      · cases h
        exact uscStartReceiver_frame start
      · split at h
        · exact (ih _ h).trans (getRxFrame_frame mode start)
        · cases h
          exact getRxFrame_frame mode start
  exact loop _ _ _ returned

/-- `info` without the fields that starting or stopping the transmitter may change. -/
def R56Struct.exceptTransmitter (info : R56Struct) : R56Struct :=
  { info with
    usc := {}, icount := {}
    rxEnabled := false, rxOverflow := false, rxRccUnderrun := false
    xmitTail := 0, xmitCnt := 0, xChar := 0
    serialSignals := 0, dropRtsOnTxDone := false, enableRxOnTxDone := false
    txBufferList := fun _ => {}, txTimer := false, txEnabled := false, txActive := false
    history := { info.history with txData := [] } }

theorem uscStopTransmitter_frame (info : R56Struct) :
    (uscStopTransmitter info).exceptTransmitter = info.exceptTransmitter := rfl

theorem assertAutoRts_frame (info : R56Struct) :
    (assertAutoRts info).exceptTransmitter = info.exceptTransmitter := by
  have raised (s : R56Struct) : (raiseRts s).exceptTransmitter = s.exceptTransmitter := by
    unfold raiseRts
    split
    · rfl
    · rfl
  have read (s : R56Struct) : (uscGetSerialSignals s).exceptTransmitter = s.exceptTransmitter := rfl
  unfold assertAutoRts
  dsimp only
  split
  · exact (raised _).trans (read _)
  · rfl

theorem ignoreEcho_frame (info : R56Struct) : (ignoreEcho info).exceptTransmitter = info.exceptTransmitter := by
  have silenced (s : R56Struct) : (silenceReceiver s).exceptTransmitter = s.exceptTransmitter := by
    unfold silenceReceiver
    split
    · rfl
    · rfl
  unfold ignoreEcho
  dsimp only
  split
  · exact silenced _
  · rfl

theorem loadTxfifoStep_frame (info : R56Struct) (fifocount : Nat) :
    (loadTxfifoStep info fifocount).exceptTransmitter = info.exceptTransmitter := by
  unfold loadTxfifoStep
  dsimp only
  split
  · rfl
  · split <;> rfl

/-- A relation that composes and holds of one pass of `usc_load_txfifo` holds across it. -/
theorem uscLoadTxfifo_kept {R : R56Struct → R56Struct → Prop} (refl : ∀ s, R s s)
    (trans : ∀ {s t u}, R s t → R t u → R s u)
    (readings : ∀ (s : R56Struct) (rest : List Nat), R s { s with usc := { s.usc with txFifo := rest } })
    (select : ∀ s : R56Struct, R s { s with usc := uscTCmd s.usc tCmdSelectTicrTxFifostatus })
    (step : ∀ (s : R56Struct) (fifocount : Nat), R s (loadTxfifoStep s fifocount)) (info : R56Struct) :
    R info (uscLoadTxfifo info) := by
  have loop (rest : List Nat) (s : R56Struct) : R s (loadTxfifoLoop rest s) := by
    induction rest generalizing s with
    | nil => exact readings s []
    | cons fifocount rest ih =>
      unfold loadTxfifoLoop
      split
      · exact trans (step s fifocount) (ih _)
      · exact readings s rest
  unfold uscLoadTxfifo
  split
  · exact refl info
  · exact trans (select info) (loop _ _)

theorem uscLoadTxfifo_frame (info : R56Struct) : (uscLoadTxfifo info).exceptTransmitter = info.exceptTransmitter :=
  uscLoadTxfifo_kept (R := fun s t => t.exceptTransmitter = s.exceptTransmitter) (fun _ => rfl)
    (fun first second => second.trans first) (fun _ _ => rfl) (fun _ => rfl) loadTxfifoStep_frame info

theorem startAsyncTransmitter_frame (info : R56Struct) :
    (startAsyncTransmitter info).exceptTransmitter = info.exceptTransmitter := by
  unfold startAsyncTransmitter
  dsimp only
  split
  · rfl
  · exact uscLoadTxfifo_frame _

theorem startTxDma_frame (info : R56Struct) : (startTxDma info).exceptTransmitter = info.exceptTransmitter := rfl

theorem feedTransmitter_frame (info : R56Struct) :
    (feedTransmitter info).exceptTransmitter = info.exceptTransmitter := by
  unfold feedTransmitter
  split
  · exact startAsyncTransmitter_frame info
  · exact startTxDma_frame info

/-- What precedes the transmission proper. -/
theorem prepareXmit_frame (info : R56Struct) :
    (ignoreEcho (assertAutoRts info)).exceptTransmitter = info.exceptTransmitter :=
  (ignoreEcho_frame _).trans (assertAutoRts_frame info)

/-- A relation that composes and holds of what `usc_start_transmitter` does apart from sending. -/
structure KeptPrepare (R : R56Struct → R56Struct → Prop) : Prop where
  refl : ∀ s, R s s
  trans : ∀ {s t u}, R s t → R t u → R s u
  debt : ∀ (s : R56Struct) (drop : Bool), R s { s with dropRtsOnTxDone := drop }
  read : ∀ s, R s (uscGetSerialSignals s)
  raise : ∀ s : R56Struct, R s (uscSetSerialSignals { s with serialSignals := s.serialSignals ||| serialSignalRts })
  echo : ∀ (s : R56Struct) (enable : Bool), R s { s with enableRxOnTxDone := enable }
  silence : ∀ s, R s (uscStopReceiver s)
  active : ∀ s : R56Struct, R s { s with txActive := true }
  enable : ∀ (s : R56Struct) (value : U16), R s { s with usc := uscEnableTransmitter s.usc value, txEnabled := true }

namespace KeptPrepare

variable {R : R56Struct → R56Struct → Prop} (kept : KeptPrepare R)

include kept

theorem prepare (s : R56Struct) : R s (ignoreEcho (assertAutoRts s)) := by
  have raised (t : R56Struct) : R t (raiseRts t) := by
    unfold raiseRts
    split
    · exact kept.trans (kept.raise t) (kept.debt _ true)
    · exact kept.refl t
  have asserted (t : R56Struct) : R t (assertAutoRts t) := by
    unfold assertAutoRts
    dsimp only
    split
    · exact kept.trans (kept.debt t false) (kept.trans (kept.read _) (raised _))
    · exact kept.debt t false
  have silenced (t : R56Struct) : R t (silenceReceiver t) := by
    unfold silenceReceiver
    split
    · exact kept.trans (kept.silence t) (kept.echo _ true)
    · exact kept.refl t
  have ignored (t : R56Struct) : R t (ignoreEcho t) := by
    unfold ignoreEcho
    dsimp only
    split
    · exact kept.trans (kept.echo t false) (silenced _)
    · exact kept.echo t false
  exact kept.trans (asserted s) (ignored _)

theorem enableIfDisabled (s : R56Struct) : R s (enableIfDisabled s) := by
  unfold Route56.enableIfDisabled
  dsimp only
  split
  · exact kept.refl s
  · split
    · exact kept.enable s _
    · exact kept.enable s _

/-- The relation holds across `usc_start_transmitter` if it holds across what is sent. -/
theorem start {s : R56Struct} (feed : s.xmitCnt ≠ 0 →
      R (ignoreEcho (assertAutoRts s)) (feedTransmitter (ignoreEcho (assertAutoRts s)))) : R s (uscStartTransmitter s) := by
  unfold uscStartTransmitter
  split
  · rename_i queued
    exact kept.trans (kept.trans (kept.prepare s) (kept.trans (feed queued) (kept.active _))) (kept.enableIfDisabled _)
  · exact kept.enableIfDisabled s

end KeptPrepare

theorem sendXmit_frame (info : R56Struct) : (sendXmit info).exceptTransmitter = info.exceptTransmitter := by
  have fed := (feedTransmitter_frame _).trans (prepareXmit_frame info)
  unfold sendXmit
  generalize feedTransmitter (ignoreEcho (assertAutoRts info)) = after at fed ⊢
  exact fed

theorem enableIfDisabled_frame (info : R56Struct) :
    (enableIfDisabled info).exceptTransmitter = info.exceptTransmitter := by
  unfold enableIfDisabled
  split
  · rfl
  · rfl

theorem uscStartTransmitter_frame (info : R56Struct) :
    (uscStartTransmitter info).exceptTransmitter = info.exceptTransmitter := by
  refine (enableIfDisabled_frame _).trans ?_
  split
  · exact sendXmit_frame info
  · rfl

/-- `info` without the chip and the notes taken of what it reports. -/
def R56Struct.exceptChip (info : R56Struct) : R56Struct :=
  { info with
    usc := {}, icount := {}, pendingBh := 0, idleMode := 0
    dcdChkcount := 0, ctsChkcount := 0, dsrChkcount := 0, riChkcount := 0
    inputSignalEvents := {}, irqOccurred := false
    loopmodeInsertRequested := false, loopmodeSendDoneRequested := false
    tty := { info.tty with flip := [], flipPushes := 0 } }

theorem countIoPins_frame (info : R56Struct) (status : U16) :
    (countIoPins info status).exceptChip = info.exceptChip := by
  have ri (s : R56Struct) : (countRi s status).exceptChip = s.exceptChip := by unfold countRi; split <;> rfl
  have dsr (s : R56Struct) : (countDsr s status).exceptChip = s.exceptChip := by unfold countDsr; split <;> rfl
  have dcd (s : R56Struct) : (countDcd s status).exceptChip = s.exceptChip := by unfold countDcd; split <;> rfl
  have cts (s : R56Struct) : (countCts s status).exceptChip = s.exceptChip := by unfold countCts; split <;> rfl
  exact (cts _).trans ((dcd _).trans ((dsr _).trans (ri _)))

theorem ioPinDone_frame (info : R56Struct) (status : U16) :
    (ioPinDone info status).exceptChip = info.exceptChip := by
  unfold ioPinDone
  dsimp only
  split
  · rfl
  · rfl

theorem insertChar_frame (info : R56Struct) (dataByte : U8) (status : U16) (flag : Nat) :
    (insertChar info dataByte status flag).1.exceptChip = info.exceptChip := by
  unfold insertChar
  dsimp only
  split
  · rfl
  · rfl

theorem receiveChar_frame (info : R56Struct) (dataByte : U8) (status : U16) :
    (receiveChar info dataByte status).1.exceptChip = info.exceptChip := by
  have bad (s : R56Struct) : (receiveBadChar s dataByte status).1.exceptChip = s.exceptChip := by
    unfold receiveBadChar
    dsimp only
    split
    · rfl
    · exact insertChar_frame _ _ _ _
  unfold receiveChar
  dsimp only
  split
  · exact bad _
  · exact insertChar_frame _ _ _ _

theorem r56IsrReceiveData_frame (info : R56Struct) : (r56IsrReceiveData info).exceptChip = info.exceptChip := by
  have loop (chars : List (U8 × U16)) (s : R56Struct) (work : Nat) :
      (receiveChars chars s work).1.exceptChip = s.exceptChip := by
    induction chars generalizing s work with
    | nil => rfl
    | cons char rest ih => exact (ih _ _).trans (receiveChar_frame s char.1 char.2)
  have received (u : Usc) : (receiveChars u.rxFifo { info with usc := { u with rxFifo := [] } } 0).1.exceptChip =
      info.exceptChip := loop _ _ _
  unfold r56IsrReceiveData
  dsimp only
  split
  · exact received _
  · exact received _

theorem completeInsertion_frame (info : R56Struct) (status : U16) :
    (completeInsertion info status).exceptChip = info.exceptChip := by
  unfold completeInsertion
  split
  · rfl
  · rfl

theorem haltOnOverflow_frame (info : R56Struct) : (haltOnOverflow info).exceptChip = info.exceptChip := by
  unfold haltOnOverflow
  split
  · rfl
  · rfl

theorem r56BhTransmit_frame (info : R56Struct) : (r56BhTransmit info).exceptChip = info.exceptChip := by
  unfold r56BhTransmit
  split
  · rfl
  · rfl

theorem r56BhStatus_frame (info : R56Struct) : (r56BhStatus info).exceptChip = info.exceptChip := rfl

theorem countTxTimeout_frame (info : R56Struct) : (countTxTimeout info).exceptChip = info.exceptChip := by
  unfold countTxTimeout
  split
  · rfl
  · rfl

theorem cancelLoopmodeTransmit_frame (info : R56Struct) :
    (cancelLoopmodeTransmit info).exceptChip = info.exceptChip := by
  unfold cancelLoopmodeTransmit
  split
  · rfl
  · rfl

theorem r56TxTimeout_frame (info : R56Struct) :
    (r56TxTimeout info).exceptChip = (endTransmission { info with txTimer := false }).exceptChip := by
  have counted : (endTransmission (countTxTimeout { info with txTimer := false })).exceptChip =
      (endTransmission { info with txTimer := false }).exceptChip := by
    have ended := congrArg endTransmission (countTxTimeout_frame { info with txTimer := false })
    exact ended
  have cancelled := (cancelLoopmodeTransmit_frame _).trans counted
  unfold r56TxTimeout
  dsimp only
  split
  · exact cancelled
  · exact (r56BhTransmit_frame _).trans cancelled

theorem r56Txabort_frame (info : R56Struct) : (r56Txabort info).exceptChip = info.exceptChip := by
  unfold r56Txabort
  split
  · split
    · rfl
    · rfl
  · rfl

theorem r56LoopmodeSendDone_frame (info : R56Struct) :
    (r56LoopmodeSendDone info).exceptChip = info.exceptChip := by
  unfold r56LoopmodeSendDone
  split
  · split
    · rfl
    · rfl
  · rfl

theorem uscLoopmodeInsertRequest_frame (info : R56Struct) :
    (uscLoopmodeInsertRequest info).exceptChip = info.exceptChip := rfl

theorem r56SetTxidle_frame (info : R56Struct) (idleMode : Nat) :
    (r56SetTxidle info idleMode).exceptChip = info.exceptChip := rfl

theorem r56Break_frame (info : R56Struct) (on : Bool) : (r56Break info on).exceptChip = info.exceptChip := rfl

/-- `info` without the fields of `exceptChip`, of the receive side and of bottom half scheduling. -/
def R56Struct.exceptReception (info : R56Struct) : R56Struct :=
  { info.exceptChip.exceptReceiver with taskQueued := false, bhRequested := false }

theorem exceptReception_of_exceptChip {s t : R56Struct} (frame : t.exceptChip = s.exceptChip) :
    t.exceptReception = s.exceptReception := by
  have same := congrArg R56Struct.exceptReception frame
  exact same

theorem exceptReception_of_exceptReceiver {s t : R56Struct} (frame : t.exceptReceiver = s.exceptReceiver) :
    t.exceptReception = s.exceptReception := by
  have same := congrArg R56Struct.exceptReception frame
  exact same

theorem recoverOverrun_frame (info : R56Struct) (status : U16) :
    (recoverOverrun info status).exceptReceiver = info.exceptReceiver := by
  unfold recoverOverrun
  split
  · exact uscProcessRxoverrunSync_frame _
  · rfl

theorem r56IsrReceiveStatus_frame (info : R56Struct) :
    (r56IsrReceiveStatus info).exceptReception = info.exceptReception := by
  have inserted := exceptReception_of_exceptChip (completeInsertion_frame info (uscInReg info.usc .rcsr))
  have recovered (s : R56Struct) (status : U16) :=
    exceptReception_of_exceptReceiver (recoverOverrun_frame s status)
  exact (recovered _ _).trans inserted

theorem r56IsrReceiveDma_frame (info : R56Struct) :
    (r56IsrReceiveDma info).exceptReception = info.exceptReception := by
  unfold r56IsrReceiveDma
  dsimp only
  split
  · rfl
  · rfl

theorem r56IsrMisc_frame (info : R56Struct) : (r56IsrMisc info).exceptReception = info.exceptReception := by
  have halted (status : U16) : (haltOnRccUnderrun info status).exceptReception = info.exceptReception := by
    unfold haltOnRccUnderrun
    split
    · rfl
    · rfl
  exact halted _

theorem scheduleBh_frame (info : R56Struct) : (scheduleBh info).exceptReception = info.exceptReception := by
  unfold scheduleBh
  split
  · rfl
  · rfl

/-- The routine that serves an interrupt, by what the vector registers read. -/
inductive Serviced (info : R56Struct) : R56Struct → Prop
  | transmitDma (vector : info.uscVector = 0) (dma : uscInDmaReg info.usc .divr &&& (bit10 ||| bit9) = bit10) :
      Serviced info (r56IsrTransmitDma info)
  | receiveDma (vector : info.uscVector = 0) (dma : uscInDmaReg info.usc .divr &&& (bit10 ||| bit9) ≠ bit10) :
      Serviced info (r56IsrReceiveDma info)
  | misc (vector : info.uscVector = 1) : Serviced info (r56IsrMisc info)
  | ioPin (vector : info.uscVector = 2) : Serviced info (r56IsrIoPin info)
  | transmitData (vector : info.uscVector = 3) : Serviced info (r56IsrTransmitData info)
  | transmitStatus (vector : info.uscVector = 4) : Serviced info (r56IsrTransmitStatus info)
  | receiveData (vector : info.uscVector = 5) : Serviced info (r56IsrReceiveData info)
  | receiveStatus (vector : info.uscVector = 6) : Serviced info (r56IsrReceiveStatus info)
  | null (vector : 6 < info.uscVector) : Serviced info info

theorem serviceInterrupt_serviced (info : R56Struct) : Serviced info (serviceInterrupt info) := by
  unfold serviceInterrupt
  dsimp only
  split
  · rename_i usc
    generalize read : info.uscVector = vector at usc
    unfold uscIsrTable
    split
    · exact .misc read
    · exact .ioPin read
    · exact .transmitData read
    · exact .transmitStatus read
    · exact .receiveData read
    · exact .receiveStatus read
    · exact .null (by grind)
  · rename_i usc
    split
    · rename_i dma
      exact .transmitDma (not_not.mp usc) dma
    · rename_i dma
      exact .receiveDma (not_not.mp usc) dma

/-- `info` without the fields that programming the chip for a mode may change. -/
def R56Struct.exceptSettings (info : R56Struct) : R56Struct :=
  { info with
    usc := {}, params := { info.params with interface := 0 }
    rxEnabled := false, rxOverflow := false, rxRccUnderrun := false
    txTimer := false, txEnabled := false, txActive := false }

theorem uscSetInterface_frame (info : R56Struct) : (uscSetInterface info).exceptSettings = info.exceptSettings := by
  unfold uscSetInterface
  split
  · rfl
  · rfl

theorem uscSetInterface_txActive (info : R56Struct) : (uscSetInterface info).txActive = info.txActive := by
  unfold uscSetInterface
  split
  · rfl
  · rfl

theorem uscSetSdlcMode_frame (info : R56Struct) : (uscSetSdlcMode info).exceptSettings = info.exceptSettings := by
  refine (uscSetInterface_frame _).trans ?_
  simp only [R56Struct.exceptSettings, uscStopReceiver, uscStopTransmitter]

theorem uscSetSdlcMode_txActive (info : R56Struct) : (uscSetSdlcMode info).txActive = false :=
  uscSetInterface_txActive _

theorem uscLoopbackFrame_frame (info : R56Struct) :
    (uscLoopbackFrame info).exceptSettings = info.exceptSettings := by
  have sdlc := uscSetSdlcMode_frame { info with
    params := { info.params with mode := r56ModeHdlc }, usc := uscDisableMasterIrqBit info.usc }
  have restore := congrArg
    (fun s : R56Struct => { s with params := { s.params with mode := info.params.mode } }) sdlc
  exact restore

theorem uscLoopbackFrame_txActive (info : R56Struct) : (uscLoopbackFrame info).txActive = false := by
  unfold uscLoopbackFrame
  dsimp only
  exact uscSetSdlcMode_txActive _

theorem uscSetSyncMode_frame (info : R56Struct) :
    (uscSetSyncMode info).exceptSettings = info.exceptSettings := by
  have sdlc := (uscSetSdlcMode_frame (uscLoopbackFrame info)).trans (uscLoopbackFrame_frame info)
  unfold uscSetSyncMode
  generalize uscSetSdlcMode (uscLoopbackFrame info) = after at sdlc ⊢
  exact sdlc

theorem uscSetSyncMode_txActive (info : R56Struct) : (uscSetSyncMode info).txActive = false := by
  have sdlc := uscSetSdlcMode_txActive (uscLoopbackFrame info)
  unfold uscSetSyncMode
  generalize uscSetSdlcMode (uscLoopbackFrame info) = after at sdlc ⊢
  exact sdlc

theorem uscSetAsyncMode_frame (info : R56Struct) :
    (uscSetAsyncMode info).exceptSettings = info.exceptSettings := by
  have looped (u : Usc) : (uscLoopbackFrame { info with usc := u }).exceptSettings = info.exceptSettings :=
    uscLoopbackFrame_frame { info with usc := u }
  unfold uscSetAsyncMode
  refine (uscSetInterface_frame _).trans ?_
  exact looped _

theorem uscSetAsyncMode_txActive (info : R56Struct) : (uscSetAsyncMode info).txActive = false := by
  unfold uscSetAsyncMode
  refine (uscSetInterface_txActive _).trans ?_
  exact uscLoopbackFrame_txActive _

end Route56
