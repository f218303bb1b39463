import Route56.Line

namespace Route56

/-- What is written to the Port Control Register and the Channel Mode Register, and the
transmit DMA channel. -/
structure ChipControl where
  pcr : U16
  pcrWrites : List U16
  cmr : U16
  cmrValue : U16
  txDma : TxDma

def Usc.control (u : Usc) : ChipControl where
  pcr := u.reg .pcr
  pcrWrites := u.pcrWrites
  cmr := u.reg .cmr
  cmrValue := u.cmrValue
  txDma := u.txDma

/-- The chip, whether the loop is to be released, and the flags of the bottom half. -/
structure Control where
  chip : ChipControl
  sendDoneRequested : Bool
  pendingBh : U32
  bhRunning : Bool
  bhRequested : Bool
  taskQueued : Bool

def R56Struct.control (info : R56Struct) : Control where
  chip := info.usc.control
  sendDoneRequested := info.loopmodeSendDoneRequested
  pendingBh := info.pendingBh
  bhRunning := info.bhRunning
  bhRequested := info.bhRequested
  taskQueued := info.taskQueued

/-- The chip and the release of the loop. -/
def R56Struct.output (info : R56Struct) : ChipControl × Bool := (info.usc.control, info.loopmodeSendDoneRequested)

theorem output_of_control {s t : R56Struct} (same : t.control = s.control) : t.output = s.output := by
  have parts := congrArg (fun c : Control => (c.chip, c.sendDoneRequested)) same
  exact parts

/-- Functions of the receive side leave the flags alone. -/
theorem control_of_exceptReceiver {s t : R56Struct} (frame : t.exceptReceiver = s.exceptReceiver)
    (chip : t.usc.control = s.usc.control) : t.control = s.control := by
  have flags := congrArg (fun r : R56Struct => { r.control with chip := s.usc.control }) frame
  have same : { t.control with chip := s.usc.control } = t.control := by
    rw [← chip]
    rfl
  exact same.symm.trans flags

theorem initRxChannel_control (info : R56Struct) (u : Usc) (entry : Nat) :
    (initRxChannel info u entry).control = u.control := by
  unfold initRxChannel
  dsimp only
  split
  · rfl
  · rfl

theorem uscStartReceiver_control (info : R56Struct) : (uscStartReceiver info).control = info.control := by
  refine control_of_exceptReceiver (uscStartReceiver_frame info) ?_
  unfold uscStartReceiver
  dsimp only
  split
  · exact initRxChannel_control _ _ _
  · rfl

theorem uscProcessRxoverrunSync_control (info : R56Struct) :
    (uscProcessRxoverrunSync info).control = info.control := by
  refine control_of_exceptReceiver (uscProcessRxoverrunSync_frame info) ?_
  unfold uscProcessRxoverrunSync
  dsimp only
  split
  · exact initRxChannel_control _ _ _
  · rfl

theorem recoverOverrun_control (info : R56Struct) (status : U16) : (recoverOverrun info status).control = info.control := by
  unfold recoverOverrun
  split
  · exact uscProcessRxoverrunSync_control _
  · rfl

theorem r56Rxenable_control (info : R56Struct) (enable : Bool) : (r56Rxenable info enable).control = info.control := by
  unfold r56Rxenable
  split
  · split
    · rfl
    · exact uscStartReceiver_control info
  · split
    · exact control_of_exceptReceiver (uscStopReceiver_frame info) rfl
    · rfl

theorem restartOnOverflow_control (info : R56Struct) (index : Nat) :
    (restartOnOverflow info index).control = info.control := by
  unfold restartOnOverflow
  split
  · split
    · exact uscStartReceiver_control info
    · rfl
  · rfl

theorem control_of_exceptDelivery {s t : R56Struct} (frame : t.exceptDelivery = s.exceptDelivery) :
    t.control = s.control := by
  have same := congrArg R56Struct.control frame
  exact same

theorem getRxFrame_control (mode info : R56Struct) : (getRxFrame mode info).1.control = info.control := by
  have freed (s : R56Struct) (startIndex endIndex : Nat) :
      (r56FreeRxFrameBuffers s startIndex endIndex).control = s.control := rfl
  unfold getRxFrame
  split
  · unfold r56GetRxFrame
    dsimp only
    split
    · exact (restartOnOverflow_control _ _).trans
        ((freed _ _ _).trans (control_of_exceptDelivery (deliverRxFrame_frame _ _ _)))
    · exact restartOnOverflow_control _ _
    · refine (restartOnOverflow_control _ _).trans ?_
      split
      · exact uscStartReceiver_control info
      · rfl
  · unfold r56GetRawRxFrame
    dsimp only
    split
    · exact (restartOnOverflow_control _ _).trans
        ((freed _ _ _).trans (control_of_exceptDelivery (deliverRawFrame_frame _ _)))
    · exact restartOnOverflow_control _ _

theorem r56BhReceive_control {info after : R56Struct} (returned : r56BhReceive info = some after) :
    after.control = info.control := by
  have loop (fuel : Nat) (start : R56Struct) (ran : r56BhReceiveLoop (getRxFrame info) fuel start = some after) :
      after.control = start.control := by
    induction fuel generalizing start with
    | zero => exact absurd ran (by simp [r56BhReceiveLoop])
    | succ fuel ih =>
      unfold r56BhReceiveLoop at ran
      split at ran
      · cases ran
        exact uscStartReceiver_control start
      · split at ran
        · exact (ih _ ran).trans (getRxFrame_control info start)
        · cases ran
          exact getRxFrame_control info start
  exact loop _ _ returned

theorem countIoPins_control (info : R56Struct) (status : U16) : (countIoPins info status).control = info.control := by
  have pin (chkcount : Nat) (u : Usc) (sicr : U16) : (ioPinLine chkcount u sicr).2.control = u.control := by
    unfold ioPinLine
    dsimp only
    split
    · rfl
    · rfl
  have ri (s : R56Struct) : (countRi s status).control = s.control := by
    unfold countRi
    split
    · exact congrArg (fun chip => { s.control with chip := chip }) (pin s.riChkcount s.usc sicrRi)
    · rfl
  have dsr (s : R56Struct) : (countDsr s status).control = s.control := by
    unfold countDsr
    split
    · exact congrArg (fun chip => { s.control with chip := chip }) (pin s.dsrChkcount s.usc sicrDsr)
    · rfl
  have dcd (s : R56Struct) : (countDcd s status).control = s.control := by
    unfold countDcd
    split
    · exact congrArg (fun chip => { s.control with chip := chip }) (pin s.dcdChkcount s.usc sicrDcd)
    · rfl
  have cts (s : R56Struct) : (countCts s status).control = s.control := by
    unfold countCts
    split
    · exact congrArg (fun chip => { s.control with chip := chip }) (pin s.ctsChkcount s.usc sicrCts)
    · rfl
  exact (cts _).trans ((dcd _).trans ((dsr _).trans (ri _)))

theorem ioPinDone_output (info : R56Struct) (status : U16) : (ioPinDone info status).output = info.output := by
  unfold ioPinDone
  dsimp only
  split
  · rfl
  · rfl

theorem insertChar_control (info : R56Struct) (dataByte : U8) (status : U16) (flag : Nat) :
    (insertChar info dataByte status flag).1.control = info.control := by
  unfold insertChar
  dsimp only
  split
  · rfl
  · rfl

theorem receiveChar_control (info : R56Struct) (dataByte : U8) (status : U16) :
    (receiveChar info dataByte status).1.control = info.control := by
  have purged (u : Usc) : (purgeOnOverrun u status).control = u.control := by
    unfold purgeOnOverrun
    split
    · rfl
    · rfl
  have bad (s : R56Struct) : (receiveBadChar s dataByte status).1.control = s.control := by
    have unlatched := congrArg (fun chip => { s.control with chip := chip })
      (purged (uscUnlatchRxstatusBits s.usc rxstatusAll))
    unfold receiveBadChar
    dsimp only
    split
    · exact unlatched
    · exact (insertChar_control _ _ _ _).trans unlatched
  unfold receiveChar
  dsimp only
  split
  · exact bad _
  · exact insertChar_control _ _ _ _

theorem r56IsrReceiveData_control (info : R56Struct) : (r56IsrReceiveData info).control = info.control := by
  have loop (chars : List (U8 × U16)) (s : R56Struct) (work : Nat) :
      (receiveChars chars s work).1.control = s.control := by
    induction chars generalizing s work with
    | nil => rfl
    | cons char rest ih => exact (ih _ _).trans (receiveChar_control s char.1 char.2)
  unfold r56IsrReceiveData
  dsimp only
  split
  · exact loop _ _ _
  · exact loop _ _ _

theorem r56IsrMisc_output (info : R56Struct) : (r56IsrMisc info).output = info.output := by
  unfold r56IsrMisc haltOnRccUnderrun
  dsimp only
  split
  · rfl
  · rfl

theorem r56IsrReceiveDma_output (info : R56Struct) : (r56IsrReceiveDma info).output = info.output := by
  unfold r56IsrReceiveDma
  dsimp only
  split
  · rfl
  · rfl

theorem haltOnOverflow_control (info : R56Struct) : (haltOnOverflow info).control = info.control := by
  unfold haltOnOverflow
  split
  · rfl
  · rfl

theorem scheduleBh_output (info : R56Struct) : (scheduleBh info).output = info.output := by
  unfold scheduleBh
  split
  · rfl
  · rfl

theorem r56SetTxidle_control (info : R56Struct) (idleMode : Nat) :
    (r56SetTxidle info idleMode).control = info.control := by
  unfold r56SetTxidle uscSetTxidle
  dsimp only
  split
  · rfl
  · rfl

theorem countTxTimeout_control (info : R56Struct) : (countTxTimeout info).control = info.control := by
  unfold countTxTimeout
  split
  · rfl
  · rfl

end Route56
