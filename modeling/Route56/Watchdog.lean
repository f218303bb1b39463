import Route56.Driver

namespace Route56
open Transition

/-- A transmission that never completes can be timed out, and the timeout ends it. -/
def R56Struct.watched (info : R56Struct) : Prop :=
  info.synchronous → info.txActive = true → ∃ after, Step info .txTimeout after ∧ after.txActive = false

/-- A busy frame oriented transmitter has its timer pending. -/
def R56Struct.timed (info : R56Struct) : Prop :=
  info.synchronous → info.txActive = true → info.txTimer = true

/-- The fields the timer's duty depends on. -/
def R56Struct.sending (info : R56Struct) : Nat × Bool × Bool × Bool :=
  (info.params.mode, info.port.tty, info.txActive, info.txTimer)

theorem sending_of_exceptReceiver {s t : R56Struct} (frame : t.exceptReceiver = s.exceptReceiver) :
    t.sending = s.sending := by
  have same := congrArg R56Struct.sending frame
  exact same

theorem sending_of_exceptChip {s t : R56Struct} (frame : t.exceptChip = s.exceptChip) :
    t.sending = s.sending := by
  have same := congrArg R56Struct.sending frame
  exact same

theorem r56TxTimeout_txActive (info : R56Struct) : (r56TxTimeout info).txActive = false := by
  have same := congrArg R56Struct.txActive (r56TxTimeout_frame info)
  exact same

theorem watched_iff (info : R56Struct) : info.watched ↔ info.timed := by
  constructor
  · intro watched sync active
    obtain ⟨after, step, -⟩ := watched sync active
    exact step.2 rfl
  · intro timed sync active
    exact ⟨_, ⟨rfl, fun _ => timed sync active⟩, r56TxTimeout_txActive info⟩

/-- From `s` to `t` the tty stays attached and the timer is not lost. -/
def Guards (s t : R56Struct) : Prop := t.port.tty = s.port.tty ∧ (s.timed → t.timed)

theorem Guards.refl (s : R56Struct) : Guards s s := ⟨rfl, id⟩

theorem Guards.trans {s t u : R56Struct} (first : Guards s t) (second : Guards t u) : Guards s u :=
  ⟨second.1.trans first.1, second.2 ∘ first.2⟩

theorem Guards.of_sending {s t : R56Struct} (same : t.sending = s.sending) : Guards s t := by
  have mode : t.params.mode = s.params.mode := congrArg (·.1) same
  have tty : t.port.tty = s.port.tty := congrArg (·.2.1) same
  have active : t.txActive = s.txActive := congrArg (·.2.2.1) same
  have timer : t.txTimer = s.txTimer := congrArg (·.2.2.2) same
  refine ⟨tty, ?_⟩
  simp only [R56Struct.timed, R56Struct.synchronous, mode, active, timer, imp_self]

theorem Guards.of_chip {s t : R56Struct} (frame : t.exceptChip = s.exceptChip) : Guards s t :=
  .of_sending (sending_of_exceptChip frame)

theorem Guards.of_receiver {s t : R56Struct} (frame : t.exceptReceiver = s.exceptReceiver) : Guards s t :=
  .of_sending (sending_of_exceptReceiver frame)

theorem Guards.of_idle {s t : R56Struct} (tty : t.port.tty = s.port.tty) (idle : t.txActive = false) :
    Guards s t :=
  ⟨tty, fun _ _ active => absurd active (by rw [idle]; decide)⟩

theorem Guards.of_timer {s t : R56Struct} (tty : t.port.tty = s.port.tty)
    (timer : t.synchronous → t.txTimer = true) : Guards s t :=
  ⟨tty, fun _ sync _ => timer sync⟩

theorem uscStopTransmitter_guards (info : R56Struct) : Guards info (uscStopTransmitter info) :=
  .of_idle rfl rfl

theorem sendXmit_guards (info : R56Struct) : Guards info (sendXmit info) := by
  have tty := congrArg (·.port.tty) (sendXmit_frame info)
  have params := congrArg R56Struct.params (sendXmit_frame info)
  have before := congrArg R56Struct.params (prepareXmit_frame info)
  refine .of_timer tty fun sync => ?_
  have dma : (ignoreEcho (assertAutoRts info)).params.mode ≠ r56ModeAsync := by
    have mode : (ignoreEcho (assertAutoRts info)).params = (sendXmit info).params := before.trans params.symm
    rw [mode]
    rcases sync with hdlc | raw
    · rw [hdlc]; decide
    · rw [raw]; decide
  have fed : feedTransmitter (ignoreEcho (assertAutoRts info)) = startTxDma (ignoreEcho (assertAutoRts info)) :=
    if_neg dma
  unfold sendXmit
  rw [fed]
  rfl

theorem enableIfDisabled_sending (info : R56Struct) : (enableIfDisabled info).sending = info.sending := by
  unfold enableIfDisabled
  split
  · rfl
  · rfl

theorem uscStartTransmitter_guards (info : R56Struct) : Guards info (uscStartTransmitter info) := by
  refine Guards.trans ?_ (.of_sending (enableIfDisabled_sending _))
  split
  · exact sendXmit_guards info
  · exact .refl info

theorem loadNextTxHoldingBuffer_guards (info : R56Struct) : Guards info (loadNextTxHoldingBuffer info).1 := by
  unfold loadNextTxHoldingBuffer
  dsimp only
  split
  · exact .of_timer rfl fun _ => rfl
  · exact .refl info

theorem r56LoadTxDmaBuffer_sending (info : R56Struct) (source : TxSource) (buffer : Nat → U8) (size : Nat) :
    (r56LoadTxDmaBuffer info source buffer size).sending = info.sending := rfl

theorem saveTxBufferRequest_sending (info : R56Struct) (buffer : Nat → U8) (size : Nat) :
    (saveTxBufferRequest info buffer size).sending = info.sending := by
  unfold saveTxBufferRequest
  split
  · rfl
  · rfl

theorem startIfIdle_guards (info : R56Struct) : Guards info (startIfIdle info) := by
  unfold startIfIdle
  split
  · split
    · exact .refl info
    · exact uscStartTransmitter_guards info
  · exact .refl info

theorem writeAsync_sending (buf : Nat → U8) (fuel count : Nat) (info : R56Struct) :
    (writeAsync info fuel buf count).1.sending = info.sending := by
  induction fuel generalizing info buf count with
  | zero => rfl
  | succ fuel ih =>
    unfold writeAsync
    dsimp only
    split
    · rfl
    · exact ih _ _ _

theorem r56Write_guards (info : R56Struct) (buf : Nat → U8) (count : Nat) :
    Guards info (r56Write info buf count).1 := by
  unfold r56Write
  split
  · exact .refl info
  split
  · split
    · split
      · exact .refl info
      split
      · exact .refl info
      · exact .trans (.of_sending (saveTxBufferRequest_sending info buf count)) (loadNextTxHoldingBuffer_guards _)
    split
    · exact .refl info
    split
    · exact .trans (.of_sending (r56LoadTxDmaBuffer_sending info _ _ _)) (startIfIdle_guards _)
    · exact .trans (.of_sending (r56LoadTxDmaBuffer_sending { info with xmitCnt := count } _ _ _))
        (startIfIdle_guards _)
  · exact .trans (.of_sending (writeAsync_sending buf (count + 1) count info)) (startIfIdle_guards _)

theorem r56PutChar_sending (info : R56Struct) (ch : U8) : (r56PutChar info ch).1.sending = info.sending := by
  unfold r56PutChar
  split
  · rfl
  · rfl

theorem r56FlushChars_guards (info : R56Struct) : Guards info (r56FlushChars info) := by
  unfold r56FlushChars
  split
  · exact .refl info
  split
  · exact .refl info
  split
  · exact .trans (.of_sending (r56LoadTxDmaBuffer_sending info _ _ _)) (uscStartTransmitter_guards _)
  · exact uscStartTransmitter_guards info

theorem r56Stop_guards (info : R56Struct) : Guards info (r56Stop info) := by
  unfold r56Stop
  split
  · exact uscStopTransmitter_guards info
  · exact .refl info

theorem r56Start_guards (info : R56Struct) : Guards info (r56Start info) := by
  unfold r56Start
  split
  · exact .refl info
  · exact uscStartTransmitter_guards info

theorem r56SendXchar_guards (info : R56Struct) (ch : U8) : Guards info (r56SendXchar info ch) := by
  have noted : Guards info { info with xChar := ch } := .of_sending rfl
  unfold r56SendXchar
  dsimp only
  split
  · exact noted.trans (uscStartTransmitter_guards _)
  · exact noted

theorem signalRts_sending (info : R56Struct) (on : Bool) : (signalRts info on).sending = info.sending := by
  unfold signalRts
  split
  · rfl
  · rfl

theorem r56Throttle_guards (info : R56Struct) : Guards info (r56Throttle info) := by
  refine Guards.trans ?_ (.of_sending (signalRts_sending _ _))
  unfold sendStopChar
  split
  · exact r56SendXchar_guards info _
  · exact .refl info

theorem r56Unthrottle_guards (info : R56Struct) : Guards info (r56Unthrottle info) := by
  refine Guards.trans ?_ (.of_sending (signalRts_sending _ _))
  unfold sendStartChar
  split
  · split
    · exact .of_sending rfl
    · exact r56SendXchar_guards info _
  · exact .refl info

theorem r56Txenable_guards (info : R56Struct) (enable : Bool) : Guards info (r56Txenable info enable) := by
  have insert (s : R56Struct) : Guards s (uscLoopmodeInsertRequest s) := .of_chip (uscLoopmodeInsertRequest_frame s)
  unfold r56Txenable
  dsimp only
  split
  · split
    · exact .refl info
    split
    · exact (uscStartTransmitter_guards info).trans (insert _)
    · exact uscStartTransmitter_guards info
  split
  · exact uscStopTransmitter_guards info
  · exact .refl info

theorem r56Rxenable_sending (info : R56Struct) (enable : Bool) :
    (r56Rxenable info enable).sending = info.sending := by
  unfold r56Rxenable
  split
  · split
    · rfl
    · exact sending_of_exceptReceiver (uscStartReceiver_frame info)
  · split
    · exact sending_of_exceptReceiver (uscStopReceiver_frame info)
    · rfl

theorem programMode_idle (info : R56Struct) :
    (programMode info).port = info.port ∧ (programMode info).txActive = false := by
  unfold programMode
  split
  · exact ⟨(congrArg R56Struct.port (uscSetSyncMode_frame info) :), uscSetSyncMode_txActive info⟩
  · exact ⟨(congrArg R56Struct.port (uscSetAsyncMode_frame info) :), uscSetAsyncMode_txActive info⟩

theorem programSignals_sending (info : R56Struct) : (programSignals info).sending = info.sending := rfl

theorem r56ProgramHw_idle (info : R56Struct) :
    (r56ProgramHw info).port.tty = info.port.tty ∧ (r56ProgramHw info).txActive = false := by
  have mode := programMode_idle { uscStopTransmitter (uscStopReceiver info) with
    xmitCnt := 0, xmitHead := 0, xmitTail := 0 }
  have signals := programSignals_sending (programMode { uscStopTransmitter (uscStopReceiver info) with
    xmitCnt := 0, xmitHead := 0, xmitTail := 0 })
  have tty := (congrArg (·.2.1) signals).trans (congrArg TtyPort.tty mode.1)
  have active := (congrArg (·.2.2.1) signals).trans mode.2
  unfold r56ProgramHw
  dsimp only
  split
  · have started := sending_of_exceptReceiver (uscStartReceiver_frame (programSignals
      (programMode { uscStopTransmitter (uscStopReceiver info) with xmitCnt := 0, xmitHead := 0, xmitTail := 0 })))
    exact ⟨(congrArg (·.2.1) started).trans tty, (congrArg (·.2.2.1) started).trans active⟩
  · exact ⟨tty, active⟩

theorem r56ChangeParams_idle (info : R56Struct) (attached : info.port.tty = true) :
    (r56ChangeParams info).port.tty = true ∧ (r56ChangeParams info).txActive = false := by
  unfold r56ChangeParams
  rw [if_neg (by simp [attached])]
  obtain ⟨tty, idle⟩ := r56ProgramHw_idle _
  exact ⟨tty.trans attached, idle⟩

theorem r56SetTermios_guards (info : R56Struct) (oldCflag : U32) (attached : info.port.tty = true) :
    Guards info (r56SetTermios info oldCflag) := by
  have changed := r56ChangeParams_idle info attached
  have enter : Guards (r56ChangeParams info) (enterB0 (r56ChangeParams info) oldCflag) := by
    unfold enterB0
    split
    · exact .of_sending rfl
    · exact .refl _
  have leave (s : R56Struct) : Guards s (leaveB0 s oldCflag) := by
    unfold leaveB0
    split
    · exact .of_sending rfl
    · exact .refl _
  have flow (s : R56Struct) : Guards s (leaveCrtscts s oldCflag) := by
    have resumed : Guards s { s with tty := { s.tty with hwStopped := false } } := .of_sending rfl
    unfold leaveCrtscts
    split
    · exact resumed.trans (r56Start_guards _)
    · exact .refl _
  have idle : Guards info (r56ChangeParams info) := .of_idle (changed.1.trans attached.symm) changed.2
  exact idle.trans (enter.trans ((leave _).trans (flow _)))

theorem r56IsrTransmitStatus_guards (info : R56Struct) : Guards info (r56IsrTransmitStatus info) := by
  have dropped (s : R56Struct) : (dropAutoRts s).sending = s.sending := by
    unfold dropAutoRts negateRts
    split
    · split
      · rfl
      · rfl
    · rfl
  have acked : Guards info (ackTxStatus info (uscInReg info.usc .tcsr)) := .of_idle rfl rfl
  have ended := acked.trans (.of_sending (dropped _))
  unfold r56IsrTransmitStatus
  dsimp only
  split
  · exact ended
  split
  · exact ended.trans (uscStopTransmitter_guards _)
  · exact ended.trans (.of_sending rfl)

theorem ctsFlowControl_guards (info : R56Struct) (status : U16) : Guards info (ctsFlowControl info status) := by
  have noted (hwStopped : Bool) : Guards info { info with tty := { info.tty with hwStopped := hwStopped } } :=
    .of_sending rfl
  unfold ctsFlowControl
  dsimp only
  split
  · split
    · exact (noted false).trans ((uscStartTransmitter_guards _).trans (.of_sending rfl))
    · exact .of_chip (ioPinDone_frame _ _)
  split
  · exact (noted true).trans ((uscStopTransmitter_guards _).trans (.of_chip (ioPinDone_frame _ _)))
  · exact .of_chip (ioPinDone_frame _ _)

theorem r56IsrIoPin_guards (info : R56Struct) : Guards info (r56IsrIoPin info) := by
  have read (u : Usc) : Guards info { info with usc := u } := .of_sending rfl
  have counted (s : R56Struct) (status : U16) : Guards s (countIoPins s status) :=
    .of_chip (countIoPins_frame s status)
  unfold r56IsrIoPin serviceIoPins
  dsimp only
  split
  · split
    · exact (read _).trans ((counted _ _).trans (ctsFlowControl_guards _ _))
    · exact (read _).trans ((counted _ _).trans (.of_chip (ioPinDone_frame _ _)))
  · exact (read _).trans (.of_chip (ioPinDone_frame _ _))

theorem loadTxfifoLoop_sending (readings : List Nat) (info : R56Struct) :
    (loadTxfifoLoop readings info).sending = info.sending := by
  have step (s : R56Struct) (fifocount : Nat) : (loadTxfifoStep s fifocount).sending = s.sending := by
    unfold loadTxfifoStep
    dsimp only
    split
    · rfl
    · split <;> rfl
  induction readings generalizing info with
  | nil => rfl
  | cons fifocount rest ih =>
    unfold loadTxfifoLoop
    split
    · exact (ih _).trans (step info fifocount)
    · rfl

theorem uscLoadTxfifo_sending (info : R56Struct) : (uscLoadTxfifo info).sending = info.sending := by
  unfold uscLoadTxfifo
  split
  · rfl
  · exact loadTxfifoLoop_sending _ _

theorem r56IsrTransmitData_guards (info : R56Struct) : Guards info (r56IsrTransmitData info) := by
  have read (u : Usc) : Guards info { info with usc := u } := .of_sending rfl
  have fed (s : R56Struct) : Guards s (continueAsync s) := by
    unfold continueAsync
    split
    · exact .of_sending (uscLoadTxfifo_sending s)
    · exact .of_idle rfl rfl
  unfold r56IsrTransmitData
  dsimp only
  split
  · exact (read _).trans (uscStopTransmitter_guards _)
  split
  · exact (read _).trans ((fed _).trans (.of_sending rfl))
  · exact (read _).trans (fed _)

theorem r56IsrReceiveStatus_sending (info : R56Struct) : (r56IsrReceiveStatus info).sending = info.sending := by
  have recovered (s : R56Struct) (status : U16) : (recoverOverrun s status).sending = s.sending := by
    unfold recoverOverrun
    split
    · exact sending_of_exceptReceiver (uscProcessRxoverrunSync_frame _)
    · rfl
  exact (recovered _ _).trans (sending_of_exceptChip (completeInsertion_frame info _))

theorem r56IsrMisc_sending (info : R56Struct) : (r56IsrMisc info).sending = info.sending := by
  have halted (status : U16) : (haltOnRccUnderrun info status).sending = info.sending := by
    unfold haltOnRccUnderrun
    split
    · rfl
    · rfl
  exact halted _

theorem r56IsrReceiveDma_sending (info : R56Struct) : (r56IsrReceiveDma info).sending = info.sending := by
  unfold r56IsrReceiveDma
  dsimp only
  split
  · rfl
  · rfl

theorem r56IsrTransmitDma_guards (info : R56Struct) : Guards info (r56IsrTransmitDma info) := by
  have read (u : Usc) : Guards info { info with usc := u } := .of_sending rfl
  have done (s : R56Struct) : Guards s (txBufferDone s) := by
    have loaded : Guards s (loadNextTxHoldingBuffer { s with txDmaBuffersUsed := s.txDmaBuffersUsed - 1 }).1 :=
      .trans (.of_sending (s := s) rfl) (loadNextTxHoldingBuffer_guards _)
    unfold txBufferDone
    dsimp only
    split
    · exact loaded.trans (.of_sending rfl)
    · exact loaded
  unfold r56IsrTransmitDma
  dsimp only
  split
  · exact (read _).trans (done _)
  · exact read _

theorem r56Interrupt_guards (info : R56Struct) : Guards info (r56Interrupt info) := by
  have serviced : Guards info (serviceInterrupt info) := by
    have served := serviceInterrupt_serviced info
    generalize serviceInterrupt info = after at served ⊢
    cases served with
    | transmitDma => exact r56IsrTransmitDma_guards info
    | receiveDma => exact .of_sending (r56IsrReceiveDma_sending info)
    | misc => exact .of_sending (r56IsrMisc_sending info)
    | ioPin => exact r56IsrIoPin_guards info
    | transmitData => exact r56IsrTransmitData_guards info
    | transmitStatus => exact r56IsrTransmitStatus_guards info
    | receiveData => exact .of_chip (r56IsrReceiveData_frame info)
    | receiveStatus => exact .of_sending (r56IsrReceiveStatus_sending info)
    | null => exact .refl info
  have scheduled (s : R56Struct) : (scheduleBh s).sending = s.sending := by
    unfold scheduleBh
    split
    · rfl
    · rfl
  exact serviced.trans ((Guards.of_chip (haltOnOverflow_frame _)).trans (.of_sending (scheduled _)))

/-- The send buffer is not discarded while a frame is being sent. -/
def mayFlush (info : R56Struct) (op : Op) : Prop :=
  op = .flushBuffer → info.synchronous → info.txActive = false

theorem r56FlushBuffer_timed (info : R56Struct) :
    (r56FlushBuffer info).timed ↔ (info.synchronous → info.txActive = false) := by
  constructor
  · intro timed sync
    by_contra active
    have lost := timed sync (Bool.of_not_eq_false active)
    exact absurd lost (by decide : ¬false = true)
  · intro idle sync active
    exact absurd (idle sync) (by rw [show info.txActive = true from active]; decide)

/-- Every other operation guards the timer. -/
theorem exec_guards {info after : R56Struct} {op : Op} (attached : info.port.tty = true)
    (other : op ≠ .flushBuffer) (ran : exec info op = some after) : Guards info after := by
  cases op with
  | flushBuffer => exact absurd rfl other
  | write buf count => cases ran; exact r56Write_guards info buf count
  | putChar ch => cases ran; exact .of_sending (r56PutChar_sending info ch)
  | flushChars => cases ran; exact r56FlushChars_guards info
  | stop => cases ran; exact r56Stop_guards info
  | start => cases ran; exact r56Start_guards info
  | sendXchar ch => cases ran; exact r56SendXchar_guards info ch
  | throttle => cases ran; exact r56Throttle_guards info
  | unthrottle => cases ran; exact r56Unthrottle_guards info
  | txenable enable => cases ran; exact r56Txenable_guards info enable
  | rxenable enable => cases ran; exact .of_sending (r56Rxenable_sending info enable)
  | txabort => cases ran; exact .of_chip (r56Txabort_frame info)
  | loopmodeSendDone => cases ran; exact .of_chip (r56LoopmodeSendDone_frame info)
  | setParams newParams =>
    cases ran
    obtain ⟨tty, idle⟩ := r56ChangeParams_idle { info with params := newParams } attached
    exact .of_idle (tty.trans attached.symm) idle
  | setTermios cCflag cIflag baudRate =>
    cases ran
    have noted : Guards info { info with
        tty := { info.tty with cCflag := cCflag, cIflag := cIflag, baudRate := baudRate } } := .of_sending rfl
    exact noted.trans (r56SetTermios_guards _ _ attached)
  | setTxidle idleMode => cases ran; exact .of_chip (r56SetTxidle_frame info idleMode)
  | tiocmset set clear => cases ran; exact .of_sending rfl
  | dtrRts on => cases ran; exact .of_sending rfl
  | setBreak on => cases ran; exact .of_chip (r56Break_frame info on)
  | interrupt report =>
    cases ran
    have shown : Guards info (info.reporting report) := .of_sending rfl
    exact shown.trans (r56Interrupt_guards _)
  | bhReceive => exact .of_receiver (r56BhReceive_frame ran)
  | bhTransmit => cases ran; exact .of_chip (r56BhTransmit_frame info)
  | bhStatus => cases ran; exact .of_chip (r56BhStatus_frame info)
  | txTimeout =>
    cases ran
    have tty := congrArg (·.port.tty) (r56TxTimeout_frame info)
    exact .of_idle tty (r56TxTimeout_txActive info)
  | flow stopped hwStopped => cases ran; exact .of_sending rfl
  | reception list rxDma => cases ran; exact .of_sending rfl

/-- Step lemma: after a step the transmitter is watched exactly when the step was
not a flush of a frame being sent. -/
theorem step_watched {info after : R56Struct} {op : Op} (watched : info.watched)
    (attached : info.port.tty = true) (step : Step info op after) : after.watched ↔ mayFlush info op := by
  rw [watched_iff] at watched ⊢
  by_cases flush : op = .flushBuffer
  · subst flush
    cases step.1
    rw [r56FlushBuffer_timed]
    simp only [mayFlush, true_imp_iff]
  · have kept := (exec_guards attached flush step.1).2 watched
    exact iff_of_true kept fun h => absurd h flush

theorem step_attached {info after : R56Struct} {op : Op} (attached : info.port.tty = true)
    (step : Step info op after) : after.port.tty = true := by
  by_cases flush : op = .flushBuffer
  · subst flush
    cases step.1
    exact attached
  · exact (exec_guards attached flush step.1).1.trans attached

/-- In a run from an open, idle port every state has its transmitter watched
exactly when the run never flushes the buffer of a frame being sent. -/
theorem transmitter_watched_iff {info : R56Struct} {run : List (Op × R56Struct)}
    (attached : info.port.tty = true) (idle : info.txActive = false) (steps : Run Step info run) :
    (∀ x ∈ run, x.2.watched) ↔ Run (fun s op _ => mayFlush s op) info run := by
  have start : info.watched := fun _ active => absurd active (by rw [idle]; decide)
  exact Run.good_iff (fun s op t watched tty step => step_watched watched tty step)
    (fun s op t tty step => step_attached tty step) steps start attached

/-- A frame is sent, and the send buffer is discarded when its end has been reported. -/
theorem transmitter_watched_iff_sent :
    let sent := (r56Write openedDevice (fun _ => 0x7e) 1).1
    let idle := r56Interrupt (sent.reporting frameSent)
    let flushed := r56FlushBuffer idle
    sent.txActive = true ∧ sent.watched ∧ idle.watched ∧ flushed.watched := by
  intro sent idle flushed
  have steps : Run Step openedDevice [(.write (fun _ => 0x7e) 1, sent), (.interrupt frameSent, idle),
      (.flushBuffer, flushed)] := ⟨⟨rfl, nofun⟩, ⟨rfl, nofun⟩, ⟨rfl, nofun⟩, trivial⟩
  have ended : idle.txActive = false := by decide
  have watched := (transmitter_watched_iff (by decide) (by decide) steps).mpr ⟨nofun, nofun, fun _ _ => ended, trivial⟩
  exact ⟨by decide, watched _ List.mem_cons_self, watched _ (.tail _ List.mem_cons_self),
    watched _ (.tail _ (.tail _ List.mem_cons_self))⟩

/-- A frame is written to the open port and the send buffer is discarded: the
transmitter stays busy and nothing will end that. -/
theorem flushed_transmitter_unwatched :
    let sent := (r56Write openedDevice (fun _ => 0x7e) 1).1
    openedDevice.port.tty = true ∧ openedDevice.txActive = false ∧
      Run Step openedDevice [(.write (fun _ => 0x7e) 1, sent), (.flushBuffer, r56FlushBuffer sent)] ∧
      ¬(r56FlushBuffer sent).watched := by
  intro sent
  refine ⟨by decide, by decide, ⟨⟨rfl, fun timeout => nomatch timeout⟩, ⟨rfl, fun timeout => nomatch timeout⟩, trivial⟩, ?_⟩
  intro watched
  have timed := (watched_iff _).mp watched
  have sync : (r56FlushBuffer sent).synchronous := by decide
  have active : (r56FlushBuffer sent).txActive = true := by decide
  exact absurd (timed sync active) (by decide)

end Route56
