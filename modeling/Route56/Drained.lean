import Route56.WriteRoom
import Route56.Watchdog

namespace Route56

open Transition

def txstatusAllSent : U16 := bit2

/-- The condition of the loops of `r56_wait_until_sent`. -/
def waitsUntilSent (info : R56Struct) : Bool :=
  if info.synchronous then info.txActive
  else uscInReg info.usc .tcsr &&& txstatusAllSent = 0 && info.txEnabled

/-- Nothing accepted waits to be sent. -/
def R56Struct.empty (info : R56Struct) : Prop := info.xmitCnt = 0 ∧ info.txHoldingCount = 0

/-- When the driver says that everything was sent, nothing waits. -/
def Drained (info : R56Struct) : Prop :=
  info.synchronous → r56CharsInBuffer info = 0 ∨ waitsUntilSent info = false → info.empty

/-- Nothing waits on a port that does not send. -/
def IdleEmpty (info : R56Struct) : Prop := info.synchronous → info.txActive = false → info.empty

theorem drained_iff {info : R56Struct} (frame : info.maxFrameSize ≠ 0) : Drained info ↔ IdleEmpty info := by
  constructor
  · intro drained sync idle
    refine drained sync (.inr ?_)
    unfold waitsUntilSent
    rw [if_pos sync]
    exact idle
  · intro empty sync said
    refine empty sync ?_
    rcases said with none | sent
    · by_contra active
      unfold r56CharsInBuffer at none
      rw [if_pos sync, if_pos (Bool.of_not_eq_false active)] at none
      exact frame none
    · unfold waitsUntilSent at sent
      rw [if_pos sync] at sent
      exact sent

theorem IdleEmpty.of_xmit {s t : R56Struct} (empty : IdleEmpty s) (same : t.xmit = s.xmit)
    (active : t.txActive = s.txActive) : IdleEmpty t := by
  have mode : t.params.mode = s.params.mode := congrArg Xmit.mode same
  have cnt : t.xmitCnt = s.xmitCnt := congrArg Xmit.cnt same
  have holding : t.txHoldingCount = s.txHoldingCount := congrArg Xmit.holding same
  intro sync idle
  unfold R56Struct.synchronous at sync
  unfold R56Struct.empty
  rw [mode] at sync
  rw [cnt, holding]
  exact empty sync (active.symm.trans idle)

theorem IdleEmpty.of_exceptReception {s t : R56Struct} (empty : IdleEmpty s)
    (frame : t.exceptReception = s.exceptReception) : IdleEmpty t :=
  empty.of_xmit (xmit_of_exceptReception frame) (congrArg (·.txActive) frame)

/-- A transmitter that is started has something to send or did nothing. -/
theorem uscStartTransmitter_txActive (info : R56Struct) :
    (uscStartTransmitter info).txActive = (info.txActive || decide (info.xmitCnt ≠ 0)) := by
  have enabled (s : R56Struct) : (enableIfDisabled s).txActive = s.txActive := by
    unfold enableIfDisabled
    split
    · rfl
    · rfl
  unfold uscStartTransmitter
  rw [enabled]
  split
  · rename_i some
    rw [decide_eq_true some, Bool.or_true]
    rfl
  · rename_i none
    rw [decide_eq_false none, Bool.or_false]

/-- After a start what waits is being sent, if no frame is held back. -/
theorem uscStartTransmitter_idleEmpty {info : R56Struct} (holding : info.txActive = false → info.txHoldingCount = 0) :
    IdleEmpty (uscStartTransmitter info) := by
  intro sync idle
  have mode : (uscStartTransmitter info).params.mode = info.params.mode :=
    congrArg (·.params.mode) (uscStartTransmitter_frame info)
  have sync : info.synchronous := by
    unfold R56Struct.synchronous at sync ⊢
    rwa [mode] at sync
  rw [uscStartTransmitter_txActive, Bool.or_eq_false_iff, decide_eq_false_iff_not, not_not] at idle
  have same := uscStartTransmitter_xmit sync
  exact ⟨(congrArg Xmit.cnt same).trans idle.2, (congrArg Xmit.holding same).trans (holding idle.1)⟩

theorem IdleEmpty.start {info : R56Struct} (empty : IdleEmpty info) : IdleEmpty (uscStartTransmitter info) := by
  by_cases sync : info.synchronous
  · exact uscStartTransmitter_idleEmpty fun idle => (empty sync idle).2
  · intro other
    have mode : (uscStartTransmitter info).params.mode = info.params.mode :=
      congrArg (·.params.mode) (uscStartTransmitter_frame info)
    unfold R56Struct.synchronous at other sync
    rw [mode] at other
    exact absurd other sync

/-- A stopped transmitter drains exactly when nothing waits. -/
theorem uscStopTransmitter_idleEmpty (info : R56Struct) :
    IdleEmpty (uscStopTransmitter info) ↔ (info.synchronous → info.empty) :=
  ⟨fun empty sync => empty sync rfl, fun empty sync _ => empty sync⟩

/-- Where sending ends, the collected characters are gone and the frames held back remain. -/
theorem idleEmpty_ended {s t : R56Struct} (same : t.xmit = s.xmit.zeroed) (idle : t.txActive = false) :
    IdleEmpty t ↔ (s.synchronous → s.txHoldingCount = 0) := by
  have mode : t.params.mode = s.params.mode := congrArg Xmit.mode same
  have cnt : t.xmitCnt = 0 := congrArg Xmit.cnt same
  have holding : t.txHoldingCount = s.txHoldingCount := congrArg Xmit.holding same
  unfold IdleEmpty R56Struct.empty R56Struct.synchronous
  rw [mode, holding]
  exact ⟨fun empty sync => (empty sync idle).2, fun none sync _ => ⟨cnt, none sync⟩⟩

/-- The interrupt stops the transmitter with what waits in place. -/
def R56Struct.halts (info : R56Struct) : Prop :=
  info.uscVector = 2 ∧ info.ctsLost ∨ info.uscVector = 3 ∧ info.ttyStopped = true

/-- The interrupt ends the sending. -/
def R56Struct.endsSending (info : R56Struct) : Prop :=
  info.uscVector = 4 ∨ info.uscVector = 3 ∧ info.ttyStopped = false ∧ info.xmitCnt = 0

/-- The steps from a port that is empty when idle after which it still is: a write to a stopped
port leaves a frame in the ring, a character is collected, and where sending is stopped nothing
waits; where it ends, no frame is held back. -/
def KeepsIdleEmpty (info : R56Struct) : Op → Prop
  | .write _ count =>
    info.synchronous → info.txActive = false → info.xmitBufPtr = true → info.inLoop → count ≠ 0 →
      info.ttyStopped = false
  | .putChar _ => info.synchronous → info.xmitBufPtr = true → info.txActive = true
  | .stop | .txenable false => info.txEnabled = true → info.synchronous → info.empty
  | .txTimeout | .setTermios .. => info.synchronous → info.txHoldingCount = 0
  | .setParams newParams => newParams.mode = r56ModeHdlc ∨ newParams.mode = r56ModeRaw → info.txHoldingCount = 0
  | .interrupt report =>
    ((info.reporting report).halts → info.synchronous → info.empty) ∧
      ((info.reporting report).endsSending → info.synchronous → info.txHoldingCount = 0)
  | _ => True

theorem saveTxBufferRequest_txActive (info : R56Struct) (buffer : Nat → U8) (size : Nat) :
    (saveTxBufferRequest info buffer size).txActive = info.txActive := by
  unfold saveTxBufferRequest
  split
  · rfl
  · rfl

theorem loadNextTxHoldingBuffer_txActive (info : R56Struct) :
    (loadNextTxHoldingBuffer info).1.txActive = info.txActive := by
  unfold loadNextTxHoldingBuffer
  dsimp only
  split
  · rfl
  · rfl

/-- A loaded frame is being sent unless the port is stopped. -/
theorem startIfIdle_idleEmpty {info : R56Struct} (sync : info.synchronous) (idle : info.txActive = false)
    (holding : info.txHoldingCount = 0) :
    IdleEmpty (startIfIdle info) ↔ (info.xmitCnt ≠ 0 → info.ttyStopped = false) := by
  unfold startIfIdle
  split
  · rename_i started
    rw [if_neg (Bool.eq_false_iff.mp idle)]
    exact ⟨fun _ _ => Bool.eq_false_iff.mpr started.2, fun _ => uscStartTransmitter_idleEmpty fun _ => holding⟩
  · rename_i still
    constructor
    · intro empty queued
      exact absurd (empty sync idle).1 queued
    · intro runs _ _
      refine ⟨by_contra fun queued => still ⟨queued, ?_⟩, holding⟩
      rw [runs queued]
      decide

theorem r56Write_idleEmpty {info : R56Struct} (empty : IdleEmpty info) (buf : Nat → U8) (count : Nat) :
    IdleEmpty (r56Write info buf count).1 ↔ KeepsIdleEmpty info (.write buf count) := by
  have mode : (r56Write info buf count).1.params.mode = info.params.mode :=
    congrArg (·.params.mode) (setup_kept.write info buf count)
  by_cases sync : info.synchronous
  case neg =>
    refine ⟨fun _ here => absurd here sync, fun _ there => ?_⟩
    unfold R56Struct.synchronous at there sync
    rw [mode] at there
    exact absurd there sync
  by_cases buffer : info.xmitBufPtr = true
  case neg =>
    have refused : r56Write info buf count = (info, 0) := if_pos buffer
    rw [refused]
    exact ⟨fun _ _ _ there => absurd there buffer, fun _ => empty⟩
  by_cases active : info.txActive = true
  · -- a port that sends goes on sending
    have still : (r56Write info buf count).1.txActive = true := by
      unfold r56Write
      rw [if_neg (not_not.mpr buffer), if_pos sync, if_pos active]
      split
      · exact active
      split
      · exact active
      · rw [loadNextTxHoldingBuffer_txActive, saveTxBufferRequest_txActive]
        exact active
    exact ⟨fun _ _ idle => absurd active (Bool.eq_false_iff.mp idle),
      fun _ _ idle => absurd still (Bool.eq_false_iff.mp idle)⟩
  · have idle := Bool.eq_false_iff.mpr active
    obtain ⟨cnt, holding⟩ := empty sync idle
    rw [r56Write_inactive buffer sync idle]
    split
    · rename_i outside
      exact ⟨fun _ _ _ _ inLoop => absurd (inLoop outside.1) outside.2, fun _ => empty⟩
    rename_i inside
    have inLoop : info.inLoop := fun looped => by_contra fun out => inside ⟨looped, out⟩
    rw [if_neg (not_not.mpr cnt)]
    have started := @startIfIdle_idleEmpty (r56LoadTxDmaBuffer { info with xmitCnt := count } .write buf count)
      sync idle holding
    exact started.trans ⟨fun runs _ _ _ _ => runs, fun runs => runs sync idle buffer inLoop⟩

theorem r56PutChar_idleEmpty {info : R56Struct} (empty : IdleEmpty info) (ch : U8) :
    IdleEmpty (r56PutChar info ch).1 ↔ KeepsIdleEmpty info (.putChar ch) := by
  unfold r56PutChar
  split
  · rename_i accepted
    constructor
    · intro collected sync buffer
      by_contra active
      exact absurd (collected sync (Bool.eq_false_iff.mpr active)).1 (Nat.succ_ne_zero _)
    · intro active sync idle
      exact absurd (active sync accepted.1) (Bool.eq_false_iff.mp idle)
  · rename_i refused
    refine ⟨fun _ sync buffer => ?_, fun _ => empty⟩
    by_contra active
    have idle := Bool.eq_false_iff.mpr active
    have room : info.xmitCnt < serialXmitSize - 1 := by
      rw [(empty sync idle).1]
      decide
    exact refused ⟨buffer, .inr idle, room⟩

theorem r56FlushChars_idleEmpty {info : R56Struct} (empty : IdleEmpty info) : IdleEmpty (r56FlushChars info) := by
  unfold r56FlushChars
  split
  · exact empty
  rename_i accepted
  split
  · exact empty
  rename_i active
  split
  · rename_i sync
    exact absurd (.inl (empty sync (Bool.eq_false_iff.mpr active)).1) accepted
  · exact empty.start

theorem r56SendXchar_idleEmpty {info : R56Struct} (empty : IdleEmpty info) (ch : U8) :
    IdleEmpty (r56SendXchar info ch) := by
  have noted : IdleEmpty { info with xChar := ch } := empty
  unfold r56SendXchar
  dsimp only
  split
  · exact noted.start
  · exact noted

theorem signalRts_idleEmpty {info : R56Struct} (empty : IdleEmpty info) (on : Bool) : IdleEmpty (signalRts info on) := by
  unfold signalRts
  split
  · exact empty
  · exact empty

theorem r56Throttle_idleEmpty {info : R56Struct} (empty : IdleEmpty info) : IdleEmpty (r56Throttle info) := by
  have asked : IdleEmpty (sendStopChar info) := by
    unfold sendStopChar
    split
    · exact r56SendXchar_idleEmpty empty _
    · exact empty
  exact signalRts_idleEmpty asked false

theorem r56Unthrottle_idleEmpty {info : R56Struct} (empty : IdleEmpty info) : IdleEmpty (r56Unthrottle info) := by
  have asked : IdleEmpty (sendStartChar info) := by
    unfold sendStartChar
    split
    · split
      · exact empty
      · exact r56SendXchar_idleEmpty empty _
    · exact empty
  exact signalRts_idleEmpty asked true

/-- Stopping, where the transmitter is enabled. -/
theorem stopEnabled_idleEmpty {info : R56Struct} (empty : IdleEmpty info) :
    IdleEmpty (if info.txEnabled then uscStopTransmitter info else info) ↔
      (info.txEnabled = true → info.synchronous → info.empty) := by
  split
  · rename_i enabled
    exact (uscStopTransmitter_idleEmpty info).trans ⟨fun none _ => none, fun none => none enabled⟩
  · rename_i disabled
    exact ⟨fun _ enabled => absurd enabled disabled, fun _ => empty⟩

theorem startDisabled_idleEmpty {info : R56Struct} (empty : IdleEmpty info) : IdleEmpty (r56Start info) := by
  unfold r56Start
  split
  · exact empty
  · exact empty.start

theorem r56Txenable_idleEmpty {info : R56Struct} (empty : IdleEmpty info) : IdleEmpty (r56Txenable info true) := by
  have inserted (s : R56Struct) (empty : IdleEmpty s) : IdleEmpty (uscLoopmodeInsertRequest s) := empty
  unfold r56Txenable
  rw [if_pos rfl]
  split
  · exact empty
  dsimp only
  split
  · exact inserted _ empty.start
  · exact empty.start

theorem r56ProgramHw_xmit (info : R56Struct) : (r56ProgramHw info).xmit = info.xmit.zeroed := by
  have same {s t : R56Struct} (frame : t.exceptSettings = s.exceptSettings) : t.xmit = s.xmit := by
    have views := congrArg R56Struct.xmit frame
    exact views
  have programmed (s : R56Struct) : (programMode s).xmit = s.xmit := by
    unfold programMode
    split
    · exact same (uscSetSyncMode_frame s)
    · exact same (uscSetAsyncMode_frame s)
  have signals (s : R56Struct) : (programSignals s).xmit = s.xmit := rfl
  have prepared := (signals _).trans (programmed { uscStopTransmitter (uscStopReceiver info) with
    xmitCnt := 0, xmitHead := 0, xmitTail := 0 })
  unfold r56ProgramHw
  dsimp only
  split
  · exact (xmit_of_exceptReceiver (uscStartReceiver_frame _)).trans prepared
  · exact prepared

theorem r56ChangeParams_idleEmpty {info : R56Struct} (attached : info.port.tty = true) :
    IdleEmpty (r56ChangeParams info) ↔ (info.synchronous → info.txHoldingCount = 0) := by
  have idle := (r56ChangeParams_idle info attached).2
  have same : (r56ChangeParams info).xmit = info.xmit.zeroed := by
    unfold r56ChangeParams
    rw [if_neg (not_not.mpr attached)]
    exact r56ProgramHw_xmit _
  exact idleEmpty_ended same idle

/-- Nothing is to be sent, and nothing is being sent. -/
def Silent (s : R56Struct) (x : Xmit) : Prop := s.xmit = x ∧ s.txActive = false

theorem r56Start_silent {s : R56Struct} {x : Xmit} (sync : s.synchronous) (none : x.cnt = 0) (silent : Silent s x) :
    Silent (r56Start s) x := by
  have cnt : s.xmitCnt = 0 := (congrArg Xmit.cnt silent.1).trans none
  refine ⟨(r56Start_xmit sync).trans silent.1, ?_⟩
  unfold r56Start
  split
  · exact silent.2
  · rw [uscStartTransmitter_txActive, silent.2, cnt]
    rfl

theorem r56SetTermios_idleEmpty {info : R56Struct} (oldCflag : U32) (attached : info.port.tty = true) :
    IdleEmpty (r56SetTermios info oldCflag) ↔ (info.synchronous → info.txHoldingCount = 0) := by
  have changed : Silent (r56ChangeParams info) info.xmit.zeroed := by
    refine ⟨?_, (r56ChangeParams_idle info attached).2⟩
    unfold r56ChangeParams
    rw [if_neg (not_not.mpr attached)]
    exact r56ProgramHw_xmit _
  have entered (s : R56Struct) (silent : Silent s info.xmit.zeroed) : Silent (enterB0 s oldCflag) info.xmit.zeroed := by
    unfold enterB0
    split
    · exact silent
    · exact silent
  have left (s : R56Struct) (silent : Silent s info.xmit.zeroed) : Silent (leaveB0 s oldCflag) info.xmit.zeroed := by
    unfold leaveB0
    dsimp only
    split
    · exact silent
    · exact silent
  have before := left _ (entered _ changed)
  by_cases sync : info.synchronous
  · have still (s : R56Struct) (silent : Silent s info.xmit.zeroed) : s.synchronous := by
      have mode : s.params.mode = info.params.mode := congrArg Xmit.mode silent.1
      unfold R56Struct.synchronous
      rw [mode]
      exact sync
    have after : Silent (r56SetTermios info oldCflag) info.xmit.zeroed := by
      show Silent (leaveCrtscts (leaveB0 (enterB0 (r56ChangeParams info) oldCflag) oldCflag) oldCflag) _
      unfold leaveCrtscts
      split
      · exact r56Start_silent (s := { leaveB0 (enterB0 (r56ChangeParams info) oldCflag) oldCflag with
          tty := { (leaveB0 (enterB0 (r56ChangeParams info) oldCflag) oldCflag).tty with hwStopped := false } })
          (still _ before) rfl before
      · exact before
    exact idleEmpty_ended after.1 after.2
  · have mode : (r56SetTermios info oldCflag).params.mode = info.params.mode :=
      (congrArg (·.params.mode) (setup_kept.termios (r56ChangeParams info) oldCflag)).trans (r56ChangeParams_setup info).2
    refine ⟨fun _ here => absurd here sync, fun _ there => ?_⟩
    unfold R56Struct.synchronous at there sync
    rw [mode] at there
    exact absurd there sync

theorem r56IsrTransmitDma_idleEmpty {info : R56Struct} (empty : IdleEmpty info) : IdleEmpty (r56IsrTransmitDma info) := by
  have active : (r56IsrTransmitDma info).txActive = info.txActive := by
    unfold r56IsrTransmitDma txBufferDone
    dsimp only
    split
    · split
      · exact loadNextTxHoldingBuffer_txActive _
      · exact loadNextTxHoldingBuffer_txActive _
    · rfl
  rcases r56IsrTransmitDma_xmit info with same | ⟨waiting, loaded⟩
  · exact empty.of_xmit same active
  · have mode : (r56IsrTransmitDma info).params.mode = info.params.mode := congrArg Xmit.mode loaded
    intro sync idle
    unfold R56Struct.synchronous at sync
    rw [mode] at sync
    exact absurd (empty sync (active.symm.trans idle)).2 waiting

theorem r56IsrTransmitStatus_idleEmpty (info : R56Struct) :
    IdleEmpty (r56IsrTransmitStatus info) ↔ (info.synchronous → info.txHoldingCount = 0) := by
  have dropped (s : R56Struct) : (dropAutoRts s).txActive = s.txActive := by
    unfold dropAutoRts negateRts
    split
    · split
      · rfl
      · rfl
    · rfl
  have idle : (r56IsrTransmitStatus info).txActive = false := by
    have acked := dropped (ackTxStatus info (uscInReg info.usc .tcsr))
    unfold r56IsrTransmitStatus
    dsimp only
    split
    · exact acked
    split
    · rfl
    · exact acked
  exact idleEmpty_ended (r56IsrTransmitStatus_xmit info) idle

theorem uscLoadTxfifo_txActive (info : R56Struct) : (uscLoadTxfifo info).txActive = info.txActive :=
  congrArg (·.2.2.1) (uscLoadTxfifo_sending info)

/-- The interrupt for room in the transmit FIFO. -/
theorem r56IsrTransmitData_idleEmpty {info : R56Struct} (empty : IdleEmpty info) :
    IdleEmpty (r56IsrTransmitData info) ↔
      (info.ttyStopped = true → info.synchronous → info.empty) ∧
        (info.ttyStopped = false ∧ info.xmitCnt = 0 → info.synchronous → info.txHoldingCount = 0) := by
  unfold r56IsrTransmitData
  dsimp only
  split
  · rename_i stopped
    have stopped : info.ttyStopped = true := stopped
    refine (uscStopTransmitter_idleEmpty _).trans ⟨fun none => ⟨fun _ => none, fun runs => ?_⟩, fun none => none.1 stopped⟩
    rw [stopped] at runs
    exact absurd runs.1 (by decide)
  · rename_i runs
    have runs : info.ttyStopped = false := Bool.eq_false_iff.mpr runs
    have fed : IdleEmpty (continueAsync { info with usc := uscClearIrqPendingBits info.usc transmitData }) ↔
        (info.xmitCnt = 0 → info.synchronous → info.txHoldingCount = 0) := by
      unfold continueAsync
      split
      · rename_i some
        have some : info.xmitCnt ≠ 0 := some
        refine ⟨fun _ none => absurd none some, fun _ sync idle => ?_⟩
        rw [uscLoadTxfifo_txActive] at idle
        have mode : (uscLoadTxfifo { info with usc := uscClearIrqPendingBits info.usc transmitData }).params.mode =
            info.params.mode := congrArg (·.params.mode) (uscLoadTxfifo_frame _)
        unfold R56Struct.synchronous at sync
        rw [mode] at sync
        exact absurd (empty sync idle).1 some
      · rename_i none
        have none : info.xmitCnt = 0 := not_not.mp none
        exact ⟨fun drained _ sync => (drained sync rfl).2, fun held sync _ => ⟨none, held none sync⟩⟩
    have shown : IdleEmpty (if (continueAsync { info with usc := uscClearIrqPendingBits info.usc transmitData }).xmitCnt <
        wakeupChars then { continueAsync { info with usc := uscClearIrqPendingBits info.usc transmitData } with
          pendingBh := (continueAsync { info with usc := uscClearIrqPendingBits info.usc transmitData }).pendingBh |||
            bhTransmit }
        else continueAsync { info with usc := uscClearIrqPendingBits info.usc transmitData }) ↔
        IdleEmpty (continueAsync { info with usc := uscClearIrqPendingBits info.usc transmitData }) := by
      split
      · exact Iff.rfl
      · exact Iff.rfl
    refine shown.trans (fed.trans
      ⟨fun held => ⟨fun stopped => ?_, fun free => held free.2⟩, fun both none => both.2 ⟨runs, none⟩⟩)
    rw [runs] at stopped
    exact absurd stopped (by decide)

theorem idleEmpty_of_exceptChip {s t : R56Struct} (frame : t.exceptChip = s.exceptChip) : IdleEmpty t ↔ IdleEmpty s :=
  ⟨fun empty => empty.of_exceptReception (exceptReception_of_exceptChip frame.symm),
    fun empty => empty.of_exceptReception (exceptReception_of_exceptChip frame)⟩

theorem ctsFlowControl_idleEmpty {info : R56Struct} (empty : IdleEmpty info) (status : U16) :
    IdleEmpty (ctsFlowControl info status) ↔
      (info.tty.hwStopped = false ∧ status &&& miscstatusCts = 0 → info.synchronous → info.empty) := by
  have done (s : R56Struct) : IdleEmpty (ioPinDone s status) ↔ IdleEmpty s :=
    idleEmpty_of_exceptChip (ioPinDone_frame s status)
  unfold ctsFlowControl
  dsimp only
  split
  · rename_i held
    have goes : info.tty.hwStopped = false ∧ status &&& miscstatusCts = 0 → info.synchronous → info.empty := by
      rintro ⟨free, _⟩
      rw [held] at free
      exact absurd free (by decide)
    split
    · have resumed : IdleEmpty { info with tty := { info.tty with hwStopped := false } } := empty
      exact ⟨fun _ => goes, fun _ => resumed.start⟩
    · exact ⟨fun _ => goes, fun _ => (done info).mpr empty⟩
  · rename_i free
    have free := Bool.eq_false_iff.mpr free
    split
    · rename_i lost
      have stopped := uscStopTransmitter_idleEmpty { info with tty := { info.tty with hwStopped := true } }
      exact (done _).trans (stopped.trans ⟨fun none _ => none, fun none => none ⟨free, lost⟩⟩)
    · rename_i present
      exact ⟨fun _ lost => absurd lost.2 present, fun _ => (done info).mpr empty⟩

/-- The interrupt for the input lines. -/
theorem r56IsrIoPin_idleEmpty {info : R56Struct} (empty : IdleEmpty info) :
    IdleEmpty (r56IsrIoPin info) ↔ (info.ctsLost → info.synchronous → info.empty) := by
  unfold r56IsrIoPin R56Struct.ctsLost
  dsimp only
  generalize uscInReg info.usc .misr = status
  generalize uscUnlatchIostatusBits _ status = u
  have acked : IdleEmpty { info with usc := u } := empty
  have done (s : R56Struct) : IdleEmpty (ioPinDone s status) ↔ IdleEmpty s :=
    idleEmpty_of_exceptChip (ioPinDone_frame s status)
  split
  · rename_i lines
    have frame := countIoPins_frame { info with usc := u } status
    have counted : IdleEmpty (countIoPins { info with usc := u } status) := (idleEmpty_of_exceptChip frame).mpr acked
    have port : (countIoPins { info with usc := u } status).port = info.port := congrArg (·.port) frame
    have held : (countIoPins { info with usc := u } status).tty.hwStopped = info.tty.hwStopped :=
      congrArg (·.tty.hwStopped) frame
    have same := xmit_of_exceptChip frame
    have mode : (countIoPins { info with usc := u } status).params.mode = info.params.mode := congrArg Xmit.mode same
    have cnt : (countIoPins { info with usc := u } status).xmitCnt = info.xmitCnt := congrArg Xmit.cnt same
    have holding : (countIoPins { info with usc := u } status).txHoldingCount = info.txHoldingCount :=
      congrArg Xmit.holding same
    unfold serviceIoPins
    dsimp only
    rw [port]
    split
    · rename_i flow
      have control := ctsFlowControl_idleEmpty counted status
      unfold R56Struct.synchronous R56Struct.empty at control
      rw [held, mode, cnt, holding] at control
      exact control.trans ⟨fun none lost => none lost.2.2, fun none lost => none ⟨lines, flow, lost⟩⟩
    · rename_i none
      exact ⟨fun _ lost => absurd lost.2.1 none, fun _ => (done _).mpr counted⟩
  · rename_i quiet
    exact ⟨fun _ lost => absurd lost.1 quiet, fun _ => (done _).mpr acked⟩

theorem r56Interrupt_idleEmpty {info : R56Struct} (empty : IdleEmpty info) (report : UscReport) :
    IdleEmpty (r56Interrupt (info.reporting report)) ↔ KeepsIdleEmpty info (.interrupt report) := by
  have shown : IdleEmpty (info.reporting report) := empty
  have scheduled : IdleEmpty (r56Interrupt (info.reporting report)) ↔
      IdleEmpty (serviceInterrupt (info.reporting report)) := by
    have after := xmit_of_exceptReception (scheduleBh_frame (haltOnOverflow (serviceInterrupt (info.reporting report))))
    have active : (r56Interrupt (info.reporting report)).txActive =
        (haltOnOverflow (serviceInterrupt (info.reporting report))).txActive := congrArg (·.txActive)
      (scheduleBh_frame (haltOnOverflow (serviceInterrupt (info.reporting report))))
    have halted := idleEmpty_of_exceptChip (haltOnOverflow_frame (serviceInterrupt (info.reporting report)))
    exact Iff.trans ⟨fun kept => kept.of_xmit after.symm active.symm, fun kept => kept.of_xmit after active⟩ halted
  have served := serviceInterrupt_serviced (info.reporting report)
  -- the condition says something about three of the vectors
  have quiet (vector : (info.reporting report).uscVector ≠ 2 ∧ (info.reporting report).uscVector ≠ 3 ∧
      (info.reporting report).uscVector ≠ 4) : KeepsIdleEmpty info (.interrupt report) := by
    constructor
    · rintro (lost | stopped)
      · exact absurd lost.1 vector.1
      · exact absurd stopped.1 vector.2.1
    · rintro (sent | fed)
      · exact absurd sent vector.2.2
      · exact absurd fed.1 vector.2.1
  have other {after : R56Struct} (frame : after.exceptReception = (info.reporting report).exceptReception)
      (vector : (info.reporting report).uscVector ≠ 2 ∧ (info.reporting report).uscVector ≠ 3 ∧
        (info.reporting report).uscVector ≠ 4) : IdleEmpty after ↔ KeepsIdleEmpty info (.interrupt report) :=
    ⟨fun _ => quiet vector, fun _ => shown.of_exceptReception frame⟩
  rw [scheduled]
  generalize serviceInterrupt (info.reporting report) = after at served ⊢
  cases served with
  | transmitDma vector _ =>
    exact ⟨fun _ => quiet (by omega), fun _ => r56IsrTransmitDma_idleEmpty shown⟩
  | receiveDma vector _ => exact other (r56IsrReceiveDma_frame _) (by omega)
  | misc vector => exact other (r56IsrMisc_frame _) (by omega)
  | ioPin vector =>
    refine (r56IsrIoPin_idleEmpty shown).trans ?_
    constructor
    · intro none
      refine ⟨?_, ?_⟩
      · rintro (lost | stopped)
        · exact none lost.2
        · omega
      · rintro (sent | fed)
        · omega
        · omega
    · intro none lost
      exact none.1 (.inl ⟨vector, lost⟩)
  | transmitData vector =>
    refine (r56IsrTransmitData_idleEmpty shown).trans ?_
    constructor
    · intro none
      refine ⟨?_, ?_⟩
      · rintro (lost | stopped)
        · omega
        · exact none.1 stopped.2
      · rintro (sent | fed)
        · omega
        · exact none.2 fed.2
    · intro none
      exact ⟨fun stopped => none.1 (.inr ⟨vector, stopped⟩), fun fed => none.2 (.inr ⟨vector, fed⟩)⟩
  | transmitStatus vector =>
    refine (r56IsrTransmitStatus_idleEmpty (info.reporting report)).trans ?_
    constructor
    · intro none
      refine ⟨?_, fun _ => none⟩
      rintro (lost | stopped)
      · omega
      · omega
    · intro none
      exact none.2 (.inl vector)
  | receiveData vector => exact other (exceptReception_of_exceptChip (r56IsrReceiveData_frame _)) (by omega)
  | receiveStatus vector => exact other (r56IsrReceiveStatus_frame _) (by omega)
  | null vector => exact other rfl (by omega)

/-- A step from an idle port that is empty leads to one exactly when it meets its condition. -/
theorem exec_idleEmpty {info after : R56Struct} {op : Op} (attached : info.port.tty = true) (empty : IdleEmpty info)
    (ran : exec info op = some after) : IdleEmpty after ↔ KeepsIdleEmpty info op := by
  have free {after : R56Struct} (next : IdleEmpty after) : IdleEmpty after ↔ True := ⟨fun _ => trivial, fun _ => next⟩
  have chip {after : R56Struct} (frame : after.exceptChip = info.exceptChip) : IdleEmpty after ↔ True :=
    free ((idleEmpty_of_exceptChip frame).mpr empty)
  cases op with
  | write buf count => cases ran; exact r56Write_idleEmpty empty buf count
  | putChar ch => cases ran; exact r56PutChar_idleEmpty empty ch
  | flushChars => cases ran; exact free (r56FlushChars_idleEmpty empty)
  | flushBuffer => cases ran; exact free fun sync idle => ⟨rfl, (empty sync idle).2⟩
  | stop => cases ran; exact stopEnabled_idleEmpty empty
  | start => cases ran; exact free (startDisabled_idleEmpty empty)
  | sendXchar ch => cases ran; exact free (r56SendXchar_idleEmpty empty ch)
  | throttle => cases ran; exact free (r56Throttle_idleEmpty empty)
  | unthrottle => cases ran; exact free (r56Unthrottle_idleEmpty empty)
  | txenable enable =>
    cases ran
    cases enable with
    | true => exact free (r56Txenable_idleEmpty empty)
    | false => exact stopEnabled_idleEmpty empty
  | rxenable enable =>
    cases ran
    have active : (r56Rxenable info enable).txActive = info.txActive :=
      congrArg (·.2.2.1) (r56Rxenable_sending info enable)
    exact free (empty.of_xmit (r56Rxenable_xmit info enable) active)
  | txabort => cases ran; exact chip (r56Txabort_frame info)
  | loopmodeSendDone => cases ran; exact chip (r56LoopmodeSendDone_frame info)
  | setParams newParams =>
    cases ran
    exact @r56ChangeParams_idleEmpty { info with params := newParams } attached
  | setTermios cCflag cIflag baudRate =>
    cases ran
    exact @r56SetTermios_idleEmpty { info with
      tty := { info.tty with cCflag := cCflag, cIflag := cIflag, baudRate := baudRate } } info.tty.cCflag attached
  | setTxidle idleMode => cases ran; exact chip (r56SetTxidle_frame info idleMode)
  | tiocmset set clear => cases ran; exact free empty
  | dtrRts on => cases ran; exact free empty
  | setBreak on => cases ran; exact chip (r56Break_frame info on)
  | interrupt report => cases ran; exact r56Interrupt_idleEmpty empty report
  | bhReceive =>
    have frame := r56BhReceive_frame ran
    exact free (empty.of_exceptReception (exceptReception_of_exceptReceiver frame))
  | bhTransmit => cases ran; exact chip (r56BhTransmit_frame info)
  | bhStatus => cases ran; exact chip (r56BhStatus_frame info)
  | txTimeout =>
    cases ran
    exact idleEmpty_ended (r56TxTimeout_xmit info) (r56TxTimeout_txActive info)
  | flow stopped hwStopped => cases ran; exact free empty
  | reception list rxDma => cases ran; exact free empty

/-- An opened port: the tty is attached, and a frame has a size. -/
structure Attached (info : R56Struct) : Prop where
  tty : info.port.tty = true
  frame : info.maxFrameSize ≠ 0

theorem Attached.exec {info after : R56Struct} (attached : Attached info) {op : Op} (ran : exec info op = some after) :
    Attached after := by
  have kept := exec_exceptParams ran
  have tty : after.port.tty = info.port.tty := congrArg Setup.tty kept
  have frame : after.maxFrameSize = info.maxFrameSize := congrArg Setup.maxFrameSize kept
  exact ⟨tty.trans attached.tty, frame ▸ attached.frame⟩

theorem r56Open_attached {info : R56Struct} (physEntry : Nat → U32) (frame : 4096 ≤ info.maxFrameSize) :
    Attached (r56Open info physEntry) ∧ IdleEmpty (r56Open info physEntry) := by
  generalize claimed : r56AllocIntermediateRxbufferMemory (r56AllocBufferListMemory (countDmaBuffers
    (requestIrq (startupBegin { info with port := { info.port with tty := true, count := 1 } }))) physEntry) = s
  have tty : s.port.tty = true := by
    rw [← claimed]
    rfl
  have size : s.maxFrameSize = info.maxFrameSize := by
    rw [← claimed]
    rfl
  have holding : s.txHoldingCount = 0 := by
    rw [← claimed]
    rfl
  have opened : r56Open info physEntry = startupEnd s := by
    rw [← claimed]
    rfl
  have changed := r56ChangeParams_setup s
  have same : (r56ChangeParams s).maxFrameSize = s.maxFrameSize := congrArg Setup.maxFrameSize changed.1
  have attached : (r56ChangeParams s).port.tty = s.port.tty := congrArg Setup.tty changed.1
  have empty : IdleEmpty (r56ChangeParams s) := (r56ChangeParams_idleEmpty tty).mpr fun _ => holding
  rw [opened]
  refine ⟨⟨attached.trans tty, ?_⟩, empty⟩
  show (r56ChangeParams s).maxFrameSize ≠ 0
  omega

/-- On a port just opened nothing waits, and the runs in whose states nothing waits when the driver
says that everything was sent are those whose steps all meet their conditions. -/
theorem drained_iff_kept {info : R56Struct} {physEntry : Nat → U32} (frame : 4096 ≤ info.maxFrameSize)
    {p : List (Op × R56Struct)} (run : Run Step (r56Open info physEntry) p) :
    Drained (r56Open info physEntry) ∧
      ((∀ x ∈ p, Drained x.2) ↔ Run (fun s op _ => KeepsIdleEmpty s op) (r56Open info physEntry) p) := by
  obtain ⟨attached, empty⟩ := @r56Open_attached info physEntry frame
  have exact_step : ∀ s op t, IdleEmpty s → Attached s → Step s op t → (IdleEmpty t ↔ KeepsIdleEmpty s op) :=
    fun _ _ _ empty attached step => exec_idleEmpty attached.tty empty step.1
  have preserved : ∀ s op t, Attached s → Step s op t → Attached t := fun _ _ _ attached step => attached.exec step.1
  have exact_run := run.good_iff exact_step preserved empty attached
  have everywhere := run.invariant preserved attached
  have same : (∀ x ∈ p, Drained x.2) ↔ ∀ x ∈ p, IdleEmpty x.2 :=
    forall₂_congr fun x member => drained_iff (everywhere x member).frame
  exact ⟨(drained_iff attached.frame).mpr empty, same.trans exact_run⟩

/-- A byte is written to a port that was opened, and sent. -/
theorem drained_iff_kept_sent :
    let start := r56Open r56AllocateDevice fun _ => 0
    let sending := (r56Write start (fun _ => 0x55) 1).1
    let idle := r56Interrupt (sending.reporting frameSent)
    waitsUntilSent sending = true ∧ waitsUntilSent idle = false ∧ Drained sending ∧ Drained idle := by
  intro start sending idle
  have steps : Run Step start [(.write (fun _ => 0x55) 1, sending), (.interrupt frameSent, idle)] :=
    ⟨⟨rfl, nofun⟩, ⟨rfl, nofun⟩, trivial⟩
  have runs : start.ttyStopped = false := by decide
  have vector : (sending.reporting frameSent).uscVector = 4 := by decide
  have sent : ¬(sending.reporting frameSent).halts := by
    rintro (⟨two, _⟩ | ⟨three, _⟩)
    · exact absurd (vector.symm.trans two) (by decide)
    · exact absurd (vector.symm.trans three) (by decide)
  have none : sending.txHoldingCount = 0 := by decide
  have drained := (@drained_iff_kept r56AllocateDevice (fun _ => 0) (by decide) _ steps).2.mpr
    ⟨fun _ _ _ _ _ => runs, ⟨fun halts => absurd halts sent, fun _ _ => none⟩, trivial⟩
  exact ⟨by decide, by decide, drained _ List.mem_cons_self, drained _ (.tail _ List.mem_cons_self)⟩

/-- A port that was opened and then stopped. -/
def stoppedPort : R56Struct :=
  { r56Open r56AllocateDevice fun _ => 0 with
    tty := { (r56Open r56AllocateDevice fun _ => 0).tty with stopped := true, hwStopped := false } }

/-- A byte written to a stopped port is accepted and waits, and the driver says that everything was sent. -/
theorem stopped_write_waits :
    let after := (r56Write stoppedPort (fun _ => 0x55) 1).1
    Step (r56Open r56AllocateDevice fun _ => 0) (.flow true false) stoppedPort ∧
      Step stoppedPort (.write (fun _ => 0x55) 1) after ∧ (r56Write stoppedPort (fun _ => 0x55) 1).2 = 1 ∧
      r56CharsInBuffer after = 0 ∧ after.xmitCnt = 1 ∧ ¬Drained after := by
  have sync : (r56Write stoppedPort (fun _ => 0x55) 1).1.synchronous := by decide +kernel
  have chars : r56CharsInBuffer (r56Write stoppedPort (fun _ => 0x55) 1).1 = 0 := by decide +kernel
  have cnt : (r56Write stoppedPort (fun _ => 0x55) 1).1.xmitCnt = 1 := by decide +kernel
  have took : (r56Write stoppedPort (fun _ => 0x55) 1).2 = 1 := by decide +kernel
  refine ⟨⟨rfl, fun timeout => nomatch timeout⟩, ⟨rfl, fun timeout => nomatch timeout⟩, took, chars, cnt, fun drained => ?_⟩
  have none := (drained sync (.inl chars)).1
  rw [cnt] at none
  exact absurd none (by decide)

end Route56
