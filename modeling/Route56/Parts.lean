import Route56.Control

namespace Route56

/-- The two vector registers name the transmit DMA channel. -/
def R56Struct.transmitDmaVector (info : R56Struct) : Prop :=
  info.uscVector = 0 ∧ uscInDmaReg info.usc .divr &&& (bit10 ||| bit9) = bit10

/-- CTS is lost on a port whose output it controls. -/
def R56Struct.ctsLost (info : R56Struct) : Prop :=
  let status := uscInReg info.usc .misr
  status &&& miscstatusLines ≠ 0 ∧ (info.port.ctsFlow = true ∧ status &&& miscstatusCtsLatched ≠ 0) ∧
    info.tty.hwStopped = false ∧ status &&& miscstatusCts = 0

/-- The operation calls `usc_stop_transmitter`. -/
def stopsTransmitter (info : R56Struct) : Op → Prop
  | .stop => info.txEnabled = true
  | .txenable enable => enable = false ∧ info.txEnabled = true
  | .interrupt report =>
    let shown := info.reporting report
    shown.uscVector = 2 ∧ shown.ctsLost ∨ shown.uscVector = 3 ∧ info.ttyStopped = true ∨
      shown.uscVector = 4 ∧ info.netcount = 0 ∧ info.ttyStopped = true
  | _ => False

/-- The operation ends the sending where it does not stop the transmitter. -/
def endsSending (info : R56Struct) : Op → Prop
  | .txTimeout => True
  | .interrupt report =>
    let shown := info.reporting report
    shown.uscVector = 4 ∨ shown.uscVector = 3 ∧ info.ttyStopped = false ∧ info.xmitCnt = 0
  | _ => False

/-- The operation loads frames into the transmit ring or holds them back. -/
def usesTxRing (info : R56Struct) : Op → Prop
  | .write .. | .flushChars => True
  | .interrupt report => (info.reporting report).transmitDmaVector
  | _ => False

/-- The operation puts characters into `xmit_buf`. -/
def Op.collects : Op → Prop
  | .write .. | .putChar _ => True
  | _ => False

/-- The operation sets RTS or DTR other than as a frame begins or ends. -/
def Op.setsSignals : Op → Prop
  | .throttle | .unthrottle | .tiocmset .. | .dtrRts _ => True
  | _ => False

def Op.interrupts : Op → Prop
  | .interrupt _ => True
  | _ => False

/-- The request reprograms the chip. -/
def Op.programs : Op → Prop
  | .setParams _ | .setTermios .. => True
  | _ => False

/-- A relation that composes and holds of what any operation may call. -/
structure KeptCore (R : R56Struct → R56Struct → Prop) : Prop where
  refl : ∀ s, R s s
  trans : ∀ {s t u}, R s t → R t u → R s u
  reception : ∀ {s t : R56Struct}, t.exceptReception = s.exceptReception → t.control = s.control → R s t
  flow : ∀ (s : R56Struct) (stopped hwStopped : Bool),
    R s { s with tty := { s.tty with stopped := stopped, hwStopped := hwStopped } }
  xchar : ∀ (s : R56Struct) (ch : U8), R s { s with xChar := ch }
  read : ∀ s, R s (uscGetSerialSignals s)
  negate : ∀ s, R s (negateRts s)
  dropped : ∀ s : R56Struct, R s { s with dropRtsOnTxDone := false }
  enable : ∀ s : R56Struct, s.xmitCnt = 0 → R s (uscStartTransmitter s)
  fed : ∀ s : R56Struct, s.xmitCnt ≠ 0 → R s (uscLoadTxfifo s)
  reset : ∀ s : R56Struct, R s { s with usc := uscDmaCmd s.usc dmaCmdResetTxChannel }
  sendDone : ∀ s, R s (uscLoopmodeSendDone s)
  insertion : ∀ (s : R56Struct) (status : U16), R s (completeInsertion s status)

/-- A relation that holds also of what the operation `op` calls in the state `info`, apart from
the start of a frame and from what it does with the characters and frames to be sent. -/
structure KeptCalls (R : R56Struct → R56Struct → Prop) (info : R56Struct) (op : Op) : Prop extends KeptCore R where
  noted : op.interrupts →
    ∀ {s t : R56Struct}, t.exceptReception = s.exceptReception → t.output = s.output → R s t
  stop : stopsTransmitter info op → ∀ s, R s (uscStopTransmitter s)
  ended : endsSending info op → ∀ s : R56Struct, R s { endTransmission s with txTimer := false }
  idle : endsSending info op → ∀ s : R56Struct, s.xmitCnt = 0 → R s { s with txActive := false }
  set : op.setsSignals → ∀ (s : R56Struct) (signals : U8), R s (uscSetSerialSignals { s with serialSignals := signals })
  insert : op = .txenable true → ∀ s, R s (uscLoopmodeInsertRequest s)
  request : op = .loopmodeSendDone → ∀ s : R56Struct, s.txActive = true →
    R s { s with loopmodeSendDoneRequested := true }

/-- A relation that holds of all that the operation `op` calls in the state `info`, apart from
the start of a frame. -/
structure KeptParts (R : R56Struct → R56Struct → Prop) (info : R56Struct) (op : Op) : Prop extends KeptCalls R info op where
  flush : op = .flushBuffer → ∀ s, R s (r56FlushBuffer s)
  collect : op.collects → ∀ (s : R56Struct) (ch : U8), s.xmitCnt < serialXmitSize - 1 →
    (s.params.mode = r56ModeAsync ∨ s.txActive = false) →
    R s { s with
      xmitBuf := Function.update s.xmitBuf s.xmitHead ch
      xmitHead := (s.xmitHead + 1) % serialXmitSize
      xmitCnt := s.xmitCnt + 1 }
  chunk : op.collects → ∀ (s : R56Struct) (buf : Nat → U8) (c : Nat), ¬s.synchronous → c ≠ 0 →
    s.xmitCnt + c < serialXmitSize → s.xmitHead + c ≤ serialXmitSize →
    R s { s with
      xmitBuf := Memory.blit s.xmitBuf s.xmitHead (Memory.read buf 0 c)
      xmitHead := (s.xmitHead + c) % serialXmitSize
      xmitCnt := s.xmitCnt + c }
  loadXmitBuf : usesTxRing info op → ∀ s : R56Struct, s.synchronous → s.txActive = false → s.xmitCnt ≠ 0 →
    R s (loadXmitBuf s)
  loadWrite : usesTxRing info op → ∀ (s : R56Struct) (buf : Nat → U8) (count : Nat),
    s.synchronous → s.txActive = false → s.xmitCnt = 0 →
    R s (r56LoadTxDmaBuffer { s with xmitCnt := count } .write buf count)
  hold : usesTxRing info op → ∀ (s : R56Struct) (buf : Nat → U8) (count : Nat), s.synchronous →
    s.params.mode ≠ r56ModeHdlc → s.txActive = true → s.txHoldingCount < s.numTxHoldingBuffers →
    R s (saveTxBufferRequest s buf count)
  unhold : usesTxRing info op → ∀ s : R56Struct, R s (loadNextTxHoldingBuffer s).1
  emptied : usesTxRing info op → ∀ s : R56Struct, R s { s with txDmaBuffersUsed := s.txDmaBuffersUsed - 1 }

namespace KeptCore

variable {R : R56Struct → R56Struct → Prop} (kept : KeptCore R)

include kept

theorem chip {s t : R56Struct} (frame : t.exceptChip = s.exceptChip) (control : t.control = s.control) : R s t :=
  kept.reception (exceptReception_of_exceptChip frame) control

theorem receiver {s t : R56Struct} (frame : t.exceptReceiver = s.exceptReceiver) (control : t.control = s.control) :
    R s t :=
  kept.reception (exceptReception_of_exceptReceiver frame) control

/-- Something is sent, or the transmitter is merely enabled. -/
theorem start (s : R56Struct) (begins : s.xmitCnt ≠ 0 → R s (uscStartTransmitter s)) : R s (uscStartTransmitter s) := by
  by_cases queued : s.xmitCnt = 0
  · exact kept.enable s queued
  · exact begins queued

theorem startIfIdle (s : R56Struct) (begins : s.xmitCnt ≠ 0 → s.ttyStopped = false → s.txActive = false →
    R s (uscStartTransmitter s)) : R s (startIfIdle s) := by
  unfold Route56.startIfIdle
  split
  · rename_i ready
    split
    · exact kept.refl s
    · rename_i idle
      exact begins ready.1 (Bool.eq_false_iff.mpr ready.2) (Bool.eq_false_iff.mpr idle)
  · exact kept.refl s

theorem startDisabled (s : R56Struct) (begins : s.resumable → R s (uscStartTransmitter s)) : R s (r56Start s) := by
  unfold r56Start
  split
  · exact kept.refl s
  · rename_i disabled
    exact kept.start s fun queued => begins ⟨Bool.eq_false_iff.mpr disabled, queued⟩

theorem sendXchar (s : R56Struct) (ch : U8)
    (begins : ch ≠ 0 → s.resumable → ∀ t, R t (uscStartTransmitter t)) : R s (r56SendXchar s ch) := by
  have noted := kept.xchar s ch
  unfold r56SendXchar
  dsimp only
  split
  · rename_i pending
    refine kept.trans noted (kept.start _ fun queued => begins pending.1 ⟨?_, queued⟩ _)
    exact Bool.eq_false_iff.mpr pending.2
  · exact noted

theorem rxenable (s : R56Struct) (enable : Bool) : R s (r56Rxenable s enable) := by
  refine kept.receiver ?_ (r56Rxenable_control s enable)
  unfold r56Rxenable
  split
  · split
    · rfl
    · exact uscStartReceiver_frame s
  · split
    · exact uscStopReceiver_frame s
    · rfl

theorem cancel (s : R56Struct) : R s (uscLoopmodeCancelTransmit s) := by
  have purged : R s { s with usc := uscRTCmd s.usc rtCmdPurgeTxFifo } := kept.chip rfl rfl
  exact kept.trans purged (kept.trans (kept.reset _) (kept.sendDone _))

theorem txabort (s : R56Struct) : R s (r56Txabort s) := by
  unfold r56Txabort
  split
  · split
    · exact kept.cancel s
    · exact kept.chip rfl rfl
  · exact kept.refl s

theorem bhTransmit (s : R56Struct) : R s (r56BhTransmit s) := by
  unfold r56BhTransmit
  split
  · exact kept.sendDone s
  · exact kept.refl s

theorem dropAutoRts (s : R56Struct) : R s (dropAutoRts s) := by
  unfold Route56.dropAutoRts
  split
  · exact kept.trans (kept.trans (kept.read s) (kept.negate _)) (kept.dropped _)
  · exact kept.refl s

/-- The copy loop of `r56_write`. -/
theorem writeAsync (chunk : ∀ (s : R56Struct) (buf : Nat → U8) (c : Nat), ¬s.synchronous → c ≠ 0 →
      s.xmitCnt + c < serialXmitSize → s.xmitHead + c ≤ serialXmitSize →
      R s { s with
        xmitBuf := Memory.blit s.xmitBuf s.xmitHead (Memory.read buf 0 c)
        xmitHead := (s.xmitHead + c) % serialXmitSize
        xmitCnt := s.xmitCnt + c })
    (buf : Nat → U8) (fuel count : Nat) (s : R56Struct) (async : ¬s.synchronous) :
    R s (writeAsync s fuel buf count).1 := by
  induction fuel generalizing s buf count with
  | zero => exact kept.refl s
  | succ fuel ih =>
    unfold Route56.writeAsync
    dsimp only
    split
    · exact kept.refl s
    · rename_i some
      have room := Nat.min_le_right count (min (serialXmitSize - s.xmitCnt - 1) (serialXmitSize - s.xmitHead))
      have count := room.trans (Nat.min_le_left _ _)
      have head := room.trans (Nat.min_le_right _ _)
      generalize min _ (min (serialXmitSize - s.xmitCnt - 1) (serialXmitSize - s.xmitHead)) = c at some count head ⊢
      exact kept.trans (chunk s buf c async some (by omega) (by omega)) (ih _ _ _ async)

end KeptCore

namespace KeptCalls

variable {R : R56Struct → R56Struct → Prop} {info : R56Struct}

theorem signalRts {op : Op} (kept : KeptCalls R info op) (sets : op.setsSignals) (s : R56Struct) (on : Bool) :
    R s (signalRts s on) := by
  unfold Route56.signalRts
  split
  · exact kept.set sets s _
  · exact kept.refl s

theorem throttle (kept : KeptCalls R info .throttle)
    (start : beginsFrame info .throttle → ∀ s, R s (uscStartTransmitter s)) : R info (r56Throttle info) := by
  have asked : R info (sendStopChar info) := by
    unfold sendStopChar
    split
    · rename_i software
      exact kept.sendXchar info _ fun some resumable => start ⟨software, some, resumable⟩
    · exact kept.refl info
  exact kept.trans asked (kept.signalRts trivial _ _)

theorem unthrottle (kept : KeptCalls R info .unthrottle)
    (start : beginsFrame info .unthrottle → ∀ s, R s (uscStartTransmitter s)) : R info (r56Unthrottle info) := by
  have asked : R info (sendStartChar info) := by
    unfold sendStartChar
    split
    · rename_i software
      split
      · exact kept.xchar info 0
      · rename_i none
        exact kept.sendXchar info _ fun some resumable => start ⟨software, not_not.mp none, some, resumable⟩
    · exact kept.refl info
  exact kept.trans asked (kept.signalRts trivial _ _)

theorem txenable {enable : Bool} (kept : KeptCalls R info (.txenable enable))
    (start : beginsFrame info (.txenable enable) → ∀ s, R s (uscStartTransmitter s)) :
    R info (r56Txenable info enable) := by
  unfold r56Txenable
  dsimp only
  split
  · rename_i on
    split
    · exact kept.refl info
    rename_i disabled
    have started := kept.toKeptCore.start info fun queued =>
      start ⟨on, Bool.eq_false_iff.mpr disabled, queued⟩ info
    split
    · exact kept.trans started (kept.insert (by rw [on]) _)
    · exact started
  rename_i off
  split
  · rename_i enabled
    exact kept.stop ⟨Bool.eq_false_iff.mpr off, enabled⟩ info
  · exact kept.refl info

theorem loopmodeSendDone (kept : KeptCalls R info .loopmodeSendDone) : R info (r56LoopmodeSendDone info) := by
  unfold r56LoopmodeSendDone
  split
  · split
    · rename_i active
      exact kept.request rfl info active
    · exact kept.sendDone info
  · exact kept.refl info

theorem txTimeout (kept : KeptCalls R info .txTimeout) : R info (r56TxTimeout info) := by
  have ended : R info (endTransmission (countTxTimeout { info with txTimer := false })) := by
    have counted : (endTransmission (countTxTimeout { info with txTimer := false })).exceptChip =
        (endTransmission { info with txTimer := false }).exceptChip := by
      have frame := congrArg endTransmission (countTxTimeout_frame { info with txTimer := false })
      exact frame
    have control : (endTransmission (countTxTimeout { info with txTimer := false })).control = info.control :=
      countTxTimeout_control { info with txTimer := false }
    exact kept.trans (kept.ended trivial info) (kept.chip counted control)
  have cancelled (s : R56Struct) : R s (cancelLoopmodeTransmit s) := by
    unfold cancelLoopmodeTransmit
    split
    · exact kept.cancel s
    · exact kept.refl s
  unfold r56TxTimeout
  dsimp only
  split
  · exact kept.trans ended (cancelled _)
  · exact kept.trans (kept.trans ended (cancelled _)) (kept.bhTransmit _)

theorem dropAutoRts_frame (s : R56Struct) : (dropAutoRts s).exceptTransmitter = s.exceptTransmitter := by
  have negated (t : R56Struct) : (negateRts t).exceptTransmitter = t.exceptTransmitter := by
    unfold negateRts
    split
    · rfl
    · rfl
  have read (t : R56Struct) : (uscGetSerialSignals t).exceptTransmitter = t.exceptTransmitter := rfl
  unfold dropAutoRts
  split
  · have dropped := (negated _).trans (read s)
    generalize negateRts (uscGetSerialSignals s) = t at dropped ⊢
    exact dropped
  · rfl

theorem isrTransmitStatus {report : UscReport} (kept : KeptCalls R info (.interrupt report))
    (vector : (info.reporting report).uscVector = 4) :
    R (info.reporting report) (r56IsrTransmitStatus (info.reporting report)) := by
  have acked (s : R56Struct) (status : U16) : R s (ackTxStatus s status) := by
    have ended := kept.ended (.inl vector) s
    unfold ackTxStatus
    dsimp only
    split
    · have unlatched : R { endTransmission s with txTimer := false } { endTransmission s with
          usc := uscUnlatchTxstatusBits (uscClearIrqPendingBits s.usc transmitStatus) status
          icount := countTxStatus s.icount status, txTimer := false } := kept.chip rfl rfl
      exact kept.trans ended (kept.trans unlatched (kept.trans (kept.reset _) (kept.chip rfl rfl)))
    · exact kept.trans ended (kept.chip rfl rfl)
  have ended := kept.trans (acked (info.reporting report) (uscInReg (info.reporting report).usc .tcsr)) (kept.dropAutoRts _)
  have frame := dropAutoRts_frame (ackTxStatus (info.reporting report) (uscInReg (info.reporting report).usc .tcsr))
  have netcount := congrArg R56Struct.netcount frame
  have stopped := congrArg R56Struct.ttyStopped frame
  unfold r56IsrTransmitStatus
  dsimp only
  split
  · exact ended
  rename_i other
  split
  · rename_i held
    have tty : info.ttyStopped = true := stopped.symm.trans held
    exact kept.trans ended (kept.stop (.inr (.inr ⟨vector, netcount.symm.trans (not_not.mp other), tty⟩)) _)
  · exact kept.trans ended (kept.noted trivial rfl rfl)

theorem isrTransmitData {report : UscReport} (kept : KeptCalls R info (.interrupt report))
    (vector : (info.reporting report).uscVector = 3) :
    R (info.reporting report) (r56IsrTransmitData (info.reporting report)) := by
  have acked (bits : U16) : R (info.reporting report)
      { info.reporting report with usc := uscClearIrqPendingBits (info.reporting report).usc bits } := kept.chip rfl rfl
  unfold r56IsrTransmitData
  dsimp only
  split
  · rename_i held
    exact kept.trans (acked transmitData) (kept.stop (.inr (.inl ⟨vector, held⟩)) _)
  rename_i free
  have continued : R (info.reporting report) (continueAsync
      { info.reporting report with usc := uscClearIrqPendingBits (info.reporting report).usc transmitData }) := by
    unfold continueAsync
    split
    · rename_i some
      exact kept.trans (acked transmitData) (kept.fed _ some)
    · rename_i none
      have none : info.xmitCnt = 0 := not_not.mp none
      exact kept.trans (acked transmitData) (kept.idle (.inr ⟨vector, Bool.eq_false_iff.mpr free, none⟩) _ none)
  split
  · exact kept.trans continued (kept.noted trivial rfl rfl)
  · exact continued

theorem ioPinDone {report : UscReport} (kept : KeptCalls R info (.interrupt report)) (s : R56Struct) (status : U16) :
    R s (ioPinDone s status) :=
  kept.noted trivial (exceptReception_of_exceptChip (ioPinDone_frame s status)) (ioPinDone_output s status)

/-- The CTS flow control of a state with the port, the tty and the characters of the interrupted one. -/
theorem ctsFlowControl {report : UscReport} (kept : KeptCalls R info (.interrupt report))
    (start : beginsFrame info (.interrupt report) → ∀ s, R s (uscStartTransmitter s))
    (vector : (info.reporting report).uscVector = 2) {s : R56Struct} (port : s.port = info.port)
    (tty : s.tty.hwStopped = info.tty.hwStopped) (queued : s.xmitCnt = info.xmitCnt) {status : U16}
    (read : uscInReg (info.reporting report).usc .misr = status)
    (latched : s.port.ctsFlow = true ∧ status &&& miscstatusCtsLatched ≠ 0) : R s (ctsFlowControl s status) := by
  have held (hwStopped : Bool) : R s { s with tty := { s.tty with hwStopped := hwStopped } } :=
    kept.flow s s.tty.stopped hwStopped
  rw [port] at latched
  unfold Route56.ctsFlowControl
  dsimp only
  split
  · rename_i stopped
    rw [tty] at stopped
    split
    · rename_i back
      refine kept.trans (kept.trans (held false) (kept.toKeptCore.start _ fun some => ?_)) (kept.noted trivial rfl rfl)
      have some : info.xmitCnt ≠ 0 := fun none => some (queued.trans none)
      exact start ⟨⟨vector, latched.1, stopped, by rw [read]; exact latched.2, by rw [read]; exact back⟩, some⟩ _
    · exact kept.ioPinDone s status
  · rename_i free
    rw [tty] at free
    split
    · rename_i lost
      have lines : status &&& miscstatusLines ≠ 0 := lines_of_cts latched.2
      have stopped := kept.stop (.inl ⟨vector, by
        unfold R56Struct.ctsLost
        rw [read]
        exact ⟨lines, latched, Bool.eq_false_iff.mpr free, lost⟩⟩) { s with tty := { s.tty with hwStopped := true } }
      exact kept.trans (kept.trans (held true) stopped) (kept.ioPinDone _ status)
    · exact kept.ioPinDone s status

theorem isrIoPin {report : UscReport} (kept : KeptCalls R info (.interrupt report))
    (start : beginsFrame info (.interrupt report) → ∀ s, R s (uscStartTransmitter s))
    (vector : (info.reporting report).uscVector = 2) :
    R (info.reporting report) (r56IsrIoPin (info.reporting report)) := by
  have acked (status : U16) : R (info.reporting report) { info.reporting report with
      usc := uscUnlatchIostatusBits (uscClearIrqPendingBits (info.reporting report).usc ioPin) status } := kept.chip rfl rfl
  unfold r56IsrIoPin
  dsimp only
  generalize read : uscInReg (info.reporting report).usc .misr = status
  refine kept.trans (acked status) ?_
  split
  · generalize shown : ({ info.reporting report with usc := _ } : R56Struct) = s
    have frame := countIoPins_frame s status
    have port : (countIoPins s status).port = info.port := by
      have same := congrArg R56Struct.port frame
      rw [← shown] at same ⊢
      exact same
    have tty : (countIoPins s status).tty.hwStopped = info.tty.hwStopped := by
      have same := congrArg (·.tty.hwStopped) frame
      rw [← shown] at same ⊢
      exact same
    have queued : (countIoPins s status).xmitCnt = info.xmitCnt := by
      have same := congrArg R56Struct.xmitCnt frame
      rw [← shown] at same ⊢
      exact same
    have counted : R s (countIoPins s status) := kept.chip frame (countIoPins_control s status)
    unfold serviceIoPins
    dsimp only
    split
    · rename_i latched
      exact kept.trans counted (kept.ctsFlowControl start vector port tty queued read latched)
    · exact kept.trans counted (kept.ioPinDone _ status)
  · exact kept.ioPinDone _ status

theorem isrReceiveStatus {report : UscReport} (kept : KeptCalls R info (.interrupt report)) (s : R56Struct) :
    R s (r56IsrReceiveStatus s) := by
  have inserted := kept.insertion s (uscInReg s.usc .rcsr)
  have counted (t : R56Struct) (ic : R56Icount) : R t { t with icount := ic } := kept.chip rfl rfl
  have recovered (t : R56Struct) (status : U16) : R t (recoverOverrun t status) :=
    kept.receiver (recoverOverrun_frame t status) (recoverOverrun_control t status)
  exact kept.trans inserted (kept.trans (counted _ _) (kept.trans (recovered _ _) (kept.chip rfl rfl)))

/-- An interrupt, given what the one for the transmit DMA channel does. -/
theorem interruptGiven {report : UscReport} (kept : KeptCalls R info (.interrupt report))
    (start : beginsFrame info (.interrupt report) → ∀ s, R s (uscStartTransmitter s))
    (dma : (info.reporting report).transmitDmaVector →
      R (info.reporting report) (r56IsrTransmitDma (info.reporting report))) :
    R info (r56Interrupt (info.reporting report)) := by
  have shown : R info (info.reporting report) := kept.chip rfl rfl
  have served : R (info.reporting report) (serviceInterrupt (info.reporting report)) := by
    have cases := serviceInterrupt_serviced (info.reporting report)
    generalize serviceInterrupt (info.reporting report) = after at cases ⊢
    cases cases with
    | transmitDma vector divr => exact dma ⟨vector, divr⟩
    | receiveDma _ _ => exact kept.noted trivial (r56IsrReceiveDma_frame _) (r56IsrReceiveDma_output _)
    | misc _ => exact kept.noted trivial (r56IsrMisc_frame _) (r56IsrMisc_output _)
    | ioPin vector => exact kept.isrIoPin start vector
    | transmitData vector => exact kept.isrTransmitData vector
    | transmitStatus vector => exact kept.isrTransmitStatus vector
    | receiveData _ => exact kept.chip (r56IsrReceiveData_frame _) (r56IsrReceiveData_control _)
    | receiveStatus _ => exact kept.isrReceiveStatus _
    | null _ => exact kept.refl _
  have halted (s : R56Struct) : R s (haltOnOverflow s) := kept.chip (haltOnOverflow_frame s) (haltOnOverflow_control s)
  have scheduled (s : R56Struct) : R s (scheduleBh s) := kept.noted trivial (scheduleBh_frame s) (scheduleBh_output s)
  exact kept.trans shown (kept.trans served (kept.trans (halted _) (scheduled _)))

/-- The interrupt for an input line starts the transmitter when CTS comes back. -/
theorem isrIoPin_begun {report : UscReport} (kept : KeptCalls R info (.interrupt report))
    (begins : beginsFrame info (.interrupt report)) :
    ∃ s, R info s ∧ s.xmitCnt ≠ 0 ∧ s.startTxDmaBuffer = info.startTxDmaBuffer ∧
      R (uscStartTransmitter s) (r56IsrIoPin (info.reporting report)) := by
  obtain ⟨⟨-, flow, held, latched, back⟩, queued⟩ := begins
  have pins : r56IsrIoPin (info.reporting report) = serviceIoPins { info.reporting report with
      usc := uscUnlatchIostatusBits (uscClearIrqPendingBits (info.reporting report).usc ioPin)
        (uscInReg (info.reporting report).usc .misr) } (uscInReg (info.reporting report).usc .misr) :=
    if_pos (lines_of_cts latched)
  generalize uscInReg (info.reporting report).usc .misr = status at pins latched back
  have acked : R info { info.reporting report with
      usc := uscUnlatchIostatusBits (uscClearIrqPendingBits (info.reporting report).usc ioPin) status } :=
    kept.chip rfl rfl
  generalize shown : ({ info.reporting report with usc := _ } : R56Struct) = s at pins acked
  have frame := countIoPins_frame s status
  have same : (countIoPins s status).exceptChip = info.exceptChip := by
    rw [frame, ← shown]
    rfl
  have counted : R s (countIoPins s status) := kept.chip frame (countIoPins_control s status)
  have ctsFlow : (countIoPins s status).port.ctsFlow = info.port.ctsFlow := congrArg (·.port.ctsFlow) same
  have stopped : (countIoPins s status).tty.hwStopped = info.tty.hwStopped := congrArg (·.tty.hwStopped) same
  have count : (countIoPins s status).xmitCnt = info.xmitCnt := congrArg (·.xmitCnt) same
  have start : (countIoPins s status).startTxDmaBuffer = info.startTxDmaBuffer := congrArg (·.startTxDmaBuffer) same
  have controlled : serviceIoPins s status = Route56.ctsFlowControl (countIoPins s status) status :=
    if_pos ⟨ctsFlow.trans flow, latched⟩
  rw [pins, controlled]
  generalize countIoPins s status = c at counted stopped count start
  refine ⟨{ c with tty := { c.tty with hwStopped := false } }, ?_, fun none => queued (count.symm.trans none), start, ?_⟩
  · exact kept.trans acked (kept.trans counted (kept.flow c c.tty.stopped false))
  · unfold Route56.ctsFlowControl
    dsimp only
    rw [if_pos (stopped.trans held), if_pos back]
    exact kept.noted trivial rfl rfl

/-- An operation that begins a frame, if it does not load it, starts the transmitter once. -/
theorem begun {op : Op} {after : R56Struct} (kept : KeptCalls R info op) (frames : ¬usesTxRing info op)
    (begins : beginsFrame info op) (ran : exec info op = some after) :
    ∃ s, R info s ∧ s.xmitCnt ≠ 0 ∧ s.startTxDmaBuffer = info.startTxDmaBuffer ∧ R (uscStartTransmitter s) after := by
  have disabled (resumable : info.resumable) : ¬info.txEnabled = true := by
    rw [resumable.1]
    decide
  have sent {ch : U8} (some : ch ≠ 0) (resumable : info.resumable) :
      r56SendXchar info ch = uscStartTransmitter { info with xChar := ch } := if_pos ⟨some, disabled resumable⟩
  cases op with
  | write buf count => exact absurd trivial frames
  | flushChars => exact absurd trivial frames
  | start =>
    cases ran
    have started : r56Start info = uscStartTransmitter info := if_neg (disabled begins)
    refine ⟨info, kept.refl info, begins.2, rfl, ?_⟩
    rw [started]
    exact kept.refl _
  | sendXchar ch =>
    cases ran
    refine ⟨{ info with xChar := ch }, kept.xchar info ch, begins.2.2, rfl, ?_⟩
    show R _ (r56SendXchar info ch)
    rw [sent begins.1 begins.2]
    exact kept.refl _
  | throttle =>
    cases ran
    have asked : sendStopChar info = uscStartTransmitter { info with xChar := info.tty.stopChar } :=
      (if_pos begins.1).trans (sent begins.2.1 begins.2.2)
    refine ⟨{ info with xChar := info.tty.stopChar }, kept.xchar info _, begins.2.2.2, rfl, ?_⟩
    rw [← asked]
    exact kept.signalRts trivial _ _
  | unthrottle =>
    cases ran
    obtain ⟨software, none, some, resumable⟩ := begins
    have asked : sendStartChar info = uscStartTransmitter { info with xChar := info.tty.startChar } :=
      (if_pos software).trans ((if_neg (not_not.mpr none)).trans (sent some resumable))
    refine ⟨{ info with xChar := info.tty.startChar }, kept.xchar info _, resumable.2, rfl, ?_⟩
    rw [← asked]
    exact kept.signalRts trivial _ _
  | txenable enable =>
    cases ran
    obtain ⟨rfl, resumable⟩ := begins
    refine ⟨info, kept.refl info, resumable.2, rfl, ?_⟩
    show R _ (r56Txenable info true)
    unfold r56Txenable
    dsimp only
    rw [if_pos rfl, if_neg (disabled resumable)]
    split
    · exact kept.insert rfl _
    · exact kept.refl _
  | interrupt report =>
    cases ran
    obtain ⟨⟨vector, flow, held, latched, back⟩, queued⟩ := begins
    have served : serviceInterrupt (info.reporting report) = r56IsrIoPin (info.reporting report) := by
      unfold serviceInterrupt
      rw [if_pos (by rw [vector]; decide), vector]
      rfl
    have halted (s : R56Struct) : R s (haltOnOverflow s) := kept.chip (haltOnOverflow_frame s) (haltOnOverflow_control s)
    have scheduled (s : R56Struct) : R s (scheduleBh s) := kept.noted trivial (scheduleBh_frame s) (scheduleBh_output s)
    obtain ⟨s, before, some, start, resumed⟩ := kept.isrIoPin_begun ⟨⟨vector, flow, held, latched, back⟩, queued⟩
    refine ⟨s, before, some, start, kept.trans resumed ?_⟩
    show R _ (scheduleBh (haltOnOverflow (serviceInterrupt (info.reporting report))))
    rw [served]
    exact kept.trans (halted _) (scheduled _)
  | _ => exact absurd begins id

end KeptCalls

namespace KeptParts

variable {R : R56Struct → R56Struct → Prop} {info : R56Struct}

theorem isrTransmitDma {report : UscReport} (kept : KeptParts R info (.interrupt report))
    (vector : (info.reporting report).transmitDmaVector) (s : R56Struct) : R s (r56IsrTransmitDma s) := by
  have done (t : R56Struct) : R t (txBufferDone t) := by
    have loaded := kept.trans (kept.emptied vector t) (kept.unhold vector _)
    unfold txBufferDone
    dsimp only
    split
    · exact kept.trans loaded (kept.noted trivial rfl rfl)
    · exact loaded
  have acked (u : Usc) (same : u.control = s.usc.control) : R s { s with usc := u } :=
    kept.chip rfl (congrArg (fun chip => { s.control with chip := chip }) same)
  unfold r56IsrTransmitDma
  dsimp only
  split
  · exact kept.trans (acked (uscOutDmaReg s.usc .cdir (bit8 + bit0)) rfl) (done _)
  · exact acked _ rfl

theorem putChar {ch : U8} (kept : KeptParts R info (.putChar ch)) : R info (r56PutChar info ch).1 := by
  unfold r56PutChar
  split
  · rename_i accepted
    exact kept.collect trivial info ch accepted.2.2 accepted.2.1
  · exact kept.refl info

theorem write {buf : Nat → U8} {count : Nat} (kept : KeptParts R info (.write buf count))
    (start : beginsFrame info (.write buf count) → ∀ s, R s (uscStartTransmitter s)) :
    R info (r56Write info buf count).1 := by
  unfold r56Write
  split
  · exact kept.refl info
  rename_i ptr
  have ptr : info.xmitBufPtr = true := not_not.mp ptr
  split
  · rename_i sync
    split
    · rename_i active
      split
      · exact kept.refl info
      rename_i raw
      split
      · exact kept.refl info
      · rename_i room
        exact kept.trans (kept.hold trivial info buf count sync raw active (Nat.lt_of_not_le room)) (kept.unhold trivial _)
    rename_i idle
    have idle := Bool.eq_false_iff.mpr idle
    split
    · exact kept.refl info
    rename_i out
    have inLoop : info.params.flags &&& hdlcFlagHdlcLoopmode ≠ 0 → uscLoopmodeActive info = true :=
      fun mode => not_not.mp fun outside => out ⟨mode, outside⟩
    have writable (some : info.xmitCnt ≠ 0 ∨ count ≠ 0) : info.writable count := by
      unfold R56Struct.writable
      rw [if_pos sync]
      exact ⟨inLoop, some⟩
    split
    · rename_i queued
      refine kept.trans (kept.loadXmitBuf trivial info sync idle queued) (kept.toKeptCore.startIfIdle _ fun _ free _ => ?_)
      exact start ⟨⟨ptr, free, idle⟩, writable (.inl queued)⟩ _
    · rename_i empty
      refine kept.trans (kept.loadWrite trivial info buf count sync idle (not_not.mp empty))
        (kept.toKeptCore.startIfIdle _ fun some free _ => ?_)
      exact start ⟨⟨ptr, free, idle⟩, writable (.inr some)⟩ _
  · rename_i async
    refine kept.trans (kept.toKeptCore.writeAsync (kept.chunk trivial) buf (count + 1) count info async)
      (kept.toKeptCore.startIfIdle _ fun some free idle => ?_)
    have keeps := writeAsync_keeps buf (count + 1) count info
    have writable : info.writable count := by
      unfold R56Struct.writable
      rw [if_neg async]
      exact (writeAsync_xmitCnt buf count info).mp some
    exact start ⟨⟨ptr, keeps.2.1.symm.trans free, keeps.2.2.1.symm.trans idle⟩, writable⟩ _

theorem flushChars (kept : KeptParts R info .flushChars)
    (start : beginsFrame info .flushChars → ∀ s, R s (uscStartTransmitter s)) : R info (r56FlushChars info) := by
  unfold r56FlushChars
  split
  · exact kept.refl info
  rename_i accepted
  have queued : info.xmitCnt ≠ 0 := fun empty => accepted (.inl empty)
  have free : info.ttyStopped = false := Bool.eq_false_iff.mpr fun stopped => accepted (.inr (.inl stopped))
  have ptr : info.xmitBufPtr = true := not_not.mp fun none => accepted (.inr (.inr none))
  split
  · exact kept.refl info
  rename_i idle
  have idle := Bool.eq_false_iff.mpr idle
  have begins := start ⟨⟨ptr, free, idle⟩, queued⟩
  split
  · rename_i sync
    exact kept.trans (kept.loadXmitBuf trivial info sync idle queued) (begins _)
  · exact begins info

/-- A relation that holds of all parts of an operation holds across it, if it does not reprogram the chip. -/
theorem exec {after : R56Struct} {op : Op} (kept : KeptParts R info op)
    (start : beginsFrame info op → ∀ s, R s (uscStartTransmitter s)) (free : ¬op.programs)
    (ran : exec info op = some after) : R info after := by
  cases op with
  | setParams newParams => exact absurd trivial free
  | setTermios cCflag cIflag baudRate => exact absurd trivial free
  | write buf count => cases ran; exact kept.write start
  | putChar ch => cases ran; exact kept.putChar
  | flushChars => cases ran; exact kept.flushChars start
  | flushBuffer => cases ran; exact kept.flush rfl info
  | stop =>
    cases ran
    show R info (r56Stop info)
    unfold r56Stop
    split
    · rename_i enabled
      exact kept.stop enabled info
    · exact kept.refl info
  | start => cases ran; exact kept.startDisabled info fun resumable => start resumable info
  | sendXchar ch => cases ran; exact kept.toKeptCore.sendXchar info ch fun some resumable => start ⟨some, resumable⟩
  | throttle => cases ran; exact kept.throttle start
  | unthrottle => cases ran; exact kept.unthrottle start
  | txenable enable => cases ran; exact kept.txenable start
  | rxenable enable => cases ran; exact kept.rxenable info enable
  | txabort => cases ran; exact kept.txabort info
  | loopmodeSendDone => cases ran; exact kept.loopmodeSendDone
  | setTxidle idleMode => cases ran; exact kept.chip (r56SetTxidle_frame info idleMode) (r56SetTxidle_control info idleMode)
  | tiocmset set clear => cases ran; exact kept.set trivial info _
  | dtrRts on => cases ran; exact kept.set trivial info _
  | setBreak on => cases ran; exact kept.chip (r56Break_frame info on) rfl
  | interrupt report => cases ran; exact kept.interruptGiven start fun vector => kept.isrTransmitDma vector _
  | bhReceive => exact kept.receiver (r56BhReceive_frame ran) (r56BhReceive_control ran)
  | bhTransmit => cases ran; exact kept.toKeptCore.bhTransmit info
  | bhStatus => cases ran; exact kept.chip (r56BhStatus_frame info) rfl
  | txTimeout => cases ran; exact kept.txTimeout
  | flow stopped hwStopped => cases ran; exact kept.flow info stopped hwStopped
  | reception list rxDma => cases ran; exact kept.receiver rfl rfl

end KeptParts

/-- The statements of `r56_set_termios` after the chip is reprogrammed. -/
theorem KeptCore.termios {R : R56Struct → R56Struct → Prop} (kept : KeptCore R)
    (set : ∀ (s : R56Struct) (signals : U8), R s (uscSetSerialSignals { s with serialSignals := signals }))
    (start : ∀ s, R s (uscStartTransmitter s)) (s : R56Struct) (oldCflag : U32) :
    R s (leaveCrtscts (leaveB0 (enterB0 s oldCflag) oldCflag) oldCflag) := by
  have entered (t : R56Struct) : R t (enterB0 t oldCflag) := by
    unfold enterB0
    split
    · exact set t _
    · exact kept.refl t
  have left (t : R56Struct) : R t (leaveB0 t oldCflag) := by
    unfold leaveB0
    dsimp only
    split
    · exact set t _
    · exact kept.refl t
  have resumed (t : R56Struct) : R t (leaveCrtscts t oldCflag) := by
    unfold leaveCrtscts
    split
    · exact kept.trans (kept.flow t t.tty.stopped false) (kept.startDisabled _ fun _ => start _)
    · exact kept.refl t
  exact kept.trans (entered s) (kept.trans (left _) (resumed _))

end Route56
