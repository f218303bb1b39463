import Route56.Parts

namespace Route56

/-- A relation between states that the primitives of the operations satisfy which take no user data.
What the receive side, the event counters and the bottom half flags hold is out of its reach,
and so is the chip. -/
structure KeptSilent (R : R56Struct → R56Struct → Prop) : Prop where
  refl : ∀ s, R s s
  trans : ∀ {s t u}, R s t → R t u → R s u
  reception : ∀ {s t : R56Struct}, t.exceptReception = s.exceptReception → R s t
  signals : ∀ (s : R56Struct) (signals : U8), R s { s with serialSignals := signals }
  flow : ∀ (s : R56Struct) (stopped hwStopped : Bool),
    R s { s with tty := { s.tty with stopped := stopped, hwStopped := hwStopped } }
  xchar : ∀ (s : R56Struct) (ch : U8), R s { s with xChar := ch }
  start : ∀ s, R s (uscStartTransmitter s)
  stop : ∀ s, R s (uscStopTransmitter s)
  ended : ∀ s : R56Struct, R s { endTransmission s with txTimer := false }
  dropped : ∀ s : R56Struct, R s { s with dropRtsOnTxDone := false }
  continued : ∀ s : R56Struct, R s (continueAsync s)

/-- A relation that all primitives satisfy which load nothing into the transmit ring. -/
structure KeptBase (R : R56Struct → R56Struct → Prop) : Prop extends KeptSilent R where
  collect : ∀ (s : R56Struct) (ch : U8), s.xmitCnt < serialXmitSize - 1 →
    (s.params.mode = r56ModeAsync ∨ s.txActive = false) →
    R s { s with
      xmitBuf := Function.update s.xmitBuf s.xmitHead ch
      xmitHead := (s.xmitHead + 1) % serialXmitSize
      xmitCnt := s.xmitCnt + 1 }
  chunk : ∀ (s : R56Struct) (buf : Nat → U8) (c : Nat), ¬s.synchronous → c ≠ 0 →
    s.xmitCnt + c < serialXmitSize → s.xmitHead + c ≤ serialXmitSize →
    R s { s with
      xmitBuf := Memory.blit s.xmitBuf s.xmitHead (Memory.read buf 0 c)
      xmitHead := (s.xmitHead + c) % serialXmitSize
      xmitCnt := s.xmitCnt + c }

/-- A relation that all primitives of the operations satisfy. -/
structure Kept (R : R56Struct → R56Struct → Prop) : Prop extends KeptBase R where
  loadXmitBuf : ∀ s : R56Struct, s.synchronous → s.txActive = false → s.xmitCnt ≠ 0 → R s (loadXmitBuf s)
  loadWrite : ∀ (s : R56Struct) (buf : Nat → U8) (count : Nat), s.synchronous → s.txActive = false → s.xmitCnt = 0 →
    R s (r56LoadTxDmaBuffer { s with xmitCnt := count } .write buf count)
  hold : ∀ (s : R56Struct) (buf : Nat → U8) (count : Nat), s.synchronous → s.params.mode ≠ r56ModeHdlc →
    s.txActive = true → s.txHoldingCount < s.numTxHoldingBuffers → R s (saveTxBufferRequest s buf count)
  unhold : ∀ s : R56Struct, R s (loadNextTxHoldingBuffer s).1
  emptied : ∀ s : R56Struct, R s { s with txDmaBuffersUsed := s.txDmaBuffersUsed - 1 }

namespace KeptSilent

variable {R : R56Struct → R56Struct → Prop} (kept : KeptSilent R)

include kept

theorem chip {s t : R56Struct} (frame : t.exceptChip = s.exceptChip) : R s t :=
  kept.reception (exceptReception_of_exceptChip frame)

theorem setSignals (s : R56Struct) (signals : U8) : R s (uscSetSerialSignals { s with serialSignals := signals }) :=
  kept.trans (kept.signals s signals) (kept.chip rfl)

theorem core : KeptCore R where
  refl := kept.refl
  trans := kept.trans
  reception frame _ := kept.reception frame
  flow := kept.flow
  xchar := kept.xchar
  read s := kept.signals s _
  negate s := by
    unfold negateRts
    split
    · exact kept.setSignals s _
    · exact kept.refl s
  dropped := kept.dropped
  enable s _ := kept.start s
  fed s some := by
    have continued := kept.continued s
    unfold continueAsync at continued
    rwa [if_pos some] at continued
  reset _ := kept.chip rfl
  sendDone _ := kept.chip rfl
  insertion s status := kept.chip (completeInsertion_frame s status)

theorem calls (info : R56Struct) (op : Op) : KeptCalls R info op where
  toKeptCore := kept.core
  noted _ _ _ frame _ := kept.reception frame
  stop _ := kept.stop
  ended _ := kept.ended
  idle _ s none := by
    have continued := kept.continued s
    unfold continueAsync at continued
    rwa [if_neg (not_not.mpr none)] at continued
  set _ := kept.setSignals
  insert _ s := kept.chip (uscLoopmodeInsertRequest_frame s)
  request _ _ _ := kept.chip rfl

theorem startIfIdle (s : R56Struct) : R s (startIfIdle s) := kept.core.startIfIdle s fun _ _ _ => kept.start s

theorem startDisabled (s : R56Struct) : R s (r56Start s) := kept.core.startDisabled s fun _ => kept.start s

theorem sendXchar (s : R56Struct) (ch : U8) : R s (r56SendXchar s ch) :=
  kept.core.sendXchar s ch fun _ _ => kept.start

theorem stopEnabled (s : R56Struct) : R s (r56Stop s) := by
  unfold r56Stop
  split
  · exact kept.stop s
  · exact kept.refl s

theorem interruptGiven (s : R56Struct) (report : UscReport)
    (dma : (s.reporting report).transmitDmaVector → R (s.reporting report) (r56IsrTransmitDma (s.reporting report))) :
    R s (r56Interrupt (s.reporting report)) :=
  (kept.calls s (.interrupt report)).interruptGiven (fun _ => kept.start) dma

theorem termios (s : R56Struct) (oldCflag : U32) :
    R s (leaveCrtscts (leaveB0 (enterB0 s oldCflag) oldCflag) oldCflag) :=
  kept.core.termios kept.setSignals kept.start s oldCflag

end KeptSilent

/-- The request may load a frame into the transmit ring. -/
def Op.loads : Op → Prop
  | .write .. | .flushChars | .interrupt _ => True
  | _ => False

/-- The request brings user data of its own or of a holding buffer. -/
def Op.brings : Op → Prop
  | .putChar _ => True
  | op => op.loads

theorem not_usesTxRing {info : R56Struct} {op : Op} (quiet : ¬op.loads) : ¬usesTxRing info op := by
  cases op with
  | write buf count => exact quiet
  | flushChars => exact quiet
  | interrupt report => exact absurd trivial quiet
  | _ => exact id

/-- A relation kept by the primitives that take no user data holds across every operation that
neither brings any, nor reprograms the chip, nor discards the send buffer. -/
theorem KeptSilent.exec {R : R56Struct → R56Struct → Prop} (kept : KeptSilent R) {info after : R56Struct} {op : Op}
    (free : ¬op.programs) (other : op ≠ .flushBuffer) (quiet : ¬op.brings) (ran : exec info op = some after) :
    R info after := by
  have chars : ¬op.collects := by
    cases op with
    | write buf count => exact quiet
    | putChar ch => exact quiet
    | _ => exact id
  have frames : ¬usesTxRing info op := by
    refine not_usesTxRing fun loads => quiet ?_
    cases op with
    | putChar ch => exact trivial
    | _ => exact loads
  have parts : KeptParts R info op :=
    { kept.calls info op with
      flush := fun flush => absurd flush other
      collect := fun collects => absurd collects chars
      chunk := fun collects => absurd collects chars
      loadXmitBuf := fun loads => absurd loads frames
      loadWrite := fun loads => absurd loads frames
      hold := fun loads => absurd loads frames
      unhold := fun loads => absurd loads frames
      emptied := fun loads => absurd loads frames }
  exact parts.exec (fun _ => kept.start) free ran

/-- A relation kept by the primitives that load nothing holds across every operation that neither
loads, nor reprograms the chip, nor discards the send buffer. -/
theorem KeptBase.exec {R : R56Struct → R56Struct → Prop} (kept : KeptBase R) {info after : R56Struct} {op : Op}
    (free : ¬op.programs) (other : op ≠ .flushBuffer) (quiet : ¬op.loads) (ran : exec info op = some after) :
    R info after := by
  have frames : ¬usesTxRing info op := not_usesTxRing quiet
  have parts : KeptParts R info op :=
    { kept.calls info op with
      flush := fun flush => absurd flush other
      collect := fun _ => kept.collect
      chunk := fun _ => kept.chunk
      loadXmitBuf := fun loads => absurd loads frames
      loadWrite := fun loads => absurd loads frames
      hold := fun loads => absurd loads frames
      unhold := fun loads => absurd loads frames
      emptied := fun loads => absurd loads frames }
  exact parts.exec (fun _ => kept.start) free ran

theorem KeptBase.writeAsync {R : R56Struct → R56Struct → Prop} (kept : KeptBase R) (buf : Nat → U8)
    (fuel count : Nat) (s : R56Struct) (async : ¬s.synchronous) : R s (writeAsync s fuel buf count).1 :=
  kept.core.writeAsync kept.chunk buf fuel count s async

namespace Kept

variable {R : R56Struct → R56Struct → Prop} (kept : Kept R)

include kept

theorem parts (info : R56Struct) {op : Op} (other : op ≠ .flushBuffer) : KeptParts R info op :=
  { kept.calls info op with
    flush := fun flush => absurd flush other
    collect := fun _ => kept.collect
    chunk := fun _ => kept.chunk
    loadXmitBuf := fun _ => kept.loadXmitBuf
    loadWrite := fun _ => kept.loadWrite
    hold := fun _ => kept.hold
    unhold := fun _ => kept.unhold
    emptied := fun _ => kept.emptied }

theorem putChar (s : R56Struct) (ch : U8) : R s (r56PutChar s ch).1 := (kept.parts s (by nofun)).putChar

theorem write (s : R56Struct) (buf : Nat → U8) (count : Nat) : R s (r56Write s buf count).1 :=
  (kept.parts s (by nofun)).write fun _ => kept.start

theorem flushChars (s : R56Struct) : R s (r56FlushChars s) := (kept.parts s (by nofun)).flushChars fun _ => kept.start

theorem interrupt (s : R56Struct) (report : UscReport) : R s (r56Interrupt (s.reporting report)) :=
  kept.interruptGiven s report fun vector =>
    (@parts R kept s (.interrupt report) (by nofun)).isrTransmitDma vector _

/-- A relation kept by all primitives holds across every operation that neither reprograms
the chip nor discards the send buffer. -/
theorem exec {info after : R56Struct} {op : Op} (free : ¬op.programs) (other : op ≠ .flushBuffer)
    (ran : exec info op = some after) : R info after :=
  (kept.parts info other).exec (fun _ => kept.start) free ran

end Kept

/-- The parameters, the network count and the sizes of what was allocated. `interface` is left
out, which the driver sets itself on a port without the choice. -/
structure Setup where
  params : R56Params
  tty : Bool
  netcount : Nat
  busType : BusType
  lp64 : Bool
  xmitBufPtr : Bool
  maxFrameSize : Nat
  rxBufferCount : Nat
  txBufferCount : Nat
  numTxDmaBuffers : Nat
  numTxHoldingBuffers : Nat

def R56Struct.setup (info : R56Struct) : Setup where
  params := { info.params with interface := 0 }
  tty := info.port.tty
  netcount := info.netcount
  busType := info.busType
  lp64 := info.build.lp64
  xmitBufPtr := info.xmitBufPtr
  maxFrameSize := info.maxFrameSize
  rxBufferCount := info.rxBufferCount
  txBufferCount := info.txBufferCount
  numTxDmaBuffers := info.numTxDmaBuffers
  numTxHoldingBuffers := info.numTxHoldingBuffers

theorem setup_of_exceptTransmitter {s t : R56Struct} (frame : t.exceptTransmitter = s.exceptTransmitter) :
    t.setup = s.setup := by
  have same := congrArg R56Struct.setup frame
  exact same

theorem setup_of_exceptReception {s t : R56Struct} (frame : t.exceptReception = s.exceptReception) :
    t.setup = s.setup := by
  have same := congrArg R56Struct.setup frame
  exact same

theorem setup_of_exceptSettings {s t : R56Struct} (frame : t.exceptSettings = s.exceptSettings) :
    t.setup = s.setup := by
  have same := congrArg R56Struct.setup frame
  exact same

theorem continueAsync_frame (info : R56Struct) : (continueAsync info).exceptTransmitter = info.exceptTransmitter := by
  unfold continueAsync
  split
  · exact uscLoadTxfifo_frame info
  · rfl

theorem setup_kept : Kept fun s t => t.setup = s.setup where
  refl _ := rfl
  trans first second := second.trans first
  reception := setup_of_exceptReception
  signals _ _ := rfl
  flow _ _ _ := rfl
  xchar _ _ := rfl
  start s := setup_of_exceptTransmitter (uscStartTransmitter_frame s)
  stop _ := rfl
  collect _ _ _ _ := rfl
  chunk _ _ _ _ _ _ _ := rfl
  loadXmitBuf _ _ _ _ := rfl
  loadWrite _ _ _ _ _ _ := rfl
  hold s buf count _ _ _ room := by
    unfold saveTxBufferRequest
    rw [if_neg (Nat.not_le_of_lt room)]
    rfl
  unhold s := by
    unfold loadNextTxHoldingBuffer
    dsimp only
    split
    · rfl
    · rfl
  emptied _ := rfl
  ended _ := rfl
  dropped _ := rfl
  continued s := setup_of_exceptTransmitter (continueAsync_frame s)

/-- Data transfer leaves the setup alone. -/
theorem exec_setup {info after : R56Struct} {op : Op} (free : ¬op.programs) (ran : exec info op = some after) :
    after.setup = info.setup := by
  by_cases flush : op = .flushBuffer
  · subst flush
    cases ran
    rfl
  · exact setup_kept.exec free flush ran

theorem programMode_setup (info : R56Struct) : (programMode info).setup = info.setup := by
  unfold programMode
  split
  · exact setup_of_exceptSettings (uscSetSyncMode_frame info)
  · exact setup_of_exceptSettings (uscSetAsyncMode_frame info)

theorem r56ProgramHw_setup (info : R56Struct) : (r56ProgramHw info).setup = info.setup := by
  have mode := programMode_setup { uscStopTransmitter (uscStopReceiver info) with
    xmitCnt := 0, xmitHead := 0, xmitTail := 0 }
  have signals (s : R56Struct) : (programSignals s).setup = s.setup := rfl
  have started (s : R56Struct) : (uscStartReceiver s).setup = s.setup :=
    setup_of_exceptReception (exceptReception_of_exceptReceiver (uscStartReceiver_frame s))
  unfold r56ProgramHw
  dsimp only
  split
  · exact (started _).trans ((signals _).trans mode)
  · exact (signals _).trans mode

/-- The part of the setup that no request changes. -/
def Setup.exceptParams (setup : Setup) : Setup := { setup with params := defaultParams }

theorem r56ChangeParams_setup (info : R56Struct) :
    (r56ChangeParams info).setup.exceptParams = info.setup.exceptParams ∧
      (r56ChangeParams info).params.mode = info.params.mode := by
  unfold r56ChangeParams
  split
  · exact ⟨rfl, rfl⟩
  · dsimp only
    generalize changed : ({ info with
      serialSignals := _, params := _, timeout := _, port := _, readStatusMask := _,
      ignoreStatusMask := _ } : R56Struct) = s
    have programmed := r56ProgramHw_setup s
    have mode : (r56ProgramHw s).params.mode = s.params.mode := congrArg (·.params.mode) programmed
    have same : s.setup.exceptParams = info.setup.exceptParams ∧ s.params.mode = info.params.mode := by
      rw [← changed]
      exact ⟨rfl, rfl⟩
    rw [programmed, mode]
    exact same

theorem exec_exceptParams {info after : R56Struct} {op : Op} (ran : exec info op = some after) :
    after.setup.exceptParams = info.setup.exceptParams := by
  by_cases free : op.programs
  · cases op with
    | setParams newParams =>
      cases ran
      exact (r56ChangeParams_setup { info with params := newParams }).1
    | setTermios cCflag cIflag baudRate =>
      cases ran
      have changed := (r56ChangeParams_setup { info with
        tty := { info.tty with cCflag := cCflag, cIflag := cIflag, baudRate := baudRate } }).1
      have finished := setup_kept.termios (r56ChangeParams { info with
        tty := { info.tty with cCflag := cCflag, cIflag := cIflag, baudRate := baudRate } }) info.tty.cCflag
      exact (congrArg Setup.exceptParams finished).trans changed
    | _ => exact absurd free id
  · exact congrArg Setup.exceptParams (exec_setup free ran)

end Route56
