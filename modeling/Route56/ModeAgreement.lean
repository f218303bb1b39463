import Route56.Primitives
import Route56.Line
import Route56.Xmit

namespace Route56

open Transition

/-- The two ways of transferring data: characters through the FIFOs, or frames by DMA. -/
inductive Branch
  | characters | frames
  deriving DecidableEq, Repr

/-- What `r56_program_hw` programs the chip for. -/
def R56Struct.programBranch (info : R56Struct) : Branch :=
  if info.synchronous ∨ info.netcount ≠ 0 then .frames else .characters

/-- The test for `R56_MODE_HDLC` or `R56_MODE_RAW`. -/
def R56Struct.frameBranch (info : R56Struct) : Branch := if info.synchronous then .frames else .characters

/-- The test for `R56_MODE_ASYNC`. -/
def R56Struct.charBranch (info : R56Struct) : Branch :=
  if info.params.mode = r56ModeAsync then .characters else .frames

/-- The functions that classify the mode. -/
inductive ModeFn
  | write | putChar | flushChars | startTransmitter | startReceiver | writeRoom | charsInBuffer
  deriving DecidableEq, Repr

/-- The branch a function takes. -/
def ModeFn.branch (info : R56Struct) : ModeFn → Branch
  | .write | .flushChars | .startReceiver | .writeRoom | .charsInBuffer => info.frameBranch
  | .putChar | .startTransmitter => info.charBranch

theorem frameBranch_match {α : Type*} (info : R56Struct) (frames characters : α) :
    (match info.frameBranch with | .frames => frames | .characters => characters) =
      if info.synchronous then frames else characters := by
  unfold R56Struct.frameBranch
  by_cases sync : info.synchronous
  · rw [if_pos sync, if_pos sync]
  · rw [if_neg sync, if_neg sync]

theorem charBranch_match {α : Type*} (info : R56Struct) (frames characters : α) :
    (match info.charBranch with | .frames => frames | .characters => characters) =
      if info.params.mode = r56ModeAsync then characters else frames := by
  unfold R56Struct.charBranch
  by_cases async : info.params.mode = r56ModeAsync
  · rw [if_pos async, if_pos async]
  · rw [if_neg async, if_neg async]

theorem programMode_branch (info : R56Struct) :
    programMode info =
      match info.programBranch with | .frames => uscSetSyncMode info | .characters => uscSetAsyncMode info := by
  unfold programMode R56Struct.programBranch
  by_cases frames : info.synchronous ∨ info.netcount ≠ 0
  · rw [if_pos frames, if_pos frames]
  · rw [if_neg frames, if_neg frames]

/-- The frame oriented branch of `r56_write`. -/
def writeFrame (info : R56Struct) (buf : Nat → U8) (count : Nat) : R56Struct × Nat :=
  if info.txActive then
    if info.params.mode = r56ModeHdlc then (info, 0)
    else if info.txHoldingCount ≥ info.numTxHoldingBuffers then (info, 0)
    else ((loadNextTxHoldingBuffer (saveTxBufferRequest info buf count)).1, count)
  else if info.params.flags &&& hdlcFlagHdlcLoopmode ≠ 0 ∧ ¬uscLoopmodeActive info then (info, 0)
  else if info.xmitCnt ≠ 0 then (startIfIdle (loadXmitBuf info), 0)
  else (startIfIdle (r56LoadTxDmaBuffer { info with xmitCnt := count } .write buf count), count)

/-- The asynchronous branch of `r56_write`. -/
def writeCharacters (info : R56Struct) (buf : Nat → U8) (count : Nat) : R56Struct × Nat :=
  (startIfIdle (writeAsync info (count + 1) buf count).1, (writeAsync info (count + 1) buf count).2)

theorem r56Write_branch (info : R56Struct) (buf : Nat → U8) (count : Nat) :
    r56Write info buf count =
      if ¬info.xmitBufPtr then (info, 0)
      else match ModeFn.write.branch info with
        | .frames => writeFrame info buf count
        | .characters => writeCharacters info buf count := by
  rw [show ModeFn.write.branch info = info.frameBranch from rfl, frameBranch_match]
  rfl

theorem r56PutChar_branch (info : R56Struct) (ch : U8) :
    (r56PutChar info ch).2 = (info.xmitBufPtr &&
      (match ModeFn.putChar.branch info with | .frames => !info.txActive | .characters => true) &&
        decide (info.xmitCnt < serialXmitSize - 1)) := by
  rw [show ModeFn.putChar.branch info = info.charBranch from rfl, charBranch_match]
  unfold r56PutChar
  by_cases async : info.params.mode = r56ModeAsync <;> cases info.xmitBufPtr <;> cases info.txActive <;>
    by_cases room : info.xmitCnt < serialXmitSize - 1 <;> simp [async, room]

theorem r56FlushChars_branch (info : R56Struct) :
    r56FlushChars info =
      if info.xmitCnt = 0 ∨ info.ttyStopped ∨ ¬info.xmitBufPtr then info
      else if info.txActive then info
      else match ModeFn.flushChars.branch info with
        | .frames => uscStartTransmitter (loadXmitBuf info)
        | .characters => uscStartTransmitter info := by
  rw [show ModeFn.flushChars.branch info = info.frameBranch from rfl, frameBranch_match]
  rfl

theorem feedTransmitter_branch (info : R56Struct) :
    feedTransmitter info =
      match ModeFn.startTransmitter.branch info with
        | .frames => startTxDma info
        | .characters => startAsyncTransmitter info := by
  rw [show ModeFn.startTransmitter.branch info = info.charBranch from rfl, charBranch_match]
  rfl

theorem r56WriteRoom_branch (info : R56Struct) :
    r56WriteRoom info =
      match ModeFn.writeRoom.branch info with
        | .frames => if info.txActive then 0 else hdlcMaxFrameSize
        | .characters => serialXmitSize - info.xmitCnt - 1 := by
  rw [show ModeFn.writeRoom.branch info = info.frameBranch from rfl, frameBranch_match]
  rfl

theorem r56CharsInBuffer_branch (info : R56Struct) :
    r56CharsInBuffer info =
      match ModeFn.charsInBuffer.branch info with
        | .frames => if info.txActive then info.maxFrameSize else 0
        | .characters => info.xmitCnt := by
  rw [show ModeFn.charsInBuffer.branch info = info.frameBranch from rfl, frameBranch_match]
  rfl

theorem uscStartReceiver_branch (info : R56Struct) :
    let called := { info with history := { info.history with rxStarts := info.history.rxStarts ++ [info.rxStart] } }
    let stopped := uscStopReceiver (r56ResetRxDmaBuffers called)
    let u := uscRTCmd (uscOutReg stopped.usc .ccsr (uscInReg stopped.usc .ccsr ||| bit13)) rtCmdPurgeRxFifo
    (uscStartReceiver info).usc =
      uscOutReg (match ModeFn.startReceiver.branch info with
        | .frames => initRxChannel stopped u 0
        | .characters => startAsyncReceiver u) .ccsr 0x1020 := by
  intro called stopped u
  rw [show ModeFn.startReceiver.branch info = info.frameBranch from rfl, frameBranch_match]
  rfl

/-- `hdlcdev_xmit`. -/
def hdlcdevXmit (info : R56Struct) (data : Nat → U8) (len : Nat) : R56Struct :=
  let info := r56LoadTxDmaBuffer { info with xmitCnt := len } .write data len
  if info.txActive then info else uscStartTransmitter info

/-- The end of the requests of the network layer that change the line. -/
def programIfUp (info : R56Struct) : R56Struct := if info.netcount ≠ 0 then r56ProgramHw info else info

/-- `hdlcdev_attach`, after the two switches. -/
def hdlcdevAttach (info : R56Struct) (newEncoding : U8) (newCrctype : U16) : R56Struct :=
  programIfUp { info with params := { info.params with encoding := newEncoding, crcType := newCrctype } }

/-- The clock flags `hdlcdev_ioctl` replaces. `HDLC_FLAG_RXC_RXCPIN` and
`HDLC_FLAG_TXC_TXCPIN` are 0. -/
def hdlcdevClockFlags : U16 :=
  hdlcFlagRxcDpll ||| hdlcFlagRxcBrg ||| hdlcFlagRxcTxcpin ||| hdlcFlagTxcDpll ||| hdlcFlagTxcBrg |||
    hdlcFlagTxcRxcpin

/-- `hdlcdev_ioctl` for `IF_IFACE_SYNC_SERIAL`, after the switch over the clock type. -/
def hdlcdevIoctl (info : R56Struct) (flags : U16) (loopback : Bool) (clockRate : Nat) : R56Struct :=
  programIfUp { info with params := { info.params with
    flags := info.params.flags &&& ~~~hdlcdevClockFlags ||| flags
    loopback := if loopback then 1 else 0
    clockSpeed := if flags &&& (hdlcFlagRxcBrg ||| hdlcFlagTxcBrg) ≠ 0 then clockRate else 0 } }

/-- The port, the branch its chip was programmed for, and whether what `xmit_cnt` counts was
loaded as a frame. -/
structure ModeState where
  info : R56Struct
  programmed : Branch
  loaded : Bool

/-- Operations on the tty side and on the network side. -/
inductive ModeEvent
  | tty (op : Op)
  | hdlcdevXmit (data : Nat → U8) (len : Nat)
  | hdlcdevAttach (newEncoding : U8) (newCrctype : U16)
  | hdlcdevIoctl (flags : U16) (loopback : Bool) (clockRate : Nat)

def ModeEvent.run (info : R56Struct) : ModeEvent → Option R56Struct
  | .tty op => exec info op
  | .hdlcdevXmit data len => some (Route56.hdlcdevXmit info data len)
  | .hdlcdevAttach newEncoding newCrctype => some (Route56.hdlcdevAttach info newEncoding newCrctype)
  | .hdlcdevIoctl flags loopback clockRate => some (Route56.hdlcdevIoctl info flags loopback clockRate)

/-- The event calls `r56_program_hw`. -/
def ModeEvent.programs (info : R56Struct) : ModeEvent → Prop
  | .tty op => op.programs
  | .hdlcdevXmit _ _ => False
  | .hdlcdevAttach _ _ | .hdlcdevIoctl _ _ _ => info.netcount ≠ 0

/-- A step. The tty requests that reprogram the chip come through an open tty. -/
structure ModeStep (s : ModeState) (event : ModeEvent) (t : ModeState) : Prop where
  ran : event.run s.info = some t.info
  attached : ∀ op, event = .tty op → op.programs → s.info.port.tty = true
  programmed : event.programs s.info → t.programmed = t.info.programBranch
  unprogrammed : ¬event.programs s.info → t.programmed = s.programmed
  loaded : t.loaded = true ↔
    t.info.xmitCnt ≠ 0 ∧ (t.info.history.loads ≠ s.info.history.loads ∨ s.loaded = true)

/-- The chip just programmed. -/
def ModeState.fresh (info : R56Struct) : ModeState where
  info := r56ProgramHw info
  programmed := (r56ProgramHw info).programBranch
  loaded := false

/-- Every function takes the branch the chip was programmed for. -/
def ModeState.agrees (s : ModeState) : Prop := ∀ f : ModeFn, f.branch s.info = s.programmed

/-- The event starts DMA transmission: `usc_start_transmitter` is called with something to
send and takes the branch for frames. -/
def ModeEvent.startsDma (info : R56Struct) (event : ModeEvent) : Prop :=
  info.charBranch = .frames ∧
    match event with
    | .tty op => beginsFrame info op
    | .hdlcdevXmit _ len => info.txActive = false ∧ len ≠ 0
    | .hdlcdevAttach _ _ | .hdlcdevIoctl _ _ _ => False

/-- DMA transmission is started on a chip programmed for it, and with a frame that was loaded. -/
def DmaLoaded (s : ModeState) (event : ModeEvent) (t : ModeState) : Prop :=
  event.startsDma s.info → s.programmed = .frames ∧ t.loaded = true

/-- A mode for which all functions agree. -/
def modeConsistent (mode netcount : Nat) : Prop :=
  mode = r56ModeHdlc ∨ mode = r56ModeRaw ∨ mode = r56ModeAsync ∧ netcount = 0

instance (mode netcount : Nat) : Decidable (modeConsistent mode netcount) :=
  inferInstanceAs (Decidable (_ ∨ _ ∨ _ ∧ _))

/-- The operation sends what is there to be sent without loading a frame first. -/
def resumes (info : R56Struct) : Op → Prop
  | .write _ _ | .flushChars => False
  | op => beginsFrame info op

/-- New parameters have a consistent mode, and in frame oriented mode what is sent without being
loaded first has been loaded before. -/
def KeepsAgreement (s : ModeState) (event : ModeEvent) : Prop :=
  (∀ newParams, event = .tty (.setParams newParams) → modeConsistent newParams.mode s.info.netcount) ∧
    (∀ op, event = .tty op → s.info.synchronous → resumes s.info op → s.loaded = true)

theorem agree_iff (info : R56Struct) :
    (∀ f : ModeFn, f.branch info = info.programBranch) ↔ modeConsistent info.params.mode info.netcount := by
  unfold modeConsistent
  constructor
  · intro agree
    have frame := agree .write
    have char := agree .putChar
    unfold ModeFn.branch at frame char
    by_cases sync : info.synchronous
    · rcases sync with hdlc | raw
      · exact .inl hdlc
      · exact .inr (.inl raw)
    · have characters : info.frameBranch = .characters := if_neg sync
      have programmed : info.programBranch = .characters := frame.symm.trans characters
      have alone : info.netcount = 0 := by
        by_contra up
        have frames : info.programBranch = .frames := if_pos (.inr up)
        exact absurd (frames.symm.trans programmed) nofun
      have async : info.params.mode = r56ModeAsync := by
        by_contra other
        have frames : info.charBranch = .frames := if_neg other
        exact absurd (frames.symm.trans (char.trans programmed)) nofun
      exact .inr (.inr ⟨async, alone⟩)
  · have sync (sync : info.synchronous) (f : ModeFn) : f.branch info = info.programBranch := by
      have frames : info.frameBranch = .frames := if_pos sync
      have chars : info.charBranch = .frames := if_neg (not_async_of_synchronous sync)
      have programmed : info.programBranch = .frames := if_pos (.inl sync)
      rw [programmed]
      cases f <;> assumption
    rintro (hdlc | raw | ⟨async, alone⟩) f
    · exact sync (.inl hdlc) f
    · exact sync (.inr raw) f
    · have other : ¬info.synchronous := fun sync => not_async_of_synchronous sync async
      have frames : info.frameBranch = .characters := if_neg other
      have chars : info.charBranch = .characters := if_pos async
      have programmed : info.programBranch = .characters :=
        if_neg fun programs => programs.elim other fun up => up alone
      rw [programmed]
      cases f <;> assumption

theorem programBranch_congr {s t : R56Struct} (mode : t.params.mode = s.params.mode) (up : t.netcount = s.netcount) :
    t.programBranch = s.programBranch := by
  have same : (t.synchronous ∨ t.netcount ≠ 0) ↔ (s.synchronous ∨ s.netcount ≠ 0) := by
    unfold R56Struct.synchronous
    rw [mode, up]
  exact if_congr same rfl rfl

theorem hdlcdevXmit_setup (info : R56Struct) (data : Nat → U8) (len : Nat) :
    (Route56.hdlcdevXmit info data len).setup = info.setup := by
  unfold Route56.hdlcdevXmit
  dsimp only
  split
  · rfl
  · exact setup_kept.start _

theorem programIfUp_mode (info : R56Struct) :
    (programIfUp info).params.mode = info.params.mode ∧ (programIfUp info).netcount = info.netcount := by
  unfold programIfUp
  split
  · have setup := r56ProgramHw_setup info
    exact ⟨congrArg (·.params.mode) setup, congrArg Setup.netcount setup⟩
  · exact ⟨rfl, rfl⟩

theorem exec_netcount {info after : R56Struct} {op : Op} (ran : exec info op = some after) :
    after.netcount = info.netcount :=
  congrArg Setup.netcount (exec_exceptParams ran)

/-- The mode after an event: only new parameters bring a new one. -/
theorem run_mode {info after : R56Struct} {event : ModeEvent} (ran : event.run info = some after)
    (kept : ∀ newParams, event ≠ .tty (.setParams newParams)) :
    after.params.mode = info.params.mode ∧ after.netcount = info.netcount := by
  cases event with
  | tty op =>
    refine ⟨?_, exec_netcount ran⟩
    by_cases free : op.programs
    · cases op with
      | setParams newParams => exact absurd rfl (kept newParams)
      | setTermios cCflag cIflag baudRate =>
        cases ran
        have changed := (r56ChangeParams_setup { info with
          tty := { info.tty with cCflag := cCflag, cIflag := cIflag, baudRate := baudRate } }).2
        have finished := setup_kept.termios (r56ChangeParams { info with
          tty := { info.tty with cCflag := cCflag, cIflag := cIflag, baudRate := baudRate } }) info.tty.cCflag
        exact (congrArg (·.params.mode) finished).trans changed
      | _ => exact absurd free id
    · exact congrArg (·.params.mode) (exec_setup free ran)
  | hdlcdevXmit data len =>
    cases ran
    have setup := hdlcdevXmit_setup info data len
    exact ⟨congrArg (·.params.mode) setup, congrArg Setup.netcount setup⟩
  | hdlcdevAttach newEncoding newCrctype => cases ran; exact programIfUp_mode _
  | hdlcdevIoctl flags loopback clockRate => cases ran; exact programIfUp_mode _

theorem run_setParams {info after : R56Struct} {newParams : R56Params}
    (ran : (ModeEvent.tty (.setParams newParams)).run info = some after) :
    after.params.mode = newParams.mode ∧ after.netcount = info.netcount := by
  have netcount := @exec_netcount _ _ (.setParams newParams) ran
  cases ran
  exact ⟨(r56ChangeParams_setup { info with params := newParams }).2, netcount⟩

/-- The chip is programmed for what the parameters say. -/
theorem step_programmed {s t : ModeState} {event : ModeEvent} (inv : s.programmed = s.info.programBranch)
    (step : ModeStep s event t) : t.programmed = t.info.programBranch := by
  by_cases programs : event.programs s.info
  · exact step.programmed programs
  · have kept : ∀ newParams, event ≠ .tty (.setParams newParams) := by
      rintro newParams rfl
      exact programs trivial
    obtain ⟨mode, up⟩ := run_mode step.ran kept
    rw [step.unprogrammed programs, inv, programBranch_congr mode up]

theorem agrees_iff {s : ModeState} (inv : s.programmed = s.info.programBranch) :
    s.agrees ↔ modeConsistent s.info.params.mode s.info.netcount := by
  unfold ModeState.agrees
  rw [inv]
  exact agree_iff s.info

/-- Agreement is lost through new parameters only. -/
theorem step_agrees_iff {s t : ModeState} {event : ModeEvent} (agrees : s.agrees)
    (inv : s.programmed = s.info.programBranch) (step : ModeStep s event t) :
    t.agrees ↔ ∀ newParams, event = .tty (.setParams newParams) → modeConsistent newParams.mode s.info.netcount := by
  have consistent := (agrees_iff inv).mp agrees
  rw [agrees_iff (step_programmed inv step)]
  by_cases sets : ∃ newParams, event = .tty (.setParams newParams)
  · obtain ⟨newParams, rfl⟩ := sets
    obtain ⟨mode, up⟩ := run_setParams step.ran
    rw [mode, up]
    constructor
    · rintro good other same
      cases same
      exact good
    · intro good
      exact good newParams rfl
  · have kept : ∀ newParams, event ≠ .tty (.setParams newParams) := fun newParams same => sets ⟨newParams, same⟩
    obtain ⟨mode, up⟩ := run_mode step.ran kept
    rw [mode, up]
    exact iff_of_true consistent fun newParams same => absurd same (kept newParams)

/-- An operation that sends what is there changes nothing of it. -/
theorem resumes_xmit {info after : R56Struct} {op : Op} (sync : info.synchronous) (resumed : resumes info op)
    (ran : exec info op = some after) : after.xmit = info.xmit ∧ info.xmitCnt ≠ 0 := by
  cases op with
  | start => cases ran; exact ⟨r56Start_xmit sync, resumed.2⟩
  | sendXchar ch => cases ran; exact ⟨r56SendXchar_xmit ch sync, resumed.2.2⟩
  | throttle => cases ran; exact ⟨r56Throttle_xmit sync, resumed.2.2.2⟩
  | unthrottle => cases ran; exact ⟨r56Unthrottle_xmit sync, resumed.2.2.2.2⟩
  | txenable enable => cases ran; exact ⟨r56Txenable_xmit enable sync, resumed.2.2⟩
  | interrupt report =>
    cases ran
    refine ⟨?_, resumed.2⟩
    have pins : serviceInterrupt (info.reporting report) = r56IsrIoPin (info.reporting report) := by
      have vector := resumed.1.1
      unfold serviceInterrupt
      rw [vector]
      rfl
    have served : (serviceInterrupt (info.reporting report)).xmit = info.xmit := by
      rw [pins]
      exact r56IsrIoPin_xmit sync
    exact (xmit_of_exceptReception (scheduleBh_frame _)).trans
      ((xmit_of_exceptChip (haltOnOverflow_frame _)).trans served)
  | _ => exact absurd resumed id

theorem loads_ne {before after : List (TxSource × List U8)} {load : TxSource × List U8}
    (appended : after = before ++ [load]) : after ≠ before := by
  intro same
  have length := congrArg List.length appended
  rw [same, List.length_append] at length
  simp at length

/-- A write that begins a frame has loaded it. -/
theorem write_loads {info : R56Struct} {buf : Nat → U8} {count : Nat} (sync : info.synchronous)
    (begins : beginsFrame info (.write buf count)) :
    (r56Write info buf count).1.xmitCnt ≠ 0 ∧
      (r56Write info buf count).1.history.loads ≠ info.history.loads := by
  obtain ⟨⟨ptr, -, idle⟩, writable⟩ := begins
  unfold R56Struct.writable at writable
  rw [if_pos sync] at writable
  obtain ⟨inLoop, some⟩ := writable
  have outside : ¬(info.params.flags &&& hdlcFlagHdlcLoopmode ≠ 0 ∧ ¬uscLoopmodeActive info = true) :=
    fun out => out.2 (inLoop out.1)
  by_cases queued : info.xmitCnt ≠ 0
  · have flushed : r56Write info buf count = (startIfIdle (loadXmitBuf info), 0) := by
      unfold r56Write
      rw [if_neg (not_not.mpr ptr), if_pos sync, if_neg (by rw [idle]; decide), if_neg outside, if_pos queued]
    have loaded : (startIfIdle (loadXmitBuf info)).xmit = (loadXmitBuf info).xmit :=
      @startIfIdle_xmit (loadXmitBuf info) sync
    have cnt : (startIfIdle (loadXmitBuf info)).xmitCnt = info.xmitCnt := congrArg Xmit.cnt loaded
    have loads : (startIfIdle (loadXmitBuf info)).history.loads = (loadXmitBuf info).history.loads :=
      congrArg Xmit.loads loaded
    rw [flushed, cnt, loads]
    exact ⟨queued, loads_ne rfl⟩
  · have accepted : r56Write info buf count =
        (startIfIdle (r56LoadTxDmaBuffer { info with xmitCnt := count } .write buf count), count) := by
      unfold r56Write
      rw [if_neg (not_not.mpr ptr), if_pos sync, if_neg (by rw [idle]; decide), if_neg outside, if_neg queued]
    have loaded := @startIfIdle_xmit (r56LoadTxDmaBuffer { info with xmitCnt := count } .write buf count) sync
    rw [accepted]
    generalize startIfIdle _ = after at loaded ⊢
    have cnt : after.xmitCnt = count := congrArg Xmit.cnt loaded
    have loads : after.history.loads = info.history.loads ++ [(.write, Memory.read buf 0 count)] :=
      congrArg Xmit.loads loaded
    exact ⟨cnt.trans_ne (some.resolve_left queued), loads_ne loads⟩

theorem flushChars_loads {info : R56Struct} (sync : info.synchronous) (begins : beginsFrame info .flushChars) :
    (r56FlushChars info).xmitCnt ≠ 0 ∧ (r56FlushChars info).history.loads ≠ info.history.loads := by
  obtain ⟨⟨ptr, free, idle⟩, queued⟩ := begins
  have flushed : r56FlushChars info = uscStartTransmitter (loadXmitBuf info) := by
    unfold r56FlushChars
    rw [if_neg (by rw [ptr, free]; simp [queued]), if_neg (by rw [idle]; decide), if_pos sync]
  have loaded : (uscStartTransmitter (loadXmitBuf info)).xmit = (loadXmitBuf info).xmit :=
    @uscStartTransmitter_xmit (loadXmitBuf info) sync
  rw [flushed]
  generalize uscStartTransmitter (loadXmitBuf info) = after at loaded ⊢
  have cnt : after.xmitCnt = info.xmitCnt := congrArg Xmit.cnt loaded
  have loads : after.history.loads = (loadXmitBuf info).history.loads := congrArg Xmit.loads loaded
  rw [cnt, loads]
  exact ⟨queued, loads_ne rfl⟩

theorem hdlcdevXmit_loads {info : R56Struct} {data : Nat → U8} {len : Nat} (sync : info.synchronous)
    (some : len ≠ 0) :
    (hdlcdevXmit info data len).xmitCnt ≠ 0 ∧ (hdlcdevXmit info data len).history.loads ≠ info.history.loads := by
  have loaded : (hdlcdevXmit info data len).xmit =
      (r56LoadTxDmaBuffer { info with xmitCnt := len } .write data len).xmit := by
    unfold hdlcdevXmit
    dsimp only
    split
    · rfl
    · exact @uscStartTransmitter_xmit (r56LoadTxDmaBuffer { info with xmitCnt := len } .write data len) sync
  generalize hdlcdevXmit info data len = after at loaded ⊢
  have cnt : after.xmitCnt = len := congrArg Xmit.cnt loaded
  have loads : after.history.loads = info.history.loads ++ [(.write, Memory.read data 0 len)] :=
    congrArg Xmit.loads loaded
  exact ⟨cnt.trans_ne some, loads_ne loads⟩

/-- Where all functions agree, only what is sent without being loaded can be missing. -/
theorem step_loaded_iff {s t : ModeState} {event : ModeEvent} (agrees : s.agrees)
    (inv : s.programmed = s.info.programBranch) (step : ModeStep s event t) :
    DmaLoaded s event t ↔
      ∀ op, event = .tty op → s.info.synchronous → resumes s.info op → s.loaded = true := by
  have ran := step.ran
  by_cases sync : s.info.synchronous
  · have programmed : s.programmed = .frames := inv.trans (if_pos (.inl sync))
    have frames : s.info.charBranch = .frames := if_neg (not_async_of_synchronous sync)
    have fresh (loaded : t.info.xmitCnt ≠ 0 ∧ t.info.history.loads ≠ s.info.history.loads) : t.loaded = true :=
      step.loaded.mpr ⟨loaded.1, .inl loaded.2⟩
    have none (free : ¬event.startsDma s.info) (quiet : ∀ op, event = .tty op → ¬resumes s.info op) :
        DmaLoaded s event t ↔ ∀ op, event = .tty op → s.info.synchronous → resumes s.info op → s.loaded = true :=
      iff_of_true (fun starts => absurd starts free) fun op same _ resumed => absurd resumed (quiet op same)
    have lost (loaded : event.startsDma s.info → t.info.xmitCnt ≠ 0 ∧ t.info.history.loads ≠ s.info.history.loads)
        (quiet : ∀ op, event = .tty op → ¬resumes s.info op) :
        DmaLoaded s event t ↔ ∀ op, event = .tty op → s.info.synchronous → resumes s.info op → s.loaded = true :=
      iff_of_true (fun starts => ⟨programmed, fresh (loaded starts)⟩)
        fun op same _ resumed => absurd resumed (quiet op same)
    cases event with
    | tty op =>
      by_cases resumed : resumes s.info op
      · have starts : (ModeEvent.tty op).startsDma s.info := by
          refine ⟨frames, ?_⟩
          cases op <;> first | exact resumed | exact absurd resumed id
        obtain ⟨xmit, queued⟩ := resumes_xmit sync resumed ran
        have cnt : t.info.xmitCnt ≠ 0 := (congrArg Xmit.cnt xmit).trans_ne queued
        have loads : t.info.history.loads = s.info.history.loads := congrArg Xmit.loads xmit
        have kept : t.loaded = true ↔ s.loaded = true :=
          step.loaded.trans ⟨fun loaded => loaded.2.resolve_left fun new => new loads, fun old => ⟨cnt, .inr old⟩⟩
        constructor
        · intro dma other same _ _
          exact kept.mp (dma starts).2
        · intro old _
          exact ⟨programmed, kept.mpr (old op rfl sync resumed)⟩
      · have quiet : ∀ other, ModeEvent.tty op = .tty other → ¬resumes s.info other := by
          rintro other same
          cases same
          exact resumed
        cases op with
        | write buf count =>
          have after : (r56Write s.info buf count).1 = t.info := Option.some.inj ran
          refine lost (fun starts => ?_) quiet
          rw [← after]
          exact write_loads sync starts.2
        | flushChars =>
          have after : r56FlushChars s.info = t.info := Option.some.inj ran
          refine lost (fun starts => ?_) quiet
          rw [← after]
          exact flushChars_loads sync starts.2
        | _ => exact none (fun starts => resumed starts.2) quiet
    | hdlcdevXmit data len =>
      have after : hdlcdevXmit s.info data len = t.info := Option.some.inj ran
      refine lost (fun starts => ?_) nofun
      rw [← after]
      exact hdlcdevXmit_loads sync starts.2.2
    | hdlcdevAttach newEncoding newCrctype => exact none (fun starts => starts.2) nofun
    | hdlcdevIoctl flags loopback clockRate => exact none (fun starts => starts.2) nofun
  · have chars : s.info.charBranch = .characters := by
      have consistent := (agrees_iff inv).mp agrees
      rcases consistent with hdlc | raw | ⟨async, -⟩
      · exact absurd (.inl hdlc) sync
      · exact absurd (.inr raw) sync
      · exact if_pos async
    have quiet : ¬event.startsDma s.info := fun starts => absurd (chars.symm.trans starts.1) nofun
    exact iff_of_true (fun starts => absurd starts quiet) fun _ _ still _ => absurd still sync

/-- In every run from the programming of the chip: all functions take the branch it was
programmed for, and DMA transmission is started on a chip programmed for it and with a frame that
was loaded, exactly when every mode programmed is HDLC, RAW or, without the network, ASYNC, and
what is sent without being loaded first has been loaded before. -/
theorem branches_agree_iff {info : R56Struct} {run : List (ModeEvent × ModeState)}
    (steps : Run ModeStep (.fresh info) run) :
    (ModeState.fresh info).agrees ∧ Run (fun s event t => t.agrees ∧ DmaLoaded s event t) (.fresh info) run ↔
      modeConsistent info.params.mode info.netcount ∧ Run (fun s event _ => KeepsAgreement s event) (.fresh info) run := by
  have setup := r56ProgramHw_setup info
  have mode : (ModeState.fresh info).info.params.mode = info.params.mode := congrArg (·.params.mode) setup
  have up : (ModeState.fresh info).info.netcount = info.netcount := congrArg Setup.netcount setup
  have start : (ModeState.fresh info).programmed = (ModeState.fresh info).info.programBranch := rfl
  have consistent := agrees_iff start
  rw [mode, up] at consistent
  have exact_step : ∀ s event t, s.agrees → s.programmed = s.info.programBranch → ModeStep s event t →
      (t.agrees ∧ DmaLoaded s event t ↔ KeepsAgreement s event) := by
    intro s event t agrees inv step
    exact and_congr (step_agrees_iff agrees inv step) (step_loaded_iff agrees inv step)
  have preserved : ∀ s event t, s.programmed = s.info.programBranch → ModeStep s event t →
      t.programmed = t.info.programBranch := fun s event t inv step => step_programmed inv step
  rw [← consistent]
  refine and_congr_right fun agrees => ?_
  exact Run.good_steps_iff exact_step preserved steps agrees start

theorem branches_agree_iff_sent :
    let sent := (r56Write (r56ProgramHw openedDevice) (fun _ => 0x7e) 1).1
    let run : List (ModeEvent × ModeState) := [(.tty (.write (fun _ => 0x7e) 1), ⟨sent, .frames, true⟩)]
    (ModeState.fresh openedDevice).agrees ∧
      Run (fun s event t => t.agrees ∧ DmaLoaded s event t) (.fresh openedDevice) run := by
  intro sent run
  have step : ModeStep (.fresh openedDevice) (.tty (.write (fun _ => 0x7e) 1)) ⟨sent, .frames, true⟩ :=
    ⟨rfl, fun op same programs => absurd programs (by cases same; exact id), fun programs => absurd programs id,
      fun _ => by decide, by decide⟩
  have keeps : KeepsAgreement (.fresh openedDevice) (.tty (.write (fun _ => 0x7e) 1)) :=
    ⟨fun _ same => (nomatch same), fun op same _ resumed => by cases same; exact absurd resumed id⟩
  have steps : Run ModeStep (.fresh openedDevice) run := ⟨step, trivial⟩
  exact (branches_agree_iff steps).mpr ⟨by decide, keeps, trivial⟩

/-- Mode 3 is programmed as asynchronous. A write collects its byte in `xmit_buf`, and then DMA
transmission is started with a frame that was never loaded. -/
theorem mode_three_starts_dma :
    let device := { openedDevice with params := { openedDevice.params with mode := 3 } }
    let sent := (r56Write (r56ProgramHw device) (fun _ => 0x7e) 1).1
    let event : ModeEvent := .tty (.write (fun _ => 0x7e) 1)
    Run ModeStep (.fresh device) [(event, ⟨sent, .characters, false⟩)] ∧
      ¬(ModeState.fresh device).agrees ∧ ¬DmaLoaded (.fresh device) event ⟨sent, .characters, false⟩ := by
  intro device sent event
  have step : ModeStep (.fresh device) event ⟨sent, .characters, false⟩ :=
    ⟨rfl, fun op same programs => absurd programs (by injection same with same; rw [← same]; exact id),
      fun programs => absurd programs id, fun _ => by decide, by decide⟩
  refine ⟨⟨step, trivial⟩, fun agrees => ?_, fun dma => ?_⟩
  · have put := agrees .putChar
    exact absurd put (by decide)
  · have starts : event.startsDma (r56ProgramHw device) := ⟨by decide, by decide⟩
    exact absurd (dma starts).2 (by decide)

end Route56
