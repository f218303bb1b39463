import Route56.Driver

namespace Route56

/-- The state of the line and the parameters that govern it. -/
@[ext] structure Line where
  mode : Nat
  flags : U16
  interface : U8
  rts : Bool
  drop : Bool
  rxEnabled : Bool
  rccUnderrun : Bool
  deriving DecidableEq

def R56Struct.line (info : R56Struct) : Line where
  mode := info.params.mode
  flags := info.params.flags
  interface := info.params.interface
  rts := decide info.rts
  drop := info.dropRtsOnTxDone
  rxEnabled := info.rxEnabled
  rccUnderrun := info.rxRccUnderrun

/-- `HDLC_FLAG_AUTO_RTS`. -/
def Line.autoRts (l : Line) : Bool := l.flags &&& hdlcFlagAutoRts ≠ 0

/-- `R56_INTERFACE_NE`. -/
def Line.noEcho (l : Line) : Bool := l.interface &&& r56InterfaceNe ≠ 0

/-- The line when a frame is begun. -/
def Line.begun (l : Line) : Line :=
  { l with
    rts := l.rts || l.autoRts, drop := l.autoRts && !l.rts
    rxEnabled := l.rxEnabled && !l.noEcho, rccUnderrun := l.rccUnderrun && !(l.noEcho && l.rxEnabled) }

/-- The line when the chip reports the end of a frame. -/
def Line.ended (l : Line) : Line := { l with rts := l.rts && !l.drop, drop := false }

/-- A disabled transmitter with something to send, which enabling it sends. -/
def R56Struct.resumable (info : R56Struct) : Prop := info.txEnabled = false ∧ info.xmitCnt ≠ 0

instance (info : R56Struct) : Decidable info.resumable := inferInstanceAs (Decidable (_ ∧ _))

/-- An idle transmitter that the tty does not hold back. -/
def R56Struct.sendable (info : R56Struct) : Prop :=
  info.xmitBufPtr = true ∧ info.ttyStopped = false ∧ info.txActive = false

instance (info : R56Struct) : Decidable info.sendable := inferInstanceAs (Decidable (_ ∧ _))

/-- A write of `count` bytes to an idle transmitter leaves something to send. -/
def R56Struct.writable (info : R56Struct) (count : Nat) : Prop :=
  if info.synchronous then
    (info.params.flags &&& hdlcFlagHdlcLoopmode ≠ 0 → uscLoopmodeActive info = true) ∧
      (info.xmitCnt ≠ 0 ∨ count ≠ 0)
  else info.xmitCnt ≠ 0 ∨ count ≠ 0 ∧ info.xmitHead < serialXmitSize

instance (info : R56Struct) (count : Nat) : Decidable (info.writable count) :=
  inferInstanceAs (Decidable (if info.synchronous then
    (info.params.flags &&& hdlcFlagHdlcLoopmode ≠ 0 → uscLoopmodeActive info = true) ∧
      (info.xmitCnt ≠ 0 ∨ count ≠ 0)
    else info.xmitCnt ≠ 0 ∨ count ≠ 0 ∧ info.xmitHead < serialXmitSize))

/-- The interrupt reports that CTS is back while CTS flow control holds the transmitter. -/
def R56Struct.ctsResumes (info : R56Struct) : Prop :=
  info.uscVector = 2 ∧ info.port.ctsFlow = true ∧ info.tty.hwStopped = true ∧
    uscInReg info.usc .misr &&& miscstatusCtsLatched ≠ 0 ∧ uscInReg info.usc .misr &&& miscstatusCts ≠ 0

instance (info : R56Struct) : Decidable info.ctsResumes := inferInstanceAs (Decidable (_ ∧ _))

/-- The operation begins a frame: it calls `usc_start_transmitter` with something to send. -/
def beginsFrame (info : R56Struct) : Op → Prop
  | .write _ count => info.sendable ∧ info.writable count
  | .flushChars => info.sendable ∧ info.xmitCnt ≠ 0
  | .start => info.resumable
  | .sendXchar ch => ch ≠ 0 ∧ info.resumable
  | .throttle => info.tty.cIflag &&& ixoff ≠ 0 ∧ info.tty.stopChar ≠ 0 ∧ info.resumable
  | .unthrottle =>
    info.tty.cIflag &&& ixoff ≠ 0 ∧ info.xChar = 0 ∧ info.tty.startChar ≠ 0 ∧ info.resumable
  | .txenable enable => enable = true ∧ info.resumable
  | .interrupt report => (info.reporting report).ctsResumes ∧ info.xmitCnt ≠ 0
  | _ => False

instance (info : R56Struct) : (op : Op) → Decidable (beginsFrame info op)
  | .write .. | .flushChars | .sendXchar _ | .throttle | .unthrottle | .txenable _ | .interrupt _ =>
    inferInstanceAs (Decidable (_ ∧ _))
  | .start => inferInstanceAs (Decidable (_ ∧ _))
  | .putChar _ | .flushBuffer | .stop | .rxenable _ | .txabort | .loopmodeSendDone | .setParams _
  | .setTermios .. | .setTxidle _ | .tiocmset .. | .dtrRts _ | .setBreak _ | .bhReceive | .bhTransmit
  | .bhStatus | .txTimeout | .flow .. | .reception .. => inferInstanceAs (Decidable False)

/-- The request sets parameters or modem signals. -/
def setsLine : Op → Prop
  | .setParams _ | .setTermios .. | .tiocmset .. | .dtrRts _ => True
  | _ => False

/-- The line after an operation that does not set it. -/
def lineAfter (info : R56Struct) (op : Op) : Line :=
  let l := if beginsFrame info op then info.line.begun else info.line
  match op with
  | .throttle => if info.tty.cCflag &&& crtscts ≠ 0 then { l with rts := false } else l
  | .unthrottle => if info.tty.cCflag &&& crtscts ≠ 0 then { l with rts := true } else l
  | .interrupt report =>
    let shown := info.reporting report
    if shown.uscVector = 4 then l.ended
    else if shown.uscVector = 1 ∧ uscInReg shown.usc .misr &&& miscstatusRccUnderrun ≠ 0 ∧
        info.params.mode = r56ModeHdlc then { l with rccUnderrun := true }
    else l
  | .rxenable enable =>
    if enable = info.rxEnabled then l else { l with rxEnabled := enable, rccUnderrun := false }
  | .bhReceive => if info.rxRccUnderrun then { l with rxEnabled := true, rccUnderrun := false } else l
  | _ => l

theorem line_of_exceptChip {s t : R56Struct} (frame : t.exceptChip = s.exceptChip) : t.line = s.line := by
  have same := congrArg R56Struct.line frame
  exact same

/-- The receive side holds two of the fields. -/
theorem line_of_exceptReceiver {s t : R56Struct} (frame : t.exceptReceiver = s.exceptReceiver) :
    t.line = { s.line with rxEnabled := t.rxEnabled, rccUnderrun := t.rxRccUnderrun } := by
  have params := congrArg R56Struct.params frame
  have signals := congrArg (fun r : R56Struct => decide r.rts) frame
  have drop := congrArg R56Struct.dropRtsOnTxDone frame
  exact Line.ext (congrArg R56Params.mode params) (congrArg R56Params.flags params)
    (congrArg R56Params.interface params) signals drop rfl rfl

theorem and_rts_getSerialSignals (x a b c d : U8) (ha : a &&& serialSignalRts = 0)
    (hb : b &&& serialSignalRts = 0) (hc : c &&& serialSignalRts = 0) (hd : d &&& serialSignalRts = 0) :
    ((x &&& (serialSignalDtr + serialSignalRts)) ||| a ||| b ||| c ||| d) &&& serialSignalRts =
      x &&& serialSignalRts := by
  have kept : x &&& (serialSignalDtr + serialSignalRts) &&& serialSignalRts = x &&& serialSignalRts := by
    rw [BitVec.and_assoc]
    rfl
  simp only [BitVec.and_or_distrib_right, ha, hb, hc, hd, kept, BitVec.ofNat_eq_ofNat, BitVec.or_zero]

theorem uscGetSerialSignals_rts (info : R56Struct) : (uscGetSerialSignals info).rts ↔ info.rts := by
  have input (c : Prop) [Decidable c] (s : U8) (hs : s &&& serialSignalRts = 0) :
      (if c then s else 0) &&& serialSignalRts = 0 := by
    split
    · exact hs
    · rfl
  unfold R56Struct.rts uscGetSerialSignals
  dsimp only
  rw [and_rts_getSerialSignals _ _ _ _ _ (input _ _ rfl) (input _ _ rfl) (input _ _ rfl) (input _ _ rfl)]

theorem or_rts (x : U8) : (x ||| serialSignalRts) &&& serialSignalRts ≠ 0 := by
  revert x
  decide

theorem and_not_rts (x : U8) : (x &&& ~~~serialSignalRts) &&& serialSignalRts = 0 := by
  revert x
  decide

theorem uscGetSerialSignals_line (info : R56Struct) : (uscGetSerialSignals info).line = info.line := by
  have rts := uscGetSerialSignals_rts info
  unfold R56Struct.line
  simp only [rts]
  rfl

theorem autoRts_iff (info : R56Struct) :
    info.line.autoRts = true ↔ info.params.flags &&& hdlcFlagAutoRts ≠ 0 := decide_eq_true_iff

theorem noEcho_iff (info : R56Struct) :
    info.line.noEcho = true ↔ info.params.interface &&& r56InterfaceNe ≠ 0 := decide_eq_true_iff

theorem raiseRts_line (info : R56Struct) (paid : info.dropRtsOnTxDone = false) :
    (raiseRts info).line = { info.line with rts := true, drop := !info.line.rts } := by
  have line : info.line.rts = decide info.rts := rfl
  unfold raiseRts
  by_cases down : info.serialSignals &&& serialSignalRts = 0
  · have lowered : info.line.rts = false := by rw [line, decide_eq_false_iff_not, R56Struct.rts, not_ne_iff, down]
    rw [if_pos down, lowered]
    exact Line.ext rfl rfl rfl (decide_eq_true (or_rts info.serialSignals)) rfl rfl rfl
  · have raised : info.line.rts = true := by rw [line, decide_eq_true_iff]; exact down
    rw [if_neg down, raised]
    exact Line.ext rfl rfl rfl raised paid rfl rfl

theorem assertAutoRts_line (info : R56Struct) :
    (assertAutoRts info).line =
      { info.line with
        rts := info.line.rts || info.line.autoRts, drop := info.line.autoRts && !info.line.rts } := by
  have read := uscGetSerialSignals_line { info with dropRtsOnTxDone := false }
  unfold assertAutoRts
  dsimp only
  by_cases auto : info.params.flags &&& hdlcFlagAutoRts ≠ 0
  · rw [if_pos auto, (autoRts_iff info).mpr auto, raiseRts_line _ rfl, read, Bool.or_true, Bool.true_and]
    rfl
  · rw [if_neg auto, Bool.eq_false_iff.mpr (mt (autoRts_iff info).mp auto), Bool.or_false, Bool.false_and]
    rfl

theorem silenceReceiver_line (info : R56Struct) :
    (silenceReceiver info).line =
      { info.line with rxEnabled := false, rccUnderrun := info.line.rccUnderrun && !info.line.rxEnabled } := by
  have line : info.line.rxEnabled = info.rxEnabled := rfl
  unfold silenceReceiver
  cases enabled : info.rxEnabled with
  | true =>
    rw [if_pos rfl, line, enabled, Bool.not_true, Bool.and_false]
    rfl
  | false =>
    rw [if_neg (by decide), line, enabled, Bool.not_false, Bool.and_true]
    exact Line.ext rfl rfl rfl rfl rfl enabled rfl

theorem ignoreEcho_line (info : R56Struct) :
    (ignoreEcho info).line =
      { info.line with
        rxEnabled := info.line.rxEnabled && !info.line.noEcho
        rccUnderrun := info.line.rccUnderrun && !(info.line.noEcho && info.line.rxEnabled) } := by
  unfold ignoreEcho
  dsimp only
  by_cases echo : info.params.interface &&& r56InterfaceNe ≠ 0
  · rw [if_pos echo, (noEcho_iff info).mpr echo, silenceReceiver_line, Bool.not_true, Bool.and_false, Bool.true_and]
    rfl
  · rw [if_neg echo, Bool.eq_false_iff.mpr (mt (noEcho_iff info).mp echo), Bool.not_false, Bool.and_true,
      Bool.false_and, Bool.not_false, Bool.and_true]
    rfl

theorem loadTxfifoLoop_line (readings : List Nat) (info : R56Struct) :
    (loadTxfifoLoop readings info).line = info.line := by
  have step (s : R56Struct) (fifocount : Nat) : (loadTxfifoStep s fifocount).line = s.line := by
    unfold loadTxfifoStep
    dsimp only
    split
    · rfl
    · split <;> rfl
  induction readings generalizing info with
  | nil => rfl
  | cons fifocount rest ih =>
    unfold loadTxfifoLoop
    split
    · exact (ih _).trans (step info fifocount)
    · rfl

theorem uscLoadTxfifo_line (info : R56Struct) : (uscLoadTxfifo info).line = info.line := by
  unfold uscLoadTxfifo
  split
  · rfl
  · exact loadTxfifoLoop_line _ _

theorem feedTransmitter_line (info : R56Struct) : (feedTransmitter info).line = info.line := by
  unfold feedTransmitter startAsyncTransmitter
  dsimp only
  split
  · split
    · rfl
    · exact uscLoadTxfifo_line _
  · rfl

theorem sendXmit_line (info : R56Struct) : (sendXmit info).line = info.line.begun := by
  have fed := feedTransmitter_line (ignoreEcho (assertAutoRts info))
  rw [ignoreEcho_line, assertAutoRts_line] at fed
  exact fed

theorem enableIfDisabled_line (info : R56Struct) : (enableIfDisabled info).line = info.line := by
  unfold enableIfDisabled
  split
  · rfl
  · rfl

/-- Only a start with something to send touches the line. -/
theorem uscStartTransmitter_line (info : R56Struct) :
    (uscStartTransmitter info).line = if info.xmitCnt ≠ 0 then info.line.begun else info.line := by
  unfold uscStartTransmitter
  rw [enableIfDisabled_line]
  split
  · exact sendXmit_line info
  · rfl

theorem startIfIdle_line (info : R56Struct) :
    (startIfIdle info).line =
      if info.xmitCnt ≠ 0 ∧ info.ttyStopped = false ∧ info.txActive = false then info.line.begun
      else info.line := by
  unfold startIfIdle
  by_cases queued : info.xmitCnt ≠ 0
  · by_cases stopped : info.ttyStopped = true
    · rw [if_neg (by simp [stopped]), if_neg (by simp [stopped])]
    · by_cases active : info.txActive = true
      · rw [if_pos ⟨queued, stopped⟩, if_pos active, if_neg (by simp [active])]
      · rw [if_pos ⟨queued, stopped⟩, if_neg active, uscStartTransmitter_line, if_pos queued,
          if_pos ⟨queued, Bool.eq_false_iff.mpr stopped, Bool.eq_false_iff.mpr active⟩]
  · rw [if_neg fun h => queued h.1, if_neg fun h => queued h.1]

/-- What the asynchronous copy loop keeps. -/
theorem writeAsync_keeps (buf : Nat → U8) (fuel count : Nat) (info : R56Struct) :
    let after := (writeAsync info fuel buf count).1
    after.line = info.line ∧ after.ttyStopped = info.ttyStopped ∧ after.txActive = info.txActive ∧
      (info.xmitCnt ≠ 0 → after.xmitCnt ≠ 0) := by
  induction fuel generalizing info buf count with
  | zero => exact ⟨rfl, rfl, rfl, id⟩
  | succ fuel ih =>
    unfold writeAsync
    dsimp only
    split
    · exact ⟨rfl, rfl, rfl, id⟩
    · rename_i room
      obtain ⟨line, stopped, active, queued⟩ := ih (fun i => buf (i + _)) _ { info with
        xmitBuf := Memory.blit info.xmitBuf info.xmitHead (Memory.read buf 0 _)
        xmitHead := _
        xmitCnt := info.xmitCnt + min count (min (serialXmitSize - info.xmitCnt - 1) (serialXmitSize - info.xmitHead)) }
      exact ⟨line, stopped, active, fun some => queued (Nat.ne_of_gt (Nat.add_pos_left (Nat.pos_of_ne_zero some) _))⟩

theorem writeAsync_xmitCnt (buf : Nat → U8) (count : Nat) (info : R56Struct) :
    (writeAsync info (count + 1) buf count).1.xmitCnt ≠ 0 ↔
      info.xmitCnt ≠ 0 ∨ count ≠ 0 ∧ info.xmitHead < serialXmitSize := by
  by_cases queued : info.xmitCnt ≠ 0
  · exact iff_of_true ((writeAsync_keeps buf (count + 1) count info).2.2.2 queued) (.inl queued)
  · have empty : info.xmitCnt = 0 := not_not.mp queued
    have room : min count (min (serialXmitSize - info.xmitCnt - 1) (serialXmitSize - info.xmitHead)) = 0 ↔
        ¬(count ≠ 0 ∧ info.xmitHead < serialXmitSize) := by
      rw [empty]
      unfold serialXmitSize
      omega
    unfold writeAsync
    dsimp only
    split
    · rename_i full
      have none := room.mp full
      exact iff_of_false queued (fun some => some.elim queued none)
    · rename_i some
      have copied := not_not.mp (mt room.mpr some)
      refine iff_of_true ?_ (.inr copied)
      refine (writeAsync_keeps _ _ _ _).2.2.2 ?_
      dsimp only
      omega

theorem r56Write_line (info : R56Struct) (buf : Nat → U8) (count : Nat) :
    (r56Write info buf count).1.line = lineAfter info (.write buf count) := by
  have saved (s : R56Struct) : (saveTxBufferRequest s buf count).line = s.line := by
    unfold saveTxBufferRequest
    split
    · rfl
    · rfl
  have loaded (s : R56Struct) : (loadNextTxHoldingBuffer s).1.line = s.line := by
    unfold loadNextTxHoldingBuffer
    dsimp only
    split
    · rfl
    · rfl
  have idle (refused : ¬beginsFrame info (.write buf count)) : lineAfter info (.write buf count) = info.line :=
    if_neg refused
  have sent (s : R56Struct) (line : s.line = info.line) (stopped : s.ttyStopped = info.ttyStopped)
      (active : s.txActive = info.txActive) (ptr : info.xmitBufPtr = true)
      (queued : s.xmitCnt ≠ 0 ↔ info.writable count) :
      (startIfIdle s).line = lineAfter info (.write buf count) := by
    have begins : (s.xmitCnt ≠ 0 ∧ s.ttyStopped = false ∧ s.txActive = false) ↔
        beginsFrame info (.write buf count) := by
      rw [queued, stopped, active]
      exact ⟨fun h => ⟨⟨ptr, h.2.1, h.2.2⟩, h.1⟩, fun h => ⟨h.2, h.1.2.1, h.1.2.2⟩⟩
    rw [startIfIdle_line, line]
    exact if_congr begins rfl rfl
  unfold r56Write
  by_cases ptr : info.xmitBufPtr = true
  · rw [if_neg (not_not.mpr ptr)]
    by_cases sync : info.synchronous
    · rw [if_pos sync]
      cases active : info.txActive with
      | true =>
        have busy : lineAfter info (.write buf count) = info.line :=
          idle fun begins => absurd begins.1.2.2 (by rw [active]; decide)
        rw [if_pos rfl, busy]
        split
        · rfl
        split
        · rfl
        · exact (loaded _).trans (saved info)
      | false =>
        rw [if_neg (by decide)]
        by_cases loop : info.params.flags &&& hdlcFlagHdlcLoopmode ≠ 0 ∧ ¬uscLoopmodeActive info = true
        · rw [if_pos loop]
          refine (idle fun begins => ?_).symm
          have writable := begins.2
          rw [R56Struct.writable, if_pos sync] at writable
          exact loop.2 (writable.1 loop.1)
        · have inserted : info.params.flags &&& hdlcFlagHdlcLoopmode ≠ 0 → uscLoopmodeActive info = true :=
            fun mode => not_not.mp fun out => loop ⟨mode, out⟩
          have writable : info.writable count ↔ info.xmitCnt ≠ 0 ∨ count ≠ 0 := by
            rw [R56Struct.writable, if_pos sync]
            exact and_iff_right inserted
          rw [if_neg loop]
          split
          · rename_i queued
            exact sent (loadXmitBuf info) rfl rfl rfl ptr (iff_of_true queued (writable.mpr (.inl queued)))
          · rename_i empty
            refine sent _ rfl rfl active.symm ptr ?_
            rw [writable]
            exact ⟨.inr, fun h => h.resolve_left empty⟩
    · rw [if_neg sync]
      obtain ⟨line, stopped, active, -⟩ := writeAsync_keeps buf (count + 1) count info
      refine sent _ line stopped active ptr ?_
      rw [R56Struct.writable, if_neg sync]
      exact writeAsync_xmitCnt buf count info
  · rw [if_pos ptr]
    exact (idle fun begins => ptr begins.1.1).symm

theorem r56FlushChars_line (info : R56Struct) : (r56FlushChars info).line = lineAfter info .flushChars := by
  have sent (s : R56Struct) (line : s.line = info.line) (queued : s.xmitCnt ≠ 0) (held : info.sendable)
      (some : info.xmitCnt ≠ 0) : (uscStartTransmitter s).line = lineAfter info .flushChars := by
    rw [uscStartTransmitter_line, if_pos queued, line]
    exact (if_pos ⟨held, some⟩).symm
  have idle (refused : ¬(info.sendable ∧ info.xmitCnt ≠ 0)) : info.line = lineAfter info .flushChars :=
    (if_neg refused).symm
  unfold r56FlushChars
  split
  · rename_i refused
    refine idle fun begins => ?_
    rcases refused with empty | stopped | ptr
    · exact begins.2 empty
    · exact absurd stopped (by rw [begins.1.2.1]; decide)
    · exact ptr begins.1.1
  · rename_i accepted
    rw [not_or, not_or, not_not] at accepted
    obtain ⟨queued, stopped, ptr⟩ := accepted
    split
    · rename_i active
      exact idle fun begins => absurd active (by rw [begins.1.2.2]; decide)
    · rename_i active
      have held : info.sendable := ⟨ptr, Bool.eq_false_iff.mpr stopped, Bool.eq_false_iff.mpr active⟩
      split
      · exact sent (loadXmitBuf info) rfl queued held queued
      · exact sent info rfl queued held queued

theorem r56Start_line (info : R56Struct) :
    (r56Start info).line = if info.resumable then info.line.begun else info.line := by
  unfold r56Start
  cases enabled : info.txEnabled with
  | true =>
    rw [if_pos rfl, if_neg fun h => absurd h.1 (by rw [enabled]; decide)]
  | false =>
    rw [if_neg (by decide), uscStartTransmitter_line]
    exact if_congr ⟨fun h => ⟨enabled, h⟩, fun h => h.2⟩ rfl rfl

theorem r56SendXchar_line (info : R56Struct) (ch : U8) :
    (r56SendXchar info ch).line = if ch ≠ 0 ∧ info.resumable then info.line.begun else info.line := by
  have started := r56Start_line { info with xChar := ch }
  unfold r56SendXchar
  dsimp only
  by_cases null : ch = 0
  · rw [if_neg fun h => h.1 null, if_neg fun h => h.1 null]
    rfl
  · cases enabled : info.txEnabled with
    | true =>
      rw [if_neg fun h => h.2 rfl, if_neg fun h => absurd h.2.1 (by rw [enabled]; decide)]
      rfl
    | false =>
      rw [if_pos ⟨null, by decide⟩, uscStartTransmitter_line]
      exact if_congr ⟨fun h => ⟨null, enabled, h⟩, fun h => h.2.2⟩ rfl rfl

theorem signalRts_line (info : R56Struct) (on : Bool) :
    (signalRts info on).line =
      if info.tty.cCflag &&& crtscts ≠ 0 then { info.line with rts := on } else info.line := by
  unfold signalRts
  split
  · cases on with
    | true => exact Line.ext rfl rfl rfl (decide_eq_true (or_rts info.serialSignals)) rfl rfl rfl
    | false =>
      exact Line.ext rfl rfl rfl (decide_eq_false (not_ne_iff.mpr (and_not_rts info.serialSignals))) rfl rfl rfl
  · rfl

theorem r56Throttle_line (info : R56Struct) : (r56Throttle info).line = lineAfter info .throttle := by
  have told : (sendStopChar info).line =
      if beginsFrame info .throttle then info.line.begun else info.line := by
    unfold sendStopChar
    by_cases soft : info.tty.cIflag &&& ixoff ≠ 0
    · rw [if_pos soft, r56SendXchar_line]
      exact if_congr ⟨fun h => ⟨soft, h.1, h.2⟩, fun h => ⟨h.2.1, h.2.2⟩⟩ rfl rfl
    · rw [if_neg soft]
      exact (if_neg fun h => soft h.1).symm
  have tty : (sendStopChar info).tty = info.tty := by
    unfold sendStopChar r56SendXchar
    dsimp only
    split
    · split
      · have frame := congrArg R56Struct.tty (uscStartTransmitter_frame { info with xChar := info.tty.stopChar })
        exact frame
      · rfl
    · rfl
  unfold r56Throttle
  rw [signalRts_line, tty, told]
  rfl

theorem r56Unthrottle_line (info : R56Struct) : (r56Unthrottle info).line = lineAfter info .unthrottle := by
  have told : (sendStartChar info).line =
      if beginsFrame info .unthrottle then info.line.begun else info.line := by
    unfold sendStartChar
    by_cases soft : info.tty.cIflag &&& ixoff ≠ 0
    · rw [if_pos soft]
      by_cases pending : info.xChar ≠ 0
      · rw [if_pos pending, if_neg fun h => pending h.2.1]
        rfl
      · rw [if_neg pending, r56SendXchar_line]
        exact if_congr ⟨fun h => ⟨soft, not_not.mp pending, h.1, h.2⟩, fun h => ⟨h.2.2.1, h.2.2.2⟩⟩ rfl rfl
    · rw [if_neg soft]
      exact (if_neg fun h => soft h.1).symm
  have tty : (sendStartChar info).tty = info.tty := by
    unfold sendStartChar r56SendXchar
    dsimp only
    split
    · split
      · rfl
      split
      · have frame := congrArg R56Struct.tty (uscStartTransmitter_frame { info with xChar := info.tty.startChar })
        exact frame
      · rfl
    · rfl
  unfold r56Unthrottle
  rw [signalRts_line, tty, told]
  rfl

theorem r56Txenable_line (info : R56Struct) (enable : Bool) :
    (r56Txenable info enable).line = lineAfter info (.txenable enable) := by
  have insert (s : R56Struct) : (uscLoopmodeInsertRequest s).line = s.line := rfl
  unfold r56Txenable
  dsimp only
  cases enable with
  | true =>
    rw [if_pos rfl]
    cases enabled : info.txEnabled with
    | true =>
      rw [if_pos rfl]
      exact (if_neg fun h => absurd h.2.1 (by rw [enabled]; decide)).symm
    | false =>
      have started : (uscStartTransmitter info).line = lineAfter info (.txenable true) := by
        rw [uscStartTransmitter_line]
        exact if_congr ⟨fun h => ⟨rfl, enabled, h⟩, fun h => h.2.2⟩ rfl rfl
      rw [if_neg (by decide)]
      split
      · exact started
      · exact started
  | false =>
    rw [if_neg (by decide)]
    have refused : ¬beginsFrame info (.txenable false) := fun h => absurd h.1 (by decide)
    have idle : lineAfter info (.txenable false) = info.line := by
      unfold lineAfter
      exact if_neg refused
    rw [idle]
    split
    · rfl
    · rfl

theorem uscStartReceiver_line (info : R56Struct) :
    (uscStartReceiver info).line = { info.line with rxEnabled := true, rccUnderrun := false } :=
  line_of_exceptReceiver (uscStartReceiver_frame info)

theorem uscStopReceiver_line (info : R56Struct) :
    (uscStopReceiver info).line = { info.line with rxEnabled := false, rccUnderrun := false } :=
  line_of_exceptReceiver (uscStopReceiver_frame info)

theorem r56Rxenable_line (info : R56Struct) (enable : Bool) :
    (r56Rxenable info enable).line = lineAfter info (.rxenable enable) := by
  have after : lineAfter info (.rxenable enable) =
      if enable = info.rxEnabled then info.line
      else { info.line with rxEnabled := enable, rccUnderrun := false } := rfl
  rw [after]
  unfold r56Rxenable
  cases enable with
  | true =>
    by_cases enabled : info.rxEnabled = true
    · rw [if_pos rfl, if_pos enabled, if_pos enabled.symm]
    · rw [if_pos rfl, if_neg enabled, if_neg (Ne.symm enabled), uscStartReceiver_line]
  | false =>
    by_cases enabled : info.rxEnabled = true
    · rw [if_neg (by decide), if_pos enabled, if_neg (by rw [enabled]; decide), uscStopReceiver_line]
    · rw [if_neg (by decide), if_neg enabled, if_pos (Bool.eq_false_iff.mpr enabled).symm]

theorem r56IsrMisc_line (info : R56Struct) :
    (r56IsrMisc info).line =
      if uscInReg info.usc .misr &&& miscstatusRccUnderrun ≠ 0 ∧ info.params.mode = r56ModeHdlc then
        { info.line with rccUnderrun := true }
      else info.line := by
  have halted (status : U16) : (haltOnRccUnderrun info status).line =
      if status &&& miscstatusRccUnderrun ≠ 0 ∧ info.params.mode = r56ModeHdlc then
        { info.line with rccUnderrun := true }
      else info.line := by
    unfold haltOnRccUnderrun
    split
    · rfl
    · rfl
  exact halted _

theorem ctsFlowControl_line (info : R56Struct) (status : U16) :
    (ctsFlowControl info status).line =
      if info.tty.hwStopped = true ∧ status &&& miscstatusCts ≠ 0 ∧ info.xmitCnt ≠ 0 then info.line.begun
      else info.line := by
  have done (s : R56Struct) : (ioPinDone s status).line = s.line := line_of_exceptChip (ioPinDone_frame s status)
  unfold ctsFlowControl
  dsimp only
  by_cases held : info.tty.hwStopped = true
  · rw [if_pos held]
    by_cases back : status &&& miscstatusCts ≠ 0
    · have started := uscStartTransmitter_line { info with tty := { info.tty with hwStopped := false } }
      rw [if_pos back]
      refine Eq.trans started ?_
      exact if_congr ⟨fun h => ⟨held, back, h⟩, fun h => h.2.2⟩ rfl rfl
    · have refused : ¬(info.tty.hwStopped = true ∧ status &&& miscstatusCts ≠ 0 ∧ info.xmitCnt ≠ 0) :=
        fun h => back h.2.1
      rw [if_neg back, if_neg refused]
      exact done info
  · have refused : ¬(info.tty.hwStopped = true ∧ status &&& miscstatusCts ≠ 0 ∧ info.xmitCnt ≠ 0) :=
      fun h => held h.1
    rw [if_neg held, if_neg refused]
    split
    · exact done _
    · exact done _

/-- A latched CTS is a latched input line. -/
theorem lines_of_cts {status : U16} (latched : status &&& miscstatusCtsLatched ≠ 0) :
    status &&& miscstatusLines ≠ 0 := by
  intro none
  have inside : miscstatusLines &&& miscstatusCtsLatched = miscstatusCtsLatched := rfl
  apply latched
  rw [← inside, ← BitVec.and_assoc, none]
  rfl

theorem r56IsrIoPin_line (info : R56Struct) (vector : info.uscVector = 2) :
    (r56IsrIoPin info).line =
      if info.ctsResumes ∧ info.xmitCnt ≠ 0 then info.line.begun else info.line := by
  have counted (u : Usc) (status : U16) := countIoPins_frame { info with usc := u } status
  have done (s : R56Struct) (status : U16) : (ioPinDone s status).line = s.line :=
    line_of_exceptChip (ioPinDone_frame s status)
  unfold r56IsrIoPin
  dsimp only
  by_cases lines : uscInReg info.usc .misr &&& miscstatusLines ≠ 0
  · rw [if_pos lines]
    unfold serviceIoPins
    dsimp only
    generalize uscUnlatchIostatusBits (uscClearIrqPendingBits info.usc ioPin) (uscInReg info.usc .misr) = u
    have frame := counted u (uscInReg info.usc .misr)
    generalize countIoPins { info with usc := u } (uscInReg info.usc .misr) = s at frame ⊢
    have line : s.line = info.line := line_of_exceptChip frame
    have port : s.port = info.port := by have same := congrArg R56Struct.port frame; exact same
    have held : s.tty.hwStopped = info.tty.hwStopped := by
      have same := congrArg (·.tty.hwStopped) frame
      exact same
    have queued : s.xmitCnt = info.xmitCnt := by have same := congrArg R56Struct.xmitCnt frame; exact same
    by_cases flow : s.port.ctsFlow = true ∧ uscInReg info.usc .misr &&& miscstatusCtsLatched ≠ 0
    · rw [if_pos flow, ctsFlowControl_line, line, held, queued]
      rw [port] at flow
      exact if_congr ⟨fun h => ⟨⟨vector, flow.1, h.1, flow.2, h.2.1⟩, h.2.2⟩,
        fun h => ⟨h.1.2.2.1, h.1.2.2.2.2, h.2⟩⟩ rfl rfl
    · rw [if_neg flow, done, line]
      rw [port] at flow
      exact (if_neg fun h => flow ⟨h.1.2.1, h.1.2.2.2.1⟩).symm
  · rw [if_neg lines, done, if_neg fun h => lines (lines_of_cts h.1.2.2.2.1)]
    rfl

theorem dropAutoRts_line (info : R56Struct) : (dropAutoRts info).line = info.line.ended := by
  have read := uscGetSerialSignals_line info
  have negated (s : R56Struct) : (negateRts s).line = { s.line with rts := false } := by
    unfold negateRts
    split
    · exact Line.ext rfl rfl rfl (decide_eq_false (not_ne_iff.mpr (and_not_rts s.serialSignals))) rfl rfl rfl
    · rename_i down
      exact Line.ext rfl rfl rfl (decide_eq_false down) rfl rfl rfl
  have drop : info.line.drop = info.dropRtsOnTxDone := rfl
  unfold dropAutoRts Line.ended
  rw [drop]
  by_cases owed : info.dropRtsOnTxDone = true
  · have lowered : { negateRts (uscGetSerialSignals info) with dropRtsOnTxDone := false }.line =
        { (negateRts (uscGetSerialSignals info)).line with drop := false } := rfl
    rw [if_pos owed, owed, lowered, negated, read, Bool.not_true, Bool.and_false]
  · have paid : info.dropRtsOnTxDone = false := Bool.eq_false_iff.mpr owed
    rw [if_neg owed, paid, Bool.not_false, Bool.and_true]
    exact Line.ext rfl rfl rfl rfl paid rfl rfl

theorem r56IsrTransmitStatus_line (info : R56Struct) : (r56IsrTransmitStatus info).line = info.line.ended := by
  have dropped := dropAutoRts_line (ackTxStatus info (uscInReg info.usc .tcsr))
  have acked : (ackTxStatus info (uscInReg info.usc .tcsr)).line = info.line := rfl
  rw [acked] at dropped
  unfold r56IsrTransmitStatus
  dsimp only
  split
  · exact dropped
  split
  · exact dropped
  · exact dropped

theorem r56IsrTransmitData_line (info : R56Struct) : (r56IsrTransmitData info).line = info.line := by
  have fed (s : R56Struct) : (continueAsync s).line = s.line := by
    unfold continueAsync
    split
    · exact uscLoadTxfifo_line s
    · rfl
  unfold r56IsrTransmitData
  dsimp only
  split
  · rfl
  split
  · exact fed _
  · exact fed _

theorem r56IsrReceiveStatus_line (info : R56Struct) : (r56IsrReceiveStatus info).line = info.line := by
  have discarded (s : R56Struct) : (overrunDiscard s).1.line = s.line := by
    unfold overrunDiscard
    dsimp only
    split
    · rfl
    · split <;> rfl
  have recovered (s : R56Struct) (status : U16) : (recoverOverrun s status).line = s.line := by
    unfold recoverOverrun uscProcessRxoverrunSync
    dsimp only
    split
    · split
      · exact discarded _
      · exact discarded _
    · rfl
  exact (recovered _ _).trans (line_of_exceptChip (completeInsertion_frame info _))

theorem r56IsrReceiveDma_line (info : R56Struct) : (r56IsrReceiveDma info).line = info.line := by
  unfold r56IsrReceiveDma
  dsimp only
  split
  · rfl
  · rfl

theorem loadNextTxHoldingBuffer_line (info : R56Struct) : (loadNextTxHoldingBuffer info).1.line = info.line := by
  unfold loadNextTxHoldingBuffer
  dsimp only
  split
  · rfl
  · rfl

theorem r56IsrTransmitDma_line (info : R56Struct) : (r56IsrTransmitDma info).line = info.line := by
  have done (s : R56Struct) : (txBufferDone s).line = s.line := by
    have loaded := loadNextTxHoldingBuffer_line { s with txDmaBuffersUsed := s.txDmaBuffersUsed - 1 }
    unfold txBufferDone
    dsimp only
    split
    · exact loaded
    · exact loaded
  unfold r56IsrTransmitDma
  dsimp only
  split
  · exact done _
  · rfl

theorem r56Interrupt_line (info : R56Struct) (report : UscReport) :
    (r56Interrupt (info.reporting report)).line = lineAfter info (.interrupt report) := by
  have scheduled (s : R56Struct) : (scheduleBh s).line = s.line := by
    unfold scheduleBh
    split
    · rfl
    · rfl
  unfold r56Interrupt
  rw [scheduled, line_of_exceptChip (haltOnOverflow_frame _)]
  have line : (info.reporting report).line = info.line := rfl
  have begins : beginsFrame info (.interrupt report) ↔
      (info.reporting report).ctsResumes ∧ (info.reporting report).xmitCnt ≠ 0 := Iff.rfl
  have mode : info.params.mode = (info.reporting report).params.mode := rfl
  unfold lineAfter
  dsimp only
  simp only [begins, mode, ← line]
  generalize info.reporting report = shown
  have silent (other : shown.uscVector ≠ 2) : ¬(shown.ctsResumes ∧ shown.xmitCnt ≠ 0) := fun h => other h.1.1
  have served := serviceInterrupt_serviced shown
  generalize serviceInterrupt shown = after at served ⊢
  cases served with
  | transmitDma vector _ =>
    rw [if_neg (silent (by omega)), if_neg (by omega), if_neg fun h => absurd h.1 (by omega)]
    exact r56IsrTransmitDma_line shown
  | receiveDma vector _ =>
    rw [if_neg (silent (by omega)), if_neg (by omega), if_neg fun h => absurd h.1 (by omega)]
    exact r56IsrReceiveDma_line shown
  | misc vector =>
    rw [if_neg (silent (by omega)), if_neg (by omega), r56IsrMisc_line]
    exact if_congr ⟨fun h => ⟨vector, h⟩, fun h => h.2⟩ rfl rfl
  | ioPin vector =>
    rw [if_neg (show ¬shown.uscVector = 4 by omega), if_neg fun h => absurd h.1 (by omega)]
    exact r56IsrIoPin_line shown vector
  | transmitData vector =>
    rw [if_neg (silent (by omega)), if_neg (by omega), if_neg fun h => absurd h.1 (by omega)]
    exact r56IsrTransmitData_line shown
  | transmitStatus vector =>
    rw [if_neg (silent (by omega)), if_pos vector]
    exact r56IsrTransmitStatus_line shown
  | receiveData vector =>
    rw [if_neg (silent (by omega)), if_neg (by omega), if_neg fun h => absurd h.1 (by omega)]
    exact line_of_exceptChip (r56IsrReceiveData_frame shown)
  | receiveStatus vector =>
    rw [if_neg (silent (by omega)), if_neg (by omega), if_neg fun h => absurd h.1 (by omega)]
    exact r56IsrReceiveStatus_line shown
  | null vector =>
    rw [if_neg (silent (by omega)), if_neg (by omega), if_neg fun h => absurd h.1 (by omega)]

theorem line_of_exceptDelivery {s t : R56Struct} (frame : t.exceptDelivery = s.exceptDelivery) :
    t.line = s.line := by
  have same := congrArg R56Struct.line frame
  exact same

/-- A receiver that is restarted was enabled, and no receive count underrun was noted. -/
theorem restarted_line {info : R56Struct} (enabled : info.rxEnabled = true)
    (counting : info.rxRccUnderrun = false) : (uscStartReceiver info).line = info.line := by
  rw [uscStartReceiver_line]
  exact Line.ext rfl rfl rfl rfl rfl enabled.symm counting.symm

theorem r56FreeRxFrameBuffers_line (info : R56Struct) (startIndex endIndex : Nat) :
    (r56FreeRxFrameBuffers info startIndex endIndex).line = info.line :=
  line_of_exceptReceiver (r56FreeRxFrameBuffers_frame info startIndex endIndex)

theorem restartOnOverflow_line {info : R56Struct} (index : Nat) (counting : info.rxRccUnderrun = false) :
    (restartOnOverflow info index).line = info.line := by
  unfold restartOnOverflow
  split
  · rename_i overflow
    split
    · exact restarted_line (Bool.and_eq_true_iff.mp overflow).1 counting
    · rfl
  · rfl

theorem r56GetRxFrame_line {info : R56Struct} (counting : info.rxRccUnderrun = false) :
    (r56GetRxFrame info).1.line = info.line := by
  unfold r56GetRxFrame
  dsimp only
  split
  · rename_i endIndex _
    have delivered := line_of_exceptDelivery (deliverRxFrame_frame info info.currentRxBuffer endIndex)
    have freed := (r56FreeRxFrameBuffers_line _ info.currentRxBuffer endIndex).trans delivered
    have still := (congrArg Line.rccUnderrun freed).trans counting
    exact (restartOnOverflow_line _ still).trans freed
  · exact restartOnOverflow_line _ counting
  · by_cases enabled : info.rxEnabled = true
    · rw [if_pos enabled]
      exact (restartOnOverflow_line _ rfl).trans (restarted_line enabled counting)
    · rw [if_neg enabled]
      exact restartOnOverflow_line _ counting

theorem r56GetRawRxFrame_line {info : R56Struct} (counting : info.rxRccUnderrun = false) :
    (r56GetRawRxFrame info).1.line = info.line := by
  unfold r56GetRawRxFrame
  dsimp only
  split
  · have delivered := line_of_exceptDelivery (deliverRawFrame_frame info info.currentRxBuffer)
    have freed := (r56FreeRxFrameBuffers_line _ info.currentRxBuffer info.currentRxBuffer).trans delivered
    have still := (congrArg Line.rccUnderrun freed).trans counting
    exact (restartOnOverflow_line _ still).trans freed
  · exact restartOnOverflow_line _ counting

theorem getRxFrame_line (mode : R56Struct) {info : R56Struct} (counting : info.rxRccUnderrun = false) :
    (getRxFrame mode info).1.line = info.line := by
  unfold getRxFrame
  split
  · exact r56GetRxFrame_line counting
  · exact r56GetRawRxFrame_line counting

theorem r56BhReceive_line {info after : R56Struct} (returned : r56BhReceive info = some after) :
    after.line =
      if info.rxRccUnderrun = true then { info.line with rxEnabled := true, rccUnderrun := false }
      else info.line := by
  have loop (fuel : Nat) (start : R56Struct)
      (ran : r56BhReceiveLoop (getRxFrame info) fuel start = some after) :
      after.line = if start.rxRccUnderrun = true then
        { start.line with rxEnabled := true, rccUnderrun := false } else start.line := by
    induction fuel generalizing start with
    | zero => exact absurd ran (by simp [r56BhReceiveLoop])
    | succ fuel ih =>
      unfold r56BhReceiveLoop at ran
      by_cases underrun : start.rxRccUnderrun = true
      · rw [if_pos underrun] at ran ⊢
        cases ran
        exact uscStartReceiver_line start
      · have counting := Bool.eq_false_iff.mpr underrun
        have got := getRxFrame_line info counting
        have still := (congrArg Line.rccUnderrun got).trans counting
        rw [if_neg underrun] at ran ⊢
        split at ran
        · rw [ih _ ran, if_neg (by rw [show (getRxFrame info start).1.rxRccUnderrun = false from still]; decide)]
          exact got
        · cases ran
          exact got
  exact loop _ _ returned

/-- What an operation that sets neither parameters nor modem signals does to the line. -/
theorem exec_line {info after : R56Struct} {op : Op} (free : ¬setsLine op) (ran : exec info op = some after) :
    after.line = lineAfter info op := by
  cases op with
  | write buf count => cases ran; exact r56Write_line info buf count
  | putChar ch =>
    cases ran
    show (r56PutChar info ch).1.line = info.line
    unfold r56PutChar
    split
    · rfl
    · rfl
  | flushChars => cases ran; exact r56FlushChars_line info
  | flushBuffer => cases ran; rfl
  | stop =>
    cases ran
    show (r56Stop info).line = info.line
    unfold r56Stop
    split
    · rfl
    · rfl
  | start => cases ran; exact r56Start_line info
  | sendXchar ch => cases ran; exact r56SendXchar_line info ch
  | throttle => cases ran; exact r56Throttle_line info
  | unthrottle => cases ran; exact r56Unthrottle_line info
  | txenable enable => cases ran; exact r56Txenable_line info enable
  | rxenable enable => cases ran; exact r56Rxenable_line info enable
  | txabort => cases ran; exact line_of_exceptChip (r56Txabort_frame info)
  | loopmodeSendDone => cases ran; exact line_of_exceptChip (r56LoopmodeSendDone_frame info)
  | setParams newParams => exact absurd trivial free
  | setTermios cCflag cIflag baudRate => exact absurd trivial free
  | setTxidle idleMode => cases ran; rfl
  | tiocmset set clear => exact absurd trivial free
  | dtrRts on => exact absurd trivial free
  | setBreak on => cases ran; rfl
  | interrupt report => cases ran; exact r56Interrupt_line info report
  | bhReceive => exact r56BhReceive_line ran
  | bhTransmit => cases ran; exact line_of_exceptChip (r56BhTransmit_frame info)
  | bhStatus => cases ran; rfl
  | txTimeout =>
    cases ran
    have same := congrArg R56Struct.line (r56TxTimeout_frame info)
    exact same
  | flow stopped hwStopped => cases ran; rfl
  | reception list rxDma => cases ran; rfl

end Route56
