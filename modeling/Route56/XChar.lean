import Route56.AsyncTransmit

namespace Route56

open Transition

/-- The FIFO got `x_char` before anything else, and it is no longer pending. -/
def XCharFirst (info after : R56Struct) : Prop :=
  (∃ data, after.history.txData = info.history.txData ++ info.xChar :: data) ∧ after.xChar = 0

theorem loads_xChar (q : XmitQueue) (none : q.xChar = 0) (readings : List Nat) :
    (∃ data, (q.loads readings).written = q.written ++ data) ∧ (q.loads readings).xChar = 0 := by
  induction readings generalizing q with
  | nil => exact ⟨⟨[], (List.append_nil _).symm⟩, none⟩
  | cons fifocount readings ih =>
    unfold XmitQueue.loads
    split
    · obtain ⟨⟨data, written⟩, cleared⟩ := ih (q.load fifocount) rfl
      refine ⟨⟨q.loaded fifocount ++ data, ?_⟩, cleared⟩
      rw [written]
      simp [XmitQueue.load, none]
    · exact ⟨⟨[], (List.append_nil _).symm⟩, none⟩

/-- The pending character goes first exactly when data wait as well. -/
theorem uscLoadTxfifo_xCharFirst {info : R56Struct} {fifocount : Nat} {readings : List Nat}
    (pending : info.xChar ≠ 0) (shown : info.usc.txFifo = fifocount :: readings) (room : fifocount ≠ 0) :
    XCharFirst info (uscLoadTxfifo info) ↔ info.xmitCnt ≠ 0 := by
  have asked : ¬(info.xmitCnt = 0 ∧ info.xChar = 0) := fun none => pending none.2
  have queue : (uscLoadTxfifo info).xmitQueue = info.xmitQueue.loads (fifocount :: readings) := by
    unfold uscLoadTxfifo
    rw [if_neg asked, shown]
    exact loadTxfifoLoop_queue _ _
  have written : (uscLoadTxfifo info).history.txData = (info.xmitQueue.loads (fifocount :: readings)).written :=
    congrArg (·.written) queue
  have left : (uscLoadTxfifo info).xChar = (info.xmitQueue.loads (fifocount :: readings)).xChar :=
    congrArg (·.xChar) queue
  unfold XCharFirst
  rw [written, left]
  constructor
  · rintro ⟨-, cleared⟩ empty
    have same : info.xmitQueue.loads (fifocount :: readings) = info.xmitQueue := by
      unfold XmitQueue.loads
      exact if_neg fun go => go.2 empty
    rw [same] at cleared
    exact pending cleared
  · intro some
    have first : info.xmitQueue.loads (fifocount :: readings) = (info.xmitQueue.load fifocount).loads readings := by
      rw [XmitQueue.loads]
      exact if_pos ⟨room, some⟩
    obtain ⟨⟨data, later⟩, cleared⟩ := loads_xChar (info.xmitQueue.load fifocount) rfl readings
    rw [first]
    refine ⟨⟨info.xmitQueue.loaded fifocount ++ data, ?_⟩, cleared⟩
    have ahead : (info.xmitQueue.load fifocount).written =
        info.history.txData ++ [info.xChar] ++ info.xmitQueue.loaded fifocount := by
      show info.history.txData ++ (if info.xChar ≠ 0 then [info.xChar] else []) ++ _ = _
      rw [if_pos pending]
    rw [later, ahead]
    simp only [List.append_assoc, List.cons_append, List.nil_append]

/-- The port is asynchronous and nothing waits in `xmit_buf`. -/
def NoData (info : R56Struct) : Prop := info.params.mode = r56ModeAsync ∧ info.xmitCnt = 0

/-- From a state without data to a state without data, and nothing was written to the FIFO. -/
def SendsNothing (s t : R56Struct) : Prop := NoData s → NoData t ∧ t.history.txData = s.history.txData

theorem SendsNothing.of_same {s t : R56Struct} (mode : t.params.mode = s.params.mode) (cnt : t.xmitCnt = s.xmitCnt)
    (written : t.history.txData = s.history.txData) : SendsNothing s t :=
  fun none => ⟨⟨mode.trans none.1, cnt.trans none.2⟩, written⟩

theorem silent_kept : KeptSilent SendsNothing where
  refl _ none := ⟨none, rfl⟩
  trans first second none := by
    obtain ⟨between, written⟩ := first none
    obtain ⟨next, more⟩ := second between
    exact ⟨next, more.trans written⟩
  reception frame := .of_same (congrArg (·.params.mode) frame) (congrArg (·.xmitCnt) frame)
    (congrArg (·.history.txData) frame)
  signals _ _ none := ⟨none, rfl⟩
  flow _ _ _ none := ⟨none, rfl⟩
  xchar _ _ none := ⟨none, rfl⟩
  start s none := by
    have idle : uscStartTransmitter s = enableIfDisabled s := by
      unfold uscStartTransmitter
      rw [if_neg (not_not.mpr none.2)]
    rw [idle]
    unfold enableIfDisabled
    split
    · exact ⟨none, rfl⟩
    · exact ⟨none, rfl⟩
  stop _ none := ⟨none, rfl⟩
  ended _ none := ⟨⟨none.1, rfl⟩, rfl⟩
  dropped _ none := ⟨none, rfl⟩
  continued s none := by
    unfold continueAsync
    rw [if_neg (not_not.mpr none.2)]
    exact ⟨none, rfl⟩

/-- The operation brings no user data, neither from a caller nor out of a holding buffer, and the
port stays asynchronous. -/
def BringsNoData (info : R56Struct) : Op → Prop
  | .write .. | .putChar _ => False
  | .setParams newParams => newParams.mode = r56ModeAsync
  | .interrupt report => (info.reporting report).transmitDmaVector → info.txHoldingCount = 0
  | _ => True

theorem r56ChangeParams_silent (info : R56Struct) : SendsNothing info (r56ChangeParams info) := by
  intro none
  have mode := (r56ChangeParams_setup info).2
  have queue : (r56ChangeParams info).xmitQueue = info.xmitQueue ∨
      (r56ChangeParams info).xmitQueue = info.xmitQueue.flushed := by
    unfold r56ChangeParams
    split
    · exact .inl rfl
    · right
      dsimp only
      rw [r56ProgramHw_queue]
      rfl
  refine ⟨⟨mode.trans none.1, ?_⟩, ?_⟩
  · rcases queue with same | flushed
    · exact (congrArg XmitQueue.cnt same).trans none.2
    · exact congrArg XmitQueue.cnt flushed
  · rcases queue with same | flushed
    · exact congrArg XmitQueue.written same
    · exact congrArg XmitQueue.written flushed

/-- Without a held buffer the interrupt for the transmit DMA channel brings nothing. -/
theorem r56IsrTransmitDma_silent {info : R56Struct} (held : info.txHoldingCount = 0) :
    SendsNothing info (r56IsrTransmitDma info) := by
  have done (t : R56Struct) (empty : t.txHoldingCount = 0) :
      txBufferDone t = { t with txDmaBuffersUsed := t.txDmaBuffersUsed - 1 } := by
    have stays : loadNextTxHoldingBuffer { t with txDmaBuffersUsed := t.txDmaBuffersUsed - 1 } =
        ({ t with txDmaBuffersUsed := t.txDmaBuffersUsed - 1 }, false) := by
      unfold loadNextTxHoldingBuffer
      exact if_neg fun go => go.1 empty
    unfold txBufferDone
    rw [stays]
    rfl
  intro none
  unfold r56IsrTransmitDma
  dsimp only
  split
  · have emptied := done { info with usc := uscOutDmaReg info.usc .cdir (bit8 + bit0) } held
    rw [emptied]
    exact ⟨none, rfl⟩
  · exact ⟨none, rfl⟩

/-- An operation that brings no data leaves the FIFO alone while there are none. -/
theorem exec_silent {info after : R56Struct} {op : Op} (quiet : BringsNoData info op)
    (ran : exec info op = some after) : SendsNothing info after := by
  cases op with
  | write buf count => exact absurd quiet id
  | putChar ch => exact absurd quiet id
  | flushChars =>
    cases ran
    intro none
    have same : r56FlushChars info = info := by
      unfold r56FlushChars
      exact if_pos (.inl none.2)
    rw [same]
    exact ⟨none, rfl⟩
  | flushBuffer =>
    cases ran
    exact fun none => ⟨⟨none.1, rfl⟩, rfl⟩
  | setParams newParams =>
    cases ran
    exact fun none => @r56ChangeParams_silent { info with params := newParams } ⟨quiet, none.2⟩
  | setTermios cCflag cIflag baudRate =>
    cases ran
    have changed := r56ChangeParams_silent { info with
      tty := { info.tty with cCflag := cCflag, cIflag := cIflag, baudRate := baudRate } }
    exact fun none => silent_kept.trans changed (silent_kept.termios _ info.tty.cCflag) none
  | interrupt report =>
    cases ran
    refine silent_kept.interruptGiven info report fun vector => ?_
    have held : (info.reporting report).txHoldingCount = 0 := quiet vector
    exact r56IsrTransmitDma_silent held
  | _ => exact silent_kept.exec id (by nofun) id ran

/-- A pending character is not sent in a run that brings no data to a port without any. -/
theorem silent_run {info : R56Struct} (none : NoData info) {p : List (Op × R56Struct)} (run : Run Step info p)
    (quiet : Run (fun s op _ => BringsNoData s op) info p) :
    ∀ x ∈ p, NoData x.2 ∧ x.2.history.txData = info.history.txData := by
  have both := run_and.mpr ⟨run, quiet⟩
  refine both.invariant (P := fun s => NoData s ∧ s.history.txData = info.history.txData) ?_ ⟨none, rfl⟩
  rintro s op t ⟨empty, written⟩ ⟨step, free⟩
  obtain ⟨next, same⟩ := exec_silent free step.1 empty
  exact ⟨next, same.trans written⟩

theorem xCharFirst_congr {s t s' t' : R56Struct} (before : s'.xmitQueue = s.xmitQueue)
    (after : t'.xmitQueue = t.xmitQueue) : XCharFirst s' t' ↔ XCharFirst s t := by
  have written : s'.history.txData = s.history.txData := congrArg XmitQueue.written before
  have pending : s'.xChar = s.xChar := congrArg XmitQueue.xChar before
  have grown : t'.history.txData = t.history.txData := congrArg XmitQueue.written after
  have left : t'.xChar = t.xChar := congrArg XmitQueue.xChar after
  unfold XCharFirst
  rw [written, pending, grown, left]

theorem continueAsync_xCharFirst {info : R56Struct} {fifocount : Nat} {readings : List Nat}
    (pending : info.xChar ≠ 0) (shown : info.usc.txFifo = fifocount :: readings) (room : fifocount ≠ 0) :
    XCharFirst info (continueAsync info) ↔ info.xmitCnt ≠ 0 := by
  unfold continueAsync
  by_cases some : info.xmitCnt ≠ 0
  · rw [if_pos some]
    exact uscLoadTxfifo_xCharFirst pending shown room
  · rw [if_neg some]
    exact iff_of_false (fun first => pending first.2) some

/-- The interrupt for room in the FIFO sends the character exactly when data wait as well. -/
theorem r56Interrupt_xCharFirst {info : R56Struct} {report : UscReport} {fifocount : Nat} {readings : List Nat}
    (data : (info.reporting report).uscVector = 3) (going : info.ttyStopped = false) (pending : info.xChar ≠ 0)
    (shown : report.txFifo = fifocount :: readings) (room : fifocount ≠ 0) :
    XCharFirst info (r56Interrupt (info.reporting report)) ↔ info.xmitCnt ≠ 0 := by
  have acked := @continueAsync_xCharFirst
    { info.reporting report with usc := uscClearIrqPendingBits (info.reporting report).usc transmitData }
    fifocount readings pending shown room
  have fed : (r56IsrTransmitData (info.reporting report)).xmitQueue = (continueAsync
      { info.reporting report with
        usc := uscClearIrqPendingBits (info.reporting report).usc transmitData }).xmitQueue := by
    have running : ({ info.reporting report with
        usc := uscClearIrqPendingBits (info.reporting report).usc transmitData } : R56Struct).ttyStopped = false := going
    unfold r56IsrTransmitData
    dsimp only
    rw [if_neg (by rw [running]; exact Bool.false_ne_true)]
    split
    · rfl
    · rfl
  refine Iff.trans (@xCharFirst_congr { info.reporting report with
    usc := uscClearIrqPendingBits (info.reporting report).usc transmitData } _ info _ rfl
    ((r56Interrupt_queue data).trans fed)) ?_
  exact acked

/-- `usc_load_txfifo` and the transmit data interrupt send a pending character, ahead of the data,
exactly when data wait. After `r56_send_xchar` on a port without data it is not sent in any run
that brings none. -/
theorem x_char_sent_iff (info : R56Struct) :
    (∀ (fifocount : Nat) (readings : List Nat), info.xChar ≠ 0 →
      info.usc.txFifo = fifocount :: readings → fifocount ≠ 0 →
      (XCharFirst info (uscLoadTxfifo info) ↔ info.xmitCnt ≠ 0)) ∧
    (∀ (report : UscReport) (fifocount : Nat) (readings : List Nat),
      (info.reporting report).uscVector = 3 → info.ttyStopped = false → info.xChar ≠ 0 →
      report.txFifo = fifocount :: readings → fifocount ≠ 0 →
      (XCharFirst info (r56Interrupt (info.reporting report)) ↔ info.xmitCnt ≠ 0)) ∧
    ∀ (ch : U8) (p : List (Op × R56Struct)), NoData info →
      Run Step (r56SendXchar info ch) p → Run (fun s op _ => BringsNoData s op) (r56SendXchar info ch) p →
      (r56SendXchar info ch).history.txData = info.history.txData ∧
        ∀ x ∈ p, x.2.history.txData = info.history.txData := by
  refine ⟨fun fifocount readings pending shown room => uscLoadTxfifo_xCharFirst pending shown room,
    fun report fifocount readings data going pending shown room =>
      r56Interrupt_xCharFirst data going pending shown room, fun ch p none run quiet => ?_⟩
  obtain ⟨asked, written⟩ := silent_kept.sendXchar info ch none
  exact ⟨written, fun x member => (silent_run asked run quiet x member).2.trans written⟩

/-- The port of the runs below, asynchronous since its parameters were set. -/
def quietPort : R56Struct := r56SetParams openedDevice { defaultParams with mode := r56ModeAsync }

/-- The chip reports that its transmit FIFO is empty. -/
def fifoEmpty : UscReport where
  status reg := if reg = .ivr then 0x0600 else 0
  txFifo := [32]

theorem x_char_sent_with_data :
    let pending : R56Struct := { (r56PutChar quietPort 0x41).1 with xChar := 0x13 }
    XCharFirst pending (r56Interrupt (pending.reporting fifoEmpty)) := by
  intro pending
  have some : pending.xmitCnt ≠ 0 := by decide +kernel
  have going : pending.ttyStopped = false := by decide +kernel
  have data : (pending.reporting fifoEmpty).uscVector = 3 := by decide +kernel
  exact ((x_char_sent_iff pending).2.1 fifoEmpty 32 [] data going (by decide) rfl (by decide)).mpr some

/-- Stop is to be sent on a port without data. The chip reports room, and nothing is written. -/
theorem x_char_stays :
    let asked := r56SendXchar quietPort 0x13
    let after := r56Interrupt (asked.reporting fifoEmpty)
    let loaded := uscLoadTxfifo (asked.reporting fifoEmpty)
    Run Step openedDevice [(.setParams { defaultParams with mode := r56ModeAsync }, quietPort), (.sendXchar 0x13, asked),
      (.interrupt fifoEmpty, after)] ∧
    asked.txEnabled = true ∧ asked.xmitCnt = 0 ∧ after.xChar = 0x13 ∧ after.history.txData = [] ∧
      loaded.xChar = 0x13 ∧ loaded.history.txData = [] := by
  intro asked after loaded
  refine ⟨⟨⟨rfl, by nofun⟩, ⟨rfl, by nofun⟩, ⟨rfl, by nofun⟩, trivial⟩, ?_⟩
  decide +kernel

end Route56
