import Route56.Driver
import Route56.Lib.CircularBuffer

namespace Route56

/-- The transmit data of the driver. -/
@[ext] structure Xmit where
  mode : Nat
  buf : Nat → U8
  head : Nat
  cnt : Nat
  holders : Nat
  get : Nat
  put : Nat
  holding : Nat
  buffers : Nat → TxHoldingBuffer
  loads : List (TxSource × List U8)

def R56Struct.xmit (info : R56Struct) : Xmit where
  mode := info.params.mode
  buf := info.xmitBuf
  head := info.xmitHead
  cnt := info.xmitCnt
  holders := info.numTxHoldingBuffers
  get := info.getTxHoldingIndex
  put := info.putTxHoldingIndex
  holding := info.txHoldingCount
  buffers := info.txHoldingBuffers
  loads := info.history.loads

def TxHoldingBuffer.frame (held : TxHoldingBuffer) : List U8 := Memory.read held.buffer 0 held.bufferSize

/-- The frames held back, oldest first. -/
def Xmit.held (x : Xmit) : List (List U8) :=
  (CircularBuffer.queue x.buffers x.holders x.get x.holding).map TxHoldingBuffer.frame

/-- A frame is handed to `r56_load_tx_dma_buffer`. -/
def Xmit.load (x : Xmit) (source : TxSource) (frame : List U8) : Xmit :=
  { x with loads := x.loads ++ [(source, frame)] }

/-- A character is collected. -/
def Xmit.collect (x : Xmit) (ch : U8) : Xmit :=
  { x with buf := Function.update x.buf x.head ch, head := (x.head + 1) % serialXmitSize, cnt := x.cnt + 1 }

/-- Nothing is left to send. -/
def Xmit.zeroed (x : Xmit) : Xmit := { x with cnt := 0, head := 0 }

/-- A frame is held back: it is stored, counted, and the index moves on. -/
def Xmit.hold (x : Xmit) (buffer : Nat → U8) (size : Nat) : Xmit :=
  { x with
    buffers := Function.update x.buffers x.put
      ⟨size, memcpy (x.buffers x.put).buffer buffer size⟩
    holding := x.holding + 1
    put := if x.put + 1 ≥ x.holders then 0 else x.put + 1 }

/-- The oldest frame held back is handed over. -/
def Xmit.unhold (x : Xmit) : Xmit :=
  let ptx := x.buffers x.get
  { x.load .holding ptx.frame with
    cnt := ptx.bufferSize, holding := x.holding - 1
    get := if x.get + 1 ≥ x.holders then 0 else x.get + 1 }

/-- The indices of the holding buffers agree with their number. -/
structure Xmit.Queued (x : Xmit) : Prop where
  le : x.holding ≤ x.holders
  get : 0 < x.holders → x.get < x.holders
  put : 0 < x.holders → x.put = CircularBuffer.cell x.holders x.get x.holding

theorem wrap_eq_next {n i : Nat} (h : i < n) : (if i + 1 ≥ n then 0 else i + 1) = CircularBuffer.next n i := by
  unfold CircularBuffer.next
  by_cases wrap : i + 1 = n
  · rw [if_pos (by omega), if_pos wrap]
  · rw [if_neg (by omega), if_neg wrap]

theorem frame_memcpy (target source : Nat → U8) (size : Nat) :
    (TxHoldingBuffer.mk size (memcpy target source size)).frame = Memory.read source 0 size := by
  have copied := Memory.read_blit target 0 (Memory.read source 0 size)
  rw [Memory.length_read] at copied
  exact copied

theorem Xmit.Queued.hold {x : Xmit} (inv : x.Queued) (room : x.holding < x.holders)
    (buffer : Nat → U8) (size : Nat) :
    (x.hold buffer size).Queued ∧ (x.hold buffer size).held = x.held ++ [Memory.read buffer 0 size] := by
  have some : 0 < x.holders := by omega
  have put := inv.put some
  have inside : x.put < x.holders := by
    rw [put]
    exact CircularBuffer.cell_lt some
  refine ⟨⟨room, inv.get, fun _ => ?_⟩, ?_⟩
  · have wrapped : (x.hold buffer size).put = CircularBuffer.next x.holders x.put := wrap_eq_next inside
    rw [wrapped, put, CircularBuffer.next_cell some]
    rfl
  · have pushed := CircularBuffer.queue_push (f := x.buffers) (c := x.get) room
      ⟨size, memcpy (x.buffers x.put).buffer buffer size⟩
    rw [← put] at pushed
    have mapped := congrArg (List.map TxHoldingBuffer.frame) pushed
    rw [List.map_append, List.map_singleton, frame_memcpy] at mapped
    exact mapped

theorem Xmit.Queued.unhold {x : Xmit} (inv : x.Queued) (waiting : x.holding ≠ 0) :
    x.unhold.Queued ∧ x.held = (x.buffers x.get).frame :: x.unhold.held := by
  have some : 0 < x.holders := by
    have le := inv.le
    omega
  have inside := inv.get some
  have wrapped : x.unhold.get = CircularBuffer.next x.holders x.get := wrap_eq_next inside
  have fewer : x.unhold.holding = x.holding - 1 := rfl
  have count : x.holding - 1 + 1 = x.holding := by omega
  refine ⟨⟨?_, fun _ => ?_, fun _ => ?_⟩, ?_⟩
  · have le := inv.le
    rw [fewer]
    exact (Nat.sub_le _ _).trans le
  · rw [wrapped]
    exact CircularBuffer.next_lt inside
  · have put : x.unhold.put = CircularBuffer.cell x.holders x.get x.holding := inv.put some
    rw [put, wrapped, fewer, CircularBuffer.next_eq_cell inside, ← count]
    have moved := CircularBuffer.cell_cell x.holders x.get 1 (x.holding - 1)
    rw [Nat.add_comm 1] at moved
    exact moved.symm
  · have popped := CircularBuffer.queue_pop (f := x.buffers) (x.holding - 1) inside
    rw [count, ← wrapped] at popped
    exact congrArg (List.map TxHoldingBuffer.frame) popped

theorem xmit_of_exceptReception {s t : R56Struct} (frame : t.exceptReception = s.exceptReception) :
    t.xmit = s.xmit := by
  have same := congrArg R56Struct.xmit frame
  exact same

theorem xmit_of_exceptChip {s t : R56Struct} (frame : t.exceptChip = s.exceptChip) : t.xmit = s.xmit :=
  xmit_of_exceptReception (exceptReception_of_exceptChip frame)

theorem xmit_of_exceptReceiver {s t : R56Struct} (frame : t.exceptReceiver = s.exceptReceiver) :
    t.xmit = s.xmit :=
  xmit_of_exceptReception (exceptReception_of_exceptReceiver frame)

theorem not_async_of_synchronous {info : R56Struct} (sync : info.synchronous) :
    ¬info.params.mode = r56ModeAsync := by
  rcases sync with hdlc | raw
  · rw [hdlc]
    decide
  · rw [raw]
    decide

theorem uscStopTransmitter_xmit (info : R56Struct) : (uscStopTransmitter info).xmit = info.xmit := rfl

/-- A frame is started from the DMA ring, so nothing is taken out of `xmit_buf`. -/
theorem uscStartTransmitter_xmit {info : R56Struct} (sync : info.synchronous) :
    (uscStartTransmitter info).xmit = info.xmit := by
  have kept : KeptPrepare fun s t => t.xmit = s.xmit :=
    ⟨fun _ => rfl, fun first second => second.trans first, fun _ _ => rfl, fun _ => rfl, fun _ => rfl,
      fun _ _ => rfl, fun _ => rfl, fun _ => rfl, fun _ _ => rfl⟩
  have prepared := kept.prepare info
  have dma : ¬(ignoreEcho (assertAutoRts info)).params.mode = r56ModeAsync := by
    have mode : (ignoreEcho (assertAutoRts info)).params.mode = info.params.mode := congrArg Xmit.mode prepared
    rw [mode]
    exact not_async_of_synchronous sync
  have fed : feedTransmitter (ignoreEcho (assertAutoRts info)) = startTxDma (ignoreEcho (assertAutoRts info)) :=
    if_neg dma
  refine kept.start fun _ => ?_
  rw [fed]
  rfl

theorem r56Stop_xmit (info : R56Struct) : (r56Stop info).xmit = info.xmit := by
  unfold r56Stop
  split
  · exact uscStopTransmitter_xmit info
  · rfl

theorem r56Start_xmit {info : R56Struct} (sync : info.synchronous) : (r56Start info).xmit = info.xmit := by
  unfold r56Start
  split
  · rfl
  · exact uscStartTransmitter_xmit sync

theorem startIfIdle_xmit {info : R56Struct} (sync : info.synchronous) : (startIfIdle info).xmit = info.xmit := by
  unfold startIfIdle
  split
  · split
    · rfl
    · exact uscStartTransmitter_xmit sync
  · rfl

theorem r56SendXchar_xmit {info : R56Struct} (ch : U8) (sync : info.synchronous) :
    (r56SendXchar info ch).xmit = info.xmit := by
  have started : (uscStartTransmitter { info with xChar := ch }).xmit = info.xmit :=
    @uscStartTransmitter_xmit { info with xChar := ch } sync
  unfold r56SendXchar
  dsimp only
  split
  · exact started
  · rfl

theorem signalRts_xmit (info : R56Struct) (on : Bool) : (signalRts info on).xmit = info.xmit := by
  unfold signalRts
  split
  · rfl
  · rfl

theorem r56Throttle_xmit {info : R56Struct} (sync : info.synchronous) : (r56Throttle info).xmit = info.xmit := by
  refine (signalRts_xmit _ _).trans ?_
  unfold sendStopChar
  split
  · exact r56SendXchar_xmit _ sync
  · rfl

theorem r56Unthrottle_xmit {info : R56Struct} (sync : info.synchronous) :
    (r56Unthrottle info).xmit = info.xmit := by
  refine (signalRts_xmit _ _).trans ?_
  unfold sendStartChar
  split
  · split
    · rfl
    · exact r56SendXchar_xmit _ sync
  · rfl

theorem r56Txenable_xmit {info : R56Struct} (enable : Bool) (sync : info.synchronous) :
    (r56Txenable info enable).xmit = info.xmit := by
  have started := uscStartTransmitter_xmit sync
  have inserted (s : R56Struct) : (uscLoopmodeInsertRequest s).xmit = s.xmit := rfl
  unfold r56Txenable
  dsimp only
  split
  · split
    · rfl
    split
    · exact (inserted _).trans started
    · exact started
  · split
    · exact uscStopTransmitter_xmit info
    · rfl

theorem r56Rxenable_xmit (info : R56Struct) (enable : Bool) : (r56Rxenable info enable).xmit = info.xmit := by
  unfold r56Rxenable
  split
  · split
    · rfl
    · exact xmit_of_exceptReceiver (uscStartReceiver_frame info)
  · split
    · exact xmit_of_exceptReceiver (uscStopReceiver_frame info)
    · rfl

theorem saveTxBufferRequest_xmit {info : R56Struct} (buffer : Nat → U8) (size : Nat)
    (room : info.txHoldingCount < info.numTxHoldingBuffers) :
    (saveTxBufferRequest info buffer size).xmit = info.xmit.hold buffer size := by
  unfold saveTxBufferRequest
  rw [if_neg (by omega)]
  rfl

theorem loadNextTxHoldingBuffer_xmit (info : R56Struct) :
    (loadNextTxHoldingBuffer info).1.xmit = info.xmit ∨
      info.txHoldingCount ≠ 0 ∧ (loadNextTxHoldingBuffer info).1.xmit = info.xmit.unhold := by
  unfold loadNextTxHoldingBuffer
  dsimp only
  split
  · rename_i taken
    exact .inr ⟨taken.1, rfl⟩
  · exact .inl rfl

theorem r56IsrTransmitStatus_xmit (info : R56Struct) :
    (r56IsrTransmitStatus info).xmit = info.xmit.zeroed := by
  have negated (s : R56Struct) : (negateRts s).xmit = s.xmit := by
    unfold negateRts
    split
    · rfl
    · rfl
  have dropped (s : R56Struct) : (dropAutoRts s).xmit = s.xmit := by
    unfold dropAutoRts
    split
    · exact negated _
    · rfl
  have ended := (dropped (ackTxStatus info (uscInReg info.usc .tcsr))).trans
    (show (ackTxStatus info (uscInReg info.usc .tcsr)).xmit = info.xmit.zeroed from rfl)
  unfold r56IsrTransmitStatus
  dsimp only
  split
  · exact ended
  split
  · exact (uscStopTransmitter_xmit _).trans ended
  · exact ended

/-- The CTS flow control of `r56_isr_io_pin` starts and stops frames that are loaded. -/
theorem r56IsrIoPin_xmit {info : R56Struct} (sync : info.synchronous) : (r56IsrIoPin info).xmit = info.xmit := by
  have counted (s : R56Struct) (status : U16) := xmit_of_exceptChip (countIoPins_frame s status)
  have done (s : R56Struct) (status : U16) := xmit_of_exceptChip (ioPinDone_frame s status)
  have flow {s : R56Struct} (status : U16) (sync : s.synchronous) : (ctsFlowControl s status).xmit = s.xmit := by
    have started := @uscStartTransmitter_xmit { s with tty := { s.tty with hwStopped := false } } sync
    have stopped := uscStopTransmitter_xmit { s with tty := { s.tty with hwStopped := true } }
    unfold ctsFlowControl
    dsimp only
    split
    · split
      · exact started
      · exact done s status
    · split
      · exact (done _ status).trans stopped
      · exact done s status
  have served {s : R56Struct} (status : U16) (sync : s.synchronous) : (serviceIoPins s status).xmit = s.xmit := by
    have still : (countIoPins s status).synchronous := by
      have mode : (countIoPins s status).params.mode = s.params.mode := congrArg Xmit.mode (counted s status)
      rw [R56Struct.synchronous, mode]
      exact sync
    unfold serviceIoPins
    dsimp only
    split
    · exact (flow status still).trans (counted s status)
    · exact (done _ status).trans (counted s status)
  unfold r56IsrIoPin
  dsimp only
  split
  · exact served _ sync
  · exact done _ _

theorem r56TxTimeout_xmit (info : R56Struct) : (r56TxTimeout info).xmit = info.xmit.zeroed :=
  xmit_of_exceptChip (r56TxTimeout_frame info)

theorem r56IsrTransmitDma_xmit (info : R56Struct) :
    (r56IsrTransmitDma info).xmit = info.xmit ∨
      info.txHoldingCount ≠ 0 ∧ (r56IsrTransmitDma info).xmit = info.xmit.unhold := by
  have done (s : R56Struct) : (txBufferDone s).xmit = s.xmit ∨
      s.txHoldingCount ≠ 0 ∧ (txBufferDone s).xmit = s.xmit.unhold := by
    have loaded := loadNextTxHoldingBuffer_xmit { s with txDmaBuffersUsed := s.txDmaBuffersUsed - 1 }
    unfold txBufferDone
    dsimp only
    split
    · exact loaded
    · exact loaded
  unfold r56IsrTransmitDma
  dsimp only
  split
  · exact done _
  · exact .inl rfl

/-- The station is in the loop, or does not work in loop mode. -/
def R56Struct.inLoop (info : R56Struct) : Prop :=
  info.params.flags &&& hdlcFlagHdlcLoopmode ≠ 0 → uscLoopmodeActive info = true

/-- `xmit_cnt` bytes of `xmit_buf` are loaded as a frame. -/
def loadsXmitBuf (info : R56Struct) : Op → Prop
  | .write _ _ => info.xmitBufPtr = true ∧ info.txActive = false ∧ info.inLoop ∧ info.xmitCnt ≠ 0
  | .flushChars =>
    info.xmitBufPtr = true ∧ info.txActive = false ∧ info.ttyStopped = false ∧ info.xmitCnt ≠ 0
  | _ => False

/-- What is to be sent is given up or has been sent. -/
def zeroesXmit (info : R56Struct) : Op → Bool
  | .flushBuffer | .txTimeout => true
  | .interrupt report => (info.reporting report).uscVector = 4
  | _ => false

/-- The transmit data after an operation that does not load `xmit_buf`. -/
inductive XmitChange (info : R56Struct) : Op → Xmit → Prop
  | none {op : Op} (kept : zeroesXmit info op = false)
      (refused : ∀ ch, op = .putChar ch → (r56PutChar info ch).2 = false) : XmitChange info op info.xmit
  | collect {ch : U8} (took : (r56PutChar info ch).2 = true) (room : info.xmitCnt < serialXmitSize - 1) :
      XmitChange info (.putChar ch) (info.xmit.collect ch)
  | accept {buf : Nat → U8} {count : Nat} (took : (r56Write info buf count).2 = count) :
      XmitChange info (.write buf count) ({ info.xmit with cnt := count }.load .write (Memory.read buf 0 count))
  | hold {buf : Nat → U8} {count : Nat} (took : (r56Write info buf count).2 = count)
      (room : info.txHoldingCount < info.numTxHoldingBuffers) :
      XmitChange info (.write buf count) (info.xmit.hold buf count)
  | holdUnhold {buf : Nat → U8} {count : Nat} (took : (r56Write info buf count).2 = count)
      (room : info.txHoldingCount < info.numTxHoldingBuffers) :
      XmitChange info (.write buf count) (info.xmit.hold buf count).unhold
  | unhold {report : UscReport} (kept : zeroesXmit info (.interrupt report) = false)
      (waiting : info.txHoldingCount ≠ 0) : XmitChange info (.interrupt report) info.xmit.unhold
  | zero {op : Op} (zeroes : zeroesXmit info op = true) : XmitChange info op info.xmit.zeroed

/-- The whole effect of an operation on the transmit data. -/
def XmitAfter (info : R56Struct) (op : Op) (x : Xmit) : Prop :=
  loadsXmitBuf info op ∧ x = info.xmit.load .xmitBuf (Memory.read info.xmitBuf 0 info.xmitCnt) ∨
    ¬loadsXmitBuf info op ∧ XmitChange info op x

theorem r56PutChar_xmit (info : R56Struct) (ch : U8) : XmitAfter info (.putChar ch) (r56PutChar info ch).1.xmit := by
  refine .inr ⟨id, ?_⟩
  by_cases room : info.xmitBufPtr ∧ (info.params.mode = r56ModeAsync ∨ info.txActive = false) ∧
      info.xmitCnt < serialXmitSize - 1
  · have put : r56PutChar info ch = ({ info with
        xmitBuf := Function.update info.xmitBuf info.xmitHead ch
        xmitHead := (info.xmitHead + 1) % serialXmitSize
        xmitCnt := info.xmitCnt + 1 }, true) := if_pos room
    have took : (r56PutChar info ch).2 = true := by rw [put]
    have same : (r56PutChar info ch).1.xmit = info.xmit.collect ch := by
      rw [put]
      rfl
    rw [same]
    exact .collect took room.2.2
  · have refused : r56PutChar info ch = (info, false) := if_neg room
    rw [refused]
    refine .none rfl fun other same => ?_
    cases same
    rw [refused]

theorem r56FlushChars_xmit {info : R56Struct} (sync : info.synchronous) :
    XmitAfter info .flushChars (r56FlushChars info).xmit := by
  have none (quiet : ¬loadsXmitBuf info .flushChars) : XmitAfter info .flushChars info.xmit :=
    .inr ⟨quiet, .none rfl nofun⟩
  unfold r56FlushChars
  split
  · rename_i refused
    refine none fun loads => ?_
    rcases refused with empty | stopped | ptr
    · exact loads.2.2.2 empty
    · exact absurd stopped (by rw [loads.2.2.1]; decide)
    · exact ptr loads.1
  · rename_i accepted
    rw [not_or, not_or, not_not] at accepted
    obtain ⟨queued, stopped, ptr⟩ := accepted
    split
    · rename_i active
      exact none fun loads => absurd active (by rw [loads.2.1]; decide)
    · rename_i active
      have loads : loadsXmitBuf info .flushChars :=
        ⟨ptr, Bool.eq_false_iff.mpr active, Bool.eq_false_iff.mpr stopped, queued⟩
      have loaded := @uscStartTransmitter_xmit (loadXmitBuf info) sync
      exact .inl ⟨loads, loaded⟩

theorem r56Write_xmit {info : R56Struct} (buf : Nat → U8) (count : Nat) (sync : info.synchronous) :
    XmitAfter info (.write buf count) (r56Write info buf count).1.xmit := by
  have none (quiet : ¬loadsXmitBuf info (.write buf count)) : XmitAfter info (.write buf count) info.xmit :=
    .inr ⟨quiet, .none rfl nofun⟩
  by_cases ptr : info.xmitBufPtr = true
  · by_cases active : info.txActive = true
    · have quiet : ¬loadsXmitBuf info (.write buf count) :=
        fun loads => absurd active (by rw [loads.2.1]; decide)
      by_cases hdlc : info.params.mode = r56ModeHdlc
      · have refused : r56Write info buf count = (info, 0) := by
          unfold r56Write
          rw [if_neg (not_not.mpr ptr), if_pos sync, if_pos active, if_pos hdlc]
        rw [refused]
        exact none quiet
      by_cases full : info.txHoldingCount ≥ info.numTxHoldingBuffers
      · have refused : r56Write info buf count = (info, 0) := by
          unfold r56Write
          rw [if_neg (not_not.mpr ptr), if_pos sync, if_pos active, if_neg hdlc, if_pos full]
        rw [refused]
        exact none quiet
      have held : r56Write info buf count =
          ((loadNextTxHoldingBuffer (saveTxBufferRequest info buf count)).1, count) := by
        unfold r56Write
        rw [if_neg (not_not.mpr ptr), if_pos sync, if_pos active, if_neg hdlc, if_neg full]
      have took : (r56Write info buf count).2 = count := by rw [held]
      have room : info.txHoldingCount < info.numTxHoldingBuffers := Nat.lt_of_not_le full
      have saved := saveTxBufferRequest_xmit buf count room
      refine .inr ⟨quiet, ?_⟩
      rw [held]
      rcases loadNextTxHoldingBuffer_xmit (saveTxBufferRequest info buf count) with kept | ⟨-, loaded⟩
      · rw [kept, saved]
        exact .hold took room
      · rw [loaded, saved]
        exact .holdUnhold took room
    · by_cases out : info.params.flags &&& hdlcFlagHdlcLoopmode ≠ 0 ∧ ¬uscLoopmodeActive info = true
      · have refused : r56Write info buf count = (info, 0) := by
          unfold r56Write
          rw [if_neg (not_not.mpr ptr), if_pos sync, if_neg active, if_pos out]
        rw [refused]
        exact none fun loads => out.2 (loads.2.2.1 out.1)
      have inLoop : info.inLoop := fun mode => not_not.mp fun outside => out ⟨mode, outside⟩
      by_cases queued : info.xmitCnt ≠ 0
      · have flushed : r56Write info buf count = (startIfIdle (loadXmitBuf info), 0) := by
          unfold r56Write
          rw [if_neg (not_not.mpr ptr), if_pos sync, if_neg active, if_neg out, if_pos queued]
        have loads : loadsXmitBuf info (.write buf count) := ⟨ptr, Bool.eq_false_iff.mpr active, inLoop, queued⟩
        rw [flushed]
        exact .inl ⟨loads, @startIfIdle_xmit (loadXmitBuf info) sync⟩
      · have accepted : r56Write info buf count =
            (startIfIdle (r56LoadTxDmaBuffer { info with xmitCnt := count } .write buf count), count) := by
          unfold r56Write
          rw [if_neg (not_not.mpr ptr), if_pos sync, if_neg active, if_neg out, if_neg queued]
        have took : (r56Write info buf count).2 = count := by rw [accepted]
        have quiet : ¬loadsXmitBuf info (.write buf count) := fun loads => queued loads.2.2.2
        have started := @startIfIdle_xmit (r56LoadTxDmaBuffer { info with xmitCnt := count } .write buf count) sync
        refine .inr ⟨quiet, ?_⟩
        rw [accepted, started]
        exact .accept took
  · have refused : r56Write info buf count = (info, 0) := by
      unfold r56Write
      rw [if_pos ptr]
    rw [refused]
    exact none fun loads => ptr loads.1

/-- Interrupts other than transmit data, which frame oriented modes do not enable. -/
theorem r56Interrupt_xmit {info : R56Struct} (report : UscReport) (sync : info.synchronous)
    (dma : (info.reporting report).uscVector ≠ 3) :
    XmitAfter info (.interrupt report) (r56Interrupt (info.reporting report)).xmit := by
  have scheduled : (r56Interrupt (info.reporting report)).xmit = (serviceInterrupt (info.reporting report)).xmit :=
    (xmit_of_exceptReception (scheduleBh_frame _)).trans (xmit_of_exceptChip (haltOnOverflow_frame _))
  have served := serviceInterrupt_serviced (info.reporting report)
  have kept (other : (info.reporting report).uscVector ≠ 4) : zeroesXmit info (.interrupt report) = false :=
    decide_eq_false other
  have none (other : (info.reporting report).uscVector ≠ 4) : XmitChange info (.interrupt report) info.xmit :=
    .none (kept other) nofun
  refine .inr ⟨id, ?_⟩
  rw [scheduled]
  generalize serviceInterrupt (info.reporting report) = after at served ⊢
  cases served with
  | transmitDma vector _ =>
    rcases r56IsrTransmitDma_xmit (info.reporting report) with same | ⟨waiting, loaded⟩
    · rw [same]
      exact none (by omega)
    · rw [loaded]
      exact .unhold (kept (by omega)) waiting
  | receiveDma vector _ =>
    rw [xmit_of_exceptReception (r56IsrReceiveDma_frame _)]
    exact none (by omega)
  | misc vector =>
    rw [xmit_of_exceptReception (r56IsrMisc_frame _)]
    exact none (by omega)
  | ioPin vector =>
    have pins : (r56IsrIoPin (info.reporting report)).xmit = info.xmit := r56IsrIoPin_xmit sync
    rw [pins]
    exact none (by omega)
  | transmitData vector => exact absurd vector dma
  | transmitStatus vector =>
    rw [r56IsrTransmitStatus_xmit]
    exact .zero (decide_eq_true vector)
  | receiveData vector =>
    rw [xmit_of_exceptChip (r56IsrReceiveData_frame _)]
    exact none (by omega)
  | receiveStatus vector =>
    rw [xmit_of_exceptReception (r56IsrReceiveStatus_frame _)]
    exact none (by omega)
  | null vector => exact none (by omega)

/-- Operations that reprogram the chip, and the interrupt for more transmit data. -/
def setsXmit (info : R56Struct) : Op → Prop
  | .setParams _ | .setTermios .. => True
  | .interrupt report => (info.reporting report).uscVector = 3
  | _ => False

/-- In frame oriented mode every other operation changes the transmit data in one of the ways above. -/
theorem exec_xmit {info after : R56Struct} {op : Op} (sync : info.synchronous) (free : ¬setsXmit info op)
    (ran : exec info op = some after) : XmitAfter info op after.xmit := by
  have none (op : Op) (quiet : ¬loadsXmitBuf info op) (kept : zeroesXmit info op = false)
      (refused : ∀ ch, op ≠ .putChar ch) (same : after.xmit = info.xmit) : XmitAfter info op after.xmit := by
    rw [same]
    exact .inr ⟨quiet, .none kept fun ch put => absurd put (refused ch)⟩
  cases op with
  | write buf count => cases ran; exact r56Write_xmit buf count sync
  | putChar ch => cases ran; exact r56PutChar_xmit info ch
  | flushChars => cases ran; exact r56FlushChars_xmit sync
  | flushBuffer => cases ran; exact .inr ⟨id, .zero rfl⟩
  | stop => cases ran; exact none _ id rfl nofun (r56Stop_xmit info)
  | start => cases ran; exact none _ id rfl nofun (r56Start_xmit sync)
  | sendXchar ch => cases ran; exact none _ id rfl nofun (r56SendXchar_xmit ch sync)
  | throttle => cases ran; exact none _ id rfl nofun (r56Throttle_xmit sync)
  | unthrottle => cases ran; exact none _ id rfl nofun (r56Unthrottle_xmit sync)
  | txenable enable => cases ran; exact none _ id rfl nofun (r56Txenable_xmit enable sync)
  | rxenable enable => cases ran; exact none _ id rfl nofun (r56Rxenable_xmit info enable)
  | txabort => cases ran; exact none _ id rfl nofun (xmit_of_exceptChip (r56Txabort_frame info))
  | loopmodeSendDone =>
    cases ran
    exact none _ id rfl nofun (xmit_of_exceptChip (r56LoopmodeSendDone_frame info))
  | setParams newParams => exact absurd trivial free
  | setTermios cCflag cIflag baudRate => exact absurd trivial free
  | setTxidle idleMode => cases ran; exact none _ id rfl nofun rfl
  | tiocmset set clear => cases ran; exact none _ id rfl nofun rfl
  | dtrRts on => cases ran; exact none _ id rfl nofun rfl
  | setBreak on => cases ran; exact none _ id rfl nofun rfl
  | interrupt report => cases ran; exact r56Interrupt_xmit report sync free
  | bhReceive => exact none _ id rfl nofun (xmit_of_exceptReceiver (r56BhReceive_frame ran))
  | bhTransmit => cases ran; exact none _ id rfl nofun (xmit_of_exceptChip (r56BhTransmit_frame info))
  | bhStatus => cases ran; exact none _ id rfl nofun rfl
  | txTimeout =>
    cases ran
    have same := r56TxTimeout_xmit info
    refine .inr ⟨id, ?_⟩
    rw [same]
    exact .zero rfl
  | flow stopped hwStopped => cases ran; exact none _ id rfl nofun rfl
  | reception list rxDma => cases ran; exact none _ id rfl nofun rfl

end Route56
