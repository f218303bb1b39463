import Route56.Lifecycle
import Route56.TransmitRing
import Route56.AsyncTransmit

namespace Route56

open Transition

/-- `startup`, when nothing fails. -/
def startup (info : R56Struct) (physEntry : Nat → U32) : R56Struct :=
  startupEnd (r56AllocIntermediateRxbufferMemory
    (r56AllocBufferListMemory (countDmaBuffers (requestIrq (startupBegin info))) physEntry))

/-- What `r56_open` leaves when it is the first. -/
def r56Open (info : R56Struct) (physEntry : Nat → U32) : R56Struct :=
  startup { info with port := { info.port with tty := true, count := 1 } } physEntry

/-- The send buffer exists and the indices of the transmit side are in range. -/
structure TxSound (info : R56Struct) : Prop where
  buffer : info.xmitBufPtr = true
  head : info.xmitHead < serialXmitSize
  current : info.currentTxBuffer < info.txBufferCount

theorem TxSound.of_eq {s t : R56Struct} (sound : TxSound s) (setup : t.setup = s.setup) (head : t.xmitHead = s.xmitHead)
    (current : t.currentTxBuffer = s.currentTxBuffer) : TxSound t := by
  have buffer := congrArg (·.xmitBufPtr) setup
  have count : t.txBufferCount = s.txBufferCount := congrArg (·.txBufferCount) setup
  refine ⟨buffer.trans sound.buffer, head ▸ sound.head, ?_⟩
  rw [current, count]
  exact sound.current

theorem TxSound.of_exceptReception {s t : R56Struct} (sound : TxSound s)
    (frame : t.exceptReception = s.exceptReception) : TxSound t :=
  sound.of_eq (setup_of_exceptReception frame) (congrArg (·.xmitHead) frame) (congrArg (·.currentTxBuffer) frame)

theorem TxSound.load {info : R56Struct} (sound : TxSound info) (source : TxSource) (buffer : Nat → U8) (size : Nat) :
    TxSound (r56LoadTxDmaBuffer info source buffer size) :=
  ⟨sound.buffer, sound.head, r56LoadTxDmaBuffer_current source buffer size sound.current⟩

/-- Nothing but a reprogrammed chip and a flushed buffer move the indices otherwise than in range. -/
theorem txSound_kept : Kept fun s t => TxSound s → TxSound t where
  refl _ := id
  trans first second := second ∘ first
  reception frame sound := sound.of_exceptReception frame
  signals _ _ sound := ⟨sound.buffer, sound.head, sound.current⟩
  flow _ _ _ sound := ⟨sound.buffer, sound.head, sound.current⟩
  xchar _ _ sound := ⟨sound.buffer, sound.head, sound.current⟩
  start s sound := by
    have frame := uscStartTransmitter_frame s
    exact sound.of_eq (setup_of_exceptTransmitter frame) (congrArg (·.xmitHead) frame)
      (congrArg (·.currentTxBuffer) frame)
  stop _ sound := ⟨sound.buffer, sound.head, sound.current⟩
  collect _ _ _ _ sound := ⟨sound.buffer, Nat.mod_lt _ (by decide), sound.current⟩
  chunk _ _ _ _ _ _ _ sound := ⟨sound.buffer, Nat.mod_lt _ (by decide), sound.current⟩
  loadXmitBuf _ _ _ _ sound := sound.load _ _ _
  loadWrite s buf count _ _ _ sound := by
    have counted : TxSound { s with xmitCnt := count } := ⟨sound.buffer, sound.head, sound.current⟩
    exact counted.load .write buf count
  hold s buf count _ _ _ room sound := by
    unfold saveTxBufferRequest
    rw [if_neg (Nat.not_le_of_lt room)]
    exact ⟨sound.buffer, sound.head, sound.current⟩
  unhold s sound := by
    unfold loadNextTxHoldingBuffer
    dsimp only
    split
    · have counted : TxSound { s with xmitCnt := (s.txHoldingBuffers s.getTxHoldingIndex).bufferSize } :=
        ⟨sound.buffer, sound.head, sound.current⟩
      have loaded := counted.load .holding (s.txHoldingBuffers s.getTxHoldingIndex).buffer
        (s.txHoldingBuffers s.getTxHoldingIndex).bufferSize
      exact ⟨loaded.buffer, loaded.head, loaded.current⟩
    · exact sound
  emptied _ sound := ⟨sound.buffer, sound.head, sound.current⟩
  ended _ sound := ⟨sound.buffer, by show 0 < serialXmitSize; decide, sound.current⟩
  dropped _ sound := ⟨sound.buffer, sound.head, sound.current⟩
  continued s sound := by
    have frame := continueAsync_frame s
    exact sound.of_eq (setup_of_exceptTransmitter frame) (congrArg (·.xmitHead) frame)
      (congrArg (·.currentTxBuffer) frame)

theorem r56ProgramHw_sound {info : R56Struct} (buffer : info.xmitBufPtr = true)
    (current : info.currentTxBuffer < info.txBufferCount) : TxSound (r56ProgramHw info) := by
  have same {s t : R56Struct} (frame : t.exceptSettings = s.exceptSettings) :
      t.currentTxBuffer = s.currentTxBuffer := congrArg (·.currentTxBuffer) frame
  have started (s : R56Struct) : (uscStartReceiver s).currentTxBuffer = s.currentTxBuffer :=
    congrArg (·.currentTxBuffer) (uscStartReceiver_frame s)
  have programmed (s : R56Struct) : (programMode s).currentTxBuffer = s.currentTxBuffer := by
    unfold programMode
    split
    · exact same (uscSetSyncMode_frame s)
    · exact same (uscSetAsyncMode_frame s)
  have signals (s : R56Struct) : (programSignals s).currentTxBuffer = s.currentTxBuffer := rfl
  have index : (r56ProgramHw info).currentTxBuffer = info.currentTxBuffer := by
    have prepared := (signals _).trans (programmed { uscStopTransmitter (uscStopReceiver info) with
      xmitCnt := 0, xmitHead := 0, xmitTail := 0 })
    unfold r56ProgramHw
    dsimp only
    split
    · exact (started _).trans prepared
    · exact prepared
  have setup := r56ProgramHw_setup info
  have count : (r56ProgramHw info).txBufferCount = info.txBufferCount := congrArg (·.txBufferCount) setup
  have head : (r56ProgramHw info).xmitHead = 0 := congrArg XmitQueue.head (r56ProgramHw_queue info)
  refine ⟨(congrArg (·.xmitBufPtr) setup).trans buffer, ?_, ?_⟩
  · rw [head]
    decide
  · rw [index, count]
    exact current

theorem r56ChangeParams_sound {info : R56Struct} (tty : info.port.tty = true) (buffer : info.xmitBufPtr = true)
    (current : info.currentTxBuffer < info.txBufferCount) : TxSound (r56ChangeParams info) := by
  unfold r56ChangeParams
  rw [if_neg (not_not.mpr tty)]
  exact r56ProgramHw_sound buffer current

theorem TxSound.changeParams {info : R56Struct} (sound : TxSound info) : TxSound (r56ChangeParams info) := by
  by_cases tty : info.port.tty = true
  · exact r56ChangeParams_sound tty sound.buffer sound.current
  · unfold r56ChangeParams
    rw [if_pos tty]
    exact sound

/-- Every operation keeps the indices in range. -/
theorem TxSound.exec {info after : R56Struct} (sound : TxSound info) {op : Op} (ran : exec info op = some after) :
    TxSound after := by
  by_cases free : op.programs
  · cases op with
    | setParams newParams =>
      cases ran
      have given : TxSound { info with params := newParams } := ⟨sound.buffer, sound.head, sound.current⟩
      exact given.changeParams
    | setTermios cCflag cIflag baudRate =>
      cases ran
      have given : TxSound { info with
          tty := { info.tty with cCflag := cCflag, cIflag := cIflag, baudRate := baudRate } } :=
        ⟨sound.buffer, sound.head, sound.current⟩
      exact txSound_kept.termios _ info.tty.cCflag given.changeParams
    | _ => exact absurd free id
  · by_cases flush : op = .flushBuffer
    · subst flush
      cases ran
      exact ⟨sound.buffer, by show 0 < serialXmitSize; decide, sound.current⟩
    · exact txSound_kept.exec free flush ran sound

/-- The rings are sized for at least one frame. -/
theorem r56Open_sound {info : R56Struct} (physEntry : Nat → U32) (frames : 1 ≤ info.numTxDmaBuffers)
    (frame : 4096 ≤ info.maxFrameSize) : TxSound (r56Open info physEntry) := by
  have pages : 1 ≤ info.maxFrameSize / dmaBufferSize := Nat.div_pos frame (by decide)
  have count : 0 < info.numTxDmaBuffers *
      (info.maxFrameSize / dmaBufferSize + if info.maxFrameSize % dmaBufferSize ≠ 0 then 1 else 0) :=
    Nat.mul_pos frames (by omega)
  have changed := @r56ChangeParams_sound (r56AllocIntermediateRxbufferMemory
    (r56AllocBufferListMemory (countDmaBuffers (requestIrq (startupBegin
      { info with port := { info.port with tty := true, count := 1 } }))) physEntry)) rfl rfl count
  exact ⟨changed.buffer, changed.head, changed.current⟩

theorem SameRing.refl (s : R56Struct) : SameRing s s := .of_list rfl rfl rfl

theorem uscStartTransmitter_ring {info : R56Struct} (sync : info.synchronous) :
    SameRing info (uscStartTransmitter info) := by
  have kept : KeptPrepare SameRing :=
    ⟨.refl, .trans, fun _ _ => .of_list rfl rfl rfl, fun _ => .of_list rfl rfl rfl, fun _ => .of_list rfl rfl rfl,
      fun _ _ => .of_list rfl rfl rfl, fun _ => .of_list rfl rfl rfl, fun _ => .of_list rfl rfl rfl,
      fun _ _ => .of_list rfl rfl rfl⟩
  -- in RAW mode the start clears the residual count of the first entry
  have started (s : R56Struct) : SameRing s (startTxDma s) := by
    have list : (startTxDma s).txBufferList = if s.params.mode = r56ModeRaw then
        Function.update s.txBufferList s.startTxDmaBuffer { s.txBufferList s.startTxDmaBuffer with rcc := 0 }
        else s.txBufferList := rfl
    have entry (i : Nat) : ∃ rcc, (startTxDma s).txBufferList i = { s.txBufferList i with rcc := rcc } := by
      rw [list]
      split
      · by_cases same : i = s.startTxDmaBuffer
        · subst same
          exact ⟨0, Function.update_self _ _ _⟩
        · exact ⟨_, Function.update_of_ne same _ _⟩
      · exact ⟨_, rfl⟩
    refine ⟨fun i => ?_, fun i => ?_, rfl, rfl⟩
    · obtain ⟨rcc, same⟩ := entry i
      rw [same]
    · obtain ⟨rcc, same⟩ := entry i
      rw [same]
  have mode : ¬(ignoreEcho (assertAutoRts info)).params.mode = r56ModeAsync := by
    have same : (ignoreEcho (assertAutoRts info)).params.mode = info.params.mode :=
      congrArg (·.params.mode) (prepareXmit_frame info)
    rw [same]
    exact not_async_of_synchronous sync
  refine kept.start fun _ => ?_
  unfold feedTransmitter
  rw [if_neg mode]
  exact started _

theorem startIfIdle_ring {info : R56Struct} (sync : info.synchronous) : SameRing info (startIfIdle info) := by
  unfold startIfIdle
  split
  · split
    · exact .refl info
    · exact uscStartTransmitter_ring sync
  · exact .refl info

/-- Where a frame accepted by `r56_write` is to be found: in the ring, from the entry the next
transmission starts at, or held back in a buffer of `max_frame_size` bytes. -/
def FrameStored (before after : R56Struct) (buf : Nat → U8) (count : Nat) : Prop :=
  txBuffersNeeded count ≤ before.txBufferCount ∧ after.txFrame count = Memory.read buf 0 count ∨
    count ≤ before.maxFrameSize ∧ after.txHoldingCount = before.txHoldingCount + 1 ∧
      after.xmit.held.getLast? = some (Memory.read buf 0 count)

/-- What `r56_write_room` advertises is accepted, and as a frame it is stored intact. -/
def RoomKept (info : R56Struct) : Prop :=
  ∀ (buf : Nat → U8) (count : Nat), 1 ≤ count → count ≤ r56WriteRoom info →
    (r56Write info buf count).2 = count ∧
      (info.synchronous → FrameStored info (r56Write info buf count).1 buf count)

/-- A frame of the advertised size can be sent: the station is in its loop, no characters are
collected, and the ring holds the largest frame. -/
def FrameFits (info : R56Struct) : Prop :=
  (info.params.flags &&& hdlcFlagHdlcLoopmode ≠ 0 → uscLoopmodeActive info = true) ∧ info.xmitCnt = 0 ∧
    hdlcMaxFrameSize ≤ info.txBufferCount * dmaBufferSize

theorem r56Write_async {info : R56Struct} (sound : TxSound info) (chars : ¬info.synchronous) (buf : Nat → U8)
    (count : Nat) : (r56Write info buf count).2 = min count (serialXmitSize - 1 - info.xmitCnt) := by
  unfold r56Write
  rw [if_neg (not_not.mpr sound.buffer), if_neg chars]
  exact writeAsync_returned sound.head buf (Nat.lt_succ_self count)

/-- What a write to an idle port does in the frame oriented modes. -/
theorem r56Write_inactive {info : R56Struct} (buffer : info.xmitBufPtr = true) (sync : info.synchronous)
    (idle : info.txActive = false) (buf : Nat → U8) (count : Nat) :
    r56Write info buf count =
      if info.params.flags &&& hdlcFlagHdlcLoopmode ≠ 0 ∧ ¬uscLoopmodeActive info then (info, 0)
      else if info.xmitCnt ≠ 0 then (startIfIdle (loadXmitBuf info), 0)
      else (startIfIdle (r56LoadTxDmaBuffer { info with xmitCnt := count } .write buf count), count) := by
  unfold r56Write
  rw [if_neg (not_not.mpr buffer), if_pos sync, if_neg (Bool.eq_false_iff.mp idle)]

/-- The promise is kept exactly where a frame fits, should the room be that of a frame. -/
theorem roomKept_iff {info : R56Struct} (sound : TxSound info) :
    RoomKept info ↔ (info.synchronous → info.txActive = false → FrameFits info) := by
  have size : dmaBufferSize = 4096 := rfl
  have largest : hdlcMaxFrameSize = 65535 := rfl
  constructor
  · intro kept sync idle
    have room : r56WriteRoom info = hdlcMaxFrameSize := by
      unfold r56WriteRoom
      rw [if_pos sync, if_neg (Bool.eq_false_iff.mp idle)]
    obtain ⟨returned, stored⟩ := kept (fun _ => 0) hdlcMaxFrameSize (by decide) room.ge
    have stored := stored sync
    have refused : ¬0 = hdlcMaxFrameSize := by decide
    rw [r56Write_inactive sound.buffer sync idle] at returned stored
    split at returned
    · exact absurd returned refused
    rename_i inserted
    rw [if_neg inserted] at stored
    split at returned
    · exact absurd returned refused
    rename_i empty
    rw [if_neg empty] at stored
    refine ⟨fun looped => by_contra fun out => inserted ⟨looped, out⟩, not_not.mp empty, ?_⟩
    rcases stored with ⟨fits, _⟩ | ⟨_, held, _⟩
    · exact (txBuffersNeeded_le_iff _ _).mp fits
    · have loaded := @startIfIdle_xmit
        (r56LoadTxDmaBuffer { info with xmitCnt := hdlcMaxFrameSize } .write (fun _ => 0) hdlcMaxFrameSize) sync
      have same := (congrArg Xmit.holding loaded).symm.trans held
      exact absurd same (Nat.succ_ne_self _).symm
  · intro fits buf count some room
    by_cases sync : info.synchronous
    · have idle : info.txActive = false := by
        by_contra active
        unfold r56WriteRoom at room
        rw [if_pos sync, if_pos (Bool.of_not_eq_false active)] at room
        omega
      obtain ⟨inserted, empty, ring⟩ := fits sync idle
      have bound : count ≤ hdlcMaxFrameSize := by
        unfold r56WriteRoom at room
        rw [if_pos sync, if_neg (Bool.eq_false_iff.mp idle)] at room
        exact room
      have loopmode : ¬(info.params.flags &&& hdlcFlagHdlcLoopmode ≠ 0 ∧ ¬uscLoopmodeActive info) :=
        fun out => out.2 (inserted out.1)
      rw [r56Write_inactive sound.buffer sync idle, if_neg loopmode, if_neg (not_not.mpr empty)]
      refine ⟨rfl, fun _ => .inl ⟨(txBuffersNeeded_le_iff _ _).mpr (bound.trans ring), ?_⟩⟩
      have started := @startIfIdle_ring (r56LoadTxDmaBuffer { info with xmitCnt := count } .write buf count) sync
      have loaded := @r56LoadTxDmaBuffer_frame { info with xmitCnt := count } .write buf count sound.current
        (bound.trans ring)
      exact (started.txFrame count).trans loaded
    · have bound : count ≤ serialXmitSize - info.xmitCnt - 1 := by
        unfold r56WriteRoom at room
        rw [if_neg sync] at room
        exact room
      refine ⟨?_, fun frames => absurd frames sync⟩
      rw [r56Write_async sound sync]
      omega

/-- In every state of a run of an open port the room advertised is accepted and fits exactly where
a port in a frame oriented mode that is not sending has room for the largest frame. -/
theorem write_room_kept_iff {info : R56Struct} {physEntry : Nat → U32} (frames : 1 ≤ info.numTxDmaBuffers)
    (frame : 4096 ≤ info.maxFrameSize) {p : List (Op × R56Struct)} (run : Run Step (r56Open info physEntry) p) :
    (RoomKept (r56Open info physEntry) ↔
      ((r56Open info physEntry).synchronous → (r56Open info physEntry).txActive = false →
        FrameFits (r56Open info physEntry))) ∧
    ∀ x ∈ p, RoomKept x.2 ↔ (x.2.synchronous → x.2.txActive = false → FrameFits x.2) := by
  have init := r56Open_sound physEntry frames frame
  have preserved : ∀ s e t, TxSound s → Step s e t → TxSound t := fun _ _ _ sound step => sound.exec step.1
  exact ⟨roomKept_iff init, fun x member => roomKept_iff (run.invariant preserved init x member)⟩

/-- A port for the largest frames, opened, then written to, and the frame sent. -/
theorem write_room_kept_iff_sent :
    let start := r56Open { r56AllocateDevice with maxFrameSize := 65535 } fun _ => 0
    let sending := (r56Write start (fun _ => 0x55) 1).1
    let idle := r56Interrupt (sending.reporting frameSent)
    RoomKept start ∧ RoomKept sending ∧ RoomKept idle := by
  intro start sending idle
  have steps : Run Step start [(.write (fun _ => 0x55) 1, sending), (.interrupt frameSent, idle)] :=
    ⟨⟨rfl, nofun⟩, ⟨rfl, nofun⟩, trivial⟩
  have kept := @write_room_kept_iff { r56AllocateDevice with maxFrameSize := 65535 } (fun _ => 0) (by decide) (by decide)
    _ steps
  have active : sending.txActive = true := by decide
  refine ⟨kept.1.mpr fun _ _ => ⟨?_, ?_, ?_⟩, (kept.2 _ List.mem_cons_self).mpr fun _ free => ?_,
    (kept.2 _ (.tail _ List.mem_cons_self)).mpr fun _ _ => ⟨?_, ?_, ?_⟩⟩
  · decide
  · decide
  · decide
  · exact absurd (active.symm.trans free) (by decide)
  · decide
  · decide
  · decide

/-- With the default sizes the ring holds 4096 bytes, and 65535 are advertised. -/
theorem room_exceeds_ring : ¬RoomKept (r56Open r56AllocateDevice fun _ => 0) := by
  have sound := @r56Open_sound r56AllocateDevice (fun _ => 0) (by decide) (by decide)
  have sync : (r56Open r56AllocateDevice fun _ => 0).synchronous := .inl rfl
  have ring : (r56Open r56AllocateDevice fun _ => 0).txBufferCount = 1 := by rfl
  rw [roomKept_iff sound]
  intro fits
  have largest := (fits sync rfl).2.2
  rw [ring] at largest
  exact absurd largest (by decide)

end Route56
