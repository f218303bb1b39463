import Route56.WriteRoom
import Mathlib.Data.Finset.Card

namespace Route56

open CircularBuffer Transition

/-- The size of the held frame that `load_next_tx_holding_buffer` loads. -/
def R56Struct.heldSize (info : R56Struct) : Option Nat :=
  let ptx := info.txHoldingBuffers info.getTxHoldingIndex
  if info.txHoldingCount ≠ 0 ∧ (txBuffersNeeded ptx.bufferSize : Int) ≤ numFreeTxDmaBuffers info then some ptx.bufferSize
  else none

/-- The interrupt of the transmit DMA channel reports the end of a buffer. -/
def R56Struct.bufferSent (info : R56Struct) : Prop :=
  info.transmitDmaVector ∧ uscInDmaReg info.usc .tdmr &&& bit2 ≠ 0

instance (info : R56Struct) : Decidable info.bufferSent :=
  inferInstanceAs (Decidable ((_ ∧ _) ∧ _))

/-- The operation is an interrupt that reports the end of a buffer. -/
def endsBuffer (info : R56Struct) : Op → Prop
  | .interrupt report => (info.reporting report).bufferSent
  | _ => False

instance (info : R56Struct) (op : Op) : Decidable (endsBuffer info op) := by
  unfold endsBuffer
  split
  · infer_instance
  · infer_instance

/-- The size of the frame an operation loads into the transmit ring. -/
def loadSize (info : R56Struct) : Op → Option Nat
  | .write buf count =>
    if ¬info.xmitBufPtr ∨ ¬info.synchronous then none
    else if info.txActive then
      if info.params.mode = r56ModeHdlc ∨ info.txHoldingCount ≥ info.numTxHoldingBuffers then none
      else (saveTxBufferRequest info buf count).heldSize
    else if info.params.flags &&& hdlcFlagHdlcLoopmode ≠ 0 ∧ ¬uscLoopmodeActive info then none
    else if info.xmitCnt ≠ 0 then some info.xmitCnt
    else some count
  | .flushChars =>
    if info.xmitCnt = 0 ∨ info.ttyStopped ∨ ¬info.xmitBufPtr then none
    else if info.txActive ∨ ¬info.synchronous then none
    else some info.xmitCnt
  | .interrupt report =>
    if (info.reporting report).bufferSent then
      { info.reporting report with txDmaBuffersUsed := info.txDmaBuffersUsed - 1 }.heldSize
    else none
  | _ => none

/-- The number of ring entries a frame, if there is one, is loaded into. -/
def entriesNeeded : Option Nat → Nat
  | none => 0
  | some size => txBuffersNeeded size

theorem used_kept : KeptBase fun s t => t.txDmaBuffersUsed = s.txDmaBuffersUsed where
  refl _ := rfl
  trans first second := second.trans first
  reception frame := congrArg (·.txDmaBuffersUsed) frame
  signals _ _ := rfl
  flow _ _ _ := rfl
  xchar _ _ := rfl
  start s := congrArg (·.txDmaBuffersUsed) (uscStartTransmitter_frame s)
  stop _ := rfl
  collect _ _ _ _ := rfl
  chunk _ _ _ _ _ _ _ := rfl
  ended _ := rfl
  dropped _ := rfl
  continued s := congrArg (·.txDmaBuffersUsed) (continueAsync_frame s)

theorem r56ChangeParams_used (info : R56Struct) :
    (r56ChangeParams info).txDmaBuffersUsed = info.txDmaBuffersUsed := by
  have same {s t : R56Struct} (frame : t.exceptSettings = s.exceptSettings) :
      t.txDmaBuffersUsed = s.txDmaBuffersUsed := congrArg (·.txDmaBuffersUsed) frame
  have programmed (s : R56Struct) : (programMode s).txDmaBuffersUsed = s.txDmaBuffersUsed := by
    unfold programMode
    split
    · exact same (uscSetSyncMode_frame s)
    · exact same (uscSetAsyncMode_frame s)
  have signals (s : R56Struct) : (programSignals s).txDmaBuffersUsed = s.txDmaBuffersUsed := rfl
  have started (s : R56Struct) : (uscStartReceiver s).txDmaBuffersUsed = s.txDmaBuffersUsed :=
    congrArg (·.txDmaBuffersUsed) (uscStartReceiver_frame s)
  have hardware (s : R56Struct) : (r56ProgramHw s).txDmaBuffersUsed = s.txDmaBuffersUsed := by
    have prepared := (signals _).trans (programmed { uscStopTransmitter (uscStopReceiver s) with
      xmitCnt := 0, xmitHead := 0, xmitTail := 0 })
    unfold r56ProgramHw
    dsimp only
    split
    · exact (started _).trans prepared
    · exact prepared
  unfold r56ChangeParams
  split
  · rfl
  · exact hardware _

theorem loadNextTxHoldingBuffer_used (info : R56Struct) :
    (loadNextTxHoldingBuffer info).1.txDmaBuffersUsed = info.txDmaBuffersUsed + entriesNeeded info.heldSize := by
  unfold loadNextTxHoldingBuffer R56Struct.heldSize
  dsimp only
  split
  · exact r56LoadTxDmaBuffer_used { info with
      xmitCnt := (info.txHoldingBuffers info.getTxHoldingIndex).bufferSize } .holding _ _
  · exact (Int.add_zero _).symm

theorem r56Write_used (info : R56Struct) (buf : Nat → U8) (count : Nat) :
    (r56Write info buf count).1.txDmaBuffersUsed =
      info.txDmaBuffersUsed + entriesNeeded (loadSize info (.write buf count)) := by
  have none (same : (r56Write info buf count).1.txDmaBuffersUsed = info.txDmaBuffersUsed) :
      (r56Write info buf count).1.txDmaBuffersUsed = info.txDmaBuffersUsed + entriesNeeded none :=
    same.trans (Int.add_zero _).symm
  unfold loadSize
  dsimp only
  split
  · rename_i refused
    refine none ?_
    rcases refused with buffer | chars
    · have refused : r56Write info buf count = (info, 0) := if_pos buffer
      rw [refused]
    · unfold r56Write
      rw [if_neg chars]
      split
      · rfl
      · exact used_kept.trans (used_kept.writeAsync buf (count + 1) count info chars) (used_kept.startIfIdle _)
  rename_i accepted
  obtain ⟨buffer, sync⟩ := not_or.mp accepted
  have buffer : info.xmitBufPtr = true := not_not.mp buffer
  have sync : info.synchronous := not_not.mp sync
  split
  · rename_i active
    split
    · rename_i refused
      refine none ?_
      unfold r56Write
      rw [if_neg (not_not.mpr buffer), if_pos sync, if_pos active]
      split
      · rfl
      rename_i raw
      rw [if_pos (refused.resolve_left raw)]
    · rename_i room
      obtain ⟨raw, room⟩ := not_or.mp room
      unfold r56Write
      rw [if_neg (not_not.mpr buffer), if_pos sync, if_pos active, if_neg raw, if_neg room]
      have saved : (saveTxBufferRequest info buf count).txDmaBuffersUsed = info.txDmaBuffersUsed := by
        unfold saveTxBufferRequest
        rw [if_neg room]
        rfl
      have loaded := loadNextTxHoldingBuffer_used (saveTxBufferRequest info buf count)
      rw [saved] at loaded
      exact loaded
  · rename_i idle
    have started (s : R56Struct) : (startIfIdle s).txDmaBuffersUsed = s.txDmaBuffersUsed := used_kept.startIfIdle s
    rw [r56Write_inactive buffer sync (Bool.eq_false_iff.mpr idle)]
    split
    · exact (Int.add_zero _).symm
    split
    · exact (started _).trans (r56LoadTxDmaBuffer_used _ _ _ _)
    · exact (started _).trans (r56LoadTxDmaBuffer_used _ _ _ _)

theorem r56FlushChars_used (info : R56Struct) :
    (r56FlushChars info).txDmaBuffersUsed = info.txDmaBuffersUsed + entriesNeeded (loadSize info .flushChars) := by
  unfold r56FlushChars loadSize
  split
  · exact (Int.add_zero _).symm
  split
  · rename_i active
    rw [if_pos (.inl active)]
    exact (Int.add_zero _).symm
  rename_i idle
  split
  · rename_i sync
    rw [if_neg (not_or.mpr ⟨idle, not_not.mpr sync⟩)]
    exact (used_kept.start _).trans (r56LoadTxDmaBuffer_used _ _ _ _)
  · rename_i chars
    rw [if_pos (.inr chars)]
    exact (used_kept.start info).trans (Int.add_zero _).symm

theorem r56IsrTransmitDma_used {info : R56Struct} (vector : info.transmitDmaVector) :
    (r56IsrTransmitDma info).txDmaBuffersUsed = info.txDmaBuffersUsed - (if info.bufferSent then 1 else 0) +
      entriesNeeded (if info.bufferSent then
        { info with txDmaBuffersUsed := info.txDmaBuffersUsed - 1 }.heldSize else none) := by
  have done (s : R56Struct) : (txBufferDone s).txDmaBuffersUsed = s.txDmaBuffersUsed - 1 +
      entriesNeeded { s with txDmaBuffersUsed := s.txDmaBuffersUsed - 1 }.heldSize := by
    have loaded := loadNextTxHoldingBuffer_used { s with txDmaBuffersUsed := s.txDmaBuffersUsed - 1 }
    unfold txBufferDone
    dsimp only
    split
    · exact loaded
    · exact loaded
  unfold r56IsrTransmitDma
  dsimp only
  split
  · rename_i sent
    have reported : info.bufferSent := ⟨vector, sent⟩
    rw [if_pos reported, if_pos reported]
    exact done _
  · rename_i other
    have quiet : ¬info.bufferSent := fun reported => other reported.2
    rw [if_neg quiet, if_neg quiet]
    show info.txDmaBuffersUsed = info.txDmaBuffersUsed - 0 + (0 : Nat)
    omega

theorem r56Interrupt_used (info : R56Struct) (report : UscReport) :
    (r56Interrupt (info.reporting report)).txDmaBuffersUsed = info.txDmaBuffersUsed -
      (if endsBuffer info (.interrupt report) then 1 else 0) + entriesNeeded (loadSize info (.interrupt report)) := by
  have tail (s : R56Struct) : (scheduleBh (haltOnOverflow s)).txDmaBuffersUsed = s.txDmaBuffersUsed :=
    used_kept.trans (used_kept.chip (haltOnOverflow_frame s)) (used_kept.reception (scheduleBh_frame _))
  by_cases dma : (info.reporting report).transmitDmaVector
  · have served : serviceInterrupt (info.reporting report) = r56IsrTransmitDma (info.reporting report) := by
      unfold serviceInterrupt
      dsimp only
      rw [if_neg (not_not.mpr dma.1), if_pos dma.2]
    unfold r56Interrupt
    rw [tail, served]
    exact r56IsrTransmitDma_used dma
  · have quiet : ¬(info.reporting report).bufferSent := fun sent => dma sent.1
    have same := used_kept.interruptGiven info report fun there => absurd there dma
    have none : loadSize info (.interrupt report) = none := if_neg quiet
    have still : ¬endsBuffer info (.interrupt report) := quiet
    rw [same, none, if_neg still]
    show info.txDmaBuffersUsed = info.txDmaBuffersUsed - 0 + (0 : Nat)
    omega

/-- The count after an operation. -/
theorem exec_used {info after : R56Struct} {op : Op} (ran : exec info op = some after) :
    after.txDmaBuffersUsed =
      info.txDmaBuffersUsed - (if endsBuffer info op then 1 else 0) + entriesNeeded (loadSize info op) := by
  have none (same : after.txDmaBuffersUsed = info.txDmaBuffersUsed) (k : Nat) (used : k = 0) :
      after.txDmaBuffersUsed = info.txDmaBuffersUsed - 0 + k := by
    rw [same, used]
    omega
  by_cases loads : op.loads
  · cases op with
    | write buf count =>
      cases ran
      rw [if_neg (show ¬endsBuffer info (.write buf count) from id), Int.sub_zero]
      exact r56Write_used info buf count
    | flushChars =>
      cases ran
      rw [if_neg (show ¬endsBuffer info .flushChars from id), Int.sub_zero]
      exact r56FlushChars_used info
    | interrupt report =>
      cases ran
      exact r56Interrupt_used info report
    | _ => exact absurd loads id
  · have quiet : ¬endsBuffer info op := by
      cases op with
      | interrupt report => exact absurd trivial loads
      | _ => exact id
    have nothing : entriesNeeded (loadSize info op) = 0 := by
      cases op with
      | write buf count => exact absurd trivial loads
      | flushChars => exact absurd trivial loads
      | interrupt report => exact absurd trivial loads
      | _ => rfl
    rw [if_neg quiet]
    refine none ?_ _ nothing
    by_cases free : op.programs
    · cases op with
      | setParams newParams =>
        cases ran
        exact r56ChangeParams_used _
      | setTermios cCflag cIflag baudRate =>
        cases ran
        have changed := r56ChangeParams_used { info with
          tty := { info.tty with cCflag := cCflag, cIflag := cIflag, baudRate := baudRate } }
        exact (used_kept.termios (r56ChangeParams { info with
          tty := { info.tty with cCflag := cCflag, cIflag := cIflag, baudRate := baudRate } }) info.tty.cCflag).trans changed
      | _ => exact absurd free id
    · by_cases flush : op = .flushBuffer
      · subst flush
        cases ran
        rfl
      · exact used_kept.exec free flush loads ran

/-- The driver, and the entries of the transmit ring that were loaded and that the DMA engine has
not emptied. -/
structure DmaState where
  info : R56Struct
  loaded : Finset Nat := ∅

/-- The entries an operation loads. -/
def newEntries (info : R56Struct) (op : Op) : Finset Nat :=
  (Finset.range (entriesNeeded (loadSize info op))).image (cell info.txBufferCount info.currentTxBuffer)

/-- The DMA engine empties some of the loaded entries; then the driver takes a step. Emptied entries
that an interrupt reports are those of its own step. -/
def DmaStep (s : DmaState) (e : Finset Nat × Op) (t : DmaState) : Prop :=
  e.1 ⊆ s.loaded ∧ Step s.info e.2 t.info ∧ t.loaded = s.loaded \ e.1 ∪ newEntries s.info e.2

/-- The count is in range and right, and the free entries are not overstated. -/
structure Accounted (s : DmaState) : Prop where
  nonneg : 0 ≤ s.info.txDmaBuffersUsed
  le : s.info.txDmaBuffersUsed ≤ s.info.txBufferCount
  used : s.info.txDmaBuffersUsed = s.loaded.card
  free : 0 ≤ numFreeTxDmaBuffers s.info ∧ numFreeTxDmaBuffers s.info = s.info.txBufferCount - s.loaded.card

/-- How many entries the frame an operation loads takes that are still loaded. -/
def overwritten (s : DmaState) (emptied : Finset Nat) (op : Op) : Nat :=
  entriesNeeded (loadSize s.info op) - (newEntries s.info op \ (s.loaded \ emptied)).card

/-- Of the loaded entries as many go, emptied or overwritten, as the step subtracts. -/
def CountsRight (s : DmaState) (e : Finset Nat × Op) : Prop :=
  e.1.card + overwritten s e.1 e.2 = if endsBuffer s.info e.2 then 1 else 0

/-- The loaded entries are entries of the ring. -/
def InRing (s : DmaState) : Prop := 0 < s.info.txBufferCount ∧ ∀ i ∈ s.loaded, i < s.info.txBufferCount

theorem InRing.card_le {s : DmaState} (inside : InRing s) : s.loaded.card ≤ s.info.txBufferCount := by
  have within : s.loaded ⊆ Finset.range s.info.txBufferCount := fun i member => Finset.mem_range.mpr (inside.2 i member)
  have bound := Finset.card_le_card within
  rwa [Finset.card_range] at bound

theorem accounted_iff {s : DmaState} (inside : InRing s) : Accounted s ↔ s.info.txDmaBuffersUsed = s.loaded.card := by
  have bound := inside.card_le
  refine ⟨Accounted.used, fun used => ⟨?_, ?_, used, ?_⟩⟩
  · omega
  · omega
  · unfold numFreeTxDmaBuffers
    omega

theorem InRing.step {s t : DmaState} {e : Finset Nat × Op} (inside : InRing s) (step : DmaStep s e t) : InRing t := by
  obtain ⟨_, ran, loaded⟩ := step
  have count : t.info.txBufferCount = s.info.txBufferCount := congrArg Setup.txBufferCount (exec_exceptParams ran.1)
  refine ⟨count ▸ inside.1, fun i member => ?_⟩
  rw [count]
  rw [loaded, Finset.mem_union, Finset.mem_sdiff] at member
  rcases member with old | new
  · exact inside.2 i old.1
  · obtain ⟨o, _, rfl⟩ := Finset.mem_image.mp new
    exact cell_lt inside.1

/-- A step from a right count leads to one exactly when it counts right. -/
theorem accounted_step {s t : DmaState} {e : Finset Nat × Op} (accounted : Accounted s) (inside : InRing s)
    (step : DmaStep s e t) : Accounted t ↔ CountsRight s e := by
  have next := inside.step step
  obtain ⟨emptied, ran, loaded⟩ := step
  have used := exec_used ran.1
  have before := accounted.used
  have left : (s.loaded \ e.1).card = s.loaded.card - e.1.card := Finset.card_sdiff_of_subset emptied
  have fewer := Finset.card_le_card emptied
  have total : t.loaded.card = (s.loaded \ e.1).card + (newEntries s.info e.2 \ (s.loaded \ e.1)).card := by
    rw [loaded, ← Finset.union_sdiff_self_eq_union, Finset.card_union_of_disjoint Finset.disjoint_sdiff]
  have new : (newEntries s.info e.2 \ (s.loaded \ e.1)).card ≤ entriesNeeded (loadSize s.info e.2) := by
    have most : (newEntries s.info e.2).card ≤ (Finset.range (entriesNeeded (loadSize s.info e.2))).card :=
      Finset.card_image_le
    rw [Finset.card_range] at most
    exact (Finset.card_le_card Finset.sdiff_subset).trans most
  rw [accounted_iff next, used, before, total, left]
  unfold CountsRight overwritten
  generalize (newEntries s.info e.2 \ (s.loaded \ e.1)).card = fresh at new ⊢
  generalize entriesNeeded (loadSize s.info e.2) = needed at new ⊢
  split
  · omega
  · omega

/-- The count is right in the runs of an opened port whose steps all count right, and in no others. -/
theorem dma_accounting_iff {info : R56Struct} {physEntry : Nat → U32} (frames : 1 ≤ info.numTxDmaBuffers)
    (frame : 4096 ≤ info.maxFrameSize) {p : List ((Finset Nat × Op) × DmaState)}
    (run : Run DmaStep { info := r56Open info physEntry } p) :
    Accounted { info := r56Open info physEntry } ∧
      ((∀ x ∈ p, Accounted x.2) ↔ Run (fun s e _ => CountsRight s e) { info := r56Open info physEntry } p) := by
  have count := (Nat.zero_le _).trans_lt (r56Open_sound physEntry frames frame).current
  have inside : InRing { info := r56Open info physEntry } := ⟨count, fun i member => absurd member (Finset.notMem_empty i)⟩
  have none : (r56Open info physEntry).txDmaBuffersUsed = 0 := r56ChangeParams_used (r56AllocIntermediateRxbufferMemory
    (r56AllocBufferListMemory (countDmaBuffers (requestIrq (startupBegin
      { info with port := { info.port with tty := true, count := 1 } }))) physEntry))
  have init : Accounted { info := r56Open info physEntry } := (accounted_iff inside).mpr none
  have exact_step : ∀ s e t, Accounted s → InRing s → DmaStep s e t → (Accounted t ↔ CountsRight s e) :=
    fun _ _ _ accounted inside step => accounted_step accounted inside step
  have preserved : ∀ s e t, InRing s → DmaStep s e t → InRing t := fun _ _ _ inside step => inside.step step
  exact ⟨init, run.good_iff exact_step preserved init inside⟩

/-- The state a step leads to when the DMA engine has emptied some entries before it. -/
def DmaState.next (s : DmaState) (after : R56Struct) (emptied : Finset Nat) (op : Op) : DmaState where
  info := after
  loaded := s.loaded \ emptied ∪ newEntries s.info op

theorem dma_accounting_iff_sent :
    let start : DmaState := { info := r56Open r56AllocateDevice fun _ => 0 }
    let after := start.next (r56Write start.info (fun _ => 0x55) 1).1 ∅ (.write (fun _ => 0x55) 1)
    DmaStep start (∅, .write (fun _ => 0x55) 1) after ∧ after.loaded.card = 1 ∧ Accounted after := by
  intro start after
  have step : DmaStep start (∅, .write (fun _ => 0x55) 1) after :=
    ⟨Finset.empty_subset _, ⟨rfl, fun timeout => nomatch timeout⟩, rfl⟩
  have exact_run := @dma_accounting_iff r56AllocateDevice (fun _ => 0) (by decide) (by decide)
    [((∅, .write (fun _ => 0x55) 1), after)] ⟨step, trivial⟩
  have counts : CountsRight start (∅, .write (fun _ => 0x55) 1) := by
    unfold CountsRight
    decide +kernel
  exact ⟨step, by decide +kernel, exact_run.2.mpr ⟨counts, trivial⟩ _ (List.mem_singleton.mpr rfl)⟩

/-- A default port to which a byte was written. -/
def loadedPort : DmaState :=
  DmaState.next { info := r56Open r56AllocateDevice fun _ => 0 }
    (r56Write (r56Open r56AllocateDevice fun _ => 0) (fun _ => 0x55) 1).1 ∅ (.write (fun _ => 0x55) 1)

/-- The port when it has sent the byte: the interrupt for the end of the frame is not one for the
end of a buffer. -/
def sentPort : DmaState :=
  loadedPort.next (r56Interrupt (loadedPort.info.reporting frameSent)) {0} (.interrupt frameSent)

/-- The second byte such a port sends is counted as a second buffer of the one there is. -/
theorem second_frame_exceeds_ring :
    let start : DmaState := { info := r56Open r56AllocateDevice fun _ => 0 }
    let again := sentPort.next (r56Write sentPort.info (fun _ => 0x55) 1).1 ∅ (.write (fun _ => 0x55) 1)
    Run DmaStep start [((∅, .write (fun _ => 0x55) 1), loadedPort), (({0}, .interrupt frameSent), sentPort),
        ((∅, .write (fun _ => 0x55) 1), again)] ∧
      again.info.txDmaBuffersUsed = 2 ∧ again.info.txBufferCount = 1 ∧ ¬Accounted again := by
  intro start again
  have held : ({0} : Finset Nat) ⊆ loadedPort.loaded := by decide +kernel
  have used : (r56Write sentPort.info (fun _ => 0x55) 1).1.txDmaBuffersUsed = 2 := by decide +kernel
  have count : (r56Write sentPort.info (fun _ => 0x55) 1).1.txBufferCount = 1 := by decide +kernel
  have timed {op : Op} (other : op ≠ .txTimeout) (info : R56Struct) : op = .txTimeout → info.txTimer = true :=
    fun timeout => absurd timeout other
  have first : DmaStep start (∅, .write (fun _ => 0x55) 1) loadedPort :=
    ⟨Finset.empty_subset _, ⟨rfl, timed (by nofun) _⟩, rfl⟩
  have second : DmaStep loadedPort ({0}, .interrupt frameSent) sentPort := ⟨held, ⟨rfl, timed (by nofun) _⟩, rfl⟩
  have third : DmaStep sentPort (∅, .write (fun _ => 0x55) 1) again :=
    ⟨Finset.empty_subset _, ⟨rfl, timed (by nofun) _⟩, rfl⟩
  refine ⟨⟨first, second, third, trivial⟩, used, count, fun accounted => ?_⟩
  have le : (r56Write sentPort.info (fun _ => 0x55) 1).1.txDmaBuffersUsed ≤
      (r56Write sentPort.info (fun _ => 0x55) 1).1.txBufferCount := accounted.le
  rw [used, count] at le
  exact absurd le (by decide)

end Route56
