import Route56.RxFrame
import Route56.RawReceive
import Route56.Driver

namespace Route56

open CircularBuffer Transition

/-- The number of bytes of a frame that the driver returns: without the CRC, unless it is asked for. -/
def returnSize (crc : U16) (returnEx : Bool) (frame : List U8) : Nat :=
  if returnEx then frame.length else frame.length - crcLength crc

/-- The block returned for a frame received without an error. -/
def returned (crc : U16) (returnEx : Bool) (frame : List U8) : List U8 :=
  frame.take (returnSize crc returnEx frame) ++ (if returnEx then [rxOk] else [])

/-- A frame with something to return, which is not more than the driver returns and does not run out the
residual count. -/
structure Returnable (crc : U16) (returnEx : Bool) (most : Nat) (frame : List U8) : Prop where
  some : 1 ≤ returnSize crc returnEx frame
  fits : (returned crc returnEx frame).length ≤ most
  counted : frame.length ≤ rclrValue

instance (crc : U16) (returnEx : Bool) (most : Nat) (frame : List U8) :
    Decidable (Returnable crc returnEx most frame) :=
  decidable_of_iff (_ ∧ _ ∧ _) ⟨fun h => ⟨h.1, h.2.1, h.2.2⟩, fun h => ⟨h.1, h.2, h.3⟩⟩

/-- The blocks handed on so far, to the line discipline or to the network layer. -/
def R56Struct.passed (info : R56Struct) : List (List U8) :=
  if info.netcount = 0 then info.history.ldisc else info.history.netRx

/-- The ring holds the frames, each with its entries, and then the one that is being received. -/
structure HoldsFrames (crc : U16) (returnEx : Bool) (info : R56Struct)
    (frames : List (List DmaBufferEntry × List U8)) : Prop where
  hdlc : info.params.mode = r56ModeHdlc
  crcType : info.params.crcType = crcTypeOf crc returnEx
  calm : info.rxOverflow = false ∧ info.rxRccUnderrun = false
  layout : ∃ filling free bytes, RxLayout info (frames.flatMap Prod.fst) filling free 0 bytes
  good : ∀ f ∈ frames, HoldsFrame f.1 0 f.2 ∧ (∀ e, f.1.getLast? = some e → e.status &&& rxstatusError = 0) ∧
    Returnable crc returnEx info.maxFrameSize f.2
  start : info.usc.rxDma.start = info.rxCell (frames.flatMap Prod.fst).length

section

variable {crc : U16} {returnEx : Bool} {info : R56Struct} {frames : List (List DmaBufferEntry × List U8)}

theorem length_returned (frame : List U8) :
    (returned crc returnEx frame).length = returnSize crc returnEx frame + if returnEx then 1 else 0 := by
  have short : returnSize crc returnEx frame ≤ frame.length := by
    unfold returnSize
    split
    · exact Nat.le_refl _
    · exact Nat.sub_le _ _
  unfold returned
  rw [List.length_append, List.length_take, Nat.min_eq_left short]
  split
  · rfl
  · rfl

/-- The driver makes of the residual count what is to be returned. -/
theorem rxReturnSize_returnable {status rcc : U16} {most : Nat} {frame : List U8} (documented : documentedCrc crc)
    (well : status &&& rxstatusError = 0) (rest : Returnable crc returnEx most frame)
    (residual : rcc = BitVec.ofNat 16 (rclrValue - frame.length)) :
    rxReturnSize (crcTypeOf crc returnEx) status rcc = returnSize crc returnEx frame := by
  have value : rclrValue = 65535 := rfl
  have counted := rest.counted
  have some := rest.some
  have size : rcc.toNat + frame.length = rclrValue := by
    rw [residual, BitVec.toNat_ofNat, Nat.mod_eq_of_lt (by omega)]
    omega
  unfold rxReturnSize
  rw [if_pos (.inl well), rxFrameSize_documented documented returnEx size]
  unfold returnSize at some ⊢
  split
  · rfl
  · rename_i plain
    rw [if_neg plain] at some
    omega

/-- The block handed on for a frame at the front of the ring. -/
theorem rxBlocks_returned {entries back : List DmaBufferEntry} {e : DmaBufferEntry} {frame : List U8}
    (documented : documentedCrc crc) (crcType : info.params.crcType = crcTypeOf crc returnEx)
    (first : info.currentRxBuffer < info.rxBufferCount) (split : info.rxView = entries ++ back)
    (holds : HoldsFrame entries 0 frame) (last : entries.getLast? = some e) (well : e.status &&& rxstatusError = 0)
    (rest : Returnable crc returnEx info.maxFrameSize frame) : rxBlocks info e = [returned crc returnEx frame] := by
  obtain ⟨front, other, rfl, opens, ends, residual, -⟩ := holds.ended
  rw [List.getLast?_concat] at last
  obtain rfl := Option.some.inj last
  rw [Nat.zero_add] at residual
  have size := rxReturnSize_returnable documented well rest residual
  rw [← crcType] at size
  have value : rclrValue = 65535 := rfl
  have counted := rest.counted
  have some := rest.some
  have fits := rest.fits
  rw [length_returned] at fits
  have short : returnSize crc returnEx frame ≤ frame.length := by
    unfold returnSize
    split
    · exact Nat.le_refl _
    · exact Nat.sub_le _ _
  have flag := crcTypeOf_returnEx documented returnEx
  have returns : ¬rxTooLong info (rxReturnSize info.params.crcType other.status other.rcc) := by
    rw [size]
    unfold rxTooLong
    rw [crcType]
    rintro (⟨ex, long⟩ | long)
    · rw [if_pos (flag.mp ex)] at fits
      omega
    · omega
  rw [rxBlocks_eq_singleton (by rw [size]; omega) returns, size]
  have length : (front ++ [other]).length ≤ info.rxBufferCount := by
    have whole := congrArg List.length split
    rw [R56Struct.rxView, length_view, List.length_append] at whole
    omega
  have taken : info.rxView.take (front ++ [other]).length = front ++ [other] := by
    rw [split, List.take_left]
  have stored : (pages (front ++ [other])).take (returnSize crc returnEx frame) =
      frame.take (returnSize crc returnEx frame) := by
    have cut := congrArg (List.take (returnSize crc returnEx frame)) holds.stored
    rwa [List.take_take, Nat.min_eq_left short] at cut
  have room : returnSize crc returnEx frame ≤ dmaBufferSize * (front ++ [other]).length := by
    have enough := holds.room
    rw [Nat.mul_comm]
    omega
  have noCrcError : ¬other.status &&& rxstatusCrcError ≠ 0 := by
    rw [rxstatusError_split] at well
    exact not_not.mpr (BitVec.or_eq_zero_iff.mp well).2
  rw [rxFrameData_eq first documented crcType length room, taken, stored, if_neg noCrcError]
  rfl

theorem uscStartReceiver_empty (hdlc : info.params.mode = r56ModeHdlc)
    (first : info.currentRxBuffer < info.rxBufferCount) : EmptyRing (uscStartReceiver info) := by
  have fields := uscStartReceiver_fields info
  have inside : (uscStartReceiver info).currentRxBuffer < (uscStartReceiver info).rxBufferCount := by
    rw [fields.2.1, fields.2.2.1]
    exact Nat.zero_lt_of_lt first
  refine ⟨inside, fun x member => ?_, ?_⟩
  · obtain ⟨i, within, rfl⟩ := (mem_view_iff inside).mp member
    exact uscStartReceiver_free (by rwa [fields.2.1] at within)
  · have sync : info.synchronous := by
      unfold R56Struct.synchronous
      rw [hdlc]
      decide
    unfold uscStartReceiver
    dsimp only
    split
    · rw [uscOutReg_rxDma, initRxChannel_rxDma]
      rfl
    · rename_i other
      exact absurd sync other

/-- The frame at the front is handed on and its entries are freed. -/
theorem HoldsFrames.get_frame {f : List DmaBufferEntry × List U8} (documented : documentedCrc crc)
    (held : HoldsFrames crc returnEx info (f :: frames)) :
    (r56GetRxFrame info).2 = true ∧ HoldsFrames crc returnEx (r56GetRxFrame info).1 frames ∧
      (r56GetRxFrame info).1.passed = info.passed ++ [returned crc returnEx f.2] := by
  obtain ⟨entries, bytes⟩ := f
  obtain ⟨hdlc, crcType, calm, ⟨filling, free, rest, layout⟩, good, start⟩ := held
  obtain ⟨holds, errorFree, returnable⟩ := good (entries, bytes) List.mem_cons_self
  obtain ⟨front, e, whole, opens, ends, _⟩ := holds.ended
  dsimp only at whole holds errorFree returnable
  subst whole
  rw [List.flatMap_cons] at layout start
  have split : info.rxView = front ++ e :: (frames.flatMap Prod.fst ++ filling ++ free) := by
    rw [layout.view]
    simp only [List.append_assoc, List.cons_append, List.nil_append]
  have blocks := @rxBlocks_returned _ _ _ (front ++ [e]) (frames.flatMap Prod.fst ++ filling ++ free) e bytes
    documented crcType layout.first (by rw [split, List.append_assoc front [e], List.singleton_append]) holds
    List.getLast?_concat (errorFree e List.getLast?_concat) returnable
  have entry : info.rxBufferList (info.rxCell front.length) = e := cell_of_view split
  have call := r56GetRxFrame_of_frame layout.first split opens ends
  have whole := r56GetRxFrame_frame info
  have history := deliverRxFrame_history info (info.rxCell front.length)
  have frame := deliverRxFrame_frame info info.currentRxBuffer (info.rxCell front.length)
  dsimp only at call history
  rw [entry, blocks] at history
  generalize deliverRxFrame info info.currentRxBuffer (info.rxCell front.length) = delivered at call history frame
  have count : delivered.rxBufferCount = info.rxBufferCount := congrArg (·.rxBufferCount) frame
  have current : delivered.currentRxBuffer = info.currentRxBuffer := congrArg (·.currentRxBuffer) frame
  have usc : delivered.usc = info.usc := congrArg (·.usc) frame
  have overflow : delivered.rxOverflow = info.rxOverflow := congrArg (·.rxOverflow) frame
  have underrun : delivered.rxRccUnderrun = info.rxRccUnderrun := congrArg (·.rxRccUnderrun) frame
  have cells (o : Nat) : delivered.rxCell o = info.rxCell o := by
    unfold R56Struct.rxCell
    rw [current, count]
  have freed := (layout.of_frame frame).freed (e := e) front (frames.flatMap Prod.fst) filling
    (by simp only [List.append_assoc, List.cons_append, List.nil_append])
    (fun x member => List.mem_append_right _ member) (by rw [usc]; exact layout.fills)
    (by simp only [List.length_append, List.length_singleton, Nat.add_assoc])
  have moved := (r56FreeRxFrameBuffers_view front (layout.of_frame frame).first
    ((layout.of_frame frame).view.trans (layout.view.symm.trans split))).2
  rw [current, cells] at freed moved
  rw [cells] at moved
  have quiet : (r56FreeRxFrameBuffers delivered info.currentRxBuffer (info.rxCell front.length)).rxOverflow = false :=
    overflow.trans calm.1
  rw [restartOnOverflow_calm quiet] at call
  rw [call] at whole ⊢
  dsimp only at whole ⊢
  generalize after : r56FreeRxFrameBuffers delivered info.currentRxBuffer (info.rxCell front.length) = t
    at freed moved whole ⊢
  have params : t.params = info.params := congrArg (·.params) whole
  have most : t.maxFrameSize = info.maxFrameSize := congrArg (·.maxFrameSize) whole
  have size : t.rxBufferCount = info.rxBufferCount := congrArg (·.rxBufferCount) whole
  have net : t.netcount = info.netcount := congrArg (·.netcount) whole
  have handed : t.history = delivered.history := by rw [← after]; rfl
  have chip : t.usc = delivered.usc := by rw [← after]; rfl
  refine ⟨rfl, ⟨by rw [params]; exact hdlc, by rw [params]; exact crcType, ?_, ⟨filling, _, rest, freed⟩, ?_, ?_⟩, ?_⟩
  · rw [← after]
    exact ⟨overflow.trans calm.1, underrun.trans calm.2⟩
  · rw [most]
    exact fun f member => good f (List.mem_cons_of_mem _ member)
  · rw [chip, usc, start, R56Struct.rxCell, R56Struct.rxCell, size, moved, R56Struct.rxCell, cell_cell,
      List.length_append, List.length_append, List.length_singleton]
  · unfold R56Struct.passed
    rw [net, handed, history.1, history.2]
    split
    · rfl
    · rfl

/-- Without a complete frame nothing is handed on. A ring that is used up is made free again, and with it the
frame that has filled it is given up. -/
theorem HoldsFrames.get_empty (held : HoldsFrames crc returnEx info []) :
    (r56GetRxFrame info).2 = false ∧ HoldsFrames crc returnEx (r56GetRxFrame info).1 [] ∧
      (r56GetRxFrame info).1.passed = info.passed := by
  have ⟨hdlc, crcType, calm, ⟨filling, free, bytes, layout⟩, good, start⟩ := held
  rw [List.flatMap_nil] at layout
  have split := layout.view
  rw [List.nil_append] at split
  cases free with
  | cons e later =>
    have call := r56GetRxFrame_of_unused layout.first split layout.fills.opens (layout.frees e List.mem_cons_self)
    rw [restartOnOverflow_calm calm.1] at call
    rw [call]
    exact ⟨rfl, held, rfl⟩
  | nil =>
    rw [List.append_nil] at split
    have call := r56GetRxFrame_of_exhausted layout.first (by rw [split]; exact layout.fills.opens)
    by_cases enabled : info.rxEnabled = true
    · rw [if_pos enabled] at call
      have restarted := (uscStartReceiver_empty hdlc layout.first).layout
      have fields := uscStartReceiver_fields info
      have frame := uscStartReceiver_frame info
      rw [restartOnOverflow_calm fields.2.2.2.2.1] at call
      rw [call]
      dsimp only
      have params : (uscStartReceiver info).params = info.params := congrArg (·.params) frame
      refine ⟨rfl, ⟨by rw [params]; exact hdlc, by rw [params]; exact crcType, fields.2.2.2.2, ⟨_, _, _, restarted⟩,
        fun f member => absurd member List.not_mem_nil, ?_⟩, rfl⟩
      rw [(uscStartReceiver_empty hdlc layout.first).dma, List.flatMap_nil, List.length_nil, R56Struct.rxCell,
        cell_zero restarted.first]
      rfl
    · rw [if_neg enabled, restartOnOverflow_calm calm.1] at call
      rw [call]
      exact ⟨rfl, held, rfl⟩

/-- There are no more frames in the ring than entries. -/
theorem HoldsFrames.few (held : HoldsFrames crc returnEx info frames) : frames.length ≤ info.rxBufferCount := by
  obtain ⟨filling, free, rest, layout⟩ := held.layout
  have entries : frames.length ≤ (frames.flatMap Prod.fst).length := by
    rw [List.length_flatMap]
    have each : ∀ k ∈ frames.map fun f => f.1.length, 1 ≤ k := by
      intro k member
      obtain ⟨f, here, rfl⟩ := List.mem_map.mp member
      obtain ⟨front, e, whole, _⟩ := (held.good f here).1.ended
      rw [whole, List.length_append, List.length_singleton]
      exact Nat.le_add_left _ _
    have total := List.length_le_sum_of_one_le _ each
    rwa [List.length_map] at total
  have whole := congrArg List.length layout.view
  rw [R56Struct.rxView, length_view, List.length_append, List.length_append] at whole
  omega

/-- The loop hands on every complete frame. -/
theorem HoldsFrames.loop (documented : documentedCrc crc) :
    ∀ (frames : List (List DmaBufferEntry × List U8)) (fuel : Nat) (info : R56Struct),
      HoldsFrames crc returnEx info frames → frames.length < fuel →
        ∃ after, r56BhReceiveLoop r56GetRxFrame fuel info = some after ∧ HoldsFrames crc returnEx after [] ∧
          after.passed = info.passed ++ frames.map fun f => returned crc returnEx f.2 := by
  intro frames
  induction frames with
  | nil =>
    intro fuel info held enough
    obtain ⟨fuel, rfl⟩ := Nat.exists_eq_succ_of_ne_zero (Nat.ne_of_gt enough)
    obtain ⟨none, empty, same⟩ := held.get_empty
    refine ⟨(r56GetRxFrame info).1, ?_, empty, ?_⟩
    · rw [r56BhReceiveLoop, if_neg (by rw [held.calm.2]; decide), if_neg (by rw [none]; decide)]
    · rw [same, List.map_nil, List.append_nil]
  | cons f frames ih =>
    intro fuel info held enough
    obtain ⟨fuel, rfl⟩ := Nat.exists_eq_succ_of_ne_zero (Nat.ne_of_gt (Nat.zero_lt_of_lt enough))
    obtain ⟨found, later, handed⟩ := held.get_frame documented
    obtain ⟨after, loop, empty, passed⟩ := ih fuel _ later (Nat.lt_of_succ_lt_succ enough)
    refine ⟨after, ?_, empty, ?_⟩
    · rw [r56BhReceiveLoop, if_neg (by rw [held.calm.2]; decide), if_pos found]
      exact loop
    · rw [passed, handed, List.append_assoc, List.map_cons, List.singleton_append]

theorem HoldsFrames.bhReceive (documented : documentedCrc crc) (held : HoldsFrames crc returnEx info frames) :
    ∃ after, r56BhReceive info = some after ∧ HoldsFrames crc returnEx after [] ∧
      after.passed = info.passed ++ frames.map fun f => returned crc returnEx f.2 := by
  have loop := held.loop documented frames (info.rxBufferCount + 1) info (Nat.lt_succ_of_le held.few)
  have function : getRxFrame info = r56GetRxFrame := if_pos held.hdlc
  unfold r56BhReceive
  rwa [function]

/-- A frame ends without an error, and is one that the driver returns. -/
def Reception.endsFrame (crc : U16) (returnEx : Bool) (info : R56Struct) : Reception → Prop
  | .finish status => status &&& rxstatusError = 0 ∧ Returnable crc returnEx info.maxFrameSize info.usc.rxDma.frame
  | _ => True

instance (crc : U16) (returnEx : Bool) (info : R56Struct) :
    (reception : Reception) → Decidable (reception.endsFrame crc returnEx info)
  | .use => inferInstanceAs (Decidable True)
  | .store _ => inferInstanceAs (Decidable True)
  | .move => inferInstanceAs (Decidable True)
  | .finish _ => inferInstanceAs (Decidable (_ ∧ _))

/-- The frames that a step of the chip completes. -/
def Reception.completes (info : R56Struct) : Reception → List (List U8)
  | .finish _ => [info.usc.rxDma.frame]
  | _ => []

/-- A step of the chip keeps the frames and may add the one that is being received. -/
theorem HoldsFrames.chip {reception : Reception} (held : HoldsFrames crc returnEx info frames)
    (possible : reception.possible info) (well : reception.endsFrame crc returnEx info) :
    ∃ frames', HoldsFrames crc returnEx (receive info reception) frames' ∧
      frames'.map Prod.snd = frames.map Prod.snd ++ reception.completes info := by
  obtain ⟨hdlc, crcType, calm, ⟨filling, free, bytes, layout⟩, good, start⟩ := held
  cases reception with
  | use =>
    obtain ⟨e, rest, rfl, next_layout⟩ := layout.use possible
    exact ⟨frames, ⟨hdlc, crcType, calm, ⟨_, _, _, next_layout⟩, good, start⟩, (List.append_nil _).symm⟩
  | store new =>
    obtain ⟨filling', _, next_layout⟩ := layout.store possible
    exact ⟨frames, ⟨hdlc, crcType, calm, ⟨_, _, _, next_layout⟩, good, start⟩, (List.append_nil _).symm⟩
  | move =>
    exact ⟨frames, ⟨hdlc, crcType, calm, ⟨_, _, _, layout.move possible⟩, good, start⟩, (List.append_nil _).symm⟩
  | finish status =>
    have whole := layout.fills.rest
    rw [List.drop_zero] at whole
    obtain ⟨entries, last, holds, next_layout⟩ : ∃ entries : List DmaBufferEntry,
        (∀ e, entries.getLast? = some e → e.status &&& rxstatusError = 0) ∧ HoldsFrame entries 0 bytes ∧
          RxLayout (receive info (.finish status)) (frames.flatMap Prod.fst ++ entries) [] free 0 [] := by
      obtain ⟨front, e, rfl, holds, next_layout⟩ := layout.finish possible
      refine ⟨_, fun last same => ?_, holds, next_layout⟩
      rw [List.getLast?_concat] at same
      rw [← Option.some.inj same]
      exact well.1
    have joined : (frames ++ [(entries, info.usc.rxDma.frame)]).flatMap Prod.fst =
        frames.flatMap Prod.fst ++ entries := by
      rw [List.flatMap_append, List.flatMap_singleton]
    refine ⟨frames ++ [(entries, info.usc.rxDma.frame)],
      ⟨hdlc, crcType, calm, ⟨[], free, [], ?_⟩, fun f member => ?_, ?_⟩, ?_⟩
    · rw [joined]
      exact next_layout
    · rcases List.mem_append.mp member with earlier | here
      · exact good f earlier
      · rw [List.mem_singleton.mp here]
        exact ⟨by rw [whole]; exact holds, last, well.2⟩
    · rw [joined]
      exact next_layout.pos
    · rw [List.map_append, List.map_singleton]
      rfl

/-- `info` without the registers of the chip and bottom half scheduling. -/
def R56Struct.exceptNotes (info : R56Struct) : R56Struct :=
  { info with usc := { rxDma := info.usc.rxDma }, pendingBh := 0, taskQueued := false, bhRequested := false }

theorem HoldsFrames.of_frame {t : R56Struct} (held : HoldsFrames crc returnEx info frames)
    (frame : t.exceptNotes = info.exceptNotes) : HoldsFrames crc returnEx t frames := by
  have list : t.rxBufferList = info.rxBufferList := congrArg (·.rxBufferList) frame
  have count : t.rxBufferCount = info.rxBufferCount := congrArg (·.rxBufferCount) frame
  have current : t.currentRxBuffer = info.currentRxBuffer := congrArg (·.currentRxBuffer) frame
  have dma : t.usc.rxDma = info.usc.rxDma := congrArg (·.usc.rxDma) frame
  have params : t.params = info.params := congrArg (·.params) frame
  have most : t.maxFrameSize = info.maxFrameSize := congrArg (·.maxFrameSize) frame
  have overflow : t.rxOverflow = info.rxOverflow := congrArg (·.rxOverflow) frame
  have underrun : t.rxRccUnderrun = info.rxRccUnderrun := congrArg (·.rxRccUnderrun) frame
  have cells (o : Nat) : t.rxCell o = info.rxCell o := by
    unfold R56Struct.rxCell
    rw [current, count]
  obtain ⟨hdlc, crcType, calm, ⟨filling, free, bytes, layout⟩, good, start⟩ := held
  refine ⟨by rw [params]; exact hdlc, by rw [params]; exact crcType, by rw [overflow, underrun]; exact calm,
    ⟨filling, free, bytes, ?_⟩, by rw [most]; exact good, by rw [dma, cells]; exact start⟩
  refine ⟨by rw [current, count]; exact layout.first, ?_, layout.useds, layout.frees, by rw [dma]; exact layout.fills,
    by rw [dma, cells]; exact layout.pos⟩
  unfold R56Struct.rxView
  rw [list, count, current]
  exact layout.view

/-- What is handed on does not depend on the notes. -/
theorem passed_of_frame {t : R56Struct} (frame : t.exceptNotes = info.exceptNotes) : t.passed = info.passed := by
  have net : t.netcount = info.netcount := congrArg (·.netcount) frame
  have history : t.history = info.history := congrArg (·.history) frame
  unfold R56Struct.passed
  rw [net, history]

/-- The chip reports the receive DMA channel, and not the end of its list. -/
def receiveDmaOnly (info : R56Struct) : Prop :=
  info.uscVector = 0 ∧ uscInDmaReg info.usc .divr &&& (bit10 ||| bit9) ≠ bit10 ∧
    uscInDmaReg info.usc .rdmr &&& bit3 = 0

instance (info : R56Struct) : Decidable (receiveDmaOnly info) := inferInstanceAs (Decidable (_ ∧ _ ∧ _))

theorem r56Interrupt_notes (only : receiveDmaOnly info) : (r56Interrupt info).exceptNotes = info.exceptNotes := by
  obtain ⟨vector, dma, continues⟩ := only
  have served : (r56IsrReceiveDma info).exceptNotes = info.exceptNotes := by
    have kept : uscInDmaReg (uscOutDmaReg info.usc .cdir (bit9 + bit1)) .rdmr &&& bit3 = 0 := continues
    unfold r56IsrReceiveDma
    dsimp only
    rw [if_neg (not_not.mpr kept)]
    rfl
  have halted (s : R56Struct) : (haltOnOverflow s).exceptNotes = s.exceptNotes := by
    unfold haltOnOverflow
    split
    · rfl
    · rfl
  have scheduled (s : R56Struct) : (scheduleBh s).exceptNotes = s.exceptNotes := by
    unfold scheduleBh
    split
    · rfl
    · rfl
  unfold r56Interrupt serviceInterrupt
  dsimp only
  rw [if_neg (not_not.mpr vector), if_neg dma, scheduled, halted, served]

end

/-- The driver and the frames the chip has completed so far. -/
structure HdlcRxState where
  info : R56Struct
  completed : List (List U8) := []

inductive HdlcRxEvent
  | chip (reception : Reception)
  | interrupt (report : UscReport)
  | bhReceive

/-- A step of the hardware that fills the ring. -/
def HdlcRxEvent.fills : HdlcRxEvent → Prop
  | .chip _ => True
  | _ => False

def HdlcRxState.chip (s : HdlcRxState) (reception : Reception) : HdlcRxState where
  info := receive s.info reception
  completed := s.completed ++ reception.completes s.info

/-- Steps of the chip, receive DMA interrupts and runs of `r56_bh_receive`, in any order. -/
def HdlcRxStep (crc : U16) (returnEx : Bool) (s : HdlcRxState) (event : HdlcRxEvent) (t : HdlcRxState) : Prop :=
  match event with
  | .chip reception => reception.possible s.info ∧ reception.endsFrame crc returnEx s.info ∧ t = s.chip reception
  | .interrupt report =>
    receiveDmaOnly (s.info.reporting report) ∧ t = { s with info := r56Interrupt (s.info.reporting report) }
  | .bhReceive => ∃ info, r56BhReceive s.info = some info ∧ t = { s with info := info }

/-- The frames in the ring are the completed ones that have not been handed on. -/
def HdlcRxSound (crc : U16) (returnEx : Bool) (already : List (List U8)) (s : HdlcRxState) : Prop :=
  ∃ frames, HoldsFrames crc returnEx s.info frames ∧
    already ++ s.completed.map (returned crc returnEx) =
      s.info.passed ++ frames.map fun f => returned crc returnEx f.2

/-- A run of `r56_bh_receive` has just ended: everything completed is handed on, and the driver goes on where the
chip begins, or has begun, the next frame. -/
def HdlcRxDrained (crc : U16) (returnEx : Bool) (already : List (List U8)) (s : HdlcRxState) : Prop :=
  s.info.passed = already ++ s.completed.map (returned crc returnEx) ∧ s.info.currentRxBuffer = s.info.usc.rxDma.start

section

variable {crc : U16} {returnEx : Bool} {already : List (List U8)} {s t : HdlcRxState}

/-- A run of `r56_bh_receive` returns, and hands on what has been completed. -/
theorem HdlcRxSound.bhReceive (documented : documentedCrc crc) (sound : HdlcRxSound crc returnEx already s) :
    ∃ after, r56BhReceive s.info = some after ∧
      HdlcRxSound crc returnEx already { s with info := after } ∧
      HdlcRxDrained crc returnEx already { s with info := after } := by
  obtain ⟨frames, held, whole⟩ := sound
  obtain ⟨after, returns, empty, passed⟩ := held.bhReceive documented
  have all : after.passed = already ++ s.completed.map (returned crc returnEx) := by rw [passed, whole]
  obtain ⟨filling, free, bytes, layout⟩ := empty.layout
  have start := empty.start
  rw [List.flatMap_nil, List.length_nil, R56Struct.rxCell, cell_zero layout.first] at start
  refine ⟨after, returns, ⟨[], empty, ?_⟩, all, start.symm⟩
  rw [List.map_nil, List.append_nil]
  exact all.symm

theorem HdlcRxSound.step {event : HdlcRxEvent} (documented : documentedCrc crc)
    (sound : HdlcRxSound crc returnEx already s) (step : HdlcRxStep crc returnEx s event t) :
    HdlcRxSound crc returnEx already t := by
  cases event with
  | chip reception =>
    obtain ⟨possible, well, rfl⟩ := step
    obtain ⟨frames, held, whole⟩ := sound
    obtain ⟨frames', next_held, ends⟩ := held.chip possible well
    refine ⟨frames', next_held, ?_⟩
    have blocks := congrArg (List.map (returned crc returnEx)) ends
    rw [List.map_map, List.map_append, List.map_map] at blocks
    show already ++ (s.completed ++ reception.completes s.info).map (returned crc returnEx) =
      s.info.passed ++ frames'.map (returned crc returnEx ∘ Prod.snd)
    rw [blocks, List.map_append, ← List.append_assoc, ← List.append_assoc, whole]
    rfl
  | interrupt report =>
    obtain ⟨only, rfl⟩ := step
    obtain ⟨frames, held, whole⟩ := sound
    have frame : (r56Interrupt (s.info.reporting report)).exceptNotes = s.info.exceptNotes := r56Interrupt_notes only
    refine ⟨frames, held.of_frame frame, ?_⟩
    dsimp only
    rw [passed_of_frame frame]
    exact whole
  | bhReceive =>
    obtain ⟨info, returns, rfl⟩ := step
    obtain ⟨after, same, next_sound, _⟩ := sound.bhReceive documented
    obtain rfl := Option.some.inj (same.symm.trans returns)
    exact next_sound

/-- That is so after a run of `r56_bh_receive`. -/
theorem HdlcRxSound.drained (documented : documentedCrc crc) (sound : HdlcRxSound crc returnEx already s)
    (step : HdlcRxStep crc returnEx s .bhReceive t) : HdlcRxDrained crc returnEx already t := by
  obtain ⟨info, returns, rfl⟩ := step
  obtain ⟨after, same, _, drained⟩ := sound.bhReceive documented
  obtain rfl := Option.some.inj (same.symm.trans returns)
  exact drained

/-- It stays so until the chip goes on. -/
theorem HdlcRxDrained.later (documented : documentedCrc crc) {r : List (HdlcRxEvent × HdlcRxState)}
    (drained : HdlcRxDrained crc returnEx already s) (sound : HdlcRxSound crc returnEx already s)
    (run : Run (HdlcRxStep crc returnEx) s r) (quiet : ∀ x ∈ r, ¬x.1.fills) :
    HdlcRxDrained crc returnEx already (last s r) := by
  induction r generalizing s with
  | nil => exact drained
  | cons head rest ih =>
    obtain ⟨event, t⟩ := head
    obtain ⟨here, later⟩ := run
    have still : HdlcRxDrained crc returnEx already t := by
      cases event with
      | chip reception => exact absurd trivial (quiet _ List.mem_cons_self)
      | interrupt report =>
        obtain ⟨only, rfl⟩ := here
        have frame : (r56Interrupt (s.info.reporting report)).exceptNotes = s.info.exceptNotes :=
          r56Interrupt_notes only
        have current : (r56Interrupt (s.info.reporting report)).currentRxBuffer = s.info.currentRxBuffer :=
          congrArg (·.currentRxBuffer) frame
        have dma : (r56Interrupt (s.info.reporting report)).usc.rxDma = s.info.usc.rxDma :=
          congrArg (·.usc.rxDma) frame
        refine ⟨(passed_of_frame frame).trans drained.1, ?_⟩
        dsimp only
        rw [current, dma]
        exact drained.2
      | bhReceive => exact sound.drained documented here
    exact ih still (sound.step documented here) later fun x member => quiet x (List.mem_cons_of_mem _ member)

theorem EmptyRing.hdlcSound {info : R56Struct} (empty : EmptyRing info) (hdlc : info.params.mode = r56ModeHdlc)
    (crcType : info.params.crcType = crcTypeOf crc returnEx)
    (calm : info.rxOverflow = false ∧ info.rxRccUnderrun = false) :
    HdlcRxSound crc returnEx info.passed { info := info } := by
  refine ⟨[], ⟨hdlc, crcType, calm, ⟨_, _, _, empty.layout⟩, ?_, ?_⟩, rfl⟩
  · exact fun f member => absurd member List.not_mem_nil
  · rw [empty.dma, List.flatMap_nil, List.length_nil, R56Struct.rxCell, cell_zero empty.first]
    rfl

end

/-- However the chip, the interrupts and the driver take turns, what is handed on is at any time a prefix of the
frames completed, and all of them from a run of `r56_bh_receive` to the next step of the chip. -/
theorem hdlc_received_in_order {crc : U16} {returnEx : Bool} {info : R56Struct} {p : List (HdlcRxEvent × HdlcRxState)}
    (documented : documentedCrc crc) (hdlc : info.params.mode = r56ModeHdlc)
    (crcType : info.params.crcType = crcTypeOf crc returnEx)
    (calm : info.rxOverflow = false ∧ info.rxRccUnderrun = false)
    (empty : EmptyRing info) (run : Run (HdlcRxStep crc returnEx) { info := info } p) :
    let s := last { info := info } p
    s.info.passed <+: info.passed ++ s.completed.map (returned crc returnEx) ∧ (r56BhReceive s.info).isSome ∧
      ∀ q t r, p = q ++ (.bhReceive, t) :: r → (∀ x ∈ r, ¬x.1.fills) → HdlcRxDrained crc returnEx info.passed s := by
  intro s
  have start := empty.hdlcSound hdlc crcType calm
  have kept : ∀ s event t, HdlcRxSound crc returnEx info.passed s → HdlcRxStep crc returnEx s event t →
      HdlcRxSound crc returnEx info.passed t := fun _ _ _ sound step => sound.step documented step
  have sound := run.last_invariant kept start
  refine ⟨?_, ?_, fun q t r split quiet => ?_⟩
  · obtain ⟨frames, _, whole⟩ := sound
    exact ⟨_, whole.symm⟩
  · obtain ⟨after, returns, _⟩ := sound.bhReceive documented
    exact Option.isSome_of_mem returns
  · subst split
    obtain ⟨before, here, later⟩ := run_append.mp run
    have drained := (before.last_invariant kept start).drained documented here
    show HdlcRxDrained crc returnEx info.passed (last _ _)
    rw [last_append, last_cons]
    exact drained.later documented ((before.last_invariant kept start).step documented here) later quiet

/-- A port that receives frames with a CRC of two bytes in a ring of two entries. -/
def hdlcPort : R56Struct := { twoEntries with maxFrameSize := 8192 }

def HdlcRxState.chips (s : HdlcRxState) (steps : List Reception) : List (HdlcRxEvent × HdlcRxState) :=
  match steps with
  | [] => []
  | step :: rest => (.chip step, s.chip step) :: (s.chip step).chips rest

/-- A frame of four bytes is received and handed on. The chip can then receive another in the second entry and the
first. -/
theorem hdlcPort_received :
    ∃ p : List (HdlcRxEvent × HdlcRxState), Run (HdlcRxStep hdlcCrc16Ccitt false) { info := hdlcPort } p ∧
      let s := last { info := hdlcPort } p
      s.completed = [[1, 2, 3, 4]] ∧ s.info.rxEnabled = true ∧ s.info.usc.rxDma.pos = 1 ∧
        s.info.usc.rxDma.inUse = false ∧ s.info.usc.rxDma.frame = [] ∧ next s.info.rxBufferCount 1 = 0 ∧
        (s.info.rxBufferList 1).count ≠ 0 ∧ (s.info.rxBufferList 0).count ≠ 0 ∧ s.info.maxFrameSize = 8192 := by
  let s : HdlcRxState := { info := hdlcPort }
  let first := s.chips [.use, .store [1, 2, 3, 4], .finish bit4]
  let report : UscReport := { status := fun _ => 0 }
  let reported : HdlcRxState := { last s first with info := r56Interrupt ((last s first).info.reporting report) }
  have before : Run (HdlcRxStep hdlcCrc16Ccitt false) s (first ++ [(.interrupt report, reported)]) :=
    ⟨⟨by decide +kernel, trivial, rfl⟩, ⟨by decide +kernel, trivial, rfl⟩, ⟨by decide +kernel, by decide +kernel, rfl⟩,
      ⟨by decide +kernel, rfl⟩, trivial⟩
  have completed : reported.completed = [[1, 2, 3, 4]] := by decide +kernel
  obtain ⟨info, returns⟩ := Option.isSome_iff_exists.mp (show (r56BhReceive reported.info).isSome by decide +kernel)
  have left : ∀ info ∈ r56BhReceive reported.info, info.rxEnabled = true ∧ info.usc.rxDma.pos = 1 ∧
      info.usc.rxDma.inUse = false ∧ info.usc.rxDma.frame = [] ∧ next info.rxBufferCount 1 = 0 ∧
      (info.rxBufferList 1).count ≠ 0 ∧ (info.rxBufferList 0).count ≠ 0 ∧ info.maxFrameSize = 8192 := by decide +kernel
  have step : HdlcRxStep hdlcCrc16Ccitt false reported .bhReceive { reported with info := info } := ⟨info, returns, rfl⟩
  have run : Run (HdlcRxStep hdlcCrc16Ccitt false) s
      (first ++ [(.interrupt report, reported)] ++ [(.bhReceive, { reported with info := info })]) :=
    run_append.mpr ⟨before, step, trivial⟩
  exact ⟨_, run, completed, left info returns⟩

/-- That frame is followed by one of a page and three bytes; both are handed on without their last two bytes. -/
theorem hdlc_received_in_order_two :
    ∃ p : List (HdlcRxEvent × HdlcRxState), Run (HdlcRxStep hdlcCrc16Ccitt false) { info := hdlcPort } p ∧
      (last { info := hdlcPort } p).info.passed = [[1, 2], List.replicate dmaBufferSize 7 ++ [8]] := by
  have full : (List.replicate dmaBufferSize (7 : U8)).length = dmaBufferSize := List.length_replicate
  generalize List.replicate dmaBufferSize (7 : U8) = page at full
  obtain ⟨p, run, completed, on, pos, idle, frame, follows, free, room, most⟩ := hdlcPort_received
  generalize taken : last { info := hdlcPort } p = s at completed on pos idle frame follows free room most
  have length : (page ++ [8, 9, 10]).length = dmaBufferSize + 3 := by
    rw [List.length_append, full]
    rfl
  have size : returnSize hdlcCrc16Ccitt false (page ++ [8, 9, 10]) = dmaBufferSize + 1 := by
    unfold returnSize
    rw [if_neg Bool.false_ne_true, length]
    rfl
  have handed : returned hdlcCrc16Ccitt false (page ++ [8, 9, 10]) = page ++ [8] := by
    unfold returned
    rw [size, if_neg Bool.false_ne_true, List.append_nil, ← full, List.take_append]
    simp
  have good : Returnable hdlcCrc16Ccitt false s.info.maxFrameSize (page ++ [8, 9, 10]) := by
    refine ⟨?_, ?_, ?_⟩
    · rw [size]
      decide
    · rw [handed, most, List.length_append, full]
      decide
    · rw [length]
      decide
  let second := s.chips [.use, .store page, .move, .use, .store [8, 9, 10], .finish bit4]
  have whole : (last s second).completed = [[1, 2, 3, 4], page ++ [8, 9, 10]] := by
    show s.completed ++ [] ++ [] ++ [] ++ [] ++ [] ++ [s.info.usc.rxDma.frame ++ page ++ [8, 9, 10]] = _
    rw [completed, frame]
    rfl
  have later : Run (HdlcRxStep hdlcCrc16Ccitt false) s second := by
    obtain ⟨use, store, move, reuse, restore, finish, ended, same⟩ :=
      receive_page full (show [8, 9, 10].length ≤ dmaBufferSize by decide) on pos idle frame follows (by decide) free room
    rw [← ended, ← same] at good
    exact ⟨⟨use, trivial, rfl⟩, ⟨store, trivial, rfl⟩, ⟨move, trivial, rfl⟩, ⟨reuse, trivial, rfl⟩,
      ⟨restore, trivial, rfl⟩, ⟨finish, ⟨by decide, good⟩, rfl⟩, trivial⟩
  have all {q : List (HdlcRxEvent × HdlcRxState)}
      (run : Run (HdlcRxStep hdlcCrc16Ccitt false) { info := hdlcPort } q) :=
    hdlc_received_in_order (.inr (.inl rfl)) rfl rfl ⟨rfl, rfl⟩ (.fresh (by decide) rfl rfl) run
  rw [← taken] at later
  have run := run_append.mpr ⟨run, later⟩
  have received : (last { info := hdlcPort } (p ++ second)).completed = [[1, 2, 3, 4], page ++ [8, 9, 10]] := by
    rw [last_append, taken, whole]
  generalize p ++ second = p at run received
  obtain ⟨after, ends⟩ := Option.isSome_iff_exists.mp (all run).2.1
  have step : HdlcRxStep hdlcCrc16Ccitt false (last { info := hdlcPort } p) .bhReceive
      { last { info := hdlcPort } p with info := after } := ⟨after, ends, rfl⟩
  have steps : Run (HdlcRxStep hdlcCrc16Ccitt false) { info := hdlcPort }
      (p ++ [(.bhReceive, { last { info := hdlcPort } p with info := after })]) := run_append.mpr ⟨run, step, trivial⟩
  refine ⟨p ++ [(.bhReceive, { last { info := hdlcPort } p with info := after })], steps, ?_⟩
  have drained := ((all steps).2.2 p _ [] rfl fun _ member => absurd member List.not_mem_nil).1
  rw [drained, last_append, last_cons, last_nil]
  show [] ++ (last { info := hdlcPort } p).completed.map _ = _
  rw [received, List.map_cons, List.map_cons, handed]
  rfl

end Route56
