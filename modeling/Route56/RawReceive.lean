import Route56.RxChip
import Route56.Lib.Transition

namespace Route56

open CircularBuffer Transition

theorem deliverRawFrame_flatten (info : R56Struct) (index : Nat) :
    (deliverRawFrame info index).history.ldisc.flatten =
      info.history.ldisc.flatten ++
        Memory.read (info.rxBufferList index).data 0 (rawFrameSize (info.rxBufferList index)) := by
  have counted (status : U16) : (countBadFrame info status).history = info.history := by
    unfold countBadFrame
    split
    · rfl
    · rfl
  unfold deliverRawFrame
  dsimp only
  split
  · rename_i none
    rw [none, Memory.read_zero, List.append_nil, counted]
  · show ((countBadFrame info _).history.ldisc ++ [_]).flatten = _
    rw [counted, List.flatten_append, List.flatten_singleton]

theorem RxLayout.of_frame {s t : R56Struct} {before filling free : List DmaBufferEntry} {taken : Nat} {bytes : List U8}
    (layout : RxLayout s before filling free taken bytes) (frame : t.exceptDelivery = s.exceptDelivery) :
    RxLayout t before filling free taken bytes := by
  have list : t.rxBufferList = s.rxBufferList := congrArg (·.rxBufferList) frame
  have count : t.rxBufferCount = s.rxBufferCount := congrArg (·.rxBufferCount) frame
  have current : t.currentRxBuffer = s.currentRxBuffer := congrArg (·.currentRxBuffer) frame
  have usc : t.usc = s.usc := congrArg (·.usc) frame
  obtain ⟨first, view, useds, frees, fills, pos⟩ := layout
  refine ⟨?_, ?_, useds, frees, ?_, ?_⟩
  · rw [current, count]
    exact first
  · unfold R56Struct.rxView
    rw [list, count, current]
    exact view
  · rw [usc]
    exact fills
  · unfold R56Struct.rxCell
    rw [usc, count, current]
    exact pos

section

variable {info : R56Struct} {e : DmaBufferEntry} {rest : List DmaBufferEntry}

theorem rxView_head (first : info.currentRxBuffer < info.rxBufferCount) (split : info.rxView = e :: rest) :
    info.rxBufferList info.currentRxBuffer = e := by
  have entry := @cell_of_view _ info.rxBufferList info.rxBufferCount info.currentRxBuffer [] rest e split
  rwa [List.length_nil, cell_zero first] at entry

/-- The test in terms of the first two entries. -/
theorem rawFrameReady_iff {second : DmaBufferEntry} (first : info.currentRxBuffer < info.rxBufferCount)
    (split : info.rxView = e :: second :: rest) :
    rawFrameReady info info.currentRxBuffer ↔ e.ends ∨ e.count = 0 ∧ second.count = 0 := by
  have next_entry := @cell_of_view _ info.rxBufferList info.rxBufferCount info.currentRxBuffer [e] rest second split
  rw [List.length_singleton, ← next_eq_cell first] at next_entry
  unfold rawFrameReady
  rw [next_entry, rxView_head first split]
  rfl

theorem r56GetRawRxFrame_quiet (calm : info.rxOverflow = false) (waits : ¬rawFrameReady info info.currentRxBuffer) :
    r56GetRawRxFrame info = (info, false) := by
  have kept : restartOnOverflow info info.currentRxBuffer = info := by
    unfold restartOnOverflow
    rw [calm, Bool.and_false, if_neg Bool.false_ne_true]
  unfold r56GetRawRxFrame
  dsimp only
  rw [if_neg waits, kept]

/-- A call that finds a complete buffer delivers it and frees its entry. -/
theorem r56GetRawRxFrame_ready (calm : info.rxOverflow = false) (first : info.currentRxBuffer < info.rxBufferCount)
    (ready : rawFrameReady info info.currentRxBuffer) :
    let delivered := deliverRawFrame info info.currentRxBuffer
    r56GetRawRxFrame info = (r56FreeRxFrameBuffers delivered delivered.currentRxBuffer (delivered.rxCell 0), true) := by
  intro delivered
  have frame := deliverRawFrame_frame info info.currentRxBuffer
  have current : delivered.currentRxBuffer = info.currentRxBuffer := congrArg (·.currentRxBuffer) frame
  have count : delivered.rxBufferCount = info.rxBufferCount := congrArg (·.rxBufferCount) frame
  have overflow : delivered.rxOverflow = info.rxOverflow := congrArg (·.rxOverflow) frame
  have cell : delivered.rxCell 0 = info.currentRxBuffer := by
    unfold R56Struct.rxCell
    rw [current, count, cell_zero first]
  have kept : restartOnOverflow (r56FreeRxFrameBuffers delivered info.currentRxBuffer info.currentRxBuffer)
      info.currentRxBuffer = r56FreeRxFrameBuffers delivered info.currentRxBuffer info.currentRxBuffer := by
    unfold restartOnOverflow
    have calm : (r56FreeRxFrameBuffers delivered info.currentRxBuffer info.currentRxBuffer).rxOverflow = false :=
      overflow.trans calm
    rw [calm, Bool.and_false, if_neg Bool.false_ne_true]
  unfold r56GetRawRxFrame
  dsimp only
  rw [if_pos ready, kept, cell, current]

end

/-- The entry is as `r56_free_rx_frame_buffers` leaves an entry. -/
def DmaBufferEntry.isReset (e : DmaBufferEntry) : Prop := e.count = 4096 ∧ e.status = 0

instance (e : DmaBufferEntry) : Decidable e.isReset := inferInstanceAs (Decidable (_ ∧ _))

/-- The entries that are free in `after` and were not before. -/
def entriesFreed (info after : R56Struct) : List Nat :=
  (List.range info.rxBufferCount).filter fun i => ¬(info.rxBufferList i).isReset ∧ (after.rxBufferList i).isReset

theorem entriesFreed_self (info : R56Struct) : entriesFreed info info = [] :=
  List.filter_eq_nil_iff.mpr fun _ _ both => (of_decide_eq_true both).1 (of_decide_eq_true both).2

theorem entriesFreed_update {info after : R56Struct} {i : Nat} {e : DmaBufferEntry} {lp64 : Bool}
    (inside : i < info.rxBufferCount) (used : ¬(info.rxBufferList i).isReset)
    (list : after.rxBufferList = Function.update info.rxBufferList i (e.reset lp64)) : entriesFreed info after = [i] := by
  have only : ∀ j, (decide (¬(info.rxBufferList j).isReset ∧ (after.rxBufferList j).isReset)) = decide (j = i) := by
    intro j
    rw [decide_eq_decide, list]
    by_cases here : j = i
    · subst here
      rw [Function.update_self]
      exact iff_of_true ⟨used, rfl, rfl⟩ rfl
    · rw [Function.update_of_ne here]
      exact iff_of_false (fun both => both.1 both.2) here
  unfold entriesFreed
  rw [List.filter_congr fun j _ => only j, List.filter_eq, List.count_eq_one_of_mem List.nodup_range
    (List.mem_range.mpr inside), List.replicate_one]

/-- The driver, the entries freed so far and, once it has ended, what the chip has received. -/
structure RawRxState where
  info : R56Struct
  freed : List Nat := []
  received : Option (List U8) := none

inductive RawRxEvent
  | chip (reception : Reception)
  | get

/-- A reception ends without an error, in an entry that holds some of it. -/
def Reception.endsWell (info : R56Struct) : Reception → Prop
  | .finish status => 0 < info.usc.rxDma.fill ∧ status &&& rxstatusError = 0
  | _ => True

instance (info : R56Struct) : (reception : Reception) → Decidable (reception.endsWell info)
  | .use => inferInstanceAs (Decidable True)
  | .store _ => inferInstanceAs (Decidable True)
  | .move => inferInstanceAs (Decidable True)
  | .finish _ => inferInstanceAs (Decidable (_ ∧ _))

def RawRxState.chip (s : RawRxState) (reception : Reception) : RawRxState where
  info := receive s.info reception
  freed := s.freed
  received :=
    match reception with
    | .finish _ => some s.info.usc.rxDma.frame
    | _ => none

def RawRxState.got (s : RawRxState) : RawRxState where
  info := (r56GetRawRxFrame s.info).1
  freed := s.freed ++ entriesFreed s.info (r56GetRawRxFrame s.info).1
  received := s.received

/-- One reception, and calls of `r56_get_raw_rx_frame` at any time. -/
def RawRxStep (s : RawRxState) (event : RawRxEvent) (t : RawRxState) : Prop :=
  match event with
  | .chip reception => s.received = none ∧ reception.possible s.info ∧ reception.endsWell s.info ∧ t = s.chip reception
  | .get => t = s.got

/-- The size the driver computes for the last block of a reception. -/
def rawLastSize (length : Nat) : Nat :=
  let framesize := if length < rclrValue then length else dmaBufferSize
  if framesize > dmaBufferSize then framesize % dmaBufferSize else framesize

theorem rawFrameSize_open {e : DmaBufferEntry} (opened : e.open) : rawFrameSize e = dmaBufferSize := by
  have status := opened.1
  have well : ¬(0 : U16) &&& rxstatusError ≠ 0 := by decide
  have zero : ¬(0 : U16) ≠ 0 := by decide
  unfold rawFrameSize
  dsimp only
  rw [status, if_neg well, if_neg zero, if_neg (Nat.lt_irrefl _)]

theorem rawFrameSize_last {e : DmaBufferEntry} {length : Nat} (ends : e.ends) (well : e.status &&& rxstatusError = 0)
    (rcc : e.rcc = BitVec.ofNat 16 (rclrValue - length)) : rawFrameSize e = rawLastSize length := by
  have residual : (BitVec.ofNat 16 (rclrValue - length)).toNat = rclrValue - length := by
    rw [BitVec.toNat_ofNat]
    exact Nat.mod_eq_of_lt (Nat.lt_of_le_of_lt (Nat.sub_le _ _) (by decide))
  have counted : e.rcc ≠ 0 ↔ length < rclrValue := by
    rw [← BitVec.toNat_inj.ne, rcc, residual]
    show rclrValue - length ≠ 0 ↔ _
    omega
  unfold rawFrameSize rawLastSize
  rw [if_neg (not_not.mpr well), if_pos (show e.status ≠ 0 from ends)]
  by_cases short : length < rclrValue
  · rw [if_pos (counted.mpr short), if_pos short, rcc, residual, Nat.sub_sub_self (Nat.le_of_lt short)]
  · rw [if_neg fun some => short (counted.mp some), if_neg short]

theorem rawLastSize_le (length : Nat) : rawLastSize length ≤ dmaBufferSize := by
  have positive : 0 < dmaBufferSize := by decide
  unfold rawLastSize
  dsimp only
  generalize (if length < rclrValue then length else dmaBufferSize) = framesize
  split
  · exact Nat.le_of_lt (Nat.mod_lt _ positive)
  · rename_i small
    exact Nat.le_of_not_lt small

/-- The first page of what is stored. -/
theorem first_page {e : DmaBufferEntry} {rest : List DmaBufferEntry} {bytes : List U8}
    (stored : (pages (e :: rest)).take bytes.length = bytes) (enough : dmaBufferSize ≤ bytes.length) :
    bytes.take dmaBufferSize = e.page ∧
      (pages rest).take (bytes.drop dmaBufferSize).length = bytes.drop dmaBufferSize := by
  have whole : e.page.take bytes.length = e.page := List.take_of_length_le (by rw [e.length_page]; exact enough)
  rw [pages_cons, List.take_append, whole, e.length_page] at stored
  constructor
  · have taken := congrArg (List.take dmaBufferSize) stored
    rw [List.take_append_of_le_length (Nat.le_of_eq e.length_page.symm),
      List.take_of_length_le (Nat.le_of_eq e.length_page)] at taken
    exact taken.symm
  · have dropped := congrArg (List.drop dmaBufferSize) stored
    rw [List.drop_append_of_le_length (Nat.le_of_eq e.length_page.symm),
      List.drop_eq_nil_of_le (Nat.le_of_eq e.length_page), List.nil_append] at dropped
    rw [List.length_drop]
    exact dropped

/-- The entries freed are those at the end of the ring, as far as the chip has not taken them again. -/
def freedReset (free : List DmaBufferEntry) (freed : List Nat) : Prop :=
  ∀ x ∈ free.drop (free.length - freed.length), x.isReset

theorem freedReset.use {e : DmaBufferEntry} {rest : List DmaBufferEntry} {freed : List Nat}
    (resets : freedReset (e :: rest) freed) : freedReset rest freed := by
  intro x member
  refine resets x ?_
  by_cases many : rest.length < freed.length
  · rw [Nat.sub_eq_zero_of_le (Nat.le_of_lt many), List.drop_zero] at member
    rw [List.length_cons, Nat.sub_eq_zero_of_le many, List.drop_zero]
    exact List.mem_cons_of_mem _ member
  · rw [List.length_cons, Nat.succ_sub (Nat.le_of_not_lt many), List.drop_succ_cons]
    exact member

theorem freedReset.free {free : List DmaBufferEntry} {freed : List Nat} (resets : freedReset free freed)
    (e : DmaBufferEntry) (lp64 : Bool) (i : Nat) : freedReset (free ++ [e.reset lp64]) (freed ++ [i]) := by
  intro x member
  rw [List.length_append, List.length_append, List.length_singleton, List.length_singleton, Nat.add_sub_add_right,
    List.drop_append_of_le_length (Nat.sub_le _ _)] at member
  rcases List.mem_append.mp member with earlier | here
  · exact resets x earlier
  · rw [List.mem_singleton.mp here]
    exact ⟨rfl, rfl⟩

/-- The reception goes on: what has been delivered is the pages freed. -/
structure RawRxFilling (s : RawRxState) (already : List U8) : Prop where
  layout : ∃ filling free bytes, RxLayout s.info [] filling free (s.freed.length * dmaBufferSize) bytes ∧
    freedReset free s.freed
  delivered : s.info.history.ldisc.flatten =
    already ++ s.info.usc.rxDma.frame.take (s.freed.length * dmaBufferSize)

/-- The entries `front` and `e` hold the last bytes of a reception, those that have not been delivered. -/
structure HoldsRest (s : RawRxState) (received : List U8) (front : List DmaBufferEntry) (e : DmaBufferEntry)
    (free : List DmaBufferEntry) (bytes : List U8) : Prop where
  layout : RxLayout s.info (front ++ [e]) [] free 0 []
  resets : freedReset free s.freed
  holds : HoldsFrame (front ++ [e]) (s.freed.length * dmaBufferSize) bytes
  well : e.status &&& rxstatusError = 0
  some : front.length * dmaBufferSize < bytes.length
  rest : received.drop (s.freed.length * dmaBufferSize) = bytes
  length : received.length = s.freed.length * dmaBufferSize + bytes.length

/-- The reception has ended, and part of it is in the ring. -/
structure RawRxHeld (s : RawRxState) (already received : List U8) : Prop where
  rest : ∃ front e free bytes, HoldsRest s received front e free bytes
  delivered : s.info.history.ldisc.flatten = already ++ received.take (s.freed.length * dmaBufferSize)

/-- All entries of the reception are freed. Its last block was taken from `page`. -/
structure RawRxDone (s : RawRxState) (already received : List U8) : Prop where
  layout : ∃ free, RxLayout s.info [] [] free 0 [] ∧ freedReset free s.freed
  last : ∃ page : List U8, ∃ k, s.freed.length = k + 1 ∧ page.length = dmaBufferSize ∧
    k * dmaBufferSize < received.length ∧ received.length ≤ (k + 1) * dmaBufferSize ∧
    page.take (received.length - k * dmaBufferSize) = received.drop (k * dmaBufferSize) ∧
    s.info.history.ldisc.flatten =
      already ++ received.take (k * dmaBufferSize) ++ page.take (rawLastSize received.length)

/-- How far the reception is. -/
def RawRxPhase (start : R56Struct) (s : RawRxState) : Option (List U8) → Prop
  | none => RawRxFilling s start.history.ldisc.flatten
  | some received => RawRxHeld s start.history.ldisc.flatten received ∨ RawRxDone s start.history.ldisc.flatten received

/-- What holds of a reception at any time. -/
structure RawRxSound (start : R56Struct) (s : RawRxState) : Prop where
  size : 2 ≤ s.info.rxBufferCount
  count : s.info.rxBufferCount = start.rxBufferCount
  calm : s.info.rxOverflow = false
  freed : s.freed = (List.range s.freed.length).map start.rxCell
  current : s.info.currentRxBuffer = start.rxCell s.freed.length
  phase : RawRxPhase start s s.received

section

variable {start : R56Struct} {s : RawRxState}

/-- A step of the chip keeps it. -/
theorem RawRxSound.chip {reception : Reception} (sound : RawRxSound start s) (goes : s.received = none)
    (possible : reception.possible s.info) (well : reception.endsWell s.info) : RawRxSound start (s.chip reception) := by
  obtain ⟨size, count, calm, freed, current, phase⟩ := sound
  rw [goes] at phase
  obtain ⟨⟨filling, free, bytes, layout, resets⟩, delivered⟩ := phase
  refine ⟨size, count, calm, freed, current, ?_⟩
  have length := layout.fills.frame
  cases reception with
  | use =>
    obtain ⟨e, rest, rfl, next_layout⟩ := layout.use possible
    exact ⟨⟨_, _, _, next_layout, resets.use⟩, delivered⟩
  | store new =>
    obtain ⟨filling', _, next_layout⟩ := layout.store possible
    refine ⟨⟨_, _, _, next_layout, resets⟩, ?_⟩
    show _ = _ ++ (s.info.usc.rxDma.frame ++ new).take _
    rw [List.take_append_of_le_length (by rw [length]; exact Nat.le_add_right _ _)]
    exact delivered
  | move => exact ⟨⟨_, _, _, layout.move possible, resets⟩, delivered⟩
  | finish status =>
    have used := layout.fills.used possible.1
    obtain ⟨front, e, rfl, holds, next_layout⟩ := layout.finish possible
    rw [List.length_append, List.length_singleton, Nat.add_sub_cancel] at used
    refine .inl ⟨⟨front, _, free, bytes, next_layout, resets, holds, well.2, ?_, layout.fills.rest, length⟩, delivered⟩
    rw [used.2.2]
    exact Nat.lt_add_of_pos_right well.1

theorem RawRxState.got_usc (calm : s.info.rxOverflow = false) (first : s.info.currentRxBuffer < s.info.rxBufferCount) :
    s.got.info.usc = s.info.usc := by
  show (r56GetRawRxFrame s.info).1.usc = _
  by_cases ready : rawFrameReady s.info s.info.currentRxBuffer
  · rw [r56GetRawRxFrame_ready calm first ready]
    exact congrArg (·.usc) (deliverRawFrame_frame s.info s.info.currentRxBuffer)
  · rw [r56GetRawRxFrame_quiet calm ready]

theorem RawRxState.got_quiet (calm : s.info.rxOverflow = false)
    (waits : ¬rawFrameReady s.info s.info.currentRxBuffer) : s.got = s := by
  unfold RawRxState.got
  rw [r56GetRawRxFrame_quiet calm waits, entriesFreed_self, List.append_nil]

/-- A call has delivered the block of the first entry, `e`, and freed the entry. -/
structure FrontFreed (s : RawRxState) (e : DmaBufferEntry) (delivered : R56Struct) : Prop where
  frame : delivered.exceptDelivery = s.info.exceptDelivery
  info : s.got.info = r56FreeRxFrameBuffers delivered delivered.currentRxBuffer (delivered.rxCell 0)
  freed : s.got.freed = s.freed ++ [s.info.currentRxBuffer]
  flat : s.got.info.history.ldisc.flatten = s.info.history.ldisc.flatten ++ Memory.read e.data 0 (rawFrameSize e)

theorem r56FreeRxFrameBuffers_front {info : R56Struct} (first : info.currentRxBuffer < info.rxBufferCount) :
    (r56FreeRxFrameBuffers info info.currentRxBuffer (info.rxCell 0)).rxBufferList =
      Function.update info.rxBufferList info.currentRxBuffer
        ((info.rxBufferList info.currentRxBuffer).reset info.build.lp64) := by
  obtain ⟨n, size⟩ : ∃ n, info.rxBufferCount = n + 1 := ⟨info.rxBufferCount - 1, by omega⟩
  unfold r56FreeRxFrameBuffers R56Struct.rxCell
  rw [cell_zero first, size, freeRxEntries, if_pos rfl]
  rfl

/-- What a call that finds a complete buffer does. -/
theorem FrontFreed.of_ready {e : DmaBufferEntry} {rest : List DmaBufferEntry} (calm : s.info.rxOverflow = false)
    (first : s.info.currentRxBuffer < s.info.rxBufferCount) (split : s.info.rxView = e :: rest) (used : e.count = 0)
    (ready : rawFrameReady s.info s.info.currentRxBuffer) : ∃ delivered, FrontFreed s e delivered := by
  have call := r56GetRawRxFrame_ready calm first ready
  have frame := deliverRawFrame_frame s.info s.info.currentRxBuffer
  have flat := deliverRawFrame_flatten s.info s.info.currentRxBuffer
  rw [rxView_head first split] at flat
  have list : (deliverRawFrame s.info s.info.currentRxBuffer).rxBufferList = s.info.rxBufferList :=
    congrArg (·.rxBufferList) frame
  have count : (deliverRawFrame s.info s.info.currentRxBuffer).rxBufferCount = s.info.rxBufferCount :=
    congrArg (·.rxBufferCount) frame
  have current : (deliverRawFrame s.info s.info.currentRxBuffer).currentRxBuffer = s.info.currentRxBuffer :=
    congrArg (·.currentRxBuffer) frame
  refine ⟨deliverRawFrame s.info s.info.currentRxBuffer, frame, congrArg Prod.fst call, ?_, ?_⟩
  · have updated := r56FreeRxFrameBuffers_front (show
      (deliverRawFrame s.info s.info.currentRxBuffer).currentRxBuffer < _ by rwa [current, count])
    have unused : ¬(s.info.rxBufferList s.info.currentRxBuffer).isReset := by
      rw [rxView_head first split]
      exact fun reset => absurd (used.symm.trans reset.1) (by decide)
    rw [list, current] at updated
    show s.freed ++ entriesFreed s.info (r56GetRawRxFrame s.info).1 = _
    rw [call]
    have freed := entriesFreed_update first unused (updated.trans rfl)
    dsimp only
    rw [current]
    exact congrArg (s.freed ++ ·) freed
  · rw [← flat]
    show (r56GetRawRxFrame s.info).1.history.ldisc.flatten = _
    rw [call]
    rfl

section

variable {e : DmaBufferEntry} {delivered : R56Struct}

theorem FrontFreed.length (gets : FrontFreed s e delivered) : s.got.freed.length = s.freed.length + 1 := by
  rw [gets.freed, List.length_append, List.length_singleton]

theorem FrontFreed.usc (gets : FrontFreed s e delivered) : s.got.info.usc = s.info.usc := by
  rw [gets.info]
  exact congrArg (·.usc) gets.frame

/-- The ring after the call. -/
theorem FrontFreed.layout {before filling free : List DmaBufferEntry} {taken taken' : Nat} {bytes bytes' : List U8}
    (gets : FrontFreed s e delivered) (back filling' : List DmaBufferEntry)
    (layout : RxLayout s.info before filling free taken bytes) (split : before ++ filling = e :: (back ++ filling'))
    (within : ∀ x ∈ back, x ∈ before) (fills : Filling s.info.usc.rxDma filling' taken' bytes')
    (left : before.length + s.info.usc.rxDma.left filling = 1 + (back.length + s.info.usc.rxDma.left filling')) :
    RxLayout s.got.info back filling' (free ++ [e.reset s.info.build.lp64]) taken' bytes' := by
  have usc : delivered.usc = s.info.usc := congrArg (·.usc) gets.frame
  have build : delivered.build = s.info.build := congrArg (·.build) gets.frame
  have next_layout := (layout.of_frame gets.frame).freed [] back filling' split within (usc ▸ fills)
    (by rw [usc, left, List.length_nil])
  rw [List.length_nil, ← gets.info, build] at next_layout
  exact next_layout

/-- Freeing the entry at the front keeps what holds at any time. -/
theorem FrontFreed.sound (gets : FrontFreed s e delivered) (sound : RawRxSound start s)
    (first : s.info.currentRxBuffer < s.info.rxBufferCount) (phase : RawRxPhase start s.got s.received) :
    RawRxSound start s.got := by
  have count : delivered.rxBufferCount = s.info.rxBufferCount := congrArg (·.rxBufferCount) gets.frame
  have current : delivered.currentRxBuffer = s.info.currentRxBuffer := congrArg (·.currentRxBuffer) gets.frame
  have overflow : delivered.rxOverflow = s.info.rxOverflow := congrArg (·.rxOverflow) gets.frame
  have inside : delivered.currentRxBuffer < delivered.rxBufferCount := by rwa [current, count]
  obtain ⟨e, rest, split⟩ : ∃ e rest, delivered.rxView = e :: rest := by
    refine List.exists_cons_of_length_pos ?_
    rw [R56Struct.rxView, length_view]
    exact Nat.zero_lt_of_lt inside
  have moved := (r56FreeRxFrameBuffers_view [] inside split).2
  refine ⟨?_, ?_, ?_, ?_, ?_, phase⟩
  · rw [gets.info]
    exact count ▸ sound.size
  · rw [gets.info]
    exact count.trans sound.count
  · rw [gets.info]
    exact overflow.trans sound.calm
  · rw [gets.length, gets.freed, List.range_succ, List.map_append, List.map_singleton, ← sound.freed, ← sound.current]
  · rw [gets.info, gets.length]
    refine moved.trans ?_
    show cell delivered.rxBufferCount delivered.currentRxBuffer 1 = cell _ _ _
    rw [count, current, sound.current, R56Struct.rxCell, sound.count, cell_cell]

end

/-- There is nothing to deliver in a ring that is empty. -/
theorem empty_waits {info : R56Struct} {free : List DmaBufferEntry} {taken : Nat} {bytes : List U8}
    (layout : RxLayout info [] [] free taken bytes) (size : 2 ≤ info.rxBufferCount) :
    ¬rawFrameReady info info.currentRxBuffer := by
  have view := layout.view
  rw [List.nil_append, List.nil_append] at view
  have length := congrArg List.length view
  rw [R56Struct.rxView, length_view] at length
  obtain ⟨e, second, rest, rfl⟩ : ∃ e second rest, free = e :: second :: rest := by
    rcases free with _ | ⟨e, _ | ⟨second, rest⟩⟩
    · simp at length; omega
    · simp at length; omega
    · exact ⟨e, second, rest, rfl⟩
  intro ready
  have unused := layout.frees e List.mem_cons_self
  rcases (rawFrameReady_iff layout.first view).mp ready with ends | counts
  · exact ends unused.1
  · exact unused.2 counts.1

/-- Nor is there in the first entry of a reception that goes on in it. -/
theorem filling_waits {info : R56Struct} {e : DmaBufferEntry} {free : List DmaBufferEntry} {taken : Nat} {bytes : List U8}
    (layout : RxLayout info [] [e] free taken bytes) (size : 2 ≤ info.rxBufferCount) :
    ¬rawFrameReady info info.currentRxBuffer := by
  have view := layout.view
  rw [List.nil_append] at view
  have length := congrArg List.length view
  rw [R56Struct.rxView, length_view, List.length_append, List.length_singleton] at length
  obtain ⟨second, rest, rfl⟩ : ∃ second rest, free = second :: rest :=
    List.exists_cons_of_length_pos (by omega)
  intro ready
  have opened := layout.fills.opens e List.mem_cons_self
  have unused := layout.frees second List.mem_cons_self
  rcases (rawFrameReady_iff layout.first view).mp ready with ends | counts
  · exact ends opened.1
  · exact unused.2 counts.2

/-- What is left of a reception that has ended is ready to be delivered. -/
theorem held_ready {info : R56Struct} {front free bytes : _} {e : DmaBufferEntry} {taken : Nat}
    (layout : RxLayout info (front ++ [e]) [] free 0 []) (holds : HoldsFrame (front ++ [e]) taken bytes) :
    rawFrameReady info info.currentRxBuffer := by
  have first := layout.first
  have view := layout.view
  obtain ⟨front', e', same, opens, ends, _⟩ := holds.ended
  obtain ⟨rfl, alone⟩ := List.append_inj' same rfl
  obtain rfl := List.singleton_inj.mp alone
  cases front with
  | nil =>
    refine .inl ?_
    rw [rxView_head first view]
    exact ends
  | cons x front =>
    obtain ⟨second, rest, following⟩ : ∃ second rest, front ++ [e] = second :: rest :=
      List.exists_cons_of_length_pos (by rw [List.length_append, List.length_singleton]; omega)
    have used : second.count = 0 := by
      refine layout.useds second (List.mem_cons_of_mem _ ?_)
      show second ∈ front ++ [e]
      rw [following]
      exact List.mem_cons_self
    have whole : info.rxView = x :: second :: (rest ++ free) := by
      rw [view, List.append_nil, List.cons_append, following]
      rfl
    exact (rawFrameReady_iff first whole).mpr (.inr ⟨(opens x List.mem_cons_self).2, used⟩)

section

variable {already received bytes : List U8} {e second : DmaBufferEntry} {rest front free : List DmaBufferEntry}
  {delivered : R56Struct}

/-- The first entry of those being filled is handed on while the chip is in another. -/
theorem Filling.pop {dma : RxDma} {taken : Nat} (fills : Filling dma (e :: second :: rest) (taken * dmaBufferSize) bytes) :
    bytes.take dmaBufferSize = e.page ∧
      Filling dma (second :: rest) ((taken + 1) * dmaBufferSize) (bytes.drop dmaBufferSize) := by
  have enough : dmaBufferSize ≤ bytes.length := by
    by_cases inUse : dma.inUse = true
    · have used := (fills.used inUse).2.2
      rw [List.length_cons, List.length_cons, Nat.add_sub_cancel, Nat.succ_mul] at used
      omega
    · have moved := fills.moved (Bool.eq_false_iff.mpr inUse)
      rw [List.length_cons, List.length_cons, Nat.succ_mul] at moved
      omega
  obtain ⟨page, stored⟩ := first_page fills.stored enough
  refine ⟨page, fun x member => fills.opens x (List.mem_cons_of_mem _ member), ?_, ?_, stored, fun inUse => ?_,
    fun idle => ?_⟩
  · rw [fills.frame, List.length_drop, Nat.succ_mul]
    omega
  · rw [Nat.succ_mul, ← List.drop_drop, fills.rest]
  · obtain ⟨filled, _, used⟩ := fills.used inUse
    refine ⟨filled, Nat.succ_pos _, ?_⟩
    rw [List.length_drop, used, List.length_cons, List.length_cons, Nat.add_sub_cancel, Nat.add_sub_cancel,
      Nat.succ_mul]
    omega
  · have moved := fills.moved idle
    rw [List.length_cons, Nat.succ_mul] at moved
    rw [List.length_drop, moved]
    omega

theorem FrontFreed.filling (gets : FrontFreed s e delivered)
    (layout : RxLayout s.info [] (e :: second :: rest) free (s.freed.length * dmaBufferSize) bytes)
    (resets : freedReset free s.freed)
    (passed : s.info.history.ldisc.flatten =
      already ++ s.info.usc.rxDma.frame.take (s.freed.length * dmaBufferSize)) : RawRxFilling s.got already := by
  have fills := layout.fills
  have opened := fills.opens e List.mem_cons_self
  obtain ⟨page, next_fills⟩ := fills.pop
  have next_layout := gets.layout [] (second :: rest) layout rfl (fun x member => absurd member List.not_mem_nil)
    next_fills (by
      rw [RxDma.left, RxDma.left, List.length_cons, List.length_nil]
      split
      · rw [List.length_cons]
        omega
      · omega)
  have next_resets := resets.free e s.info.build.lp64 s.info.currentRxBuffer
  rw [← gets.length] at next_layout
  rw [← gets.freed] at next_resets
  refine ⟨⟨_, _, _, next_layout, next_resets⟩, ?_⟩
  have block : Memory.read e.data 0 (rawFrameSize e) = e.page := by
    rw [rawFrameSize_open opened]
    rfl
  have taken : s.info.usc.rxDma.frame.take ((s.freed.length + 1) * dmaBufferSize) =
      s.info.usc.rxDma.frame.take (s.freed.length * dmaBufferSize) ++ e.page := by
    rw [Nat.add_one_mul, List.take_add, fills.rest, page]
  rw [gets.length, gets.usc, taken, ← List.append_assoc, ← passed, ← block]
  exact gets.flat

/-- A call finds what is left of a reception that has ended. -/
theorem HoldsRest.gets {x : DmaBufferEntry} {others : List DmaBufferEntry} (held : HoldsRest s received front e free bytes)
    (calm : s.info.rxOverflow = false) (begins : front ++ [e] = x :: others) : ∃ delivered, FrontFreed s x delivered := by
  have layout := held.layout
  have view := layout.view
  rw [List.append_nil, begins] at view
  refine FrontFreed.of_ready calm layout.first view (layout.useds x ?_) (held_ready layout held.holds)
  rw [begins]
  exact List.mem_cons_self

/-- The last entry of a reception that has ended is handed on. -/
theorem FrontFreed.last (gets : FrontFreed s e delivered) (held : HoldsRest s received [] e free bytes)
    (passed : s.info.history.ldisc.flatten = already ++ received.take (s.freed.length * dmaBufferSize)) :
    RawRxDone s.got already received := by
  obtain ⟨layout, resets, holds, well, some, rest, length⟩ := held
  obtain ⟨front', e', same, _, ends, rcc, _⟩ := holds.ended
  obtain ⟨rfl, alone⟩ := List.append_inj' same rfl
  obtain rfl := List.singleton_inj.mp alone
  have next_layout := gets.layout [] [] layout rfl (fun x member => absurd member List.not_mem_nil) layout.fills
    (by rw [List.nil_append, List.length_singleton, List.length_nil, Nat.zero_add])
  have next_resets := resets.free e s.info.build.lp64 s.info.currentRxBuffer
  rw [← gets.freed] at next_resets
  have room := holds.room
  rw [List.nil_append, List.length_singleton, Nat.one_mul] at room
  have stored := holds.stored
  rw [List.nil_append, pages_cons, List.take_append_of_le_length (by rw [e.length_page]; exact room)] at stored
  have left : received.length - s.freed.length * dmaBufferSize = bytes.length := by omega
  rw [← length] at rcc
  have block : Memory.read e.data 0 (rawFrameSize e) = e.page.take (rawLastSize received.length) := by
    rw [rawFrameSize_last ends well rcc, e.take_page (rawLastSize_le _)]
  have flat := gets.flat
  rw [block, passed] at flat
  rw [List.length_nil, Nat.zero_mul] at some
  refine ⟨⟨_, next_layout, next_resets⟩, e.page, s.freed.length, gets.length, e.length_page, by omega, ?_, ?_, flat⟩
  · rw [Nat.add_one_mul]
    omega
  · rw [left, stored, rest]

/-- An entry before the last is handed on. -/
theorem FrontFreed.next (gets : FrontFreed s e delivered) (held : HoldsRest s received (e :: front) second free bytes)
    (passed : s.info.history.ldisc.flatten = already ++ received.take (s.freed.length * dmaBufferSize)) :
    RawRxHeld s.got already received := by
  obtain ⟨layout, resets, holds, well, some, rest, length⟩ := held
  obtain ⟨front', e', same, opens, ends, rcc, _⟩ := holds.ended
  obtain ⟨rfl, alone⟩ := List.append_inj' same rfl
  obtain rfl := List.singleton_inj.mp alone
  have opened := opens e List.mem_cons_self
  have next_layout := gets.layout (front ++ [second]) [] layout
    (by rw [List.append_nil, List.append_nil]; rfl) (fun y member => List.mem_cons_of_mem _ member) layout.fills (by
      rw [List.cons_append, List.length_cons]
      omega)
  have next_resets := resets.free e s.info.build.lp64 s.info.currentRxBuffer
  rw [← gets.freed] at next_resets
  rw [List.length_cons, Nat.add_one_mul] at some
  obtain ⟨page, stored⟩ := first_page holds.stored (by omega)
  have room := holds.room
  rw [List.cons_append, List.length_cons, Nat.add_one_mul] at room
  have block : Memory.read e.data 0 (rawFrameSize e) = e.page := by
    rw [rawFrameSize_open opened]
    rfl
  have taken : received.take ((s.freed.length + 1) * dmaBufferSize) =
      received.take (s.freed.length * dmaBufferSize) ++ e.page := by
    rw [Nat.add_one_mul, List.take_add, rest, page]
  have shorter := List.length_drop (i := dmaBufferSize) (l := bytes)
  have total : (s.freed.length + 1) * dmaBufferSize + (bytes.drop dmaBufferSize).length =
      s.freed.length * dmaBufferSize + bytes.length := by
    rw [Nat.add_one_mul]
    omega
  refine ⟨⟨front, second, _, bytes.drop dmaBufferSize, next_layout, next_resets, ⟨⟨front, second, rfl,
    fun y member => opens y (List.mem_cons_of_mem _ member), ends, ?_, by omega⟩, by omega, stored⟩, well, by omega,
    ?_, ?_⟩, ?_⟩
  · rw [gets.length, total]
    exact rcc
  · rw [gets.length, Nat.add_one_mul, ← List.drop_drop, rest]
  · rw [gets.length, total]
    exact length
  · rw [gets.length, taken, ← List.append_assoc, ← passed, ← block]
    exact gets.flat

end

/-- A call of the driver keeps it. -/
theorem RawRxSound.got (sound : RawRxSound start s) : RawRxSound start s.got := by
  have still (waits : ¬rawFrameReady s.info s.info.currentRxBuffer) : RawRxSound start s.got := by
    rw [RawRxState.got_quiet sound.calm waits]
    exact sound
  have size := sound.size
  have phase := sound.phase
  cases goes : s.received with
  | none =>
    rw [goes] at phase
    obtain ⟨⟨filling, free, bytes, layout, resets⟩, passed⟩ := phase
    rcases filling with _ | ⟨e, _ | ⟨second, rest⟩⟩
    · exact still (empty_waits layout size)
    · exact still (filling_waits layout size)
    · have view := layout.view
      have opened := layout.fills.opens e List.mem_cons_self
      have following := layout.fills.opens second (List.mem_cons_of_mem _ List.mem_cons_self)
      have ready := (rawFrameReady_iff layout.first view).mpr (.inr ⟨opened.2, following.2⟩)
      obtain ⟨delivered, gets⟩ := FrontFreed.of_ready sound.calm layout.first view opened.2 ready
      refine gets.sound sound layout.first ?_
      rw [goes]
      exact gets.filling layout resets passed
  | some received =>
    rw [goes] at phase
    rcases phase with ⟨⟨front, e, free, bytes, held⟩, passed⟩ | done
    · cases front with
      | nil =>
        obtain ⟨delivered, gets⟩ := held.gets sound.calm rfl
        refine gets.sound sound held.layout.first ?_
        rw [goes]
        exact .inr (gets.last held passed)
      | cons x front =>
        obtain ⟨delivered, gets⟩ := held.gets sound.calm rfl
        refine gets.sound sound held.layout.first ?_
        rw [goes]
        exact .inl (gets.next held passed)
    · obtain ⟨free, layout, _⟩ := done.layout
      exact still (empty_waits layout size)

end

theorem RawRxSound.step {start : R56Struct} {s t : RawRxState} {event : RawRxEvent} (sound : RawRxSound start s)
    (step : RawRxStep s event t) : RawRxSound start t := by
  cases event with
  | chip reception =>
    obtain ⟨goes, possible, well, rfl⟩ := step
    exact sound.chip goes possible well
  | get =>
    cases step
    exact sound.got

/-- Nothing is in the ring, and the chip is to use the entry at `current_rx_buffer` next. -/
structure EmptyRing (info : R56Struct) : Prop where
  first : info.currentRxBuffer < info.rxBufferCount
  frees : ∀ x ∈ info.rxView, x.free
  dma : info.usc.rxDma = .init info.currentRxBuffer

/-- A ring is empty when it has just been set up. -/
theorem EmptyRing.fresh {info : R56Struct} (first : info.currentRxBuffer < info.rxBufferCount)
    (entries : info.rxBufferList = fun _ => { count := 4096 }) (dma : info.usc.rxDma = .init info.currentRxBuffer) :
    EmptyRing info := by
  refine ⟨first, fun x member => ?_, dma⟩
  obtain ⟨i, _, rfl⟩ := (mem_view_iff first).mp member
  rw [entries]
  exact ⟨rfl, (by decide : (4096 : U16) ≠ 0)⟩

theorem EmptyRing.layout {info : R56Struct} (empty : EmptyRing info) : RxLayout info [] [] info.rxView 0 [] := by
  obtain ⟨first, frees, dma⟩ := empty
  refine ⟨first, rfl, fun x member => absurd member List.not_mem_nil, frees, ?_, ?_⟩
  · rw [dma]
    exact ⟨fun x member => absurd member List.not_mem_nil, rfl, rfl, rfl, fun used => Bool.noConfusion used,
      fun _ => (Nat.zero_mul _).symm⟩
  · rw [dma]
    exact (cell_zero first).symm

/-- The blocks delivered are the reception, each of its buffers was freed once, and they are free. -/
def Reassembled (start : R56Struct) (s : RawRxState) (received : List U8) : Prop :=
  let buffers := (received.length + dmaBufferSize - 1) / dmaBufferSize
  s.info.history.ldisc.flatten = start.history.ldisc.flatten ++ received ∧
    s.freed = (List.range buffers).map start.rxCell ∧ s.freed.Nodup ∧
    ∀ k, k < buffers → (s.info.rxBufferList (start.rxCell k)).isReset

/-- The lengths of receptions the driver reassembles. -/
def rawExact (length : Nat) : Prop :=
  length ≤ dmaBufferSize ∨ length < rclrValue ∧ length % dmaBufferSize ≠ 0 ∨
    rclrValue ≤ length ∧ length % dmaBufferSize = 0

theorem rawLastSize_exact {length k : Nat} (some : k * dmaBufferSize < length) (room : length ≤ (k + 1) * dmaBufferSize) :
    rawLastSize length = length - k * dmaBufferSize ↔ rawExact length := by
  have size : dmaBufferSize = 4096 := rfl
  have value : rclrValue = 65535 := rfl
  unfold rawLastSize rawExact
  dsimp only
  rw [size] at some room ⊢
  rw [value]
  split
  · split
    · omega
    · omega
  · split
    · omega
    · omega

/-- The entries of the reception are free when the driver has done with it. -/
theorem RawRxDone.reset {start : R56Struct} {s : RawRxState} {already received : List U8}
    (done : RawRxDone s already received) (sound : RawRxSound start s) (o : Nat) (among : o < s.freed.length)
    (once : s.freed.length ≤ start.rxBufferCount) :
    (s.info.rxBufferList (start.rxCell o)).isReset := by
  obtain ⟨free, layout, resets⟩ := done.layout
  have whole := layout.view
  rw [List.nil_append, List.nil_append] at whole
  have length := congrArg List.length whole
  rw [R56Struct.rxView, length_view, sound.count] at length
  -- once round the ring from `current_rx_buffer`, the entries freed are the last
  have place : start.rxCell o = s.info.rxCell (free.length - s.freed.length + o) := by
    have round : s.freed.length + (start.rxBufferCount - s.freed.length + o) = o + start.rxBufferCount := by omega
    rw [R56Struct.rxCell, R56Struct.rxCell, sound.current, sound.count, R56Struct.rxCell, cell_cell, ← length, round,
      ← cell_cell, cell_length]
    exact (Nat.mod_mod _ _).symm
  have within : free.length - s.freed.length + o < free.length := by omega
  refine resets _ (List.mem_drop_iff_getElem.mpr ⟨o, by omega, ?_⟩)
  have entry := @getElem?_view _ s.info.rxBufferList s.info.rxBufferCount s.info.currentRxBuffer
    (free.length - s.freed.length + o) (by rw [sound.count]; omega)
  rw [place, R56Struct.rxCell]
  rw [show view s.info.rxBufferList s.info.rxBufferCount s.info.currentRxBuffer = free from whole,
    List.getElem?_eq_getElem within] at entry
  exact (Option.some.inj entry).symm ▸ rfl

/-- What the driver makes of a reception is the reception exactly when it has one of these lengths. -/
theorem RawRxDone.reassembled_iff {start : R56Struct} {s : RawRxState} {received : List U8} (sound : RawRxSound start s)
    (done : RawRxDone s start.history.ldisc.flatten received) (fits : received.length ≤ start.rxBufferCount * dmaBufferSize) :
    Reassembled start s received ↔ rawExact received.length := by
  obtain ⟨page, k, count, size, some, room, last, delivered⟩ := done.last
  have inside : k + 1 ≤ start.rxBufferCount := by
    have value : dmaBufferSize = 4096 := rfl
    rw [value] at some fits
    omega
  have whole : received = received.take (k * dmaBufferSize) ++ page.take (received.length - k * dmaBufferSize) := by
    rw [last, List.take_append_drop]
  have freed := sound.freed
  have buffers : (received.length + dmaBufferSize - 1) / dmaBufferSize = k + 1 := by
    have value : dmaBufferSize = 4096 := rfl
    rw [value] at some room ⊢
    omega
  have once : s.freed.Nodup := by
    rw [freed, count]
    refine List.nodup_range.map_on fun o ho p hp same => ?_
    have ho := List.mem_range.mp ho
    have hp := List.mem_range.mp hp
    exact (cell_inj (by omega) (by omega)).mp same
  rw [← rawLastSize_exact some room]
  constructor
  · rintro ⟨flat, _⟩
    rw [delivered, List.append_assoc] at flat
    have blocks := List.append_cancel_left flat
    have length := congrArg List.length blocks
    have small := rawLastSize_le received.length
    rw [List.length_append, List.length_take, List.length_take, size] at length
    omega
  · intro same
    refine ⟨?_, ?_, once, fun o among => done.reset sound o (by omega) (by omega)⟩
    · rw [delivered, same, List.append_assoc, ← whole]
    · rw [buffers, ← count]
      exact freed

theorem RawRxSound.drained {start : R56Struct} {s : RawRxState} {received : List U8} (sound : RawRxSound start s)
    (finished : s.received = some received) (drained : (r56GetRawRxFrame s.info).2 = false) :
    RawRxDone s start.history.ldisc.flatten received := by
  have phase := sound.phase
  rw [finished] at phase
  refine phase.resolve_left fun held => ?_
  obtain ⟨front, e, free, bytes, rest⟩ := held.rest
  have call := r56GetRawRxFrame_ready sound.calm rest.layout.first (held_ready rest.layout rest.holds)
  rw [call] at drained
  exact Bool.noConfusion drained

theorem EmptyRing.rawSound {info : R56Struct} (empty : EmptyRing info) (size : 2 ≤ info.rxBufferCount)
    (calm : info.rxOverflow = false) : RawRxSound info { info := info } := by
  refine ⟨size, rfl, calm, rfl, (cell_zero empty.first).symm, ⟨⟨[], info.rxView, [], ?_, ?_⟩, ?_⟩⟩
  · rw [List.length_nil, Nat.zero_mul]
    exact empty.layout
  · intro x member
    rw [List.length_nil, Nat.sub_zero, List.drop_length] at member
    exact absurd member List.not_mem_nil
  · rw [List.length_nil, Nat.zero_mul, List.take_zero, List.append_nil]

/-- Once a reception has ended, the driver's calls come to an end of it. -/
theorem RawRxSound.drains {start : R56Struct} {received : List U8} (m : Nat) :
    ∀ s, RawRxSound start s → s.received = some received → received.length ≤ (s.freed.length + m) * dmaBufferSize →
      ∃ p, Run RawRxStep s p ∧ (∀ x ∈ p, x.1 = .get) ∧ (last s p).received = some received ∧
        (r56GetRawRxFrame (last s p).info).2 = false := by
  induction m with
  | zero =>
    intro s sound finished enough
    refine ⟨[], trivial, fun x member => absurd member List.not_mem_nil, finished, ?_⟩
    by_contra more
    have phase := sound.phase
    rw [finished] at phase
    rcases phase with held | done
    · obtain ⟨front, e, free, bytes, rest⟩ := held.rest
      have some := rest.some
      have length := rest.length
      rw [Nat.add_zero] at enough
      omega
    · obtain ⟨free, layout, _⟩ := done.layout
      rw [last_nil, r56GetRawRxFrame_quiet sound.calm (empty_waits layout sound.size)] at more
      exact more rfl
  | succ m ih =>
    intro s sound finished enough
    have phase := sound.phase
    rw [finished] at phase
    rcases phase with held | done
    · obtain ⟨front, e, free, bytes, rest⟩ := held.rest
      obtain ⟨x, others, begins⟩ : ∃ x others, front ++ [e] = x :: others :=
        List.exists_cons_of_ne_nil (List.append_ne_nil_of_right_ne_nil _ (List.cons_ne_nil _ _))
      obtain ⟨delivered, frees⟩ := rest.gets sound.calm begins
      obtain ⟨p, run, gets, ended, drained⟩ := ih s.got sound.got finished (by
        rw [frees.length, Nat.add_assoc, Nat.add_comm 1 m]
        exact enough)
      exact ⟨(.get, s.got) :: p, ⟨rfl, run⟩, List.forall_mem_cons.mpr ⟨rfl, gets⟩, ended, drained⟩
    · obtain ⟨free, layout, _⟩ := done.layout
      refine ⟨[], trivial, fun x member => absurd member List.not_mem_nil, finished, ?_⟩
      rw [last_nil, r56GetRawRxFrame_quiet sound.calm (empty_waits layout sound.size)]

/-- However the driver's calls fall between the steps of the chip: once a reception has ended, further calls come to
where the driver finds nothing more to deliver, and there its blocks are the reception exactly when it has one of these
lengths. -/
theorem raw_reassembled_iff {info : R56Struct} {p : List (RawRxEvent × RawRxState)} {received : List U8}
    (empty : EmptyRing info) (size : 2 ≤ info.rxBufferCount) (calm : info.rxOverflow = false)
    (run : Run RawRxStep { info := info } p) (finished : (last { info := info } p).received = some received)
    (fits : received.length ≤ info.rxBufferCount * dmaBufferSize) :
    (∃ q, Run RawRxStep (last { info := info } p) q ∧ (∀ x ∈ q, x.1 = .get) ∧
      (last { info := info } (p ++ q)).received = some received ∧
      (r56GetRawRxFrame (last { info := info } (p ++ q)).info).2 = false) ∧
    ((r56GetRawRxFrame (last { info := info } p).info).2 = false →
      (Reassembled info (last { info := info } p) received ↔ rawExact received.length)) := by
  have kept : ∀ s event t, RawRxSound info s → RawRxStep s event t → RawRxSound info t :=
    fun _ _ _ sound step => sound.step step
  have sound := run.last_invariant kept (empty.rawSound size calm)
  constructor
  · obtain ⟨q, rest, gets, ended, drained⟩ := RawRxSound.drains info.rxBufferCount _ sound finished (by
      rw [Nat.add_mul]
      exact fits.trans (Nat.le_add_left _ _))
    rw [← last_append] at ended drained
    exact ⟨q, rest, gets, ended, drained⟩
  · exact fun drained => (sound.drained finished drained).reassembled_iff sound fits

/-- A port whose receiver has been started, with two receive buffers. -/
def twoEntries : R56Struct where
  rxEnabled := true
  rxBufferCount := 2
  rxBufferList := fun _ => { count := 4096 }

theorem twoEntries_empty : EmptyRing twoEntries := .fresh (by decide) rfl rfl

def RawRxState.chips (s : RawRxState) (steps : List Reception) : List (RawRxEvent × RawRxState) :=
  match steps with
  | [] => []
  | step :: rest => (.chip step, s.chip step) :: (s.chip step).chips rest

/-- A reception of a page and a byte, with a call of the driver while its second buffer is being filled, is
reassembled. -/
theorem raw_reassembled_iff_two :
    ∃ (p : List (RawRxEvent × RawRxState)) (received : List U8), Run RawRxStep { info := twoEntries } p ∧
      received.length = dmaBufferSize + 1 ∧ (last { info := twoEntries } p).received = some received ∧
      (last { info := twoEntries } p).freed = [0, 1] ∧
      Reassembled twoEntries (last { info := twoEntries } p) received := by
  have full : (List.replicate dmaBufferSize (7 : U8)).length = dmaBufferSize := List.length_replicate
  generalize List.replicate dmaBufferSize (7 : U8) = bytes at full
  let s : RawRxState := { info := twoEntries }
  let first := s.chips [.use, .store bytes, .move, .use]
  have filled : 0 + bytes.length ≤ dmaBufferSize := by omega
  have before : Run RawRxStep s first := by
    refine ⟨⟨rfl, by decide +kernel, trivial, rfl⟩, ⟨rfl, ⟨rfl, filled⟩, trivial, rfl⟩,
      ⟨rfl, ⟨rfl, ?_⟩, trivial, rfl⟩, ⟨rfl, ⟨rfl, rfl, ?_⟩, trivial, rfl⟩, trivial⟩
    · show 0 + bytes.length = dmaBufferSize
      omega
    · show (4096 : U16) ≠ 0
      decide
  obtain ⟨between, gets⟩ : ∃ between, between = (last s first).got := ⟨_, rfl⟩
  have goes : between.received = none := by
    rw [gets]
    rfl
  have dma : between.info.usc.rxDma = { (last s first).info.usc.rxDma with inUse := true, fill := 0 } := by
    rw [gets, @RawRxState.got_usc (last s first) rfl (Nat.zero_lt_succ 1)]
    rfl
  let second := between.chips [.store [9], .finish bit4]
  have after : Run RawRxStep between second := by
    refine ⟨⟨goes, ⟨?_, ?_⟩, trivial, rfl⟩, ⟨rfl, ⟨?_, by decide⟩, ⟨Nat.succ_pos _, by decide⟩, rfl⟩, trivial⟩
    · rw [dma]
    · rw [dma]
      exact Nat.succ_le_of_lt (by decide : 0 < dmaBufferSize)
    · show between.info.usc.rxDma.inUse = true
      rw [dma]
  have run : Run RawRxStep s (first ++ (.get, between) :: second) := run_append.mpr ⟨before, gets, after⟩
  have finished : (last s (first ++ (.get, between) :: second)).received = some (bytes ++ [9]) := by
    rw [last_append, last_cons]
    show some (between.info.usc.rxDma.frame ++ [9]) = _
    rw [dma]
    rfl
  have length : (bytes ++ [9]).length = dmaBufferSize + 1 := by
    rw [List.length_append, full]
    rfl
  have fits : (bytes ++ [9]).length ≤ twoEntries.rxBufferCount * dmaBufferSize := by
    rw [length]
    decide
  obtain ⟨q, rest, _, ended, drained⟩ := (raw_reassembled_iff twoEntries_empty (by decide) rfl run finished fits).1
  have all := run_append.mpr ⟨run, rest⟩
  have exact : rawExact (bytes ++ [9]).length := by
    rw [length]
    exact .inr (.inl ⟨by decide, by decide⟩)
  have whole := ((raw_reassembled_iff twoEntries_empty (by decide) rfl all ended fits).2 drained).mpr exact
  refine ⟨_, _, all, length, ended, ?_, whole⟩
  have freed := whole.2.1
  rw [length] at freed
  exact freed

/-- The second page of a reception of two pages is lost. -/
theorem second_page_lost :
    ∃ (p : List (RawRxEvent × RawRxState)) (received : List U8), Run RawRxStep { info := twoEntries } p ∧
      received.length = 2 * dmaBufferSize ∧ (last { info := twoEntries } p).received = some received ∧
      (r56GetRawRxFrame (last { info := twoEntries } p).info).2 = false ∧
      ¬Reassembled twoEntries (last { info := twoEntries } p) received := by
  have full : (List.replicate dmaBufferSize (7 : U8)).length = dmaBufferSize := List.length_replicate
  generalize List.replicate dmaBufferSize (7 : U8) = bytes at full
  let s : RawRxState := { info := twoEntries }
  let p := s.chips [.use, .store bytes, .move, .use, .store bytes, .finish bit4]
  have filled : 0 + bytes.length ≤ dmaBufferSize := by omega
  have run : Run RawRxStep s p := by
    refine ⟨⟨rfl, by decide +kernel, trivial, rfl⟩, ⟨rfl, ⟨rfl, filled⟩, trivial, rfl⟩,
      ⟨rfl, ⟨rfl, ?_⟩, trivial, rfl⟩, ⟨rfl, ⟨rfl, rfl, ?_⟩, trivial, rfl⟩, ⟨rfl, ⟨rfl, filled⟩, trivial, rfl⟩,
      ⟨rfl, ⟨rfl, by decide⟩, ⟨?_, by decide⟩, rfl⟩, trivial⟩
    · show 0 + bytes.length = dmaBufferSize
      omega
    · show (4096 : U16) ≠ 0
      decide
    · show 0 < 0 + bytes.length
      rw [full]
      decide
  have kept : ∀ s event t, RawRxSound twoEntries s → RawRxStep s event t → RawRxSound twoEntries t :=
    fun _ _ _ sound step => sound.step step
  have sound := run.last_invariant kept (twoEntries_empty.rawSound (by decide) rfl)
  have finished : (last s p).received = some (bytes ++ bytes) := rfl
  have length : (bytes ++ bytes).length = 2 * dmaBufferSize := by
    rw [List.length_append, full]
    rfl
  obtain ⟨q, rest, _, ended, drained⟩ := sound.drains 2 _ finished (by
    rw [length]
    show 2 * dmaBufferSize ≤ (0 + 2) * dmaBufferSize
    decide)
  have all : Run RawRxStep s (p ++ q) := run_append.mpr ⟨run, rest⟩
  refine ⟨p ++ q, bytes ++ bytes, all, length, ?_, ?_, ?_⟩
  · rw [last_append]
    exact ended
  · rw [last_append]
    exact drained
  · have after := all.last_invariant kept (twoEntries_empty.rawSound (by decide) rfl)
    rw [last_append] at after ⊢
    have fits : (bytes ++ bytes).length ≤ twoEntries.rxBufferCount * dmaBufferSize := by
      rw [length]
      decide
    intro whole
    have right := ((after.drained ended drained).reassembled_iff after fits).mp whole
    unfold rawExact at right
    rw [length] at right
    exact absurd right (by decide)

end Route56
