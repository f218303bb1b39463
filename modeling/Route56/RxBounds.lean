import Route56.RxFrame

namespace Route56

open CircularBuffer

def searchRxFrameChecked (list : Nat → DmaBufferEntry) (n startIndex : Nat) : Nat → Nat → Option RxSearch
  | 0, _ => none
  | fuel + 1, endIndex =>
    if n ≤ endIndex then none
    else if (list endIndex).status ≠ 0 then some (.frame endIndex)
    else if (list endIndex).count ≠ 0 then some (.unused endIndex)
    else if next n endIndex = startIndex then some (.exhausted (next n endIndex))
    else searchRxFrameChecked list n startIndex fuel (next n endIndex)

/-- `copyRxFrame` into a buffer of which `room` bytes are left. -/
def copyRxFrameChecked (list : Nat → DmaBufferEntry) (n : Nat) : Nat → Nat → Nat → Nat → Option (List U8)
  | 0, _, _, copyCount => if copyCount = 0 then some [] else none
  | fuel + 1, room, index, copyCount =>
    if copyCount = 0 then some []
    else
      let partialCount := if copyCount > dmaBufferSize then dmaBufferSize else copyCount
      if n ≤ index ∨ dmaBufferSize < partialCount ∨ room < partialCount then none
      else (copyRxFrameChecked list n fuel (room - partialCount) (next n index) (copyCount - partialCount)).map
        (Memory.read (list index).data 0 partialCount ++ ·)

def freeRxEntriesChecked (lp64 : Bool) (n endIndex : Nat) :
    Nat → Nat → (Nat → DmaBufferEntry) → Option ((Nat → DmaBufferEntry) × Nat)
  | 0, _, _ => none
  | fuel + 1, index, list =>
    if n ≤ index then none
    else
      let list := Function.update list index ((list index).storeLong lp64 4096)
      if index = endIndex then some (list, next n index)
      else freeRxEntriesChecked lp64 n endIndex fuel (next n index) list

def overrunScanChecked (list : Nat → DmaBufferEntry) (n startIndex : Nat) : Nat → OverrunScan → Option OverrunScan
  | 0, _ => none
  | fuel + 1, scan =>
    if n ≤ scan.endIndex then none
    else if (list scan.endIndex).count ≠ 0 then some scan
    else
      let scan := scan.look (list scan.endIndex)
      let scan := { scan with endIndex := next n scan.endIndex }
      if startIndex = scan.endIndex then some { scan with wrapped := true }
      else overrunScanChecked list n startIndex fuel scan

def resetRxEntriesChecked (lp64 : Bool) (n endIndex : Nat) :
    Nat → Nat → (Nat → DmaBufferEntry) → Option (Nat → DmaBufferEntry)
  | 0, _, _ => none
  | fuel + 1, index, list =>
    if n ≤ index then none
    else
      let list := Function.update list index ((list index).storeLong lp64 4096)
      if next n index ≠ endIndex then resetRxEntriesChecked lp64 n endIndex fuel (next n index) list else some list

section

variable {n c : Nat}

/-- The search ends once round the ring. -/
theorem searchRxFrameChecked_eq (list : Nat → DmaBufferEntry) (first : c < n) :
    ∀ (fuel o : Nat), o < n → n ≤ o + fuel →
      searchRxFrameChecked list n c fuel (cell n c o) = some (searchRxFrame list n c fuel (cell n c o)) := by
  intro fuel
  induction fuel with
  | zero =>
    intro o inside enough
    omega
  | succ fuel ih =>
    intro o inside enough
    have within : ¬n ≤ cell n c o := Nat.not_le.mpr (cell_lt (by omega))
    have following : next n (cell n c o) = cell n c (o + 1) := next_cell (by omega)
    unfold searchRxFrameChecked searchRxFrame
    rw [if_neg within]
    split
    · rfl
    · split
      · rfl
      · split
        · rfl
        · rename_i apart
          rw [following]
          refine ih (o + 1) ?_ (by omega)
          by_contra round
          have last : o + 1 = n := by omega
          rw [following, last, cell_length, Nat.mod_eq_of_lt first] at apart
          exact apart rfl

/-- The copy loop ends with the frame, and stays in the ring and in the buffer it copies to. -/
theorem copyRxFrameChecked_eq (list : Nat → DmaBufferEntry) :
    ∀ (fuel room index copyCount : Nat), index < n → copyCount ≤ fuel → copyCount ≤ room →
      copyRxFrameChecked list n fuel room index copyCount = some (copyRxFrame list n fuel index copyCount) := by
  intro fuel
  induction fuel with
  | zero =>
    intro room index copyCount _ enough _
    exact if_pos (Nat.le_zero.mp enough)
  | succ fuel ih =>
    intro room index copyCount inside enough fits
    have size : 0 < dmaBufferSize := by decide
    unfold copyRxFrameChecked copyRxFrame
    by_cases none : copyCount = 0
    · rw [if_pos none, if_pos none]
    rw [if_neg none, if_neg none]
    dsimp only
    generalize partly : (if copyCount > dmaBufferSize then dmaBufferSize else copyCount) = partialCount
    have bounds : 0 < partialCount ∧ partialCount ≤ dmaBufferSize ∧ partialCount ≤ copyCount := by
      rw [← partly]
      split <;> omega
    rw [if_neg (by omega), ih _ _ _ (next_lt inside) (by omega) (by omega)]
    rfl

/-- The freeing loop ends at the last entry of the frame. -/
theorem freeRxEntriesChecked_eq (lp64 : Bool) {k : Nat} (last : k < n) :
    ∀ (fuel o : Nat) (list : Nat → DmaBufferEntry), o ≤ k → k < o + fuel →
      freeRxEntriesChecked lp64 n (cell n c k) fuel (cell n c o) list =
        some (freeRxEntries lp64 n (cell n c k) fuel (cell n c o) list) := by
  intro fuel
  induction fuel with
  | zero =>
    intro o list below enough
    omega
  | succ fuel ih =>
    intro o list below enough
    have within : ¬n ≤ cell n c o := Nat.not_le.mpr (cell_lt (by omega))
    unfold freeRxEntriesChecked freeRxEntries
    dsimp only
    rw [if_neg within]
    split
    · rfl
    · rename_i apart
      have before : o ≠ k := fun same => apart (congrArg (cell n c) same)
      rw [next_cell (by omega)]
      exact ih (o + 1) _ (by omega) (by omega)

/-- The search for an unfinished string ends once round the ring, with indices that are in it. -/
theorem overrunScanChecked_eq (list : Nat → DmaBufferEntry) (first : c < n) :
    ∀ (fuel o : Nat) (scan : OverrunScan), scan.endIndex = cell n c o → scan.frameStartIndex < n → o < n →
      n ≤ o + fuel →
      overrunScanChecked list n c fuel scan = some (overrunScan list n c fuel scan) ∧
        (overrunScan list n c fuel scan).endIndex < n ∧ (overrunScan list n c fuel scan).frameStartIndex < n := by
  intro fuel
  induction fuel with
  | zero =>
    intro o scan _ _ inside enough
    omega
  | succ fuel ih =>
    intro o scan at_ start inside enough
    have within : scan.endIndex < n := at_ ▸ cell_lt (by omega)
    have following : next n scan.endIndex = cell n c (o + 1) := at_ ▸ next_cell (by omega)
    have looked : (scan.look (list scan.endIndex)).endIndex = scan.endIndex ∧
        (scan.look (list scan.endIndex)).frameStartIndex < n := by
      unfold OverrunScan.look
      dsimp only
      split <;> split <;> exact ⟨rfl, by first | exact start | exact within⟩
    unfold overrunScanChecked overrunScan
    rw [if_neg (Nat.not_le.mpr within)]
    dsimp only
    split
    · exact ⟨rfl, within, start⟩
    · split
      · rw [looked.1]
        exact ⟨rfl, next_lt within, looked.2⟩
      · rename_i apart
        rw [looked.1, following] at apart
        refine ih (o + 1) _ (by rw [looked.1, following]) looked.2 ?_ (by omega)
        by_contra round
        have last : o + 1 = n := by omega
        rw [last, cell_length, Nat.mod_eq_of_lt first] at apart
        exact apart rfl

/-- The loop that resets an unfinished string ends at the entry after it. -/
theorem resetRxEntriesChecked_eq (lp64 : Bool) {d : Nat} (whole : d ≤ n) :
    ∀ (fuel o : Nat) (list : Nat → DmaBufferEntry), o < d → d ≤ o + fuel →
      resetRxEntriesChecked lp64 n (cell n c d) fuel (cell n c o) list =
        some (resetRxEntries lp64 n (cell n c d) fuel (cell n c o) list) := by
  intro fuel
  induction fuel with
  | zero =>
    intro o list before enough
    omega
  | succ fuel ih =>
    intro o list before enough
    have within : ¬n ≤ cell n c o := Nat.not_le.mpr (cell_lt (by omega))
    have following : next n (cell n c o) = cell n c (o + 1) := next_cell (by omega)
    unfold resetRxEntriesChecked resetRxEntries
    dsimp only
    rw [if_neg within]
    split
    · rename_i apart
      rw [following] at apart ⊢
      refine ih (o + 1) _ ?_ (by omega)
      by_contra round
      have last : o + 1 = d := by omega
      exact apart (congrArg (cell n c) last)
    · rfl

end

def rxFrameDataChecked (room : Nat) (info : R56Struct) (startIndex : Nat) (status : U16) (framesize : Nat) :
    Option (List U8) :=
  (copyRxFrameChecked info.rxBufferList info.rxBufferCount framesize room startIndex framesize).bind fun copied =>
    if info.params.crcType &&& hdlcCrcReturnEx ≠ 0 then
      if room ≤ copied.length then none
      else some (copied ++ [if status &&& rxstatusCrcError ≠ 0 then rxCrcError else rxOk])
    else some copied

def deliverRxFrameChecked (room : Nat) (info : R56Struct) (startIndex endIndex : Nat) : Option R56Struct :=
  if info.rxBufferCount ≤ endIndex then none
  else
    let status := (info.rxBufferList endIndex).status
    let info := countBadFrame info status
    let framesize := rxReturnSize info.params.crcType status (info.rxBufferList endIndex).rcc
    if framesize = 0 then some info
    else if rxTooLong info framesize then
      some { info with icount := { info.icount with rxlong := info.icount.rxlong + 1 } }
    else (rxFrameDataChecked room info startIndex status framesize).map (passRxFrame info status)

def r56FreeRxFrameBuffersChecked (info : R56Struct) (startIndex endIndex : Nat) : Option R56Struct :=
  (freeRxEntriesChecked info.build.lp64 info.rxBufferCount endIndex info.rxBufferCount startIndex
    info.rxBufferList).map fun freed => { info with rxBufferList := freed.1, currentRxBuffer := freed.2 }

def restartOnOverflowChecked (info : R56Struct) (index : Nat) : Option R56Struct :=
  if info.rxEnabled && info.rxOverflow then
    if info.rxBufferCount ≤ index then none else some (restartOnOverflow info index)
  else some info

def r56GetRxFrameChecked (room : Nat) (info : R56Struct) : Option (R56Struct × Bool) :=
  let startIndex := info.currentRxBuffer
  (searchRxFrameChecked info.rxBufferList info.rxBufferCount startIndex info.rxBufferCount startIndex).bind fun
    | .frame endIndex =>
      (deliverRxFrameChecked room info startIndex endIndex).bind fun info =>
        (r56FreeRxFrameBuffersChecked info startIndex endIndex).bind fun info =>
          (restartOnOverflowChecked info endIndex).map fun info => (info, true)
    | .unused endIndex => (restartOnOverflowChecked info endIndex).map fun info => (info, false)
    | .exhausted endIndex =>
      (restartOnOverflowChecked (if info.rxEnabled then uscStartReceiver info else info) endIndex).map
        fun info => (info, false)

def deliverRawFrameChecked (room : Nat) (info : R56Struct) (index : Nat) : Option R56Struct :=
  if info.rxBufferCount ≤ index ∨ dmaBufferSize < rawFrameSize (info.rxBufferList index) ∨
    room < rawFrameSize (info.rxBufferList index) then none
  else some (deliverRawFrame info index)

def r56GetRawRxFrameChecked (room : Nat) (info : R56Struct) : Option (R56Struct × Bool) :=
  let currentIndex := info.currentRxBuffer
  if info.rxBufferCount ≤ currentIndex ∨ info.rxBufferCount ≤ next info.rxBufferCount currentIndex then none
  else if rawFrameReady info currentIndex then
    (deliverRawFrameChecked room info currentIndex).bind fun info =>
      (r56FreeRxFrameBuffersChecked info currentIndex currentIndex).bind fun info =>
        (restartOnOverflowChecked info currentIndex).map fun info => (info, true)
  else (restartOnOverflowChecked info currentIndex).map fun info => (info, false)

def getRxFrameChecked (room : Nat) (info : R56Struct) : R56Struct → Option (R56Struct × Bool) :=
  if info.params.mode = r56ModeHdlc then r56GetRxFrameChecked room else r56GetRawRxFrameChecked room

def r56BhReceiveLoopChecked (get : R56Struct → Option (R56Struct × Bool)) : Nat → R56Struct → Option R56Struct
  | 0, _ => none
  | fuel + 1, info =>
    if info.rxRccUnderrun then some (uscStartReceiver info)
    else (get info).bind fun got => if got.2 then r56BhReceiveLoopChecked get fuel got.1 else some got.1

def r56BhReceiveChecked (room : Nat) (info : R56Struct) : Option R56Struct :=
  r56BhReceiveLoopChecked (getRxFrameChecked room info) (info.rxBufferCount + 1) info

def overrunDiscardChecked (info : R56Struct) : Option (R56Struct × Nat × Bool) :=
  let start := info.currentRxBuffer
  (overrunScanChecked info.rxBufferList info.rxBufferCount start info.rxBufferCount
    { endIndex := start, frameStartIndex := start }).bind fun scan =>
    if scan.wrapped then some (r56ResetRxDmaBuffers info, 0, true)
    else if scan.startOfFrameFound && !scan.endOfFrameFound then
      (resetRxEntriesChecked info.build.lp64 info.rxBufferCount scan.endIndex info.rxBufferCount
        scan.frameStartIndex info.rxBufferList).map fun list =>
          ({ info with rxBufferList := list }, scan.frameStartIndex, true)
    else some (info, scan.frameStartIndex, false)

/-- The recovery goes on with the entry whose address it loads into the chip. -/
def uscProcessRxoverrunSyncChecked (info : R56Struct) : Option R56Struct :=
  (overrunDiscardChecked info).bind fun found =>
    if found.2.2 && found.1.rxBufferCount ≤ found.2.1 then none else some (uscProcessRxoverrunSync info)

section

variable {info : R56Struct}

theorem restartOnOverflowChecked_eq {index : Nat} (inside : index < info.rxBufferCount) :
    restartOnOverflowChecked info index = some (restartOnOverflow info index) := by
  unfold restartOnOverflowChecked
  rw [if_neg (Nat.not_le.mpr inside)]
  split
  · rfl
  · rename_i idle
    unfold restartOnOverflow
    rw [if_neg idle]

theorem r56FreeRxFrameBuffersChecked_eq {k : Nat} (first : info.currentRxBuffer < info.rxBufferCount)
    (last : k < info.rxBufferCount) :
    r56FreeRxFrameBuffersChecked info info.currentRxBuffer (info.rxCell k) =
      some (r56FreeRxFrameBuffers info info.currentRxBuffer (info.rxCell k)) := by
  have loop := freeRxEntriesChecked_eq (c := info.currentRxBuffer) info.build.lp64 last info.rxBufferCount 0
    info.rxBufferList (Nat.zero_le _) (by omega)
  rw [cell_zero first] at loop
  unfold r56FreeRxFrameBuffersChecked R56Struct.rxCell
  rw [loop]
  rfl

/-- The intermediate buffer has room for every block the driver returns. -/
def BufferFits (room : Nat) (info : R56Struct) : Prop :=
  dmaBufferSize ≤ room ∧ ∀ framesize, framesize < 2 ^ 32 → ¬rxTooLong info framesize →
    framesize + (if info.params.crcType &&& hdlcCrcReturnEx ≠ 0 then 1 else 0) ≤ room

theorem bufferFits_large (info : R56Struct) : BufferFits (2 ^ 32 + dmaBufferSize) info := by
  refine ⟨Nat.le_add_left _ _, fun framesize small _ => ?_⟩
  have size : 1 ≤ dmaBufferSize := by decide
  split <;> omega

/-- A buffer of `max_frame_size` bytes is enough. -/
theorem bufferFits_maxFrameSize {info : R56Struct} (least : dmaBufferSize ≤ info.maxFrameSize)
    (most : info.maxFrameSize ≤ hdlcMaxFrameSize) : BufferFits info.maxFrameSize info := by
  have bound : hdlcMaxFrameSize = 65535 := rfl
  refine ⟨least, fun framesize small short => ?_⟩
  unfold rxTooLong at short
  rw [not_or] at short
  obtain ⟨shortReturned, short⟩ := short
  split
  · rename_i returned
    have within : ¬(framesize + 1) % 2 ^ 32 > info.maxFrameSize := fun beyond => shortReturned ⟨returned, beyond⟩
    omega
  · omega

theorem copyRxFrame_length (list : Nat → DmaBufferEntry) (n : Nat) :
    ∀ (fuel index copyCount : Nat), copyCount ≤ fuel → (copyRxFrame list n fuel index copyCount).length = copyCount := by
  intro fuel
  induction fuel with
  | zero =>
    intro index copyCount enough
    exact (Nat.le_zero.mp enough).symm
  | succ fuel ih =>
    intro index copyCount enough
    have size : 0 < dmaBufferSize := by decide
    unfold copyRxFrame
    by_cases none : copyCount = 0
    · rw [if_pos none, none]
      rfl
    rw [if_neg none]
    dsimp only
    generalize partly : (if copyCount > dmaBufferSize then dmaBufferSize else copyCount) = partialCount
    have bounds : 0 < partialCount ∧ partialCount ≤ copyCount := by
      rw [← partly]
      split <;> omega
    rw [List.length_append, Memory.length_read, ih _ _ (by omega)]
    omega

theorem rxFrameDataChecked_eq {room startIndex framesize : Nat} (status : U16) (inside : startIndex < info.rxBufferCount)
    (fits : framesize + (if info.params.crcType &&& hdlcCrcReturnEx ≠ 0 then 1 else 0) ≤ room) :
    rxFrameDataChecked room info startIndex status framesize = some (rxFrameData info startIndex status framesize) := by
  have length := copyRxFrame_length info.rxBufferList info.rxBufferCount framesize startIndex framesize (Nat.le_refl _)
  unfold rxFrameDataChecked rxFrameData
  rw [copyRxFrameChecked_eq _ _ _ _ _ inside (Nat.le_refl _) (by omega), Option.bind_some]
  dsimp only
  by_cases returned : info.params.crcType &&& hdlcCrcReturnEx ≠ 0
  · rw [if_pos returned] at fits
    rw [if_pos returned, if_pos returned, if_neg (by rw [length]; omega)]
  · rw [if_neg returned, if_neg returned]

theorem rxReturnSize_lt (crcType status rcc : U16) : rxReturnSize crcType status rcc < 2 ^ 32 := by
  have small : rclrValue - rcc.toNat < 2 ^ 32 := by
    unfold rclrValue
    omega
  unfold rxReturnSize rxFrameSize
  dsimp only
  split
  · split
    · exact Nat.mod_lt _ (by decide)
    · split
      · exact Nat.mod_lt _ (by decide)
      · exact small
  · decide

theorem deliverRxFrameChecked_eq {room startIndex endIndex : Nat} (fits : BufferFits room info)
    (start : startIndex < info.rxBufferCount) (last : endIndex < info.rxBufferCount) :
    deliverRxFrameChecked room info startIndex endIndex = some (deliverRxFrame info startIndex endIndex) := by
  have frame := countBadFrame_frame info (info.rxBufferList endIndex).status
  have params : (countBadFrame info (info.rxBufferList endIndex).status).params = info.params :=
    congrArg (·.params) frame
  have count : (countBadFrame info (info.rxBufferList endIndex).status).rxBufferCount = info.rxBufferCount :=
    congrArg (·.rxBufferCount) frame
  unfold deliverRxFrameChecked deliverRxFrame
  dsimp only
  rw [if_neg (Nat.not_le.mpr last)]
  split
  · rfl
  · split
    · rfl
    · rename_i short
      rw [rxTooLong_counted, params] at short
      rw [rxFrameDataChecked_eq _ (count ▸ start) (params ▸ fits.2 _ (rxReturnSize_lt _ _ _) short)]
      rfl

theorem rawFrameSize_le (e : DmaBufferEntry) : rawFrameSize e ≤ dmaBufferSize := by
  have size : 0 < dmaBufferSize := by decide
  unfold rawFrameSize
  dsimp only
  generalize (if e.status &&& rxstatusError ≠ 0 then 0 else _) = framesize
  split
  · exact Nat.le_of_lt (Nat.mod_lt _ size)
  · rename_i small
    exact Nat.le_of_not_lt small

theorem deliverRawFrameChecked_eq {room index : Nat} (fits : dmaBufferSize ≤ room) (inside : index < info.rxBufferCount) :
    deliverRawFrameChecked room info index = some (deliverRawFrame info index) := by
  have size := rawFrameSize_le (info.rxBufferList index)
  exact if_neg (by omega)

end

/-- The number of entries that are not free. -/
def R56Struct.rxUsed (info : R56Struct) : Nat := info.rxView.countP fun e => !decide e.free

theorem countP_reset (lp64 : Bool) (entries : List DmaBufferEntry) :
    (entries.map fun e => e.reset lp64).countP (fun e => !decide e.free) = 0 := by
  rw [List.countP_eq_zero]
  intro e member
  obtain ⟨x, _, rfl⟩ := List.mem_map.mp member
  simp only [DmaBufferEntry.reset_free, decide_true, Bool.not_true, Bool.false_eq_true, not_false_eq_true]

theorem rxView_of_exceptDelivery {s t : R56Struct} (frame : t.exceptDelivery = s.exceptDelivery) :
    t.rxView = s.rxView ∧ t.currentRxBuffer = s.currentRxBuffer ∧ t.rxBufferCount = s.rxBufferCount := by
  have list : t.rxBufferList = s.rxBufferList := congrArg (·.rxBufferList) frame
  have count : t.rxBufferCount = s.rxBufferCount := congrArg (·.rxBufferCount) frame
  have current : t.currentRxBuffer = s.currentRxBuffer := congrArg (·.currentRxBuffer) frame
  refine ⟨?_, current, count⟩
  unfold R56Struct.rxView
  rw [list, count, current]

/-- A restarted receiver has a ring of free entries. -/
theorem uscStartReceiver_ring (info : R56Struct) (some : 0 < info.rxBufferCount) :
    (uscStartReceiver info).currentRxBuffer < (uscStartReceiver info).rxBufferCount ∧ (uscStartReceiver info).rxUsed = 0 := by
  obtain ⟨_, count, current, _⟩ := uscStartReceiver_fields info
  have first : (uscStartReceiver info).currentRxBuffer < (uscStartReceiver info).rxBufferCount := by
    rw [current, count]
    exact some
  refine ⟨first, List.countP_eq_zero.mpr fun e member => ?_⟩
  obtain ⟨i, inside, rfl⟩ := (mem_view_iff first).mp member
  have free := @uscStartReceiver_free info i (count ▸ inside)
  simp only [free, decide_true, Bool.not_true, Bool.false_eq_true, not_false_eq_true]

/-- What holds of a call that looks for a frame: it stays in bounds, and a frame that it finds is freed. -/
structure RxPass (checked : Option (R56Struct × Bool)) (info : R56Struct) (got : R56Struct × Bool) : Prop where
  checked : checked = some got
  current : got.1.currentRxBuffer < got.1.rxBufferCount
  less : got.2 = true → got.1.rxUsed < info.rxUsed

section

variable {info : R56Struct}

theorem restartOnOverflow_ring (index : Nat) (first : info.currentRxBuffer < info.rxBufferCount) :
    (restartOnOverflow info index).currentRxBuffer < (restartOnOverflow info index).rxBufferCount ∧
      (restartOnOverflow info index).rxUsed ≤ info.rxUsed := by
  have started := uscStartReceiver_ring info (Nat.zero_lt_of_lt first)
  unfold restartOnOverflow
  split
  · split
    · exact ⟨started.1, started.2 ▸ Nat.zero_le _⟩
    · exact ⟨first, Nat.le_refl _⟩
  · exact ⟨first, Nat.le_refl _⟩

/-- Entries at the front are freed, the last of which was not free. -/
theorem rxUsed_freed {s : R56Struct} {front back : List DmaBufferEntry} {e : DmaBufferEntry}
    (frame : s.exceptDelivery = info.exceptDelivery) (first : info.currentRxBuffer < info.rxBufferCount)
    (split : info.rxView = front ++ e :: back) (used : ¬e.free) :
    let freed := r56FreeRxFrameBuffers s info.currentRxBuffer (info.rxCell front.length)
    freed.currentRxBuffer < freed.rxBufferCount ∧ freed.rxUsed < info.rxUsed := by
  obtain ⟨view, current, count⟩ := rxView_of_exceptDelivery frame
  have cell : info.rxCell front.length = s.rxCell front.length := by
    unfold R56Struct.rxCell
    rw [current, count]
  have inside : s.currentRxBuffer < s.rxBufferCount := by rwa [current, count]
  have after := r56FreeRxFrameBuffers_view front inside (view.trans split)
  have kept : (r56FreeRxFrameBuffers s s.currentRxBuffer (s.rxCell front.length)).rxBufferCount = s.rxBufferCount := rfl
  rw [cell, ← current]
  dsimp only at after ⊢
  generalize r56FreeRxFrameBuffers s s.currentRxBuffer (s.rxCell front.length) = freed at after kept ⊢
  constructor
  · rw [after.2, kept]
    exact cell_lt (Nat.zero_lt_of_lt inside)
  · unfold R56Struct.rxUsed
    rw [after.1, split, List.countP_append, countP_reset, List.countP_append, List.countP_cons, if_pos (by simpa using used)]
    omega

/-- The search ends in the ring, whatever the entries hold. -/
theorem searchRxFrameChecked_rx (first : info.currentRxBuffer < info.rxBufferCount) :
    searchRxFrameChecked info.rxBufferList info.rxBufferCount info.currentRxBuffer info.rxBufferCount
        info.currentRxBuffer =
      some (searchRxFrame info.rxBufferList info.rxBufferCount info.currentRxBuffer info.rxBufferCount
        info.currentRxBuffer) := by
  have search := searchRxFrameChecked_eq info.rxBufferList first info.rxBufferCount 0 (Nat.zero_lt_of_lt first) (by omega)
  rwa [cell_zero first] at search

theorem r56GetRxFrame_pass {room : Nat} (fits : BufferFits room info) (first : info.currentRxBuffer < info.rxBufferCount) :
    RxPass (r56GetRxFrameChecked room info) info (r56GetRxFrame info) := by
  have search := searchRxFrameChecked_rx first
  rcases opens_split info.rxView with opens | ⟨front, e, back, split, opens, free | ends⟩
  · -- every entry is in use and none ends a frame
    have call := r56GetRxFrame_of_exhausted first opens
    rw [searchRxFrame_exhausted first opens] at search
    have started := uscStartReceiver_ring info (Nat.zero_lt_of_lt first)
    have count := (uscStartReceiver_fields info).2.1
    rw [call]
    generalize restarts : (if info.rxEnabled then uscStartReceiver info else info) = after
    have afterFirst : after.currentRxBuffer < after.rxBufferCount := by
      rw [← restarts]
      split
      · exact started.1
      · exact first
    have inside : info.currentRxBuffer < after.rxBufferCount := by
      rw [← restarts]
      split
      · rwa [count]
      · exact first
    refine ⟨?_, (restartOnOverflow_ring _ afterFirst).1, fun found => Bool.noConfusion found⟩
    unfold r56GetRxFrameChecked
    dsimp only
    rw [search, Option.bind_some]
    dsimp only
    rw [restarts, restartOnOverflowChecked_eq inside]
    rfl
  · have call := r56GetRxFrame_of_unused first split opens free
    have found : _ = some (RxSearch.unused (info.rxCell front.length)) :=
      search.trans (congrArg some (searchRxFrame_unused first split opens free))
    have inside : info.rxCell front.length < info.rxBufferCount := cell_lt (Nat.zero_lt_of_lt first)
    rw [call]
    refine ⟨?_, (restartOnOverflow_ring _ first).1, fun found => Bool.noConfusion found⟩
    unfold r56GetRxFrameChecked
    dsimp only
    rw [found, Option.bind_some]
    dsimp only
    rw [restartOnOverflowChecked_eq inside]
    rfl
  · have call := r56GetRxFrame_of_frame first split opens ends
    have found : _ = some (RxSearch.frame (info.rxCell front.length)) :=
      search.trans (congrArg some (searchRxFrame_frame first split opens ends))
    have within := length_of_view split
    have inside : info.rxCell front.length < info.rxBufferCount := cell_lt (Nat.zero_lt_of_lt first)
    have delivery := deliverRxFrame_frame info info.currentRxBuffer (info.rxCell front.length)
    have delivered := deliverRxFrameChecked_eq fits first inside
    have freed := rxUsed_freed delivery first split fun free => ends free.1
    dsimp only at call freed
    rw [call]
    generalize deliverRxFrame info info.currentRxBuffer (info.rxCell front.length) = s at delivery delivered freed
    obtain ⟨_, current, count⟩ := rxView_of_exceptDelivery delivery
    have cell : info.rxCell front.length = s.rxCell front.length := by
      unfold R56Struct.rxCell
      rw [current, count]
    have sFirst : s.currentRxBuffer < s.rxBufferCount := by rwa [current, count]
    have freeing := r56FreeRxFrameBuffersChecked_eq sFirst (show front.length < s.rxBufferCount by rwa [count])
    rw [← cell, current] at freeing
    have kept : (r56FreeRxFrameBuffers s info.currentRxBuffer (info.rxCell front.length)).rxBufferCount =
        s.rxBufferCount := rfl
    generalize r56FreeRxFrameBuffers s info.currentRxBuffer (info.rxCell front.length) = after at freed freeing kept
    have restarted := restartOnOverflow_ring (info.rxCell front.length) freed.1
    refine ⟨?_, restarted.1, fun _ => Nat.lt_of_le_of_lt restarted.2 freed.2⟩
    unfold r56GetRxFrameChecked
    dsimp only
    rw [found, Option.bind_some]
    dsimp only
    rw [delivered, Option.bind_some, freeing, Option.bind_some, restartOnOverflowChecked_eq (by rwa [kept, count])]
    rfl

theorem r56GetRawRxFrame_pass {room : Nat} (fits : dmaBufferSize ≤ room)
    (first : info.currentRxBuffer < info.rxBufferCount) :
    RxPass (r56GetRawRxFrameChecked room info) info (r56GetRawRxFrame info) := by
  have following := next_lt first
  unfold r56GetRawRxFrameChecked r56GetRawRxFrame
  dsimp only
  rw [if_neg (by omega)]
  by_cases ready : rawFrameReady info info.currentRxBuffer
  · rw [if_pos ready, if_pos ready]
    obtain ⟨e, rest, split⟩ : ∃ e rest, info.rxView = e :: rest := by
      refine List.exists_cons_of_length_pos ?_
      rw [R56Struct.rxView, length_view]
      exact Nat.zero_lt_of_lt first
    have entry : info.rxBufferList info.currentRxBuffer = e := by
      have shown := @cell_of_view _ info.rxBufferList info.rxBufferCount info.currentRxBuffer [] rest e split
      rwa [List.length_nil, cell_zero first] at shown
    have used : ¬e.free := by
      rw [← entry]
      rintro ⟨status, count⟩
      rcases ready with ends | ⟨zero, _⟩
      · exact ends status
      · exact count zero
    have here : info.rxCell 0 = info.currentRxBuffer := cell_zero first
    have delivery := deliverRawFrame_frame info info.currentRxBuffer
    have delivered := deliverRawFrameChecked_eq fits first
    have freed := @rxUsed_freed info _ [] rest e delivery first split used
    rw [List.length_nil, here] at freed
    dsimp only at freed
    generalize deliverRawFrame info info.currentRxBuffer = s at delivery delivered freed
    obtain ⟨_, current, count⟩ := rxView_of_exceptDelivery delivery
    have sFirst : s.currentRxBuffer < s.rxBufferCount := by rwa [current, count]
    have freeing := r56FreeRxFrameBuffersChecked_eq sFirst (Nat.zero_lt_of_lt sFirst)
    rw [show s.rxCell 0 = s.currentRxBuffer from cell_zero sFirst, current] at freeing
    have kept : (r56FreeRxFrameBuffers s info.currentRxBuffer info.currentRxBuffer).rxBufferCount = s.rxBufferCount := rfl
    generalize r56FreeRxFrameBuffers s info.currentRxBuffer info.currentRxBuffer = after at freed freeing kept
    have restarted := restartOnOverflow_ring info.currentRxBuffer freed.1
    refine ⟨?_, restarted.1, fun _ => Nat.lt_of_le_of_lt restarted.2 freed.2⟩
    rw [delivered, Option.bind_some, freeing, Option.bind_some, restartOnOverflowChecked_eq (by rwa [kept, count])]
    rfl
  · rw [if_neg ready, if_neg ready]
    refine ⟨?_, (restartOnOverflow_ring _ first).1, fun found => Bool.noConfusion found⟩
    rw [restartOnOverflowChecked_eq first]
    rfl

theorem getRxFrame_settings (mode : R56Struct) {room : Nat} (fits : BufferFits room info) :
    BufferFits room (getRxFrame mode info).1 := by
  have frame := getRxFrame_frame mode info
  have params : (getRxFrame mode info).1.params = info.params := congrArg (·.params) frame
  have size : (getRxFrame mode info).1.maxFrameSize = info.maxFrameSize := congrArg (·.maxFrameSize) frame
  unfold BufferFits rxTooLong
  rw [params, size]
  exact fits

theorem getRxFrame_pass {room : Nat} (mode : R56Struct) (fits : BufferFits room info)
    (first : info.currentRxBuffer < info.rxBufferCount) :
    RxPass (getRxFrameChecked room mode info) info (getRxFrame mode info) := by
  unfold getRxFrameChecked getRxFrame
  by_cases hdlc : mode.params.mode = r56ModeHdlc
  · rw [if_pos hdlc, if_pos hdlc]
    exact r56GetRxFrame_pass fits first
  · rw [if_neg hdlc, if_neg hdlc]
    exact r56GetRawRxFrame_pass fits.1 first

/-- Every pass that goes on has freed an entry, so the loop ends. -/
theorem r56BhReceiveLoopChecked_eq {room : Nat} (mode : R56Struct) :
    ∀ (fuel : Nat) (info : R56Struct), info.rxUsed < fuel → info.currentRxBuffer < info.rxBufferCount →
      BufferFits room info →
      ∃ after, r56BhReceiveLoopChecked (getRxFrameChecked room mode) fuel info = some after ∧
        r56BhReceiveLoop (getRxFrame mode) fuel info = some after ∧ after.currentRxBuffer < after.rxBufferCount := by
  intro fuel
  induction fuel with
  | zero =>
    intro info enough
    omega
  | succ fuel ih =>
    intro info enough first fits
    have pass := getRxFrame_pass mode fits first
    unfold r56BhReceiveLoopChecked r56BhReceiveLoop
    by_cases underrun : info.rxRccUnderrun = true
    · rw [if_pos underrun, if_pos underrun]
      exact ⟨_, rfl, rfl, (uscStartReceiver_ring info (Nat.zero_lt_of_lt first)).1⟩
    rw [if_neg underrun, if_neg underrun, pass.checked, Option.bind_some]
    by_cases found : (getRxFrame mode info).2 = true
    · rw [if_pos found, if_pos found]
      exact ih _ (by have := pass.less found; omega) pass.current (getRxFrame_settings mode fits)
    · rw [if_neg found, if_neg found]
      exact ⟨_, rfl, rfl, pass.current⟩

theorem rxUsed_le (info : R56Struct) : info.rxUsed ≤ info.rxBufferCount := by
  have most := List.countP_le_length (p := fun e : DmaBufferEntry => !decide e.free) (l := info.rxView)
  rwa [R56Struct.rxView, length_view] at most

theorem restartOnOverflow_enabled (index : Nat) (enabled : info.rxEnabled = true) :
    (restartOnOverflow info index).rxEnabled = true := by
  unfold restartOnOverflow
  split
  · split
    · exact (uscStartReceiver_fields info).2.2.2.1
    · exact enabled
  · exact enabled

/-- A call that ends at a free entry restarts a receiver that has overrun. -/
theorem restartOnOverflow_at_free {index : Nat} (enabled : info.rxEnabled = true)
    (free : (info.rxBufferList index).free) : (restartOnOverflow info index).rxOverflow = false := by
  unfold restartOnOverflow
  split
  · have unused : (info.rxBufferList index).status = 0 ∧ (info.rxBufferList index).count ≠ 0 := free
    rw [if_pos unused]
    exact (uscStartReceiver_fields info).2.2.2.2.1
  · rename_i idle
    simpa [enabled] using idle

/-- In HDLC mode a call leaves no overrun of an enabled receiver behind. -/
theorem r56GetRxFrame_restarts (first : info.currentRxBuffer < info.rxBufferCount) (enabled : info.rxEnabled = true) :
    (r56GetRxFrame info).1.rxOverflow = false ∧ (r56GetRxFrame info).1.rxEnabled = true := by
  rcases opens_split info.rxView with opens | ⟨front, e, back, split, opens, free | ends⟩
  · obtain ⟨_, _, _, started, calm, _⟩ := uscStartReceiver_fields info
    rw [r56GetRxFrame_of_exhausted first opens, if_pos enabled]
    dsimp only
    rw [restartOnOverflow_calm calm]
    exact ⟨calm, started⟩
  · rw [r56GetRxFrame_of_unused first split opens free]
    have entry : info.rxBufferList (info.rxCell front.length) = e := cell_of_view split
    exact ⟨restartOnOverflow_at_free enabled (by rwa [entry]), restartOnOverflow_enabled _ enabled⟩
  · have call := r56GetRxFrame_of_frame first split opens ends
    dsimp only at call
    rw [call]
    have delivery := deliverRxFrame_frame info info.currentRxBuffer (info.rxCell front.length)
    generalize deliverRxFrame info info.currentRxBuffer (info.rxCell front.length) = s at delivery
    have count : s.rxBufferCount = info.rxBufferCount := congrArg (·.rxBufferCount) delivery
    have stillEnabled : s.rxEnabled = true := (congrArg (·.rxEnabled) delivery : s.rxEnabled = info.rxEnabled).trans enabled
    have within := length_of_view split
    have spec := (freeRxEntries_spec (c := info.currentRxBuffer) s.build.lp64 within info.rxBufferCount 0
      s.rxBufferList (Nat.zero_le _) (by omega)).2 front.length within
    rw [cell_zero first, if_pos ⟨Nat.zero_le _, Nat.le_refl _⟩] at spec
    have free : ((r56FreeRxFrameBuffers s info.currentRxBuffer (info.rxCell front.length)).rxBufferList
        (info.rxCell front.length)).free := by
      show ((freeRxEntries s.build.lp64 s.rxBufferCount _ s.rxBufferCount _ s.rxBufferList).1 _).free
      rw [count]
      exact spec ▸ DmaBufferEntry.reset_free _ _
    have kept : (r56FreeRxFrameBuffers s info.currentRxBuffer (info.rxCell front.length)).rxEnabled = true := stillEnabled
    exact ⟨restartOnOverflow_at_free kept free, restartOnOverflow_enabled _ kept⟩

end

theorem r56BhReceiveLoop_restarts (mode : R56Struct) (hdlc : mode.params.mode = r56ModeHdlc) :
    ∀ (fuel : Nat) (info after : R56Struct), r56BhReceiveLoop (getRxFrame mode) fuel info = some after →
      info.currentRxBuffer < info.rxBufferCount → info.rxEnabled = true → after.rxOverflow = false := by
  have function : getRxFrame mode = r56GetRxFrame := if_pos hdlc
  rw [function]
  intro fuel
  induction fuel with
  | zero =>
    intro info after returned
    exact absurd returned (by simp [r56BhReceiveLoop])
  | succ fuel ih =>
    intro info after returned first enabled
    have restarts := r56GetRxFrame_restarts first enabled
    have current := (r56GetRxFrame_pass (bufferFits_large info) first).current
    unfold r56BhReceiveLoop at returned
    split at returned
    · obtain rfl := Option.some.inj returned
      exact (uscStartReceiver_fields info).2.2.2.2.1
    · split at returned
      · exact ih _ _ returned current restarts.2
      · obtain rfl := Option.some.inj returned
        exact restarts.1

/-- The recovery stays in the ring. -/
theorem uscProcessRxoverrunSyncChecked_eq {info : R56Struct} (first : info.currentRxBuffer < info.rxBufferCount) :
    uscProcessRxoverrunSyncChecked info = some (uscProcessRxoverrunSync info) := by
  obtain ⟨scanned, last, start⟩ := overrunScanChecked_eq info.rxBufferList first info.rxBufferCount 0
    { endIndex := info.currentRxBuffer, frameStartIndex := info.currentRxBuffer } (cell_zero first).symm first
    (Nat.zero_lt_of_lt first) (by omega)
  unfold uscProcessRxoverrunSyncChecked overrunDiscardChecked
  dsimp only
  rw [scanned, Option.bind_some]
  generalize overrunScan info.rxBufferList info.rxBufferCount info.currentRxBuffer info.rxBufferCount
    { endIndex := info.currentRxBuffer, frameStartIndex := info.currentRxBuffer } = scan at last start
  have some : 0 < info.rxBufferCount := Nat.zero_lt_of_lt first
  split
  · refine if_neg ?_
    show ¬(true && decide (info.rxBufferCount ≤ 0)) = true
    simpa using Nat.ne_of_gt some
  · split
    · -- the string ends before the entry the search ended at
      obtain ⟨d, positive, whole, at_⟩ : ∃ d, 0 < d ∧ d ≤ info.rxBufferCount ∧
          cell info.rxBufferCount scan.frameStartIndex d = scan.endIndex := by
        obtain ⟨o, inside, here⟩ := exists_offset start last
        by_cases none : o = 0
        · refine ⟨info.rxBufferCount, some, Nat.le_refl _, ?_⟩
          rw [cell_length, Nat.mod_eq_of_lt start, ← here, none, cell_zero start]
        · exact ⟨o, by omega, by omega, here⟩
      have reset := resetRxEntriesChecked_eq (c := scan.frameStartIndex) info.build.lp64 whole info.rxBufferCount 0
        info.rxBufferList positive (by omega)
      rw [cell_zero start, at_] at reset
      rw [reset, Option.map_some, Option.bind_some]
      refine if_neg ?_
      show ¬(true && decide (info.rxBufferCount ≤ scan.frameStartIndex)) = true
      simpa using start
    · rfl

theorem uscProcessRxoverrunSync_current {info : R56Struct} (first : info.currentRxBuffer < info.rxBufferCount) :
    (uscProcessRxoverrunSync info).currentRxBuffer < info.rxBufferCount := by
  have discard : (overrunDiscard info).1.currentRxBuffer < info.rxBufferCount := by
    unfold overrunDiscard
    dsimp only
    split
    · exact Nat.zero_lt_of_lt first
    · split
      · exact first
      · exact first
  unfold uscProcessRxoverrunSync
  dsimp only
  split
  · exact discard
  · exact discard

/-- Whatever is in the ring, receive processing ends and stays in it, and an enabled HDLC receiver that has
overrun is restarted. -/
theorem receive_processing_bounded {info : R56Struct} (first : info.currentRxBuffer < info.rxBufferCount) :
    (∃ after, r56BhReceiveChecked (2 ^ 32 + dmaBufferSize) info = some after ∧ r56BhReceive info = some after ∧
      after.currentRxBuffer < info.rxBufferCount ∧
      (info.params.mode = r56ModeHdlc → info.rxEnabled = true → info.rxOverflow = true → after.rxOverflow = false)) ∧
    uscProcessRxoverrunSyncChecked info = some (uscProcessRxoverrunSync info) ∧
    (uscProcessRxoverrunSync info).currentRxBuffer < info.rxBufferCount := by
  refine ⟨?_, uscProcessRxoverrunSyncChecked_eq first, uscProcessRxoverrunSync_current first⟩
  obtain ⟨after, checked, returned, current⟩ := r56BhReceiveLoopChecked_eq info (info.rxBufferCount + 1) info
    (Nat.lt_succ_of_le (rxUsed_le info)) first (bufferFits_large info)
  have count : after.rxBufferCount = info.rxBufferCount := congrArg (·.rxBufferCount) (r56BhReceive_frame returned)
  refine ⟨after, checked, returned, count ▸ current, fun hdlc enabled _ => ?_⟩
  exact r56BhReceiveLoop_restarts info hdlc _ _ _ returned first enabled

theorem receive_processing_bounded_wrapped :
    ∃ after, r56BhReceive wrappedFrame = some after ∧ after.currentRxBuffer < wrappedFrame.rxBufferCount := by
  obtain ⟨⟨after, _, returned, current, _⟩, _⟩ := @receive_processing_bounded wrappedFrame (by decide)
  exact ⟨after, returned, current⟩

/-- The bytes `r56_get_rx_frame` stores there are the block it returns. -/
theorem rxBlocks_length {info : R56Struct} {room : Nat} (fits : BufferFits room info) {e : DmaBufferEntry}
    {block : List U8} (member : block ∈ rxBlocks info e) : block.length ≤ room := by
  unfold rxBlocks at member
  dsimp only at member
  split at member
  · exact absurd member List.not_mem_nil
  · rename_i returned
    rw [not_or] at returned
    have within := fits.2 _ (rxReturnSize_lt _ _ _) returned.2
    rw [List.mem_singleton.mp member]
    unfold rxFrameData
    dsimp only
    split
    · rename_i ex
      rw [if_pos ex] at within
      rw [List.length_append, copyRxFrame_length _ _ _ _ _ (Nat.le_refl _)]
      exact within
    · rename_i ex
      rw [if_neg ex] at within
      rw [copyRxFrame_length _ _ _ _ _ (Nat.le_refl _)]
      exact within

/-- With an intermediate buffer of `max_frame_size` bytes no copy goes beyond its end or takes more than a page,
and what is stored there fits. -/
theorem intermediate_buffer_kept {info : R56Struct} (first : info.currentRxBuffer < info.rxBufferCount)
    (least : dmaBufferSize ≤ info.maxFrameSize) (most : info.maxFrameSize ≤ hdlcMaxFrameSize) :
    r56GetRxFrameChecked info.maxFrameSize info = some (r56GetRxFrame info) ∧
      r56GetRawRxFrameChecked info.maxFrameSize info = some (r56GetRawRxFrame info) ∧
      (∀ e, ∀ block ∈ rxBlocks info e, block.length ≤ info.maxFrameSize) ∧
      ∀ e, rawFrameSize e ≤ dmaBufferSize := by
  have fits := bufferFits_maxFrameSize least most
  exact ⟨(r56GetRxFrame_pass fits first).checked, (r56GetRawRxFrame_pass least first).checked,
    fun e block member => rxBlocks_length fits member, rawFrameSize_le⟩

theorem intermediate_buffer_kept_wrapped :
    r56GetRxFrameChecked wrappedFrame.maxFrameSize wrappedFrame = some (r56GetRxFrame wrappedFrame) :=
  (@intermediate_buffer_kept wrappedFrame (by decide) (by decide) (by decide)).1

end Route56
