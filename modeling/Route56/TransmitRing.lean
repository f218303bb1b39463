import Route56.Transmitter
import Mathlib.Algebra.Order.Floor.Div

namespace Route56

open CircularBuffer

theorem loadPciIntervals_eq (source : Nat → U8) (k off : Nat) (target : Nat → U8) :
    loadPciIntervals source k off target = Memory.blit target off (Memory.read source off (k * pciLoadInterval)) := by
  induction k generalizing off target with
  | zero =>
    rw [Nat.zero_mul, Memory.read_zero, Memory.blit_nil]
    rfl
  | succ k ih =>
    have whole : (k + 1) * pciLoadInterval = pciLoadInterval + k * pciLoadInterval := by rw [Nat.succ_mul, Nat.add_comm]
    have joined := Memory.blit_append target off (Memory.read source off pciLoadInterval)
      (Memory.read source (off + pciLoadInterval) (k * pciLoadInterval))
    rw [Memory.length_read, ← Memory.read_add, ← whole] at joined
    unfold loadPciIntervals
    rw [ih, joined]

/-- Copying in intervals copies the same bytes. -/
theorem r56LoadPciMemory_memcpy (target source : Nat → U8) (count : Nat) :
    r56LoadPciMemory target source count = memcpy target source count := by
  have parts : count / pciLoadInterval * pciLoadInterval + count % pciLoadInterval = count := Nat.div_add_mod' _ _
  have joined := Memory.blit_append target 0 (Memory.read source 0 (count / pciLoadInterval * pciLoadInterval))
    (Memory.read source (count / pciLoadInterval * pciLoadInterval) (count % pciLoadInterval))
  have whole := Memory.read_add source 0 (count / pciLoadInterval * pciLoadInterval) (count % pciLoadInterval)
  rw [Nat.zero_add, parts] at whole
  rw [Memory.length_read, Nat.zero_add, ← whole] at joined
  unfold r56LoadPciMemory memcpy
  dsimp only
  rw [loadPciIntervals_eq, joined]

/-- The entry a pass of the copy loop leaves. -/
def loadedEntry (entry : DmaBufferEntry) (buffer : Nat → U8) (copycount : Nat) : DmaBufferEntry :=
  { entry with data := memcpy entry.data buffer copycount, count := copycount }

/-- The ring after one pass. -/
def TxRing.pass (ring : TxRing) (n : Nat) (buffer : Nat → U8) (size : Nat) : TxRing where
  list := Function.update ring.list ring.index (loadedEntry (ring.list ring.index) buffer (min size dmaBufferSize))
  index := next n ring.index
  used := ring.used + 1

theorem copyTxFrame_succ (busType : BusType) (n fuel : Nat) (buffer : Nat → U8) {size : Nat} (ring : TxRing)
    (some : size ≠ 0) :
    copyTxFrame busType n (fuel + 1) buffer size ring =
      copyTxFrame busType n fuel (fun i => buffer (i + min size dmaBufferSize)) (size - min size dmaBufferSize)
        (ring.pass n buffer size) := by
  have copied (target : Nat → U8) (count : Nat) :
      (if busType = .pci then r56LoadPciMemory target buffer count else memcpy target buffer count) =
        memcpy target buffer count := by
    split
    · exact r56LoadPciMemory_memcpy _ _ _
    · rfl
  have count : (if size > dmaBufferSize then dmaBufferSize else size) = min size dmaBufferSize := by
    split <;> omega
  rw [copyTxFrame, if_neg some]
  dsimp only
  rw [count, copied]
  rfl

theorem copyTxFrame_done (busType : BusType) (n fuel : Nat) (buffer : Nat → U8) (ring : TxRing) :
    copyTxFrame busType n fuel buffer 0 ring = ring := by
  cases fuel with
  | zero => rfl
  | succ fuel => rfl

/-- The loop does the same on every bus. -/
theorem copyTxFrame_bus (bus other : BusType) (n fuel : Nat) (buffer : Nat → U8) (size : Nat) (ring : TxRing) :
    copyTxFrame bus n fuel buffer size ring = copyTxFrame other n fuel buffer size ring := by
  induction fuel generalizing buffer size ring with
  | zero => rfl
  | succ fuel ih =>
    by_cases empty : size = 0
    · rw [empty, copyTxFrame_done, copyTxFrame_done]
    · rw [copyTxFrame_succ bus n fuel buffer ring empty, copyTxFrame_succ other n fuel buffer ring empty]
      exact ih _ _ _

/-- `r56_load_pci_memory` leaves the target as `memcpy` does, and so the transmit ring of a PCI adapter is that of
an ISA adapter. -/
theorem bus_friendly_copy (count : U16) (target source : Nat → U8) :
    r56LoadPciMemory target source count.toNat = memcpy target source count.toNat ∧
    (∀ i, r56LoadPciMemory target source count.toNat i = if i < count.toNat then source i else target i) ∧
    ∀ (info : R56Struct) (frame : TxSource) (buffer : Nat → U8) (size : Nat),
      r56LoadTxDmaBuffer { info with busType := .pci } frame buffer size =
        { r56LoadTxDmaBuffer { info with busType := .isa } frame buffer size with busType := .pci } := by
  have copied := r56LoadPciMemory_memcpy target source count.toNat
  refine ⟨copied, fun i => ?_, fun info frame buffer size => ?_⟩
  · rw [copied, memcpy]
    split
    · rename_i inside
      have within : 0 ≤ i ∧ i - 0 < (Memory.read source 0 count.toNat).length :=
        ⟨Nat.zero_le i, by rw [Memory.length_read]; exact inside⟩
      rw [Memory.blit, dif_pos within, Memory.getElem_read, Nat.sub_zero, Nat.zero_add]
    · rename_i beyond
      refine Memory.blit_of_ge ?_
      rw [Memory.length_read, Nat.zero_add]
      exact Nat.le_of_not_lt beyond
  · have same := copyTxFrame_bus .pci .isa info.txBufferCount size buffer size
    unfold r56LoadTxDmaBuffer
    dsimp only
    rw [same]

/-- The loop stays in the ring. -/
theorem copyTxFrame_index (busType : BusType) {n : Nat} (fuel : Nat) (buffer : Nat → U8) (size : Nat) {ring : TxRing}
    (inside : ring.index < n) : (copyTxFrame busType n fuel buffer size ring).index < n := by
  induction fuel generalizing buffer size ring with
  | zero => exact inside
  | succ fuel ih =>
    by_cases empty : size = 0
    · rw [empty, copyTxFrame_done]
      exact inside
    · rw [copyTxFrame_succ busType n fuel buffer ring empty]
      exact ih _ _ (next_lt inside)

theorem txBuffersNeeded_eq (size : Nat) : txBuffersNeeded size = (size + (dmaBufferSize - 1)) / dmaBufferSize := by
  unfold txBuffersNeeded
  simp only [show dmaBufferSize = 4096 from rfl]
  split <;> omega

theorem txBuffersNeeded_le_iff (size n : Nat) : txBuffersNeeded size ≤ n ↔ size ≤ n * dmaBufferSize := by
  rw [txBuffersNeeded_eq]
  simp only [show dmaBufferSize = 4096 from rfl]
  omega

/-- One pass takes one of the buffers needed. -/
theorem txBuffersNeeded_pass {size : Nat} (some : size ≠ 0) :
    txBuffersNeeded size = txBuffersNeeded (size - min size dmaBufferSize) + 1 := by
  rw [txBuffersNeeded_eq, txBuffersNeeded_eq]
  simp only [show dmaBufferSize = 4096 from rfl]
  omega

/-- The loop counts every buffer it fills. -/
theorem copyTxFrame_used (busType : BusType) (n : Nat) {fuel size : Nat} (buffer : Nat → U8) (ring : TxRing)
    (enough : size ≤ fuel) :
    (copyTxFrame busType n fuel buffer size ring).used = ring.used + txBuffersNeeded size := by
  induction fuel generalizing buffer size ring with
  | zero =>
    rw [Nat.le_zero.mp enough]
    exact (Int.add_zero _).symm
  | succ fuel ih =>
    by_cases empty : size = 0
    · rw [empty, copyTxFrame_done]
      exact (Int.add_zero _).symm
    · have left : size - min size dmaBufferSize ≤ fuel := by
        simp only [show dmaBufferSize = 4096 from rfl]
        omega
      rw [copyTxFrame_succ busType n fuel buffer ring empty, ih _ _ left, txBuffersNeeded_pass empty]
      show ring.used + 1 + (txBuffersNeeded (size - min size dmaBufferSize) : Int) = _
      push_cast
      omega

/-- Entries beyond the buffers needed are left alone. -/
theorem copyTxFrame_beyond (busType : BusType) {n k o : Nat} (fuel : Nat) {size : Nat} (buffer : Nat → U8)
    {ring : TxRing} (inside : ring.index < n) (fits : size ≤ k * dmaBufferSize) (beyond : k ≤ o) (bound : o < n) :
    (copyTxFrame busType n fuel buffer size ring).list (cell n ring.index o) = ring.list (cell n ring.index o) := by
  induction fuel generalizing k o buffer size ring with
  | zero => rfl
  | succ fuel ih =>
    by_cases empty : size = 0
    · rw [empty, copyTxFrame_done]
    · have some : 0 < k := by
        by_contra none
        rw [Nat.eq_zero_of_not_pos none, Nat.zero_mul] at fits
        omega
      have left : size - min size dmaBufferSize ≤ (k - 1) * dmaBufferSize := by
        simp only [show dmaBufferSize = 4096 from rfl] at fits ⊢
        omega
      have moved : cell n ring.index o = cell n (ring.pass n buffer size).index (o - 1) := by
        show cell n ring.index o = cell n (next n ring.index) (o - 1)
        rw [next_eq_cell inside, cell_cell, show 1 + (o - 1) = o by omega]
      have apart : cell n ring.index o ≠ ring.index := by
        intro same
        have zero : cell n ring.index o = cell n ring.index 0 := same.trans (cell_zero inside).symm
        have none := (cell_inj bound (by omega)).mp zero
        omega
      have rest := ih (k := k - 1) (o := o - 1) (fun i => buffer (i + min size dmaBufferSize))
        (show (ring.pass n buffer size).index < n from next_lt inside) left (by omega) (by omega)
      rw [copyTxFrame_succ busType n fuel buffer ring empty, moved, rest, ← moved]
      exact Function.update_of_ne apart _ _

/-- What the transmit DMA channel reads: `size` bytes along the counts of at most `k` entries. -/
def readTxFrame (list : Nat → DmaBufferEntry) (n : Nat) : Nat → Nat → Nat → List U8
  | 0, _, _ => []
  | k + 1, index, size =>
    if size = 0 then []
    else Memory.read (list index).data 0 (list index).count.toNat ++
      readTxFrame list n k (next n index) (size - (list index).count.toNat)

/-- What is read depends on the data and the counts alone. -/
theorem readTxFrame_congr {list other : Nat → DmaBufferEntry} (n k index size : Nat)
    (data : ∀ i, (list i).data = (other i).data) (count : ∀ i, (list i).count = (other i).count) :
    readTxFrame list n k index size = readTxFrame other n k index size := by
  induction k generalizing index size with
  | zero => rfl
  | succ k ih =>
    unfold readTxFrame
    rw [data index, count index, ih]

theorem toNat_copycount (size : Nat) : ((min size dmaBufferSize : Nat) : U16).toNat = min size dmaBufferSize := by
  have small : min size dmaBufferSize ≤ 4096 := Nat.min_le_right _ _
  rw [BitVec.natCast_eq_ofNat, BitVec.toNat_ofNat]
  omega

/-- A frame that fits is read back as it was loaded. -/
theorem readTxFrame_copyTxFrame (busType : BusType) {n k fuel size : Nat} (buffer : Nat → U8) {ring : TxRing}
    (inside : ring.index < n) (within : k ≤ n) (fits : size ≤ k * dmaBufferSize) (enough : size ≤ fuel) :
    readTxFrame (copyTxFrame busType n fuel buffer size ring).list n k ring.index size = Memory.read buffer 0 size := by
  induction k generalizing fuel buffer size ring with
  | zero =>
    rw [Nat.zero_mul] at fits
    rw [Nat.le_zero.mp fits]
    rfl
  | succ k ih =>
    by_cases empty : size = 0
    · rw [empty]
      rfl
    obtain ⟨fuel, rfl⟩ : ∃ f, fuel = f + 1 := ⟨fuel - 1, by omega⟩
    have left : size - min size dmaBufferSize ≤ k * dmaBufferSize := by
      simp only [show dmaBufferSize = 4096 from rfl] at fits ⊢
      omega
    have enough : size - min size dmaBufferSize ≤ fuel := by
      simp only [show dmaBufferSize = 4096 from rfl]
      omega
    -- the rest of the frame does not come round to the entry filled first
    have first : (copyTxFrame busType n (fuel + 1) buffer size ring).list ring.index =
        loadedEntry (ring.list ring.index) buffer (min size dmaBufferSize) := by
      have round : cell n (ring.pass n buffer size).index (n - 1) = ring.index := by
        show cell n (next n ring.index) (n - 1) = ring.index
        rw [next_eq_cell inside, cell_cell, show 1 + (n - 1) = n by omega, cell_length, Nat.mod_eq_of_lt inside]
      have kept := copyTxFrame_beyond busType fuel (fun i => buffer (i + min size dmaBufferSize))
        (show (ring.pass n buffer size).index < n from next_lt inside) left (show k ≤ n - 1 by omega) (by omega)
      rw [round] at kept
      rw [copyTxFrame_succ busType n fuel buffer ring empty, kept]
      exact Function.update_self _ _ _
    have count : (loadedEntry (ring.list ring.index) buffer (min size dmaBufferSize)).count.toNat =
        min size dmaBufferSize := toNat_copycount size
    have data : Memory.read (loadedEntry (ring.list ring.index) buffer (min size dmaBufferSize)).data 0
        (min size dmaBufferSize) = Memory.read buffer 0 (min size dmaBufferSize) := by
      have copied := Memory.read_blit (ring.list ring.index).data 0 (Memory.read buffer 0 (min size dmaBufferSize))
      rw [Memory.length_read] at copied
      exact copied
    have rest := ih (fun i => buffer (i + min size dmaBufferSize))
      (show (ring.pass n buffer size).index < n from next_lt inside) (by omega) left enough
    rw [← copyTxFrame_succ busType n fuel buffer ring empty, Memory.read_shift] at rest
    have whole := Memory.read_add buffer 0 (min size dmaBufferSize) (size - min size dmaBufferSize)
    rw [show min size dmaBufferSize + (size - min size dmaBufferSize) = size by omega, Nat.zero_add] at whole
    unfold readTxFrame
    rw [if_neg empty, first, count, data, whole]
    exact congrArg _ rest

/-- The frame the transmit DMA channel is programmed with. -/
def R56Struct.txFrame (info : R56Struct) (size : Nat) : List U8 :=
  readTxFrame info.txBufferList info.txBufferCount info.txBufferCount info.startTxDmaBuffer size

theorem r56LoadTxDmaBuffer_frame {info : R56Struct} (source : TxSource) (buffer : Nat → U8) {size : Nat}
    (inside : info.currentTxBuffer < info.txBufferCount) (fits : size ≤ info.txBufferCount * dmaBufferSize) :
    (r56LoadTxDmaBuffer info source buffer size).txFrame size = Memory.read buffer 0 size :=
  readTxFrame_copyTxFrame info.busType buffer inside le_rfl fits le_rfl

theorem r56LoadTxDmaBuffer_current {info : R56Struct} (source : TxSource) (buffer : Nat → U8) (size : Nat)
    (inside : info.currentTxBuffer < info.txBufferCount) :
    (r56LoadTxDmaBuffer info source buffer size).currentTxBuffer < info.txBufferCount :=
  copyTxFrame_index info.busType size buffer size inside

theorem r56LoadTxDmaBuffer_used (info : R56Struct) (source : TxSource) (buffer : Nat → U8) (size : Nat) :
    (r56LoadTxDmaBuffer info source buffer size).txDmaBuffersUsed = info.txDmaBuffersUsed + txBuffersNeeded size :=
  copyTxFrame_used info.busType info.txBufferCount buffer _ le_rfl

/-- Starting the transmitter leaves the data and the counts in the ring alone. -/
structure SameRing (s t : R56Struct) : Prop where
  data : ∀ i, (t.txBufferList i).data = (s.txBufferList i).data
  count : ∀ i, (t.txBufferList i).count = (s.txBufferList i).count
  start : t.startTxDmaBuffer = s.startTxDmaBuffer
  size : t.txBufferCount = s.txBufferCount

theorem SameRing.txFrame {s t : R56Struct} (same : SameRing s t) (size : Nat) : t.txFrame size = s.txFrame size := by
  unfold R56Struct.txFrame
  rw [same.size, same.start]
  exact readTxFrame_congr _ _ _ _ same.data same.count

theorem SameRing.of_list {s t : R56Struct} (list : t.txBufferList = s.txBufferList)
    (start : t.startTxDmaBuffer = s.startTxDmaBuffer) (size : t.txBufferCount = s.txBufferCount) : SameRing s t :=
  ⟨fun i => by rw [list], fun i => by rw [list], start, size⟩

theorem SameRing.trans {s t u : R56Struct} (first : SameRing s t) (second : SameRing t u) : SameRing s u :=
  ⟨fun i => (second.data i).trans (first.data i), fun i => (second.count i).trans (first.count i),
    second.start.trans first.start, second.size.trans first.size⟩

/-- The part of the frame for the buffer after `j` others. -/
def chunkSize (size j : Nat) : Nat := min (size - j * dmaBufferSize) dmaBufferSize

theorem chunkSize_pass (size j : Nat) :
    chunkSize (size - min size dmaBufferSize) j = chunkSize size (j + 1) := by
  unfold chunkSize
  simp only [show dmaBufferSize = 4096 from rfl]
  omega

theorem size_pass_le {size fuel : Nat} (_ : size ≠ 0) (enough : size ≤ fuel + 1) :
    size - min size dmaBufferSize ≤ fuel := by
  simp only [show dmaBufferSize = 4096 from rfl]
  omega

/-- The loop ends at the entry behind the last one filled. -/
theorem copyTxFrame_end (busType : BusType) {n fuel size : Nat} (buffer : Nat → U8) {ring : TxRing}
    (inside : ring.index < n) (enough : size ≤ fuel) :
    (copyTxFrame busType n fuel buffer size ring).index = cell n ring.index (txBuffersNeeded size) := by
  induction fuel generalizing buffer size ring with
  | zero =>
    rw [Nat.le_zero.mp enough]
    exact (cell_zero inside).symm
  | succ fuel ih =>
    by_cases empty : size = 0
    · rw [empty, copyTxFrame_done]
      exact (cell_zero inside).symm
    · have moved : (ring.pass n buffer size).index = cell n ring.index 1 := next_eq_cell inside
      rw [copyTxFrame_succ busType n fuel buffer ring empty, ih _ (next_lt inside) (size_pass_le empty enough), moved,
        cell_cell, txBuffersNeeded_pass empty, Nat.add_comm]

/-- What is not one of the entries needed is left alone, wherever it is. -/
theorem copyTxFrame_outside (busType : BusType) {n i fuel size : Nat} (buffer : Nat → U8) {ring : TxRing}
    (inside : ring.index < n) (enough : size ≤ fuel)
    (outside : ∀ j < txBuffersNeeded size, cell n ring.index j ≠ i) :
    (copyTxFrame busType n fuel buffer size ring).list i = ring.list i := by
  induction fuel generalizing buffer size ring with
  | zero => rfl
  | succ fuel ih =>
    by_cases empty : size = 0
    · rw [empty, copyTxFrame_done]
    · have needed := txBuffersNeeded_pass empty
      have moved : (ring.pass n buffer size).index = cell n ring.index 1 := next_eq_cell inside
      have other : i ≠ ring.index := by
        have first := outside 0 (by omega)
        rw [cell_zero inside] at first
        exact first.symm
      rw [copyTxFrame_succ busType n fuel buffer ring empty, ih _ (next_lt inside) (size_pass_le empty enough)]
      · exact Function.update_of_ne other _ _
      · intro j below
        rw [moved, cell_cell, Nat.add_comm]
        exact outside (j + 1) (by omega)

/-- Each entry needed is left with its part of the frame. -/
theorem copyTxFrame_entry (busType : BusType) {n fuel size j : Nat} (buffer : Nat → U8) {ring : TxRing}
    (inside : ring.index < n) (enough : size ≤ fuel) (within : txBuffersNeeded size ≤ n)
    (needed : j < txBuffersNeeded size) :
    (copyTxFrame busType n fuel buffer size ring).list (cell n ring.index j) =
      loadedEntry (ring.list (cell n ring.index j)) (fun i => buffer (i + j * dmaBufferSize)) (chunkSize size j) := by
  induction fuel generalizing buffer size ring j with
  | zero =>
    rw [Nat.le_zero.mp enough] at needed
    exact absurd needed (Nat.not_lt_zero j)
  | succ fuel ih =>
    have empty : size ≠ 0 := by
      rintro rfl
      exact absurd needed (Nat.not_lt_zero j)
    have pass := txBuffersNeeded_pass empty
    have moved : (ring.pass n buffer size).index = cell n ring.index 1 := next_eq_cell inside
    have left := size_pass_le empty enough
    rw [copyTxFrame_succ busType n fuel buffer ring empty]
    cases j with
    | zero =>
      have kept : (copyTxFrame busType n fuel (fun i => buffer (i + min size dmaBufferSize))
          (size - min size dmaBufferSize) (ring.pass n buffer size)).list ring.index =
            (ring.pass n buffer size).list ring.index := by
        refine copyTxFrame_outside busType _ (next_lt inside) left fun k below same => ?_
        rw [moved, cell_cell, ← cell_zero inside, cell_cell] at same
        have none := (cell_inj (by omega) (by omega)).mp same
        omega
      rw [cell_zero inside, kept]
      simp only [Nat.zero_mul, Nat.add_zero]
      exact Function.update_self _ _ _
    | succ j =>
      have rest := @ih (size - min size dmaBufferSize) j (fun i => buffer (i + min size dmaBufferSize))
        (ring.pass n buffer size) (next_lt inside) left (by omega) (by omega)
      have place : cell n (ring.pass n buffer size).index j = cell n ring.index (j + 1) := by
        rw [moved, cell_cell, Nat.add_comm]
      have apart : cell n ring.index (j + 1) ≠ ring.index := by
        intro same
        have zero : cell n ring.index (j + 1) = cell n ring.index 0 := same.trans (cell_zero inside).symm
        have none := (cell_inj (by omega) (by omega)).mp zero
        omega
      have old : (ring.pass n buffer size).list (cell n ring.index (j + 1)) = ring.list (cell n ring.index (j + 1)) :=
        Function.update_of_ne apart _ _
      have full : min size dmaBufferSize = dmaBufferSize := by
        have more : 1 < txBuffersNeeded size := by omega
        rw [txBuffersNeeded_eq] at more
        simp only [show dmaBufferSize = 4096 from rfl] at more ⊢
        omega
      rw [place, old, chunkSize_pass] at rest
      have source : (fun i => buffer (i + j * dmaBufferSize + min size dmaBufferSize)) =
          fun i => buffer (i + (j + 1) * dmaBufferSize) := by
        funext i
        rw [full, Nat.succ_mul, Nat.add_assoc]
      rw [rest, source]

theorem toNat_chunkSize (size j : Nat) : ((chunkSize size j : Nat) : U16).toNat = chunkSize size j :=
  toNat_copycount _

theorem txBuffersNeeded_ceilDiv (size : Nat) : txBuffersNeeded size = size ⌈/⌉ dmaBufferSize := by
  rw [txBuffersNeeded_eq, Nat.ceilDiv_eq_add_pred_div, Nat.add_sub_assoc (by decide)]

/-- The first `m` parts make up the beginning of the frame. -/
theorem flatMap_chunks (buffer : Nat → U8) (size m : Nat) :
    (List.range m).flatMap (fun j => Memory.read buffer (j * dmaBufferSize) (chunkSize size j)) =
      Memory.read buffer 0 (min size (m * dmaBufferSize)) := by
  induction m with
  | zero => rw [Nat.zero_mul, Nat.min_zero]; rfl
  | succ m ih =>
    have whole := Memory.read_add buffer 0 (min size (m * dmaBufferSize)) (chunkSize size m)
    have total : min size (m * dmaBufferSize) + chunkSize size m = min size ((m + 1) * dmaBufferSize) := by
      unfold chunkSize
      simp only [show dmaBufferSize = 4096 from rfl]
      omega
    rw [total, Nat.zero_add] at whole
    rw [List.range_succ, List.flatMap_append, ih, whole, List.flatMap_singleton]
    by_cases all : size ≤ m * dmaBufferSize
    · have none : chunkSize size m = 0 := by
        unfold chunkSize
        omega
      rw [none, Memory.read_zero, Memory.read_zero]
    · rw [Nat.min_eq_right (Nat.le_of_not_le all)]

theorem sum_chunks (size m : Nat) :
    ((List.range m).map (chunkSize size)).sum = min size (m * dmaBufferSize) := by
  have lengths := congrArg List.length (flatMap_chunks (fun _ => 0) size m)
  rw [List.length_flatMap, Memory.length_read] at lengths
  simpa only [Memory.length_read] using lengths

/-- `after` is `info` with a frame of `n` bytes in the ring, and nothing else in it. -/
structure FrameInRing (info after : R56Struct) (buffer : Nat → U8) (n : Nat) : Prop where
  start : after.startTxDmaBuffer = info.currentTxBuffer
  counts : ∀ j < n ⌈/⌉ 4096, (after.txBufferList ((info.currentTxBuffer + j) % info.txBufferCount)).count.toNat =
    if j + 1 < n ⌈/⌉ 4096 then 4096 else n - j * 4096
  total : ((List.range (n ⌈/⌉ 4096)).map fun j =>
    (after.txBufferList ((info.currentTxBuffer + j) % info.txBufferCount)).count.toNat).sum = n
  data : ((List.range (n ⌈/⌉ 4096)).flatMap fun j =>
    let e := after.txBufferList ((info.currentTxBuffer + j) % info.txBufferCount)
    Memory.read e.data 0 e.count.toNat) = Memory.read buffer 0 n
  first : (after.txBufferList info.currentTxBuffer).rcc.toNat = n ∧
    (after.txBufferList info.currentTxBuffer).status = after.usc.cmrValue &&& 0xf000
  current : after.currentTxBuffer = (info.currentTxBuffer + n ⌈/⌉ 4096) % info.txBufferCount ∧
    after.currentTxBuffer < info.txBufferCount
  used : after.txDmaBuffersUsed = info.txDmaBuffersUsed + (n ⌈/⌉ 4096 : Nat)
  others : ∀ i ≠ info.currentTxBuffer,
    (∀ j < n ⌈/⌉ 4096, (info.currentTxBuffer + j) % info.txBufferCount ≠ i) →
    after.txBufferList i = info.txBufferList i
  otherData : ∀ i, (∀ j < n ⌈/⌉ 4096, (info.currentTxBuffer + j) % info.txBufferCount ≠ i) →
    (after.txBufferList i).data = (info.txBufferList i).data
  behind : ∀ i x, (after.txBufferList i).count.toNat ≤ x → (after.txBufferList i).data x = (info.txBufferList i).data x
  fields : ∀ i, (after.txBufferList i).physEntry = (info.txBufferList i).physEntry ∧
    (i ≠ info.currentTxBuffer → (after.txBufferList i).rcc = (info.txBufferList i).rcc ∧
      (after.txBufferList i).status = (info.txBufferList i).status)

/-- The ring the copy loop of a load begins with. -/
def R56Struct.firstEntrySet (info : R56Struct) (status : U16) (size : Nat) : TxRing where
  list := Function.update info.txBufferList info.currentTxBuffer
    { info.txBufferList info.currentTxBuffer with status := status, rcc := size, count := size }
  index := info.currentTxBuffer
  used := info.txDmaBuffersUsed

theorem firstEntrySet_first (info : R56Struct) (status : U16) (size : Nat) :
    (info.firstEntrySet status size).list info.currentTxBuffer =
      { info.txBufferList info.currentTxBuffer with status := status, rcc := size, count := size } :=
  Function.update_self _ _ _

theorem firstEntrySet_other {info : R56Struct} (status : U16) (size : Nat) {i : Nat} (other : i ≠ info.currentTxBuffer) :
    (info.firstEntrySet status size).list i = info.txBufferList i :=
  Function.update_of_ne other _ _

theorem firstEntrySet_data (info : R56Struct) (status : U16) (size i : Nat) :
    ((info.firstEntrySet status size).list i).data = (info.txBufferList i).data ∧
      ((info.firstEntrySet status size).list i).physEntry = (info.txBufferList i).physEntry := by
  by_cases first : i = info.currentTxBuffer
  · rw [first, firstEntrySet_first]
    exact ⟨rfl, rfl⟩
  · rw [firstEntrySet_other status size first]
    exact ⟨rfl, rfl⟩

theorem memcpy_behind (target source : Nat → U8) {count x : Nat} (behind : count ≤ x) :
    memcpy target source count x = target x := by
  unfold memcpy Memory.blit
  rw [dif_neg]
  rw [Memory.length_read]
  omega

theorem memcpy_read (target buffer : Nat → U8) (off count : Nat) :
    Memory.read (memcpy target (fun i => buffer (i + off)) count) 0 count = Memory.read buffer off count := by
  have copied := Memory.read_blit target 0 (Memory.read (fun i => buffer (i + off)) 0 count)
  rw [Memory.length_read, Memory.read_shift] at copied
  rw [memcpy, Memory.read_shift]
  exact copied

/-- `r56_load_tx_dma_buffer` stores the frame and only the frame, for every place in the ring, bus and
length that fits the ring and the 16 bit fields. -/
theorem frame_in_ring {info : R56Struct} (source : TxSource) (buffer : Nat → U8) {n : Nat}
    (inside : info.currentTxBuffer < info.txBufferCount) (fits : n ≤ min (4096 * info.txBufferCount) 65535) :
    FrameInRing info (r56LoadTxDmaBuffer info source buffer n) buffer n := by
  obtain ⟨fits, small⟩ := Nat.le_min.mp fits
  have pages : n ⌈/⌉ 4096 = txBuffersNeeded n := (txBuffersNeeded_ceilDiv n).symm
  have within : txBuffersNeeded n ≤ info.txBufferCount := by
    rw [txBuffersNeeded_le_iff, show dmaBufferSize = 4096 from rfl]
    omega
  have used := r56LoadTxDmaBuffer_used info source buffer n
  generalize loaded : r56LoadTxDmaBuffer info source buffer n = after at used ⊢
  have start : after.startTxDmaBuffer = info.currentTxBuffer := by rw [← loaded]; rfl
  have list : after.txBufferList = (copyTxFrame info.busType info.txBufferCount n buffer n
      (info.firstEntrySet (after.usc.cmrValue &&& 0xf000) n)).list := by rw [← loaded]; rfl
  have last : after.currentTxBuffer = (copyTxFrame info.busType info.txBufferCount n buffer n
      (info.firstEntrySet (after.usc.cmrValue &&& 0xf000) n)).index := by rw [← loaded]; rfl
  generalize status : after.usc.cmrValue &&& 0xf000 = first at list last
  -- the entries of the frame, and all others
  have filled (j : Nat) (needed : j < txBuffersNeeded n) :
      after.txBufferList (cell info.txBufferCount info.currentTxBuffer j) =
        loadedEntry ((info.firstEntrySet first n).list (cell info.txBufferCount info.currentTxBuffer j))
        (fun i => buffer (i + j * dmaBufferSize)) (chunkSize n j) := by
    rw [list]
    exact copyTxFrame_entry info.busType buffer inside le_rfl within needed
  have left (i : Nat) (outside : ∀ j < txBuffersNeeded n, cell info.txBufferCount info.currentTxBuffer j ≠ i) :
      after.txBufferList i = (info.firstEntrySet first n).list i := by
    rw [list]
    exact copyTxFrame_outside info.busType buffer inside le_rfl outside
  have count (j : Nat) (needed : j < txBuffersNeeded n) :
      (after.txBufferList (cell info.txBufferCount info.currentTxBuffer j)).count.toNat = chunkSize n j := by
    rw [filled j needed]
    exact toNat_chunkSize n j
  have whole : min n (txBuffersNeeded n * dmaBufferSize) = n := by
    rw [Nat.min_eq_left ((txBuffersNeeded_le_iff n _).mp le_rfl)]
  have either (i : Nat) : (∃ j < txBuffersNeeded n, cell info.txBufferCount info.currentTxBuffer j = i) ∨
      ∀ j < txBuffersNeeded n, cell info.txBufferCount info.currentTxBuffer j ≠ i := by
    by_cases some : ∃ j < txBuffersNeeded n, cell info.txBufferCount info.currentTxBuffer j = i
    · exact .inl some
    · exact .inr fun j needed same => some ⟨j, needed, same⟩
  have head : (after.txBufferList info.currentTxBuffer).rcc = n ∧
      (after.txBufferList info.currentTxBuffer).status = first := by
    rcases either info.currentTxBuffer with ⟨j, needed, same⟩ | outside
    · have entry := filled j needed
      rw [same, firstEntrySet_first] at entry
      rw [entry]
      exact ⟨rfl, rfl⟩
    · rw [left _ outside, firstEntrySet_first]
      exact ⟨rfl, rfl⟩
  refine ⟨start, ?_, ?_, ?_, ⟨?_, ?_⟩, ⟨?_, ?_⟩, ?_, ?_, ?_, ?_, fun i => ⟨?_, fun other => ?_⟩⟩
  · intro j needed
    rw [pages] at needed ⊢
    refine (count j needed).trans ?_
    rw [txBuffersNeeded_eq] at needed ⊢
    unfold chunkSize
    simp only [show dmaBufferSize = 4096 from rfl] at needed ⊢
    split <;> omega
  · rw [pages]
    have sizes : (List.range (txBuffersNeeded n)).map (fun j =>
        (after.txBufferList (cell info.txBufferCount info.currentTxBuffer j)).count.toNat) =
          (List.range (txBuffersNeeded n)).map (chunkSize n) :=
      List.map_congr_left fun j needed => count j (List.mem_range.mp needed)
    exact (congrArg List.sum sizes).trans ((sum_chunks n _).trans whole)
  · rw [pages]
    have parts : (List.range (txBuffersNeeded n)).flatMap (fun j =>
        Memory.read (after.txBufferList (cell info.txBufferCount info.currentTxBuffer j)).data 0
          (after.txBufferList (cell info.txBufferCount info.currentTxBuffer j)).count.toNat) =
        (List.range (txBuffersNeeded n)).flatMap fun j =>
          Memory.read buffer (j * dmaBufferSize) (chunkSize n j) := by
      refine List.flatMap_congr fun j needed => ?_
      rw [count j (List.mem_range.mp needed), filled j (List.mem_range.mp needed)]
      exact memcpy_read _ buffer _ _
    exact parts.trans ((flatMap_chunks buffer n _).trans (by rw [whole]))
  · rw [head.1, BitVec.natCast_eq_ofNat, BitVec.toNat_ofNat]
    exact Nat.mod_eq_of_lt (by omega)
  · exact head.2.trans status.symm
  · rw [last, pages]
    exact copyTxFrame_end info.busType buffer inside le_rfl
  · rw [last]
    exact copyTxFrame_index info.busType n buffer n inside
  · rw [used, pages]
  · intro i other outside
    rw [pages] at outside
    rw [left i outside, firstEntrySet_other first n other]
  · intro i outside
    rw [pages] at outside
    rw [left i outside]
    exact (firstEntrySet_data info first n i).1
  · intro i x behind
    rcases either i with ⟨j, needed, rfl⟩ | outside
    · rw [count j needed] at behind
      rw [filled j needed]
      exact (memcpy_behind _ _ behind).trans (congrFun (firstEntrySet_data info first n _).1 x)
    · rw [left i outside]
      exact congrFun (firstEntrySet_data info first n i).1 x
  · rcases either i with ⟨j, needed, rfl⟩ | outside
    · rw [filled j needed]
      exact (firstEntrySet_data info first n _).2
    · rw [left i outside]
      exact (firstEntrySet_data info first n i).2
  · rcases either i with ⟨j, needed, rfl⟩ | outside
    · rw [filled j needed, firstEntrySet_other first n other]
      exact ⟨rfl, rfl⟩
    · rw [left i outside, firstEntrySet_other first n other]
      exact ⟨rfl, rfl⟩

/-- A frame that goes round the end of the ring. -/
theorem frame_in_ring_wraps :
    let info : R56Struct := { txBufferCount := 2, currentTxBuffer := 1 }
    FrameInRing info (r56LoadTxDmaBuffer info .write (fun _ => 0x7e) 5000) (fun _ => 0x7e) 5000 :=
  frame_in_ring .write _ (by decide) (by decide)

end Route56
