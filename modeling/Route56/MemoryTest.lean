import Route56.Struct

namespace Route56

def sharedMemAddressSize : Nat := 0x40000

/-- `sizeof(unsigned long)`. -/
def Build.sizeofLong (build : Build) : Nat := if build.lp64 then 8 else 4

/-- The 32 bit writes to the shared memory so far, by their offset, the first one first. -/
abbrev MemWrites := List (Nat × U32)

/-- What a 32 bit read at an offset gives after the writes so far. -/
abbrev SharedMemory := MemWrites → Nat → U32

def bitPatterns : List U32 :=
  [0x0, 0x55555555, 0xaaaaaaaa, 0x66666666, 0x99999999, 0xffffffff, 0x12345678]

/-- Leave paged mode, and on an R561 enable the access to its RAM; `inb` reads `regValue`. -/
def selectRam (info : R56Struct) (regValue : U8) : R56Struct :=
  let usc := outb info.usc 0xff 2
  if info.hwVersion = r561DeviceId then
    let usc := outb usc 0xff 2
    let enabled := if regValue &&& 0x80 = 0 then regValue ||| 0x80 else regValue
    let inRam := if enabled &&& 0x40 = 0 then enabled ||| 0x40 else enabled
    let needToOutput := regValue &&& 0x80 = 0 ∨ enabled &&& 0x40 = 0
    { info with usc := if needToOutput then outb usc inRam 0 else usc }
  else { info with usc := usc }

/-- The test of the data lines, at one location. -/
def testDataLines (mem : SharedMemory) (writes : MemWrites) : List U32 → MemWrites × Bool
  | [] => (writes, true)
  | pattern :: patterns =>
    let writes := writes ++ [(0, pattern)]
    if mem writes 0 ≠ pattern then (writes, false) else testDataLines mem writes patterns

/-- The loop that writes the incrementing pattern; `left` iterations remain. -/
def writeIncrementing (writes : MemWrites) (i testAddr : Nat) : Nat → MemWrites
  | 0 => writes
  | left + 1 => writeIncrementing (writes ++ [(testAddr, BitVec.ofNat 32 (i * 4))]) (i + 1) (testAddr + 4) left

/-- The loop that reads it back. -/
def readIncrementing (mem : SharedMemory) (writes : MemWrites) (i testAddr : Nat) : Nat → Bool
  | 0 => true
  | left + 1 =>
    if (mem writes testAddr).toNat ≠ i * 4 then false
    else readIncrementing mem writes (i + 1) (testAddr + 4) left

/-- What the test leaves: its result, the ports, the patterns written, and whether it has
cleared the memory afterwards. -/
structure MemoryTest where
  passed : Bool
  info : R56Struct
  writes : MemWrites := []
  cleared : Bool := false

/-- `r56_memory_test`. -/
def r56MemoryTest (info : R56Struct) (regValue : U8) (mem : SharedMemory) : MemoryTest :=
  let testLimit := sharedMemAddressSize / info.build.sizeofLong
  if info.busType ≠ .pci then { passed := true, info := info }
  else
    let info := selectRam info regValue
    let (writes, dataLines) := testDataLines mem [] bitPatterns
    if ¬dataLines then { passed := false, info := info, writes := writes }
    else
      let writes := writeIncrementing writes 0 0 testLimit
      if readIncrementing mem writes 0 0 testLimit then
        { passed := true, info := info, writes := writes, cleared := true }
      else { passed := false, info := info, writes := writes }

/-- The incrementing pattern of the first `count` words. -/
def incrementing (count : Nat) : MemWrites := (List.range count).map fun i => (i * 4, BitVec.ofNat 32 (i * 4))

theorem writeIncrementing_eq (writes : MemWrites) (i left : Nat) :
    writeIncrementing writes i (i * 4) left =
      writes ++ (List.range left).map fun k => ((i + k) * 4, BitVec.ofNat 32 ((i + k) * 4)) := by
  induction left generalizing writes i with
  | zero => simp [writeIncrementing]
  | succ left ih =>
    have next : i * 4 + 4 = (i + 1) * 4 := by omega
    have shift (k : Nat) : i + 1 + k = i + (k + 1) := by omega
    simp only [writeIncrementing, next, ih, shift]
    rw [List.range_succ_eq_map, List.map_cons, List.map_map, List.append_assoc]
    rfl

theorem writeIncrementing_start (writes : MemWrites) (count : Nat) :
    writeIncrementing writes 0 0 count = writes ++ incrementing count := by
  have loop := writeIncrementing_eq writes 0 count
  simpa [incrementing] using loop

theorem readIncrementing_iff (mem : SharedMemory) (writes : MemWrites) (i left : Nat) :
    readIncrementing mem writes i (i * 4) left = true ↔
      ∀ k < left, (mem writes ((i + k) * 4)).toNat = (i + k) * 4 := by
  induction left generalizing i with
  | zero => exact iff_of_true rfl (by omega)
  | succ left ih =>
    have next : i * 4 + 4 = (i + 1) * 4 := by omega
    unfold readIncrementing
    rw [next]
    by_cases first : (mem writes (i * 4)).toNat = i * 4
    · rw [if_neg (not_not.mpr first), ih]
      constructor
      · intro rest k inside
        rcases Nat.eq_zero_or_pos k with rfl | later
        · exact first
        · have moved := rest (k - 1) (by omega)
          rwa [show i + 1 + (k - 1) = i + k by omega] at moved
      · intro all k inside
        have moved := all (k + 1) (by omega)
        rwa [show i + (k + 1) = i + 1 + k by omega] at moved
    · rw [if_pos first]
      exact iff_of_false Bool.false_ne_true fun all => first (all 0 (Nat.succ_pos left))

theorem mem_incrementing {count a : Nat} {v : U32} (member : (a, v) ∈ incrementing count) : a < count * 4 := by
  obtain ⟨i, inside, same⟩ := List.mem_map.mp member
  have bound := List.mem_range.mp inside
  have addr : i * 4 = a := congrArg Prod.fst same
  omega

/-- The patterns of the data lines go to offset 0. -/
theorem testDataLines_writes (mem : SharedMemory) (patterns : List U32) (writes : MemWrites)
    (zero : ∀ w ∈ writes, w.1 = 0) : ∀ w ∈ (testDataLines mem writes patterns).1, w.1 = 0 := by
  induction patterns generalizing writes with
  | nil => exact zero
  | cons pattern patterns ih =>
    have more : ∀ w ∈ writes ++ [(0, pattern)], w.1 = 0 := by
      intro w member
      rcases List.mem_append.mp member with old | new
      · exact zero w old
      · rw [List.mem_singleton.mp new]
    unfold testDataLines
    dsimp only
    split
    · exact more
    · exact ih _ more

/-- When the test passes, every word below the limit gave its pattern back after all were written. -/
theorem r56MemoryTest_passed {info : R56Struct} {regValue : U8} {mem : SharedMemory} (pci : info.busType = .pci)
    (passed : (r56MemoryTest info regValue mem).passed = true) :
    let count := sharedMemAddressSize / info.build.sizeofLong
    let writes := (testDataLines mem [] bitPatterns).1 ++ incrementing count
    (r56MemoryTest info regValue mem).writes = writes ∧ ∀ i < count, (mem writes (i * 4)).toNat = i * 4 := by
  intro count writes
  unfold r56MemoryTest at passed ⊢
  dsimp only at passed ⊢
  rw [if_neg (not_not.mpr pci)] at passed ⊢
  split at passed
  · exact absurd passed Bool.false_ne_true
  · rename_i lines
    rw [if_neg lines]
    split at passed
    · rename_i back
      have start : writeIncrementing (testDataLines mem [] bitPatterns).1 0 0 count = writes :=
        writeIncrementing_start _ count
      have again : readIncrementing mem writes 0 0 count = true := by rw [← start]; exact back
      have words := (readIncrementing_iff mem writes 0 count).mp again
      rw [if_pos back]
      refine ⟨start, fun i inside => ?_⟩
      have word := words i inside
      rwa [Nat.zero_add] at word
    · exact absurd passed Bool.false_ne_true

/-- What an ordinary memory holds at an offset. -/
def lastWrite (writes : MemWrites) (a : Nat) : U32 :=
  writes.foldl (fun held w => if w.1 = a then w.2 else held) 0

theorem lastWrite_snoc (writes : MemWrites) (w : Nat × U32) (a : Nat) :
    lastWrite (writes ++ [w]) a = if w.1 = a then w.2 else lastWrite writes a := by
  rw [lastWrite, List.foldl_append]
  rfl

theorem lastWrite_incrementing (writes : MemWrites) {count i : Nat} (inside : i < count) :
    lastWrite (writes ++ incrementing count) (i * 4) = BitVec.ofNat 32 (i * 4) := by
  induction count with
  | zero => exact absurd inside (Nat.not_lt_zero i)
  | succ count ih =>
    have last : incrementing (count + 1) = incrementing count ++ [(count * 4, BitVec.ofNat 32 (count * 4))] := by
      rw [incrementing, List.range_succ, List.map_append]
      rfl
    rw [last, ← List.append_assoc, lastWrite_snoc]
    by_cases same : i = count
    · rw [if_pos (by rw [same]), same]
    · rw [if_neg (fun eq => same (by dsimp only at eq; omega))]
      exact ih (by omega)

/-- A memory that works below the limit of the test passes. -/
theorem r56MemoryTest_of_works {info : R56Struct} {mem : SharedMemory} (regValue : U8)
    (works : ∀ writes, ∀ a < sharedMemAddressSize / info.build.sizeofLong * 4, mem writes a = lastWrite writes a) :
    (r56MemoryTest info regValue mem).passed = true := by
  have some : 0 < sharedMemAddressSize / info.build.sizeofLong * 4 := by
    unfold Build.sizeofLong
    split <;> decide
  have small : sharedMemAddressSize / info.build.sizeofLong * 4 ≤ sharedMemAddressSize := by
    unfold Build.sizeofLong
    split <;> decide
  have lines (patterns : List U32) (writes : MemWrites) : (testDataLines mem writes patterns).2 = true := by
    induction patterns generalizing writes with
    | nil => rfl
    | cons pattern patterns ih =>
      have held : mem (writes ++ [(0, pattern)]) 0 = pattern := by
        rw [works _ 0 some, lastWrite_snoc, if_pos rfl]
      unfold testDataLines
      dsimp only
      rw [if_neg (not_not.mpr held)]
      exact ih _
  have back (writes : MemWrites) : readIncrementing mem (writeIncrementing writes 0 0
      (sharedMemAddressSize / info.build.sizeofLong)) 0 0 (sharedMemAddressSize / info.build.sizeofLong) = true := by
    rw [writeIncrementing_start]
    refine (readIncrementing_iff mem _ 0 _).mpr fun i inside => ?_
    have below : i * 4 < sharedMemAddressSize := by omega
    rw [Nat.zero_add, works _ (i * 4) (by omega), lastWrite_incrementing _ inside, BitVec.toNat_ofNat]
    exact Nat.mod_eq_of_lt (below.trans (by decide))
  unfold r56MemoryTest
  dsimp only
  split
  · rfl
  · rw [if_neg (not_not.mpr (lines _ _)), if_pos (back _)]

/-- A word offset of the shared memory. -/
def InWindow (a : Nat) : Prop := a < sharedMemAddressSize ∧ a % 4 = 0

instance (a : Nat) : Decidable (InWindow a) := inferInstanceAs (Decidable (a < sharedMemAddressSize ∧ a % 4 = 0))

/-- The pattern of a word has been written there, and was read back when all words were written. -/
def Verified (mem : SharedMemory) (writes : MemWrites) (a : Nat) : Prop :=
  (a, BitVec.ofNat 32 a) ∈ writes ∧ (mem writes a).toNat = a

/-- The two offsets select one word. -/
def Aliased (mem : SharedMemory) (a b : Nat) : Prop := ∀ writes, mem writes a = mem writes b

/-- No word answers at the offset, where reads then give something else than its pattern. -/
def Missing (mem : SharedMemory) (a : Nat) : Prop := ∃ v : U32, v.toNat ≠ a ∧ ∀ writes, mem writes a = v

theorem sizeofLong_cases (build : Build) :
    build.sizeofLong = 4 ∨ build.sizeofLong = 8 := by
  unfold Build.sizeofLong
  split
  · exact .inr rfl
  · exact .inl rfl

/-- With four bytes to a `long` all words are verified. -/
theorem r56MemoryTest_verified {info : R56Struct} {regValue : U8} {mem : SharedMemory} (pci : info.busType = .pci)
    (four : info.build.sizeofLong = 4) (passed : (r56MemoryTest info regValue mem).passed = true) :
    ∀ a, InWindow a → Verified mem (r56MemoryTest info regValue mem).writes a := by
  rintro a ⟨inside, aligned⟩
  obtain ⟨writes, words⟩ := r56MemoryTest_passed pci passed
  have count : sharedMemAddressSize / info.build.sizeofLong = 65536 := by rw [four]; rfl
  rw [count] at writes words
  have below : a < 65536 * 4 := inside
  have word : a / 4 * 4 = a := by omega
  rw [writes]
  refine ⟨List.mem_append_right _ (List.mem_map.mpr ⟨a / 4, List.mem_range.mpr (by omega), by rw [word]⟩), ?_⟩
  have back := words (a / 4) (by omega)
  rwa [word] at back

/-- With eight the second half is never written. -/
theorem r56MemoryTest_half {info : R56Struct} {regValue : U8} {mem : SharedMemory} (pci : info.busType = .pci)
    (eight : info.build.sizeofLong = 8) (passed : (r56MemoryTest info regValue mem).passed = true) {a : Nat}
    (upper : 0x20000 ≤ a) {v : U32} : (a, v) ∉ (r56MemoryTest info regValue mem).writes := by
  intro member
  obtain ⟨writes, -⟩ := r56MemoryTest_passed pci passed
  have count : sharedMemAddressSize / info.build.sizeofLong = 32768 := by rw [eight]; rfl
  rw [count] at writes
  rw [writes] at member
  rcases List.mem_append.mp member with lines | words
  · have zero := testDataLines_writes mem bitPatterns [] (by nofun) _ lines
    dsimp only at zero
    omega
  · have bound := mem_incrementing words
    omega

/-- A memory in which bit 17 of an address is stuck. -/
def stuckMemory : SharedMemory := fun writes a => lastWrite writes (a % 0x20000)

/-- A memory of which the second half is missing. -/
def halfMemory : SharedMemory := fun writes a => if a < 0x20000 then lastWrite writes a else 0xffffffff

theorem stuckMemory_passes {info : R56Struct} (regValue : U8) (eight : info.build.sizeofLong = 8) :
    (r56MemoryTest info regValue stuckMemory).passed = true := by
  refine r56MemoryTest_of_works regValue fun writes a inside => ?_
  rw [eight] at inside
  have below : a < 0x20000 := inside
  rw [stuckMemory, Nat.mod_eq_of_lt below]

theorem halfMemory_passes {info : R56Struct} (regValue : U8) (eight : info.build.sizeofLong = 8) :
    (r56MemoryTest info regValue halfMemory).passed = true := by
  refine r56MemoryTest_of_works regValue fun writes a inside => ?_
  rw [eight] at inside
  exact if_pos inside

/-- On a PCI adapter the test verifies the whole window, and so detects every pair of aliased words
and every missing word, exactly when `unsigned long` has four bytes. -/
theorem memory_test_covers_iff {info : R56Struct} (pci : info.busType = .pci) (regValue : U8) :
    ((∀ mem, (r56MemoryTest info regValue mem).passed = true →
        ∀ a, InWindow a → Verified mem (r56MemoryTest info regValue mem).writes a) ↔
      info.build.sizeofLong = 4) ∧
    ((∀ mem a b, InWindow a → InWindow b → a ≠ b → Aliased mem a b →
        (r56MemoryTest info regValue mem).passed = false) ↔ info.build.sizeofLong = 4) ∧
    ((∀ mem a, InWindow a → Missing mem a → (r56MemoryTest info regValue mem).passed = false) ↔
      info.build.sizeofLong = 4) := by
  have upper : InWindow 0x20000 := by decide
  have lower : InWindow 0 := by decide
  have four (not : info.build.sizeofLong = 8 → False) : info.build.sizeofLong = 4 :=
    (sizeofLong_cases info.build).resolve_right not
  refine ⟨⟨fun covers => four fun eight => ?_, fun four mem passed => r56MemoryTest_verified pci four passed⟩,
    ⟨fun detects => four fun eight => ?_, fun four mem a b inside other differ aliased => ?_⟩,
    ⟨fun detects => four fun eight => ?_, fun four mem a inside missing => ?_⟩⟩
  · have passed := stuckMemory_passes regValue eight
    exact r56MemoryTest_half pci eight passed le_rfl (covers _ passed _ upper).1
  · have failed := detects stuckMemory 0 0x20000 lower upper (by decide) fun writes => rfl
    exact Bool.false_ne_true (failed.symm.trans (stuckMemory_passes regValue eight))
  · refine Bool.eq_false_iff.mpr fun passed => differ ?_
    have first := (r56MemoryTest_verified pci four passed a inside).2
    have second := (r56MemoryTest_verified pci four passed b other).2
    rw [← first, ← second, aliased]
  · have failed := detects halfMemory 0x20000 upper ⟨0xffffffff, by decide, fun writes => rfl⟩
    exact Bool.false_ne_true (failed.symm.trans (halfMemory_passes regValue eight))
  · obtain ⟨v, wrong, reads⟩ := missing
    refine Bool.eq_false_iff.mpr fun passed => wrong ?_
    rw [← reads]
    exact (r56MemoryTest_verified pci four passed a inside).2

/-- A 32 bit build. -/
theorem memory_test_covers_ilp32 :
    (r56MemoryTest { build := { lp64 := false } } 0 stuckMemory).passed = false := by
  have covers := @memory_test_covers_iff { build := { lp64 := false } } rfl 0
  exact covers.2.1.mpr rfl stuckMemory 0 0x20000 (by decide) (by decide) (by decide) fun writes => rfl

theorem memory_test_skips_half :
    (r56MemoryTest {} 0 stuckMemory).passed = true ∧ Aliased stuckMemory 0 0x20000 ∧
      (0x20000, BitVec.ofNat 32 0x20000) ∉ (r56MemoryTest {} 0 stuckMemory).writes := by
  have passed := @stuckMemory_passes {} 0 rfl
  exact ⟨passed, fun writes => rfl, r56MemoryTest_half rfl rfl passed le_rfl⟩

end Route56
