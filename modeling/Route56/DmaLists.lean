import Route56.Struct
import Route56.Lib.Cycle
import Mathlib.Order.CompletePartialOrder
import Mathlib.Order.Interval.Set.Disjoint

namespace Route56

/-- The addresses in a `DMABUFFERENTRY`. `physEntry` and `virtAddr` are for the driver, the other
two for the adapter. -/
structure ListEntry where
  physAddr : U32 := 0
  link : U32 := 0
  virtAddr : Nat := 0
  physEntry : U32 := 0
  dmaAddr : Nat := 0

/-- A page `dma_alloc_coherent` returns: its address for the processor and for the adapter. -/
structure CoherentPage where
  virt : Nat
  dma : Nat

/-- The results of the successive calls of `dma_alloc_coherent`. -/
abbrev CoherentAlloc := Nat → Option CoherentPage

/-- The fields of `r56_struct` the DMA lists are built with; `entrySize` is
`sizeof(DMABUFFERENTRY)`, `bufferList` the entries in the page at `bufferListVirt`, the receive
ring first. `calls` counts the calls of `dma_alloc_coherent` for them. -/
structure DmaLists where
  busType : BusType
  entrySize : Nat
  memoryBase : Nat := 0
  lastMemAlloc : U32 := 0
  rxBufferCount : Nat
  txBufferCount : Nat
  bufferListVirt : Nat := 0
  bufferListPhys : U32 := 0
  bufferListDmaAddr : Nat := 0
  bufferList : Nat → ListEntry := fun _ => {}
  calls : Nat := 0

namespace DmaLists

/-- The loop that links `count` entries from entry `first` on. -/
def linkList (s : DmaLists) (first count : Nat) : Nat → (Nat → ListEntry) → Nat → ListEntry
  | 0, list => list
  | i + 1, list =>
    let list := linkList s first count i list
    let start : U32 := s.bufferListPhys + BitVec.ofNat 32 (first * s.entrySize)
    Function.update list (first + i) { list (first + i) with
      physEntry := s.bufferListPhys + BitVec.ofNat 32 ((first + i) * s.entrySize)
      link := if i < count - 1 then start + BitVec.ofNat 32 ((i + 1) * s.entrySize) else start }

/-- The links of both rings, in a page of zeros. -/
def buildLinks (s : DmaLists) : DmaLists :=
  let list := s.linkList 0 s.rxBufferCount s.rxBufferCount fun _ => {}
  { s with bufferList := s.linkList s.rxBufferCount s.txBufferCount s.txBufferCount list }

/-- `r56_alloc_buffer_list_memory`. -/
def r56AllocBufferListMemory (alloc : CoherentAlloc) (s : DmaLists) : Option DmaLists :=
  if s.busType = .pci then
    some (buildLinks { s with
      bufferListVirt := s.memoryBase + s.lastMemAlloc.toNat
      bufferListPhys := s.lastMemAlloc
      lastMemAlloc := s.lastMemAlloc + BitVec.ofNat 32 dmaBufferSize })
  else match alloc s.calls with
    | none => none
    | some page =>
      some (buildLinks { s with
        bufferListVirt := page.virt
        bufferListDmaAddr := page.dma
        bufferListPhys := BitVec.ofNat 32 page.dma
        calls := s.calls + 1 })

/-- One iteration of `r56_alloc_frame_memory`. -/
def allocFrame (alloc : CoherentAlloc) (s : DmaLists) (index : Nat) : Option DmaLists :=
  if s.busType = .pci then
    some { s with
      bufferList := Function.update s.bufferList index { s.bufferList index with
        virtAddr := s.memoryBase + s.lastMemAlloc.toNat
        physAddr := s.lastMemAlloc }
      lastMemAlloc := s.lastMemAlloc + BitVec.ofNat 32 dmaBufferSize }
  else match alloc s.calls with
    | none => none
    | some page =>
      some { s with
        bufferList := Function.update s.bufferList index { s.bufferList index with
          virtAddr := page.virt
          dmaAddr := page.dma
          physAddr := BitVec.ofNat 32 page.dma }
        calls := s.calls + 1 }

/-- `r56_alloc_frame_memory` for the `count` entries from `first` on. -/
def r56AllocFrameMemory (alloc : CoherentAlloc) (first : Nat) : Nat → DmaLists → Option DmaLists
  | 0, s => some s
  | i + 1, s => (r56AllocFrameMemory alloc first i s).bind fun s => allocFrame alloc s (first + i)

/-- What `r56_allocate_dma_buffers` allocates for the rings, when the counts are known. -/
def r56AllocateDmaBuffers (alloc : CoherentAlloc) (s : DmaLists) : Option DmaLists :=
  ((r56AllocBufferListMemory alloc { s with lastMemAlloc := 0, calls := 0 }).bind fun s =>
    r56AllocFrameMemory alloc 0 s.rxBufferCount s).bind fun s =>
      r56AllocFrameMemory alloc s.rxBufferCount s.txBufferCount s

/-- The entry at a physical address of the list page. -/
def entryAt (s : DmaLists) (phys : U32) : ListEntry :=
  s.bufferList ((phys - s.bufferListPhys).toNat / s.entrySize)

/-- The adapter goes on to the entry that the one at `phys` links to. -/
def follow (s : DmaLists) (phys : U32) : U32 := (s.entryAt phys).link

/-- The physical addresses of the entries of a ring. -/
def ring (s : DmaLists) (first count : Nat) : List U32 :=
  (List.range count).map fun i => (s.bufferList (first + i)).physEntry

def rxRing (s : DmaLists) : List U32 := s.ring 0 s.rxBufferCount

def txRing (s : DmaLists) : List U32 := s.ring s.rxBufferCount s.txBufferCount

/-- All entries of both rings. -/
def entries (s : DmaLists) : Nat := s.rxBufferCount + s.txBufferCount

end DmaLists

/-- The addresses of a page. -/
def pageAt (start : Nat) : Set Nat := Set.Ico start (start + dmaBufferSize)

/-- From each address of the ring the links lead to all addresses of the ring, to each one once,
and back. -/
structure DmaLists.Circular (s : DmaLists) (ring : List U32) : Prop where
  nodup : ring.Nodup
  visits : ∀ p ∈ ring, ((List.range ring.length).map fun k => s.follow^[k] p).Perm ring
  returns : ∀ p ∈ ring, s.follow^[ring.length] p = p

/-- The pages of the list and of the buffers, from one side, do not overlap. -/
structure DmaLists.Apart (s : DmaLists) (list : Nat) (buffer : ListEntry → Nat) : Prop where
  buffers : ∀ i < s.entries, ∀ j < s.entries, i ≠ j →
    Disjoint (pageAt (buffer (s.bufferList i))) (pageAt (buffer (s.bufferList j)))
  list : ∀ i < s.entries, Disjoint (pageAt (buffer (s.bufferList i))) (pageAt list)

/-- The lists are well formed. -/
structure DmaLists.WellFormed (s : DmaLists) : Prop where
  rx : s.Circular s.rxRing
  tx : s.Circular s.txRing
  disjoint : s.rxRing.Disjoint s.txRing
  inside : ∀ p ∈ s.rxRing ++ s.txRing,
    s.bufferListPhys.toNat ≤ p.toNat ∧ p.toNat + s.entrySize ≤ s.bufferListPhys.toNat + dmaBufferSize
  physical : s.Apart s.bufferListPhys.toNat fun e => e.physAddr.toNat
  virtual : s.Apart s.bufferListVirt ListEntry.virtAddr
  shared : s.busType = .pci → ∀ i < s.entries, (s.bufferList i).physAddr.toNat + dmaBufferSize ≤ 0x40000

/-- `dma_alloc_coherent` returns pages that the adapter reaches with its 32 address bits and
that do not overlap. -/
structure CoherentAlloc.Sound (alloc : CoherentAlloc) : Prop where
  reach : ∀ n page, alloc n = some page → page.dma + dmaBufferSize ≤ 2 ^ 32
  apart : ∀ m n first second, m ≠ n → alloc m = some first → alloc n = some second →
    Disjoint (pageAt first.dma) (pageAt second.dma) ∧ Disjoint (pageAt first.virt) (pageAt second.virt)

namespace DmaLists

theorem linkList_outside (s : DmaLists) (first count : Nat) {done : Nat} (list : Nat → ListEntry) {k : Nat}
    (outside : k < first ∨ first + done ≤ k) : s.linkList first count done list k = list k := by
  induction done with
  | zero => rfl
  | succ done ih =>
    unfold linkList
    rw [Function.update_of_ne (by omega)]
    exact ih (by omega)

/-- Each entry of the list is left with its own address and with that of the next one. -/
theorem linkList_inside (s : DmaLists) (first : Nat) {count done i : Nat} (list : Nat → ListEntry) (inside : i < done)
    (within : done ≤ count) :
    let e := s.linkList first count done list (first + i)
    e.physEntry = s.bufferListPhys + BitVec.ofNat 32 ((first + i) * s.entrySize) ∧
      e.link = s.bufferListPhys + BitVec.ofNat 32 ((first + (i + 1) % count) * s.entrySize) := by
  induction done with
  | zero => exact absurd inside (Nat.not_lt_zero i)
  | succ done ih =>
    unfold linkList
    dsimp only
    by_cases last : i = done
    · subst last
      rw [Function.update_self]
      refine ⟨rfl, ?_⟩
      dsimp only
      by_cases more : i < count - 1
      · rw [if_pos more, Nat.mod_eq_of_lt (by omega), BitVec.add_assoc, ← BitVec.ofNat_add, ← Nat.add_mul]
      · have wraps : i + 1 = count := by omega
        rw [if_neg more, wraps, Nat.mod_self, Nat.add_zero]
    · rw [Function.update_of_ne (by omega)]
      exact ih (by omega) (by omega)

/-- The entries of the two rings, with their links. -/
structure Linked (s : DmaLists) : Prop where
  phys : ∀ k < s.entries, (s.bufferList k).physEntry = s.bufferListPhys + BitVec.ofNat 32 (k * s.entrySize)
  rx : ∀ i < s.rxBufferCount, (s.bufferList i).link =
    s.bufferListPhys + BitVec.ofNat 32 ((i + 1) % s.rxBufferCount * s.entrySize)
  tx : ∀ i < s.txBufferCount, (s.bufferList (s.rxBufferCount + i)).link =
    s.bufferListPhys + BitVec.ofNat 32 ((s.rxBufferCount + (i + 1) % s.txBufferCount) * s.entrySize)

theorem buildLinks_linked (s : DmaLists) : s.buildLinks.Linked := by
  have rx {i : Nat} (inside : i < s.rxBufferCount) := s.linkList_inside 0 (fun _ => {}) inside le_rfl
  simp only [Nat.zero_add] at rx
  have tx {i : Nat} (inside : i < s.txBufferCount) :=
    s.linkList_inside s.rxBufferCount (s.linkList 0 s.rxBufferCount s.rxBufferCount fun _ => {}) inside le_rfl
  have first {i : Nat} (inside : i < s.rxBufferCount) :
      s.buildLinks.bufferList i = s.linkList 0 s.rxBufferCount s.rxBufferCount (fun _ => {}) i :=
    s.linkList_outside s.rxBufferCount s.txBufferCount _ (Or.inl inside)
  refine ⟨fun k inside => ?_, fun i inside => ?_, fun i inside => (tx inside).2⟩
  · by_cases receive : k < s.rxBufferCount
    · exact (congrArg ListEntry.physEntry (first receive)).trans (rx receive).1
    · have below : k - s.rxBufferCount < s.txBufferCount := by
        have total : k < s.rxBufferCount + s.txBufferCount := inside
        omega
      have entry := (tx below).1
      rwa [Nat.add_sub_cancel' (Nat.le_of_not_lt receive)] at entry
  · exact (congrArg ListEntry.link (first inside)).trans (rx inside).2

/-- What the allocation of the buffers leaves as it is. -/
structure SameLinks (s t : DmaLists) : Prop where
  busType : t.busType = s.busType
  entrySize : t.entrySize = s.entrySize
  memoryBase : t.memoryBase = s.memoryBase
  rxBufferCount : t.rxBufferCount = s.rxBufferCount
  txBufferCount : t.txBufferCount = s.txBufferCount
  virt : t.bufferListVirt = s.bufferListVirt
  phys : t.bufferListPhys = s.bufferListPhys
  entry : ∀ k, (t.bufferList k).physEntry = (s.bufferList k).physEntry ∧
    (t.bufferList k).link = (s.bufferList k).link

theorem SameLinks.refl (s : DmaLists) : SameLinks s s := ⟨rfl, rfl, rfl, rfl, rfl, rfl, rfl, fun _ => ⟨rfl, rfl⟩⟩

theorem SameLinks.trans {s t u : DmaLists} (first : SameLinks s t) (second : SameLinks t u) : SameLinks s u :=
  ⟨second.busType.trans first.busType, second.entrySize.trans first.entrySize,
    second.memoryBase.trans first.memoryBase, second.rxBufferCount.trans first.rxBufferCount,
    second.txBufferCount.trans first.txBufferCount, second.virt.trans first.virt, second.phys.trans first.phys,
    fun k => ⟨(second.entry k).1.trans (first.entry k).1, (second.entry k).2.trans (first.entry k).2⟩⟩

theorem SameLinks.linked {s t : DmaLists} (same : SameLinks s t) (linked : s.Linked) : t.Linked := by
  refine ⟨fun k inside => ?_, fun i inside => ?_, fun i inside => ?_⟩
  · have total : k < s.entries := by
      have bound : k < t.rxBufferCount + t.txBufferCount := inside
      rwa [same.rxBufferCount, same.txBufferCount] at bound
    rw [(same.entry k).1, same.phys, same.entrySize, linked.phys k total]
  · rw [same.rxBufferCount] at inside ⊢
    rw [(same.entry i).2, same.phys, same.entrySize, linked.rx i inside]
  · rw [same.txBufferCount] at inside ⊢
    rw [same.rxBufferCount, (same.entry _).2, same.phys, same.entrySize, linked.tx i inside]

theorem offset_small {s : DmaLists} (size : s.entrySize ≤ 64) (fit : s.entries ≤ 62) {k : Nat}
    (inside : k < s.entries) : k * s.entrySize + s.entrySize ≤ dmaBufferSize := by
  have bound : (k + 1) * s.entrySize ≤ 62 * 64 := Nat.mul_le_mul (by omega) size
  have product : (k + 1) * s.entrySize = k * s.entrySize + s.entrySize := by ring
  have page : dmaBufferSize = 4096 := rfl
  omega

theorem offset_phys {s : DmaLists} (size : s.entrySize ≤ 64) (fit : s.entries ≤ 62) {k : Nat} (inside : k < s.entries) :
    (s.bufferListPhys + BitVec.ofNat 32 (k * s.entrySize) - s.bufferListPhys).toNat = k * s.entrySize := by
  have small := offset_small size fit inside
  have page : dmaBufferSize = 4096 := rfl
  rw [BitVec.add_comm, BitVec.add_sub_cancel, BitVec.toNat_ofNat]
  exact Nat.mod_eq_of_lt (by omega)

theorem entryAt_phys {s : DmaLists} (some : 0 < s.entrySize) (size : s.entrySize ≤ 64) (fit : s.entries ≤ 62) {k : Nat}
    (inside : k < s.entries) :
    s.entryAt (s.bufferListPhys + BitVec.ofNat 32 (k * s.entrySize)) = s.bufferList k := by
  rw [entryAt, offset_phys size fit inside, Nat.mul_div_cancel _ some]

theorem phys_inj {s : DmaLists} (some : 0 < s.entrySize) (size : s.entrySize ≤ 64) (fit : s.entries ≤ 62)
    (linked : s.Linked) {j k : Nat} (first : j < s.entries) (second : k < s.entries)
    (same : (s.bufferList j).physEntry = (s.bufferList k).physEntry) : j = k := by
  rw [linked.phys j first, linked.phys k second] at same
  have offsets := congrArg (fun p => (p - s.bufferListPhys).toNat) same
  rw [offset_phys size fit first, offset_phys size fit second] at offsets
  exact Nat.eq_of_mul_eq_mul_right some offsets

/-- A ring whose entries link to the next one, and the last to the first, is circular. -/
theorem circular_of_links {s : DmaLists} (some : 0 < s.entrySize) (size : s.entrySize ≤ 64) (fit : s.entries ≤ 62)
    (linked : s.Linked) {first count : Nat} (within : first + count ≤ s.entries)
    (links : ∀ i < count, (s.bufferList (first + i)).link =
      s.bufferListPhys + BitVec.ofNat 32 ((first + (i + 1) % count) * s.entrySize)) :
    s.Circular (s.ring first count) := by
  have addr (i : Nat) (inside : i < count) : (s.bufferList (first + i)).physEntry =
      s.bufferListPhys + BitVec.ofNat 32 ((first + i) * s.entrySize) := linked.phys _ (by omega)
  have round : Cycle.GoesRound s.follow (fun i => (s.bufferList (first + i)).physEntry) count := by
    intro i inside
    have next := Nat.mod_lt (i + 1) ((Nat.zero_le i).trans_lt inside)
    dsimp only
    rw [addr i inside, addr _ next, follow, entryAt_phys some size fit (by omega), links i inside]
  have length : (s.ring first count).length = count := by rw [ring, List.length_map, List.length_range]
  refine ⟨?_, fun p member => ?_, fun p member => ?_⟩
  · refine List.Nodup.map_on (fun i iIn j jIn same => ?_) List.nodup_range
    have iIn := List.mem_range.mp iIn
    have jIn := List.mem_range.mp jIn
    have index := phys_inj some size fit linked (by omega) (by omega) same
    omega
  · obtain ⟨i, inside, rfl⟩ := List.mem_map.mp member
    rw [length]
    exact round.visits (List.mem_range.mp inside)
  · obtain ⟨i, inside, rfl⟩ := List.mem_map.mp member
    rw [length]
    exact round.returns (List.mem_range.mp inside)

/-- The pages in the order in which they are taken: those of the shared memory, or the ones
`dma_alloc_coherent` returns. -/
def grant (alloc : CoherentAlloc) (s : DmaLists) (n : Nat) : Option CoherentPage :=
  if s.busType = .pci then some ⟨s.memoryBase + n * dmaBufferSize, n * dmaBufferSize⟩ else alloc n

/-- The number of pages that have been taken. -/
def Taken (s : DmaLists) (n : Nat) : Prop :=
  if s.busType = .pci then s.lastMemAlloc = BitVec.ofNat 32 (n * dmaBufferSize) else s.calls = n

theorem taken_pci {s : DmaLists} (pci : s.busType = .pci) (n : Nat) :
    s.Taken n ↔ s.lastMemAlloc = BitVec.ofNat 32 (n * dmaBufferSize) := by
  rw [Taken, if_pos pci]

theorem taken_isa {s : DmaLists} (isa : s.busType ≠ .pci) (n : Nat) : s.Taken n ↔ s.calls = n := by
  rw [Taken, if_neg isa]

theorem taken_addr {n : Nat} (few : n ≤ 63) : (BitVec.ofNat 32 (n * dmaBufferSize)).toNat = n * dmaBufferSize := by
  have page : dmaBufferSize = 4096 := rfl
  rw [BitVec.toNat_ofNat, page]
  exact Nat.mod_eq_of_lt (by omega)

/-- `allocFrame` gives the entry the next page. -/
theorem allocFrame_spec {alloc : CoherentAlloc} {s t : DmaLists} {index n : Nat} (taken : s.Taken n) (few : n ≤ 63)
    (done : allocFrame alloc s index = some t) :
    ∃ page, grant alloc s n = some page ∧ t.Taken (n + 1) ∧ SameLinks s t ∧
      (t.bufferList index).physAddr = BitVec.ofNat 32 page.dma ∧ (t.bufferList index).virtAddr = page.virt ∧
      ∀ k ≠ index, t.bufferList k = s.bufferList k := by
  have links {e : ListEntry} (phys : e.physEntry = (s.bufferList index).physEntry)
      (link : e.link = (s.bufferList index).link) (k : Nat) :
      (Function.update s.bufferList index e k).physEntry = (s.bufferList k).physEntry ∧
        (Function.update s.bufferList index e k).link = (s.bufferList k).link := by
    by_cases same : k = index
    · rw [same, Function.update_self]
      exact ⟨phys, link⟩
    · rw [Function.update_of_ne same]
      exact ⟨rfl, rfl⟩
  unfold allocFrame at done
  split at done
  · rename_i pci
    cases done
    have last : s.lastMemAlloc = BitVec.ofNat 32 (n * dmaBufferSize) := (taken_pci pci _).mp taken
    have next : s.lastMemAlloc + BitVec.ofNat 32 dmaBufferSize = BitVec.ofNat 32 ((n + 1) * dmaBufferSize) := by
      rw [last, ← BitVec.ofNat_add, Nat.add_mul, Nat.one_mul]
    refine ⟨⟨s.memoryBase + n * dmaBufferSize, n * dmaBufferSize⟩, if_pos pci, ?_,
      ⟨rfl, rfl, rfl, rfl, rfl, rfl, rfl, links rfl rfl⟩, ?_, ?_, fun k other => Function.update_of_ne other _ _⟩
    · exact (taken_pci (by exact pci) (n + 1)).mpr next
    · show (Function.update s.bufferList index _ index).physAddr = _
      rw [Function.update_self]
      exact last
    · show (Function.update s.bufferList index _ index).virtAddr = _
      rw [Function.update_self]
      show s.memoryBase + s.lastMemAlloc.toNat = _
      rw [last, taken_addr few]
  · rename_i isa
    have called : s.calls = n := (taken_isa isa _).mp taken
    rw [called] at done
    split at done
    · exact absurd done (by nofun)
    · rename_i page got
      cases done
      refine ⟨page, (if_neg isa).trans got, ?_, ⟨rfl, rfl, rfl, rfl, rfl, rfl, rfl, links rfl rfl⟩, ?_, ?_,
        fun k other => Function.update_of_ne other _ _⟩
      · exact (taken_isa (by exact isa) (n + 1)).mpr rfl
      · show (Function.update s.bufferList index _ index).physAddr = _
        rw [Function.update_self]
      · show (Function.update s.bufferList index _ index).virtAddr = _
        rw [Function.update_self]

theorem SameLinks.grant {alloc : CoherentAlloc} {s t : DmaLists} (same : SameLinks s t) (n : Nat) :
    t.grant alloc n = s.grant alloc n := by
  unfold DmaLists.grant
  rw [same.busType, same.memoryBase]

theorem allocFrame_isSome {alloc : CoherentAlloc} {s : DmaLists} (index : Nat) {n : Nat} (taken : s.Taken n) :
    (allocFrame alloc s index).isSome ↔ (grant alloc s n).isSome := by
  unfold allocFrame grant
  by_cases pci : s.busType = .pci
  · rw [if_pos pci, if_pos pci]
    exact iff_of_true rfl rfl
  · have called : s.calls = n := (taken_isa pci _).mp taken
    rw [if_neg pci, if_neg pci, called]
    cases alloc n with
    | none => exact Iff.rfl
    | some page => exact iff_of_true rfl rfl

/-- The entry has the page. -/
def Owns (s : DmaLists) (k : Nat) (page : CoherentPage) : Prop :=
  (s.bufferList k).physAddr = BitVec.ofNat 32 page.dma ∧ (s.bufferList k).virtAddr = page.virt

/-- `r56_alloc_frame_memory` gives the entries of its list the next pages in order. -/
theorem r56AllocFrameMemory_spec {alloc : CoherentAlloc} {first count n : Nat} {s t : DmaLists} (taken : s.Taken n)
    (few : n + count ≤ 63) (done : r56AllocFrameMemory alloc first count s = some t) :
    t.Taken (n + count) ∧ SameLinks s t ∧
      (∀ i < count, ∃ page, grant alloc s (n + i) = some page ∧ t.Owns (first + i) page) ∧
      ∀ k, (k < first ∨ first + count ≤ k) → t.bufferList k = s.bufferList k := by
  induction count generalizing t with
  | zero =>
    cases done
    exact ⟨taken, .refl s, by omega, fun _ _ => rfl⟩
  | succ count ih =>
    obtain ⟨u, before, last⟩ := Option.bind_eq_some_iff.mp done
    obtain ⟨taken, same, owned, rest⟩ := ih (by omega) before
    obtain ⟨page, got, more, links, phys, virt, others⟩ := allocFrame_spec taken (by omega) last
    refine ⟨more, same.trans links, fun i inside => ?_, fun k outside => ?_⟩
    · by_cases new : i = count
      · subst new
        exact ⟨page, (same.grant _).symm.trans got, phys, virt⟩
      · obtain ⟨old, granted, owns⟩ := owned i (by omega)
        refine ⟨old, granted, ?_⟩
        rw [Owns, others _ (by omega)]
        exact owns
    · rw [others k (by omega)]
      exact rest k (by omega)

theorem r56AllocFrameMemory_isSome {alloc : CoherentAlloc} (first : Nat) {count n : Nat} {s : DmaLists}
    (taken : s.Taken n) (few : n + count ≤ 63) :
    (r56AllocFrameMemory alloc first count s).isSome ↔ ∀ i < count, (grant alloc s (n + i)).isSome := by
  induction count with
  | zero => exact iff_of_true rfl (by omega)
  | succ count ih =>
    unfold r56AllocFrameMemory
    cases before : r56AllocFrameMemory alloc first count s with
    | none =>
      rw [before] at ih
      exact iff_of_false Bool.false_ne_true
        fun all => Bool.false_ne_true ((ih (by omega)).mpr fun i inside => all i (by omega))
    | some u =>
      rw [before] at ih
      obtain ⟨taken, same, -⟩ := r56AllocFrameMemory_spec taken (by omega) before
      have all := (ih (by omega)).mp rfl
      rw [Option.bind_some, allocFrame_isSome _ taken, same.grant]
      constructor
      · intro last i inside
        by_cases new : i = count
        · rw [new]
          exact last
        · exact all i (by omega)
      · exact fun each => each count (by omega)

theorem r56AllocBufferListMemory_spec {alloc : CoherentAlloc} {s t : DmaLists} (taken : s.Taken 0)
    (done : r56AllocBufferListMemory alloc s = some t) :
    ∃ page, grant alloc s 0 = some page ∧ t.Taken 1 ∧ t.Linked ∧ t.busType = s.busType ∧ t.entrySize = s.entrySize ∧
      t.memoryBase = s.memoryBase ∧ t.rxBufferCount = s.rxBufferCount ∧ t.txBufferCount = s.txBufferCount ∧
      t.bufferListPhys = BitVec.ofNat 32 page.dma ∧ t.bufferListVirt = page.virt := by
  unfold r56AllocBufferListMemory at done
  split at done
  · rename_i pci
    cases done
    have last : s.lastMemAlloc = BitVec.ofNat 32 (0 * dmaBufferSize) := (taken_pci pci _).mp taken
    refine ⟨⟨s.memoryBase + 0 * dmaBufferSize, 0 * dmaBufferSize⟩, if_pos pci, ?_, buildLinks_linked _, ?_⟩
    · refine (taken_pci (by dsimp only [buildLinks]; exact pci) 1).mpr ?_
      dsimp only [buildLinks]
      rw [last, ← BitVec.ofNat_add, Nat.zero_mul, Nat.zero_add, Nat.one_mul]
    · simp only [buildLinks, true_and]
      refine ⟨last, ?_⟩
      rw [last, taken_addr (Nat.zero_le 63)]
  · rename_i isa
    have called : s.calls = 0 := (taken_isa isa _).mp taken
    rw [called] at done
    split at done
    · exact absurd done (by nofun)
    · rename_i page got
      cases done
      refine ⟨page, (if_neg isa).trans got, ?_, buildLinks_linked _, ?_⟩
      · exact (taken_isa (by exact isa) 1).mpr rfl
      · simp only [buildLinks, and_self]

theorem r56AllocBufferListMemory_isSome {alloc : CoherentAlloc} {s : DmaLists} (taken : s.Taken 0) :
    (r56AllocBufferListMemory alloc s).isSome ↔ (grant alloc s 0).isSome := by
  unfold r56AllocBufferListMemory grant
  by_cases pci : s.busType = .pci
  · rw [if_pos pci, if_pos pci]
    exact iff_of_true rfl rfl
  · have called : s.calls = 0 := (taken_isa pci _).mp taken
    rw [if_neg pci, if_neg pci, called]
    cases alloc 0 with
    | none => exact Iff.rfl
    | some page => exact iff_of_true rfl rfl

/-- After `r56_allocate_dma_buffers` the list has the first page, and entry `k` the page after `k` others. -/
theorem r56AllocateDmaBuffers_spec {alloc : CoherentAlloc} {s t : DmaLists} (fit : s.entries ≤ 62)
    (done : r56AllocateDmaBuffers alloc s = some t) :
    t.busType = s.busType ∧ t.entrySize = s.entrySize ∧ t.rxBufferCount = s.rxBufferCount ∧
      t.txBufferCount = s.txBufferCount ∧ t.Linked ∧
      (∃ page, grant alloc s 0 = some page ∧ t.bufferListPhys = BitVec.ofNat 32 page.dma ∧ t.bufferListVirt = page.virt) ∧
      ∀ k < s.entries, ∃ page, grant alloc s (k + 1) = some page ∧ t.Owns k page := by
  have total : s.rxBufferCount + s.txBufferCount ≤ 62 := fit
  have fresh : Taken { s with lastMemAlloc := 0, calls := 0 } 0 := by
    unfold Taken
    split
    · rfl
    · rfl
  obtain ⟨v, rx, tx⟩ := Option.bind_eq_some_iff.mp done
  obtain ⟨u, list, rx⟩ := Option.bind_eq_some_iff.mp rx
  obtain ⟨page, got, one, linked, bus, size, base, rxCount, txCount, phys, virt⟩ :=
    r56AllocBufferListMemory_spec fresh list
  have same (n : Nat) : u.grant alloc n = s.grant alloc n := by
    unfold grant
    rw [bus, base]
  dsimp only at bus size base rxCount txCount
  rw [rxCount] at rx
  obtain ⟨more, links, rxOwned, rxRest⟩ := r56AllocFrameMemory_spec one (by omega) rx
  rw [links.rxBufferCount, links.txBufferCount, rxCount, txCount] at tx
  obtain ⟨-, again, txOwned, txRest⟩ := r56AllocFrameMemory_spec more (by omega) tx
  have all := links.trans again
  refine ⟨all.busType.trans bus, all.entrySize.trans size, all.rxBufferCount.trans rxCount,
    all.txBufferCount.trans txCount, all.linked linked, ⟨page, got, all.phys.trans phys, all.virt.trans virt⟩,
    fun k inside => ?_⟩
  have inside : k < s.rxBufferCount + s.txBufferCount := inside
  by_cases receive : k < s.rxBufferCount
  · obtain ⟨page, granted, owns⟩ := rxOwned k receive
    rw [Nat.zero_add] at owns
    refine ⟨page, by rw [Nat.add_comm, ← same, granted], ?_⟩
    rw [Owns, txRest k (.inl receive)]
    exact owns
  · obtain ⟨page, granted, owns⟩ := txOwned (k - s.rxBufferCount) (by omega)
    rw [Nat.add_sub_cancel' (Nat.le_of_not_lt receive)] at owns
    refine ⟨page, ?_, owns⟩
    rw [links.grant, same] at granted
    rwa [show k + 1 = 1 + s.rxBufferCount + (k - s.rxBufferCount) by omega]

/-- It succeeds if all pages are there. -/
theorem r56AllocateDmaBuffers_isSome {alloc : CoherentAlloc} {s : DmaLists} (fit : s.entries ≤ 62) :
    (r56AllocateDmaBuffers alloc s).isSome ↔ ∀ n ≤ s.entries, (grant alloc s n).isSome := by
  have total : s.rxBufferCount + s.txBufferCount ≤ 62 := fit
  have fresh : Taken { s with lastMemAlloc := 0, calls := 0 } 0 := by
    unfold Taken
    split
    · rfl
    · rfl
  have page := @r56AllocBufferListMemory_isSome alloc _ fresh
  unfold r56AllocateDmaBuffers
  cases list : r56AllocBufferListMemory alloc { s with lastMemAlloc := 0, calls := 0 } with
  | none =>
    rw [list] at page
    exact iff_of_false Bool.false_ne_true fun all => Bool.false_ne_true (page.mpr (all 0 (Nat.zero_le _)))
  | some u =>
    obtain ⟨-, -, one, -, bus, -, base, rxCount, txCount, -⟩ := r56AllocBufferListMemory_spec fresh list
    dsimp only at bus base rxCount txCount
    rw [list] at page
    have zero : (grant alloc s 0).isSome := page.mp rfl
    have same (n : Nat) : u.grant alloc n = s.grant alloc n := by
      unfold grant
      rw [bus, base]
    have rxAll : (r56AllocFrameMemory alloc 0 u.rxBufferCount u).isSome ↔ _ :=
      r56AllocFrameMemory_isSome 0 one (by omega)
    simp only [Option.bind_some]
    cases rx : r56AllocFrameMemory alloc 0 u.rxBufferCount u with
    | none =>
      rw [rx] at rxAll
      refine iff_of_false Bool.false_ne_true fun all => Bool.false_ne_true (rxAll.mpr fun i inside => ?_)
      rw [same]
      exact all _ (by show 1 + i ≤ s.rxBufferCount + s.txBufferCount; omega)
    | some v =>
      obtain ⟨more, links, -⟩ := r56AllocFrameMemory_spec one (by omega) rx
      rw [rx] at rxAll
      have first := rxAll.mp rfl
      have counts : v.rxBufferCount = s.rxBufferCount ∧ v.txBufferCount = s.txBufferCount :=
        ⟨links.rxBufferCount.trans rxCount, links.txBufferCount.trans txCount⟩
      have rest : (r56AllocFrameMemory alloc v.rxBufferCount v.txBufferCount v).isSome ↔ _ :=
        r56AllocFrameMemory_isSome v.rxBufferCount more (by omega)
      simp only [Option.bind_some]
      rw [rest]
      constructor
      · intro last n inside
        have inside : n ≤ s.rxBufferCount + s.txBufferCount := inside
        rcases Nat.eq_zero_or_pos n with rfl | later
        · exact zero
        by_cases receive : n ≤ s.rxBufferCount
        · have got := first (n - 1) (by omega)
          rwa [same, show 1 + (n - 1) = n by omega] at got
        · have got := last (n - 1 - s.rxBufferCount) (by omega)
          rwa [links.grant, same, show 1 + u.rxBufferCount + (n - 1 - s.rxBufferCount) = n by omega] at got
      · intro all i inside
        rw [links.grant, same]
        exact all _ (by show 1 + u.rxBufferCount + i ≤ s.rxBufferCount + s.txBufferCount; omega)

/-- The pages are within reach of the adapter, and do not overlap. -/
theorem grant_sound {alloc : CoherentAlloc} {s : DmaLists} (sound : s.busType ≠ .pci → alloc.Sound) :
    (∀ n ≤ 62, ∀ page, grant alloc s n = some page →
      page.dma + dmaBufferSize ≤ 2 ^ 32 ∧ (s.busType = .pci → page.dma + dmaBufferSize ≤ 0x40000)) ∧
    ∀ m n first second, m ≠ n → grant alloc s m = some first → grant alloc s n = some second →
      Disjoint (pageAt first.dma) (pageAt second.dma) ∧ Disjoint (pageAt first.virt) (pageAt second.virt) := by
  unfold grant
  by_cases pci : s.busType = .pci
  · simp only [if_pos pci]
    have size : dmaBufferSize = 4096 := rfl
    refine ⟨fun n few page got => ?_, fun m n first second differ one two => ?_⟩
    · cases got
      dsimp only
      rw [size]
      omega
    · cases one
      cases two
      simp only [pageAt, size, Set.Ico_disjoint_Ico]
      omega
  · simp only [if_neg pci]
    exact ⟨fun n _ page got => ⟨(sound pci).reach n page got, fun is => absurd is pci⟩, (sound pci).apart⟩

theorem toNat_dma {page : CoherentPage} (reach : page.dma + dmaBufferSize ≤ 2 ^ 32) :
    (BitVec.ofNat 32 page.dma).toNat = page.dma := by
  have size : dmaBufferSize = 4096 := rfl
  rw [BitVec.toNat_ofNat]
  exact Nat.mod_eq_of_lt (by omega)

/-- The addresses of the entries, which are all inside the page. -/
theorem Linked.inside {s : DmaLists} (nonzero : 0 < s.entrySize) (size : s.entrySize ≤ 64) (fit : s.entries ≤ 62)
    (linked : s.Linked) (reach : s.bufferListPhys.toNat + dmaBufferSize ≤ 2 ^ 32) {k : Nat} (inside : k < s.entries) :
    (s.bufferList k).physEntry.toNat = s.bufferListPhys.toNat + k * s.entrySize := by
  have small := offset_small size fit inside
  have page : dmaBufferSize = 4096 := rfl
  rw [linked.phys k inside, BitVec.toNat_add, BitVec.toNat_ofNat, Nat.mod_eq_of_lt (a := k * s.entrySize) (by omega)]
  exact Nat.mod_eq_of_lt (by omega)

theorem mem_ring {s : DmaLists} {first count : Nat} {p : U32} (member : p ∈ s.ring first count) :
    ∃ i < count, p = (s.bufferList (first + i)).physEntry := by
  obtain ⟨i, inside, rfl⟩ := List.mem_map.mp member
  exact ⟨i, List.mem_range.mp inside, rfl⟩

end DmaLists

/-- For all counts that fit the page, `r56_allocate_dma_buffers` builds well formed lists, and it does so
whenever it gets the pages, on a PCI adapter always. -/
theorem dma_lists_well_formed {alloc : CoherentAlloc} {s : DmaLists} (nonzero : 0 < s.entrySize)
    (size : s.entrySize ≤ 64) (fit : s.rxBufferCount + s.txBufferCount ≤ 62) (sound : s.busType ≠ .pci → alloc.Sound) :
    (∀ t, s.r56AllocateDmaBuffers alloc = some t → t.WellFormed) ∧
      ((s.r56AllocateDmaBuffers alloc).isSome ↔
        s.busType = .pci ∨ ∀ n ≤ s.rxBufferCount + s.txBufferCount, (alloc n).isSome) := by
  refine ⟨fun t done => ?_, ?_⟩
  · obtain ⟨bus, entry, rxCount, txCount, linked, ⟨page, got, phys, virt⟩, owned⟩ :=
      DmaLists.r56AllocateDmaBuffers_spec fit done
    obtain ⟨reach, apart⟩ := DmaLists.grant_sound sound
    have total : t.entries = s.entries := by rw [DmaLists.entries, rxCount, txCount, DmaLists.entries]
    have fit : t.entries ≤ 62 := by rw [total]; exact fit
    rw [← entry] at nonzero size
    have listPhys : t.bufferListPhys.toNat = page.dma := by
      rw [phys, DmaLists.toNat_dma (reach 0 (Nat.zero_le _) page got).1]
    have whole : t.bufferListPhys.toNat + dmaBufferSize ≤ 2 ^ 32 := by
      rw [listPhys]
      exact (reach 0 (Nat.zero_le _) page got).1
    have within : t.rxBufferCount + t.txBufferCount = t.entries := rfl
    -- the page of each entry, which is not the page of the list
    have buffer (k : Nat) (inside : k < t.entries) : ∃ own, s.grant alloc (k + 1) = Option.some own ∧
        (t.bufferList k).physAddr.toNat = own.dma ∧ (t.bufferList k).virtAddr = own.virt := by
      obtain ⟨own, granted, addr, mapped⟩ := owned k (total ▸ inside)
      refine ⟨own, granted, ?_, mapped⟩
      rw [addr, DmaLists.toNat_dma (reach (k + 1) (by omega) own granted).1]
    have rx : t.Circular t.rxRing := DmaLists.circular_of_links nonzero size fit linked (by omega)
      (by simpa only [Nat.zero_add] using linked.rx)
    have tx : t.Circular t.txRing := DmaLists.circular_of_links nonzero size fit linked le_rfl linked.tx
    refine ⟨rx, tx, ?_, ?_, ⟨?_, ?_⟩, ⟨?_, ?_⟩, ?_⟩
    · intro p receive transmit
      obtain ⟨i, iIn, rfl⟩ := DmaLists.mem_ring receive
      obtain ⟨j, jIn, same⟩ := DmaLists.mem_ring transmit
      have index := DmaLists.phys_inj nonzero size fit linked (by omega) (by omega) same
      omega
    · intro p member
      have entryOf : ∃ k < t.entries, p = (t.bufferList k).physEntry := by
        rcases List.mem_append.mp member with receive | transmit
        · obtain ⟨i, inside, rfl⟩ := DmaLists.mem_ring receive
          exact ⟨0 + i, by omega, rfl⟩
        · obtain ⟨i, inside, rfl⟩ := DmaLists.mem_ring transmit
          exact ⟨t.rxBufferCount + i, by omega, rfl⟩
      obtain ⟨k, inside, rfl⟩ := entryOf
      have small := DmaLists.offset_small size fit inside
      rw [linked.inside nonzero size fit whole inside]
      omega
    · intro i iIn j jIn differ
      obtain ⟨first, firstGot, firstPhys, -⟩ := buffer i iIn
      obtain ⟨second, secondGot, secondPhys, -⟩ := buffer j jIn
      rw [firstPhys, secondPhys]
      exact (apart _ _ first second (by omega) firstGot secondGot).1
    · intro i iIn
      obtain ⟨own, ownGot, ownPhys, -⟩ := buffer i iIn
      rw [ownPhys, listPhys]
      exact (apart _ _ own page (by omega) ownGot got).1
    · intro i iIn j jIn differ
      obtain ⟨first, firstGot, -, firstVirt⟩ := buffer i iIn
      obtain ⟨second, secondGot, -, secondVirt⟩ := buffer j jIn
      rw [firstVirt, secondVirt]
      exact (apart _ _ first second (by omega) firstGot secondGot).2
    · intro i iIn
      obtain ⟨own, ownGot, -, ownVirt⟩ := buffer i iIn
      rw [ownVirt, virt]
      exact (apart _ _ own page (by omega) ownGot got).2
    · intro pci i iIn
      obtain ⟨own, ownGot, ownPhys, -⟩ := buffer i iIn
      rw [ownPhys]
      exact (reach (i + 1) (by omega) own ownGot).2 (bus ▸ pci)
  · rw [DmaLists.r56AllocateDmaBuffers_isSome fit]
    unfold DmaLists.grant
    by_cases pci : s.busType = .pci
    · simp only [if_pos pci]
      exact iff_of_true (fun _ _ => rfl) (.inl pci)
    · simp only [if_neg pci]
      exact ⟨fun all => .inr all, fun all => all.resolve_left pci⟩

/-- Sixteen pages one after the other. -/
def coherentRegion : CoherentAlloc := fun n =>
  if n < 16 then some ⟨0xc0100000 + n * dmaBufferSize, 0x100000 + n * dmaBufferSize⟩ else none

theorem coherentRegion_sound : coherentRegion.Sound := by
  have size : dmaBufferSize = 4096 := rfl
  have page {n : Nat} {p : CoherentPage} (got : coherentRegion n = some p) :
      n < 16 ∧ p.dma = 0x100000 + n * dmaBufferSize ∧ p.virt = 0xc0100000 + n * dmaBufferSize := by
    unfold coherentRegion at got
    split at got
    · rename_i inside
      cases got
      exact ⟨inside, rfl, rfl⟩
    · exact absurd got (by nofun)
  refine ⟨fun n p got => ?_, fun m n first second differ one two => ?_⟩
  · obtain ⟨inside, dma, -⟩ := page got
    rw [dma, size]
    omega
  · obtain ⟨-, firstDma, firstVirt⟩ := page one
    obtain ⟨-, secondDma, secondVirt⟩ := page two
    simp only [pageAt, firstDma, firstVirt, secondDma, secondVirt, size, Set.Ico_disjoint_Ico]
    omega

/-- An ISA adapter with nine receive buffers and one transmit buffer. -/
theorem dma_lists_well_formed_isa :
    let s : DmaLists := { busType := .isa, entrySize := 40, rxBufferCount := 9, txBufferCount := 1 }
    ∃ t, s.r56AllocateDmaBuffers coherentRegion = some t ∧ t.WellFormed := by
  intro s
  obtain ⟨formed, success⟩ := @dma_lists_well_formed coherentRegion s (by decide) (by decide)
    (by decide) fun _ => coherentRegion_sound
  obtain ⟨t, done⟩ := Option.isSome_iff_exists.mp (success.mpr (.inr (by decide)))
  exact ⟨t, done, formed t done⟩

end Route56
