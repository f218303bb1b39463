import Route56.BufferCounts
import Route56.Lib.Ledger

namespace Route56

open Ledger Transition

/-- The calls that acquire something, and the `kzalloc` of the device itself. -/
inductive Acquisition
  | device
  | xmitBuf
  | region
  | irq
  | lcr
  | memory
  | lcrAgain
  | dma
  | bufferList
  | rxFrame (i : Nat)
  | txFrame (i : Nat)
  | rxbuffer
  | holding (i : Nat)
  deriving DecidableEq

/-- What a call acquired. Mappings and memory are told apart by the startup they come from; there
is one region, one interrupt and one DMA channel. -/
structure Resource where
  call : Acquisition
  startup : Nat := 0
  deriving DecidableEq

/-- How a startup turns out: which calls succeed, and what the two tests say. -/
structure Outcome where
  grant : Acquisition → Bool
  memoryTest : Bool
  adapterTest : Bool

/-- The fields of `struct r56_struct` that name resources, and the ledger. `lcr_offset` is never
assigned, so `lcr_base` is the mapping itself. On the PCI bus the buffer list and the
frame buffers lie in the mapped memory. -/
structure DeviceResources where
  busType : BusType
  rxBufferCount : Nat
  txBufferCount : Nat
  numTxHoldingBuffers : Nat
  initialized : Bool := false
  startups : Nat := 0
  xmitBuf : Option Resource := none
  ioAddrRequested : Bool := false
  irqRequested : Bool := false
  dmaRequested : Bool := false
  memoryBase : Option Resource := none
  lcrBase : Option Resource := none
  bufferList : Option Resource := none
  rxVirtAddr : Nat → Option Resource := fun _ => none
  txVirtAddr : Nat → Option Resource := fun _ => none
  intermediateRxbuffer : Option Resource := none
  txHoldingBuffer : Nat → Option Resource := fun _ => none
  ledger : Ledger Resource

/-- A device that was just added. -/
def R56Struct.deviceResources (info : R56Struct) : DeviceResources where
  busType := info.busType
  rxBufferCount := (countDmaBuffersWrapped info).rxBufferCount
  txBufferCount := (countDmaBuffersWrapped info).txBufferCount
  numTxHoldingBuffers := info.numTxHoldingBuffers
  ledger := { held := {{ call := .device }} }

/-- What a flag says is held. -/
def requested (flag : Bool) (call : Acquisition) : Option Resource := if flag then some { call := call } else none

namespace DeviceResources

/-- What a call of the current startup acquires. -/
def fresh (d : DeviceResources) (call : Acquisition) : Resource := { call := call, startup := d.startups }

/-- Go on with `f` if there was no error. -/
def andThen (r : DeviceResources × Bool) (f : DeviceResources → DeviceResources × Bool) : DeviceResources × Bool :=
  if r.2 then f r.1 else r

def freeIrq (d : DeviceResources) : DeviceResources :=
  { d with ledger := d.ledger.free (requested d.irqRequested .irq), irqRequested := false }

def freeDma (d : DeviceResources) : DeviceResources :=
  { d with ledger := d.ledger.free (requested d.dmaRequested .dma), dmaRequested := false }

/-- `r56_free_frame_memory`: the ledger and the list. -/
def r56FreeFrameMemory (d : DeviceResources) (list : Nat → Option Resource) (count : Nat) :
    Ledger Resource × (Nat → Option Resource) :=
  if d.bufferList = none then (d.ledger, list)
  else (if d.busType = .pci then d.ledger else d.ledger.freeAll list count, fun i => if i < count then none else list i)

def freeRxFrames (d : DeviceResources) : DeviceResources :=
  { d with
    ledger := (d.r56FreeFrameMemory d.rxVirtAddr d.rxBufferCount).1
    rxVirtAddr := (d.r56FreeFrameMemory d.rxVirtAddr d.rxBufferCount).2 }

def freeTxFrames (d : DeviceResources) : DeviceResources :=
  { d with
    ledger := (d.r56FreeFrameMemory d.txVirtAddr d.txBufferCount).1
    txVirtAddr := (d.r56FreeFrameMemory d.txVirtAddr d.txBufferCount).2 }

def r56FreeBufferListMemory (d : DeviceResources) : DeviceResources :=
  { d with ledger := if d.busType = .pci then d.ledger else d.ledger.free d.bufferList, bufferList := none }

def r56FreeDmaBuffers (d : DeviceResources) : DeviceResources :=
  r56FreeBufferListMemory (freeTxFrames (freeRxFrames d))

def r56FreeIntermediateRxbufferMemory (d : DeviceResources) : DeviceResources :=
  { d with ledger := d.ledger.free d.intermediateRxbuffer, intermediateRxbuffer := none }

def r56FreeIntermediateTxbufferMemory (d : DeviceResources) : DeviceResources :=
  { d with
    ledger := d.ledger.freeAll d.txHoldingBuffer d.numTxHoldingBuffers
    txHoldingBuffer := fun i => if i < d.numTxHoldingBuffers then none else d.txHoldingBuffer i }

def releaseRegion (d : DeviceResources) : DeviceResources :=
  { d with ledger := d.ledger.free (requested d.ioAddrRequested .region), ioAddrRequested := false }

def unmapMemory (d : DeviceResources) : DeviceResources :=
  { d with ledger := d.ledger.free d.memoryBase, memoryBase := none }

def unmapLcr (d : DeviceResources) : DeviceResources :=
  { d with ledger := d.ledger.free d.lcrBase, lcrBase := none }

def r56ReleaseResources (d : DeviceResources) : DeviceResources :=
  let d := r56FreeDmaBuffers (freeDma (freeIrq d))
  let d := r56FreeIntermediateTxbufferMemory (r56FreeIntermediateRxbufferMemory d)
  unmapLcr (unmapMemory (releaseRegion d))

/-- `r56_alloc_buffer_list_memory`. The list is zeroed. -/
def r56AllocBufferListMemory (d : DeviceResources) (o : Outcome) : DeviceResources × Bool :=
  if d.busType = .pci then
    ({ d with bufferList := d.memoryBase, rxVirtAddr := fun _ => none, txVirtAddr := fun _ => none }, true)
  else if o.grant .bufferList then
    ({ d with
      ledger := d.ledger.acquire (d.fresh .bufferList), bufferList := some (d.fresh .bufferList)
      rxVirtAddr := fun _ => none, txVirtAddr := fun _ => none }, true)
  else ({ d with bufferList := none }, false)

/-- `r56_alloc_frame_memory`: the ledger, the list and the result. -/
def r56AllocFrameMemory (d : DeviceResources) (grant : Nat → Bool) (call : Nat → Acquisition) (count : Nat) :
    Ledger Resource × (Nat → Option Resource) × Bool :=
  if d.busType = .pci then (d.ledger, fun i => if i < count then d.memoryBase else none, true)
  else d.ledger.acquireAll grant (fun i => d.fresh (call i)) count

def allocRxFrames (d : DeviceResources) (o : Outcome) : DeviceResources × Bool :=
  let frames := d.r56AllocFrameMemory (fun i => o.grant (.rxFrame i)) .rxFrame d.rxBufferCount
  ({ d with ledger := frames.1, rxVirtAddr := frames.2.1 }, frames.2.2)

def allocTxFrames (d : DeviceResources) (o : Outcome) : DeviceResources × Bool :=
  let frames := d.r56AllocFrameMemory (fun i => o.grant (.txFrame i)) .txFrame d.txBufferCount
  ({ d with ledger := frames.1, txVirtAddr := frames.2.1 }, frames.2.2)

def r56AllocIntermediateRxbufferMemory (d : DeviceResources) (o : Outcome) : DeviceResources × Bool :=
  if o.grant .rxbuffer then
    ({ d with
      ledger := d.ledger.acquire (d.fresh .rxbuffer), intermediateRxbuffer := some (d.fresh .rxbuffer) }, true)
  else ({ d with intermediateRxbuffer := none }, false)

/-- `r56_alloc_intermediate_txbuffer_memory`. On an error it frees what it allocated, last first. -/
def r56AllocIntermediateTxbufferMemory (d : DeviceResources) (o : Outcome) : DeviceResources × Bool :=
  let buffers := d.ledger.acquireAll (fun i => o.grant (.holding i)) (fun i => d.fresh (.holding i)) d.numTxHoldingBuffers
  if buffers.2.2 then ({ d with ledger := buffers.1, txHoldingBuffer := buffers.2.1 }, true)
  else
    ({ d with
      ledger := buffers.1.freeBack buffers.2.1 d.numTxHoldingBuffers, txHoldingBuffer := fun _ => none }, false)

def r56AllocateDmaBuffers (d : DeviceResources) (o : Outcome) : DeviceResources × Bool :=
  andThen (d.r56AllocBufferListMemory o) fun d =>
  andThen (d.allocRxFrames o) fun d =>
  andThen (d.allocTxFrames o) fun d =>
  andThen (d.r56AllocIntermediateRxbufferMemory o) fun d => d.r56AllocIntermediateTxbufferMemory o

def requestRegion (d : DeviceResources) : DeviceResources :=
  { d with ledger := d.ledger.acquire { call := .region }, ioAddrRequested := true }

def requestIrq (d : DeviceResources) (o : Outcome) : DeviceResources × Bool :=
  if o.grant .irq then ({ d with ledger := d.ledger.acquire { call := .irq }, irqRequested := true }, true)
  else (d, false)

def requestDma (d : DeviceResources) (o : Outcome) : DeviceResources × Bool :=
  if o.grant .dma then ({ d with ledger := d.ledger.acquire { call := .dma }, dmaRequested := true }, true)
  else (d, false)

/-- An assignment of `lcr_base`, made with the call `call`. -/
def mapLcr (d : DeviceResources) (o : Outcome) (call : Acquisition) : DeviceResources × Bool :=
  if o.grant call then ({ d with ledger := d.ledger.acquire (d.fresh call), lcrBase := some (d.fresh call) }, true)
  else ({ d with lcrBase := none }, false)

def mapMemory (d : DeviceResources) (o : Outcome) : DeviceResources × Bool :=
  if o.grant .memory then
    ({ d with ledger := d.ledger.acquire (d.fresh .memory), memoryBase := some (d.fresh .memory) }, true)
  else ({ d with memoryBase := none }, false)

/-- The part of `r56_claim_resources` for the PCI bus. -/
def claimPci (d : DeviceResources) (o : Outcome) : DeviceResources × Bool :=
  andThen (d.mapLcr o .lcr) fun d =>
  andThen (d.mapMemory o) fun d => if o.memoryTest then d.mapLcr o .lcrAgain else (d, false)

def claimBus (d : DeviceResources) (o : Outcome) : DeviceResources × Bool :=
  if d.busType = .pci then d.claimPci o else d.requestDma o

def r56ClaimResources (d : DeviceResources) (o : Outcome) : DeviceResources × Bool :=
  if o.grant .region then
    let claimed := andThen (d.requestRegion.requestIrq o) fun d =>
      andThen (d.claimBus o) fun d => d.r56AllocateDmaBuffers o
    if claimed.2 then claimed else (claimed.1.r56ReleaseResources, false)
  else (d, false)

/-- The transmit buffer of `startup`, a page that an earlier startup may have left. -/
def getXmitBuf (d : DeviceResources) (o : Outcome) : DeviceResources × Bool :=
  if d.xmitBuf = none then
    if o.grant .xmitBuf then
      ({ d with ledger := d.ledger.acquire (d.fresh .xmitBuf), xmitBuf := some (d.fresh .xmitBuf) }, true)
    else (d, false)
  else (d, true)

/-- The statements of `startup` behind the allocation of the transmit buffer. -/
def claimAndTest (d : DeviceResources) (o : Outcome) : DeviceResources × Bool :=
  let claimed := andThen (d.r56ClaimResources o) fun d => (d, o.adapterTest)
  if claimed.2 then ({ claimed.1 with initialized := true }, true) else (claimed.1.r56ReleaseResources, false)

def startup (d : DeviceResources) (o : Outcome) : DeviceResources × Bool :=
  if d.initialized then (d, true)
  else andThen (getXmitBuf { d with startups := d.startups + 1 } o) fun d => d.claimAndTest o

def shutdown (d : DeviceResources) : DeviceResources :=
  if d.initialized then
    { r56ReleaseResources { d with ledger := d.ledger.free d.xmitBuf, xmitBuf := none } with initialized := false }
  else d

/-- What `route56_cleanup` does to a device: release its resources, and free it. -/
def cleanup (d : DeviceResources) : DeviceResources :=
  { r56ReleaseResources d with ledger := (r56ReleaseResources d).ledger.release { call := .device } }

/-- What the buffer list and its entries hold, which on the PCI bus is nothing. -/
def listed (busType : BusType) (list : Option Resource) (rx tx : Multiset Resource) : Multiset Resource :=
  if busType = .pci then 0 else pointee list + rx + tx

theorem listed_pci {busType : BusType} (pci : busType = .pci) (list : Option Resource) (rx tx : Multiset Resource) :
    listed busType list rx tx = 0 := if_pos pci

theorem listed_isa {busType : BusType} (isa : busType ≠ .pci) (list : Option Resource) (rx tx : Multiset Resource) :
    listed busType list rx tx = pointee list + rx + tx := if_neg isa

/-- What the fields of the device hold. -/
def owned (d : DeviceResources) : Multiset Resource :=
  pointee d.xmitBuf + pointee (requested d.ioAddrRequested .region) + pointee (requested d.irqRequested .irq) +
    pointee (requested d.dmaRequested .dma) + pointee d.memoryBase + pointee d.lcrBase +
    listed d.busType d.bufferList (pointees d.rxVirtAddr d.rxBufferCount) (pointees d.txVirtAddr d.txBufferCount) +
    pointee d.intermediateRxbuffer + pointees d.txHoldingBuffer d.numTxHoldingBuffers

/-- Held are the device, what its fields hold, and `lost`, which no field names any more. Nothing
was released that was not held. -/
def Account (d : DeviceResources) (lost : Multiset Resource) : Prop :=
  d.ledger = ⟨{{ call := .device }} + d.owned + lost, 0⟩

variable {d d' : DeviceResources} {lost : Multiset Resource}

/-- Some of what the fields hold is released, and the fields let go of it. -/
theorem Account.drop (account : d.Account lost) (m : Multiset Resource) (owned : d.owned = m + d'.owned)
    (released : ∀ rest, d.ledger.held = m + rest → d'.ledger = ⟨rest, d.ledger.faults⟩) : d'.Account lost := by
  have held : d.ledger.held = m + ({{ call := .device }} + d'.owned + lost) := by
    rw [account, owned]
    dsimp only
    exact Multiset.ext.mpr fun r => by simp only [Multiset.count_add]; omega
  have left := released _ held
  rw [account] at left
  exact left

/-- Something is acquired, of which the fields take hold or which is lost. -/
theorem Account.shift {lost' : Multiset Resource} (account : d.Account lost) (m : Multiset Resource)
    (acquired : d'.ledger = ⟨m + d.ledger.held, d.ledger.faults⟩) (same : d'.owned + lost' = m + d.owned + lost) :
    d'.Account lost' := by
  unfold Account
  rw [acquired, account]
  congr 1
  dsimp only
  rw [add_assoc _ d'.owned, same]
  exact Multiset.ext.mpr fun r => by simp only [Multiset.count_add]; omega

/-- Something is acquired, and the fields take hold of it. -/
theorem Account.take (account : d.Account lost) (m : Multiset Resource) (owned : d'.owned = m + d.owned)
    (acquired : d'.ledger = ⟨m + d.ledger.held, d.ledger.faults⟩) : d'.Account lost :=
  account.shift m acquired (by rw [owned])

/-- Where the entries of the lists are, and that nothing lies outside of them. -/
structure Listed (d : DeviceResources) : Prop where
  rx : ∀ i, d.rxBufferCount ≤ i → d.rxVirtAddr i = none
  tx : ∀ i, d.txBufferCount ≤ i → d.txVirtAddr i = none
  holding : ∀ i, d.numTxHoldingBuffers ≤ i → d.txHoldingBuffer i = none
  list : d.bufferList = none → ∀ i, d.rxVirtAddr i = none ∧ d.txVirtAddr i = none

/-- Nothing is claimed. -/
structure Unclaimed (d : DeviceResources) : Prop where
  region : d.ioAddrRequested = false
  irq : d.irqRequested = false
  dma : d.dmaRequested = false
  memory : d.memoryBase = none
  lcr : d.lcrBase = none
  list : d.bufferList = none
  rx : ∀ i, d.rxVirtAddr i = none
  tx : ∀ i, d.txVirtAddr i = none
  rxbuffer : d.intermediateRxbuffer = none
  holding : ∀ i, d.txHoldingBuffer i = none

theorem Unclaimed.listed (unclaimed : d.Unclaimed) : d.Listed :=
  ⟨fun i _ => unclaimed.rx i, fun i _ => unclaimed.tx i, fun i _ => unclaimed.holding i,
    fun _ i => ⟨unclaimed.rx i, unclaimed.tx i⟩⟩

theorem freeFrames_account {list : Nat → Option Resource} {count : Nat} {rest : Multiset Resource}
    (shape : d.Listed) (which : list = d.rxVirtAddr ∨ list = d.txVirtAddr)
    (held : d.ledger.held = (if d.busType = .pci then 0 else pointees list count) + rest) :
    (d.r56FreeFrameMemory list count).1 = ⟨rest, d.ledger.faults⟩ := by
  unfold r56FreeFrameMemory
  split
  · rename_i none
    have empty : pointees list count = 0 := by
      refine pointees_none fun i _ => ?_
      rcases which with rfl | rfl
      · exact (shape.list none i).1
      · exact (shape.list none i).2
    rw [empty, ite_self, zero_add] at held
    rw [← held]
  · dsimp only
    split
    · rename_i pci
      rw [if_pos pci, zero_add] at held
      rw [← held]
    · rename_i isa
      rw [if_neg isa] at held
      exact freeAll_held held

theorem freeFrames_none {list : Nat → Option Resource} {count : Nat} (shape : d.Listed)
    (which : list = d.rxVirtAddr ∨ list = d.txVirtAddr) (outside : ∀ i, count ≤ i → list i = none) (i : Nat) :
    (d.r56FreeFrameMemory list count).2 i = none := by
  unfold r56FreeFrameMemory
  split
  · rename_i none
    rcases which with rfl | rfl
    · exact (shape.list none i).1
    · exact (shape.list none i).2
  · dsimp only
    split
    · rfl
    · exact outside i (by omega)

theorem freeRxFrames_account (account : d.Account lost) (shape : d.Listed) : d.freeRxFrames.Account lost := by
  have none := freeFrames_none shape (.inl rfl) shape.rx
  refine account.drop (if d.busType = .pci then 0 else pointees d.rxVirtAddr d.rxBufferCount) ?_
    fun rest held => freeFrames_account shape (.inl rfl) held
  have empty : pointees (d.r56FreeFrameMemory d.rxVirtAddr d.rxBufferCount).2 d.rxBufferCount = 0 :=
    pointees_none fun i _ => none i
  simp only [owned, listed, freeRxFrames, empty]
  split
  · exact Multiset.ext.mpr fun r => by simp only [Multiset.count_add, Multiset.count_zero]; omega
  · exact Multiset.ext.mpr fun r => by simp only [Multiset.count_add, Multiset.count_zero]; omega

theorem freeTxFrames_account (account : d.Account lost) (shape : d.Listed) : d.freeTxFrames.Account lost := by
  have none := freeFrames_none shape (.inr rfl) shape.tx
  refine account.drop (if d.busType = .pci then 0 else pointees d.txVirtAddr d.txBufferCount) ?_
    fun rest held => freeFrames_account shape (.inr rfl) held
  have empty : pointees (d.r56FreeFrameMemory d.txVirtAddr d.txBufferCount).2 d.txBufferCount = 0 :=
    pointees_none fun i _ => none i
  simp only [owned, listed, freeTxFrames, empty]
  split
  · exact Multiset.ext.mpr fun r => by simp only [Multiset.count_add, Multiset.count_zero]; omega
  · exact Multiset.ext.mpr fun r => by simp only [Multiset.count_add, Multiset.count_zero]; omega

theorem freeBufferList_account (account : d.Account lost) : d.r56FreeBufferListMemory.Account lost := by
  refine account.drop (if d.busType = .pci then 0 else pointee d.bufferList) ?_ fun rest held => ?_
  · by_cases pci : d.busType = .pci
    · simp only [owned, listed, r56FreeBufferListMemory, if_pos pci]
      exact Multiset.ext.mpr fun r => by simp only [Multiset.count_add, Multiset.count_zero]; omega
    · simp only [owned, listed, r56FreeBufferListMemory, if_neg pci, pointee_none]
      exact Multiset.ext.mpr fun r => by simp only [Multiset.count_add, Multiset.count_zero]; omega
  · show (if d.busType = .pci then d.ledger else d.ledger.free d.bufferList) = _
    split
    · rename_i pci
      rw [if_pos pci, zero_add] at held
      rw [← held]
    · rename_i isa
      rw [if_neg isa] at held
      exact free_held held

/-- `r56_free_dma_buffers` empties the lists. -/
theorem r56FreeDmaBuffers_spec (account : d.Account lost) (shape : d.Listed) :
    d.r56FreeDmaBuffers.Account lost ∧ (∀ i, d.r56FreeDmaBuffers.rxVirtAddr i = none) ∧
      ∀ i, d.r56FreeDmaBuffers.txVirtAddr i = none := by
  have rx := freeFrames_none shape (.inl rfl) shape.rx
  have middle : d.freeRxFrames.Listed :=
    ⟨fun i _ => rx i, shape.tx, shape.holding, fun none i => ⟨rx i, (shape.list none i).2⟩⟩
  have tx := freeFrames_none middle (.inr rfl) middle.tx
  exact ⟨freeBufferList_account (freeTxFrames_account (freeRxFrames_account account shape) middle), rx, tx⟩

/-- A single field lets go of what it points to. -/
theorem Account.letGo (account : d.Account lost) {p : Option Resource} (owned : d.owned = pointee p + d'.owned)
    (released : d'.ledger = d.ledger.free p) : d'.Account lost :=
  account.drop (pointee p) owned fun _ held => released.trans (free_held held)

theorem requested_true (call : Acquisition) : requested true call = some { call := call } := rfl

theorem requested_false (call : Acquisition) : requested false call = none := rfl

theorem r56ReleaseResources_eq (d : DeviceResources) :
    d.r56ReleaseResources = unmapLcr (unmapMemory (releaseRegion (r56FreeIntermediateTxbufferMemory
      d.freeIrq.freeDma.r56FreeDmaBuffers.r56FreeIntermediateRxbufferMemory))) := rfl

theorem r56ReleaseResources_spec (account : d.Account lost) (shape : d.Listed) :
    d.r56ReleaseResources.Account lost ∧ d.r56ReleaseResources.Unclaimed := by
  have irq : d.freeIrq.Account lost := by
    refine account.letGo ?_ rfl
    simp only [owned, freeIrq, requested_false, pointee_none]
    exact Multiset.ext.mpr fun r => by simp only [Multiset.count_add, Multiset.count_zero]; omega
  have dma : d.freeIrq.freeDma.Account lost := by
    refine irq.letGo ?_ rfl
    simp only [owned, freeDma, requested_false, pointee_none]
    exact Multiset.ext.mpr fun r => by simp only [Multiset.count_add, Multiset.count_zero]; omega
  have still : d.freeIrq.freeDma.Listed := ⟨shape.rx, shape.tx, shape.holding, shape.list⟩
  obtain ⟨lists, rx, tx⟩ := r56FreeDmaBuffers_spec dma still
  generalize left : d.freeIrq.freeDma.r56FreeDmaBuffers = s at lists rx tx
  have holding : ∀ i, s.numTxHoldingBuffers ≤ i → s.txHoldingBuffer i = none := by
    rw [← left]
    exact shape.holding
  have rxbuffer : s.r56FreeIntermediateRxbufferMemory.Account lost := by
    refine lists.letGo ?_ rfl
    simp only [owned, r56FreeIntermediateRxbufferMemory, pointee_none]
    exact Multiset.ext.mpr fun r => by simp only [Multiset.count_add, Multiset.count_zero]; omega
  generalize freed : s.r56FreeIntermediateRxbufferMemory = t at rxbuffer
  have txbuffers : t.r56FreeIntermediateTxbufferMemory.Account lost := by
    refine rxbuffer.drop (pointees t.txHoldingBuffer t.numTxHoldingBuffers) ?_ fun rest held => freeAll_held held
    have empty : pointees (fun i => if i < t.numTxHoldingBuffers then none else t.txHoldingBuffer i)
        t.numTxHoldingBuffers = 0 := pointees_none fun i below => if_pos below
    simp only [owned, r56FreeIntermediateTxbufferMemory, empty]
    exact Multiset.ext.mpr fun r => by simp only [Multiset.count_add, Multiset.count_zero]; omega
  have region : t.r56FreeIntermediateTxbufferMemory.releaseRegion.Account lost := by
    refine txbuffers.letGo ?_ rfl
    simp only [owned, releaseRegion, requested_false, pointee_none]
    exact Multiset.ext.mpr fun r => by simp only [Multiset.count_add, Multiset.count_zero]; omega
  have memory : t.r56FreeIntermediateTxbufferMemory.releaseRegion.unmapMemory.Account lost := by
    refine region.letGo ?_ rfl
    simp only [owned, unmapMemory, pointee_none]
    exact Multiset.ext.mpr fun r => by simp only [Multiset.count_add, Multiset.count_zero]; omega
  have lcr : t.r56FreeIntermediateTxbufferMemory.releaseRegion.unmapMemory.unmapLcr.Account lost := by
    refine memory.letGo ?_ rfl
    simp only [owned, unmapLcr, pointee_none]
    exact Multiset.ext.mpr fun r => by simp only [Multiset.count_add, Multiset.count_zero]; omega
  rw [r56ReleaseResources_eq, left, freed]
  refine ⟨lcr, ?_⟩
  have fields : t.irqRequested = false ∧ t.dmaRequested = false ∧ t.bufferList = none ∧
      t.rxVirtAddr = s.rxVirtAddr ∧ t.txVirtAddr = s.txVirtAddr ∧ t.intermediateRxbuffer = none ∧
      t.txHoldingBuffer = s.txHoldingBuffer ∧ t.numTxHoldingBuffers = s.numTxHoldingBuffers := by
    rw [← freed, ← left]
    simp only [r56FreeIntermediateRxbufferMemory, r56FreeDmaBuffers, r56FreeBufferListMemory, freeTxFrames,
      freeRxFrames, freeDma, freeIrq, and_self]
  obtain ⟨noIrq, noDma, noList, rxSame, txSame, noRxbuffer, holdingSame, number⟩ := fields
  refine ⟨rfl, ?_, ?_, rfl, rfl, ?_, fun i => ?_, fun i => ?_, ?_, fun i => ?_⟩
  all_goals simp only [unmapLcr, unmapMemory, releaseRegion, r56FreeIntermediateTxbufferMemory]
  · exact noIrq
  · exact noDma
  · exact noList
  · exact (congrFun rxSame i).trans (rx i)
  · exact (congrFun txSame i).trans (tx i)
  · exact noRxbuffer
  · split
    · rfl
    · rw [holdingSame]
      exact holding i (by omega)

/-- A result whose account shows no loss, with the lists in order. -/
structure Kept (r : DeviceResources × Bool) (lost : Multiset Resource) : Prop where
  account : r.1.Account lost
  shape : r.1.Listed

theorem Kept.andThen {r : DeviceResources × Bool} {f : DeviceResources → DeviceResources × Bool} (kept : Kept r lost)
    (next : r.2 = true → Kept (f r.1) lost) : Kept (andThen r f) lost := by
  unfold DeviceResources.andThen
  split
  · rename_i went
    exact next went
  · exact kept

theorem r56AllocBufferListMemory_spec (account : d.Account lost) (shape : d.Listed) (empty : d.bufferList = none)
    (o : Outcome) :
    Kept (d.r56AllocBufferListMemory o) lost ∧ ∀ i, (d.r56AllocBufferListMemory o).1.rxVirtAddr i = none ∧
      (d.r56AllocBufferListMemory o).1.txVirtAddr i = none := by
  have rx : pointees d.rxVirtAddr d.rxBufferCount = 0 := pointees_none fun i _ => (shape.list empty i).1
  have tx : pointees d.txVirtAddr d.txBufferCount = 0 := pointees_none fun i _ => (shape.list empty i).2
  have zeroed (n : Nat) : pointees (fun _ => (none : Option Resource)) n = 0 := pointees_none fun _ _ => rfl
  unfold r56AllocBufferListMemory
  split
  · rename_i pci
    refine ⟨⟨account.take 0 ?_ (by rw [zero_add]), fun _ _ => rfl, fun _ _ => rfl, shape.holding,
      fun _ _ => ⟨rfl, rfl⟩⟩, fun _ => ⟨rfl, rfl⟩⟩
    simp only [owned, listed, if_pos pci, zero_add]
  · rename_i isa
    split
    · refine ⟨⟨account.take {d.fresh .bufferList} ?_ rfl, fun _ _ => rfl, fun _ _ => rfl, shape.holding,
        fun _ _ => ⟨rfl, rfl⟩⟩, fun _ => ⟨rfl, rfl⟩⟩
      simp only [owned, listed, if_neg isa, empty, rx, tx, zeroed, pointee_none, pointee_some]
      exact Multiset.ext.mpr fun r => by simp only [Multiset.count_add, Multiset.count_zero]; omega
    · refine ⟨⟨account.take 0 ?_ (by rw [zero_add]), shape.rx, shape.tx, shape.holding, fun _ i => shape.list empty i⟩,
        fun i => shape.list empty i⟩
      simp only [owned, empty, zero_add]

/-- The frame buffers of an empty list. -/
theorem r56AllocFrameMemory_spec (d : DeviceResources) (grant : Nat → Bool) (call : Nat → Acquisition) (count : Nat) :
    (d.r56AllocFrameMemory grant call count).1 =
        ⟨(if d.busType = .pci then 0 else pointees (d.r56AllocFrameMemory grant call count).2.1 count) +
          d.ledger.held, d.ledger.faults⟩ ∧
      ∀ i, count ≤ i → (d.r56AllocFrameMemory grant call count).2.1 i = none := by
  unfold r56AllocFrameMemory
  split
  · refine ⟨?_, fun i above => if_neg (by omega)⟩
    rw [zero_add]
  · exact acquireAll_spec _ _ _ _

theorem allocRxFrames_spec (account : d.Account lost) (shape : d.Listed) (some : d.bufferList ≠ none)
    (empty : ∀ i, d.rxVirtAddr i = none) (o : Outcome) : Kept (d.allocRxFrames o) lost := by
  obtain ⟨acquired, above⟩ :=
    r56AllocFrameMemory_spec d (fun i => o.grant (.rxFrame i)) .rxFrame d.rxBufferCount
  have zero : pointees d.rxVirtAddr d.rxBufferCount = 0 := pointees_none fun i _ => empty i
  refine ⟨account.take _ ?_ acquired, above, shape.tx, shape.holding, fun gone => absurd gone some⟩
  by_cases pci : d.busType = .pci
  · simp only [owned, allocRxFrames, listed_pci pci, if_pos pci, zero_add]
  · simp only [owned, allocRxFrames, listed_isa pci, if_neg pci, zero]
    exact Multiset.ext.mpr fun r => by simp only [Multiset.count_add, Multiset.count_zero]; omega

theorem allocTxFrames_spec (account : d.Account lost) (shape : d.Listed) (some : d.bufferList ≠ none)
    (empty : ∀ i, d.txVirtAddr i = none) (o : Outcome) : Kept (d.allocTxFrames o) lost := by
  obtain ⟨acquired, above⟩ :=
    r56AllocFrameMemory_spec d (fun i => o.grant (.txFrame i)) .txFrame d.txBufferCount
  have zero : pointees d.txVirtAddr d.txBufferCount = 0 := pointees_none fun i _ => empty i
  refine ⟨account.take _ ?_ acquired, shape.rx, above, shape.holding, fun gone => absurd gone some⟩
  by_cases pci : d.busType = .pci
  · simp only [owned, allocTxFrames, listed_pci pci, if_pos pci, zero_add]
  · simp only [owned, allocTxFrames, listed_isa pci, if_neg pci, zero]
    exact Multiset.ext.mpr fun r => by simp only [Multiset.count_add, Multiset.count_zero]; omega

theorem r56AllocIntermediateRxbufferMemory_spec (account : d.Account lost) (shape : d.Listed)
    (empty : d.intermediateRxbuffer = none) (o : Outcome) : Kept (d.r56AllocIntermediateRxbufferMemory o) lost := by
  have same : Kept ({ d with intermediateRxbuffer := none }, false) lost := by
    refine ⟨account.take 0 ?_ (by rw [zero_add]), shape.rx, shape.tx, shape.holding, shape.list⟩
    simp only [owned, empty, zero_add]
  unfold r56AllocIntermediateRxbufferMemory
  split
  · refine ⟨account.take {d.fresh .rxbuffer} ?_ rfl, shape.rx, shape.tx, shape.holding, shape.list⟩
    simp only [owned, empty, pointee_none, pointee_some]
    exact Multiset.ext.mpr fun r => by simp only [Multiset.count_add, Multiset.count_zero]; omega
  · exact same

theorem r56AllocIntermediateTxbufferMemory_spec (account : d.Account lost) (shape : d.Listed)
    (empty : ∀ i, d.txHoldingBuffer i = none) (o : Outcome) : Kept (d.r56AllocIntermediateTxbufferMemory o) lost := by
  have zero : pointees d.txHoldingBuffer d.numTxHoldingBuffers = 0 := pointees_none fun i _ => empty i
  have zeroed : pointees (fun _ => (none : Option Resource)) d.numTxHoldingBuffers = 0 := pointees_none fun _ _ => rfl
  obtain ⟨acquired, above⟩ := acquireAll_spec d.ledger (fun i => o.grant (.holding i)) (fun i => d.fresh (.holding i))
    d.numTxHoldingBuffers
  unfold r56AllocIntermediateTxbufferMemory
  dsimp only
  split
  · refine ⟨account.take _ ?_ acquired, shape.rx, shape.tx, above, shape.list⟩
    simp only [owned, zero]
    exact Multiset.ext.mpr fun r => by simp only [Multiset.count_add, Multiset.count_zero]; omega
  · -- what was acquired is freed again
    refine ⟨account.take 0 ?_ ?_, shape.rx, shape.tx, fun _ _ => rfl, shape.list⟩
    · simp only [owned, zero, zeroed, zero_add]
    · rw [zero_add]
      have held := congrArg Ledger.held acquired
      have faults := congrArg Ledger.faults acquired
      dsimp only at held faults ⊢
      rw [freeBack_held held, faults]

theorem r56AllocBufferListMemory_rest (d : DeviceResources) (o : Outcome) :
    (d.r56AllocBufferListMemory o).1.intermediateRxbuffer = d.intermediateRxbuffer ∧
      (d.r56AllocBufferListMemory o).1.txHoldingBuffer = d.txHoldingBuffer ∧
      ((d.r56AllocBufferListMemory o).2 = true → (d.busType = .pci → d.memoryBase ≠ none) →
        (d.r56AllocBufferListMemory o).1.bufferList ≠ none) := by
  unfold r56AllocBufferListMemory
  split
  · rename_i pci
    exact ⟨rfl, rfl, fun _ mapped => mapped pci⟩
  · split
    · exact ⟨rfl, rfl, fun _ _ => Option.some_ne_none _⟩
    · exact ⟨rfl, rfl, fun went => absurd went Bool.false_ne_true⟩

theorem r56AllocIntermediateRxbufferMemory_holding (d : DeviceResources) (o : Outcome) :
    (d.r56AllocIntermediateRxbufferMemory o).1.txHoldingBuffer = d.txHoldingBuffer := by
  unfold r56AllocIntermediateRxbufferMemory
  split
  · rfl
  · rfl

/-- A device with nothing allocated, and with its memory mapped on the PCI bus. -/
structure Unallocated (d : DeviceResources) : Prop where
  list : d.bufferList = none
  rxbuffer : d.intermediateRxbuffer = none
  holding : ∀ i, d.txHoldingBuffer i = none
  mapped : d.busType = .pci → d.memoryBase ≠ none

/-- Whatever fails, the account of `r56_allocate_dma_buffers` shows no loss. -/
theorem r56AllocateDmaBuffers_spec (account : d.Account lost) (shape : d.Listed) (empty : d.Unallocated)
    (o : Outcome) : Kept (d.r56AllocateDmaBuffers o) lost := by
  obtain ⟨kept, entries⟩ := r56AllocBufferListMemory_spec account shape empty.list o
  obtain ⟨rxbuffer, holding, list⟩ := r56AllocBufferListMemory_rest d o
  refine kept.andThen fun went => ?_
  have some := list went empty.mapped
  obtain ⟨account, shape⟩ := kept
  generalize (d.r56AllocBufferListMemory o).1 = s at account shape entries rxbuffer holding some ⊢
  have rx := allocRxFrames_spec account shape some (fun i => (entries i).1) o
  refine rx.andThen fun _ => ?_
  have tx := allocTxFrames_spec rx.account rx.shape some (fun i => (entries i).2) o
  refine tx.andThen fun _ => ?_
  have buffer := r56AllocIntermediateRxbufferMemory_spec tx.account tx.shape (rxbuffer.trans empty.rxbuffer) o
  refine buffer.andThen fun _ => ?_
  have unheld : ∀ i, ((s.allocRxFrames o).1.allocTxFrames o).1.txHoldingBuffer i = none := fun i =>
    (congrFun holding i).trans (empty.holding i)
  refine r56AllocIntermediateTxbufferMemory_spec buffer.account buffer.shape (fun i => ?_) o
  exact (congrFun (r56AllocIntermediateRxbufferMemory_holding _ o) i).trans (unheld i)

/-- The second mapping of the registers is reached. -/
def remaps (o : Outcome) : Prop := o.grant .lcr ∧ o.grant .memory ∧ o.memoryTest

instance (o : Outcome) : Decidable (remaps o) :=
  inferInstanceAs (Decidable (o.grant .lcr ∧ o.grant .memory ∧ o.memoryTest))

/-- What claiming the bus leaves as it was, and that the PCI memory is mapped if there is no error. -/
structure BusClaimed (d : DeviceResources) (r : DeviceResources × Bool) : Prop where
  busType : r.1.busType = d.busType
  list : r.1.bufferList = d.bufferList
  rxbuffer : r.1.intermediateRxbuffer = d.intermediateRxbuffer
  holding : r.1.txHoldingBuffer = d.txHoldingBuffer
  shape : d.Listed → r.1.Listed
  mapped : r.2 = true → d.busType = .pci → r.1.memoryBase ≠ none

/-- Claiming the PCI resources loses the first mapping of the registers when it makes the second. -/
theorem claimPci_spec (account : d.Account lost) (noLcr : d.lcrBase = none) (noMemory : d.memoryBase = none)
    (o : Outcome) :
    (d.claimPci o).1.Account (lost + if remaps o then {d.fresh .lcr} else 0) ∧ BusClaimed d (d.claimPci o) := by
  have keeps (r : DeviceResources × Bool) (same : { r.1 with
      ledger := d.ledger, lcrBase := d.lcrBase, memoryBase := d.memoryBase } = d)
      (mapped : r.2 = true → r.1.memoryBase ≠ none) : BusClaimed d r := by
    obtain ⟨t, result⟩ := r
    rw [← same]
    exact ⟨rfl, rfl, rfl, rfl, fun shape => ⟨shape.rx, shape.tx, shape.holding, shape.list⟩, fun went _ => mapped went⟩
  have counted {m n : Multiset Resource} (same : ∀ r, m.count r = n.count r) : m = n := Multiset.ext.mpr same
  by_cases lcr : o.grant .lcr
  · by_cases memory : o.grant .memory
    · by_cases test : o.memoryTest
      · -- the pointer to the first mapping is overwritten in both cases
        have reached : remaps o := ⟨lcr, memory, test⟩
        rw [if_pos reached]
        by_cases again : o.grant .lcrAgain
        · have result : d.claimPci o = ({ d with
              ledger := ((d.ledger.acquire (d.fresh .lcr)).acquire (d.fresh .memory)).acquire (d.fresh .lcrAgain)
              memoryBase := some (d.fresh .memory), lcrBase := some (d.fresh .lcrAgain) }, true) := by
            simp only [claimPci, andThen, mapLcr, mapMemory, lcr, memory, test, again, if_true]
            rfl
          rw [result]
          refine ⟨account.shift ({d.fresh .lcrAgain} + ({d.fresh .memory} + {d.fresh .lcr})) ?_ ?_,
            keeps _ rfl fun _ => Option.some_ne_none _⟩
          · simp only [acquire, add_assoc]
          · simp only [owned, noLcr, noMemory, pointee_none, pointee_some]
            exact counted fun r => by simp only [Multiset.count_add, Multiset.count_zero]; omega
        · have result : d.claimPci o = ({ d with
              ledger := (d.ledger.acquire (d.fresh .lcr)).acquire (d.fresh .memory)
              memoryBase := some (d.fresh .memory), lcrBase := none }, false) := by
            simp only [claimPci, andThen, mapLcr, mapMemory, lcr, memory, test, again, if_true]
            rfl
          rw [result]
          refine ⟨account.shift ({d.fresh .memory} + {d.fresh .lcr}) ?_ ?_,
            keeps _ rfl fun _ => Option.some_ne_none _⟩
          · simp only [acquire, add_assoc]
          · simp only [owned, noLcr, noMemory, pointee_none, pointee_some]
            exact counted fun r => by simp only [Multiset.count_add, Multiset.count_zero]; omega
      · have result : d.claimPci o = ({ d with
            ledger := (d.ledger.acquire (d.fresh .lcr)).acquire (d.fresh .memory)
            memoryBase := some (d.fresh .memory), lcrBase := some (d.fresh .lcr) }, false) := by
          simp only [claimPci, andThen, mapLcr, mapMemory, lcr, memory, test, if_true]
          rfl
        rw [result, if_neg fun reached : remaps o => test reached.2.2, add_zero]
        refine ⟨account.take ({d.fresh .memory} + {d.fresh .lcr}) ?_ ?_, keeps _ rfl fun _ => Option.some_ne_none _⟩
        · simp only [owned, noLcr, noMemory, pointee_none, pointee_some]
          exact counted fun r => by simp only [Multiset.count_add, Multiset.count_zero]; omega
        · simp only [acquire, add_assoc]
    · have result : d.claimPci o = ({ d with
          ledger := d.ledger.acquire (d.fresh .lcr), memoryBase := none, lcrBase := some (d.fresh .lcr) }, false) := by
        simp only [claimPci, andThen, mapLcr, mapMemory, lcr, memory, if_true]
        rfl
      rw [result, if_neg fun reached : remaps o => memory reached.2.1, add_zero]
      refine ⟨account.take {d.fresh .lcr} ?_ rfl, keeps _ rfl fun went => absurd went Bool.false_ne_true⟩
      simp only [owned, noLcr, noMemory, pointee_none, pointee_some]
      exact counted fun r => by simp only [Multiset.count_add, Multiset.count_zero]; omega
  · have result : d.claimPci o = ({ d with lcrBase := none }, false) := by
      simp only [claimPci, andThen, mapLcr, lcr]
      rfl
    rw [result, if_neg fun reached : remaps o => lcr reached.1, add_zero]
    refine ⟨account.take 0 ?_ (by rw [zero_add]), keeps _ rfl fun went => absurd went Bool.false_ne_true⟩
    simp only [owned, noLcr, zero_add]

theorem requestDma_spec (account : d.Account lost) (none : d.dmaRequested = false) (isa : d.busType ≠ .pci)
    (o : Outcome) : (d.requestDma o).1.Account lost ∧ BusClaimed d (d.requestDma o) := by
  unfold requestDma
  split
  · refine ⟨account.take {{ call := .dma }} ?_ rfl, ⟨rfl, rfl, rfl, rfl,
      fun shape => ⟨shape.rx, shape.tx, shape.holding, shape.list⟩, fun _ pci => absurd pci isa⟩⟩
    simp only [owned, none, requested_false, requested_true, pointee_none, pointee_some]
    exact Multiset.ext.mpr fun r => by simp only [Multiset.count_add, Multiset.count_zero]; omega
  · exact ⟨account, ⟨rfl, rfl, rfl, rfl, id, fun _ pci => absurd pci isa⟩⟩

/-- What an opening loses. -/
def leak (d : DeviceResources) (o : Outcome) : Multiset Resource :=
  if d.busType = .pci ∧ o.grant .region ∧ o.grant .irq ∧ remaps o then {d.fresh .lcr} else 0

theorem claimBus_spec (account : d.Account lost) (noLcr : d.lcrBase = none) (noMemory : d.memoryBase = none)
    (noDma : d.dmaRequested = false) (o : Outcome) :
    (d.claimBus o).1.Account (lost + if d.busType = .pci ∧ remaps o then {d.fresh .lcr} else 0) ∧
      BusClaimed d (d.claimBus o) := by
  unfold claimBus
  split
  · rename_i pci
    have same : (if d.busType = .pci ∧ remaps o then ({d.fresh .lcr} : Multiset Resource) else 0) =
        if remaps o then {d.fresh .lcr} else 0 := if_congr (and_iff_right pci) rfl rfl
    rw [same]
    exact claimPci_spec account noLcr noMemory o
  · rename_i isa
    rw [if_neg fun both => isa both.1, add_zero]
    exact requestDma_spec account noDma isa o

theorem claimAndAllocate_spec (account : d.Account lost) (shape : d.Listed) (noLcr : d.lcrBase = none)
    (noMemory : d.memoryBase = none) (noDma : d.dmaRequested = false) (noList : d.bufferList = none)
    (noBuffer : d.intermediateRxbuffer = none) (noHolding : ∀ i, d.txHoldingBuffer i = none) (o : Outcome) :
    Kept (andThen (d.claimBus o) fun d => d.r56AllocateDmaBuffers o)
      (lost + if d.busType = .pci ∧ remaps o then {d.fresh .lcr} else 0) := by
  obtain ⟨bus, claimed⟩ := claimBus_spec account noLcr noMemory noDma o
  have kept : Kept (d.claimBus o) (lost + if d.busType = .pci ∧ remaps o then {d.fresh .lcr} else 0) :=
    ⟨bus, claimed.shape shape⟩
  refine kept.andThen fun went => ?_
  have empty : (d.claimBus o).1.Unallocated := by
    refine ⟨claimed.list.trans noList, claimed.rxbuffer.trans noBuffer, fun i => ?_, fun pci => ?_⟩
    · rw [claimed.holding]
      exact noHolding i
    · exact claimed.mapped went (claimed.busType.symm.trans pci)
  exact r56AllocateDmaBuffers_spec kept.account kept.shape empty o

/-- `r56_claim_resources` loses the first mapping, and whenever it fails it leaves nothing claimed. -/
theorem r56ClaimResources_spec (account : d.Account lost) (empty : d.Unclaimed) (o : Outcome) :
    Kept (d.r56ClaimResources o) (lost + d.leak o) ∧
      ((d.r56ClaimResources o).2 = false → (d.r56ClaimResources o).1.Unclaimed) := by
  have released {r : DeviceResources × Bool} {gone : Multiset Resource} (kept : Kept r gone) :
      Kept (if r.2 then r else (r.1.r56ReleaseResources, false)) gone ∧
        ((if r.2 then r else (r.1.r56ReleaseResources, false)).2 = false →
          (if r.2 then r else (r.1.r56ReleaseResources, false)).1.Unclaimed) := by
    obtain ⟨back, unclaimed⟩ := r56ReleaseResources_spec kept.account kept.shape
    split
    · rename_i went
      exact ⟨kept, fun failed => absurd (went.symm.trans failed) (by decide)⟩
    · exact ⟨⟨back, unclaimed.listed⟩, fun _ => unclaimed⟩
  have shape := empty.listed
  unfold r56ClaimResources leak
  by_cases region : o.grant .region
  · rw [if_pos region]
    refine released ?_
    have claimed : d.requestRegion.Account lost := by
      refine account.take {{ call := .region }} ?_ rfl
      simp only [owned, requestRegion, empty.region, requested_false, requested_true, pointee_none, pointee_some]
      exact Multiset.ext.mpr fun r => by simp only [Multiset.count_add, Multiset.count_zero]; omega
    have still : d.requestRegion.Listed := ⟨shape.rx, shape.tx, shape.holding, shape.list⟩
    generalize given : d.requestRegion = s at claimed still ⊢
    by_cases irq : o.grant .irq
    · have granted : s.requestIrq o = ({ s with
          ledger := s.ledger.acquire { call := .irq }, irqRequested := true }, true) := if_pos irq
      have noIrq : s.irqRequested = false := by
        rw [← given]
        exact empty.irq
      have both : ({ s with ledger := s.ledger.acquire { call := .irq }, irqRequested := true } :
          DeviceResources).Account lost := by
        refine claimed.take {{ call := .irq }} ?_ rfl
        simp only [owned, noIrq, requested_false, requested_true, pointee_none, pointee_some]
        exact Multiset.ext.mpr fun r => by simp only [Multiset.count_add, Multiset.count_zero]; omega
      have last := claimAndAllocate_spec both ⟨still.rx, still.tx, still.holding, still.list⟩
        (by rw [← given]; exact empty.lcr) (by rw [← given]; exact empty.memory) (by rw [← given]; exact empty.dma)
        (by rw [← given]; exact empty.list) (by rw [← given]; exact empty.rxbuffer)
        (by rw [← given]; exact empty.holding) o
      have same : (if d.busType = .pci ∧ o.grant .region ∧ o.grant .irq ∧ remaps o then
          ({d.fresh .lcr} : Multiset Resource) else 0) =
          if s.busType = .pci ∧ remaps o then {s.fresh .lcr} else 0 := by
        rw [← given]
        exact if_congr ⟨fun all => ⟨all.1, all.2.2.2⟩, fun two => ⟨two.1, region, irq, two.2⟩⟩ rfl rfl
      rw [granted, same]
      exact last
    · have refused : s.requestIrq o = (s, false) := if_neg irq
      rw [refused, if_neg fun all => irq all.2.2.1, add_zero]
      exact ⟨claimed, still⟩
  · rw [if_neg region, if_neg fun all => region all.2.1, add_zero]
    exact ⟨⟨account, shape⟩, fun _ => empty⟩

/-- An opening that maps the registers a second time, and so loses the first mapping. -/
def loses (d : DeviceResources) (o : Outcome) : Prop :=
  d.initialized = false ∧ (d.xmitBuf ≠ none ∨ o.grant .xmitBuf) ∧
    d.busType = .pci ∧ o.grant .region ∧ o.grant .irq ∧ remaps o

instance (d : DeviceResources) (o : Outcome) : Decidable (d.loses o) :=
  inferInstanceAs (Decidable (d.initialized = false ∧ (d.xmitBuf ≠ none ∨ o.grant .xmitBuf) ∧
    d.busType = .pci ∧ o.grant .region ∧ o.grant .irq ∧ remaps o))

/-- The lists are in order, and a device that is not initialized has claimed nothing. -/
structure Sound (d : DeviceResources) : Prop where
  shape : d.Listed
  closed : d.initialized = false → d.Unclaimed

theorem claimAndTest_spec (account : d.Account lost) (empty : d.Unclaimed) (o : Outcome) :
    (d.claimAndTest o).1.Account (lost + d.leak o) ∧ (d.claimAndTest o).1.Sound := by
  obtain ⟨claimed, failed⟩ := r56ClaimResources_spec account empty o
  have tested : Kept (andThen (d.r56ClaimResources o) fun d => (d, o.adapterTest)) (lost + d.leak o) :=
    claimed.andThen fun _ => ⟨claimed.account, claimed.shape⟩
  obtain ⟨back, unclaimed⟩ := r56ReleaseResources_spec tested.account tested.shape
  unfold claimAndTest
  dsimp only
  split
  · exact ⟨tested.account, ⟨tested.shape.rx, tested.shape.tx, tested.shape.holding, tested.shape.list⟩,
      fun begun => absurd (show true = false from begun) (by decide)⟩
  · exact ⟨back, unclaimed.listed, fun _ => unclaimed⟩

theorem startup_spec (account : d.Account lost) (sound : d.Sound) (o : Outcome) :
    (d.startup o).1.Account (lost + if d.loses o then {⟨.lcr, d.startups + 1⟩} else 0) ∧ (d.startup o).1.Sound := by
  unfold startup
  by_cases begun : d.initialized = true
  · rw [if_pos begun, if_neg fun lost : d.loses o => absurd (begun.symm.trans lost.1) (by decide), add_zero]
    exact ⟨account, sound⟩
  · have closed : d.initialized = false := Bool.eq_false_iff.mpr begun
    have empty := sound.closed closed
    rw [if_neg begun]
    have counted : ({ d with startups := d.startups + 1 } : DeviceResources).Account lost := account
    have same : ({ d with startups := d.startups + 1 } : DeviceResources).Unclaimed :=
      ⟨empty.region, empty.irq, empty.dma, empty.memory, empty.lcr, empty.list, empty.rx, empty.tx, empty.rxbuffer,
        empty.holding⟩
    generalize given : ({ d with startups := d.startups + 1 } : DeviceResources) = s at counted same ⊢
    have buffer : s.xmitBuf = d.xmitBuf := by rw [← given]
    -- with the transmit buffer allocated, what is lost is what `r56_claim_resources` loses
    have leaks (t : DeviceResources) (bus : t.busType = d.busType) (number : t.startups = d.startups + 1)
        (got : d.xmitBuf ≠ none ∨ o.grant .xmitBuf) :
        t.leak o = if d.loses o then {⟨.lcr, d.startups + 1⟩} else 0 := by
      unfold leak fresh
      rw [bus, number]
      exact if_congr ⟨fun all => ⟨closed, got, all⟩, fun all => all.2.2⟩ rfl rfl
    unfold getXmitBuf
    by_cases none : s.xmitBuf = none
    · rw [if_pos none]
      by_cases page : o.grant .xmitBuf
      · rw [if_pos page]
        have got : ({ s with ledger := s.ledger.acquire (s.fresh .xmitBuf), xmitBuf := some (s.fresh .xmitBuf) } :
            DeviceResources).Account lost := by
          refine counted.take {s.fresh .xmitBuf} ?_ rfl
          simp only [owned, none, pointee_none, pointee_some]
          exact Multiset.ext.mpr fun r => by simp only [Multiset.count_add, Multiset.count_zero]; omega
        have claimed := claimAndTest_spec got ⟨same.region, same.irq, same.dma, same.memory, same.lcr, same.list,
          same.rx, same.tx, same.rxbuffer, same.holding⟩ o
        rw [leaks _ (by rw [← given]) (by rw [← given]) (.inr page)] at claimed
        exact claimed
      · rw [if_neg page, if_neg fun lost : d.loses o => lost.2.1.elim (fun some => some (buffer.symm.trans none)) page,
          add_zero]
        exact ⟨counted, same.listed, fun _ => same⟩
    · rw [if_neg none]
      have claimed := claimAndTest_spec counted same o
      rw [leaks _ (by rw [← given]) (by rw [← given]) (.inl fun gone => none (buffer.trans gone))] at claimed
      exact claimed

theorem shutdown_spec (account : d.Account lost) (sound : d.Sound) : d.shutdown.Account lost ∧ d.shutdown.Sound := by
  unfold shutdown
  split
  · have freed : ({ d with ledger := d.ledger.free d.xmitBuf, xmitBuf := none } : DeviceResources).Account lost := by
      refine account.letGo ?_ rfl
      simp only [owned, pointee_none]
      exact Multiset.ext.mpr fun r => by simp only [Multiset.count_add, Multiset.count_zero]; omega
    obtain ⟨back, empty⟩ := r56ReleaseResources_spec freed
      ⟨sound.shape.rx, sound.shape.tx, sound.shape.holding, sound.shape.list⟩
    have unclaimed : ({ r56ReleaseResources { d with ledger := d.ledger.free d.xmitBuf, xmitBuf := none } with
        initialized := false } : DeviceResources).Unclaimed :=
      ⟨empty.region, empty.irq, empty.dma, empty.memory, empty.lcr, empty.list, empty.rx, empty.tx, empty.rxbuffer,
        empty.holding⟩
    exact ⟨back, unclaimed.listed, fun _ => unclaimed⟩
  · exact ⟨account, sound⟩

theorem r56ReleaseResources_xmitBuf (d : DeviceResources) : d.r56ReleaseResources.xmitBuf = d.xmitBuf := by
  simp only [r56ReleaseResources, unmapLcr, unmapMemory, releaseRegion, r56FreeIntermediateTxbufferMemory,
    r56FreeIntermediateRxbufferMemory, r56FreeDmaBuffers, r56FreeBufferListMemory, freeTxFrames, freeRxFrames,
    freeDma, freeIrq]

theorem Unclaimed.owned_eq (empty : d.Unclaimed) : d.owned = pointee d.xmitBuf := by
  have rx : pointees d.rxVirtAddr d.rxBufferCount = 0 := pointees_none fun i _ => empty.rx i
  have tx : pointees d.txVirtAddr d.txBufferCount = 0 := pointees_none fun i _ => empty.tx i
  have held : pointees d.txHoldingBuffer d.numTxHoldingBuffers = 0 := pointees_none fun i _ => empty.holding i
  unfold owned DeviceResources.listed
  rw [empty.region, empty.irq, empty.dma, empty.memory, empty.lcr, empty.list, empty.rxbuffer, rx, tx, held]
  simp only [requested_false, pointee_none, add_zero, ite_self]

/-- What is held when the device was cleaned up: its transmit buffer and what was lost before. -/
theorem cleanup_ledger (account : d.Account lost) (sound : d.Sound) :
    d.cleanup.ledger = ⟨pointee d.xmitBuf + lost, 0⟩ := by
  obtain ⟨back, empty⟩ := r56ReleaseResources_spec account sound.shape
  have kept := r56ReleaseResources_xmitBuf d
  have held : d.r56ReleaseResources.ledger.held = {{ call := .device }} + (pointee d.xmitBuf + lost) := by
    rw [back, empty.owned_eq, kept, add_assoc]
  have freed := release_held held
  rw [show d.r56ReleaseResources.ledger.faults = 0 by rw [back]] at freed
  exact freed

end DeviceResources

/-- What happens to a device between loading and unloading. -/
inductive PortCall
  | open (o : Outcome)
  | close

/-- `startup` or `shutdown`. -/
def DeviceResources.call (d : DeviceResources) : PortCall → DeviceResources
  | .open o => (d.startup o).1
  | .close => d.shutdown

/-- One of the devices is opened or closed. -/
def ResourceStep (s : List DeviceResources) (e : Nat × PortCall) (t : List DeviceResources) : Prop :=
  ∃ d, s[e.1]? = some d ∧ t = s.set e.1 (d.call e.2)

/-- `route56_cleanup` goes through the list of devices. -/
def route56Cleanup (s : List DeviceResources) : List DeviceResources := s.map DeviceResources.cleanup

/-- The call loses nothing. -/
def KeepsMappings (s : List DeviceResources) (e : Nat × PortCall) : Prop :=
  ∀ d o, s[e.1]? = some d → e.2 = .open o → ¬d.loses o

namespace DeviceResources

/-- Every resource held is named by a field. -/
def Balanced (d : DeviceResources) : Prop := d.Account 0

/-- A device has an account, whatever was lost. -/
structure Accounted (d : DeviceResources) : Prop where
  sound : d.Sound
  account : ∃ lost, d.Account lost

variable {d : DeviceResources} {lost : Multiset Resource}

theorem Account.balanced_iff (account : d.Account lost) : d.Balanced ↔ lost = 0 := by
  constructor
  · intro balanced
    have same : {{ call := .device }} + d.owned + lost = {{ call := .device }} + d.owned + 0 :=
      congrArg Ledger.held (account.symm.trans balanced)
    exact add_left_cancel same
  · rintro rfl
    exact account

theorem Accounted.call (accounted : d.Accounted) (c : PortCall) :
    (d.call c).Accounted ∧ ((d.call c).Balanced ↔ d.Balanced ∧ ∀ o, c = .open o → ¬d.loses o) := by
  obtain ⟨sound, lost, account⟩ := accounted
  cases c with
  | «open» o =>
    obtain ⟨opened, next⟩ := startup_spec account sound o
    refine ⟨⟨next, _, opened⟩, ?_⟩
    show (d.startup o).1.Balanced ↔ _
    rw [opened.balanced_iff, account.balanced_iff, add_eq_zero]
    refine and_congr_right fun _ => ?_
    constructor
    · intro none o' same gone
      cases same
      rw [if_pos gone] at none
      exact Multiset.singleton_ne_zero _ none
    · intro keeps
      exact if_neg (keeps o rfl)
  | close =>
    obtain ⟨closed, next⟩ := shutdown_spec account sound
    refine ⟨⟨next, _, closed⟩, ?_⟩
    show d.shutdown.Balanced ↔ _
    rw [closed.balanced_iff, account.balanced_iff]
    exact ⟨fun none => ⟨none, by nofun⟩, And.left⟩

end DeviceResources

/-- Every device of the driver has its account. -/
def AllAccounted (s : List DeviceResources) : Prop := ∀ d ∈ s, d.Accounted

def AllBalanced (s : List DeviceResources) : Prop := ∀ d ∈ s, d.Balanced

theorem AllAccounted.step {s t : List DeviceResources} {e : Nat × PortCall} (accounted : AllAccounted s)
    (step : ResourceStep s e t) : AllAccounted t ∧ (AllBalanced t ↔ AllBalanced s ∧ KeepsMappings s e) := by
  obtain ⟨d, found, rfl⟩ := step
  obtain ⟨inside, at_⟩ := List.getElem?_eq_some_iff.mp found
  have member : d ∈ s := List.mem_of_getElem? found
  obtain ⟨next, exact_call⟩ := (accounted d member).call e.2
  refine ⟨fun x new => ?_, ?_⟩
  · rcases List.mem_or_eq_of_mem_set new with old | rfl
    · exact accounted x old
    · exact next
  · constructor
    · intro balanced
      have here := exact_call.mp (balanced _ (List.mem_set inside _))
      refine ⟨fun x old => ?_, fun x o same opened => ?_⟩
      · obtain ⟨j, below, rfl⟩ := List.mem_iff_getElem.mp old
        by_cases which : e.1 = j
        · subst which
          rw [at_]
          exact here.1
        · refine balanced _ (List.mem_iff_getElem.mpr ⟨j, by rwa [List.length_set], ?_⟩)
          exact List.getElem_set_ne which _
      · cases found.symm.trans same
        exact here.2 o opened
    · rintro ⟨balanced, keeps⟩ x new
      rcases List.mem_or_eq_of_mem_set new with old | rfl
      · exact balanced x old
      · exact exact_call.mpr ⟨balanced d member, fun o opened => keeps d o found opened⟩

theorem accounted_new (devices : List R56Struct) : AllAccounted (devices.map R56Struct.deviceResources) ∧
    AllBalanced (devices.map R56Struct.deviceResources) := by
  have new (info : R56Struct) : info.deviceResources.Unclaimed ∧ info.deviceResources.Account 0 := by
    have empty : info.deviceResources.Unclaimed :=
      ⟨rfl, rfl, rfl, rfl, rfl, rfl, fun _ => rfl, fun _ => rfl, rfl, fun _ => rfl⟩
    refine ⟨empty, ?_⟩
    unfold DeviceResources.Account
    rw [empty.owned_eq]
    rfl
  refine ⟨fun d member => ?_, fun d member => ?_⟩
  · obtain ⟨info, -, rfl⟩ := List.mem_map.mp member
    exact ⟨⟨(new info).1.listed, fun _ => (new info).1⟩, 0, (new info).2⟩
  · obtain ⟨info, -, rfl⟩ := List.mem_map.mp member
    exact (new info).2

/-- In every run nothing is released that is not held. After the driver is unloaded nothing is held
exactly when no opening mapped the registers of a PCI device twice, and no failed opening has
left a transmit buffer. -/
theorem resources_released_iff (devices : List R56Struct) {p : List ((Nat × PortCall) × List DeviceResources)}
    (run : Run ResourceStep (devices.map R56Struct.deviceResources) p) :
    let start := devices.map R56Struct.deviceResources
    (∀ x ∈ p, ∀ d ∈ x.2, d.ledger.faults = 0) ∧ (∀ d ∈ route56Cleanup (last start p), d.ledger.faults = 0) ∧
      ((∀ d ∈ route56Cleanup (last start p), d.ledger.held = 0) ↔
        Run (fun s e _ => KeepsMappings s e) start p ∧ ∀ d ∈ last start p, d.xmitBuf = none) := by
  intro start
  obtain ⟨accounted, balanced⟩ := accounted_new devices
  have preserved : ∀ s e t, AllAccounted s → ResourceStep s e t → AllAccounted t :=
    fun _ _ _ accounted step => (accounted.step step).1
  have faultless {s : List DeviceResources} (accounted : AllAccounted s) : ∀ d ∈ s, d.ledger.faults = 0 := by
    intro d member
    obtain ⟨lost, account⟩ := (accounted d member).account
    exact congrArg Ledger.faults account
  have ends := run.last_invariant preserved accounted
  have left : AllBalanced (last start p) ↔ Run (fun s e _ => KeepsMappings s e) start p :=
    (run.last_iff preserved (fun _ _ _ accounted step => (accounted.step step).2) accounted).trans
      (and_iff_right balanced)
  refine ⟨fun x member => faultless (run.invariant preserved accounted x member), ?_, ?_⟩
  · intro d member
    obtain ⟨d, old, rfl⟩ := List.mem_map.mp member
    obtain ⟨lost, account⟩ := (ends d old).account
    rw [DeviceResources.cleanup_ledger account (ends d old).sound]
  · rw [← left]
    constructor
    · intro empty
      refine ⟨fun d old => ?_, fun d old => ?_⟩
      all_goals
        obtain ⟨lost, account⟩ := (ends d old).account
        have held := empty d.cleanup (List.mem_map_of_mem old)
        rw [DeviceResources.cleanup_ledger account (ends d old).sound, add_eq_zero] at held
      · exact account.balanced_iff.mpr held.2
      · cases some : d.xmitBuf with
        | none => rfl
        | some r =>
          rw [some, pointee_some] at held
          exact absurd held.1 (Multiset.singleton_ne_zero r)
    · rintro ⟨whole, none⟩ d member
      obtain ⟨d, old, rfl⟩ := List.mem_map.mp member
      rw [DeviceResources.cleanup_ledger (whole d old) (ends d old).sound, none d old]
      rfl

/-- Everything is granted, and both tests pass. -/
def smooth : Outcome where
  grant _ := true
  memoryTest := true
  adapterTest := true

/-- An ISA and a PCI device with the default parameters. -/
def isaCard : R56Struct := { r56AllocateDevice with busType := .isa }
def pciCard : R56Struct := { r56AllocateDevice with busType := .pci }

/-- The first device is opened and closed. -/
def openedOnce (info : R56Struct) : List ((Nat × PortCall) × List DeviceResources) :=
  let opened := (info.deviceResources.startup smooth).1
  [((0, .open smooth), [opened]), ((0, .close), [opened.shutdown])]

theorem openedOnce_run (info : R56Struct) : Run ResourceStep ([info].map R56Struct.deviceResources) (openedOnce info) :=
  ⟨⟨_, rfl, rfl⟩, ⟨_, rfl, rfl⟩, trivial⟩

theorem resources_released_isa :
    Run ResourceStep ([isaCard].map R56Struct.deviceResources) (openedOnce isaCard) ∧
      ∀ d ∈ route56Cleanup (last ([isaCard].map R56Struct.deviceResources) (openedOnce isaCard)), d.ledger.held = 0 := by
  refine ⟨openedOnce_run isaCard, ?_⟩
  refine (resources_released_iff [isaCard] (openedOnce_run isaCard)).2.2.mpr ⟨⟨?_, ?_, trivial⟩, ?_⟩
  · intro d o found _ gone
    cases found
    exact absurd gone.2.2.1 (by decide)
  · intro d o _ opened
    exact absurd opened (by nofun)
  · intro d member
    rw [List.mem_singleton.mp member]
    decide +kernel

/-- A PCI device is opened and closed, and the first mapping of its registers stays. -/
theorem first_mapping_stays :
    Run ResourceStep ([pciCard].map R56Struct.deviceResources) (openedOnce pciCard) ∧
      ∃ d ∈ route56Cleanup (last ([pciCard].map R56Struct.deviceResources) (openedOnce pciCard)),
        d.ledger.held = {⟨.lcr, 1⟩} := by
  refine ⟨openedOnce_run pciCard, _, List.mem_map_of_mem (List.mem_singleton.mpr rfl), ?_⟩
  decide +kernel

end Route56
