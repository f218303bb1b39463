import Route56.Lifecycle
import Route56.Lib.CInteger

namespace Route56

open CInteger

/-- The module parameters that a device takes over, one int for each device. -/
structure ModuleParams where
  maxframe : Fin maxTotalDevices → BitVec 32
  txdmabufs : Fin maxTotalDevices → BitVec 32
  txholdbufs : Fin maxTotalDevices → BitVec 32

/-- The clamp of `max_frame_size` at the end of `r56_add_device`. -/
def clampFrameSize (size : Nat) : Nat := if size < 4096 then 4096 else if size > 65535 then 65535 else size

/-- `num_tx_dma_buffers` and `num_tx_holding_buffers` of `r56_add_device`. -/
def takeBufferParams (params : ModuleParams) (i : Fin maxTotalDevices) (info : R56Struct) : R56Struct :=
  let info :=
    if params.txdmabufs i ≠ 0 then
      { info with
        numTxDmaBuffers := if (params.txdmabufs i).toInt < 1 then 1 else (params.txdmabufs i).toInt.toNat }
    else info
  if params.txholdbufs i ≠ 0 then
    { info with
      numTxHoldingBuffers :=
        if (params.txholdbufs i).toInt < 1 then 1
        else if (params.txholdbufs i).toInt > maxTxHoldingBuffers then maxTxHoldingBuffers
        else (params.txholdbufs i).toInt.toNat }
  else info

/-- `r56_add_device` for the device that gets the number `line`. -/
def r56AddDevice (params : ModuleParams) (line : Nat) (info : R56Struct) : R56Struct :=
  let info :=
    if small : line < maxTotalDevices then
      takeBufferParams params ⟨line, small⟩
        (if params.maxframe ⟨line, small⟩ ≠ 0 then
          { info with maxFrameSize := (params.maxframe ⟨line, small⟩).toNat } else info)
    else info
  { info with maxFrameSize := clampFrameSize info.maxFrameSize }

/-- `r56_add_device`, given up where the u32 `max_frame_size` does not have the value of `maxframe`. -/
def r56AddDeviceChecked (params : ModuleParams) (line : Nat) (info : R56Struct) : Option R56Struct :=
  if small : line < maxTotalDevices then
    (uint.exact (params.maxframe ⟨line, small⟩).toInt).bind fun _ => some (r56AddDevice params line info)
  else some (r56AddDevice params line info)

/-- `BuffersPerFrame`, an unsigned short. -/
def R56Struct.buffersPerFrame (info : R56Struct) : Nat :=
  let buffersPerFrame := info.maxFrameSize / dmaBufferSize % 2 ^ 16
  if info.maxFrameSize % dmaBufferSize ≠ 0 then (buffersPerFrame + 1) % 2 ^ 16 else buffersPerFrame

/-- The buffer counts of `r56_allocate_dma_buffers`, in the unsigned ints they are kept in. -/
def countDmaBuffersWrapped (info : R56Struct) : R56Struct :=
  let tx := info.numTxDmaBuffers * info.buffersPerFrame % 2 ^ 32
  let left := (62 + (2 ^ 32 - tx)) % 2 ^ 32
  let rx := info.buffersPerFrame * maxRxFrames + 6
  { info with
    txBufferCount := tx
    rxBufferCount := if info.busType = .pci then left else if (tx + rx) % 2 ^ 32 > 62 then left else rx }

/-- `BuffersPerFrame`, given up where an unsigned short does not have a value. -/
def buffersPerFrameChecked (info : R56Struct) : Option Int :=
  (ushort.exact (info.maxFrameSize / dmaBufferSize : Nat)).bind fun buffersPerFrame =>
    if info.maxFrameSize % dmaBufferSize ≠ 0 then ushort.exact (buffersPerFrame + 1) else some buffersPerFrame

/-- The count computation of `r56_allocate_dma_buffers`, given up where a value does not
fit the type in which it is computed or stored. -/
def countDmaBuffersChecked (info : R56Struct) : Option R56Struct :=
  (buffersPerFrameChecked info).bind fun buffersPerFrame =>
  (int.exact (info.numTxDmaBuffers * buffersPerFrame)).bind fun product =>
  (uint.exact product).bind fun tx =>
    if info.busType = .pci then
      (uint.exact (62 - tx)).bind fun rx =>
        some { info with txBufferCount := tx.toNat, rxBufferCount := rx.toNat }
    else
      (int.exact (buffersPerFrame * maxRxFrames)).bind fun frames =>
      (int.exact (frames + 6)).bind fun sum =>
      (uint.exact sum).bind fun rx =>
      (uint.exact (tx + rx)).bind fun total =>
        if total > 62 then
          (uint.exact (62 - tx)).bind fun rx =>
            some { info with txBufferCount := tx.toNat, rxBufferCount := rx.toNat }
        else some { info with txBufferCount := tx.toNat, rxBufferCount := rx.toNat }

/-- The transmit frames asked for: a missing or too small number counts as one. -/
def wantedFrames (txdmabufs : BitVec 32) : Nat := (max 1 txdmabufs.toInt).toNat

/-- The frame size asked for. A negative one is a large unsigned one. -/
def wantedFrameSize (maxframe : BitVec 32) : Nat := max 4096 (min 65535 maxframe.toNat)

/-- The pages of one frame of the size asked for. -/
def wantedPages (maxframe : BitVec 32) : Nat := (wantedFrameSize maxframe + 4095) / 4096

/-- The pages of all transmit frames that the parameters ask for on the device `line`. -/
def ModuleParams.wantedPages (params : ModuleParams) (line : Nat) : Nat :=
  if small : line < maxTotalDevices then
    wantedFrames (params.txdmabufs ⟨line, small⟩) * Route56.wantedPages (params.maxframe ⟨line, small⟩)
  else 1

/-- What the claimed pages have to be divided into. -/
structure Partitioned (info : R56Struct) : Prop where
  tx : 1 ≤ info.txBufferCount
  rx : 1 ≤ info.rxBufferCount
  pages : info.txBufferCount + info.rxBufferCount ≤ 62
  frames : info.numTxDmaBuffers * info.maxFrameSize ≤ info.txBufferCount * 4096

/-- A device whose frame size and number of transmit frames are as `r56_add_device` leaves them. -/
structure Sized (info : R56Struct) (pages : Nat) : Prop where
  frames : 1 ≤ info.numTxDmaBuffers ∧ info.numTxDmaBuffers < 2 ^ 31
  size : 4096 ≤ info.maxFrameSize ∧ info.maxFrameSize ≤ 65535
  wanted : info.numTxDmaBuffers * ((info.maxFrameSize + 4095) / 4096) = pages

theorem takeBufferParams_frames (params : ModuleParams) (i : Fin maxTotalDevices) {info : R56Struct}
    (one : info.numTxDmaBuffers = 1) :
    (takeBufferParams params i info).numTxDmaBuffers = wantedFrames (params.txdmabufs i) := by
  have zero : params.txdmabufs i = 0 ↔ (params.txdmabufs i).toInt = 0 := by
    rw [← BitVec.toInt_inj]
    simp
  have held (s : R56Struct) : (if params.txholdbufs i ≠ 0 then
      { s with
        numTxHoldingBuffers :=
          if (params.txholdbufs i).toInt < 1 then 1
          else if (params.txholdbufs i).toInt > maxTxHoldingBuffers then maxTxHoldingBuffers
          else (params.txholdbufs i).toInt.toNat } else s).numTxDmaBuffers = s.numTxDmaBuffers := by
    split <;> rfl
  refine (held _).trans ?_
  unfold wantedFrames
  by_cases given : params.txdmabufs i ≠ 0
  · rw [if_pos given]
    show (if (params.txdmabufs i).toInt < 1 then 1 else (params.txdmabufs i).toInt.toNat) = _
    split <;> omega
  · rw [if_neg given, one]
    have value := zero.mp (not_not.mp given)
    omega

theorem takeBufferParams_size (params : ModuleParams) (i : Fin maxTotalDevices) (info : R56Struct) :
    (takeBufferParams params i info).maxFrameSize = info.maxFrameSize := by
  unfold takeBufferParams
  dsimp only
  split <;> split <;> rfl

theorem r56AddDevice_sized (params : ModuleParams) (line : Nat) (busType : BusType) :
    Sized (r56AddDevice params line { r56AllocateDevice with busType := busType }) (params.wantedPages line) := by
  have clamped (size : Nat) : clampFrameSize size = max 4096 (min 65535 size) := by
    unfold clampFrameSize
    split <;> [omega; split <;> omega]
  by_cases small : line < maxTotalDevices
  · set device : R56Struct :=
      if params.maxframe ⟨line, small⟩ ≠ 0 then
        { r56AllocateDevice with busType := busType, maxFrameSize := (params.maxframe ⟨line, small⟩).toNat }
      else { r56AllocateDevice with busType := busType } with given
    have added : r56AddDevice params line { r56AllocateDevice with busType := busType } =
        { takeBufferParams params ⟨line, small⟩ device with
          maxFrameSize := clampFrameSize (takeBufferParams params ⟨line, small⟩ device).maxFrameSize } := by
      unfold r56AddDevice
      rw [dif_pos small]
    have one : device.numTxDmaBuffers = 1 := by
      rw [given]
      split <;> rfl
    have frames := takeBufferParams_frames params ⟨line, small⟩ one
    have size : clampFrameSize device.maxFrameSize = wantedFrameSize (params.maxframe ⟨line, small⟩) := by
      unfold wantedFrameSize
      rw [clamped, given]
      split
      · rfl
      · next zero => rw [not_not.mp zero]; rfl
    have bound := @BitVec.toInt_lt 32 (params.txdmabufs ⟨line, small⟩)
    rw [added]
    refine ⟨?_, ?_, ?_⟩
    · show 1 ≤ (takeBufferParams params ⟨line, small⟩ device).numTxDmaBuffers ∧ _
      rw [frames]
      unfold wantedFrames
      omega
    · show 4096 ≤ clampFrameSize _ ∧ clampFrameSize _ ≤ 65535
      rw [clamped]
      omega
    · show (takeBufferParams params ⟨line, small⟩ device).numTxDmaBuffers *
        ((clampFrameSize (takeBufferParams params ⟨line, small⟩ device).maxFrameSize + 4095) / 4096) = _
      unfold ModuleParams.wantedPages Route56.wantedPages
      rw [dif_pos small, frames, takeBufferParams_size, size]
  · have added : r56AddDevice params line { r56AllocateDevice with busType := busType } =
        { r56AllocateDevice with busType := busType, maxFrameSize := clampFrameSize 4096 } := by
      unfold r56AddDevice
      rw [dif_neg small]
      rfl
    have wanted : params.wantedPages line = 1 := dif_neg small
    rw [added, wanted]
    exact ⟨⟨Nat.le_refl _, by show 1 < 2 ^ 31; omega⟩,
      by show 4096 ≤ clampFrameSize 4096 ∧ clampFrameSize 4096 ≤ 65535; rw [clamped]; omega,
      by show 1 * ((clampFrameSize 4096 + 4095) / 4096) = 1; rw [clamped]; rfl⟩

theorem Sized.buffersPerFrame {info : R56Struct} {pages : Nat} (sized : Sized info pages) :
    info.buffersPerFrame = (info.maxFrameSize + 4095) / 4096 ∧ info.buffersPerFrame ≤ 16 := by
  obtain ⟨low, high⟩ := sized.size
  have page : dmaBufferSize = 4096 := rfl
  unfold R56Struct.buffersPerFrame
  rw [page]
  dsimp only
  split <;> omega

theorem Sized.buffersPerFrameChecked {info : R56Struct} {pages : Nat} (sized : Sized info pages) :
    buffersPerFrameChecked info = some (info.buffersPerFrame : Int) := by
  obtain ⟨low, high⟩ := sized.size
  have page : dmaBufferSize = 4096 := rfl
  unfold Route56.buffersPerFrameChecked R56Struct.buffersPerFrame
  rw [page, exact_of_fits (by rw [ushort_fits]; omega), Option.bind_some]
  dsimp only
  split
  · rw [exact_of_fits (by rw [ushort_fits]; omega)]
    congr 1
    omega
  · congr 1
    omega

theorem Sized.product {info : R56Struct} {pages : Nat} (sized : Sized info pages) :
    info.numTxDmaBuffers * info.buffersPerFrame = pages := by
  rw [sized.buffersPerFrame.1, sized.wanted]

/-- Nothing wraps exactly when the transmit frames fit the pages there are. -/
theorem Sized.fits_of_checked {info after : R56Struct} {pages : Nat} (sized : Sized info pages)
    (checked : countDmaBuffersChecked info = some after) : pages ≤ 62 := by
  unfold countDmaBuffersChecked at checked
  rw [sized.buffersPerFrameChecked, Option.bind_some, exact_bind_eq_some, exact_bind_eq_some] at checked
  obtain ⟨-, -, checked⟩ := checked
  have product : (info.numTxDmaBuffers * info.buffersPerFrame : Int) = pages := by
    rw [← sized.product]
    exact (Nat.cast_mul _ _).symm
  have frames : (maxRxFrames : Int) = 7 := rfl
  rw [product, frames] at checked
  split at checked
  · rw [exact_bind_eq_some, uint_fits] at checked
    omega
  · simp only [exact_bind_eq_some, int_fits, uint_fits] at checked
    obtain ⟨-, -, -, -, checked⟩ := checked
    split at checked
    · rw [exact_bind_eq_some, uint_fits] at checked
      omega
    · omega

theorem Sized.checked_of_fits {info : R56Struct} {pages : Nat} (sized : Sized info pages) (fits : pages ≤ 62) :
    countDmaBuffersChecked info = some (countDmaBuffersWrapped info) := by
  have few := sized.buffersPerFrame.2
  have frames : maxRxFrames = 7 := rfl
  have product : (info.numTxDmaBuffers * info.buffersPerFrame : Int) = pages := by
    rw [← sized.product]
    exact (Nat.cast_mul _ _).symm
  unfold countDmaBuffersChecked countDmaBuffersWrapped
  dsimp only
  rw [sized.buffersPerFrameChecked, Option.bind_some, product, exact_of_fits (by rw [int_fits]; omega),
    Option.bind_some, exact_of_fits (by rw [uint_fits]; omega), Option.bind_some, sized.product, frames,
    Nat.mod_eq_of_lt (show pages < 2 ^ 32 by omega)]
  have left : (62 + (2 ^ 32 - pages)) % 2 ^ 32 = 62 - pages := by omega
  have spare : uint.exact (62 - (pages : Int)) = some (62 - (pages : Int)) :=
    exact_of_fits (by rw [uint_fits]; omega)
  have rest : (62 - (pages : Int)).toNat = 62 - pages := by omega
  rw [left]
  by_cases pci : info.busType = .pci
  · rw [if_pos pci, if_pos pci, spare, Option.bind_some, rest, Int.toNat_natCast]
  · rw [if_neg pci, if_neg pci, exact_of_fits (by rw [int_fits]; omega), Option.bind_some,
      exact_of_fits (by rw [int_fits]; omega), Option.bind_some, exact_of_fits (by rw [uint_fits]; omega),
      Option.bind_some, exact_of_fits (by rw [uint_fits]; omega), Option.bind_some]
    by_cases full : (pages + (info.buffersPerFrame * 7 + 6)) % 2 ^ 32 > 62
    · rw [if_pos (by omega), if_pos full, spare, Option.bind_some, rest, Int.toNat_natCast]
    · rw [if_neg (by omega), if_neg full, Int.toNat_natCast]
      congr 2

theorem Sized.counts {info : R56Struct} {pages : Nat} (sized : Sized info pages) (fits : pages ≤ 62) :
    (countDmaBuffersWrapped info).txBufferCount = pages ∧
      (countDmaBuffersWrapped info).rxBufferCount ≤ 62 - pages ∧
      (pages ≤ 61 ↔ 1 ≤ (countDmaBuffersWrapped info).rxBufferCount) := by
  have few := sized.buffersPerFrame.2
  have product := sized.product
  have frames : maxRxFrames = 7 := rfl
  unfold countDmaBuffersWrapped
  dsimp only
  rw [product, frames, Nat.mod_eq_of_lt (show pages < 2 ^ 32 by omega),
    Nat.mod_eq_of_lt (show pages + (info.buffersPerFrame * 7 + 6) < 2 ^ 32 by omega)]
  refine ⟨rfl, ?_, ?_⟩
  · split
    · omega
    · split <;> omega
  · split
    · omega
    · split <;> omega

/-- The division is sound, and no value in it wraps, exactly when the transmit frames leave
a page for the receiver. -/
theorem Sized.partitioned_iff {info : R56Struct} {pages : Nat} (sized : Sized info pages) :
    Partitioned (countDmaBuffersWrapped info) ∧
        countDmaBuffersChecked info = some (countDmaBuffersWrapped info) ↔ pages ≤ 61 := by
  constructor
  · rintro ⟨partitioned, checked⟩
    obtain ⟨-, -, exact_count⟩ := sized.counts (sized.fits_of_checked checked)
    exact exact_count.mpr partitioned.rx
  · intro fits
    obtain ⟨tx, rx, exact_count⟩ := sized.counts (by omega)
    have positive : 1 ≤ pages := by
      obtain ⟨low, high⟩ := sized.size
      rw [← sized.wanted]
      exact Nat.mul_pos sized.frames.1 (by omega)
    have frames : info.numTxDmaBuffers * info.maxFrameSize ≤ pages * 4096 := by
      have rounded : info.maxFrameSize ≤ (info.maxFrameSize + 4095) / 4096 * 4096 := by omega
      rw [← sized.wanted, Nat.mul_assoc]
      exact Nat.mul_le_mul_left _ rounded
    refine ⟨⟨?_, exact_count.mp fits, ?_, ?_⟩, sized.checked_of_fits (by omega)⟩
    · rw [tx]
      exact positive
    · rw [tx]
      omega
    · rw [tx]
      exact frames

/-- For all parameters and on both buses, the pages are divided soundly exactly when the
transmit frames asked for take at most 61 of them. Taking over `maxframe` is exact as
well when it is not negative. -/
theorem buffers_partitioned_iff (params : ModuleParams) (line : Nat) (busType : BusType) :
    let device : R56Struct := { r56AllocateDevice with busType := busType }
    let added := r56AddDevice params line device
    let sound := Partitioned (countDmaBuffersWrapped added) ∧
      countDmaBuffersChecked added = some (countDmaBuffersWrapped added)
    (sound ↔ params.wantedPages line ≤ 61) ∧
      (sound ∧ r56AddDeviceChecked params line device = some added ↔
        params.wantedPages line ≤ 61 ∧ ∀ small : line < maxTotalDevices, 0 ≤ (params.maxframe ⟨line, small⟩).toInt) := by
  intro device added sound
  have exact_sound : sound ↔ params.wantedPages line ≤ 61 :=
    (r56AddDevice_sized params line busType).partitioned_iff
  refine ⟨exact_sound, and_congr exact_sound ?_⟩
  unfold r56AddDeviceChecked
  by_cases small : line < maxTotalDevices
  · have bound := @BitVec.toInt_lt 32 (params.maxframe ⟨line, small⟩)
    rw [dif_pos small, exact_bind_eq_some, uint_fits]
    constructor
    · rintro ⟨fits, -⟩ _
      exact fits.1
    · intro positive
      exact ⟨⟨positive small, by omega⟩, rfl⟩
  · rw [dif_neg small]
    exact ⟨fun _ inside => absurd inside small, fun _ => rfl⟩

/-- Four frames of the largest size need 64 pages, and the count of receive buffers wraps. -/
theorem receive_buffers_wrap :
    let params : ModuleParams := { maxframe := fun _ => 65535, txdmabufs := fun _ => 4, txholdbufs := fun _ => 0 }
    let counted := countDmaBuffersWrapped (r56AddDevice params 0 r56AllocateDevice)
    counted.txBufferCount = 64 ∧ counted.rxBufferCount = 4294967294 ∧ ¬Partitioned counted := by
  intro params counted
  have tx : counted.txBufferCount = 64 := by decide +kernel
  have rx : counted.rxBufferCount = 4294967294 := by decide +kernel
  refine ⟨tx, rx, fun partitioned => ?_⟩
  have pages := partitioned.pages
  omega

end Route56
