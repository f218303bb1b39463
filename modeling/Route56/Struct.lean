import Route56.Usc
import Route56.Lib.Memory

namespace Route56

/-- `R56_PARAMS`. -/
structure R56Params where
  mode : Nat
  loopback : U8
  interface : U8
  flags : U16
  encoding : U8
  clockSpeed : Nat
  addrFilter : U8
  crcType : U16
  preambleLength : U8
  preamble : U8
  dataRate : Nat
  dataBits : U8
  stopBits : U8
  parity : U8

def defaultParams : R56Params where
  mode := r56ModeHdlc
  loopback := 0
  interface := rs530
  flags := hdlcFlagUnderrunAbort15
  encoding := 3
  clockSpeed := 0
  addrFilter := 0xff
  crcType := hdlcCrc16Ccitt
  preambleLength := 0
  preamble := hdlcPreamblePatternNone
  dataRate := 9600
  dataBits := 8
  stopBits := 1
  parity := asyncParityNone

/-- `DMABUFFERENTRY`; `data` is the page at `virt_addr`. -/
structure DmaBufferEntry where
  count : U16 := 0
  status : U16 := 0
  rcc : U16 := 0
  physEntry : U32 := 0
  data : Nat → U8 := fun _ => 0

/-- The store `*((unsigned long *)&entry->count) = value` of a value below 2^16.
It covers `count` and `status`, and on an LP64 build `rcc` as well. -/
def DmaBufferEntry.storeLong (e : DmaBufferEntry) (lp64 : Bool) (value : U16) : DmaBufferEntry :=
  { e with count := value, status := 0, rcc := if lp64 then 0 else e.rcc }

/-- `struct tx_holding_buffer`; `buffer` is the memory of the kmalloc block. -/
structure TxHoldingBuffer where
  bufferSize : Nat := 0
  buffer : Nat → U8 := fun _ => 0

/-- `struct r56_icount`. -/
structure R56Icount where
  cts : U32 := 0
  dsr : U32 := 0
  rng : U32 := 0
  dcd : U32 := 0
  tx : U32 := 0
  rx : U32 := 0
  frame : U32 := 0
  parity : U32 := 0
  overrun : U32 := 0
  brk : U32 := 0
  bufOverrun : U32 := 0
  txok : U32 := 0
  txunder : U32 := 0
  txabort : U32 := 0
  txtimeout : U32 := 0
  rxshort : U32 := 0
  rxlong : U32 := 0
  rxabort : U32 := 0
  rxover : U32 := 0
  rxcrc : U32 := 0
  rxok : U32 := 0
  exithunt : U32 := 0
  rxidle : U32 := 0

/-- `struct _input_signal_events`. -/
structure InputSignalEvents where
  riUp : Nat := 0
  riDown : Nat := 0
  dsrUp : Nat := 0
  dsrDown : Nat := 0
  dcdUp : Nat := 0
  dcdDown : Nat := 0
  ctsUp : Nat := 0
  ctsDown : Nat := 0

/-- A call of `tty_insert_flip_char`, with its result. -/
structure FlipCall where
  ch : U8
  flag : Nat
  inserted : Nat
  deriving DecidableEq, Repr

/-- What the driver reads of the `tty_struct`. `baudRate` is the result of `tty_get_baud_rate`. `insertFlipChar` stands
for `tty_insert_flip_char` of the kernel: how many characters it inserts, none where the flip buffer has no room left
after the calls before, which are in `flip`. -/
structure TtyStruct where
  stopped : Bool := false
  hwStopped : Bool := false
  throttled : Bool := false
  cCflag : U32 := 0
  cIflag : U32 := 0
  baudRate : Nat := 9600
  startChar : U8 := 0x11
  stopChar : U8 := 0x13
  insertFlipChar : List FlipCall → U8 → Nat → Nat := fun _ _ _ => 1
  flip : List FlipCall := []
  flipPushes : Nat := 0

/-- The bits of `port.flags` in use, `port.count`, and whether `port.tty` is set. -/
structure TtyPort where
  initialized : Bool := false
  ctsFlow : Bool := false
  checkCd : Bool := false
  count : Nat := 0
  tty : Bool := false

inductive BusType
  | isa | eisa | pci
  deriving DecidableEq, Repr

/-- What the kernel configuration fixes: the width of `unsigned long` and `HZ`. -/
structure Build where
  lp64 : Bool := true
  hz : Nat := 1000

/-- Where a transmitted frame was copied from. -/
inductive TxSource
  | write | xmitBuf | holding
  deriving DecidableEq, Repr

/-- A call of `usc_start_receiver`: whether the receiver was enabled, and the ring
it found. -/
structure RxStart where
  enabled : Bool
  bufferCount : Nat
  bufferList : Nat → DmaBufferEntry

/-- History of the run: blocks passed to `ldisc_receive_buf` and to
`hdlcdev_rx`, frames copied by `r56_load_tx_dma_buffer`, characters written to
the transmit FIFO, receiver starts. -/
structure History where
  ldisc : List (List U8) := []
  netRx : List (List U8) := []
  loads : List (TxSource × List U8) := []
  txData : List U8 := []
  rxStarts : List RxStart := []

/-- `struct r56_struct`. Pointers that the driver compares with NULL are kept as a flag beside what they point to. -/
structure R56Struct where
  build : Build := {}
  port : TtyPort := {}
  tty : TtyStruct := {}
  hwVersion : Nat := 0
  busType : BusType := .pci
  icount : R56Icount := {}
  timeout : Nat := 0
  xChar : U8 := 0
  readStatusMask : U16 := 0
  ignoreStatusMask : U16 := 0
  xmitBufPtr : Bool := false
  xmitBuf : Nat → U8 := fun _ => 0
  xmitHead : Nat := 0
  xmitTail : Nat := 0
  xmitCnt : Nat := 0
  txTimer : Bool := false
  maxFrameSize : Nat := 4096
  pendingBh : U32 := 0
  bhRunning : Bool := false
  bhRequested : Bool := false
  isrOverflow : Bool := false
  taskQueued : Bool := false
  dcdChkcount : Nat := 0
  ctsChkcount : Nat := 0
  dsrChkcount : Nat := 0
  riChkcount : Nat := 0
  rxBufferCount : Nat := 0
  rxBufferListPtr : Bool := false
  rxBufferList : Nat → DmaBufferEntry := fun _ => {}
  currentRxBuffer : Nat := 0
  intermediateRxbufferPtr : Bool := false
  numTxDmaBuffers : Nat := 1
  txDmaBuffersUsed : Int := 0
  txBufferCount : Nat := 0
  txBufferList : Nat → DmaBufferEntry := fun _ => {}
  startTxDmaBuffer : Nat := 0
  currentTxBuffer : Nat := 0
  numTxHoldingBuffers : Nat := 0
  getTxHoldingIndex : Nat := 0
  putTxHoldingIndex : Nat := 0
  txHoldingCount : Nat := 0
  txHoldingBuffers : Nat → TxHoldingBuffer := fun _ => {}
  rxEnabled : Bool := false
  rxOverflow : Bool := false
  rxRccUnderrun : Bool := false
  txEnabled : Bool := false
  txActive : Bool := false
  idleMode : Nat := 0
  irqRequested : Bool := false
  irqOccurred : Bool := false
  params : R56Params := defaultParams
  serialSignals : U8 := 0
  dropRtsOnTxDone : Bool := false
  enableRxOnTxDone : Bool := false
  loopmodeInsertRequested : Bool := false
  loopmodeSendDoneRequested : Bool := false
  inputSignalEvents : InputSignalEvents := {}
  netcount : Nat := 0
  usc : Usc := {}
  history : History := {}

/-- `r56_allocate_device`: zeroed memory, default parameters, one transmit DMA
frame and no holding buffers. -/
def r56AllocateDevice : R56Struct := {}

/-- `HDLC || RAW`, the test the driver writes for frame oriented operation. -/
def R56Struct.synchronous (info : R56Struct) : Prop :=
  info.params.mode = r56ModeHdlc ∨ info.params.mode = r56ModeRaw

instance (info : R56Struct) : Decidable info.synchronous :=
  inferInstanceAs (Decidable (info.params.mode = r56ModeHdlc ∨ info.params.mode = r56ModeRaw))

/-- `tty->stopped || tty->hw_stopped`. -/
def R56Struct.ttyStopped (info : R56Struct) : Bool := info.tty.stopped || info.tty.hwStopped

/-- `SerialSignal_RTS` in `serial_signals`. -/
def R56Struct.rts (info : R56Struct) : Prop := info.serialSignals &&& serialSignalRts ≠ 0

instance (info : R56Struct) : Decidable info.rts :=
  inferInstanceAs (Decidable (info.serialSignals &&& serialSignalRts ≠ 0))

end Route56
