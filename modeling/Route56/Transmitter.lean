import Route56.Receiver

namespace Route56

/-- `r56_reset_tx_dma_buffers`. -/
def r56ResetTxDmaBuffers (info : R56Struct) : R56Struct :=
  { info with
    txBufferList := fun i =>
      if i < info.txBufferCount then (info.txBufferList i).storeLong info.build.lp64 0 else info.txBufferList i
    currentTxBuffer := 0, startTxDmaBuffer := 0, txDmaBuffersUsed := 0
    getTxHoldingIndex := 0, putTxHoldingIndex := 0, txHoldingCount := 0 }

/-- `num_free_tx_dma_buffers`. -/
def numFreeTxDmaBuffers (info : R56Struct) : Int := info.txBufferCount - info.txDmaBuffersUsed

/-- The loop of `r56_load_pci_memory`: `k` whole intervals from offset `off`. -/
def loadPciIntervals (source : Nat → U8) : Nat → Nat → (Nat → U8) → (Nat → U8)
  | 0, _, target => target
  | k + 1, off, target =>
    loadPciIntervals source k (off + pciLoadInterval)
      (Memory.blit target off (Memory.read source off pciLoadInterval))

/-- `r56_load_pci_memory`. -/
def r56LoadPciMemory (target source : Nat → U8) (count : Nat) : Nat → U8 :=
  let done := count / pciLoadInterval * pciLoadInterval
  Memory.blit (loadPciIntervals source (count / pciLoadInterval) 0 target) done
    (Memory.read source done (count % pciLoadInterval))

/-- What `memcpy` does to the target. -/
def memcpy (target source : Nat → U8) (count : Nat) : Nat → U8 :=
  Memory.blit target 0 (Memory.read source 0 count)

/-- The ring fields the copy loop of `r56_load_tx_dma_buffer` advances. -/
structure TxRing where
  list : Nat → DmaBufferEntry
  index : Nat
  used : Int

/-- The copy loop: `bufferSize` bytes of `buffer`, a ring entry at a time. -/
def copyTxFrame (busType : BusType) (n : Nat) : Nat → (Nat → U8) → Nat → TxRing → TxRing
  | 0, _, _, ring => ring
  | fuel + 1, buffer, bufferSize, ring =>
    if bufferSize = 0 then ring
    else
      let entry := ring.list ring.index
      let copycount := if bufferSize > dmaBufferSize then dmaBufferSize else bufferSize
      let data := if busType = .pci then r56LoadPciMemory entry.data buffer copycount
        else memcpy entry.data buffer copycount
      let entry := { entry with data := data, count := copycount }
      copyTxFrame busType n fuel (fun i => buffer (i + copycount)) (bufferSize - copycount)
        { list := Function.update ring.list ring.index entry
          index := CircularBuffer.next n ring.index
          used := ring.used + 1 }

/-- `r56_load_tx_dma_buffer`. -/
def r56LoadTxDmaBuffer (info : R56Struct) (source : TxSource) (buffer : Nat → U8) (bufferSize : Nat) : R56Struct :=
  let cmrValue := if info.params.flags &&& hdlcFlagHdlcLoopmode ≠ 0 then info.usc.cmrValue ||| bit13
    else info.usc.cmrValue
  let i := info.currentTxBuffer
  let first := { info.txBufferList i with status := cmrValue &&& 0xf000, rcc := bufferSize, count := bufferSize }
  let ring := copyTxFrame info.busType info.txBufferCount bufferSize buffer bufferSize
    { list := Function.update info.txBufferList i first, index := i, used := info.txDmaBuffersUsed }
  { info with
    usc := { info.usc with cmrValue := cmrValue }
    startTxDmaBuffer := i
    txBufferList := ring.list
    currentTxBuffer := ring.index
    txDmaBuffersUsed := ring.used
    history := { info.history with
      loads := info.history.loads ++ [(source, Memory.read buffer 0 bufferSize)] } }

/-- The number of ring entries a frame of `size` bytes occupies. -/
def txBuffersNeeded (size : Nat) : Nat :=
  if size % dmaBufferSize ≠ 0 then size / dmaBufferSize + 1 else size / dmaBufferSize

/-- `load_next_tx_holding_buffer`. -/
def loadNextTxHoldingBuffer (info : R56Struct) : R56Struct × Bool :=
  let ptx := info.txHoldingBuffers info.getTxHoldingIndex
  if info.txHoldingCount ≠ 0 ∧ (txBuffersNeeded ptx.bufferSize : Int) ≤ numFreeTxDmaBuffers info then
    let info := r56LoadTxDmaBuffer { info with xmitCnt := ptx.bufferSize } .holding ptx.buffer ptx.bufferSize
    let index := info.getTxHoldingIndex + 1
    ({ info with
      txHoldingCount := info.txHoldingCount - 1
      getTxHoldingIndex := if index ≥ info.numTxHoldingBuffers then 0 else index
      txTimer := true }, true)
  else (info, false)

def storeTxBufferRequest (info : R56Struct) (buffer : Nat → U8) (bufferSize : Nat) : R56Struct :=
  let put := info.putTxHoldingIndex
  let ptx := { info.txHoldingBuffers put with
    bufferSize := bufferSize
    buffer := memcpy (info.txHoldingBuffers put).buffer buffer bufferSize }
  { info with txHoldingBuffers := Function.update info.txHoldingBuffers put ptx }

def countTxBufferRequest (info : R56Struct) : R56Struct := { info with txHoldingCount := info.txHoldingCount + 1 }

def advancePutTxHoldingIndex (info : R56Struct) : R56Struct :=
  let put := info.putTxHoldingIndex
  { info with putTxHoldingIndex := if put + 1 ≥ info.numTxHoldingBuffers then 0 else put + 1 }

/-- `save_tx_buffer_request`. -/
def saveTxBufferRequest (info : R56Struct) (buffer : Nat → U8) (bufferSize : Nat) : R56Struct :=
  if info.txHoldingCount ≥ info.numTxHoldingBuffers then info
  else advancePutTxHoldingIndex (countTxBufferRequest (storeTxBufferRequest info buffer bufferSize))

/-- `usc_get_serial_signals`. -/
def uscGetSerialSignals (info : R56Struct) : R56Struct :=
  let status := uscInReg info.usc .misr
  let signal (bit : U16) (s : U8) : U8 := if status &&& bit ≠ 0 then s else 0
  { info with
    serialSignals := (info.serialSignals &&& (serialSignalDtr + serialSignalRts)) |||
      signal miscstatusCts serialSignalCts ||| signal miscstatusDcd serialSignalDcd |||
      signal miscstatusRi serialSignalRi ||| signal miscstatusDsr serialSignalDsr }

/-- The port control word for a set of signals. -/
def serialSignalControl (control : U16) (v24Out : U8) : U16 :=
  let control := if v24Out &&& serialSignalRts ≠ 0 then control &&& ~~~(bit14 + bit15) ||| bit15
    else control ||| (bit14 + bit15)
  if v24Out &&& serialSignalDtr ≠ 0 then control &&& ~~~(bit12 + bit13) ||| bit13
  else control ||| (bit12 + bit13)

/-- `usc_set_serial_signals`. -/
def uscSetSerialSignals (info : R56Struct) : R56Struct :=
  { info with usc := uscOutReg info.usc .pcr (serialSignalControl (uscInReg info.usc .pcr) info.serialSignals) }

/-- `usc_loopmode_send_done`. -/
def uscLoopmodeSendDone (info : R56Struct) : R56Struct :=
  let cmrValue := info.usc.cmrValue &&& ~~~bit13
  { info with
    loopmodeSendDoneRequested := false
    usc := uscOutReg { info.usc with cmrValue := cmrValue } .cmr cmrValue }

/-- `usc_loopmode_cancel_transmit`. -/
def uscLoopmodeCancelTransmit (info : R56Struct) : R56Struct :=
  let u := uscRTCmd info.usc rtCmdPurgeTxFifo
  let u := uscDmaCmd u dmaCmdResetTxChannel
  uscLoopmodeSendDone { info with usc := u }

/-- `usc_loopmode_insert_request`. -/
def uscLoopmodeInsertRequest (info : R56Struct) : R56Struct :=
  let cmrValue := info.usc.cmrValue ||| bit13
  let u := uscOutReg info.usc .ricr (uscInReg info.usc .ricr ||| rxstatusAbortReceived)
  { info with
    loopmodeInsertRequested := true
    usc := uscOutReg { u with cmrValue := cmrValue } .cmr cmrValue }

/-- `usc_loopmode_active`. -/
def uscLoopmodeActive (info : R56Struct) : Bool := uscInReg info.usc .ccsr &&& bit7 ≠ 0

/-- `r56_loopmode_send_done`. -/
def r56LoopmodeSendDone (info : R56Struct) : R56Struct :=
  if info.params.flags &&& hdlcFlagHdlcLoopmode ≠ 0 then
    if info.txActive then { info with loopmodeSendDoneRequested := true } else uscLoopmodeSendDone info
  else info

/-- `usc_stop_transmitter`. -/
def uscStopTransmitter (info : R56Struct) : R56Struct :=
  let u := uscUnlatchTxstatusBits info.usc txstatusAll
  let u := uscClearIrqPendingBits u (transmitStatus + transmitData)
  let u := uscDisableInterrupts u (transmitStatus + transmitData)
  let u := uscEnableTransmitter u disableUnconditional
  let u := uscDmaCmd u dmaCmdResetTxChannel
  let u := uscRTCmd u rtCmdPurgeTxFifo
  { info with usc := u, txTimer := false, txEnabled := false, txActive := false }

/-- One pass of the loop of `usc_load_txfifo` with room for `fifocount` bytes. -/
def loadTxfifoStep (info : R56Struct) (fifocount : Nat) : R56Struct :=
  let wrap (i : Nat) : Nat := i % serialXmitSize
  let select (b : U16) : Usc := uscOutReg info.usc .ccar ((uscInReg info.usc .ccar &&& 0x0780) ||| b)
  let first := info.xmitBuf info.xmitTail
  if info.xmitCnt > 1 ∧ fifocount > 1 ∧ info.xChar = 0 then
    let second := info.xmitBuf (wrap (info.xmitTail + 1))
    { info with
      usc := uscOutReg (select tdrAddress) .ccar (first.setWidth 16 ||| second.setWidth 16 <<< 8)
      xmitTail := wrap (wrap (info.xmitTail + 1) + 1)
      xmitCnt := info.xmitCnt - 2
      icount := { info.icount with tx := info.icount.tx + 2 }
      history := { info.history with txData := info.history.txData ++ [first, second] } }
  else if info.xChar ≠ 0 then
    { info with
      usc := uscOutReg (select (tdrAddress + lsbOnly)) .ccar (info.xChar.setWidth 16)
      xChar := 0
      icount := { info.icount with tx := info.icount.tx + 1 }
      history := { info.history with txData := info.history.txData ++ [info.xChar] } }
  else
    { info with
      usc := uscOutReg (select (tdrAddress + lsbOnly)) .ccar (first.setWidth 16)
      xmitTail := wrap (info.xmitTail + 1)
      xmitCnt := info.xmitCnt - 1
      icount := { info.icount with tx := info.icount.tx + 1 }
      history := { info.history with txData := info.history.txData ++ [first] } }

/-- The loop of `usc_load_txfifo` over the room found at each reading of the
FIFO status. The readings not consumed stay for the next call. -/
def loadTxfifoLoop : List Nat → R56Struct → R56Struct
  | [], info => { info with usc := { info.usc with txFifo := [] } }
  | fifocount :: readings, info =>
    if fifocount ≠ 0 ∧ info.xmitCnt ≠ 0 then loadTxfifoLoop readings (loadTxfifoStep info fifocount)
    else { info with usc := { info.usc with txFifo := readings } }

/-- `usc_load_txfifo`. -/
def uscLoadTxfifo (info : R56Struct) : R56Struct :=
  if info.xmitCnt = 0 ∧ info.xChar = 0 then info
  else loadTxfifoLoop info.usc.txFifo { info with usc := uscTCmd info.usc tCmdSelectTicrTxFifostatus }

/-- Raise RTS if it is down, and note that it is to be dropped. -/
def raiseRts (info : R56Struct) : R56Struct :=
  if info.serialSignals &&& serialSignalRts = 0 then
    { uscSetSerialSignals { info with serialSignals := info.serialSignals ||| serialSignalRts } with
      dropRtsOnTxDone := true }
  else info

/-- The automatic RTS statements of `usc_start_transmitter`. -/
def assertAutoRts (info : R56Struct) : R56Struct :=
  let info := { info with dropRtsOnTxDone := false }
  if info.params.flags &&& hdlcFlagAutoRts ≠ 0 then raiseRts (uscGetSerialSignals info) else info

/-- Stop an enabled receiver, and note that it is to be enabled again. -/
def silenceReceiver (info : R56Struct) : R56Struct :=
  if info.rxEnabled then { uscStopReceiver info with enableRxOnTxDone := true } else info

/-- The RS-485 echo statements of `usc_start_transmitter`. -/
def ignoreEcho (info : R56Struct) : R56Struct :=
  let info := { info with enableRxOnTxDone := false }
  if info.params.interface &&& r56InterfaceNe ≠ 0 then silenceReceiver info else info

/-- The asynchronous branch of `usc_start_transmitter`. -/
def startAsyncTransmitter (info : R56Struct) : R56Struct :=
  if info.txActive then info
  else
    let u := uscUnlatchTxstatusBits info.usc txstatusAll
    let u := uscClearIrqPendingBits u (transmitStatus + transmitData)
    let u := uscEnableInterrupts u transmitData
    uscLoadTxfifo { info with usc := u }

/-- The frame oriented branch of `usc_start_transmitter`. -/
def startTxDma (info : R56Struct) : R56Struct :=
  let start := info.startTxDmaBuffer
  let entry := info.txBufferList start
  let frameSize := entry.rcc
  let list := if info.params.mode = r56ModeRaw then
      Function.update info.txBufferList start { entry with rcc := 0 } else info.txBufferList
  let u := uscDmaCmd info.usc dmaCmdResetTxChannel
  let u := uscOutReg u .tclr frameSize
  let u := uscRTCmd u rtCmdPurgeTxFifo
  let u := programNtar u start entry.physEntry
  let u := uscUnlatchTxstatusBits u txstatusAll
  let u := uscClearIrqPendingBits u transmitStatus
  let u := uscEnableInterrupts u transmitStatus
  let u := if info.params.mode = r56ModeRaw ∧ info.numTxDmaBuffers > 1 then
      let u := uscOutDmaReg u .tdiar (bit2 ||| bit3)
      uscOutDmaReg u .dicr (uscInDmaReg u .dicr ||| bit0)
    else u
  let u := uscDmaCmd u dmaCmdInitTxChannel
  let u := uscTCmd u tCmdSendFrame
  { info with usc := u, txBufferList := list, txTimer := true }

/-- Hand what is to be sent to the chip, by characters or by DMA. -/
def feedTransmitter (info : R56Struct) : R56Struct :=
  if info.params.mode = r56ModeAsync then startAsyncTransmitter info else startTxDma info

/-- The statements of `usc_start_transmitter` that send: those under `if (xmit_cnt)`. -/
def sendXmit (info : R56Struct) : R56Struct :=
  { feedTransmitter (ignoreEcho (assertAutoRts info)) with txActive := true }

/-- The last statement of `usc_start_transmitter`. -/
def enableIfDisabled (info : R56Struct) : R56Struct :=
  if info.txEnabled then info
  else
    let u := if info.params.flags &&& hdlcFlagAutoCts ≠ 0 then uscEnableTransmitter info.usc enableAutoCts
      else uscEnableTransmitter info.usc enableUnconditional
    { info with usc := u, txEnabled := true }

/-- `usc_start_transmitter`. -/
def uscStartTransmitter (info : R56Struct) : R56Struct :=
  enableIfDisabled (if info.xmitCnt ≠ 0 then sendXmit info else info)

/-- `r56_put_char`, with its result. -/
def r56PutChar (info : R56Struct) (ch : U8) : R56Struct × Bool :=
  if info.xmitBufPtr ∧ (info.params.mode = r56ModeAsync ∨ info.txActive = false) ∧
      info.xmitCnt < serialXmitSize - 1 then
    ({ info with
      xmitBuf := Function.update info.xmitBuf info.xmitHead ch
      xmitHead := (info.xmitHead + 1) % serialXmitSize
      xmitCnt := info.xmitCnt + 1 }, true)
  else (info, false)

/-- Load the characters collected in `xmit_buf`. -/
def loadXmitBuf (info : R56Struct) : R56Struct :=
  r56LoadTxDmaBuffer info .xmitBuf info.xmitBuf info.xmitCnt

/-- `r56_flush_chars`. -/
def r56FlushChars (info : R56Struct) : R56Struct :=
  if info.xmitCnt = 0 ∨ info.ttyStopped ∨ ¬info.xmitBufPtr then info
  else if info.txActive then info
  else if info.synchronous then uscStartTransmitter (loadXmitBuf info)
  else uscStartTransmitter info

/-- The asynchronous copy loop of `r56_write`, with the number of bytes taken. -/
def writeAsync (info : R56Struct) : Nat → (Nat → U8) → Nat → R56Struct × Nat
  | 0, _, _ => (info, 0)
  | fuel + 1, buf, count =>
    let c := min count (min (serialXmitSize - info.xmitCnt - 1) (serialXmitSize - info.xmitHead))
    if c = 0 then (info, 0)
    else
      let info := { info with
        xmitBuf := Memory.blit info.xmitBuf info.xmitHead (Memory.read buf 0 c)
        xmitHead := (info.xmitHead + c) % serialXmitSize
        xmitCnt := info.xmitCnt + c }
      let (info, ret) := writeAsync info fuel (fun i => buf (i + c)) (count - c)
      (info, ret + c)

/-- The last statement of `r56_write`: start an idle transmitter. -/
def startIfIdle (info : R56Struct) : R56Struct :=
  if info.xmitCnt ≠ 0 ∧ ¬info.ttyStopped then
    if info.txActive then info else uscStartTransmitter info
  else info

/-- `r56_write`, with its result. -/
def r56Write (info : R56Struct) (buf : Nat → U8) (count : Nat) : R56Struct × Nat :=
  if ¬info.xmitBufPtr then (info, 0)
  else if info.synchronous then
    if info.txActive then
      if info.params.mode = r56ModeHdlc then (info, 0)
      else if info.txHoldingCount ≥ info.numTxHoldingBuffers then (info, 0)
      else ((loadNextTxHoldingBuffer (saveTxBufferRequest info buf count)).1, count)
    else if info.params.flags &&& hdlcFlagHdlcLoopmode ≠ 0 ∧ ¬uscLoopmodeActive info then (info, 0)
    else if info.xmitCnt ≠ 0 then (startIfIdle (loadXmitBuf info), 0)
    else (startIfIdle (r56LoadTxDmaBuffer { info with xmitCnt := count } .write buf count), count)
  else
    let (info, ret) := writeAsync info (count + 1) buf count
    (startIfIdle info, ret)

/-- `r56_write_room`. -/
def r56WriteRoom (info : R56Struct) : Nat :=
  if info.synchronous then
    if info.txActive then 0 else hdlcMaxFrameSize
  else serialXmitSize - info.xmitCnt - 1

/-- `r56_chars_in_buffer`. -/
def r56CharsInBuffer (info : R56Struct) : Nat :=
  if info.synchronous then
    if info.txActive then info.maxFrameSize else 0
  else info.xmitCnt

/-- `r56_flush_buffer`. -/
def r56FlushBuffer (info : R56Struct) : R56Struct :=
  { info with xmitCnt := 0, xmitHead := 0, xmitTail := 0, txTimer := false }

/-- `r56_stop`. -/
def r56Stop (info : R56Struct) : R56Struct :=
  if info.txEnabled then uscStopTransmitter info else info

/-- `r56_start`. -/
def r56Start (info : R56Struct) : R56Struct :=
  if info.txEnabled then info else uscStartTransmitter info

/-- `r56_send_xchar`. -/
def r56SendXchar (info : R56Struct) (ch : U8) : R56Struct :=
  let info := { info with xChar := ch }
  if ch ≠ 0 ∧ ¬info.txEnabled then uscStartTransmitter info else info

/-- Ask the other side to stop sending, when the termios says so. -/
def sendStopChar (info : R56Struct) : R56Struct :=
  if info.tty.cIflag &&& ixoff ≠ 0 then r56SendXchar info info.tty.stopChar else info

/-- Ask the other side to go on sending, when the termios says so. -/
def sendStartChar (info : R56Struct) : R56Struct :=
  if info.tty.cIflag &&& ixoff ≠ 0 then
    if info.xChar ≠ 0 then { info with xChar := 0 } else r56SendXchar info info.tty.startChar
  else info

/-- Set RTS to signal readiness, when the termios says so. -/
def signalRts (info : R56Struct) (on : Bool) : R56Struct :=
  if info.tty.cCflag &&& crtscts ≠ 0 then
    uscSetSerialSignals { info with
      serialSignals := if on then info.serialSignals ||| serialSignalRts
        else info.serialSignals &&& ~~~serialSignalRts }
  else info

/-- `r56_throttle`. -/
def r56Throttle (info : R56Struct) : R56Struct := signalRts (sendStopChar info) false

/-- `r56_unthrottle`. -/
def r56Unthrottle (info : R56Struct) : R56Struct := signalRts (sendStartChar info) true

/-- `r56_txenable`. -/
def r56Txenable (info : R56Struct) (enable : Bool) : R56Struct :=
  if enable then
    if info.txEnabled then info
    else
      let info := uscStartTransmitter info
      if info.params.flags &&& hdlcFlagHdlcLoopmode ≠ 0 then uscLoopmodeInsertRequest info else info
  else if info.txEnabled then uscStopTransmitter info
  else info

/-- `r56_txabort`. -/
def r56Txabort (info : R56Struct) : R56Struct :=
  if info.txActive ∧ info.params.mode = r56ModeHdlc then
    if info.params.flags &&& hdlcFlagHdlcLoopmode ≠ 0 then uscLoopmodeCancelTransmit info
    else { info with usc := uscTCmd info.usc tCmdSendAbort }
  else info

/-- `r56_rxenable`. -/
def r56Rxenable (info : R56Struct) (enable : Bool) : R56Struct :=
  if enable then
    if info.rxEnabled then info else uscStartReceiver info
  else if info.rxEnabled then uscStopReceiver info
  else info

/-- `r56_bh_transmit`. -/
def r56BhTransmit (info : R56Struct) : R56Struct :=
  if ¬info.txActive ∧ info.loopmodeSendDoneRequested then uscLoopmodeSendDone info else info

/-- The statistics statement of `r56_tx_timeout`. -/
def countTxTimeout (info : R56Struct) : R56Struct :=
  if info.txActive ∧ info.synchronous then
    { info with icount := { info.icount with txtimeout := info.icount.txtimeout + 1 } }
  else info

/-- Nothing is being sent any more. -/
def endTransmission (info : R56Struct) : R56Struct :=
  { info with txActive := false, xmitCnt := 0, xmitHead := 0, xmitTail := 0 }

/-- The loop mode statement of `r56_tx_timeout`. -/
def cancelLoopmodeTransmit (info : R56Struct) : R56Struct :=
  if info.params.flags &&& hdlcFlagHdlcLoopmode ≠ 0 then uscLoopmodeCancelTransmit info else info

/-- `r56_tx_timeout`: the timer has expired and is no longer pending. -/
def r56TxTimeout (info : R56Struct) : R56Struct :=
  let info := cancelLoopmodeTransmit (endTransmission (countTxTimeout { info with txTimer := false }))
  if info.netcount ≠ 0 then info else r56BhTransmit info

end Route56
