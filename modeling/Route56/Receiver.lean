import Route56.Struct
import Route56.Lib.CircularBuffer

namespace Route56
open CircularBuffer

/-- A block passed to the line discipline. -/
def ldiscReceiveBuf (info : R56Struct) (data : List U8) : R56Struct :=
  { info with history := { info.history with ldisc := info.history.ldisc ++ [data] } }

/-- A block passed to the network layer. -/
def hdlcdevRx (info : R56Struct) (data : List U8) : R56Struct :=
  { info with history := { info.history with netRx := info.history.netRx ++ [data] } }

/-- `r56_reset_rx_dma_buffers`. -/
def r56ResetRxDmaBuffers (info : R56Struct) : R56Struct :=
  { info with
    rxBufferList := fun i =>
      if i < info.rxBufferCount then (info.rxBufferList i).storeLong info.build.lp64 4096 else info.rxBufferList i
    currentRxBuffer := 0 }

/-- `usc_stop_receiver`. -/
def uscStopReceiver (info : R56Struct) : R56Struct :=
  let u := uscDmaCmd info.usc dmaCmdResetRxChannel
  let u := uscUnlatchRxstatusBits u rxstatusAll
  let u := uscClearIrqPendingBits u (receiveData + receiveStatus)
  let u := uscDisableInterrupts u (receiveData + receiveStatus)
  let u := uscEnableReceiver u disableUnconditional
  let u := uscOutReg u .ccsr (uscInReg u .ccsr ||| bit13)
  let u := uscRTCmd u rtCmdPurgeRxFifo
  { info with usc := u, rxEnabled := false, rxOverflow := false, rxRccUnderrun := false }

/-- Program the receive DMA channel to begin at ring entry `entry` and enable
the receiver: the statements `usc_start_receiver` and
`usc_process_rxoverrun_sync` share. -/
def initRxChannel (info : R56Struct) (u : Usc) (entry : Nat) : Usc :=
  let u := programNrar u entry (info.rxBufferList entry).physEntry
  let u := uscUnlatchRxstatusBits u rxstatusAll
  let u := uscClearIrqPendingBits u (receiveData + receiveStatus)
  let u := uscEnableInterrupts u receiveStatus
  let u := uscOutDmaReg u .rdiar (bit3 + bit2)
  let u := uscOutDmaReg u .dicr (uscInDmaReg u .dicr ||| bit1)
  let u := uscDmaCmd u dmaCmdInitRxChannel
  if info.params.flags &&& hdlcFlagAutoDcd ≠ 0 then uscEnableReceiver u enableAutoDcd
  else uscEnableReceiver u enableUnconditional

/-- The asynchronous branch of `usc_start_receiver`. -/
def startAsyncReceiver (u : Usc) : Usc :=
  let u := uscUnlatchRxstatusBits u rxstatusAll
  let u := uscClearIrqPendingBits u (receiveData + receiveStatus)
  let u := uscEnableInterrupts u receiveData
  let u := uscRTCmd u rtCmdPurgeRxFifo
  let u := uscRCmd u rCmdEnterHuntmode
  uscEnableReceiver u enableUnconditional

/-- A call of `usc_start_receiver`, for the history. -/
def R56Struct.rxStart (info : R56Struct) : RxStart where
  enabled := info.rxEnabled
  bufferCount := info.rxBufferCount
  bufferList := info.rxBufferList

/-- `usc_start_receiver`. -/
def uscStartReceiver (info : R56Struct) : R56Struct :=
  let called := { info with history := { info.history with rxStarts := info.history.rxStarts ++ [info.rxStart] } }
  let info := uscStopReceiver (r56ResetRxDmaBuffers called)
  let u := uscOutReg info.usc .ccsr (uscInReg info.usc .ccsr ||| bit13)
  let u := uscRTCmd u rtCmdPurgeRxFifo
  let u := if info.synchronous then initRxChannel info u 0 else startAsyncReceiver u
  { info with usc := uscOutReg u .ccsr 0x1020, rxEnabled := true }

/-- The local variables of the search in `usc_process_rxoverrun_sync`. `wrapped`
says that the loop was left because the whole list was searched. -/
structure OverrunScan where
  endIndex : Nat
  frameStartIndex : Nat
  startOfFrameFound : Bool := false
  endOfFrameFound : Bool := false
  wrapped : Bool := false

/-- One pass of the loop body, up to the advance of `end_index`. -/
def OverrunScan.look (scan : OverrunScan) (e : DmaBufferEntry) : OverrunScan :=
  let scan := if scan.startOfFrameFound then scan
    else { scan with startOfFrameFound := true, frameStartIndex := scan.endIndex, endOfFrameFound := false }
  if e.status ≠ 0 then { scan with startOfFrameFound := false, endOfFrameFound := true } else scan

/-- The search loop. It leaves the first entry whose count is not zero as
`endIndex`, or has come round to `startIndex` after at most `n` passes. -/
def overrunScan (list : Nat → DmaBufferEntry) (n startIndex : Nat) : Nat → OverrunScan → OverrunScan
  | 0, scan => scan
  | fuel + 1, scan =>
    if (list scan.endIndex).count ≠ 0 then scan
    else
      let scan := scan.look (list scan.endIndex)
      let scan := { scan with endIndex := next n scan.endIndex }
      if startIndex = scan.endIndex then { scan with wrapped := true }
      else overrunScan list n startIndex fuel scan

/-- The loop `do { reset entry; advance } while (start_index != end_index)`. -/
def resetRxEntries (lp64 : Bool) (n endIndex : Nat) :
    Nat → Nat → (Nat → DmaBufferEntry) → (Nat → DmaBufferEntry)
  | 0, _, list => list
  | fuel + 1, index, list =>
    let list := Function.update list index ((list index).storeLong lp64 4096)
    if next n index ≠ endIndex then resetRxEntries lp64 n endIndex fuel (next n index) list else list

/-- The ring after the search, the entry DMA restarts from, and whether the DMA
channel has to be reprogrammed. -/
def overrunDiscard (info : R56Struct) : R56Struct × Nat × Bool :=
  let start := info.currentRxBuffer
  let scan := overrunScan info.rxBufferList info.rxBufferCount start info.rxBufferCount
    { endIndex := start, frameStartIndex := start }
  if scan.wrapped then (r56ResetRxDmaBuffers info, 0, true)
  else if scan.startOfFrameFound && !scan.endOfFrameFound then
    let list := resetRxEntries info.build.lp64 info.rxBufferCount scan.endIndex info.rxBufferCount
      scan.frameStartIndex info.rxBufferList
    ({ info with rxBufferList := list }, scan.frameStartIndex, true)
  else (info, scan.frameStartIndex, false)

/-- `usc_process_rxoverrun_sync`. -/
def uscProcessRxoverrunSync (info : R56Struct) : R56Struct :=
  let u := uscDmaCmd info.usc dmaCmdPauseRxChannel
  let u := uscRCmd u rCmdEnterHuntmode
  let u := uscRTCmd u rtCmdPurgeRxFifo
  let (info, frameStartIndex, reprogramDma) := overrunDiscard info
  if reprogramDma then
    let u := uscUnlatchRxstatusBits u rxstatusAll
    let u := uscClearIrqPendingBits u (receiveData ||| receiveStatus)
    let u := uscUnlatchRxstatusBits u (receiveData ||| receiveStatus)
    let u := uscEnableReceiver u disableUnconditional
    let u := uscOutReg u .ccsr (uscInReg u .ccsr ||| bit13)
    { info with usc := initRxChannel info u frameStartIndex }
  else
    let u := uscOutReg u .ccsr (uscInReg u .ccsr ||| bit13)
    { info with usc := uscRTCmd u rtCmdPurgeRxFifo }

/-- The loop of `r56_free_rx_frame_buffers`: the ring and the index after it. -/
def freeRxEntries (lp64 : Bool) (n endIndex : Nat) :
    Nat → Nat → (Nat → DmaBufferEntry) → (Nat → DmaBufferEntry) × Nat
  | 0, index, list => (list, index)
  | fuel + 1, index, list =>
    let list := Function.update list index ((list index).storeLong lp64 4096)
    if index = endIndex then (list, next n index)
    else freeRxEntries lp64 n endIndex fuel (next n index) list

/-- `r56_free_rx_frame_buffers`. -/
def r56FreeRxFrameBuffers (info : R56Struct) (startIndex endIndex : Nat) : R56Struct :=
  let (list, index) := freeRxEntries info.build.lp64 info.rxBufferCount endIndex info.rxBufferCount
    startIndex info.rxBufferList
  { info with rxBufferList := list, currentRxBuffer := index }

/-- How the search for the end of a frame ends: at an entry with a status, at
an unused entry, or back where it began. The index is `EndIndex`. -/
inductive RxSearch
  | frame (endIndex : Nat)
  | unused (endIndex : Nat)
  | exhausted (endIndex : Nat)
  deriving DecidableEq, Repr

/-- The search loop of `r56_get_rx_frame`. -/
def searchRxFrame (list : Nat → DmaBufferEntry) (n startIndex : Nat) : Nat → Nat → RxSearch
  | 0, endIndex => .exhausted endIndex
  | fuel + 1, endIndex =>
    if (list endIndex).status ≠ 0 then .frame endIndex
    else if (list endIndex).count ≠ 0 then .unused endIndex
    else if next n endIndex = startIndex then .exhausted (next n endIndex)
    else searchRxFrame list n startIndex fuel (next n endIndex)

def rxstatusError : U16 := rxstatusShortFrame + rxstatusOverrun + rxstatusCrcError + rxstatusAbort

/-- The error counter a bad status adds to. -/
def countRxError (ic : R56Icount) (status : U16) : R56Icount :=
  if status &&& rxstatusShortFrame ≠ 0 then { ic with rxshort := ic.rxshort + 1 }
  else if status &&& rxstatusAbort ≠ 0 then { ic with rxabort := ic.rxabort + 1 }
  else if status &&& rxstatusOverrun ≠ 0 then { ic with rxover := ic.rxover + 1 }
  else { ic with rxcrc := ic.rxcrc + 1 }

/-- The size computed from the residual count, in `unsigned int` arithmetic. -/
def rxFrameSize (crcType rcc : U16) : Nat :=
  let framesize := rclrValue - rcc.toNat
  if crcType = hdlcCrc16Ccitt then (framesize + 2 ^ 32 - 2) % 2 ^ 32
  else if crcType = hdlcCrc32Ccitt then (framesize + 2 ^ 32 - 4) % 2 ^ 32
  else framesize

/-- The copy loop: `copyCount` bytes from the ring, a buffer at a time. -/
def copyRxFrame (list : Nat → DmaBufferEntry) (n : Nat) : Nat → Nat → Nat → List U8
  | 0, _, _ => []
  | fuel + 1, index, copyCount =>
    if copyCount = 0 then []
    else
      let partialCount := if copyCount > dmaBufferSize then dmaBufferSize else copyCount
      Memory.read (list index).data 0 partialCount ++
        copyRxFrame list n fuel (next n index) (copyCount - partialCount)

/-- Count a frame that ended with a bad status. -/
def countBadFrame (info : R56Struct) (status : U16) : R56Struct :=
  if status &&& rxstatusError ≠ 0 then { info with icount := countRxError info.icount status } else info

/-- The frame size the driver goes on with: 0 for a frame that is not returned.
Of the bad frames only those with nothing but a CRC error may be returned. -/
def rxReturnSize (crcType status rcc : U16) : Nat :=
  if status &&& rxstatusError = 0 ∨ status &&& (rxstatusShortFrame + rxstatusAbort + rxstatusOverrun) = 0 ∧
      crcType &&& hdlcCrcReturnEx ≠ 0 then rxFrameSize crcType rcc else 0

/-- The frame is longer than the driver may return. -/
def rxTooLong (info : R56Struct) (framesize : Nat) : Prop :=
  info.params.crcType &&& hdlcCrcReturnEx ≠ 0 ∧ (framesize + 1) % 2 ^ 32 > info.maxFrameSize ∨
    framesize > info.maxFrameSize

instance (info : R56Struct) (framesize : Nat) : Decidable (rxTooLong info framesize) :=
  inferInstanceAs (Decidable (_ ∧ _ ∨ _))

/-- What the driver puts into the intermediate buffer and returns. -/
def rxFrameData (info : R56Struct) (startIndex : Nat) (status : U16) (framesize : Nat) : List U8 :=
  let copied := copyRxFrame info.rxBufferList info.rxBufferCount framesize startIndex framesize
  if info.params.crcType &&& hdlcCrcReturnEx ≠ 0 then
    copied ++ [if status &&& rxstatusCrcError ≠ 0 then rxCrcError else rxOk]
  else copied

/-- Count a returned frame and hand it on. -/
def passRxFrame (info : R56Struct) (status : U16) (data : List U8) : R56Struct :=
  let info := if status &&& rxstatusCrcError = 0 then
      { info with icount := { info.icount with rxok := info.icount.rxok + 1 } } else info
  if info.netcount ≠ 0 then hdlcdevRx info data else ldiscReceiveBuf info data

/-- Check, measure and pass on the frame in entries `startIndex` to `endIndex`. -/
def deliverRxFrame (info : R56Struct) (startIndex endIndex : Nat) : R56Struct :=
  let status := (info.rxBufferList endIndex).status
  let info := countBadFrame info status
  let framesize := rxReturnSize info.params.crcType status (info.rxBufferList endIndex).rcc
  if framesize = 0 then info
  else if rxTooLong info framesize then
    { info with icount := { info.icount with rxlong := info.icount.rxlong + 1 } }
  else passRxFrame info status (rxFrameData info startIndex status framesize)

/-- The code after `Cleanup:` in `r56_get_rx_frame` and at the end of
`r56_get_raw_rx_frame`. -/
def restartOnOverflow (info : R56Struct) (index : Nat) : R56Struct :=
  if info.rxEnabled && info.rxOverflow then
    if (info.rxBufferList index).status = 0 ∧ (info.rxBufferList index).count ≠ 0 then uscStartReceiver info
    else info
  else info

/-- `r56_get_rx_frame`. -/
def r56GetRxFrame (info : R56Struct) : R56Struct × Bool :=
  let startIndex := info.currentRxBuffer
  match searchRxFrame info.rxBufferList info.rxBufferCount startIndex info.rxBufferCount startIndex with
  | .frame endIndex =>
    let info := deliverRxFrame info startIndex endIndex
    (restartOnOverflow (r56FreeRxFrameBuffers info startIndex endIndex) endIndex, true)
  | .unused endIndex => (restartOnOverflow info endIndex, false)
  | .exhausted endIndex =>
    (restartOnOverflow (if info.rxEnabled then uscStartReceiver info else info) endIndex, false)

/-- The number of bytes taken from one ring buffer in RAW mode. -/
def rawFrameSize (e : DmaBufferEntry) : Nat :=
  let framesize :=
    if e.status &&& rxstatusError ≠ 0 then 0
    else if e.status ≠ 0 then
      if e.rcc ≠ 0 then rclrValue - e.rcc.toNat else dmaBufferSize
    else dmaBufferSize
  if framesize > dmaBufferSize then framesize % dmaBufferSize else framesize

/-- Count and pass on the RAW mode block in entry `index`. -/
def deliverRawFrame (info : R56Struct) (index : Nat) : R56Struct :=
  let e := info.rxBufferList index
  let info := countBadFrame info e.status
  let framesize := rawFrameSize e
  if framesize = 0 then info
  else
    let info := { info with icount := { info.icount with rxok := info.icount.rxok + 1 } }
    ldiscReceiveBuf info (Memory.read e.data 0 framesize)

/-- The entry at `index` is the last of a reception, or the next is in use too. -/
def rawFrameReady (info : R56Struct) (index : Nat) : Prop :=
  (info.rxBufferList index).status ≠ 0 ∨
    (info.rxBufferList index).count = 0 ∧ (info.rxBufferList (next info.rxBufferCount index)).count = 0

instance (info : R56Struct) (index : Nat) : Decidable (rawFrameReady info index) :=
  inferInstanceAs (Decidable (_ ∨ _ ∧ _))

/-- `r56_get_raw_rx_frame`. -/
def r56GetRawRxFrame (info : R56Struct) : R56Struct × Bool :=
  let currentIndex := info.currentRxBuffer
  if rawFrameReady info currentIndex then
    let info := deliverRawFrame info currentIndex
    (restartOnOverflow (r56FreeRxFrameBuffers info currentIndex currentIndex) currentIndex, true)
  else (restartOnOverflow info currentIndex, false)

/-- The function `r56_bh_receive` calls for the mode in effect. -/
def getRxFrame (info : R56Struct) : R56Struct → R56Struct × Bool :=
  if info.params.mode = r56ModeHdlc then r56GetRxFrame else r56GetRawRxFrame

/-- The loop of `r56_bh_receive`; `none` when it has not ended in `fuel` passes. -/
def r56BhReceiveLoop (get : R56Struct → R56Struct × Bool) : Nat → R56Struct → Option R56Struct
  | 0, _ => none
  | fuel + 1, info =>
    if info.rxRccUnderrun then some (uscStartReceiver info)
    else if (get info).2 then r56BhReceiveLoop get fuel (get info).1
    else some (get info).1

/-- `r56_bh_receive`. Every pass that asks for another one frees a ring entry,
so one pass more than there are entries is enough. -/
def r56BhReceive (info : R56Struct) : Option R56Struct :=
  r56BhReceiveLoop (getRxFrame info) (info.rxBufferCount + 1) info

end Route56
