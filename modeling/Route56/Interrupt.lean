import Route56.Transmitter

namespace Route56

def ttyNormal : Nat := 0
def ttyBreak : Nat := 1
def ttyFrame : Nat := 2
def ttyParity : Nat := 3
def ttyOverrun : Nat := 4

/-- The loop mode statements of `r56_isr_receive_status`: the station is in the loop. -/
def completeInsertion (info : R56Struct) (status : U16) : R56Struct :=
  if status &&& rxstatusAbortReceived ≠ 0 ∧ info.loopmodeInsertRequested ∧ uscLoopmodeActive info then
    let cmrValue := info.usc.cmrValue &&& ~~~bit13
    let u := uscOutReg { info.usc with cmrValue := cmrValue } .cmr cmrValue
    let u := uscOutReg u .ricr (uscInReg u .ricr &&& ~~~rxstatusAbortReceived)
    { info with
      icount := { info.icount with rxabort := info.icount.rxabort + 1 }
      loopmodeInsertRequested := false
      usc := u }
  else info

/-- The counters a receive status adds to. -/
def countRxEvents (ic : R56Icount) (status : U16) : R56Icount :=
  { ic with
    exithunt := if status &&& rxstatusExitedHunt ≠ 0 then ic.exithunt + 1 else ic.exithunt
    rxidle := if status &&& rxstatusIdleReceived ≠ 0 then ic.rxidle + 1 else ic.rxidle }

/-- The overrun statement of `r56_isr_receive_status`. -/
def recoverOverrun (info : R56Struct) (status : U16) : R56Struct :=
  if status &&& rxstatusOverrun ≠ 0 then
    uscProcessRxoverrunSync { info with icount := { info.icount with rxover := info.icount.rxover + 1 } }
  else info

/-- `r56_isr_receive_status`. -/
def r56IsrReceiveStatus (info : R56Struct) : R56Struct :=
  let status := uscInReg info.usc .rcsr
  let info := completeInsertion info status
  let info := recoverOverrun { info with icount := countRxEvents info.icount status } status
  { info with usc := uscUnlatchRxstatusBits (uscClearIrqPendingBits info.usc receiveStatus) status }

/-- The counter a transmit status adds to. -/
def countTxStatus (ic : R56Icount) (status : U16) : R56Icount :=
  if status &&& txstatusEofSent ≠ 0 then { ic with txok := ic.txok + 1 }
  else if status &&& txstatusUnderrun ≠ 0 then { ic with txunder := ic.txunder + 1 }
  else if status &&& txstatusAbortSent ≠ 0 then { ic with txabort := ic.txabort + 1 }
  else { ic with txunder := ic.txunder + 1 }

/-- Lower RTS if it is up. -/
def negateRts (info : R56Struct) : R56Struct :=
  if info.serialSignals &&& serialSignalRts ≠ 0 then
    uscSetSerialSignals { info with serialSignals := info.serialSignals &&& ~~~serialSignalRts }
  else info

/-- The automatic RTS statements of `r56_isr_transmit_status`. -/
def dropAutoRts (info : R56Struct) : R56Struct :=
  if info.dropRtsOnTxDone then { negateRts (uscGetSerialSignals info) with dropRtsOnTxDone := false }
  else info

/-- The statements of `r56_isr_transmit_status` before those about RTS. -/
def ackTxStatus (info : R56Struct) (status : U16) : R56Struct :=
  let u := uscClearIrqPendingBits info.usc transmitStatus
  let u := uscUnlatchTxstatusBits u status
  let u := if status &&& (txstatusUnderrun ||| txstatusAbortSent) ≠ 0 then
      uscRTCmd (uscDmaCmd u dmaCmdResetTxChannel) rtCmdPurgeTxFifo
    else u
  { endTransmission info with usc := u, icount := countTxStatus info.icount status, txTimer := false }

/-- `r56_isr_transmit_status`. -/
def r56IsrTransmitStatus (info : R56Struct) : R56Struct :=
  let info := dropAutoRts (ackTxStatus info (uscInReg info.usc .tcsr))
  if info.netcount ≠ 0 then info
  else if info.ttyStopped then uscStopTransmitter info
  else { info with pendingBh := info.pendingBh ||| bhTransmit }

/-- Count one latched input line and, past the limit, silence it. -/
def ioPinLine (chkcount : Nat) (u : Usc) (sicr : U16) : Nat × Usc :=
  (chkcount + 1, if chkcount ≥ ioPinShutdownLimit then uscDisablestatusIrqs u sicr else u)

def countRi (info : R56Struct) (status : U16) : R56Struct :=
  if status &&& miscstatusRiLatched ≠ 0 then
    let (chkcount, u) := ioPinLine info.riChkcount info.usc sicrRi
    let ev := info.inputSignalEvents
    { info with
      riChkcount := chkcount, usc := u, icount := { info.icount with rng := info.icount.rng + 1 }
      inputSignalEvents := if status &&& miscstatusRi ≠ 0 then { ev with riUp := ev.riUp + 1 }
        else { ev with riDown := ev.riDown + 1 } }
  else info

def countDsr (info : R56Struct) (status : U16) : R56Struct :=
  if status &&& miscstatusDsrLatched ≠ 0 then
    let (chkcount, u) := ioPinLine info.dsrChkcount info.usc sicrDsr
    let ev := info.inputSignalEvents
    { info with
      dsrChkcount := chkcount, usc := u, icount := { info.icount with dsr := info.icount.dsr + 1 }
      inputSignalEvents := if status &&& miscstatusDsr ≠ 0 then { ev with dsrUp := ev.dsrUp + 1 }
        else { ev with dsrDown := ev.dsrDown + 1 } }
  else info

def countDcd (info : R56Struct) (status : U16) : R56Struct :=
  if status &&& miscstatusDcdLatched ≠ 0 then
    let (chkcount, u) := ioPinLine info.dcdChkcount info.usc sicrDcd
    let ev := info.inputSignalEvents
    { info with
      dcdChkcount := chkcount, usc := u, icount := { info.icount with dcd := info.icount.dcd + 1 }
      inputSignalEvents := if status &&& miscstatusDcd ≠ 0 then { ev with dcdUp := ev.dcdUp + 1 }
        else { ev with dcdDown := ev.dcdDown + 1 } }
  else info

def countCts (info : R56Struct) (status : U16) : R56Struct :=
  if status &&& miscstatusCtsLatched ≠ 0 then
    let (chkcount, u) := ioPinLine info.ctsChkcount info.usc sicrCts
    let ev := info.inputSignalEvents
    { info with
      ctsChkcount := chkcount, usc := u, icount := { info.icount with cts := info.icount.cts + 1 }
      inputSignalEvents := if status &&& miscstatusCts ≠ 0 then { ev with ctsUp := ev.ctsUp + 1 }
        else { ev with ctsDown := ev.ctsDown + 1 } }
  else info

/-- The input line statements of `r56_isr_io_pin`. -/
def countIoPins (info : R56Struct) (status : U16) : R56Struct :=
  countCts (countDcd (countDsr (countRi info status) status) status) status

/-- The last statements of `r56_isr_io_pin`. -/
def ioPinDone (info : R56Struct) (status : U16) : R56Struct :=
  let info := { info with pendingBh := info.pendingBh ||| bhStatus }
  if status &&& miscstatusTxcLatched ≠ 0 then
    let u := uscOutReg info.usc .sicr (uscInReg info.usc .sicr &&& ~~~sicrTxc)
    { info with usc := uscUnlatchIostatusBits u miscstatusTxcLatched, irqOccurred := true }
  else info

def miscstatusLines : U16 :=
  miscstatusCtsLatched ||| miscstatusDcdLatched ||| miscstatusDsrLatched ||| miscstatusRiLatched

/-- The CTS flow control statements of `r56_isr_io_pin` and what follows them.
When CTS comes back the routine returns without `ioPinDone`. -/
def ctsFlowControl (info : R56Struct) (status : U16) : R56Struct :=
  if info.tty.hwStopped then
    if status &&& miscstatusCts ≠ 0 then
      let info := uscStartTransmitter { info with tty := { info.tty with hwStopped := false } }
      { info with pendingBh := info.pendingBh ||| bhTransmit }
    else ioPinDone info status
  else if status &&& miscstatusCts = 0 then
    ioPinDone (uscStopTransmitter { info with tty := { info.tty with hwStopped := true } }) status
  else ioPinDone info status

/-- The statements of `r56_isr_io_pin` for a change of an input line. -/
def serviceIoPins (info : R56Struct) (status : U16) : R56Struct :=
  let info := countIoPins info status
  if info.port.ctsFlow ∧ status &&& miscstatusCtsLatched ≠ 0 then ctsFlowControl info status
  else ioPinDone info status

/-- `r56_isr_io_pin`. -/
def r56IsrIoPin (info : R56Struct) : R56Struct :=
  let status := uscInReg info.usc .misr
  let u := uscUnlatchIostatusBits (uscClearIrqPendingBits info.usc ioPin) status
  let info := { info with usc := u }
  if status &&& miscstatusLines ≠ 0 then serviceIoPins info status else ioPinDone info status

/-- Feed the transmit FIFO, or note that nothing is left to send. -/
def continueAsync (info : R56Struct) : R56Struct :=
  if info.xmitCnt ≠ 0 then uscLoadTxfifo info else { info with txActive := false }

/-- `r56_isr_transmit_data`. -/
def r56IsrTransmitData (info : R56Struct) : R56Struct :=
  let info := { info with usc := uscClearIrqPendingBits info.usc transmitData }
  if info.ttyStopped then uscStopTransmitter info
  else
    let info := continueAsync info
    if info.xmitCnt < wakeupChars then { info with pendingBh := info.pendingBh ||| bhTransmit } else info

def rxstatusCharError : U16 :=
  rxstatusFramingError + rxstatusParityError + rxstatusOverrun + rxstatusBreakReceived

/-- The counter a character error adds to. -/
def countCharError (ic : R56Icount) (status : U16) : R56Icount :=
  if status &&& rxstatusBreakReceived ≠ 0 then { ic with brk := ic.brk + 1 }
  else if status &&& rxstatusParityError ≠ 0 then { ic with parity := ic.parity + 1 }
  else if status &&& rxstatusFramingError ≠ 0 then { ic with frame := ic.frame + 1 }
  else if status &&& rxstatusOverrun ≠ 0 then { ic with overrun := ic.overrun + 1 }
  else ic

/-- The flip buffer flag of a character with the masked status. -/
def charFlag (status : U16) : Nat :=
  if status &&& rxstatusBreakReceived ≠ 0 then ttyBreak
  else if status &&& rxstatusParityError ≠ 0 then ttyParity
  else if status &&& rxstatusFramingError ≠ 0 then ttyFrame
  else ttyNormal

/-- A call of `tty_insert_flip_char`, and its result. -/
def ttyInsertFlipChar (info : R56Struct) (ch : U8) (flag : Nat) : R56Struct × Nat :=
  let inserted := info.tty.insertFlipChar info.tty.flip ch flag
  ({ info with tty := { info.tty with flip := info.tty.flip ++ [⟨ch, flag, inserted⟩] } }, inserted)

/-- Put a character and, after an overrun, the overrun mark into the flip buffer. Of the two results only that for the
overrun mark is added to `work`. -/
def insertChar (info : R56Struct) (dataByte : U8) (status : U16) (flag : Nat) : R56Struct × Nat :=
  let info := (ttyInsertFlipChar info dataByte flag).1
  if status &&& rxstatusOverrun ≠ 0 then ttyInsertFlipChar info 0 ttyOverrun else (info, 0)

/-- The FIFO is purged for an overrun that is the only error. -/
def purgeOnOverrun (u : Usc) (status : U16) : Usc :=
  if status &&& (rxstatusBreakReceived ||| rxstatusParityError ||| rxstatusFramingError) = 0 ∧
      status &&& rxstatusOverrun ≠ 0 then uscRTCmd u rtCmdPurgeRxFifo
  else u

/-- A break hides the framing and parity errors that come with it. -/
def hideByBreak (status : U16) : U16 :=
  if status &&& rxstatusBreakReceived ≠ 0 then status &&& ~~~(rxstatusFramingError + rxstatusParityError)
  else status

/-- The treatment of a character received with an error. -/
def receiveBadChar (info : R56Struct) (dataByte : U8) (status : U16) : R56Struct × Nat :=
  let u := purgeOnOverrun (uscUnlatchRxstatusBits info.usc rxstatusAll) status
  let info := { info with usc := u, icount := countCharError info.icount status }
  let status := hideByBreak status
  if status &&& info.ignoreStatusMask ≠ 0 then (info, 0)
  else
    let status := status &&& info.readStatusMask
    insertChar info dataByte status (charFlag status)

/-- One pass of the loop of `r56_isr_receive_data`, and what it adds to `work`. -/
def receiveChar (info : R56Struct) (dataByte : U8) (status : U16) : R56Struct × Nat :=
  let u := uscOutReg info.usc .ccar ((uscInReg info.usc .ccar &&& 0x0780) ||| (rdrAddress + lsbOnly))
  let info := { info with usc := u, icount := { info.icount with rx := info.icount.rx + 1 } }
  if status &&& rxstatusCharError ≠ 0 then receiveBadChar info dataByte status
  else insertChar info dataByte status ttyNormal

/-- The loop of `r56_isr_receive_data` over the characters the FIFO holds. -/
def receiveChars : List (U8 × U16) → R56Struct → Nat → R56Struct × Nat
  | [], info, work => (info, work)
  | (dataByte, status) :: rest, info, work =>
    let (info, inserted) := receiveChar info dataByte status
    receiveChars rest info (work + inserted)

/-- `r56_isr_receive_data`. -/
def r56IsrReceiveData (info : R56Struct) : R56Struct :=
  let u := uscClearIrqPendingBits info.usc receiveData
  let u := uscRCmd u rCmdSelectRicrRxFifostatus
  let u := uscOutReg u .ricr (uscInReg u .ricr &&& ~~~bit3)
  let (info, work) := receiveChars u.rxFifo { info with usc := { u with rxFifo := [] } } 0
  if work ≠ 0 then { info with tty := { info.tty with flipPushes := info.tty.flipPushes + 1 } } else info

/-- The receive count underrun statements of `r56_isr_misc`. -/
def haltOnRccUnderrun (info : R56Struct) (status : U16) : R56Struct :=
  if status &&& miscstatusRccUnderrun ≠ 0 ∧ info.params.mode = r56ModeHdlc then
    let u := uscEnableReceiver info.usc disableUnconditional
    let u := uscDmaCmd u dmaCmdResetRxChannel
    let u := uscUnlatchRxstatusBits u rxstatusAll
    let u := uscClearIrqPendingBits u (receiveData + receiveStatus)
    let u := uscDisableInterrupts u (receiveData + receiveStatus)
    { info with usc := u, pendingBh := info.pendingBh ||| bhReceive, rxRccUnderrun := true }
  else info

/-- `r56_isr_misc`. -/
def r56IsrMisc (info : R56Struct) : R56Struct :=
  let status := uscInReg info.usc .misr
  let info := haltOnRccUnderrun info status
  { info with usc := uscUnlatchMiscstatusBits (uscClearIrqPendingBits info.usc misc) status }

/-- `r56_isr_null`. -/
def r56IsrNull (info : R56Struct) : R56Struct := info

/-- `r56_isr_receive_dma`. -/
def r56IsrReceiveDma (info : R56Struct) : R56Struct :=
  let u := uscOutDmaReg info.usc .cdir (bit9 + bit1)
  let status := uscInDmaReg u .rdmr
  let info := { info with usc := u, pendingBh := info.pendingBh ||| bhReceive }
  if status &&& bit3 ≠ 0 then
    { info with rxOverflow := true, icount := { info.icount with bufOverrun := info.icount.bufOverrun + 1 } }
  else info

/-- The end of buffer statements of `r56_isr_transmit_dma`. -/
def txBufferDone (info : R56Struct) : R56Struct :=
  let (info, loaded) := loadNextTxHoldingBuffer { info with txDmaBuffersUsed := info.txDmaBuffersUsed - 1 }
  if loaded then { info with pendingBh := info.pendingBh ||| bhTransmit } else info

/-- `r56_isr_transmit_dma`. -/
def r56IsrTransmitDma (info : R56Struct) : R56Struct :=
  let u := uscOutDmaReg info.usc .cdir (bit8 + bit0)
  let info := { info with usc := u }
  if uscInDmaReg u .tdmr &&& bit2 ≠ 0 then txBufferDone info else info

/-- `UscIsrTable`. The chip reports vectors 0 to 6 only. -/
def uscIsrTable : Nat → R56Struct → R56Struct
  | 1 => r56IsrMisc
  | 2 => r56IsrIoPin
  | 3 => r56IsrTransmitData
  | 4 => r56IsrTransmitStatus
  | 5 => r56IsrReceiveData
  | 6 => r56IsrReceiveStatus
  | _ => r56IsrNull

/-- `UscVector` of `r56_interrupt`. -/
def R56Struct.uscVector (info : R56Struct) : Nat := (uscInReg info.usc .ivr >>> 9).toNat

/-- The service routine `r56_interrupt` calls for what the two vector registers read. -/
def serviceInterrupt (info : R56Struct) : R56Struct :=
  let dmaVector := uscInDmaReg info.usc .divr
  if info.uscVector ≠ 0 then uscIsrTable info.uscVector info
  else if dmaVector &&& (bit10 ||| bit9) = bit10 then r56IsrTransmitDma info
  else r56IsrReceiveDma info

/-- The overflow statement of `r56_interrupt`. -/
def haltOnOverflow (info : R56Struct) : R56Struct :=
  if info.isrOverflow then
    { info with usc := uscDisableDmaInterrupts (uscDisableMasterIrqBit info.usc) dicrMaster }
  else info

/-- The end of `r56_interrupt`: request bottom half processing. `schedule_work`
queues the work item if it is not queued already. -/
def scheduleBh (info : R56Struct) : R56Struct :=
  if info.pendingBh ≠ 0 ∧ info.bhRunning = false ∧ info.bhRequested = false then
    { info with taskQueued := true, bhRequested := true }
  else info

/-- `r56_interrupt`. -/
def r56Interrupt (info : R56Struct) : R56Struct := scheduleBh (haltOnOverflow (serviceInterrupt info))

/-- `r56_bh_action`, with the action it returns. -/
def r56BhAction (info : R56Struct) : R56Struct × U32 :=
  if info.pendingBh &&& bhReceive ≠ 0 then
    ({ info with pendingBh := info.pendingBh &&& ~~~bhReceive }, bhReceive)
  else if info.pendingBh &&& bhTransmit ≠ 0 then
    ({ info with pendingBh := info.pendingBh &&& ~~~bhTransmit }, bhTransmit)
  else if info.pendingBh &&& bhStatus ≠ 0 then
    ({ info with pendingBh := info.pendingBh &&& ~~~bhStatus }, bhStatus)
  else ({ info with bhRunning := false, bhRequested := false }, 0)

/-- `r56_bh_status`. -/
def r56BhStatus (info : R56Struct) : R56Struct :=
  { info with riChkcount := 0, dsrChkcount := 0, dcdChkcount := 0, ctsChkcount := 0 }

end Route56
