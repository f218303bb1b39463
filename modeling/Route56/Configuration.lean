import Route56.Interrupt

namespace Route56

/-- `usc_set_interface`. -/
def uscSetInterface (info : R56Struct) : R56Struct :=
  if info.hwVersion ≠ r565DeviceId then
    { info with usc := outb info.usc (r56InterfaceMask &&& info.params.interface) 5 }
  else { info with params := { info.params with interface := rs232 }, usc := outb info.usc 0 5 }

/-- The encoding field of RMR and TMR. -/
def encodingBits (encoding : U8) : U16 :=
  if encoding = hdlcEncodingNrzb then bit13
  else if encoding = hdlcEncodingNrziMark then bit14
  else if encoding = hdlcEncodingNrziSpace then bit14 + bit13
  else if encoding = hdlcEncodingBiphaseMark then bit15
  else if encoding = hdlcEncodingBiphaseSpace then bit15 + bit13
  else if encoding = hdlcEncodingBiphaseLevel then bit15 + bit14
  else if encoding = hdlcEncodingDiffBiphaseLevel then bit15 + bit14 + bit13
  else 0

/-- The channel mode value, with the register writes made while it is built. -/
def sdlcChannelMode (info : R56Struct) (u : Usc) : Usc × U16 :=
  let flags := info.params.flags
  if flags &&& hdlcFlagHdlcLoopmode ≠ 0 then (u, 0x8e06)
  else
    let (u, regValue) := if info.params.mode = r56ModeRaw then
        let u := uscOutReg u .cmr 0x0101
        let u := uscOutReg u .iocr ((uscInReg u .iocr &&& ~~~(bit13 ||| bit12)) ||| bit12)
        (u, (0x0101 ||| 0x0400 : U16))
      else if flags &&& hdlcFlagUnderrunAbort15 ≠ 0 then (u, 0x0606 ||| bit14)
      else if flags &&& hdlcFlagUnderrunFlag ≠ 0 then (u, 0x0606 ||| bit15)
      else if flags &&& hdlcFlagUnderrunCrc ≠ 0 then (u, 0x0606 ||| (bit15 + bit14))
      else (u, 0x0606)
    (u, if info.params.preamble ≠ hdlcPreamblePatternNone then regValue ||| bit13 else regValue)

def programChannelMode (info : R56Struct) (u : Usc) : Usc :=
  let (u, regValue) := sdlcChannelMode info u
  let regValue := if info.params.mode = r56ModeHdlc ∧ info.params.flags &&& hdlcFlagShareZero ≠ 0 then
      regValue ||| bit12 else regValue
  let u := if info.params.addrFilter ≠ 0xff then uscOutReg u .rsr (info.params.addrFilter.setWidth 16) else u
  let regValue := if info.params.addrFilter ≠ 0xff then regValue ||| bit4 else regValue
  { uscOutReg u .cmr regValue with cmrValue := regValue }

/-- RMR, RCLR, RICR and the receive status latches. -/
def programReceiver (info : R56Struct) (u : Usc) : Usc :=
  let crc := info.params.crcType &&& hdlcCrcMask
  let crcBits := if crc = hdlcCrc16Ccitt then bit9
    else if crc = hdlcCrc32Ccitt then bit12 ||| bit10 ||| bit9 else 0
  let u := uscOutReg u .rmr (0x0500 ||| encodingBits info.params.encoding ||| crcBits)
  let u := uscOutReg u .rclr rclrValue
  let u := uscRCmd u rCmdSelectRicrdmaLevel
  let armed := uscInReg u .ricr &&& 0xc0
  let u := uscOutReg u .ricr ((if info.busType = .pci then 0x010a else 0x140a) ||| armed)
  uscClearIrqPendingBits (uscUnlatchRxstatusBits u rxstatusAll) receiveStatus

/-- The idle field of TCSR for an API idle mode. -/
def idleModeBits (idleMode : Nat) : U16 :=
  if idleMode = hdlcTxidleAltZerosOnes then idlemodeAltOneZero
  else if idleMode = hdlcTxidleZeros then idlemodeZero
  else if idleMode = hdlcTxidleOnes then idlemodeOne
  else if idleMode = hdlcTxidleAltMarkSpace then idlemodeAltMarkSpace
  else if idleMode = hdlcTxidleSpace then idlemodeSpace
  else if idleMode = hdlcTxidleMark then idlemodeMark
  else idlemodeFlags

/-- The RAW mode sync character that resembles an idle mode. -/
def idleSyncPattern (idleMode : Nat) : U8 :=
  if idleMode = hdlcTxidleFlags then 0x7e
  else if idleMode = hdlcTxidleAltZerosOnes then 0x55
  else if idleMode = hdlcTxidleOnes ∨ idleMode = hdlcTxidleMark then 0xff
  else if idleMode = hdlcTxidleAltMarkSpace then 0xaa
  else 0x00

/-- Put an idle mode into the shadow of TCSR and into TCSR. -/
def programIdleMode (u : Usc) (uscIdleMode : U16) : Usc :=
  let tcsrValue := (u.tcsrValue &&& ~~~idlemodeMask) + uscIdleMode
  uscOutReg { u with uscIdleMode := uscIdleMode, tcsrValue := tcsrValue } .tcsr tcsrValue

/-- `usc_set_txidle`. -/
def uscSetTxidle (info : R56Struct) (u : Usc) : Usc :=
  let u := programIdleMode u (idleModeBits info.idleMode)
  let syncpat := idleSyncPattern info.idleMode
  if info.params.mode = r56ModeRaw then uscSetTransmitSyncChars u syncpat syncpat else u

/-- TMR, the idle pattern, TICR, the transmit status latches and TCSR. -/
def programTransmitter (info : R56Struct) (preSL1660 : Bool) (u : Usc) : Usc :=
  let crc := info.params.crcType &&& hdlcCrcMask
  let crcBits := if crc = hdlcCrc16Ccitt then bit9 + bit8
    else if crc = hdlcCrc32Ccitt then bit12 ||| bit10 ||| bit9 ||| bit8 else 0
  let u := uscOutReg u .tmr (0x0400 ||| encodingBits info.params.encoding ||| crcBits)
  let u := uscSetTxidle info u
  let u := uscTCmd u tCmdSelectTicrdmaLevel
  let u := uscOutReg u .ticr (if info.busType = .pci then 0x0136 else 0x1436)
  let u := uscUnlatchTxstatusBits u txstatusAll
  let u := uscClearIrqPendingBits u transmitStatus
  let tcsrValue := if preSL1660 then 0 else tcsrUnderwait
  uscOutReg { u with tcsrValue := tcsrValue } .tcsr tcsrValue

/-- The pins and CMCR. -/
def programClockMode (info : R56Struct) (u : Usc) : Usc :=
  let flags := info.params.flags
  let u := uscOutReg u .pcr ((uscInReg u .pcr &&& ~~~0x0c00) ||| 0x0800)
  let u := uscOutReg u .iocr ((uscInReg u .iocr &&& ~~~0x0038) ||| 0x0008)
  let u := uscOutReg u .iocr ((uscInReg u .iocr &&& ~~~0x0007) ||| 0x0001)
  let (u, rxc) := if flags &&& hdlcFlagRxcDpll ≠ 0 then (u, (0x0003 : U16))
    else if flags &&& hdlcFlagRxcBrg ≠ 0 then (u, 0x0004)
    else if flags &&& hdlcFlagRxcTxcpin ≠ 0 then (u, 0x0002)
    else (uscOutReg u .iocr (uscInReg u .iocr &&& ~~~0x0007), 0x0001)
  let (u, txc) := if flags &&& hdlcFlagTxcDpll ≠ 0 then (u, (0x0018 : U16))
    else if flags &&& hdlcFlagTxcBrg ≠ 0 then (u, 0x0020)
    else if flags &&& hdlcFlagTxcRxcpin ≠ 0 then (u, 0x0008)
    else
      let u := uscOutReg u .pcr (uscInReg u .pcr ||| 0x0c00)
      (uscOutReg u .iocr (uscInReg u .iocr &&& ~~~0x0038), 0x0010)
  uscOutReg u .cmcr (0x0040 ||| rxc ||| txc)

def R56Struct.xtalSpeed (info : R56Struct) : Nat :=
  if info.busType = .pci then r56PciXtalSpeed else r56IsaXtalSpeed

/-- The divider the driver computes for a clock of `xtal` and a rate other than 0. -/
def timeConstant (xtal rate : Nat) : U16 :=
  if xtal % rate * 2 / rate = 0 then ((xtal / rate : Nat) : U16) - 1 else ((xtal / rate : Nat) : U16)

/-- The DPLL clock and HCR. -/
def programHardwareConfiguration (info : R56Struct) (u : Usc) : Usc :=
  let flags := info.params.flags
  if flags &&& (hdlcFlagRxcDpll + hdlcFlagTxcDpll) = 0 then uscOutReg u .hcr 0x0001
  else
    let (divisor, divisorBits) := if flags &&& hdlcFlagDpllDiv16 ≠ 0 then (16, bit10)
      else if flags &&& hdlcFlagDpllDiv8 ≠ 0 then (8, bit11) else (32, 0)
    let tc := if info.params.clockSpeed ≠ 0 then timeConstant (info.xtalSpeed / divisor) info.params.clockSpeed
      else 0xffff
    let encoding := info.params.encoding
    let dpllMode := if encoding.toNat ≤ 3 then bit8
      else if encoding = hdlcEncodingBiphaseMark ∨ encoding = hdlcEncodingBiphaseSpace then bit9
      else if encoding = hdlcEncodingBiphaseLevel ∨ encoding = hdlcEncodingDiffBiphaseLevel then bit9 + bit8
      else 0
    let u := uscOutReg u .tc1r tc
    uscOutReg u .hcr (0x0001 ||| divisorBits ||| bit4 ||| dpllMode)

/-- CCSR, the status interrupts and the DMA controller. -/
def programDma (info : R56Struct) (u : Usc) : Usc :=
  let u := uscOutReg u .ccsr 0x1020
  let u := if info.params.flags &&& hdlcFlagAutoCts ≠ 0 then
      uscOutReg u .sicr (uscInReg u .sicr ||| sicrCtsInactive) else u
  let u := uscEnableMasterIrqBit u
  let u := uscClearIrqPendingBits u (receiveStatus + receiveData + transmitStatus + transmitData + misc)
  let u := uscOutReg u .sicr (uscInReg u .sicr ||| bit3)
  let u := uscEnableInterrupts u misc
  let u := uscOutReg { u with mbreBit := 0 } .dcar 0
  let u := uscDmaCmd u dmaCmdResetAllChannels
  let u := uscOutReg { u with mbreBit := bit8 } .dcar bit8
  let u := if info.busType = .isa then
      uscOutReg u .pcr ((uscInReg u .pcr ||| bit15) &&& ~~~bit14) else u
  let u := uscOutDmaReg u .dcr (if info.busType = .pci then 0xa00b else 0x800b)
  let u := uscOutDmaReg u .rdmr 0xf200
  let u := uscOutDmaReg u .tdmr 0xf200
  let u := uscOutDmaReg u .dicr 0x9000
  uscOutDmaReg u .cdir 0x0303

/-- CCR and BDCR. -/
def programPreamble (info : R56Struct) (u : Usc) : Usc :=
  let length := info.params.preambleLength
  let lengthBits := if length = hdlcPreambleLength16bits then bit10
    else if length = hdlcPreambleLength32bits then bit11
    else if length = hdlcPreambleLength64bits then bit11 + bit10 else 0
  let preamble := info.params.preamble
  let patternBits := if preamble = hdlcPreamblePatternFlags then bit8 + bit12
    else if preamble = hdlcPreamblePatternOnes then bit8
    else if preamble = hdlcPreamblePattern10 then bit9
    else if preamble = hdlcPreamblePattern01 then bit9 + bit8 else 0
  let u := uscOutReg u .ccr (0x8080 ||| lengthBits ||| patternBits)
  uscOutDmaReg u .bdcr (if info.busType = .pci then 0x0000 else 0x2000)

/-- `usc_set_sdlc_mode`. -/
def uscSetSdlcMode (info : R56Struct) : R56Struct :=
  let u := uscOutReg info.usc .tmcr 0x1f
  let preSL1660 := uscInReg u .tmdr = iuscPreSl1660
  let u := programChannelMode info u
  let u := programReceiver info u
  let u := programTransmitter info preSL1660 u
  let u := programClockMode info u
  let u := programHardwareConfiguration info u
  let u := programDma info u
  let u := programPreamble info u
  uscSetInterface (uscStopReceiver (uscStopTransmitter { info with usc := u }))

/-- `usc_enable_loopback`. -/
def uscEnableLoopback (info : R56Struct) (enable : Bool) (u : Usc) : Usc :=
  if enable then
    let u := uscOutReg u .iocr (uscInReg u .iocr ||| (bit7 + bit6))
    let u := uscOutReg u .cmcr 0x0064
    let u := uscOutReg u .tc0r
      (if info.params.clockSpeed ≠ 0 then ((info.xtalSpeed / info.params.clockSpeed : Nat) : U16) - 1 else 8)
    let u := uscOutReg u .hcr ((uscInReg u .hcr &&& ~~~bit1) ||| bit0)
    let u := uscOutReg u .iocr ((uscInReg u .iocr &&& 0xfff8) ||| 0x0004)
    uscOutReg { u with loopbackBits := 0x300 } .ccar 0x0300
  else
    let u := uscOutReg u .iocr (uscInReg u .iocr &&& ~~~(bit7 + bit6))
    uscOutReg { u with loopbackBits := 0 } .ccar 0

/-- `usc_enable_aux_clock`; its argument is 32 bits wide. -/
def uscEnableAuxClock (info : R56Struct) (dataRate : Nat) (u : Usc) : Usc :=
  if dataRate ≠ 0 then
    let u := uscOutReg u .tc0r (timeConstant info.xtalSpeed dataRate)
    uscOutReg u .hcr ((uscInReg u .hcr &&& ~~~bit1) ||| bit0)
  else uscOutReg u .hcr (uscInReg u .hcr &&& ~~~bit0)

/-- `usc_enable_async_clock`; its argument is 32 bits wide. -/
def uscEnableAsyncClock (info : R56Struct) (dataRate : Nat) (u : Usc) : Usc :=
  if dataRate ≠ 0 then
    let u := uscOutReg u .cmcr 0x0064
    let u := uscOutReg u .tc0r (((info.xtalSpeed / dataRate : Nat) : U16) - 1)
    let u := uscOutReg u .hcr ((uscInReg u .hcr &&& ~~~bit1) ||| bit0)
    uscOutReg u .iocr ((uscInReg u .iocr &&& 0xfff8) ||| 0x0004)
  else uscOutReg u .hcr (uscInReg u .hcr &&& ~~~bit0)

/-- `usc_loopback_frame`. Its wait for the frame ends after at most 1000
readings of RCSR, which change nothing. -/
def uscLoopbackFrame (info : R56Struct) : R56Struct :=
  let oldmode := info.params.mode
  let info := { info with
    params := { info.params with mode := r56ModeHdlc }, usc := uscDisableMasterIrqBit info.usc }
  let info := uscSetSdlcMode info
  let u := uscEnableLoopback info true info.usc
  let u := uscOutReg u .tc0r 0
  let u := uscOutReg u .ccr 0x0100
  let u := uscRTCmd u rtCmdPurgeRxFifo
  let u := uscEnableReceiver u enableUnconditional
  let u := uscOutReg u .tclr 2
  let u := uscRTCmd u rtCmdPurgeTxFifo
  let u := uscUnlatchTxstatusBits u txstatusAll
  let u := uscOutReg u .data 0
  let u := uscTCmd u tCmdSendFrame
  let u := uscEnableTransmitter u enableUnconditional
  let u := uscEnableLoopback info false u
  { info with
    usc := uscEnableMasterIrqBit u, params := { info.params with mode := oldmode } }

/-- Connect the interrupt request to the ISA bus. -/
def enableIsaInten (info : R56Struct) (u : Usc) : Usc :=
  if info.busType = .isa then uscOutReg u .pcr ((uscInReg u .pcr ||| bit13) &&& ~~~bit12) else u

/-- `usc_set_sync_mode`. -/
def uscSetSyncMode (info : R56Struct) : R56Struct :=
  let info := uscSetSdlcMode (uscLoopbackFrame info)
  let u := enableIsaInten info info.usc
  let u := uscEnableAuxClock info (info.params.clockSpeed % 2 ^ 32) u
  { info with usc := if info.params.loopback ≠ 0 then uscEnableLoopback info true u else u }

/-- The character format of RMR and TMR in asynchronous mode. -/
def asyncFormat (params : R56Params) : U16 :=
  let length := if params.dataBits ≠ 8 then bit4 + bit3 + bit2 else 0
  let parity := if params.parity ≠ asyncParityNone then
      if params.parity ≠ asyncParityOdd then bit5 ||| bit6 else bit5
    else 0
  length ||| parity

/-- `usc_set_async_mode`. -/
def uscSetAsyncMode (info : R56Struct) : R56Struct :=
  let u := uscDisableMasterIrqBit info.usc
  let u := outb u 0 5
  let u := uscOutReg u .dcar 0
  let u := uscDmaCmd u dmaCmdResetAllChannels
  let info := uscLoopbackFrame { info with usc := u }
  let u := uscOutReg info.usc .cmr (if info.params.stopBits ≠ 1 then bit14 else 0)
  let u := uscOutReg u .rmr (asyncFormat info.params)
  let u := uscRCmd u rCmdSelectRicrIntLevel
  let u := uscOutReg u .ricr 0x0000
  let u := uscUnlatchRxstatusBits u rxstatusAll
  let u := uscClearIrqPendingBits u receiveStatus
  let u := uscOutReg u .tmr (asyncFormat info.params)
  let u := uscSetTxidle info u
  let u := uscTCmd u tCmdSelectTicrIntLevel
  let u := uscOutReg u .ticr 0x1f40
  let u := uscUnlatchTxstatusBits u txstatusAll
  let u := uscClearIrqPendingBits u transmitStatus
  let u := uscEnableAsyncClock info (info.params.dataRate % 2 ^ 32) u
  let u := uscOutReg u .ccsr 0x0020
  let u := uscDisableInterrupts u (transmitStatus + transmitData + receiveData + receiveStatus)
  let u := uscClearIrqPendingBits u (transmitStatus + transmitData + receiveData + receiveStatus)
  let u := uscEnableMasterIrqBit u
  uscSetInterface { info with usc := enableIsaInten info u }

/-- Program the chip for the mode in effect. -/
def programMode (info : R56Struct) : R56Struct :=
  if info.synchronous ∨ info.netcount ≠ 0 then uscSetSyncMode info else uscSetAsyncMode info

/-- The statements of `r56_program_hw` between the mode and the receiver. -/
def programSignals (info : R56Struct) : R56Struct :=
  let info := uscSetSerialSignals info
  let u := uscEnableStatusIrqs info.usc (sicrCts + sicrDsr + sicrDcd + sicrRi)
  uscGetSerialSignals { info with
    dcdChkcount := 0, ctsChkcount := 0, riChkcount := 0, dsrChkcount := 0
    usc := uscEnableInterrupts u ioPin }

/-- `r56_program_hw`. -/
def r56ProgramHw (info : R56Struct) : R56Struct :=
  let info := uscStopTransmitter (uscStopReceiver info)
  let info := programSignals (programMode { info with xmitCnt := 0, xmitHead := 0, xmitTail := 0 })
  if info.netcount ≠ 0 ∨ info.tty.cCflag &&& cread ≠ 0 then uscStartReceiver info else info

/-- The line parameters `r56_change_params` takes from the termios. -/
def termiosParams (tty : TtyStruct) (params : R56Params) : R56Params :=
  let cflag := tty.cCflag
  let dataBits := if cflag &&& csize = cs5 then 5 else if cflag &&& csize = cs6 then 6
    else if cflag &&& csize = cs7 then 7 else 8
  let parity := if cflag &&& parenb = 0 then asyncParityNone
    else if cflag &&& cmspar ≠ 0 then asyncParitySpace
    else if cflag &&& parodd ≠ 0 then asyncParityOdd else asyncParityEven
  { params with
    dataBits := dataBits
    stopBits := if cflag &&& cstopb ≠ 0 then 2 else 1
    parity := parity
    dataRate := if params.dataRate ≤ 460800 then tty.baudRate else params.dataRate }

/-- The status masks `r56_change_params` derives from the termios input flags. -/
def termiosStatusMasks (tty : TtyStruct) (ignoreStatusMask : U16) : U16 × U16 :=
  let iflag := tty.cIflag
  let read := rxstatusOverrun
  let read := if iflag &&& inpck ≠ 0 then read ||| rxstatusParityError ||| rxstatusFramingError else read
  let read := if iflag &&& brkint ≠ 0 ∨ iflag &&& parmrk ≠ 0 then read ||| rxstatusBreakReceived else read
  let ignore := ignoreStatusMask
  let ignore := if iflag &&& ignpar ≠ 0 then ignore ||| rxstatusParityError ||| rxstatusFramingError else ignore
  let ignore := if iflag &&& ignbrk ≠ 0 then
      let ignore := ignore ||| rxstatusBreakReceived
      if iflag &&& ignpar ≠ 0 then ignore ||| rxstatusOverrun else ignore
    else ignore
  (read, ignore)

/-- `r56_change_params`. -/
def r56ChangeParams (info : R56Struct) : R56Struct :=
  if ¬info.port.tty then info
  else
    let cflag := info.tty.cCflag
    let serialSignals := if info.params.mode = r56ModeAsync then
        if cflag &&& cbaud ≠ 0 then info.serialSignals ||| (serialSignalRts + serialSignalDtr)
        else info.serialSignals &&& ~~~(serialSignalRts + serialSignalDtr)
      else info.serialSignals
    let params := termiosParams info.tty info.params
    let bitsPerChar := params.dataBits.toNat + params.stopBits.toNat + 1
    let timeout := if params.dataRate ≠ 0 then 32 * info.build.hz * bitsPerChar / params.dataRate else info.timeout
    let (readStatusMask, ignoreStatusMask) := termiosStatusMasks info.tty info.ignoreStatusMask
    r56ProgramHw { info with
      serialSignals := serialSignals
      params := params
      timeout := timeout + info.build.hz / 50
      port := { info.port with ctsFlow := cflag &&& crtscts ≠ 0, checkCd := cflag &&& clocal = 0 }
      readStatusMask := readStatusMask
      ignoreStatusMask := ignoreStatusMask }

/-- `r56_set_params`, after the copy from user space. -/
def r56SetParams (info : R56Struct) (newParams : R56Params) : R56Struct :=
  r56ChangeParams { info with params := newParams }

/-- The transition to B0. -/
def enterB0 (info : R56Struct) (oldCflag : U32) : R56Struct :=
  if oldCflag &&& cbaud ≠ 0 ∧ info.tty.cCflag &&& cbaud = 0 then
    uscSetSerialSignals { info with
      serialSignals := info.serialSignals &&& ~~~(serialSignalRts + serialSignalDtr) }
  else info

/-- The transition away from B0. -/
def leaveB0 (info : R56Struct) (oldCflag : U32) : R56Struct :=
  if oldCflag &&& cbaud = 0 ∧ info.tty.cCflag &&& cbaud ≠ 0 then
    let signals := info.serialSignals ||| serialSignalDtr
    uscSetSerialSignals { info with
      serialSignals := if info.tty.cCflag &&& crtscts = 0 ∨ ¬info.tty.throttled then
          signals ||| serialSignalRts
        else signals }
  else info

/-- Turning off CRTSCTS. -/
def leaveCrtscts (info : R56Struct) (oldCflag : U32) : R56Struct :=
  if oldCflag &&& crtscts ≠ 0 ∧ info.tty.cCflag &&& crtscts = 0 then
    r56Start { info with tty := { info.tty with hwStopped := false } }
  else info

/-- `r56_set_termios`; the new settings are already in the `tty_struct`. -/
def r56SetTermios (info : R56Struct) (oldCflag : U32) : R56Struct :=
  leaveCrtscts (leaveB0 (enterB0 (r56ChangeParams info) oldCflag) oldCflag) oldCflag

/-- `r56_set_txidle`. The first mapping is of the old idle mode. -/
def r56SetTxidle (info : R56Struct) (idleMode : Nat) : R56Struct :=
  let u := programIdleMode info.usc (idleModeBits info.idleMode)
  let info := { info with idleMode := idleMode }
  { info with usc := uscSetTxidle info u }

/-- `tiocmset`, for the two output signals. -/
def tiocmset (info : R56Struct) (set clear : U8) : R56Struct :=
  let outputs := serialSignalRts + serialSignalDtr
  uscSetSerialSignals { info with
    serialSignals := (info.serialSignals ||| (set &&& outputs)) &&& ~~~(clear &&& outputs) }

/-- `dtr_rts`. -/
def dtrRts (info : R56Struct) (on : Bool) : R56Struct :=
  let outputs := serialSignalRts + serialSignalDtr
  uscSetSerialSignals { info with
    serialSignals := if on then info.serialSignals ||| outputs else info.serialSignals &&& ~~~outputs }

/-- `r56_break`. -/
def r56Break (info : R56Struct) (on : Bool) : R56Struct :=
  let iocr := uscInReg info.usc .iocr
  { info with usc := uscOutReg info.usc .iocr (if on then iocr ||| bit7 else iocr &&& ~~~bit7) }

end Route56
