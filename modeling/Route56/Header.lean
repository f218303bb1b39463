import Mathlib.Tactic

namespace Route56

abbrev U8 := BitVec 8
abbrev U16 := BitVec 16
abbrev U32 := BitVec 32

def bit0 : U16 := 0x0001
def bit1 : U16 := 0x0002
def bit2 : U16 := 0x0004
def bit3 : U16 := 0x0008
def bit4 : U16 := 0x0010
def bit5 : U16 := 0x0020
def bit6 : U16 := 0x0040
def bit7 : U16 := 0x0080
def bit8 : U16 := 0x0100
def bit9 : U16 := 0x0200
def bit10 : U16 := 0x0400
def bit11 : U16 := 0x0800
def bit12 : U16 := 0x1000
def bit13 : U16 := 0x2000
def bit14 : U16 := 0x4000
def bit15 : U16 := 0x8000

def dmaBufferSize : Nat := 4096
def serialXmitSize : Nat := 4096
def hdlcMaxFrameSize : Nat := 65535
def maxTxHoldingBuffers : Nat := 5
def maxRxFrames : Nat := 7
def maxTotalDevices : Nat := 20
def rclrValue : Nat := 0xffff
def pciLoadInterval : Nat := 64
def wakeupChars : Nat := 256
def ioPinShutdownLimit : Nat := 100

def r56ModeAsync : Nat := 1
def r56ModeHdlc : Nat := 2
def r56ModeRaw : Nat := 6

def hdlcFlagUnderrunAbort15 : U16 := 0x0001
def hdlcFlagUnderrunFlag : U16 := 0x0002
def hdlcFlagUnderrunCrc : U16 := 0x0004
def hdlcFlagTxcRxcpin : U16 := 0x0008
def hdlcFlagShareZero : U16 := 0x0010
def hdlcFlagAutoCts : U16 := 0x0020
def hdlcFlagAutoDcd : U16 := 0x0040
def hdlcFlagAutoRts : U16 := 0x0080
def hdlcFlagRxcDpll : U16 := 0x0100
def hdlcFlagRxcBrg : U16 := 0x0200
def hdlcFlagTxcDpll : U16 := 0x0400
def hdlcFlagTxcBrg : U16 := 0x0800
def hdlcFlagDpllDiv8 : U16 := 0x1000
def hdlcFlagDpllDiv16 : U16 := 0x2000
def hdlcFlagHdlcLoopmode : U16 := 0x4000
def hdlcFlagRxcTxcpin : U16 := 0x8000

def hdlcCrcNone : U16 := 0
def hdlcCrc16Ccitt : U16 := 1
def hdlcCrc32Ccitt : U16 := 2
def hdlcCrcMask : U16 := 0x00ff
def hdlcCrcReturnEx : U16 := 0x8000

def rxOk : U8 := 0
def rxCrcError : U8 := 1

def hdlcTxidleFlags : Nat := 0
def hdlcTxidleAltZerosOnes : Nat := 1
def hdlcTxidleZeros : Nat := 2
def hdlcTxidleOnes : Nat := 3
def hdlcTxidleAltMarkSpace : Nat := 4
def hdlcTxidleSpace : Nat := 5
def hdlcTxidleMark : Nat := 6

def hdlcEncodingNrz : U8 := 0
def hdlcEncodingNrzb : U8 := 1
def hdlcEncodingNrziMark : U8 := 2
def hdlcEncodingNrziSpace : U8 := 3
def hdlcEncodingBiphaseMark : U8 := 4
def hdlcEncodingBiphaseSpace : U8 := 5
def hdlcEncodingBiphaseLevel : U8 := 6
def hdlcEncodingDiffBiphaseLevel : U8 := 7

def hdlcPreambleLength16bits : U8 := 1
def hdlcPreambleLength32bits : U8 := 2
def hdlcPreambleLength64bits : U8 := 3

def hdlcPreamblePatternNone : U8 := 0
def hdlcPreamblePatternFlags : U8 := 2
def hdlcPreamblePattern10 : U8 := 3
def hdlcPreamblePattern01 : U8 := 4
def hdlcPreamblePatternOnes : U8 := 5

def asyncParityNone : U8 := 0
def asyncParityEven : U8 := 1
def asyncParityOdd : U8 := 2
def asyncParitySpace : U8 := 3

def rs232 : U8 := 0x02
def rs485Term : U8 := 0x04
def rs485Noterm : U8 := 0x05
def rs530 : U8 := 0x0d
def r56InterfaceMask : U8 := 0x0f
def r56InterfaceNe : U8 := 0x80

def r561DeviceId : Nat := 0x5101
def r565DeviceId : Nat := 0x5105

def r56PciXtalSpeed : Nat := 20000000
def r56IsaXtalSpeed : Nat := 14745600

def serialSignalDcd : U8 := 0x01
def serialSignalRi : U8 := 0x04
def serialSignalCts : U8 := 0x10
def serialSignalRts : U8 := 0x20
def serialSignalDsr : U8 := 0x40
def serialSignalDtr : U8 := 0x80

def bhReceive : U32 := 1
def bhTransmit : U32 := 2
def bhStatus : U32 := 4

def receiveStatus : U16 := bit5
def receiveData : U16 := bit4
def transmitStatus : U16 := bit3
def transmitData : U16 := bit2
def ioPin : U16 := bit1
def misc : U16 := bit0

def rxstatusShortFrame : U16 := bit8
def rxstatusExitedHunt : U16 := bit7
def rxstatusIdleReceived : U16 := bit6
def rxstatusBreakReceived : U16 := bit5
def rxstatusAbortReceived : U16 := bit5
def rxstatusCrcError : U16 := bit3
def rxstatusFramingError : U16 := bit3
def rxstatusAbort : U16 := bit2
def rxstatusParityError : U16 := bit2
def rxstatusOverrun : U16 := bit1
def rxstatusAll : U16 := 0x01f6

def idlemodeFlags : U16 := 0x0000
def idlemodeAltOneZero : U16 := 0x0100
def idlemodeZero : U16 := 0x0200
def idlemodeOne : U16 := 0x0300
def idlemodeAltMarkSpace : U16 := 0x0500
def idlemodeSpace : U16 := 0x0600
def idlemodeMark : U16 := 0x0700
def idlemodeMask : U16 := 0x0700
def iuscPreSl1660 : U16 := 0x4553
def tcsrUnderwait : U16 := bit11

def txstatusAbortSent : U16 := bit5
def txstatusEofSent : U16 := bit4
def txstatusUnderrun : U16 := bit1
def txstatusAll : U16 := 0x00fa

def miscstatusTxcLatched : U16 := bit13
def miscstatusRiLatched : U16 := bit11
def miscstatusRi : U16 := bit10
def miscstatusDsrLatched : U16 := bit9
def miscstatusDsr : U16 := bit8
def miscstatusDcdLatched : U16 := bit7
def miscstatusDcd : U16 := bit6
def miscstatusCtsLatched : U16 := bit5
def miscstatusCts : U16 := bit4
def miscstatusRccUnderrun : U16 := bit3

def sicrTxc : U16 := bit13 + bit12
def sicrRi : U16 := bit11 + bit10
def sicrDsr : U16 := bit9 + bit8
def sicrDcd : U16 := bit7 + bit6
def sicrCts : U16 := bit5 + bit4
def sicrCtsInactive : U16 := bit4

def dicrMaster : U16 := bit15
def dicrTransmit : U16 := bit0
def dicrReceive : U16 := bit1

def rtCmdPurgeRxFifo : U16 := 0x4800
def rtCmdPurgeTxFifo : U16 := 0x5000
def rtCmdSelectLittleEndian : U16 := 0xb800

def dmaCmdResetTxChannel : U16 := 0x1000
def dmaCmdResetRxChannel : U16 := 0x1200
def dmaCmdPauseRxChannel : U16 := 0x4200
def dmaCmdInitTxChannel : U16 := 0x7000
def dmaCmdInitRxChannel : U16 := 0x7200
def dmaCmdResetAllChannels : U16 := 0x9000

def tCmdSelectTicrTxFifostatus : U16 := 0x5000
def tCmdSelectTicrIntLevel : U16 := 0x6000
def tCmdSelectTicrdmaLevel : U16 := 0x7000
def tCmdSendFrame : U16 := 0x8000
def tCmdSendAbort : U16 := 0x9000

def rCmdEnterHuntmode : U16 := 0x3000
def rCmdSelectRicrRxFifostatus : U16 := 0x5000
def rCmdSelectRicrIntLevel : U16 := 0x6000
def rCmdSelectRicrdmaLevel : U16 := 0x7000

def disableUnconditional : U16 := 0
def enableUnconditional : U16 := 2
def enableAutoCts : U16 := 3
def enableAutoDcd : U16 := 3

/-- Select the low byte of the addressed data register. -/
def lsbOnly : U16 := 0x40
/-- Addresses of the data registers as they are written into CCAR. -/
def rdrAddress : U16 := 0xa0
def tdrAddress : U16 := 0xb0

def cbaud : U32 := 0x0000100f
def csize : U32 := 0x00000030
def cs5 : U32 := 0x00000000
def cs6 : U32 := 0x00000010
def cs7 : U32 := 0x00000020
def cs8 : U32 := 0x00000030
def cstopb : U32 := 0x00000040
def cread : U32 := 0x00000080
def parenb : U32 := 0x00000100
def parodd : U32 := 0x00000200
def hupcl : U32 := 0x00000400
def clocal : U32 := 0x00000800
def cmspar : U32 := 0x40000000
def crtscts : U32 := 0x80000000

def ignbrk : U32 := 0x0001
def brkint : U32 := 0x0002
def ignpar : U32 := 0x0004
def parmrk : U32 := 0x0008
def inpck : U32 := 0x0010
def ixoff : U32 := 0x1000

end Route56
