import Route56.Header

namespace Route56

/-- The registers the driver addresses (`z16c32.h`). -/
inductive Reg
  | data | bcr | ccar | cmr | ccsr | ccr | pcr | tmdr | tmcr | cmcr | hcr | ivr | iocr | icr | dccr | misr
  | sicr | rmr | rcsr | ricr | rsr | rclr | tc0r | tmr | tcsr | ticr | tsr | tclr | tc1r
  | dcar | tdmr | dcr | bdcr | divr | dicr | cdir | tdiar | tbcr | ntarl | ntaru
  | rdmr | rdiar | nrarl | nraru
  deriving DecidableEq, Repr

/-- Registers that read back what the chip reports, not what was written. -/
def Reg.volatile : Reg → Bool
  | .ccsr | .tmdr | .ivr | .misr | .rcsr | .tcsr | .ticr | .divr | .tdmr | .rdmr => true
  | _ => false

/-- The receive DMA channel. `pos` is the ring entry it uses or will use next,
`start` the entry in which the frame being received began, `frame` the bytes
stored for that frame so far and `fill` how many of them are in entry `pos`. -/
structure RxDma where
  pos : Nat := 0
  start : Nat := 0
  inUse : Bool := false
  fill : Nat := 0
  frame : List U8 := []

/-- The channel told to begin at a ring entry. -/
def RxDma.init (entry : Nat) : RxDma := { pos := entry, start := entry }

/-- The channel stopped: what it has stored of a frame is given up. -/
def RxDma.reset (ch : RxDma) : RxDma := { ch with inUse := false, fill := 0, frame := [] }

/-- The transmit DMA channel. `pos` is the ring entry it will fetch next. -/
structure TxDma where
  pos : Nat := 0
  running : Bool := false

/-- The chip and the shadow words of `r56_struct` that are copies of chip state.
`nrar` and `ntar` are the ring entries whose physical addresses the next
receive and transmit address registers hold. `txFifo` and `rxFifo` are what
successive readings of the two FIFOs will return, `pcrWrites` all values written to
the Port Control Register. -/
structure Usc where
  reg : Reg → U16 := fun _ => 0
  status : Reg → U16 := fun _ => 0
  port : Nat → U8 := fun _ => 0
  txFifo : List Nat := []
  rxFifo : List (U8 × U16) := []
  nrar : Nat := 0
  ntar : Nat := 0
  rxDma : RxDma := {}
  txDma : TxDma := {}
  pcrWrites : List U16 := []
  cmrValue : U16 := 0
  tcsrValue : U16 := 0
  mbreBit : U16 := 0
  loopbackBits : U16 := 0
  uscIdleMode : U16 := 0

def uscOutReg (u : Usc) (r : Reg) (value : U16) : Usc :=
  { u with
    reg := Function.update u.reg r value
    pcrWrites := if r = .pcr then u.pcrWrites ++ [value] else u.pcrWrites }

def uscInReg (u : Usc) (r : Reg) : U16 := if r.volatile then u.status r else u.reg r

def uscOutDmaReg (u : Usc) (r : Reg) (value : U16) : Usc := uscOutReg u r value

def uscInDmaReg (u : Usc) (r : Reg) : U16 := uscInReg u r

/-- `outb` to `io_base + offset`. -/
def outb (u : Usc) (value : U8) (offset : Nat) : Usc := { u with port := Function.update u.port offset value }

def uscRTCmd (u : Usc) (cmd : U16) : Usc := uscOutReg u .ccar (cmd + u.loopbackBits)

/-- What a DMA command does to the receive channel. -/
def RxDma.command (ch : RxDma) (nrar : Nat) (cmd : U16) : RxDma :=
  if cmd = dmaCmdInitRxChannel then .init nrar
  else if cmd = dmaCmdResetRxChannel ∨ cmd = dmaCmdResetAllChannels then ch.reset
  else ch

/-- What a DMA command does to the transmit channel. -/
def TxDma.command (ch : TxDma) (ntar : Nat) (cmd : U16) : TxDma :=
  if cmd = dmaCmdInitTxChannel then { pos := ntar, running := true }
  else if cmd = dmaCmdResetTxChannel ∨ cmd = dmaCmdResetAllChannels then { ch with running := false }
  else ch

def uscDmaCmd (u : Usc) (cmd : U16) : Usc :=
  { uscOutReg u .dcar (cmd + u.mbreBit) with
    rxDma := u.rxDma.command u.nrar cmd, txDma := u.txDma.command u.ntar cmd }

def uscTCmd (u : Usc) (cmd : U16) : Usc := uscOutReg u .tcsr (u.tcsrValue + cmd)

def uscRCmd (u : Usc) (cmd : U16) : Usc := uscOutReg u .rcsr cmd

def uscUnlatchRxstatusBits (u : Usc) (b : U16) : Usc := uscOutReg u .rcsr (b &&& rxstatusAll)

def uscUnlatchTxstatusBits (u : Usc) (b : U16) : Usc := uscOutReg u .tcsr (u.tcsrValue + (b &&& 0x00ff))

def uscUnlatchIostatusBits (u : Usc) (b : U16) : Usc := uscOutReg u .misr (b &&& 0xaaa0)

def uscUnlatchMiscstatusBits (u : Usc) (b : U16) : Usc := uscOutReg u .misr (b &&& 0x000f)

def uscEnableInterrupts (u : Usc) (b : U16) : Usc :=
  uscOutReg u .icr ((uscInReg u .icr &&& 0xff00) + 0xc0 + b)

def uscDisableInterrupts (u : Usc) (b : U16) : Usc :=
  uscOutReg u .icr ((uscInReg u .icr &&& 0xff00) + 0x80 + b)

def uscEnableMasterIrqBit (u : Usc) : Usc :=
  outb (uscOutReg u .icr ((uscInReg u .icr &&& 0x0f00) + 0xb000)) 0x40 4

def uscDisableMasterIrqBit (u : Usc) : Usc := outb (uscOutReg u .icr (uscInReg u .icr &&& 0x7f00)) 0 4

def uscClearIrqPendingBits (u : Usc) (b : U16) : Usc := uscOutReg u .dccr (0x40 + b)

def uscEnableDmaInterrupts (u : Usc) (b : U16) : Usc := uscOutDmaReg u .dicr (uscInDmaReg u .dicr ||| b)

def uscDisableDmaInterrupts (u : Usc) (b : U16) : Usc := uscOutDmaReg u .dicr (uscInDmaReg u .dicr &&& ~~~b)

def uscEnableStatusIrqs (u : Usc) (b : U16) : Usc := uscOutReg u .sicr (uscInReg u .sicr ||| b)

def uscDisablestatusIrqs (u : Usc) (b : U16) : Usc := uscOutReg u .sicr (uscInReg u .sicr &&& ~~~b)

def uscEnableTransmitter (u : Usc) (b : U16) : Usc := uscOutReg u .tmr ((uscInReg u .tmr &&& 0xfffc) ||| b)

def uscEnableReceiver (u : Usc) (b : U16) : Usc := uscOutReg u .rmr ((uscInReg u .rmr &&& 0xfffc) ||| b)

def uscSetTransmitSyncChars (u : Usc) (s0 s1 : U8) : Usc :=
  uscOutReg u .tsr ((s0.setWidth 16 <<< 8) ||| s1.setWidth 16)

/-- Load NRARL and NRARU with the physical address of a receive ring entry. -/
def programNrar (u : Usc) (entry : Nat) (physAddr : U32) : Usc :=
  { uscOutDmaReg (uscOutDmaReg u .nrarl (physAddr.setWidth 16)) .nraru ((physAddr >>> 16).setWidth 16) with
    nrar := entry }

/-- Load NTARL and NTARU with the physical address of a transmit ring entry. -/
def programNtar (u : Usc) (entry : Nat) (physAddr : U32) : Usc :=
  { uscOutDmaReg (uscOutDmaReg u .ntarl (physAddr.setWidth 16)) .ntaru ((physAddr >>> 16).setWidth 16) with
    ntar := entry }

@[simp] theorem uscOutReg_rxDma (u : Usc) (r : Reg) (v : U16) : (uscOutReg u r v).rxDma = u.rxDma := rfl

end Route56
