import Route56.Frame
import Route56.Lib.Transition

namespace Route56

/-- What the chip shows an interrupt: its status registers and the readings of
its two FIFOs. -/
structure UscReport where
  status : Reg → U16
  txFifo : List Nat := []
  rxFifo : List (U8 × U16) := []

def R56Struct.reporting (info : R56Struct) (report : UscReport) : R56Struct :=
  { info with usc := { info.usc with
      status := report.status, txFifo := report.txFifo, rxFifo := report.rxFifo } }

/-- The operations, each from taking the lock to releasing it. `flow` and `reception` are not the driver's: the tty
layer sets its two flow control flags, the chip writes to the receive ring. -/
inductive Op
  | write (buf : Nat → U8) (count : Nat)
  | putChar (ch : U8)
  | flushChars
  | flushBuffer
  | stop
  | start
  | sendXchar (ch : U8)
  | throttle
  | unthrottle
  | txenable (enable : Bool)
  | rxenable (enable : Bool)
  | txabort
  | loopmodeSendDone
  | setParams (newParams : R56Params)
  | setTermios (cCflag cIflag : U32) (baudRate : Nat)
  | setTxidle (idleMode : Nat)
  | tiocmset (set clear : U8)
  | dtrRts (on : Bool)
  | setBreak (on : Bool)
  | interrupt (report : UscReport)
  | bhReceive
  | bhTransmit
  | bhStatus
  | txTimeout
  | flow (stopped hwStopped : Bool)
  | reception (list : Nat → DmaBufferEntry) (rxDma : RxDma)

/-- The state after an operation. Only `r56_bh_receive` has a loop of its own. -/
def exec (info : R56Struct) : Op → Option R56Struct
  | .write buf count => some (r56Write info buf count).1
  | .putChar ch => some (r56PutChar info ch).1
  | .flushChars => some (r56FlushChars info)
  | .flushBuffer => some (r56FlushBuffer info)
  | .stop => some (r56Stop info)
  | .start => some (r56Start info)
  | .sendXchar ch => some (r56SendXchar info ch)
  | .throttle => some (r56Throttle info)
  | .unthrottle => some (r56Unthrottle info)
  | .txenable enable => some (r56Txenable info enable)
  | .rxenable enable => some (r56Rxenable info enable)
  | .txabort => some (r56Txabort info)
  | .loopmodeSendDone => some (r56LoopmodeSendDone info)
  | .setParams newParams => some (r56SetParams info newParams)
  | .setTermios cCflag cIflag baudRate =>
    some (r56SetTermios { info with
      tty := { info.tty with cCflag := cCflag, cIflag := cIflag, baudRate := baudRate } } info.tty.cCflag)
  | .setTxidle idleMode => some (r56SetTxidle info idleMode)
  | .tiocmset set clear => some (tiocmset info set clear)
  | .dtrRts on => some (dtrRts info on)
  | .setBreak on => some (r56Break info on)
  | .interrupt report => some (r56Interrupt (info.reporting report))
  | .bhReceive => r56BhReceive info
  | .bhTransmit => some (r56BhTransmit info)
  | .bhStatus => some (r56BhStatus info)
  | .txTimeout => some (r56TxTimeout info)
  | .flow stopped hwStopped =>
    some { info with tty := { info.tty with stopped := stopped, hwStopped := hwStopped } }
  | .reception list rxDma =>
    some { info with rxBufferList := list, usc := { info.usc with rxDma := rxDma } }

/-- A step of the driver. The timeout comes only while the timer is pending. -/
def Step (info : R56Struct) (op : Op) (after : R56Struct) : Prop :=
  exec info op = some after ∧ (op = .txTimeout → info.txTimer = true)

/-- A port opened for reading and writing with the default parameters and one
page for each of the two rings: what `r56_open` leaves after `startup`. -/
def openedDevice : R56Struct :=
  r56ChangeParams { r56AllocateDevice with
    port := { initialized := true, count := 1, tty := true }
    tty := { cCflag := cs8 ||| cread ||| clocal ||| 0x0d }
    xmitBufPtr := true, irqRequested := true
    rxBufferCount := 1, rxBufferListPtr := true, intermediateRxbufferPtr := true
    txBufferCount := 1 }

/-- The interrupt by which the chip reports the end of a frame. -/
def frameSent : UscReport where
  status reg := if reg = .ivr then 0x0800 else if reg = .tcsr then txstatusEofSent else 0

end Route56
