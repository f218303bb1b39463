import Route56.Watchdog
import Route56.ModeAgreement
import Route56.TransmitRing
import Route56.WriteRoom
import Route56.Drained
import Route56.RawLengths
import Route56.ReceiverOff
import Route56.Lib.BitField

namespace Route56

open Transition

/-- `clock_type` of `sync_serial_settings`. -/
inductive ClockType
  | default | ext | int | txint | txfromrx
  | other (value : Nat)
  deriving DecidableEq

/-- `sync_serial_settings`. -/
structure SyncSerialSettings where
  clockType : ClockType
  clockRate : Nat
  loopback : Nat
  deriving DecidableEq

/-- The encodings of the generic HDLC layer. -/
inductive Encoding
  | nrz | nrzi | fmMark | fmSpace | manchester
  | other (value : Nat)
  deriving DecidableEq

/-- Its frame check sequences. -/
inductive Parity
  | none | crc16Pr1Ccitt | crc32Pr1Ccitt
  | other (value : Nat)
  deriving DecidableEq

inductive Errno
  | busy | inval | nobufs | perm
  deriving DecidableEq

/-- What the driver keeps in the `net_device`: whether the transmit queue is stopped, the carrier, the counters. -/
structure NetDevice where
  queueStopped : Bool := true
  carrier : Bool := true
  txPackets : Nat := 0
  txBytes : Nat := 0
  txErrors : Nat := 0
  txAbortedErrors : Nat := 0

/-- A port with its network device. -/
structure HdlcDev where
  info : R56Struct
  dev : NetDevice := {}

def hdlcFlagRxcRxcpin : U16 := 0
def hdlcFlagTxcTxcpin : U16 := 0

/-- `IF_GET_IFACE`. -/
def syncSerialSettings (params : R56Params) : SyncSerialSettings where
  clockType :=
    let flags := params.flags &&& hdlcdevClockFlags
    if flags = hdlcFlagRxcRxcpin ||| hdlcFlagTxcTxcpin then .ext
    else if flags = hdlcFlagRxcBrg ||| hdlcFlagTxcBrg then .int
    else if flags = hdlcFlagRxcRxcpin ||| hdlcFlagTxcBrg then .txint
    else if flags = hdlcFlagRxcRxcpin ||| hdlcFlagTxcRxcpin then .txfromrx
    else .default
  clockRate := params.clockSpeed
  loopback := if params.loopback ≠ 0 then 1 else 0

/-- The clock bits that a type asks for. -/
def clockTypeFlags (params : R56Params) : ClockType → Option U16
  | .ext => some (hdlcFlagRxcRxcpin ||| hdlcFlagTxcTxcpin)
  | .txfromrx => some (hdlcFlagRxcRxcpin ||| hdlcFlagTxcRxcpin)
  | .int => some (hdlcFlagRxcBrg ||| hdlcFlagTxcBrg)
  | .txint => some (hdlcFlagRxcRxcpin ||| hdlcFlagTxcBrg)
  | .default => some (params.flags &&& hdlcdevClockFlags)
  | .other _ => none

/-- The requests of `hdlcdev_ioctl`: `size` is that of the caller's buffer, `capable` whether it may configure. -/
inductive WandevRequest
  | getIface (size : Nat)
  | syncSerial (capable : Bool) (newLine : SyncSerialSettings)

/-- `sizeof(sync_serial_settings)`. -/
def syncSerialSize : Nat := 12

/-- `hdlcdev_ioctl`, with the settings it returns. -/
def HdlcDev.ioctl (d : HdlcDev) : WandevRequest → HdlcDev × Except Errno (Option SyncSerialSettings)
  | .getIface size =>
    if d.info.port.count ≠ 0 then (d, .error .busy)
    else if size < syncSerialSize then (d, .error .nobufs)
    else (d, .ok (some (syncSerialSettings d.info.params)))
  | .syncSerial capable newLine =>
    if d.info.port.count ≠ 0 then (d, .error .busy)
    else if ¬capable then (d, .error .perm)
    else
      match clockTypeFlags d.info.params newLine.clockType with
      | none => (d, .error .inval)
      | some flags =>
        if newLine.loopback ≠ 0 ∧ newLine.loopback ≠ 1 then (d, .error .inval)
        else
          ({ d with info := hdlcdevIoctl d.info flags (decide (newLine.loopback = 1)) newLine.clockRate }, .ok none)

def newEncoding : Encoding → Option U8
  | .nrz => some hdlcEncodingNrz
  | .nrzi => some hdlcEncodingNrziSpace
  | .fmMark => some hdlcEncodingBiphaseMark
  | .fmSpace => some hdlcEncodingBiphaseSpace
  | .manchester => some hdlcEncodingBiphaseLevel
  | .other _ => none

def newCrctype : Parity → Option U16
  | .none => some hdlcCrcNone
  | .crc16Pr1Ccitt => some hdlcCrc16Ccitt
  | .crc32Pr1Ccitt => some hdlcCrc32Ccitt
  | .other _ => Option.none

/-- `hdlcdev_attach`. -/
def HdlcDev.attach (d : HdlcDev) (encoding : Encoding) (parity : Parity) : HdlcDev × Option Errno :=
  if d.info.port.count ≠ 0 then (d, some .busy)
  else
    match newEncoding encoding, newCrctype parity with
    | some encoding, some crcType => ({ d with info := hdlcdevAttach d.info encoding crcType }, none)
    | _, _ => (d, some .inval)

/-- `hdlcdev_xmit`. The frame of `len` bytes is in the data of the socket buffer. -/
def HdlcDev.xmit (d : HdlcDev) (skb : Nat → U8) (len : Nat) : HdlcDev where
  info := hdlcdevXmit d.info skb len
  dev := { d.dev with queueStopped := true, txPackets := d.dev.txPackets + 1, txBytes := d.dev.txBytes + len }

/-- `hdlcdev_tx_done`. -/
def HdlcDev.txDone (d : HdlcDev) : HdlcDev :=
  if d.dev.queueStopped then { d with dev := { d.dev with queueStopped := false } } else d

/-- `hdlcdev_tx_timeout`. -/
def HdlcDev.watchdog (d : HdlcDev) : HdlcDev where
  info := uscStopTransmitter d.info
  dev := { d.dev with
    queueStopped := false, txErrors := d.dev.txErrors + 1, txAbortedErrors := d.dev.txAbortedErrors + 1 }

/-- `r56_tx_timeout` with a network device. -/
def HdlcDev.txTimeout (d : HdlcDev) : HdlcDev :=
  let after := { d with info := r56TxTimeout d.info }
  if d.info.netcount ≠ 0 then after.txDone else after

/-- What `r56_isr_io_pin` tells the network layer. -/
def HdlcDev.noteCarrier (d : HdlcDev) (status : U16) : HdlcDev :=
  if d.info.netcount ≠ 0 ∧ status &&& miscstatusDcdLatched ≠ 0 then
    { d with dev := { d.dev with carrier := decide (status &&& miscstatusDcd ≠ 0) } }
  else d

/-- `r56_interrupt` with a network device: the service routines for the transmit status and for the input lines
call it. -/
def HdlcDev.interrupt (d : HdlcDev) (report : UscReport) : HdlcDev :=
  let info := d.info.reporting report
  let after := { d with info := r56Interrupt info }
  if info.uscVector = 4 ∧ info.netcount ≠ 0 then after.txDone
  else if info.uscVector = 2 then after.noteCarrier (uscInReg info.usc .misr)
  else after

/-- The statements of `hdlcdev_open` after `startup`. -/
def HdlcDev.up (d : HdlcDev) : HdlcDev :=
  let info := { d.info with serialSignals := d.info.serialSignals ||| (serialSignalRts + serialSignalDtr) }
  let info := uscGetSerialSignals (r56ProgramHw info)
  { info := info
    dev := { d.dev with queueStopped := false, carrier := decide (info.serialSignals &&& serialSignalDcd ≠ 0) } }

/-- `hdlcdev_open` of a port that is not in use, when nothing fails. -/
def HdlcDev.opened (d : HdlcDev) (adapter : DmaTestRun) (physEntry : Nat → U32) : HdlcDev :=
  HdlcDev.up { d with info := (startupTested adapter physEntry { d.info with netcount := 1 }).1 }

inductive NetEvent
  | xmit (skb : Nat → U8) (len : Nat)
  | interrupt (report : UscReport)
  | bhReceive
  | reception (list : Nat → DmaBufferEntry) (rxDma : RxDma)
  | txTimeout
  | watchdog
  | attach (encoding : Encoding) (parity : Parity)
  | ioctl (request : WandevRequest)

/-- What happens to an interface that is up. The network layer sends frames while the queue runs, of a size that the
transmit buffers hold, and its watchdog watches a stopped queue. The interrupts for transmit data and for the transmit
DMA channel are not enabled in HDLC mode. -/
def NetStep (s : HdlcDev) (event : NetEvent) (t : HdlcDev) : Prop :=
  match event with
  | .xmit skb len =>
    s.dev.queueStopped = false ∧ 0 < len ∧ len ≤ min (s.info.txBufferCount * dmaBufferSize) 65535 ∧
      t = s.xmit skb len
  | .interrupt report =>
    (s.info.reporting report).uscVector ≠ 3 ∧ ¬(s.info.reporting report).transmitDmaVector ∧ t = s.interrupt report
  | .bhReceive => ∃ after, r56BhReceive s.info = some after ∧ t = { s with info := after }
  | .reception list rxDma =>
    t = { s with info := { s.info with rxBufferList := list, usc := { s.info.usc with rxDma := rxDma } } }
  | .txTimeout => s.info.txTimer = true ∧ t = s.txTimeout
  | .watchdog => s.dev.queueStopped = true ∧ t = s.watchdog
  | .attach encoding parity => t = (s.attach encoding parity).1
  | .ioctl request => t = (s.ioctl request).1

/-- The chip is sending this frame: the DMA channel runs from the first buffer of it, and the length counter is
loaded with its length. -/
structure Sends (info : R56Struct) (skb : Nat → U8) (len : Nat) : Prop where
  active : info.txActive = true
  watched : info.txTimer = true
  frame : info.txFrame len = Memory.read skb 0 len
  length : (uscInReg info.usc .tclr).toNat = len
  channel : info.usc.txDma = { pos := info.startTxDmaBuffer, running := true }

/-- The queue is stopped although nothing is being sent. -/
def HdlcDev.stalled (d : HdlcDev) : Prop := d.dev.queueStopped = true ∧ d.info.txActive = false

/-- The request reprograms the chip. -/
def NetEvent.reprograms : NetEvent → Prop
  | .attach _ _ => True
  | .ioctl (.syncSerial _ _) => True
  | _ => False

/-- A frame finds the transmitter idle and is sent at once, and only reprogramming the chip leaves the queue stopped
with nothing being sent. -/
def NetRight (s : HdlcDev) (event : NetEvent) (t : HdlcDev) : Prop :=
  (∀ skb len, event = .xmit skb len → s.info.txActive = false ∧ Sends t.info skb len) ∧
    (t.stalled → s.stalled ∨ event.reprograms)

/-- The queue runs only while nothing is being sent, and a transmission has its timer pending. -/
structure NetWatched (d : HdlcDev) : Prop where
  idle : d.dev.queueStopped = false → d.info.txActive = false
  timer : d.info.txTimer = d.info.txActive

/-- The transmissions that have ended. -/
def R56Icount.txDone (ic : R56Icount) : U32 := ic.txok + ic.txunder + ic.txabort + ic.txtimeout

/-- The frames that were accepted and are neither counted as ended or given up nor on their way. -/
def HdlcDev.balance (d : HdlcDev) : U32 :=
  BitVec.ofNat 32 d.dev.txPackets - d.info.icount.txDone - BitVec.ofNat 32 d.dev.txAbortedErrors -
    if d.dev.queueStopped then 1 else 0

/-- An interrupt that reports an end of transmission although the queue runs. -/
def lateStatus (s : HdlcDev) : NetEvent → U32
  | .interrupt report => if (s.info.reporting report).uscVector = 4 ∧ s.dev.queueStopped = false then 1 else 0
  | _ => 0

def lateStatuses : HdlcDev → List (NetEvent × HdlcDev) → U32
  | _, [] => 0
  | s, (event, t) :: rest => lateStatus s event + lateStatuses t rest

structure NetUp (d : HdlcDev) : Prop where
  mode : d.info.params.mode = r56ModeHdlc
  net : d.info.netcount ≠ 0
  ctsFlow : d.info.port.ctsFlow = false
  inside : d.info.currentTxBuffer < d.info.txBufferCount
  watched : NetWatched d

/-- What the transmit side of an interface is made of. -/
structure NetTransmit where
  mode : Nat
  net : Nat
  ctsFlow : Bool
  currentTxBuffer : Nat
  txBufferCount : Nat
  active : Bool
  timer : Bool
  done : U32

def R56Struct.netTransmit (info : R56Struct) : NetTransmit where
  mode := info.params.mode
  net := info.netcount
  ctsFlow := info.port.ctsFlow
  currentTxBuffer := info.currentTxBuffer
  txBufferCount := info.txBufferCount
  active := info.txActive
  timer := info.txTimer
  done := info.icount.txDone

/-- A step that keeps the transmit side and the queue. -/
theorem netUp_of_eq {s t : HdlcDev} (same : t.info.netTransmit = s.info.netTransmit)
    (queue : t.dev.queueStopped = s.dev.queueStopped) (up : NetUp s) : NetUp t := by
  have mode : t.info.params.mode = s.info.params.mode := congrArg (·.mode) same
  have net : t.info.netcount = s.info.netcount := congrArg (·.net) same
  have ctsFlow : t.info.port.ctsFlow = s.info.port.ctsFlow := congrArg (·.ctsFlow) same
  have current : t.info.currentTxBuffer = s.info.currentTxBuffer := congrArg (·.currentTxBuffer) same
  have count : t.info.txBufferCount = s.info.txBufferCount := congrArg (·.txBufferCount) same
  have active : t.info.txActive = s.info.txActive := congrArg (·.active) same
  have timer : t.info.txTimer = s.info.txTimer := congrArg (·.timer) same
  refine ⟨mode.trans up.mode, net ▸ up.net, ctsFlow.trans up.ctsFlow, ?_, fun runs => ?_, ?_⟩
  · rw [current, count]
    exact up.inside
  · rw [active]
    exact up.watched.idle (queue ▸ runs)
  · rw [timer, active]
    exact up.watched.timer

theorem uscStartReceiver_netTransmit (info : R56Struct) :
    (uscStartReceiver info).netTransmit = info.netTransmit := rfl

theorem countBadFrame_netTransmit (info : R56Struct) (status : U16) :
    (countBadFrame info status).netTransmit = info.netTransmit := by
  have counted : (countRxError info.icount status).txDone = info.icount.txDone := by
    unfold countRxError
    split
    · rfl
    split
    · rfl
    split
    · rfl
    · rfl
  unfold countBadFrame
  split
  · simp only [R56Struct.netTransmit, counted]
  · rfl

theorem passRxFrame_netTransmit (info : R56Struct) (status : U16) (data : List U8) :
    (passRxFrame info status data).netTransmit = info.netTransmit := by
  unfold passRxFrame
  dsimp only
  split
  · split
    · rfl
    · rfl
  · split
    · rfl
    · rfl

theorem deliverRxFrame_netTransmit (info : R56Struct) (startIndex endIndex : Nat) :
    (deliverRxFrame info startIndex endIndex).netTransmit = info.netTransmit := by
  have counted := countBadFrame_netTransmit info (info.rxBufferList endIndex).status
  unfold deliverRxFrame
  dsimp only
  split
  · exact counted
  split
  · exact counted
  · exact (passRxFrame_netTransmit _ _ _).trans counted

theorem deliverRawFrame_netTransmit (info : R56Struct) (index : Nat) :
    (deliverRawFrame info index).netTransmit = info.netTransmit := by
  have counted := countBadFrame_netTransmit info (info.rxBufferList index).status
  unfold deliverRawFrame
  dsimp only
  split
  · exact counted
  · exact counted

theorem restartOnOverflow_netTransmit (info : R56Struct) (index : Nat) :
    (restartOnOverflow info index).netTransmit = info.netTransmit := by
  unfold restartOnOverflow
  split
  · split
    · exact uscStartReceiver_netTransmit info
    · rfl
  · rfl

theorem getRxFrame_netTransmit (mode info : R56Struct) :
    (getRxFrame mode info).1.netTransmit = info.netTransmit := by
  have freed (s : R56Struct) (startIndex endIndex : Nat) :
      (r56FreeRxFrameBuffers s startIndex endIndex).netTransmit = s.netTransmit := rfl
  unfold getRxFrame
  split
  · unfold r56GetRxFrame
    dsimp only
    split
    · exact (restartOnOverflow_netTransmit _ _).trans ((freed _ _ _).trans (deliverRxFrame_netTransmit _ _ _))
    · exact restartOnOverflow_netTransmit _ _
    · refine (restartOnOverflow_netTransmit _ _).trans ?_
      split
      · exact uscStartReceiver_netTransmit info
      · rfl
  · unfold r56GetRawRxFrame
    dsimp only
    split
    · exact (restartOnOverflow_netTransmit _ _).trans ((freed _ _ _).trans (deliverRawFrame_netTransmit _ _))
    · exact restartOnOverflow_netTransmit _ _

/-- The bottom half leaves the transmit side alone. -/
theorem r56BhReceive_netTransmit {info after : R56Struct} (returned : r56BhReceive info = some after) :
    after.netTransmit = info.netTransmit := by
  have loop (mode : R56Struct) (fuel : Nat) (s : R56Struct)
      (ends : r56BhReceiveLoop (getRxFrame mode) fuel s = some after) : after.netTransmit = s.netTransmit := by
    induction fuel generalizing s with
    | zero => exact absurd ends (by simp [r56BhReceiveLoop])
    | succ fuel ih =>
      rw [r56BhReceiveLoop] at ends
      split at ends
      · exact Option.some.inj ends ▸ uscStartReceiver_netTransmit s
      split at ends
      · exact (ih _ ends).trans (getRxFrame_netTransmit mode s)
      · exact Option.some.inj ends ▸ getRxFrame_netTransmit mode s
  exact loop info _ info returned

theorem uscProcessRxoverrunSync_netTransmit (info : R56Struct) :
    (uscProcessRxoverrunSync info).netTransmit = info.netTransmit := by
  have discard : (overrunDiscard info).1.netTransmit = info.netTransmit := by
    unfold overrunDiscard
    dsimp only
    split
    · rfl
    split
    · rfl
    · rfl
  unfold uscProcessRxoverrunSync
  dsimp only
  split
  · exact discard
  · exact discard

theorem r56IsrReceiveStatus_netTransmit (info : R56Struct) :
    (r56IsrReceiveStatus info).netTransmit = info.netTransmit := by
  have inserted (status : U16) : (completeInsertion info status).netTransmit = info.netTransmit := by
    unfold completeInsertion
    split
    · rfl
    · rfl
  have recovered (s : R56Struct) (status : U16) : (recoverOverrun s status).netTransmit = s.netTransmit := by
    unfold recoverOverrun
    split
    · exact uscProcessRxoverrunSync_netTransmit _
    · rfl
  have counted (s : R56Struct) (status : U16) :
      ({ s with icount := countRxEvents s.icount status } : R56Struct).netTransmit = s.netTransmit := rfl
  exact (recovered _ _).trans ((counted _ _).trans (inserted _))

theorem r56IsrIoPin_netTransmit {info : R56Struct} (ctsFlow : info.port.ctsFlow = false) :
    (r56IsrIoPin info).netTransmit = info.netTransmit := by
  have ri (s : R56Struct) (status : U16) : (countRi s status).netTransmit = s.netTransmit := by
    unfold countRi
    split <;> rfl
  have dsr (s : R56Struct) (status : U16) : (countDsr s status).netTransmit = s.netTransmit := by
    unfold countDsr
    split <;> rfl
  have dcd (s : R56Struct) (status : U16) : (countDcd s status).netTransmit = s.netTransmit := by
    unfold countDcd
    split <;> rfl
  have cts (s : R56Struct) (status : U16) : (countCts s status).netTransmit = s.netTransmit := by
    unfold countCts
    split <;> rfl
  have counted (s : R56Struct) (status : U16) : (countIoPins s status).netTransmit = s.netTransmit :=
    (cts _ _).trans ((dcd _ _).trans ((dsr _ _).trans (ri _ _)))
  have done (s : R56Struct) (status : U16) : (ioPinDone s status).netTransmit = s.netTransmit := by
    unfold ioPinDone
    dsimp only
    split
    · rfl
    · rfl
  unfold r56IsrIoPin serviceIoPins
  dsimp only
  split
  · rw [if_neg]
    · exact (done _ _).trans (counted _ _)
    · rintro ⟨flow, _⟩
      have same := congrArg (·.ctsFlow) (counted { info with
        usc := uscUnlatchIostatusBits (uscClearIrqPendingBits info.usc ioPin) (uscInReg info.usc .misr) }
        (uscInReg info.usc .misr))
      exact Bool.false_ne_true (ctsFlow.symm.trans (same.symm.trans flow))
  · exact done _ _

theorem r56IsrReceiveData_netTransmit (info : R56Struct) :
    (r56IsrReceiveData info).netTransmit = info.netTransmit := by
  have insert (s : R56Struct) (dataByte : U8) (status : U16) (flag : Nat) :
      (insertChar s dataByte status flag).1.netTransmit = s.netTransmit := by
    unfold insertChar
    dsimp only
    split
    · rfl
    · rfl
  have error (ic : R56Icount) (status : U16) : (countCharError ic status).txDone = ic.txDone := by
    unfold countCharError
    split
    · rfl
    split
    · rfl
    split
    · rfl
    split
    · rfl
    · rfl
  have bad (s : R56Struct) (dataByte : U8) (status : U16) :
      (receiveBadChar s dataByte status).1.netTransmit = s.netTransmit := by
    have counted (u : Usc) :
        ({ s with usc := u, icount := countCharError s.icount status } : R56Struct).netTransmit = s.netTransmit := by
      simp only [R56Struct.netTransmit, error]
    unfold receiveBadChar
    dsimp only
    split
    · exact counted _
    · exact (insert _ _ _ _).trans (counted _)
  have char (s : R56Struct) (dataByte : U8) (status : U16) :
      (receiveChar s dataByte status).1.netTransmit = s.netTransmit := by
    unfold receiveChar
    dsimp only
    split
    · exact bad _ _ _
    · exact insert _ _ _ _
  have loop (chars : List (U8 × U16)) (s : R56Struct) (work : Nat) :
      (receiveChars chars s work).1.netTransmit = s.netTransmit := by
    induction chars generalizing s work with
    | nil => rfl
    | cons first rest ih => exact (ih _ _).trans (char s first.1 first.2)
  unfold r56IsrReceiveData
  dsimp only
  split
  · exact loop _ _ _
  · exact loop _ _ _

/-- The end of a transmission that the chip reports. -/
theorem r56IsrTransmitStatus_netTransmit {info : R56Struct} (net : info.netcount ≠ 0) :
    (r56IsrTransmitStatus info).netTransmit =
      { info.netTransmit with active := false, timer := false, done := info.netTransmit.done + 1 } := by
  have counted (ic : R56Icount) (status : U16) : (countTxStatus ic status).txDone = ic.txDone + 1 := by
    unfold countTxStatus R56Icount.txDone
    split
    · bv_omega
    split
    · bv_omega
    split
    · bv_omega
    · bv_omega
  have acked (status : U16) : (ackTxStatus info status).netTransmit =
      { info.netTransmit with active := false, timer := false, done := info.netTransmit.done + 1 } := by
    unfold ackTxStatus
    dsimp only
    simp only [R56Struct.netTransmit, endTransmission, counted]
  have dropped (s : R56Struct) : (dropAutoRts s).netTransmit = s.netTransmit := by
    unfold dropAutoRts negateRts
    split
    · split
      · rfl
      · rfl
    · rfl
  have whole := (dropped _).trans (acked (uscInReg info.usc .tcsr))
  have up : (dropAutoRts (ackTxStatus info (uscInReg info.usc .tcsr))).netcount ≠ 0 := by
    have same := congrArg (·.net) whole
    exact fun down => net (same.symm.trans down)
  unfold r56IsrTransmitStatus
  dsimp only
  rw [if_pos up]
  exact whole

theorem r56Interrupt_netTransmit (info : R56Struct) :
    (r56Interrupt info).netTransmit = (serviceInterrupt info).netTransmit := by
  have scheduled (s : R56Struct) : (scheduleBh s).netTransmit = s.netTransmit := by
    unfold scheduleBh
    split
    · rfl
    · rfl
  have halted (s : R56Struct) : (haltOnOverflow s).netTransmit = s.netTransmit := by
    unfold haltOnOverflow
    split
    · rfl
    · rfl
  exact (scheduled _).trans (halted _)

/-- Of the interrupts that are enabled only one is about the transmitter. -/
theorem serviceInterrupt_netTransmit {info : R56Struct} (ctsFlow : info.port.ctsFlow = false)
    (data : info.uscVector ≠ 3) (status : info.uscVector ≠ 4) (dma : ¬info.transmitDmaVector) :
    (serviceInterrupt info).netTransmit = info.netTransmit := by
  have served := serviceInterrupt_serviced info
  generalize serviceInterrupt info = after at served ⊢
  cases served with
  | transmitDma vector channel => exact absurd ⟨vector, channel⟩ dma
  | receiveDma =>
    unfold r56IsrReceiveDma
    dsimp only
    split
    · rfl
    · rfl
  | misc =>
    unfold r56IsrMisc haltOnRccUnderrun
    dsimp only
    split
    · rfl
    · rfl
  | ioPin => exact r56IsrIoPin_netTransmit ctsFlow
  | transmitData vector => exact absurd vector data
  | transmitStatus vector => exact absurd vector status
  | receiveData => exact r56IsrReceiveData_netTransmit info
  | receiveStatus => exact r56IsrReceiveStatus_netTransmit info
  | null => rfl

theorem netTransmit_of_exceptProgramming {s t : R56Struct} (frame : t.exceptProgramming = s.exceptProgramming)
    (active : t.txActive = false) (timer : t.txTimer = false) (done : t.icount.txDone = s.icount.txDone) :
    t.netTransmit = { s.netTransmit with active := false, timer := false } := by
  have same := congrArg
    (fun r : R56Struct => { r.netTransmit with active := false, timer := false, done := s.icount.txDone }) frame
  unfold R56Struct.netTransmit at same ⊢
  rw [active, timer, done]
  exact same

theorem r56ProgramHw_netTransmit (info : R56Struct) :
    (r56ProgramHw info).netTransmit = { info.netTransmit with active := false, timer := false } := by
  have interface (s : R56Struct) : (uscSetInterface s).txTimer = s.txTimer := by
    unfold uscSetInterface
    split
    · rfl
    · rfl
  have sdlc (s : R56Struct) : (uscSetSdlcMode s).txTimer = false := interface _
  have looped (s : R56Struct) : (uscLoopbackFrame s).txTimer = false := by
    unfold uscLoopbackFrame
    dsimp only
    exact sdlc _
  have mode (s : R56Struct) : (programMode s).txTimer = false := by
    unfold programMode
    split
    · have programmed := sdlc (uscLoopbackFrame s)
      unfold uscSetSyncMode
      generalize uscSetSdlcMode (uscLoopbackFrame s) = after at programmed ⊢
      exact programmed
    · unfold uscSetAsyncMode
      refine (interface _).trans ?_
      exact looped _
  have counts (s : R56Struct) : (programMode s).icount = s.icount := by
    unfold programMode
    split
    · exact congrArg (·.icount) (uscSetSyncMode_frame s)
    · exact congrArg (·.icount) (uscSetAsyncMode_frame s)
  have signals (s : R56Struct) : (programSignals s).netTransmit = s.netTransmit := rfl
  have whole : (programSignals (programMode { uscStopTransmitter (uscStopReceiver info) with
      xmitCnt := 0, xmitHead := 0, xmitTail := 0 })).netTransmit =
        (r56ProgramHw info).netTransmit := by
    unfold r56ProgramHw
    dsimp only
    split
    · exact (uscStartReceiver_netTransmit _).symm
    · rfl
  refine netTransmit_of_exceptProgramming (r56ProgramHw_frame info) (r56ProgramHw_idle info).2 ?_ ?_
  · have timer := (congrArg (·.timer) whole).symm.trans (congrArg (·.timer) (signals _))
    exact timer.trans (mode _)
  · have done := (congrArg (·.done) whole).symm.trans (congrArg (·.done) (signals _))
    exact done.trans (congrArg R56Icount.txDone (counts _))

/-- The timeout of a transmission. -/
theorem r56TxTimeout_netTransmit {info : R56Struct} (net : info.netcount ≠ 0) (mode : info.params.mode = r56ModeHdlc)
    (active : info.txActive = true) :
    (r56TxTimeout info).netTransmit =
      { info.netTransmit with active := false, timer := false, done := info.netTransmit.done + 1 } := by
  have counted : (endTransmission (countTxTimeout { info with txTimer := false })).netTransmit =
      { info.netTransmit with active := false, timer := false, done := info.netTransmit.done + 1 } := by
    unfold countTxTimeout
    rw [if_pos ⟨active, .inl mode⟩]
    have more : ({ info.icount with txtimeout := info.icount.txtimeout + 1 } : R56Icount).txDone =
        info.icount.txDone + 1 := by
      unfold R56Icount.txDone
      bv_omega
    simp only [R56Struct.netTransmit, endTransmission, more]
  have cancelled (s : R56Struct) : (cancelLoopmodeTransmit s).netTransmit = s.netTransmit := by
    unfold cancelLoopmodeTransmit
    split
    · rfl
    · rfl
  have whole := (cancelled _).trans counted
  have up :
      (cancelLoopmodeTransmit (endTransmission (countTxTimeout { info with txTimer := false }))).netcount ≠ 0 := by
    have same := congrArg (·.net) whole
    exact fun down => net (same.symm.trans down)
  unfold r56TxTimeout
  dsimp only
  rw [if_pos up]
  exact whole

/-- An HDLC port with something to send starts the DMA channel. -/
theorem uscStartTransmitter_hdlc {info : R56Struct} (mode : info.params.mode = r56ModeHdlc)
    (queued : info.xmitCnt ≠ 0) :
    uscStartTransmitter info =
      enableIfDisabled { startTxDma (ignoreEcho (assertAutoRts info)) with txActive := true } := by
  have same : (ignoreEcho (assertAutoRts info)).params.mode = r56ModeHdlc :=
    (congrArg (·.params.mode) (prepareXmit_frame info)).trans mode
  have frames : ¬(ignoreEcho (assertAutoRts info)).params.mode = r56ModeAsync := by
    rw [same]
    decide
  unfold uscStartTransmitter sendXmit feedTransmitter
  rw [if_pos queued, if_neg frames]

theorem uscStartTransmitter_channel {info : R56Struct} (mode : info.params.mode = r56ModeHdlc)
    (queued : info.xmitCnt ≠ 0) :
    uscInReg (uscStartTransmitter info).usc .tclr = (info.txBufferList info.startTxDmaBuffer).rcc ∧
      (uscStartTransmitter info).usc.txDma = { pos := info.startTxDmaBuffer, running := true } := by
  have enabled (s : R56Struct) :
      uscInReg (enableIfDisabled s).usc .tclr = uscInReg s.usc .tclr ∧
        (enableIfDisabled s).usc.txDma = s.usc.txDma := by
    unfold enableIfDisabled
    split
    · exact ⟨rfl, rfl⟩
    · dsimp only
      split
      · exact ⟨rfl, rfl⟩
      · exact ⟨rfl, rfl⟩
  have hdlc : (ignoreEcho (assertAutoRts info)).params.mode = r56ModeHdlc :=
    (congrArg (·.params.mode) (prepareXmit_frame info)).trans mode
  have view : (ignoreEcho (assertAutoRts info)).txView = info.txView := txView_kept.prepare info
  rw [uscStartTransmitter_hdlc mode queued]
  obtain ⟨length, channel⟩ := enabled { startTxDma (ignoreEcho (assertAutoRts info)) with txActive := true }
  generalize ignoreEcho (assertAutoRts info) = s at hdlc view length channel ⊢
  have cooked : ¬(s.params.mode = r56ModeRaw ∧ s.numTxDmaBuffers > 1) := by
    rw [hdlc]
    exact fun raw => absurd raw.1 (by decide)
  have dma : uscInReg (startTxDma s).usc .tclr = (s.txBufferList s.startTxDmaBuffer).rcc ∧
      (startTxDma s).usc.txDma = { pos := s.startTxDmaBuffer, running := true } := by
    unfold startTxDma
    dsimp only
    rw [if_neg cooked]
    exact ⟨rfl, rfl⟩
  have start : s.startTxDmaBuffer = info.startTxDmaBuffer := congrArg TxView.start view
  have list : s.txBufferList = info.txBufferList := congrArg TxView.list view
  rw [start, list] at dma
  exact ⟨length.trans dma.1, channel.trans dma.2⟩

theorem uscStartTransmitter_netTransmit {info : R56Struct} (mode : info.params.mode = r56ModeHdlc)
    (queued : info.xmitCnt ≠ 0) :
    (uscStartTransmitter info).netTransmit = { info.netTransmit with active := true, timer := true } := by
  have kept : KeptPrepare fun s t =>
      { t.netTransmit with active := true, timer := true } = { s.netTransmit with active := true, timer := true } :=
    ⟨fun _ => rfl, fun first second => second.trans first, fun _ _ => rfl, fun _ => rfl, fun _ => rfl, fun _ _ => rfl,
      fun _ => rfl, fun _ => rfl, fun _ _ => rfl⟩
  have enabled (s : R56Struct) : (enableIfDisabled s).netTransmit = s.netTransmit := by
    unfold enableIfDisabled
    split
    · rfl
    · rfl
  rw [uscStartTransmitter_hdlc mode queued, enabled]
  exact kept.prepare info

/-- A frame handed over while the transmitter is idle. -/
theorem hdlcdevXmit_idle {info : R56Struct} (idle : info.txActive = false) (skb : Nat → U8) (len : Nat) :
    hdlcdevXmit info skb len =
      uscStartTransmitter (r56LoadTxDmaBuffer { info with xmitCnt := len } .write skb len) :=
  if_neg (Bool.eq_false_iff.mp idle)

theorem hdlcdevXmit_sends {info : R56Struct} (mode : info.params.mode = r56ModeHdlc) (idle : info.txActive = false)
    (inside : info.currentTxBuffer < info.txBufferCount) (skb : Nat → U8) {len : Nat} (some : 0 < len)
    (fits : len ≤ min (info.txBufferCount * dmaBufferSize) 65535) : Sends (hdlcdevXmit info skb len) skb len := by
  obtain ⟨room, small⟩ := Nat.le_min.mp fits
  have loaded := @r56LoadTxDmaBuffer_frame { info with xmitCnt := len } .write skb len inside room
  have lengths := (@r56LoadTxDmaBuffer_loaded { info with xmitCnt := len } inside .write skb len).length
  have first := lengths info.currentTxBuffer
  have queued : (r56LoadTxDmaBuffer { info with xmitCnt := len } .write skb len).xmitCnt ≠ 0 := some.ne'
  rw [hdlcdevXmit_idle idle]
  obtain ⟨length, channel⟩ := @uscStartTransmitter_channel
    (r56LoadTxDmaBuffer { info with xmitCnt := len } .write skb len) mode queued
  have ring := @uscStartTransmitter_ring (r56LoadTxDmaBuffer { info with xmitCnt := len } .write skb len) (.inl mode)
  have begun := @uscStartTransmitter_netTransmit
    (r56LoadTxDmaBuffer { info with xmitCnt := len } .write skb len) mode queued
  refine ⟨congrArg (·.active) begun, congrArg (·.timer) begun, (ring.txFrame len).trans loaded, ?_, ?_⟩
  · rw [length]
    refine (congrArg BitVec.toNat (first.trans (if_pos rfl))).trans ?_
    exact Nat.mod_eq_of_lt (by omega)
  · rw [channel, ring.start]

theorem hdlcdevXmit_netTransmit {info : R56Struct} (mode : info.params.mode = r56ModeHdlc)
    (idle : info.txActive = false) (skb : Nat → U8) {len : Nat} (some : 0 < len) :
    (hdlcdevXmit info skb len).netTransmit = { info.netTransmit with
      active := true, timer := true
      currentTxBuffer := (r56LoadTxDmaBuffer { info with xmitCnt := len } .write skb len).currentTxBuffer } := by
  rw [hdlcdevXmit_idle idle]
  exact @uscStartTransmitter_netTransmit (r56LoadTxDmaBuffer { info with xmitCnt := len } .write skb len) mode
    some.ne'

/-- What a network device needs of its port, and where the transmit ring begins. -/
def R56Struct.netPort (info : R56Struct) : Nat × TtyPort × Nat × Nat :=
  (info.netcount, info.port, info.currentTxBuffer, info.txBufferCount)

/-- The test of the DMA channels leaves it alone. -/
theorem r56DmaTest_netPort (adapter : DmaTestRun) (info : R56Struct) :
    (r56DmaTest adapter info).1.netPort = info.netPort ∧ (r56DmaTest adapter info).1.params = info.params := by
  have sdlc (s : R56Struct) : (uscSetSdlcMode s).netPort = s.netPort :=
    (congrArg R56Struct.netPort (uscSetSdlcMode_frame s) :)
  have begun := sdlc (uscReset { info with params := defaultParams })
  have looped (s : R56Struct) :
      ({ s with usc := uscOutDmaReg (uscEnableLoopback s true s.usc) .rdmr 0xe200 } : R56Struct).netPort =
        s.netPort := rfl
  have placed (s : R56Struct) : (dmaTestBuffers s).netPort = s.netPort := rfl
  have programmed (s : R56Struct) :
      ({ s with usc := dmaTestTransmitter s (dmaTestReceiver s s.usc) } : R56Struct).netPort = s.netPort := rfl
  have sent (s : R56Struct) (sends : Bool) :
      (if sends then { s with usc := dmaTestSend s.usc } else s : R56Struct).netPort = s.netPort := by
    cases sends with
    | true => rfl
    | false => rfl
  have read (s : R56Struct) :
      ({ s with rxBufferList := Function.update s.rxBufferList 0 adapter.rxEntry } : R56Struct).netPort =
        s.netPort := rfl
  have ended (s : R56Struct) : ({ uscReset s with params := info.params } : R56Struct).netPort = s.netPort := rfl
  exact ⟨(ended _).trans ((read _).trans ((sent _ _).trans ((programmed _).trans ((placed _).trans
    ((looped _).trans begun))))), rfl⟩

/-- An interface that has just been opened. -/
theorem HdlcDev.opened_up {d : HdlcDev} (adapter : DmaTestRun) (physEntry : Nat → U32)
    (mode : d.info.params.mode = r56ModeHdlc) (tty : d.info.port.tty = false) (ctsFlow : d.info.port.ctsFlow = false)
    (frames : 0 < (countDmaBuffers d.info).txBufferCount) : NetUp (d.opened adapter physEntry) := by
  have tested := r56DmaTest_netPort adapter (r56AllocIntermediateRxbufferMemory (r56AllocBufferListMemory
    (countDmaBuffers (requestIrq (startupBegin { d.info with netcount := 1 }))) physEntry))
  unfold HdlcDev.opened startupTested
  dsimp only
  generalize (r56DmaTest adapter _).1 = s at tested ⊢
  have net : s.netcount = 1 := congrArg (·.1) tested.1
  have port : s.port = d.info.port := congrArg (·.2.1) tested.1
  have current : s.currentTxBuffer = 0 := congrArg (·.2.2.1) tested.1
  have size : s.txBufferCount = (countDmaBuffers d.info).txBufferCount := congrArg (·.2.2.2) tested.1
  have params : s.params.mode = r56ModeHdlc := (congrArg R56Params.mode tested.2).trans mode
  have same : startupEnd s = { s with port := { s.port with initialized := true } } := by
    unfold startupEnd r56ChangeParams
    rw [if_pos (by rw [port, tty]; decide)]
  rw [same]
  have programmed := r56ProgramHw_netTransmit { s with
    port := { s.port with initialized := true }
    serialSignals := s.serialSignals ||| (serialSignalRts + serialSignalDtr) }
  refine netUp_of_eq (s := ⟨{ s with txActive := false, txTimer := false }, { d.dev with queueStopped := false }⟩)
    programmed rfl ⟨params, net ▸ Nat.one_ne_zero, port ▸ ctsFlow, ?_, fun _ => rfl, rfl⟩
  rw [current, size]
  exact frames

/-- What a step of an interface that is up does. -/
structure NetKept (s : HdlcDev) (event : NetEvent) (t : HdlcDev) : Prop where
  up : NetUp t
  right : NetRight s event t
  balanced : t.balance + lateStatus s event = s.balance

namespace NetKept

variable {s t : HdlcDev} {event : NetEvent}

/-- A step that leaves the transmit side and the queue alone. -/
theorem of_eq (up : NetUp s) (other : ∀ skb len, event ≠ .xmit skb len) (late : lateStatus s event = 0)
    (same : t.info.netTransmit = s.info.netTransmit) (queue : t.dev.queueStopped = s.dev.queueStopped)
    (packets : t.dev.txPackets = s.dev.txPackets) (aborted : t.dev.txAbortedErrors = s.dev.txAbortedErrors) :
    NetKept s event t := by
  have active : t.info.txActive = s.info.txActive := congrArg (·.active) same
  have done : t.info.icount.txDone = s.info.icount.txDone := congrArg (·.done) same
  refine ⟨netUp_of_eq same queue up, ⟨fun skb len sent => absurd sent (other skb len), fun stalled => .inl ?_⟩, ?_⟩
  · exact ⟨queue ▸ stalled.1, active ▸ stalled.2⟩
  · unfold HdlcDev.balance
    rw [late, queue, packets, aborted, done]
    exact BitVec.add_zero _

/-- A step that ends a transmission and lets the queue run. -/
theorem of_ended (up : NetUp s) (other : ∀ skb len, event ≠ .xmit skb len)
    (ended : t.info.netTransmit =
      { s.info.netTransmit with active := false, timer := false, done := s.info.netTransmit.done + 1 })
    (running : t.dev.queueStopped = false) (packets : t.dev.txPackets = s.dev.txPackets)
    (aborted : t.dev.txAbortedErrors = s.dev.txAbortedErrors)
    (late : lateStatus s event = if s.dev.queueStopped then 0 else 1) : NetKept s event t := by
  have done : t.info.icount.txDone = s.info.icount.txDone + 1 := congrArg (·.done) ended
  have idle : t.info.txActive = false := congrArg (·.active) ended
  have timer : t.info.txTimer = false := congrArg (·.timer) ended
  have same : t.info.netTransmit =
      ({ s.info with txActive := t.info.txActive, txTimer := t.info.txTimer, icount := t.info.icount }
        : R56Struct).netTransmit := by
    rw [idle, timer]
    unfold R56Struct.netTransmit at ended ⊢
    rw [ended, done]
  refine ⟨netUp_of_eq (s := ⟨_, { s.dev with queueStopped := false }⟩) same running
    ⟨up.mode, up.net, up.ctsFlow, up.inside, fun _ => idle, timer.trans idle.symm⟩,
    ⟨fun skb len sent => absurd sent (other skb len), fun stalled => ?_⟩, ?_⟩
  · exact absurd (running.symm.trans stalled.1) Bool.false_ne_true
  · unfold HdlcDev.balance
    rw [late, running, packets, aborted, done]
    cases s.dev.queueStopped with
    | true =>
      simp only [if_true, Bool.false_eq_true, if_false]
      bv_omega
    | false =>
      simp only [Bool.false_eq_true, if_false]
      bv_omega

/-- A frame is handed over. -/
theorem of_xmit (up : NetUp s) (runs : s.dev.queueStopped = false) (skb : Nat → U8) {len : Nat} (some : 0 < len)
    (fits : len ≤ min (s.info.txBufferCount * dmaBufferSize) 65535) :
    NetKept s (.xmit skb len) (s.xmit skb len) := by
  have idle := up.watched.idle runs
  have sends := hdlcdevXmit_sends up.mode idle up.inside skb some fits
  have same := hdlcdevXmit_netTransmit up.mode idle skb some
  have done : (s.xmit skb len).info.icount.txDone = s.info.icount.txDone := congrArg (·.done) same
  refine ⟨⟨(congrArg (·.mode) same).trans up.mode, ?_, (congrArg (·.ctsFlow) same).trans up.ctsFlow, ?_, ?_, ?_⟩,
    ⟨?_, fun stalled => ?_⟩, ?_⟩
  · exact fun down => up.net ((congrArg (·.net) same).symm.trans down)
  · have current : (s.xmit skb len).info.currentTxBuffer =
        (r56LoadTxDmaBuffer { s.info with xmitCnt := len } .write skb len).currentTxBuffer :=
      congrArg (·.currentTxBuffer) same
    have count : (s.xmit skb len).info.txBufferCount = s.info.txBufferCount := congrArg (·.txBufferCount) same
    rw [current, count]
    exact @r56LoadTxDmaBuffer_current { s.info with xmitCnt := len } .write skb len up.inside
  · exact fun stopped => absurd stopped.symm Bool.false_ne_true
  · exact sends.watched.trans sends.active.symm
  · rintro _ _ ⟨⟩
    exact ⟨idle, sends⟩
  · exact absurd (stalled.2.symm.trans sends.active) Bool.false_ne_true
  · unfold HdlcDev.balance lateStatus
    rw [done, runs]
    simp only [HdlcDev.xmit, if_true, Bool.false_eq_true, if_false, BitVec.ofNat_add]
    bv_omega

/-- The chip is programmed again. -/
theorem of_program (up : NetUp s) (reprograms : event.reprograms) (other : ∀ skb len, event ≠ .xmit skb len)
    (late : lateStatus s event = 0) (params : R56Params) (mode : params.mode = s.info.params.mode) :
    NetKept s event { s with info := programIfUp { s.info with params := params } } := by
  have same : (programIfUp { s.info with params := params }).netTransmit =
      { s.info.netTransmit with active := false, timer := false } := by
    unfold programIfUp
    rw [if_pos up.net, r56ProgramHw_netTransmit]
    unfold R56Struct.netTransmit
    rw [mode]
  have done : (programIfUp { s.info with params := params }).icount.txDone = s.info.icount.txDone :=
    congrArg (·.done) same
  refine ⟨netUp_of_eq (s := ⟨{ s.info with txActive := false, txTimer := false }, s.dev⟩) same rfl
    ⟨up.mode, up.net, up.ctsFlow, up.inside, fun _ => rfl, rfl⟩,
    ⟨fun skb len sent => absurd sent (other skb len), fun _ => .inr reprograms⟩, ?_⟩
  unfold HdlcDev.balance
  rw [done, late]
  exact BitVec.add_zero _

/-- The watchdog of the network layer gives a frame up. -/
theorem of_watchdog (up : NetUp s) (stopped : s.dev.queueStopped = true) : NetKept s .watchdog s.watchdog := by
  refine ⟨⟨up.mode, up.net, up.ctsFlow, up.inside, fun _ => rfl, rfl⟩, ⟨nofun, fun stalled => ?_⟩, ?_⟩
  · exact absurd stalled.1 Bool.false_ne_true
  · have done : s.watchdog.info.icount.txDone = s.info.icount.txDone := rfl
    unfold HdlcDev.balance lateStatus
    rw [done, stopped]
    simp only [HdlcDev.watchdog, if_true, Bool.false_eq_true, if_false, BitVec.ofNat_add]
    bv_omega

end NetKept

/-- The network layer is told that it may send again. -/
theorem HdlcDev.txDone_dev (d : HdlcDev) :
    d.txDone.info = d.info ∧ d.txDone.dev = { d.dev with queueStopped := false } := by
  unfold HdlcDev.txDone
  split
  · exact ⟨rfl, rfl⟩
  · rename_i runs
    refine ⟨rfl, ?_⟩
    rw [← Bool.eq_false_iff.mpr runs]

theorem HdlcDev.interrupt_info (d : HdlcDev) (report : UscReport) :
    (d.interrupt report).info = r56Interrupt (d.info.reporting report) := by
  unfold HdlcDev.interrupt
  dsimp only
  split
  · exact (HdlcDev.txDone_dev _).1
  split
  · unfold HdlcDev.noteCarrier
    split
    · rfl
    · rfl
  · rfl

/-- An interrupt of an interface. -/
theorem HdlcDev.interrupt_kept {s : HdlcDev} (up : NetUp s) (report : UscReport)
    (data : (s.info.reporting report).uscVector ≠ 3) (dma : ¬(s.info.reporting report).transmitDmaVector) :
    NetKept s (.interrupt report) (s.interrupt report) := by
  have net : (s.info.reporting report).netcount ≠ 0 := up.net
  by_cases status : (s.info.reporting report).uscVector = 4
  · have served : serviceInterrupt (s.info.reporting report) = r56IsrTransmitStatus (s.info.reporting report) := by
      unfold serviceInterrupt
      dsimp only
      rw [if_pos (by rw [status]; decide), status]
      rfl
    have ended := (r56Interrupt_netTransmit (s.info.reporting report)).trans
      ((congrArg R56Struct.netTransmit served).trans (r56IsrTransmitStatus_netTransmit net))
    have same : s.interrupt report = HdlcDev.txDone { s with info := r56Interrupt (s.info.reporting report) } :=
      if_pos ⟨status, net⟩
    have dev := (HdlcDev.txDone_dev { s with info := r56Interrupt (s.info.reporting report) }).2
    rw [← same] at dev
    refine .of_ended up nofun ?_ ?_ ?_ ?_ ?_
    · rw [s.interrupt_info report]
      exact ended
    · rw [dev]
    · rw [dev]
    · rw [dev]
    · unfold lateStatus
      dsimp only
      rw [if_congr (and_iff_right status) rfl rfl]
      cases s.dev.queueStopped with
      | true => rfl
      | false => rfl
  · have kept := (r56Interrupt_netTransmit (s.info.reporting report)).trans
      (@serviceInterrupt_netTransmit (s.info.reporting report) up.ctsFlow data status dma)
    have late : lateStatus s (.interrupt report) = 0 := if_neg fun both => status both.1
    have dev : (s.interrupt report).dev = { s.dev with carrier := (s.interrupt report).dev.carrier } := by
      unfold HdlcDev.interrupt
      dsimp only
      rw [if_neg fun both => status both.1]
      split
      · unfold HdlcDev.noteCarrier
        split
        · rfl
        · rfl
      · rfl
    refine .of_eq up nofun late ?_ ?_ ?_ ?_
    · rw [s.interrupt_info report]
      exact kept
    · rw [dev]
    · rw [dev]
    · rw [dev]

theorem netStep_kept {s t : HdlcDev} {event : NetEvent} (up : NetUp s) (step : NetStep s event t) :
    NetKept s event t := by
  cases event with
  | xmit skb len =>
    obtain ⟨runs, some, fits, rfl⟩ := step
    exact .of_xmit up runs skb some fits
  | interrupt report =>
    obtain ⟨data, dma, rfl⟩ := step
    exact HdlcDev.interrupt_kept up report data dma
  | bhReceive =>
    obtain ⟨after, returned, rfl⟩ := step
    exact .of_eq up nofun rfl (r56BhReceive_netTransmit returned) rfl rfl rfl
  | reception list rxDma =>
    obtain rfl := step
    exact .of_eq up nofun rfl rfl rfl rfl rfl
  | txTimeout =>
    obtain ⟨pending, rfl⟩ := step
    have active : s.info.txActive = true := up.watched.timer.symm.trans pending
    have stopped : s.dev.queueStopped = true := by
      by_contra runs
      exact Bool.false_ne_true ((up.watched.idle (Bool.eq_false_iff.mpr runs)).symm.trans active)
    obtain ⟨info, dev⟩ := HdlcDev.txDone_dev { s with info := r56TxTimeout s.info }
    have same : s.txTimeout = HdlcDev.txDone { s with info := r56TxTimeout s.info } := if_pos up.net
    rw [← same] at info dev
    refine .of_ended up nofun ?_ ?_ ?_ ?_ ?_
    · rw [info]
      exact r56TxTimeout_netTransmit up.net up.mode active
    · rw [dev]
    · rw [dev]
    · rw [dev]
    · rw [stopped]
      rfl
  | watchdog =>
    obtain ⟨stopped, rfl⟩ := step
    exact .of_watchdog up stopped
  | attach encoding parity =>
    obtain rfl := step
    unfold HdlcDev.attach
    split
    · exact .of_eq up nofun rfl rfl rfl rfl rfl
    · split
      · exact @NetKept.of_program s (.attach encoding parity) up trivial nofun rfl _ rfl
      · exact .of_eq up nofun rfl rfl rfl rfl rfl
  | ioctl request =>
    obtain rfl := step
    cases request with
    | getIface size =>
      unfold HdlcDev.ioctl
      dsimp only
      split
      · exact .of_eq up nofun rfl rfl rfl rfl rfl
      · split
        · exact .of_eq up nofun rfl rfl rfl rfl rfl
        · exact .of_eq up nofun rfl rfl rfl rfl rfl
    | syncSerial capable newLine =>
      unfold HdlcDev.ioctl
      dsimp only
      split
      · exact .of_eq up nofun rfl rfl rfl rfl rfl
      split
      · exact .of_eq up nofun rfl rfl rfl rfl rfl
      split
      · exact .of_eq up nofun rfl rfl rfl rfl rfl
      split
      · exact .of_eq up nofun rfl rfl rfl rfl rfl
      · exact @NetKept.of_program s (.ioctl (.syncSerial capable newLine)) up trivial nofun rfl _ rfl

theorem netRun_balance {s : HdlcDev} {p : List (NetEvent × HdlcDev)} (up : NetUp s) (run : Run NetStep s p) :
    (last s p).balance + lateStatuses s p = s.balance := by
  induction p generalizing s with
  | nil => exact BitVec.add_zero _
  | cons head rest ih =>
    have kept := netStep_kept up run.1
    have later := ih kept.up run.2
    show (last head.2 rest).balance + (lateStatus s head.1 + lateStatuses head.2 rest) = s.balance
    rw [← kept.balanced, ← later, BitVec.add_comm (lateStatus s head.1), BitVec.add_assoc]

/-- Frames are sent one at a time over an interface, and every frame is accounted for. `ASYNC_CTS_FLOW` is not left over
from a tty: with it a loss of CTS stops the transmitter. -/
theorem net_transmit_flow {d : HdlcDev} {adapter : DmaTestRun} {physEntry : Nat → U32}
    {p : List (NetEvent × HdlcDev)} (mode : d.info.params.mode = r56ModeHdlc) (tty : d.info.port.tty = false)
    (ctsFlow : d.info.port.ctsFlow = false) (frames : 0 < (countDmaBuffers d.info).txBufferCount)
    (run : Run NetStep (d.opened adapter physEntry) p) :
    Run NetRight (d.opened adapter physEntry) p ∧ (∀ x ∈ p, NetWatched x.2) ∧
      (last (d.opened adapter physEntry) p).balance + lateStatuses (d.opened adapter physEntry) p =
        (d.opened adapter physEntry).balance := by
  have up := HdlcDev.opened_up adapter physEntry mode tty ctsFlow frames
  have kept (s : HdlcDev) (event : NetEvent) (t : HdlcDev) (up : NetUp s) (step : NetStep s event t) :
      NetUp t ∧ NetRight s event t := ⟨(netStep_kept up step).up, (netStep_kept up step).right⟩
  have always := run.invariant (fun s event t up step => (kept s event t up step).1) up
  exact ⟨run.steps_of_invariant kept up, fun x member => (always x member).watched, netRun_balance up run⟩

/-- An interface that has just been opened. -/
def netOpened : HdlcDev := HdlcDev.opened { info := r56AllocateDevice } ⟨true, true, some 0, {}⟩ fun _ => 0

/-- The chip reports that the frame was sent. -/
def txSent : UscReport where
  status := fun r => if r = .ivr then 4 <<< 9 else if r = .tcsr then txstatusEofSent else 0

/-- A frame is sent, the next one runs into the watchdog of the network layer. -/
theorem net_transmit_flow_sent :
    let sent := (netOpened.xmit (fun i => i) 1500).interrupt txSent
    let last := (sent.xmit (fun i => i + 1) 3).watchdog
    Sends (sent.xmit (fun i => i + 1) 3).info (fun i => i + 1) 3 ∧ sent.info.icount.txok = 1 ∧
      last.balance = netOpened.balance := by
  intro sent final
  have run : Run NetStep netOpened [(.xmit (fun i => i) 1500, netOpened.xmit (fun i => i) 1500),
      (.interrupt txSent, sent), (.xmit (fun i => i + 1) 3, sent.xmit (fun i => i + 1) 3), (.watchdog, final)] := by
    have vector : ((netOpened.xmit (fun i => i) 1500).info.reporting txSent).uscVector = 4 := by decide +kernel
    refine ⟨⟨rfl, by decide, ?_, rfl⟩, ⟨?_, fun dma => ?_, rfl⟩, ⟨?_, by decide, ?_, rfl⟩, ⟨rfl, rfl⟩, trivial⟩
    · decide +kernel
    · rw [vector]
      decide
    · exact absurd (vector.symm.trans dma.1) (by decide)
    · decide +kernel
    · decide +kernel
  have flow := @net_transmit_flow { info := r56AllocateDevice } ⟨true, true, some 0, {}⟩ (fun _ => 0) _ rfl rfl rfl
    (by decide) run
  have late : lateStatuses netOpened [(.xmit (fun i => i) 1500, netOpened.xmit (fun i => i) 1500),
      (.interrupt txSent, sent), (.xmit (fun i => i + 1) 3, sent.xmit (fun i => i + 1) 3),
      (.watchdog, final)] = 0 := by decide +kernel
  refine ⟨(flow.1.2.2.1.1 _ _ rfl).2, by decide +kernel, ?_⟩
  have balance := flow.2.2
  exact (BitVec.add_zero _).symm.trans ((congrArg (final.balance + ·) late.symm).trans balance)

/-- The line as the network layer sees it: what it may ask for, and whether the baud rate generator is in use, so that
the rate matters. -/
structure NetLine where
  settings : SyncSerialSettings
  brg : Bool
  deriving DecidableEq

def ClockType.known : ClockType → Bool
  | .other _ => false
  | _ => true

/-- What an accepted request asks for. The default clock is the one that is there. -/
def NetLine.request (line : NetLine) (newLine : SyncSerialSettings) : NetLine :=
  let clockType := if newLine.clockType = .default then line.settings.clockType else newLine.clockType
  let brg := if newLine.clockType = .default then line.brg else newLine.clockType = .int || newLine.clockType = .txint
  { settings := { newLine with clockType := clockType, clockRate := if brg then newLine.clockRate else 0 }
    brg := brg }

/-- The requests that may be made and make sense. -/
def SyncSerialSettings.accepted (newLine : SyncSerialSettings) (capable : Bool) : Bool :=
  capable && newLine.clockType.known && decide (newLine.loopback ≤ 1)

def NetLine.event (line : NetLine) : NetEvent → NetLine
  | .ioctl (.syncSerial capable newLine) => if newLine.accepted capable then line.request newLine else line
  | _ => line

/-- The line after a run. -/
def NetLine.after (line : NetLine) (p : List (NetEvent × HdlcDev)) : NetLine :=
  p.foldl (fun line x => line.event x.1) line

/-- The line that the parameters are for. -/
def R56Params.netLine (params : R56Params) : NetLine where
  settings := syncSerialSettings params
  brg := decide (params.flags &&& (hdlcFlagRxcBrg ||| hdlcFlagTxcBrg) ≠ 0)

/-- The parameters with the clocks replaced. -/
def R56Params.withClocks (params : R56Params) (flags : U16) (newLine : SyncSerialSettings) : R56Params :=
  { params with
    flags := params.flags &&& ~~~hdlcdevClockFlags ||| flags
    loopback := if decide (newLine.loopback = 1) then 1 else 0
    clockSpeed := if flags &&& (hdlcFlagRxcBrg ||| hdlcFlagTxcBrg) ≠ 0 then newLine.clockRate else 0 }

theorem clockTypeFlags_within {params : R56Params} {clockType : ClockType} {flags : U16}
    (asked : clockTypeFlags params clockType = some flags) : BitField.Within hdlcdevClockFlags flags := by
  cases clockType with
  | other value => exact absurd asked.symm (Option.some_ne_none _)
  | default =>
    cases asked
    exact BitField.within_and _ _
  | ext => cases asked; rfl
  | int => cases asked; rfl
  | txint => cases asked; rfl
  | txfromrx => cases asked; rfl

/-- A request that is accepted does what it asks for. -/
theorem withClocks_netLine {params : R56Params} {flags : U16} {newLine : SyncSerialSettings}
    (asked : clockTypeFlags params newLine.clockType = some flags) (loopback : newLine.loopback ≤ 1) :
    (params.withClocks flags newLine).netLine = params.netLine.request newLine := by
  have within := clockTypeFlags_within asked
  have clocks : (params.withClocks flags newLine).flags &&& hdlcdevClockFlags = flags :=
    BitField.replace_and params.flags within
  have generator (p : R56Params) : p.flags &&& (hdlcFlagRxcBrg ||| hdlcFlagTxcBrg) =
      p.flags &&& hdlcdevClockFlags &&& (hdlcFlagRxcBrg ||| hdlcFlagTxcBrg) := by
    rw [BitVec.and_assoc]
    rfl
  have looped : (if (params.withClocks flags newLine).loopback ≠ 0 then 1 else 0) = newLine.loopback := by
    rcases Nat.le_one_iff_eq_zero_or_eq_one.mp loopback with zero | one
    · rw [zero]
      simp [R56Params.withClocks, zero]
    · simp [R56Params.withClocks, one]
  obtain ⟨clockType, clockRate, loop⟩ := newLine
  unfold R56Params.netLine syncSerialSettings NetLine.request
  dsimp only at looped ⊢
  rw [generator, generator, clocks, looped]
  cases clockType with
  | other value => exact absurd asked.symm (Option.some_ne_none _)
  | default =>
    cases asked
    simp only [if_true, R56Params.withClocks, decide_eq_true_eq]
  | ext => cases asked; rfl
  | int => cases asked; rfl
  | txint => cases asked; rfl
  | txfromrx => cases asked; rfl

/-- What a request of the network layer finds. -/
def R56Struct.configured (info : R56Struct) : Setup × Nat := (info.setup, info.port.count)

theorem configured_of_exceptTransmitter {s t : R56Struct} (frame : t.exceptTransmitter = s.exceptTransmitter) :
    t.configured = s.configured := by
  have same := congrArg R56Struct.configured frame
  exact same

theorem configured_kept : Kept fun s t => t.configured = s.configured where
  refl _ := rfl
  trans first second := second.trans first
  reception frame := (congrArg R56Struct.configured frame :)
  signals _ _ := rfl
  flow _ _ _ := rfl
  xchar _ _ := rfl
  start s := configured_of_exceptTransmitter (uscStartTransmitter_frame s)
  stop _ := rfl
  collect _ _ _ _ := rfl
  chunk _ _ _ _ _ _ _ := rfl
  loadXmitBuf _ _ _ _ := rfl
  loadWrite _ _ _ _ _ _ := rfl
  hold s buf count _ _ _ room := by
    unfold saveTxBufferRequest
    rw [if_neg (Nat.not_le_of_lt room)]
    rfl
  unhold s := by
    unfold loadNextTxHoldingBuffer
    dsimp only
    split
    · rfl
    · rfl
  emptied _ := rfl
  ended _ := rfl
  dropped _ := rfl
  continued s := configured_of_exceptTransmitter (continueAsync_frame s)

theorem programIfUp_configured (info : R56Struct) : (programIfUp info).configured = info.configured := by
  unfold programIfUp
  split
  · exact Prod.ext (r56ProgramHw_setup info) (congrArg (·.port.count) (r56ProgramHw_frame info))
  · rfl

/-- The line and the other flags of a port that the tty side does not use. -/
structure NetConfigured (d : HdlcDev) (line : NetLine) (flags : U16) : Prop where
  free : d.info.port.count = 0
  line : d.info.params.netLine = line
  flags : d.info.params.flags &&& ~~~hdlcdevClockFlags = flags

theorem NetConfigured.of_eq {s t : HdlcDev} {line : NetLine} {flags : U16} (configured : NetConfigured s line flags)
    (same : t.info.configured = s.info.configured) : NetConfigured t line flags := by
  have count : t.info.port.count = s.info.port.count := congrArg (·.2) same
  have netLine : t.info.params.netLine = s.info.params.netLine := congrArg (·.1.params.netLine) same
  have params : t.info.params.flags = s.info.params.flags := congrArg (·.1.params.flags) same
  exact ⟨count.trans configured.free, netLine.trans configured.line, params ▸ configured.flags⟩

/-- What a request changes and what it leaves alone. -/
theorem netStep_configured {s t : HdlcDev} {event : NetEvent} {line : NetLine} {flags : U16}
    (configured : NetConfigured s line flags) (step : NetStep s event t) :
    NetConfigured t (line.event event) flags := by
  cases event with
  | xmit skb len =>
    obtain ⟨-, -, -, rfl⟩ := step
    have loaded : (r56LoadTxDmaBuffer { s.info with xmitCnt := len } .write skb len).configured =
      s.info.configured := rfl
    refine configured.of_eq ?_
    unfold HdlcDev.xmit hdlcdevXmit
    dsimp only
    split
    · exact loaded
    · exact (configured_of_exceptTransmitter (uscStartTransmitter_frame _)).trans loaded
  | interrupt report =>
    obtain ⟨-, -, rfl⟩ := step
    refine configured.of_eq ?_
    rw [s.interrupt_info report]
    exact @Kept.exec _ configured_kept s.info _ (.interrupt report) id nofun rfl
  | bhReceive =>
    obtain ⟨after, returned, rfl⟩ := step
    exact configured.of_eq (@Kept.exec _ configured_kept s.info _ .bhReceive id nofun returned)
  | reception list rxDma =>
    obtain rfl := step
    exact configured.of_eq rfl
  | txTimeout =>
    obtain ⟨-, rfl⟩ := step
    have timeout := @Kept.exec _ configured_kept s.info _ .txTimeout id nofun rfl
    have info : s.txTimeout.info = r56TxTimeout s.info := by
      unfold HdlcDev.txTimeout
      dsimp only
      split
      · exact (HdlcDev.txDone_dev _).1
      · rfl
    refine configured.of_eq ?_
    rw [info]
    exact timeout
  | watchdog =>
    obtain ⟨-, rfl⟩ := step
    exact configured.of_eq rfl
  | attach encoding parity =>
    obtain rfl := step
    unfold HdlcDev.attach
    split
    · exact configured
    split
    · rename_i newEncoding newCrctype _ _
      have asked : NetConfigured { s with info := { s.info with
          params := { s.info.params with encoding := newEncoding, crcType := newCrctype } } } line flags :=
        ⟨configured.free, configured.line, configured.flags⟩
      exact asked.of_eq (programIfUp_configured _)
    · exact configured
  | ioctl request =>
    obtain rfl := step
    cases request with
    | getIface size =>
      unfold HdlcDev.ioctl
      dsimp only
      split
      · exact configured
      split
      · exact configured
      · exact configured
    | syncSerial capable newLine =>
      have free : ¬s.info.port.count ≠ 0 := not_not.mpr configured.free
      have known : (clockTypeFlags s.info.params newLine.clockType).isSome = newLine.clockType.known := by
        cases newLine.clockType <;> rfl
      unfold HdlcDev.ioctl NetLine.event SyncSerialSettings.accepted
      dsimp only
      rw [if_neg free, ← known]
      by_cases may : capable = true
      · rw [if_neg (not_not.mpr may), may]
        split
        · rename_i unknown
          rw [unknown]
          exact configured
        · rename_i asked given
          rw [given]
          by_cases loopback : newLine.loopback ≤ 1
          · have within := clockTypeFlags_within given
            have netLine := withClocks_netLine given loopback
            have program : NetConfigured { s with info := { s.info with
                params := s.info.params.withClocks asked newLine } } (line.request newLine) flags :=
              ⟨configured.free, configured.line ▸ netLine,
                (BitField.replace_and_not _ within).trans configured.flags⟩
            rw [if_neg (by omega), decide_eq_true loopback]
            exact program.of_eq (programIfUp_configured _)
          · rw [if_pos (by omega), decide_eq_false loopback]
            exact configured
      · rw [if_pos may, Bool.eq_false_iff.mpr may]
        exact configured

/-- Through a run of an interface the line stays as the last accepted request of the network layer left it, and that
is what the network layer is told. -/
theorem net_line_last {s : HdlcDev} {p : List (NetEvent × HdlcDev)} (free : s.info.port.count = 0)
    (run : Run NetStep s p) :
    (last s p).info.params.netLine = s.info.params.netLine.after p ∧
      (last s p).info.params.flags &&& ~~~hdlcdevClockFlags = s.info.params.flags &&& ~~~hdlcdevClockFlags ∧
        ∀ size, syncSerialSize ≤ size →
          (last s p).ioctl (.getIface size) = (last s p, .ok (some (s.info.params.netLine.after p).settings)) := by
  have configured (line : NetLine) (flags : U16) (before : NetConfigured s line flags) :
      NetConfigured (last s p) (line.after p) flags := by
    induction p generalizing s line with
    | nil => exact before
    | cons head rest ih =>
      have next := netStep_configured before run.1
      exact ih next.free run.2 _ next
  have whole := configured _ _ ⟨free, rfl, rfl⟩
  refine ⟨whole.line, whole.flags, fun size enough => ?_⟩
  unfold HdlcDev.ioctl
  dsimp only
  rw [if_neg (not_not.mpr whole.free), if_neg (Nat.not_lt.mpr enough), ← whole.line]
  rfl

/-- The clocks are set, a frame is sent, a request is refused, the rate is set. -/
theorem net_line_last_set :
    let set := (netOpened.ioctl (.syncSerial true ⟨.txint, 64000, 0⟩)).1
    let sent := set.xmit (fun i => i) 3
    let refused := (sent.ioctl (.syncSerial false ⟨.ext, 0, 0⟩)).1
    let last := (refused.ioctl (.syncSerial true ⟨.default, 9600, 1⟩)).1
    (last.ioctl (.getIface 12)).2 = .ok (some ⟨.txint, 9600, 1⟩) := by
  intro set sent refused final
  have run : Run NetStep netOpened [(.ioctl (.syncSerial true ⟨.txint, 64000, 0⟩), set), (.xmit (fun i => i) 3, sent),
      (.ioctl (.syncSerial false ⟨.ext, 0, 0⟩), refused),
      (.ioctl (.syncSerial true ⟨.default, 9600, 1⟩), final)] := by
    refine ⟨rfl, ⟨?_, by decide, ?_, rfl⟩, rfl, rfl, trivial⟩ <;> decide +kernel
  exact congrArg Prod.snd ((net_line_last (by decide +kernel) run).2.2 12 (by decide))

end Route56
