import Route56.Parts

namespace Route56

/-- What a handler relies on: the interrupt line and the receive memory. -/
structure Resources where
  irqRequested : Bool
  rxBufferList : Bool
  intermediateRxbuffer : Bool
  deriving DecidableEq

def R56Struct.resources (info : R56Struct) : Resources where
  irqRequested := info.irqRequested
  rxBufferList := info.rxBufferListPtr
  intermediateRxbuffer := info.intermediateRxbufferPtr

/-- The flags by which interrupts and handlers agree, and the resources. -/
@[ext] structure Bh where
  pending : U32
  running : Bool
  requested : Bool
  queued : Bool
  resources : Resources
  deriving DecidableEq

def R56Struct.bh (info : R56Struct) : Bh where
  pending := info.pendingBh
  running := info.bhRunning
  requested := info.bhRequested
  queued := info.taskQueued
  resources := info.resources

/-- The actions a handler knows. -/
inductive Action
  | receive
  | transmit
  | status
  deriving DecidableEq

def Action.bit : Action → U32
  | .receive => bhReceive
  | .transmit => bhTransmit
  | .status => bhStatus

def bhActions : U32 := bhReceive ||| bhTransmit ||| bhStatus

/-- The action is asked for. -/
def U32.asks (pending : U32) (action : Action) : Bool := pending &&& action.bit ≠ 0

/-- Some actions are added to those pending, `BH_RECEIVE` among them as told. -/
def Raises (receive : Prop) (info after : R56Struct) : Prop :=
  ∃ bits : U32, bits &&& bhActions = bits ∧ (bits.asks .receive = true ↔ receive) ∧
    after.bh = { info.bh with pending := info.bh.pending ||| bits }

theorem Raises.none {s t : R56Struct} (same : t.bh = s.bh) : Raises False s t := by
  refine ⟨0, rfl, iff_of_false (by decide) id, ?_⟩
  rw [same]
  exact Bh.ext (BitVec.or_zero).symm rfl rfl rfl rfl

theorem Raises.receive (info : R56Struct) :
    Raises True info { info with pendingBh := info.pendingBh ||| bhReceive } :=
  ⟨bhReceive, by decide, iff_of_true (by decide) trivial, rfl⟩

theorem Raises.transmit (info : R56Struct) :
    Raises False info { info with pendingBh := info.pendingBh ||| bhTransmit } :=
  ⟨bhTransmit, by decide, iff_of_false (by decide) id, rfl⟩

theorem Raises.status (info : R56Struct) :
    Raises False info { info with pendingBh := info.pendingBh ||| bhStatus } :=
  ⟨bhStatus, by decide, iff_of_false (by decide) id, rfl⟩

theorem Raises.and_then {receive : Prop} {s t u : R56Struct} (raised : Raises receive s t) (same : u.bh = t.bh) :
    Raises receive s u := by
  obtain ⟨bits, known, asks, bh⟩ := raised
  exact ⟨bits, known, asks, same.trans bh⟩

theorem Raises.after {receive : Prop} {s t u : R56Struct} (same : t.bh = s.bh) (raised : Raises receive t u) :
    Raises receive s u := by
  obtain ⟨bits, known, asks, bh⟩ := raised
  exact ⟨bits, known, asks, by rw [bh, same]⟩

theorem Raises.congr {receive other : Prop} {s t : R56Struct} (raised : Raises receive s t) (iff : receive ↔ other) :
    Raises other s t := by
  obtain ⟨bits, known, asks, bh⟩ := raised
  exact ⟨bits, known, asks.trans iff, bh⟩

theorem bh_of_exceptReceiver {s t : R56Struct} (frame : t.exceptReceiver = s.exceptReceiver) : t.bh = s.bh := by
  have same := congrArg R56Struct.bh frame
  exact same

theorem bh_of_exceptTransmitter {s t : R56Struct} (frame : t.exceptTransmitter = s.exceptTransmitter) :
    t.bh = s.bh := by
  have same := congrArg R56Struct.bh frame
  exact same

theorem insertChar_bh (info : R56Struct) (dataByte : U8) (status : U16) (flag : Nat) :
    (insertChar info dataByte status flag).1.bh = info.bh := by
  unfold insertChar
  dsimp only
  split
  · rfl
  · rfl

theorem receiveChar_bh (info : R56Struct) (dataByte : U8) (status : U16) :
    (receiveChar info dataByte status).1.bh = info.bh := by
  have bad (s : R56Struct) : (receiveBadChar s dataByte status).1.bh = s.bh := by
    unfold receiveBadChar
    dsimp only
    split
    · rfl
    · exact insertChar_bh _ _ _ _
  unfold receiveChar
  dsimp only
  split
  · exact bad _
  · exact insertChar_bh _ _ _ _

theorem r56IsrReceiveData_bh (info : R56Struct) : (r56IsrReceiveData info).bh = info.bh := by
  have loop (chars : List (U8 × U16)) (s : R56Struct) (work : Nat) : (receiveChars chars s work).1.bh = s.bh := by
    induction chars generalizing s work with
    | nil => rfl
    | cons char rest ih => exact (ih _ _).trans (receiveChar_bh s char.1 char.2)
  have received (u : Usc) : (receiveChars u.rxFifo { info with usc := { u with rxFifo := [] } } 0).1.bh = info.bh :=
    loop _ _ _
  unfold r56IsrReceiveData
  dsimp only
  split
  · exact received _
  · exact received _

theorem r56IsrReceiveStatus_bh (info : R56Struct) : (r56IsrReceiveStatus info).bh = info.bh := by
  have inserted (status : U16) : (completeInsertion info status).bh = info.bh := by
    unfold completeInsertion
    split
    · rfl
    · rfl
  have recovered (s : R56Struct) (status : U16) := bh_of_exceptReceiver (recoverOverrun_frame s status)
  exact (recovered _ _).trans (inserted _)

/-- The receive count has underrun. -/
def R56Struct.rccUnderrun (info : R56Struct) : Prop :=
  uscInReg info.usc .misr &&& miscstatusRccUnderrun ≠ 0 ∧ info.params.mode = r56ModeHdlc

theorem r56IsrMisc_raises (info : R56Struct) : Raises info.rccUnderrun info (r56IsrMisc info) := by
  have halted : Raises info.rccUnderrun info (haltOnRccUnderrun info (uscInReg info.usc .misr)) := by
    unfold haltOnRccUnderrun
    split
    · rename_i underrun
      exact ((Raises.receive info).and_then rfl).congr (iff_of_true trivial underrun)
    · rename_i counting
      exact (Raises.none rfl).congr (iff_of_false id counting)
  exact halted.and_then rfl

theorem r56IsrReceiveDma_raises (info : R56Struct) : Raises True info (r56IsrReceiveDma info) := by
  have raised := Raises.receive info
  unfold r56IsrReceiveDma
  dsimp only
  split
  · exact raised.and_then rfl
  · exact raised.and_then rfl

theorem loadNextTxHoldingBuffer_bh (info : R56Struct) : (loadNextTxHoldingBuffer info).1.bh = info.bh := by
  unfold loadNextTxHoldingBuffer
  dsimp only
  split
  · rfl
  · rfl

theorem r56IsrTransmitDma_raises (info : R56Struct) : Raises False info (r56IsrTransmitDma info) := by
  have done (s : R56Struct) : Raises False s (txBufferDone s) := by
    have next := loadNextTxHoldingBuffer_bh { s with txDmaBuffersUsed := s.txDmaBuffersUsed - 1 }
    unfold txBufferDone
    dsimp only
    split
    · exact .after next (.transmit _)
    · exact .none next
  unfold r56IsrTransmitDma
  dsimp only
  split
  · exact .after rfl (done _)
  · exact .none rfl

theorem r56IsrTransmitStatus_raises (info : R56Struct) : Raises False info (r56IsrTransmitStatus info) := by
  have negated (s : R56Struct) : (negateRts s).bh = s.bh := by
    unfold negateRts
    split
    · rfl
    · rfl
  have dropped (s : R56Struct) : (dropAutoRts s).bh = s.bh := by
    unfold dropAutoRts
    split
    · exact negated _
    · rfl
  have ended : (dropAutoRts (ackTxStatus info (uscInReg info.usc .tcsr))).bh = info.bh := dropped _
  unfold r56IsrTransmitStatus
  dsimp only
  split
  · exact .none ended
  split
  · exact .none ((bh_of_exceptTransmitter (uscStopTransmitter_frame _)).trans ended)
  · exact .after ended (.transmit _)

theorem r56IsrTransmitData_raises (info : R56Struct) : Raises False info (r56IsrTransmitData info) := by
  have continued (s : R56Struct) : (continueAsync s).bh = s.bh := by
    unfold continueAsync
    split
    · exact bh_of_exceptTransmitter (uscLoadTxfifo_frame s)
    · rfl
  have cleared := continued { info with usc := uscClearIrqPendingBits info.usc transmitData }
  unfold r56IsrTransmitData
  dsimp only
  split
  · exact .none (bh_of_exceptTransmitter (uscStopTransmitter_frame _))
  split
  · exact .after cleared (.transmit _)
  · exact .none cleared

theorem countIoPins_bh (info : R56Struct) (status : U16) : (countIoPins info status).bh = info.bh := by
  have ri (s : R56Struct) : (countRi s status).bh = s.bh := by unfold countRi; split <;> rfl
  have dsr (s : R56Struct) : (countDsr s status).bh = s.bh := by unfold countDsr; split <;> rfl
  have dcd (s : R56Struct) : (countDcd s status).bh = s.bh := by unfold countDcd; split <;> rfl
  have cts (s : R56Struct) : (countCts s status).bh = s.bh := by unfold countCts; split <;> rfl
  exact (cts _).trans ((dcd _).trans ((dsr _).trans (ri _)))

theorem ioPinDone_raises (info : R56Struct) (status : U16) : Raises False info (ioPinDone info status) := by
  have raised := Raises.status info
  unfold ioPinDone
  dsimp only
  split
  · exact raised.and_then rfl
  · exact raised

theorem ctsFlowControl_raises (info : R56Struct) (status : U16) : Raises False info (ctsFlowControl info status) := by
  have started := bh_of_exceptTransmitter (uscStartTransmitter_frame
    { info with tty := { info.tty with hwStopped := false } })
  have stopped : (uscStopTransmitter { info with tty := { info.tty with hwStopped := true } }).bh = info.bh := rfl
  unfold ctsFlowControl
  dsimp only
  split
  · split
    · exact .after started (.transmit _)
    · exact ioPinDone_raises info status
  · split
    · exact .after stopped (ioPinDone_raises _ status)
    · exact ioPinDone_raises info status

theorem r56IsrIoPin_raises (info : R56Struct) : Raises False info (r56IsrIoPin info) := by
  have served (s : R56Struct) (status : U16) : Raises False s (serviceIoPins s status) := by
    have counted := countIoPins_bh s status
    unfold serviceIoPins
    dsimp only
    split
    · exact .after counted (ctsFlowControl_raises _ status)
    · exact .after counted (ioPinDone_raises _ status)
  unfold r56IsrIoPin
  dsimp only
  split
  · exact .after rfl (served _ _)
  · exact .after rfl (ioPinDone_raises _ _)

/-- The interrupt asks for the receive action: it is a receive DMA interrupt, as every one
without a vector is taken to be, or reports a receive count underrun. -/
def R56Struct.asksReceive (info : R56Struct) : Prop :=
  info.uscVector = 0 ∧ uscInDmaReg info.usc .divr &&& (bit10 ||| bit9) ≠ bit10 ∨
    info.uscVector = 1 ∧ info.rccUnderrun

theorem serviceInterrupt_raises (info : R56Struct) : Raises info.asksReceive info (serviceInterrupt info) := by
  have served := serviceInterrupt_serviced info
  generalize serviceInterrupt info = after at served ⊢
  have silent (vector : 1 < info.uscVector) : False ↔ info.asksReceive := by
    refine iff_of_false id fun asks => ?_
    rcases asks with ⟨zero, -⟩ | ⟨one, -⟩
    · omega
    · omega
  cases served with
  | transmitDma vector dma =>
    refine (r56IsrTransmitDma_raises info).congr (iff_of_false id fun asks => ?_)
    rcases asks with ⟨-, other⟩ | ⟨one, -⟩
    · exact other dma
    · omega
  | receiveDma vector dma => exact (r56IsrReceiveDma_raises info).congr (iff_of_true trivial (.inl ⟨vector, dma⟩))
  | misc vector =>
    refine (r56IsrMisc_raises info).congr ⟨fun underrun => .inr ⟨vector, underrun⟩, fun asks => ?_⟩
    rcases asks with ⟨zero, -⟩ | ⟨-, underrun⟩
    · omega
    · exact underrun
  | ioPin vector => exact (r56IsrIoPin_raises info).congr (silent (by omega))
  | transmitData vector => exact (r56IsrTransmitData_raises info).congr (silent (by omega))
  | transmitStatus vector => exact (r56IsrTransmitStatus_raises info).congr (silent (by omega))
  | receiveData vector => exact (Raises.none (r56IsrReceiveData_bh info)).congr (silent (by omega))
  | receiveStatus vector => exact (Raises.none (r56IsrReceiveStatus_bh info)).congr (silent (by omega))
  | null vector => exact (Raises.none rfl).congr (silent (by omega))

/-- The flags after an interrupt that asks for some actions. -/
def Bh.interrupted (b : Bh) (bits : U32) : Bh :=
  if b.pending ||| bits ≠ 0 ∧ b.running = false ∧ b.requested = false then
    { b with pending := b.pending ||| bits, running := false, requested := true, queued := true }
  else { b with pending := b.pending ||| bits }

theorem interrupted_pending (b : Bh) (bits : U32) : (b.interrupted bits).pending = b.pending ||| bits := by
  unfold Bh.interrupted
  split
  · rfl
  · rfl

theorem interrupted_resources (b : Bh) (bits : U32) : (b.interrupted bits).resources = b.resources := by
  unfold Bh.interrupted
  split
  · rfl
  · rfl

theorem r56Interrupt_bh (info : R56Struct) :
    ∃ bits : U32, bits &&& bhActions = bits ∧ (bits.asks .receive = true ↔ info.asksReceive) ∧
      (r56Interrupt info).bh = info.bh.interrupted bits := by
  have halted (s : R56Struct) : (haltOnOverflow s).bh = s.bh := by
    unfold haltOnOverflow
    split
    · rfl
    · rfl
  obtain ⟨bits, actions, receive, raised⟩ := serviceInterrupt_raises info
  have served : (haltOnOverflow (serviceInterrupt info)).bh = { info.bh with pending := info.bh.pending ||| bits } :=
    (halted _).trans raised
  refine ⟨bits, actions, receive, ?_⟩
  unfold r56Interrupt
  generalize haltOnOverflow (serviceInterrupt info) = after at served ⊢
  have pending : after.pendingBh = info.pendingBh ||| bits := congrArg Bh.pending served
  have running : after.bhRunning = info.bhRunning := congrArg Bh.running served
  have requested : after.bhRequested = info.bhRequested := congrArg Bh.requested served
  have resources : after.resources = info.resources := congrArg Bh.resources served
  unfold scheduleBh Bh.interrupted
  by_cases free : info.bh.pending ||| bits ≠ 0 ∧ info.bh.running = false ∧ info.bh.requested = false
  · rw [if_pos free, if_pos (by rw [pending, running, requested]; exact free)]
    exact Bh.ext pending (running.trans free.2.1) rfl rfl resources
  · rw [if_neg free, if_neg (by rw [pending, running, requested]; exact free)]
    exact served

/-- The first action asked for, in the order of `r56_bh_action`. -/
theorem r56BhAction_bh (info : R56Struct) :
    (∃ action : Action, info.pendingBh.asks action = true ∧ (r56BhAction info).2 = action.bit ∧
      (r56BhAction info).1.bh = { info.bh with pending := info.pendingBh &&& ~~~action.bit }) ∨
    (∀ action : Action, info.pendingBh.asks action = false) ∧ (r56BhAction info).2 = 0 ∧
      (r56BhAction info).1.bh = { info.bh with running := false, requested := false } := by
  have asked (action : Action) : info.pendingBh.asks action = true ↔ info.pendingBh &&& action.bit ≠ 0 :=
    decide_eq_true_iff
  unfold r56BhAction
  by_cases receive : info.pendingBh &&& bhReceive ≠ 0
  · rw [if_pos receive]
    exact .inl ⟨.receive, (asked .receive).mpr receive, rfl, rfl⟩
  rw [if_neg receive]
  by_cases transmit : info.pendingBh &&& bhTransmit ≠ 0
  · rw [if_pos transmit]
    exact .inl ⟨.transmit, (asked .transmit).mpr transmit, rfl, rfl⟩
  rw [if_neg transmit]
  by_cases status : info.pendingBh &&& bhStatus ≠ 0
  · rw [if_pos status]
    exact .inl ⟨.status, (asked .status).mpr status, rfl, rfl⟩
  rw [if_neg status]
  refine .inr ⟨fun action => ?_, rfl, rfl⟩
  rw [Bool.eq_false_iff, Ne, asked]
  cases action with
  | receive => exact receive
  | transmit => exact transmit
  | status => exact status

theorem asks_or (pending bits : U32) (action : Action) :
    (pending ||| bits).asks action = (pending.asks action || bits.asks action) := by
  unfold U32.asks
  rw [BitVec.and_or_distrib_right]
  by_cases first : pending &&& action.bit = 0
  · have dropped : (0 : U32) ||| bits &&& action.bit = bits &&& action.bit := BitVec.zero_or
    rw [first, dropped, decide_eq_false (not_not.mpr rfl), Bool.false_or]
  · have some : pending &&& action.bit ||| bits &&& action.bit ≠ 0 := by
      intro none
      exact first (BitVec.or_eq_zero_iff.mp none).1
    rw [decide_eq_true some, decide_eq_true first, Bool.true_or]

theorem asks_clear (pending : U32) (action other : Action) :
    (pending &&& ~~~action.bit).asks other = (pending.asks other && decide (other ≠ action)) := by
  unfold U32.asks
  rw [BitVec.and_assoc]
  by_cases same : other = action
  · have none : ~~~action.bit &&& other.bit = 0 := by
      rw [same]
      cases action <;> rfl
    rw [none, decide_eq_false (not_not.mpr same), Bool.and_false]
    exact decide_eq_false (not_not.mpr (BitVec.and_zero))
  · have kept : ~~~action.bit &&& other.bit = other.bit := by
      cases action <;> cases other <;> first | rfl | exact absurd rfl same
    rw [kept, decide_eq_true same, Bool.and_true]

theorem asks_bit (action other : Action) : U32.asks action.bit other = decide (other = action) := by
  cases action <;> cases other <;> rfl

/-- Nothing is pending when none of the actions is. -/
theorem pending_eq_zero {pending : U32} (known : pending &&& bhActions = pending)
    (none : ∀ action : Action, pending.asks action = false) : pending = 0 := by
  have zero (action : Action) : pending &&& action.bit = 0 := not_not.mp (of_decide_eq_false (none action))
  have receive : pending &&& bhReceive = 0 := zero .receive
  have transmit : pending &&& bhTransmit = 0 := zero .transmit
  have status : pending &&& bhStatus = 0 := zero .status
  rw [← known, bhActions, BitVec.and_or_distrib_left, BitVec.and_or_distrib_left, receive, transmit, status]
  rfl

theorem uscStartTransmitter_bh (info : R56Struct) : (uscStartTransmitter info).bh = info.bh :=
  bh_of_exceptTransmitter (uscStartTransmitter_frame info)

theorem uscStartReceiver_bh (info : R56Struct) : (uscStartReceiver info).bh = info.bh :=
  bh_of_exceptReceiver (uscStartReceiver_frame info)

theorem bh_of_exceptSettings {s t : R56Struct} (frame : t.exceptSettings = s.exceptSettings) : t.bh = s.bh := by
  have same := congrArg R56Struct.bh frame
  exact same

theorem startIfIdle_bh (info : R56Struct) : (startIfIdle info).bh = info.bh := by
  unfold startIfIdle
  split
  · split
    · rfl
    · exact uscStartTransmitter_bh info
  · rfl

theorem writeAsync_bh (buf : Nat → U8) (fuel count : Nat) (info : R56Struct) :
    (writeAsync info fuel buf count).1.bh = info.bh := by
  induction fuel generalizing info buf count with
  | zero => rfl
  | succ fuel ih =>
    unfold writeAsync
    dsimp only
    split
    · rfl
    · exact ih _ _ _

theorem r56Write_bh (info : R56Struct) (buf : Nat → U8) (count : Nat) : (r56Write info buf count).1.bh = info.bh := by
  have saved (s : R56Struct) : (saveTxBufferRequest s buf count).bh = s.bh := by
    unfold saveTxBufferRequest
    split
    · rfl
    · rfl
  have loaded (s : R56Struct) (source : TxSource) (data : Nat → U8) (size : Nat) :
      (r56LoadTxDmaBuffer s source data size).bh = s.bh := rfl
  unfold r56Write
  split
  · rfl
  split
  · split
    · split
      · rfl
      split
      · rfl
      · exact (loadNextTxHoldingBuffer_bh _).trans (saved info)
    split
    · rfl
    split
    · exact (startIfIdle_bh _).trans (loaded _ _ _ _)
    · exact (startIfIdle_bh _).trans (loaded { info with xmitCnt := count } _ _ _)
  · exact (startIfIdle_bh _).trans (writeAsync_bh buf (count + 1) count info)

theorem r56FlushChars_bh (info : R56Struct) : (r56FlushChars info).bh = info.bh := by
  unfold r56FlushChars
  split
  · rfl
  split
  · rfl
  split
  · exact uscStartTransmitter_bh _
  · exact uscStartTransmitter_bh info

theorem r56Start_bh (info : R56Struct) : (r56Start info).bh = info.bh := by
  unfold r56Start
  split
  · rfl
  · exact uscStartTransmitter_bh info

theorem r56SendXchar_bh (info : R56Struct) (ch : U8) : (r56SendXchar info ch).bh = info.bh := by
  unfold r56SendXchar
  dsimp only
  split
  · exact uscStartTransmitter_bh _
  · rfl

theorem signalRts_bh (info : R56Struct) (on : Bool) : (signalRts info on).bh = info.bh := by
  unfold signalRts
  split
  · rfl
  · rfl

theorem r56Throttle_bh (info : R56Struct) : (r56Throttle info).bh = info.bh := by
  refine (signalRts_bh _ _).trans ?_
  unfold sendStopChar
  split
  · exact r56SendXchar_bh info _
  · rfl

theorem r56Unthrottle_bh (info : R56Struct) : (r56Unthrottle info).bh = info.bh := by
  refine (signalRts_bh _ _).trans ?_
  unfold sendStartChar
  split
  · split
    · rfl
    · exact r56SendXchar_bh info _
  · rfl

theorem r56Txenable_bh (info : R56Struct) (enable : Bool) : (r56Txenable info enable).bh = info.bh := by
  unfold r56Txenable
  dsimp only
  split
  · split
    · rfl
    split
    · exact uscStartTransmitter_bh info
    · exact uscStartTransmitter_bh info
  split
  · rfl
  · rfl

theorem r56Rxenable_bh (info : R56Struct) (enable : Bool) : (r56Rxenable info enable).bh = info.bh := by
  unfold r56Rxenable
  split
  · split
    · rfl
    · exact uscStartReceiver_bh info
  · split
    · rfl
    · rfl

theorem programMode_bh (info : R56Struct) : (programMode info).bh = info.bh := by
  unfold programMode
  split
  · exact bh_of_exceptSettings (uscSetSyncMode_frame info)
  · exact bh_of_exceptSettings (uscSetAsyncMode_frame info)

theorem r56ProgramHw_bh (info : R56Struct) : (r56ProgramHw info).bh = info.bh := by
  have mode := programMode_bh { uscStopTransmitter (uscStopReceiver info) with
    xmitCnt := 0, xmitHead := 0, xmitTail := 0 }
  have signals (s : R56Struct) : (programSignals s).bh = s.bh := rfl
  unfold r56ProgramHw
  dsimp only
  split
  · exact (uscStartReceiver_bh _).trans ((signals _).trans mode)
  · exact (signals _).trans mode

theorem r56ChangeParams_bh (info : R56Struct) : (r56ChangeParams info).bh = info.bh := by
  unfold r56ChangeParams
  split
  · rfl
  · exact r56ProgramHw_bh _

theorem r56SetTermios_bh (info : R56Struct) (oldCflag : U32) : (r56SetTermios info oldCflag).bh = info.bh := by
  have entered (s : R56Struct) : (enterB0 s oldCflag).bh = s.bh := by
    unfold enterB0
    split
    · rfl
    · rfl
  have left (s : R56Struct) : (leaveB0 s oldCflag).bh = s.bh := by
    unfold leaveB0
    split
    · rfl
    · rfl
  have resumed (s : R56Struct) : (leaveCrtscts s oldCflag).bh = s.bh := by
    unfold leaveCrtscts
    split
    · exact r56Start_bh _
    · rfl
  exact (resumed _).trans ((left _).trans ((entered _).trans (r56ChangeParams_bh info)))

theorem r56BhTransmit_bh (info : R56Struct) : (r56BhTransmit info).bh = info.bh := by
  unfold r56BhTransmit
  split
  · rfl
  · rfl

theorem r56TxTimeout_bh (info : R56Struct) : (r56TxTimeout info).bh = info.bh := by
  have counted (s : R56Struct) : (countTxTimeout s).bh = s.bh := by
    unfold countTxTimeout
    split
    · rfl
    · rfl
  have cancelled (s : R56Struct) : (cancelLoopmodeTransmit s).bh = s.bh := by
    unfold cancelLoopmodeTransmit
    split
    · rfl
    · rfl
  have ended (s : R56Struct) : (cancelLoopmodeTransmit (endTransmission (countTxTimeout s))).bh = s.bh :=
    (cancelled _).trans (counted s)
  unfold r56TxTimeout
  dsimp only
  split
  · exact ended _
  · exact (r56BhTransmit_bh _).trans (ended _)

theorem r56Txabort_bh (info : R56Struct) : (r56Txabort info).bh = info.bh := by
  unfold r56Txabort
  split
  · split
    · rfl
    · rfl
  · rfl

theorem r56LoopmodeSendDone_bh (info : R56Struct) : (r56LoopmodeSendDone info).bh = info.bh := by
  unfold r56LoopmodeSendDone
  split
  · split
    · rfl
    · rfl
  · rfl

theorem exec_bh {info after : R56Struct} {op : Op} (other : ¬op.interrupts) (ran : exec info op = some after) :
    after.bh = info.bh := by
  cases op with
  | interrupt report => exact absurd trivial other
  | write buf count => cases ran; exact r56Write_bh info buf count
  | putChar ch =>
    cases ran
    show (r56PutChar info ch).1.bh = info.bh
    unfold r56PutChar
    split
    · rfl
    · rfl
  | flushChars => cases ran; exact r56FlushChars_bh info
  | flushBuffer => cases ran; rfl
  | stop =>
    cases ran
    show (r56Stop info).bh = info.bh
    unfold r56Stop
    split
    · rfl
    · rfl
  | start => cases ran; exact r56Start_bh info
  | sendXchar ch => cases ran; exact r56SendXchar_bh info ch
  | throttle => cases ran; exact r56Throttle_bh info
  | unthrottle => cases ran; exact r56Unthrottle_bh info
  | txenable enable => cases ran; exact r56Txenable_bh info enable
  | rxenable enable => cases ran; exact r56Rxenable_bh info enable
  | txabort => cases ran; exact r56Txabort_bh info
  | loopmodeSendDone => cases ran; exact r56LoopmodeSendDone_bh info
  | setParams newParams => cases ran; exact r56ChangeParams_bh _
  | setTermios cCflag cIflag baudRate => cases ran; exact r56SetTermios_bh _ _
  | setTxidle idleMode => cases ran; rfl
  | tiocmset set clear => cases ran; rfl
  | dtrRts on => cases ran; rfl
  | setBreak on => cases ran; rfl
  | bhReceive => exact bh_of_exceptReceiver (r56BhReceive_frame ran)
  | bhTransmit => cases ran; exact r56BhTransmit_bh info
  | bhStatus => cases ran; rfl
  | txTimeout => cases ran; exact r56TxTimeout_bh info
  | flow stopped hwStopped => cases ran; rfl
  | reception list rxDma => cases ran; rfl

end Route56
