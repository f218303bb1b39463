import Route56.BhFlags
import Route56.Primitives
import Route56.Programming
import Route56.Lib.Transition

namespace Route56

open Transition

/-- The parameters in effect are those of HDLC loop mode. -/
def R56Struct.hdlcLoop (info : R56Struct) : Prop := info.params.mode = r56ModeHdlc ∧ info.loopmode

instance (info : R56Struct) : Decidable info.loopmode := inferInstanceAs (Decidable (_ ≠ _))

instance (info : R56Struct) : Decidable info.hdlcLoop := inferInstanceAs (Decidable (_ ∧ _))

/-- The driver, the action the handler has taken but not done, and how many frames had been loaded
when `r56_loopmode_send_done` was called, until the first settled state after the call. -/
@[ext] structure LoopState where
  info : R56Struct
  action : Option Action := none
  since : Option Nat := none

/-- No frame is active and no work of the bottom half is pending. -/
def LoopState.settled (s : LoopState) : Prop :=
  s.info.txActive = false ∧ s.info.pendingBh = 0 ∧ s.action = none

instance (s : LoopState) : Decidable s.settled := inferInstanceAs (Decidable (_ ∧ _))

/-- How many frames had been loaded at the call, if no settled state has come since. -/
def LoopState.sinceCall (s : LoopState) : Option Nat := if s.settled then none else s.since

/-- The same after an operation. -/
def LoopState.sinceAfter (s : LoopState) (after : R56Struct) : Op → Option Nat
  | .loopmodeSendDone => some after.history.loads.length
  | _ => s.sinceCall

/-- The operation by which the handler does an action. -/
def Action.op : Action → Op
  | .receive => .bhReceive
  | .transmit => .bhTransmit
  | .status => .bhStatus

inductive LoopEvent
  | op (op : Op)
  | take (action : Action)
  | finish
  | perform

/-- An operation of the driver, or a handler that takes an action, finds none or does the one taken. -/
inductive LoopStep (s : LoopState) : LoopEvent → LoopState → Prop
  | op {op : Op} {t : LoopState} (ran : Step s.info op t.info) (loop : t.info.hdlcLoop) (action : t.action = s.action)
      (since : t.since = s.sinceAfter t.info op) : LoopStep s (.op op) t
  | take {action : Action} {t : LoopState} (free : s.action = none) (asked : (r56BhAction s.info).2 = action.bit)
      (info : t.info = (r56BhAction s.info).1) (taken : t.action = some action) (since : t.since = s.sinceCall) :
      LoopStep s (.take action) t
  | finish {t : LoopState} (free : s.action = none) (found : (r56BhAction s.info).2 = 0)
      (info : t.info = (r56BhAction s.info).1) (action : t.action = none) (since : t.since = s.sinceCall) :
      LoopStep s .finish t
  | perform {action : Action} {t : LoopState} (taken : s.action = some action)
      (ran : exec s.info action.op = some t.info) (done : t.action = none) (since : t.since = s.sinceCall) :
      LoopStep s .perform t

/-- In the first settled state after the call, if no newer frame was loaded, the line is released. -/
def LineReleased (s : LoopState) : Prop :=
  s.since = some s.info.history.loads.length → s.settled →
    s.info.loopmodeSendDoneRequested = false ∧ s.info.usc.control.released

/-- The work of `r56_bh_transmit` is pending or taken. -/
def LoopState.transmitPending (s : LoopState) : Prop :=
  s.info.pendingBh.asks .transmit = true ∨ s.action = some .transmit

/-- The interrupt reports the end of a frame of the network interface. -/
def endsForNet (info : R56Struct) : Op → Prop
  | .interrupt report => (info.reporting report).uscVector = 4 ∧ info.netcount ≠ 0
  | _ => False

/-- The operation ends a frame without asking for `r56_bh_transmit`: it stops the transmitter,
reprograms the chip or reports to the network interface only. -/
def endsUnreported (info : R56Struct) (op : Op) : Prop :=
  stopsTransmitter info op ∨ op.programs ∧ info.port.tty = true ∨ endsForNet info op

/-- The call has been made, and neither a newer frame was loaded nor a settled state reached. -/
def LoopState.awaiting (s : LoopState) : Prop := s.since = some s.info.history.loads.length ∧ ¬s.settled

/-- A frame at whose end the line is to be released does not end unreported, and a station does not
ask to be inserted before the line is released. -/
def KeepsRelease (s : LoopState) : LoopEvent → Prop
  | .op op => s.awaiting →
    (s.info.loopmodeSendDoneRequested = true → s.info.txActive = true → ¬s.transmitPending →
      ¬endsUnreported s.info op) ∧
    (op = .txenable true → s.info.txEnabled = false → s.info.loopmodeSendDoneRequested = true)
  | _ => True

/-- The line is released or to be released. -/
def R56Struct.releasing (info : R56Struct) : Prop :=
  info.loopmodeSendDoneRequested = true ∨ info.usc.control.released

/-- What the release depends on. -/
structure LoopView where
  loads : List (TxSource × List U8)
  requested : Bool
  active : Bool
  cmr : U16
  cmrValue : U16

def R56Struct.loopView (info : R56Struct) : LoopView where
  loads := info.history.loads
  requested := info.loopmodeSendDoneRequested
  active := info.txActive
  cmr := info.usc.control.cmr
  cmrValue := info.usc.control.cmrValue

/-- Without a newer frame a release stays due, none is asked for, and a frame stays active unless the
operation ends it. -/
structure KeepsLoop (info : R56Struct) (op : Op) (s t : R56Struct) : Prop where
  loads : s.history.loads.length ≤ t.history.loads.length
  releasing : t.history.loads.length = s.history.loads.length → s.releasing → t.releasing
  requested : t.loopmodeSendDoneRequested = true → s.loopmodeSendDoneRequested = true
  active : ¬stopsTransmitter info op → ¬endsSending info op → s.txActive = true → t.txActive = true

namespace KeepsLoop

variable {info s t u : R56Struct} {op : Op}

theorem of_eq (same : t.loopView = s.loopView) : KeepsLoop info op s t := by
  have loads : t.history.loads = s.history.loads := congrArg LoopView.loads same
  have requested : t.loopmodeSendDoneRequested = s.loopmodeSendDoneRequested := congrArg LoopView.requested same
  have active : t.txActive = s.txActive := congrArg LoopView.active same
  have cmr : t.usc.control.cmr = s.usc.control.cmr := congrArg LoopView.cmr same
  have cmrValue : t.usc.control.cmrValue = s.usc.control.cmrValue := congrArg LoopView.cmrValue same
  refine ⟨by rw [loads], fun _ releasing => ?_, fun asked => requested ▸ asked, fun _ _ => active.trans⟩
  unfold R56Struct.releasing ChipControl.released
  rw [requested, cmr, cmrValue]
  exact releasing

theorem trans (first : KeepsLoop info op s t) (second : KeepsLoop info op t u) : KeepsLoop info op s u where
  loads := first.loads.trans second.loads
  releasing same releasing := by
    have before := first.loads
    have after := second.loads
    exact second.releasing (by omega) (first.releasing (by omega) releasing)
  requested := first.requested ∘ second.requested
  active running sending := second.active running sending ∘ first.active running sending

/-- A newer frame is loaded. -/
theorem of_load (loads : s.history.loads.length < t.history.loads.length)
    (requested : t.loopmodeSendDoneRequested = s.loopmodeSendDoneRequested) (active : t.txActive = s.txActive) :
    KeepsLoop info op s t :=
  ⟨loads.le, fun same => absurd same loads.ne', fun asked => requested ▸ asked, fun _ _ => active.trans⟩

end KeepsLoop

theorem uscLoadTxfifo_loopView (info : R56Struct) : (uscLoadTxfifo info).loopView = info.loopView := by
  have step (s : R56Struct) (fifocount : Nat) : (loadTxfifoStep s fifocount).loopView = s.loopView := by
    unfold loadTxfifoStep
    dsimp only
    split
    · rfl
    · split <;> rfl
  exact uscLoadTxfifo_kept (R := fun s t => t.loopView = s.loopView) (fun _ => rfl)
    (fun first second => second.trans first) (fun _ _ => rfl) (fun _ => rfl) step info

theorem feedTransmitter_loopView (info : R56Struct) : (feedTransmitter info).loopView = info.loopView := by
  have dma : (startTxDma info).loopView = info.loopView := by
    unfold startTxDma R56Struct.loopView
    dsimp only
    split
    · rfl
    · rfl
  unfold feedTransmitter
  split
  · unfold startAsyncTransmitter
    dsimp only
    split
    · rfl
    · exact uscLoadTxfifo_loopView _
  · exact dma

theorem keepsLoop_prepare {info : R56Struct} {op : Op} : KeptPrepare (KeepsLoop info op) where
  refl _ := .of_eq rfl
  trans := .trans
  debt _ _ := .of_eq rfl
  read _ := .of_eq rfl
  raise _ := .of_eq rfl
  echo _ _ := .of_eq rfl
  silence _ := .of_eq rfl
  active _ := ⟨le_rfl, fun _ => id, id, fun _ _ _ => rfl⟩
  enable _ _ := .of_eq rfl

theorem KeepsLoop.start {info : R56Struct} {op : Op} (s : R56Struct) : KeepsLoop info op s (uscStartTransmitter s) :=
  keepsLoop_prepare.start fun _ => .of_eq (feedTransmitter_loopView _)

theorem loopView_of_control {s t : R56Struct} (loads : t.history.loads = s.history.loads)
    (active : t.txActive = s.txActive) (output : t.output = s.output) : t.loopView = s.loopView := by
  have requested : t.loopmodeSendDoneRequested = s.loopmodeSendDoneRequested := congrArg Prod.snd output
  have cmr : t.usc.control.cmr = s.usc.control.cmr := congrArg (·.1.cmr) output
  have cmrValue : t.usc.control.cmrValue = s.usc.control.cmrValue := congrArg (·.1.cmrValue) output
  unfold R56Struct.loopView
  rw [loads, active, requested, cmr, cmrValue]

theorem KeepsLoop.of_frame {info s t : R56Struct} {op : Op} (frame : t.exceptReception = s.exceptReception)
    (output : t.output = s.output) : KeepsLoop info op s t :=
  .of_eq (loopView_of_control (congrArg (·.history.loads) frame) (congrArg (·.txActive) frame) output)

theorem cleared_released (cmrValue : U16) : (cmrValue &&& ~~~bit13) &&& bit13 = 0 := by
  have disjoint : ~~~bit13 &&& bit13 = 0 := by decide
  rw [BitVec.and_assoc, disjoint]
  exact BitVec.and_zero

/-- The line is released and no release is asked for. -/
def R56Struct.sentDone (info : R56Struct) : Prop :=
  info.loopmodeSendDoneRequested = false ∧ info.usc.control.released

theorem uscLoopmodeSendDone_done (info : R56Struct) : (uscLoopmodeSendDone info).sentDone :=
  ⟨rfl, cleared_released info.usc.cmrValue, cleared_released info.usc.cmrValue⟩

theorem KeepsLoop.sendDone {info : R56Struct} {op : Op} (s : R56Struct) :
    KeepsLoop info op s (uscLoopmodeSendDone s) where
  loads := le_rfl
  releasing _ _ := .inr (uscLoopmodeSendDone_done s).2
  requested asked := absurd asked Bool.false_ne_true
  active _ _ := id

/-- A load is counted. -/
theorem load_counted (s : R56Struct) {load : TxSource × List U8} :
    s.history.loads.length < (s.history.loads ++ [load]).length := by
  simp

/-- All that an operation calls, but the two loop mode requests. -/
theorem keepsLoop_parts {info : R56Struct} {op : Op} (request : op ≠ .loopmodeSendDone)
    (insert : op ≠ .txenable true) : KeptParts (KeepsLoop info op) info op where
  refl _ := .of_eq rfl
  trans := .trans
  reception frame control := .of_frame frame (output_of_control control)
  flow _ _ _ := .of_eq rfl
  xchar _ _ := .of_eq rfl
  read _ := .of_eq rfl
  negate s := by
    unfold negateRts
    split
    · exact .of_eq rfl
    · exact .of_eq rfl
  dropped _ := .of_eq rfl
  enable s _ := .start s
  fed s _ := .of_eq (uscLoadTxfifo_loopView s)
  reset _ := .of_eq rfl
  sendDone := .sendDone
  insertion s status := by
    unfold completeInsertion
    split
    · have clear := cleared_released s.usc.cmrValue
      exact ⟨le_rfl, fun _ _ => .inr ⟨clear, clear⟩, id, fun _ _ => id⟩
    · exact .of_eq rfl
  noted _ := .of_frame
  stop stops _ := ⟨le_rfl, fun _ => id, id, fun running => absurd stops running⟩
  ended ends _ := ⟨le_rfl, fun _ => id, id, fun _ sending => absurd ends sending⟩
  idle ends _ _ := ⟨le_rfl, fun _ => id, id, fun _ sending => absurd ends sending⟩
  set _ _ _ := .of_eq rfl
  insert asked := absurd asked insert
  request asked := absurd asked request
  flush _ _ := .of_eq rfl
  collect _ _ _ _ _ := .of_eq rfl
  chunk _ _ _ _ _ _ _ _ := .of_eq rfl
  loadXmitBuf _ s _ _ _ := .of_load (load_counted s) rfl rfl
  loadWrite _ s _ _ _ _ _ := .of_load (load_counted s) rfl rfl
  hold _ s buf count _ _ _ room := by
    unfold saveTxBufferRequest
    rw [if_neg (Nat.not_le_of_lt room)]
    exact .of_eq rfl
  unhold _ s := by
    unfold loadNextTxHoldingBuffer
    dsimp only
    split
    · exact .of_load (load_counted s) rfl rfl
    · exact .of_eq rfl
  emptied _ _ := .of_eq rfl

/-- In HDLC loop mode programming an attached port releases the line. -/
theorem r56ChangeParams_loop {info : R56Struct} (loop : (r56ChangeParams info).hdlcLoop) :
    (r56ChangeParams info).history.loads = info.history.loads ∧
      (r56ChangeParams info).loopmodeSendDoneRequested = info.loopmodeSendDoneRequested ∧
      (info.port.tty = true ∧ (r56ChangeParams info).usc.control.released ∨
        info.port.tty = false ∧ (r56ChangeParams info).loopView = info.loopView) := by
  unfold r56ChangeParams at loop ⊢
  split at loop
  · rename_i detached
    rw [if_pos detached]
    exact ⟨rfl, rfl, .inr ⟨Bool.eq_false_iff.mpr detached, rfl⟩⟩
  · rename_i attached
    rw [if_neg attached]
    dsimp only at loop ⊢
    generalize changed : ({ info with
      serialSignals := _, params := _, timeout := _, port := _, readStatusMask := _,
      ignoreStatusMask := _ } : R56Struct) = s at loop ⊢
    have frame := r56ProgramHw_frame s
    have loads : (r56ProgramHw s).history.loads = s.history.loads := congrArg (·.history.loads) frame
    have requested : (r56ProgramHw s).loopmodeSendDoneRequested = s.loopmodeSendDoneRequested :=
      congrArg (·.loopmodeSendDoneRequested) frame
    have mode : (r56ProgramHw s).params.mode = s.params.mode := congrArg (·.params.mode) frame
    have flags : (r56ProgramHw s).params.flags = s.params.flags := congrArg (·.params.flags) frame
    have inLoop : s.loopmode := by
      have after := loop.2
      unfold R56Struct.loopmode at after ⊢
      rwa [flags] at after
    have released := r56ProgramHw_released (.inl (mode.symm.trans loop.1)) inLoop
    have before : s.history.loads = info.history.loads ∧
        s.loopmodeSendDoneRequested = info.loopmodeSendDoneRequested := by
      rw [← changed]
      exact ⟨rfl, rfl⟩
    exact ⟨loads.trans before.1, requested.trans before.2, .inl ⟨not_not.mp attached, released⟩⟩

/-- A request that reprograms the chip releases the line, on an attached port, and may then start
the transmitter. -/
theorem exec_programs_loop {info after : R56Struct} {op : Op} (programs : op.programs) (loop : after.hdlcLoop)
    (ran : exec info op = some after) :
    ∃ mid : R56Struct, KeepsLoop info op mid after ∧ mid.history.loads = info.history.loads ∧
      mid.loopmodeSendDoneRequested = info.loopmodeSendDoneRequested ∧
      (info.port.tty = true ∧ mid.usc.control.released ∨
        info.port.tty = false ∧ mid.loopView = info.loopView) := by
  cases op with
  | setParams newParams =>
    cases ran
    obtain ⟨loads, requested, released⟩ := @r56ChangeParams_loop { info with params := newParams } loop
    exact ⟨_, .of_eq rfl, loads, requested, released⟩
  | setTermios cCflag cIflag baudRate =>
    cases ran
    generalize asked : ({ info with
      tty := { info.tty with cCflag := cCflag, cIflag := cIflag, baudRate := baudRate } } : R56Struct) = s at loop
    have setup := setup_kept.termios (r56ChangeParams s) info.tty.cCflag
    have mode : (r56SetTermios s info.tty.cCflag).params.mode = (r56ChangeParams s).params.mode :=
      congrArg (·.params.mode) setup
    have flags : (r56SetTermios s info.tty.cCflag).params.flags = (r56ChangeParams s).params.flags :=
      congrArg (·.params.flags) setup
    have changed : (r56ChangeParams s).hdlcLoop := by
      obtain ⟨hdlc, inLoop⟩ := loop
      unfold R56Struct.loopmode at inLoop
      rw [flags] at inLoop
      exact ⟨mode.symm.trans hdlc, inLoop⟩
    obtain ⟨loads, requested, released⟩ := r56ChangeParams_loop changed
    have before : s.history.loads = info.history.loads ∧ s.port.tty = info.port.tty ∧
        s.loopView = info.loopView ∧ s.loopmodeSendDoneRequested = info.loopmodeSendDoneRequested := by
      rw [← asked]
      exact ⟨rfl, rfl, rfl, rfl⟩
    obtain ⟨sameLoads, tty, view, sameRequest⟩ := before
    have finished : KeepsLoop info (.setTermios cCflag cIflag baudRate) (r56ChangeParams s)
        (r56SetTermios s info.tty.cCflag) :=
      (keepsLoop_parts (by nofun) (by nofun)).toKeptCore.termios (fun _ _ => .of_eq rfl) .start _ _
    rw [tty, view] at released
    exact ⟨_, asked ▸ finished, loads.trans sameLoads, requested.trans sameRequest, released⟩
  | _ => exact absurd programs id

/-- What an operation does to the release, other than asking for it. -/
structure LoopAfter (info : R56Struct) (op : Op) (after : R56Struct) : Prop where
  loads : info.history.loads.length ≤ after.history.loads.length
  releasing : after.history.loads.length = info.history.loads.length →
    (op = .txenable true → info.txEnabled = false → info.loopmodeSendDoneRequested = true) →
    info.releasing → after.releasing
  requested : after.loopmodeSendDoneRequested = true → info.loopmodeSendDoneRequested = true
  active : ¬endsUnreported info op → ¬endsSending info op → info.txActive = true → after.txActive = true

theorem LoopAfter.of_keeps {info after : R56Struct} {op : Op} (keeps : KeepsLoop info op info after) :
    LoopAfter info op after where
  loads := keeps.loads
  releasing same _ := keeps.releasing same
  requested := keeps.requested
  active reported := keeps.active fun stops => reported (.inl stops)

/-- A station that asks to be inserted is to be released if it was before. -/
theorem r56Txenable_loop (info : R56Struct) : LoopAfter info (.txenable true) (r56Txenable info true) := by
  unfold r56Txenable
  dsimp only
  rw [if_pos rfl]
  split
  · exact .of_keeps (.of_eq rfl)
  rename_i disabled
  have disabled : info.txEnabled = false := Bool.eq_false_iff.mpr disabled
  have started : KeepsLoop info (.txenable true) info (uscStartTransmitter info) := .start info
  split
  · have kept : (uscStartTransmitter info).loopmodeSendDoneRequested = info.loopmodeSendDoneRequested :=
      congrArg (·.loopmodeSendDoneRequested) (uscStartTransmitter_frame info)
    refine ⟨started.loads, fun _ asked _ => ?_, started.requested, fun reported => ?_⟩
    · exact .inl (kept.trans (asked rfl disabled))
    · exact started.active fun stops => reported (.inl stops)
  · exact .of_keeps started

theorem exec_loop {info after : R56Struct} {op : Op} (request : op ≠ .loopmodeSendDone) (loop : after.hdlcLoop)
    (ran : exec info op = some after) : LoopAfter info op after := by
  by_cases programs : op.programs
  · obtain ⟨mid, finished, loads, requested, changed⟩ := exec_programs_loop programs loop ran
    rcases changed with ⟨attached, released⟩ | ⟨detached, same⟩
    · have grows := finished.loads
      rw [loads] at grows
      refine ⟨grows, fun same _ _ => ?_, fun asked => ?_, fun reported => ?_⟩
      · exact finished.releasing (by rw [same, loads]) (.inr released)
      · exact requested ▸ finished.requested asked
      · exact absurd (.inr (.inl ⟨programs, attached⟩)) reported
    · exact .of_keeps ((KeepsLoop.of_eq same).trans finished)
  by_cases insert : op = .txenable true
  · subst insert
    cases ran
    exact r56Txenable_loop info
  · exact .of_keeps ((keepsLoop_parts request insert).exec (fun _ => .start) programs ran)

theorem asks_transmit (pending : U32) : (pending ||| bhTransmit).asks .transmit = true := by
  have set : U32.asks bhTransmit .transmit = true := rfl
  rw [asks_or, set, Bool.or_true]

theorem r56Interrupt_pendingBh (info : R56Struct) :
    (r56Interrupt info).pendingBh = (serviceInterrupt info).pendingBh := by
  have halted (s : R56Struct) : (haltOnOverflow s).pendingBh = s.pendingBh := by
    unfold haltOnOverflow
    split
    · rfl
    · rfl
  have scheduled (s : R56Struct) : (scheduleBh s).pendingBh = s.pendingBh := by
    unfold scheduleBh
    split
    · rfl
    · rfl
  exact (scheduled _).trans (halted _)

theorem serviceInterrupt_table {info : R56Struct} {vector : Nat} (read : info.uscVector = vector)
    (some : vector ≠ 0) : serviceInterrupt info = uscIsrTable vector info := by
  unfold serviceInterrupt
  dsimp only
  rw [if_pos (by rw [read]; exact some), read]

/-- The end of a frame that does not stop the transmitter asks for `r56_bh_transmit`. -/
theorem r56IsrTransmitStatus_asks {info : R56Struct} (tty : info.netcount = 0) (free : info.ttyStopped = false) :
    (r56IsrTransmitStatus info).pendingBh.asks .transmit = true := by
  have frame := KeptCalls.dropAutoRts_frame (ackTxStatus info (uscInReg info.usc .tcsr))
  have netcount := congrArg R56Struct.netcount frame
  have stopped := congrArg R56Struct.ttyStopped frame
  unfold r56IsrTransmitStatus
  dsimp only
  split
  · rename_i some
    exact absurd (netcount.trans tty) some
  split
  · rename_i held
    exact absurd (held.symm.trans (stopped.trans free)) (by decide)
  · exact asks_transmit _

theorem r56IsrTransmitData_asks {info : R56Struct} (free : info.ttyStopped = false) (empty : info.xmitCnt = 0) :
    (r56IsrTransmitData info).pendingBh.asks .transmit = true := by
  have few (s : R56Struct) (none : s.xmitCnt = 0) : (continueAsync s).xmitCnt < wakeupChars := by
    unfold continueAsync
    rw [if_neg (not_not.mpr none)]
    show s.xmitCnt < wakeupChars
    rw [none]
    decide
  unfold r56IsrTransmitData
  dsimp only
  split
  · rename_i held
    exact absurd (held.symm.trans free) (by decide)
  split
  · exact asks_transmit _
  · rename_i many
    exact (many (few _ empty)).elim

/-- In loop mode the timeout releases the line. -/
theorem r56TxTimeout_done {info : R56Struct} (loop : info.loopmode) : (r56TxTimeout info).sentDone := by
  have flags : (countTxTimeout { info with txTimer := false }).params = info.params := by
    unfold countTxTimeout
    split
    · rfl
    · rfl
  unfold r56TxTimeout
  dsimp only
  generalize countTxTimeout { info with txTimer := false } = counted at flags ⊢
  have inLoop : counted.loopmode := by
    unfold R56Struct.loopmode
    rw [flags]
    exact loop
  have cancelled : (cancelLoopmodeTransmit (endTransmission counted)).sentDone := by
    have cancels : cancelLoopmodeTransmit (endTransmission counted) =
        uscLoopmodeCancelTransmit (endTransmission counted) := if_pos inLoop
    rw [cancels]
    exact uscLoopmodeSendDone_done _
  split
  · exact cancelled
  · unfold r56BhTransmit
    split
    · exact uscLoopmodeSendDone_done _
    · exact cancelled

/-- A frame that ends while a release is asked for, other than unreported, leaves it to the bottom half. -/
theorem exec_endsSending {info after : R56Struct} {op : Op} (loop : info.loopmode)
    (reported : ¬endsUnreported info op) (ends : endsSending info op) (ran : exec info op = some after)
    (asked : after.loopmodeSendDoneRequested = true) :
    after.pendingBh.asks .transmit = true := by
  cases op with
  | txTimeout =>
    cases ran
    have done := (r56TxTimeout_done loop).1
    rw [show (r56TxTimeout info).loopmodeSendDoneRequested = true from asked] at done
    cases done
  | interrupt report =>
    cases ran
    show (r56Interrupt (info.reporting report)).pendingBh.asks .transmit = true
    rw [r56Interrupt_pendingBh]
    have running : ¬stopsTransmitter info (.interrupt report) := fun stops => reported (.inl stops)
    rcases ends with vector | ⟨vector, free, empty⟩
    · have tty : info.netcount = 0 := not_not.mp fun some => reported (.inr (.inr ⟨vector, some⟩))
      have free : info.ttyStopped = false :=
        Bool.eq_false_iff.mpr fun stopped => running (.inr (.inr ⟨vector, tty, stopped⟩))
      rw [serviceInterrupt_table vector (by decide)]
      exact @r56IsrTransmitStatus_asks (info.reporting report) tty free
    · rw [serviceInterrupt_table vector (by decide)]
      exact @r56IsrTransmitData_asks (info.reporting report) free empty
  | _ => exact absurd ends id

/-- No operation withdraws the work of `r56_bh_transmit`. -/
theorem exec_asks {info after : R56Struct} {op : Op} (ran : exec info op = some after) (action : Action)
    (asks : info.pendingBh.asks action = true) : after.pendingBh.asks action = true := by
  by_cases interrupts : op.interrupts
  · cases op with
    | interrupt report =>
      cases ran
      obtain ⟨bits, -, -, flags⟩ := r56Interrupt_bh (info.reporting report)
      have pending : (r56Interrupt (info.reporting report)).pendingBh = info.pendingBh ||| bits :=
        (congrArg Bh.pending flags).trans (interrupted_pending _ _)
      show (r56Interrupt (info.reporting report)).pendingBh.asks action = true
      rw [pending, asks_or, asks, Bool.true_or]
    | _ => exact absurd interrupts id
  · have pending : after.pendingBh = info.pendingBh := congrArg Bh.pending (exec_bh interrupts ran)
    rw [pending]
    exact asks

/-- What every run keeps whose steps keep the release. -/
structure LoopInv (s : LoopState) : Prop where
  loop : s.info.hdlcLoop
  bounded : ∀ loaded, s.since = some loaded → loaded ≤ s.info.history.loads.length
  releasing : s.since = some s.info.history.loads.length → s.info.releasing
  waits : s.since = some s.info.history.loads.length → s.info.loopmodeSendDoneRequested = true →
    s.info.txActive = true ∨ s.transmitPending

/-- In a settled state no work of `r56_bh_transmit` is left. -/
theorem LoopState.settled.idle {s : LoopState} (settled : s.settled) : ¬s.transmitPending := by
  rintro (asks | taken)
  · rw [settled.2.1] at asks
    cases asks
  · rw [settled.2.2] at taken
    cases taken

theorem LoopInv.released {s : LoopState} (inv : LoopInv s) : LineReleased s := by
  intro called settled
  have quiet : s.info.loopmodeSendDoneRequested = false := by
    refine Bool.eq_false_iff.mpr fun asked => ?_
    rcases inv.waits called asked with active | pending
    · rw [settled.1] at active
      cases active
    · exact settled.idle pending
  refine ⟨quiet, ?_⟩
  rcases inv.releasing called with asked | released
  · rw [quiet] at asked
    cases asked
  · exact released

/-- The call is pending still if it was before and the state has not settled. -/
theorem LoopState.sinceCall_eq {s : LoopState} {loaded : Nat} (called : s.sinceCall = some loaded) :
    s.since = some loaded ∧ ¬s.settled := by
  unfold LoopState.sinceCall at called
  split at called
  · cases called
  · rename_i unsettled
    exact ⟨called, unsettled⟩

theorem LoopInv.requested {s : LoopState} (inv : LoopInv s) :
    LoopInv { s with
      info := r56LoopmodeSendDone s.info
      since := some (r56LoopmodeSendDone s.info).history.loads.length } := by
  have bounded (t : R56Struct) : ∀ loaded, some t.history.loads.length = some loaded →
      loaded ≤ t.history.loads.length := by
    rintro _ ⟨⟩
    exact le_rfl
  have done : r56LoopmodeSendDone s.info =
      if s.info.txActive then { s.info with loopmodeSendDoneRequested := true } else uscLoopmodeSendDone s.info :=
    if_pos inv.loop.2
  cases active : s.info.txActive with
  | true =>
    have asked : r56LoopmodeSendDone s.info = { s.info with loopmodeSendDoneRequested := true } :=
      done.trans (if_pos active)
    rw [asked]
    exact ⟨inv.loop, bounded _, fun _ => .inl rfl, fun _ _ => .inl active⟩
  | false =>
    have sent : r56LoopmodeSendDone s.info = uscLoopmodeSendDone s.info :=
      done.trans (if_neg (Bool.eq_false_iff.mp active))
    rw [sent]
    have released := uscLoopmodeSendDone_done s.info
    exact ⟨inv.loop, bounded _, fun _ => .inr released.2, fun _ asked => absurd asked Bool.false_ne_true⟩

theorem LoopInv.op {s : LoopState} {op : Op} {after : R56Struct} (inv : LoopInv s) (ran : exec s.info op = some after)
    (loop : after.hdlcLoop) (keeps : KeepsRelease s (.op op)) (request : op ≠ .loopmodeSendDone) :
    LoopInv { s with info := after, since := s.sinceCall } := by
  have kept := exec_loop request loop ran
  have called {loaded : Nat} (since : s.sinceCall = some loaded) : loaded ≤ s.info.history.loads.length :=
    inv.bounded loaded (LoopState.sinceCall_eq since).1
  have grows := kept.loads
  -- without a newer frame the call is still awaited
  have awaiting (since : s.sinceCall = some after.history.loads.length) :
      s.awaiting ∧ after.history.loads.length = s.info.history.loads.length := by
    have before := called since
    have same : after.history.loads.length = s.info.history.loads.length := by omega
    obtain ⟨pending, unsettled⟩ := LoopState.sinceCall_eq since
    exact ⟨⟨same ▸ pending, unsettled⟩, same⟩
  refine ⟨loop, fun loaded since => (called since).trans grows, fun since => ?_, fun since asked => ?_⟩
  · obtain ⟨waited, same⟩ := awaiting since
    exact kept.releasing same (keeps waited).2 (inv.releasing waited.1)
  · obtain ⟨waited, -⟩ := awaiting since
    have requested := kept.requested asked
    by_cases pending : s.transmitPending
    · rcases pending with asks | taken
      · exact .inr (.inl (exec_asks ran .transmit asks))
      · exact .inr (.inr taken)
    have active : s.info.txActive = true := (inv.waits waited.1 requested).resolve_right pending
    have reported := (keeps waited).1 requested active pending
    by_cases ends : endsSending s.info op
    · exact .inr (.inl (exec_endsSending inv.loop.2 reported ends ran asked))
    · exact .inl (kept.active reported ends active)

theorem hdlcLoop_of_setup {s t : R56Struct} (same : t.setup = s.setup) (loop : s.hdlcLoop) : t.hdlcLoop := by
  have mode : t.params.mode = s.params.mode := congrArg (·.params.mode) same
  have flags : t.params.flags = s.params.flags := congrArg (·.params.flags) same
  obtain ⟨hdlc, inLoop⟩ := loop
  refine ⟨mode.trans hdlc, ?_⟩
  unfold R56Struct.loopmode at inLoop ⊢
  rwa [flags]

/-- `r56_bh_action` only takes work. -/
theorem r56BhAction_keeps (info : R56Struct) :
    (r56BhAction info).1.loopView = info.loopView ∧ (r56BhAction info).1.setup = info.setup := by
  unfold r56BhAction
  split
  · exact ⟨rfl, rfl⟩
  split
  · exact ⟨rfl, rfl⟩
  split
  · exact ⟨rfl, rfl⟩
  · exact ⟨rfl, rfl⟩

/-- A handler that takes work takes it as its action. -/
theorem r56BhAction_pending {info : R56Struct} {action : Option Action}
    (taken : ∀ other : Action, (r56BhAction info).2 = other.bit → action = some other)
    (asks : info.pendingBh.asks .transmit = true) :
    (r56BhAction info).1.pendingBh.asks .transmit = true ∨ action = some .transmit := by
  rcases r56BhAction_bh info with ⟨first, asked, returned, flags⟩ | ⟨none, -, -⟩
  · have left : (r56BhAction info).1.pendingBh = info.pendingBh &&& ~~~first.bit := congrArg Bh.pending flags
    by_cases same : first = .transmit
    · subst same
      exact .inr (taken _ returned)
    · refine .inl ?_
      rw [left, asks_clear, asks, Bool.true_and]
      exact decide_eq_true (Ne.symm same)
  · rw [none .transmit] at asks
    cases asks

theorem bit_injective {action other : Action} (same : action.bit = other.bit) : action = other := by
  revert same
  cases action <;> cases other <;> decide

theorem LoopInv.taken {s : LoopState} (inv : LoopInv s) {action : Option Action} (free : s.action = none)
    (taken : ∀ other : Action, (r56BhAction s.info).2 = other.bit → action = some other) :
    LoopInv { s with info := (r56BhAction s.info).1, action := action, since := s.sinceCall } := by
  obtain ⟨view, setup⟩ := r56BhAction_keeps s.info
  have loads : (r56BhAction s.info).1.history.loads = s.info.history.loads := congrArg LoopView.loads view
  have keeps : KeepsLoop s.info .bhStatus s.info (r56BhAction s.info).1 := .of_eq view
  have before {loaded : Nat} (called : s.sinceCall = some loaded) := (LoopState.sinceCall_eq called).1
  refine ⟨hdlcLoop_of_setup setup inv.loop, fun loaded called => ?_, fun called => ?_, fun called asked => ?_⟩
  · exact (inv.bounded loaded (before called)).trans keeps.loads
  · have called := before called
    rw [loads] at called
    exact keeps.releasing (congrArg List.length loads) (inv.releasing called)
  · have called := before called
    rw [loads] at called
    rcases inv.waits called (keeps.requested asked) with active | pending
    · exact .inl (keeps.active id id active)
    · have asks : s.info.pendingBh.asks .transmit = true := pending.resolve_right (by rw [free]; nofun)
      exact .inr (r56BhAction_pending taken asks)

theorem LoopInv.performed {s : LoopState} {action : Action} {after : R56Struct} (inv : LoopInv s)
    (taken : s.action = some action) (ran : exec s.info action.op = some after) :
    LoopInv { info := after, action := none, since := s.sinceCall } := by
  have free : ¬action.op.programs := by cases action <;> exact id
  have loop : after.hdlcLoop := hdlcLoop_of_setup (exec_setup free ran) inv.loop
  have kept := exec_loop (by cases action <;> nofun) loop ran
  have before {loaded : Nat} (called : s.sinceCall = some loaded) := (LoopState.sinceCall_eq called).1
  have same (called : s.sinceCall = some after.history.loads.length) :
      after.history.loads.length = s.info.history.loads.length := by
    have bounded := inv.bounded _ (before called)
    have grows := kept.loads
    omega
  refine ⟨loop, fun loaded called => (inv.bounded loaded (before called)).trans kept.loads, fun called => ?_,
    fun called asked => ?_⟩
  · exact kept.releasing (same called) (by cases action <;> nofun) (inv.releasing (same called ▸ before called))
  · have requested := kept.requested asked
    have stays : s.info.txActive = true → after.txActive = true := by
      refine kept.active ?_ ?_
      · rintro (stops | ⟨programs, -⟩ | net)
        · cases action <;> exact stops
        · exact free programs
        · cases action <;> exact net
      · cases action <;> exact id
    rcases inv.waits (same called ▸ before called) requested with active | pending
    · exact .inl (stays active)
    rcases pending with asks | transmits
    · exact .inr (.inl (exec_asks ran .transmit asks))
    · cases taken.symm.trans transmits
      cases ran
      by_cases active : s.info.txActive = true
      · exact .inl (stays active)
      · have done : r56BhTransmit s.info = uscLoopmodeSendDone s.info := if_pos ⟨active, requested⟩
        have quiet : (r56BhTransmit s.info).loopmodeSendDoneRequested = false := by
          rw [done]
          rfl
        exact absurd (quiet.symm.trans asked) (by decide)

theorem LoopInv.step {s t : LoopState} {event : LoopEvent} (inv : LoopInv s) (step : LoopStep s event t)
    (keeps : KeepsRelease s event) : LoopInv t := by
  cases step with
  | @op op _ ran loop action since =>
    have state : t = { s with info := t.info, since := s.sinceAfter t.info op } := LoopState.ext rfl action since
    rw [state]
    by_cases request : op = .loopmodeSendDone
    · subst request
      have done : t.info = r56LoopmodeSendDone s.info := (Option.some.inj ran.1).symm
      rw [done]
      exact inv.requested
    · have called : s.sinceAfter t.info op = s.sinceCall := by
        unfold LoopState.sinceAfter
        split
        · exact absurd rfl request
        · rfl
      rw [called]
      exact inv.op ran.1 loop keeps request
  | @take action _ free asked info taken since =>
    have state : t = { info := (r56BhAction s.info).1, action := some action, since := s.sinceCall } :=
      LoopState.ext info taken since
    rw [state]
    refine inv.taken free fun other returned => ?_
    rw [bit_injective (asked.symm.trans returned)]
  | finish free found info action since =>
    have state : t = { info := (r56BhAction s.info).1, action := none, since := s.sinceCall } :=
      LoopState.ext info action since
    rw [state]
    refine inv.taken free fun other returned => ?_
    rw [found] at returned
    cases other <;> exact absurd returned (by decide)
  | perform taken ran done since =>
    have state : t = { info := t.info, action := none, since := s.sinceCall } := LoopState.ext rfl done since
    rw [state]
    exact inv.performed taken ran

/-- In every run in HDLC loop mode in which no frame ends unreported at whose end the line is to be
released, and no station asks to be inserted before it is, the line is released in the first settled
state after each call of `r56_loopmode_send_done`. -/
theorem loop_released_of_kept {s : LoopState} {p : List (LoopEvent × LoopState)} (loop : s.info.hdlcLoop)
    (start : s.since = none) (run : Run LoopStep s p) (keeps : Run (fun s e _ => KeepsRelease s e) s p) :
    ∀ x ∈ p, LineReleased x.2 := by
  have init : LoopInv s := by
    refine ⟨loop, ?_, ?_, ?_⟩
    · intro loaded called
      cases start.symm.trans called
    · intro called
      cases start.symm.trans called
    · intro called
      cases start.symm.trans called
  have both : Run (fun s e t => LoopStep s e t ∧ KeepsRelease s e) s p := run_and.mpr ⟨run, keeps⟩
  have reached := both.invariant (P := LoopInv) (fun s e t inv step => LoopInv.step inv step.1 step.2) init
  exact fun x member => (reached x member).released

/-- A port in HDLC loop mode whose station is in the loop. -/
def loopDevice : R56Struct :=
  (r56SetParams openedDevice { openedDevice.params with flags := hdlcFlagHdlcLoopmode }).reporting
    { status := fun reg => if reg = .ccsr then bit7 else 0 }

/-- The last frame is sent, the bottom half runs and the line is released. -/
theorem loop_released_of_kept_sent :
    let sent := (r56Write loopDevice (fun _ => 0x7e) 1).1
    let asked := r56LoopmodeSendDone sent
    let ended := r56Interrupt (asked.reporting frameSent)
    LineReleased ⟨r56BhTransmit (r56BhAction ended).1, none, some 1⟩ := by
  intro sent asked ended
  have steps : Run LoopStep ⟨sent, none, none⟩
      [(.op .loopmodeSendDone, ⟨asked, none, some 1⟩), (.op (.interrupt frameSent), ⟨ended, none, some 1⟩),
        (.take .transmit, ⟨(r56BhAction ended).1, some .transmit, some 1⟩),
        (.perform, ⟨r56BhTransmit (r56BhAction ended).1, none, some 1⟩)] := by
    refine ⟨.op ⟨rfl, nofun⟩ (by decide) rfl (by decide), .op ⟨rfl, nofun⟩ (by decide) rfl (by decide),
      .take rfl (by decide) rfl rfl (by decide), .perform rfl rfl rfl (by decide), trivial⟩
  have reports : ¬endsUnreported asked (.interrupt frameSent) := by
    rintro (stops | ⟨programs, -⟩ | ⟨-, net⟩)
    · rcases stops with ⟨vector, -⟩ | ⟨vector, -⟩ | ⟨-, -, stopped⟩
      · exact absurd vector (by decide)
      · exact absurd vector (by decide)
      · exact absurd stopped (by decide)
    · exact programs
    · exact net (by decide)
  exact loop_released_of_kept (by decide) rfl steps
    ⟨fun _ => ⟨fun _ _ _ => nofun, nofun⟩, fun _ => ⟨fun _ _ _ => reports, nofun⟩, trivial, trivial, trivial⟩
    (.perform, _) (by simp)

/-- The transmitter is stopped while the last frame is sent: the line stays taken. -/
theorem stopped_unreleased :
    let sent := (r56Write loopDevice (fun _ => 0x7e) 1).1
    let asked := r56LoopmodeSendDone sent
    let stopped := r56Stop asked
    let run : List (LoopEvent × LoopState) :=
      [(.op (.write (fun _ => 0x7e) 1), ⟨sent, none, none⟩), (.op .loopmodeSendDone, ⟨asked, none, some 1⟩),
        (.op .stop, ⟨stopped, none, some 1⟩)]
    loopDevice.hdlcLoop ∧ Run LoopStep ⟨loopDevice, none, none⟩ run ∧ ¬∀ x ∈ run, LineReleased x.2 := by
  intro sent asked stopped run
  refine ⟨by decide, ⟨.op ⟨rfl, nofun⟩ (by decide) rfl (by decide), .op ⟨rfl, nofun⟩ (by decide) rfl (by decide),
    .op ⟨rfl, nofun⟩ (by decide) rfl (by decide), trivial⟩, fun released => ?_⟩
  have last := released (.op .stop, ⟨stopped, none, some 1⟩) (by simp [run])
  exact absurd (last (by decide) (by decide)).1 (by decide)

end Route56
