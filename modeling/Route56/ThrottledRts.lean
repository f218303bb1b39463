import Route56.AutoRts
import Route56.Primitives
import Route56.Programming

namespace Route56

open Transition

/-- RTS is down, in the signals and in the Port Control Register. -/
def R56Struct.rtsDown (info : R56Struct) : Prop := ¬info.rts ∧ info.usc.reg .pcr &&& rtsField = rtsField

/-- RTS is down, and was down in all that has been written since `s`. -/
structure RtsStaysDown (s t : R56Struct) : Prop where
  down : t.rtsDown
  writes : ∃ writes, t.usc.pcrWrites = s.usc.pcrWrites ++ writes ∧ ∀ w ∈ writes, w &&& rtsField = rtsField

/-- Neither the end of the throttling, nor a change of RTS by the user; CRTSCTS and the asynchronous
mode are kept. -/
def Op.keepsThrottled : Op → Prop
  | .unthrottle | .dtrRts _ => False
  | .tiocmset set _ => set &&& serialSignalRts = 0
  | .setTermios cCflag _ _ => cCflag &&& crtscts ≠ 0
  | .setParams newParams => newParams.mode = r56ModeAsync
  | _ => True

inductive ThrottledEvent
  | op (op : Op)
  | signals
  | query

/-- An operation, a status query that reads the modem signals, or one that only touches counters and
registers other than those of the signals. -/
inductive ThrottledStep (s : R56Struct) : ThrottledEvent → R56Struct → Prop
  | op {op : Op} {t : R56Struct} (ran : Step s op t) (keeps : op.keepsThrottled) : ThrottledStep s (.op op) t
  | signals : ThrottledStep s .signals (uscGetSerialSignals s)
  | query {t : R56Struct} (frame : t.exceptChip = s.exceptChip) (control : t.control = s.control) :
      ThrottledStep s .query t

/-- The control flags during the operation. -/
def cflagOf (info : R56Struct) : Op → U32
  | .setTermios cCflag _ _ => cCflag
  | _ => info.tty.cCflag

/-- In automatic RTS mode no frame is begun, and an attached port is reprogrammed only at B0 and not on the
ISA bus. -/
def KeepsRtsDown (s : R56Struct) : ThrottledEvent → Prop
  | .op op => (beginsFrame s op → s.params.flags &&& hdlcFlagAutoRts = 0) ∧
    (op.programs → s.port.tty = true → cflagOf s op &&& cbaud = 0 ∧ s.busType ≠ .isa)
  | _ => True

/-- What decides what happens to RTS. -/
structure RtsContext where
  mode : Nat
  flags : U16
  cCflag : U32
  throttled : Bool

def R56Struct.rtsContext (info : R56Struct) : RtsContext where
  mode := info.params.mode
  flags := info.params.flags
  cCflag := info.tty.cCflag
  throttled := info.tty.throttled

/-- RTS stays down, in automatic RTS mode if no frame is begun. -/
structure KeepsDown (begins : Prop) (s t : R56Struct) : Prop where
  context : t.rtsContext = s.rtsContext
  down : (begins → s.params.flags &&& hdlcFlagAutoRts = 0) → s.rtsDown → RtsStaysDown s t

namespace KeepsDown

variable {begins : Prop} {s t u : R56Struct}

theorem of_same (context : t.rtsContext = s.rtsContext) (rts : t.rts ↔ s.rts)
    (pcr : t.usc.control.pcr = s.usc.control.pcr) (writes : t.usc.control.pcrWrites = s.usc.control.pcrWrites) :
    KeepsDown begins s t := by
  refine ⟨context, fun _ down => ⟨⟨mt rts.mp down.1, ?_⟩, [], ?_, nofun⟩⟩
  · have same : t.usc.reg .pcr = s.usc.reg .pcr := pcr
    rw [same]
    exact down.2
  · have same : t.usc.pcrWrites = s.usc.pcrWrites := writes
    rw [same, List.append_nil]

theorem of_eq (context : t.rtsContext = s.rtsContext) (signals : t.serialSignals = s.serialSignals)
    (pcr : t.usc.control.pcr = s.usc.control.pcr) (writes : t.usc.control.pcrWrites = s.usc.control.pcrWrites) :
    KeepsDown begins s t := by
  refine .of_same context ?_ pcr writes
  unfold R56Struct.rts
  rw [signals]

theorem trans (first : KeepsDown begins s t) (second : KeepsDown begins t u) : KeepsDown begins s u := by
  refine ⟨second.context.trans first.context, fun quiet down => ?_⟩
  have flags : t.params.flags = s.params.flags := congrArg RtsContext.flags first.context
  obtain ⟨between, earlier, written, before⟩ := first.down quiet down
  have manual : begins → t.params.flags &&& hdlcFlagAutoRts = 0 := fun started => by
    rw [flags]
    exact quiet started
  obtain ⟨after, later, rewritten, since⟩ := second.down manual between
  refine ⟨after, earlier ++ later, by rw [rewritten, written, List.append_assoc], fun w member => ?_⟩
  rcases List.mem_append.mp member with old | new
  · exact before w old
  · exact since w new

theorem of_frame (frame : t.exceptReception = s.exceptReception) (chip : t.usc.control = s.usc.control) :
    KeepsDown begins s t :=
  have context : t.exceptReception.rtsContext = s.exceptReception.rtsContext := congrArg R56Struct.rtsContext frame
  .of_eq context (congrArg (·.serialSignals) frame) (congrArg (·.pcr) chip) (congrArg (·.pcrWrites) chip)

end KeepsDown

/-- Signals without RTS are written with RTS down. -/
theorem serialSignalControl_down {signals : U8} (down : signals &&& serialSignalRts = 0) (control : U16) :
    serialSignalControl control signals &&& rtsField = rtsField := by
  have raised : (control ||| (bit14 + bit15)) &&& rtsField = rtsField := by
    have own : (bit14 + bit15) &&& rtsField = rtsField := by decide
    rw [BitVec.and_or_distrib_right, own]
    ext i
    simp only [BitVec.getElem_or, BitVec.getElem_and]
    cases rtsField[i] <;> simp
  unfold serialSignalControl
  rw [if_neg (not_not.mpr down)]
  dsimp only
  split
  · rw [field_rewritten (by decide) (by decide)]
    exact raised
  · rw [field_set (by decide)]
    exact raised

/-- RTS is down once signals without it are written. -/
theorem uscSetSerialSignals_down {s : R56Struct} (down : ¬s.rts) : RtsStaysDown s (uscSetSerialSignals s) := by
  have written := serialSignalControl_down (not_not.mp down) (uscInReg s.usc .pcr)
  refine ⟨⟨down, written⟩, [_], rfl, fun w member => ?_⟩
  rw [List.mem_singleton.mp member]
  exact written

theorem KeepsDown.lowered {begins : Prop} {s : R56Struct} {signals : U8}
    (down : ¬s.rts → signals &&& serialSignalRts = 0) :
    KeepsDown begins s (uscSetSerialSignals { s with serialSignals := signals }) := by
  refine ⟨rfl, fun _ before => ?_⟩
  obtain ⟨after, writes⟩ :=
    uscSetSerialSignals_down (s := { s with serialSignals := signals }) (not_not.mpr (down before.1))
  exact ⟨after, writes⟩

/-- What is written to the Port Control Register. -/
def R56Struct.pcrView (info : R56Struct) : U16 × List U16 := (info.usc.control.pcr, info.usc.control.pcrWrites)

theorem uscLoadTxfifo_pcrView (info : R56Struct) : (uscLoadTxfifo info).pcrView = info.pcrView := by
  have step (s : R56Struct) (fifocount : Nat) : (loadTxfifoStep s fifocount).pcrView = s.pcrView := by
    unfold loadTxfifoStep
    dsimp only
    split
    · rfl
    · split <;> rfl
  exact uscLoadTxfifo_kept (R := fun s t => t.pcrView = s.pcrView) (fun _ => rfl)
    (fun first second => second.trans first) (fun _ _ => rfl) (fun _ => rfl) step info

theorem feedTransmitter_pcrView (info : R56Struct) : (feedTransmitter info).pcrView = info.pcrView := by
  have dma : (startTxDma info).pcrView = info.pcrView := by
    unfold startTxDma R56Struct.pcrView
    dsimp only
    split
    · rfl
    · rfl
  unfold feedTransmitter
  split
  · unfold startAsyncTransmitter
    dsimp only
    split
    · rfl
    · exact uscLoadTxfifo_pcrView _
  · exact dma

theorem enableIfDisabled_pcrView (info : R56Struct) : (enableIfDisabled info).pcrView = info.pcrView := by
  unfold enableIfDisabled
  dsimp only
  split
  · rfl
  · split
    · rfl
    · rfl

/-- Out of automatic RTS mode the start of the transmitter leaves RTS alone. -/
theorem uscStartTransmitter_pcrView {info : R56Struct}
    (quiet : info.xmitCnt ≠ 0 → info.params.flags &&& hdlcFlagAutoRts = 0) :
    (uscStartTransmitter info).pcrView = info.pcrView := by
  have ignored (s : R56Struct) : (ignoreEcho s).pcrView = s.pcrView := by
    unfold ignoreEcho silenceReceiver
    dsimp only
    split
    · split
      · rfl
      · rfl
    · rfl
  refine (enableIfDisabled_pcrView _).trans ?_
  split
  · rename_i queued
    have asserted : assertAutoRts info = { info with dropRtsOnTxDone := false } :=
      if_neg (not_not.mpr (quiet queued))
    refine (feedTransmitter_pcrView _).trans ((ignored _).trans ?_)
    rw [asserted]
    rfl
  · rfl

theorem KeepsDown.started {begins : Prop} (s : R56Struct)
    (quiet : s.xmitCnt ≠ 0 → begins) : KeepsDown begins s (uscStartTransmitter s) := by
  have frame := uscStartTransmitter_frame s
  have context : (uscStartTransmitter s).rtsContext = s.rtsContext := by
    have same := congrArg R56Struct.rtsContext frame
    exact same
  refine ⟨context, fun manual => ?_⟩
  have off : s.xmitCnt ≠ 0 → s.params.flags &&& hdlcFlagAutoRts = 0 := fun queued => manual (quiet queued)
  have line : (uscStartTransmitter s).line.rts = s.line.rts := by
    rw [uscStartTransmitter_line]
    split
    · rename_i queued
      have auto : s.line.autoRts = false := decide_eq_false (not_not.mpr (off queued))
      show (s.line.rts || s.line.autoRts) = s.line.rts
      rw [auto, Bool.or_false]
    · rfl
  have rts : (uscStartTransmitter s).rts ↔ s.rts := by
    rw [rts_iff_line, rts_iff_line, line]
  have view := uscStartTransmitter_pcrView off
  exact (KeepsDown.of_same context rts (congrArg Prod.fst view) (congrArg Prod.snd view)).down manual

theorem keepsDown_core {begins : Prop} : KeptCore (KeepsDown begins) where
  refl _ := .of_eq rfl rfl rfl rfl
  trans := .trans
  reception frame control := .of_frame frame (congrArg Control.chip control)
  flow _ _ _ := .of_eq rfl rfl rfl rfl
  xchar _ _ := .of_eq rfl rfl rfl rfl
  read s := .of_same rfl (uscGetSerialSignals_rts s) rfl rfl
  negate s := by
    unfold negateRts
    split
    · exact .lowered fun _ => and_not_rts s.serialSignals
    · exact .of_eq rfl rfl rfl rfl
  dropped _ := .of_eq rfl rfl rfl rfl
  enable s empty := .started s fun queued => absurd empty queued
  fed s _ := by
    have frame := uscLoadTxfifo_frame s
    have context : (uscLoadTxfifo s).rtsContext = s.rtsContext := by
      have same := congrArg R56Struct.rtsContext frame
      exact same
    have rts : (uscLoadTxfifo s).rts ↔ s.rts := by
      rw [rts_iff_line, rts_iff_line, uscLoadTxfifo_line]
    have view := uscLoadTxfifo_pcrView s
    exact .of_same context rts (congrArg Prod.fst view) (congrArg Prod.snd view)
  reset _ := .of_eq rfl rfl rfl rfl
  sendDone _ := .of_eq rfl rfl rfl rfl
  insertion s status := by
    unfold completeInsertion
    split
    · exact .of_eq rfl rfl rfl rfl
    · exact .of_eq rfl rfl rfl rfl

/-- All that an operation calls which does not set the signals. -/
theorem keepsDown_parts {info : R56Struct} {op : Op} (silent : ¬op.setsSignals) :
    KeptParts (KeepsDown (beginsFrame info op)) info op where
  toKeptCore := keepsDown_core
  noted _ := fun frame output => .of_frame frame (congrArg Prod.fst output)
  stop _ _ := .of_eq rfl rfl rfl rfl
  ended _ _ := .of_eq rfl rfl rfl rfl
  idle _ _ _ := .of_eq rfl rfl rfl rfl
  set sets := absurd sets silent
  insert _ _ := .of_eq rfl rfl rfl rfl
  request _ _ _ := .of_eq rfl rfl rfl rfl
  flush _ _ := .of_eq rfl rfl rfl rfl
  collect _ _ _ _ _ := .of_eq rfl rfl rfl rfl
  chunk _ _ _ _ _ _ _ _ := .of_eq rfl rfl rfl rfl
  loadXmitBuf _ _ _ _ _ := .of_eq rfl rfl rfl rfl
  loadWrite _ _ _ _ _ _ _ := .of_eq rfl rfl rfl rfl
  hold _ s buf count _ _ _ room := by
    unfold saveTxBufferRequest
    rw [if_neg (Nat.not_le_of_lt room)]
    exact .of_eq rfl rfl rfl rfl
  unhold _ s := by
    unfold loadNextTxHoldingBuffer
    dsimp only
    split
    · exact .of_eq rfl rfl rfl rfl
    · exact .of_eq rfl rfl rfl rfl
  emptied _ _ := .of_eq rfl rfl rfl rfl

theorem and_not_outputs (x : U8) : (x &&& ~~~(serialSignalRts + serialSignalDtr)) &&& serialSignalRts = 0 := by
  have disjoint : ~~~(serialSignalRts + serialSignalDtr) &&& serialSignalRts = 0 := by decide
  rw [BitVec.and_assoc, disjoint]
  exact BitVec.and_zero

/-- At B0, and not on the ISA bus, programming an asynchronous port keeps RTS down. -/
theorem r56ChangeParams_keepsDown {begins : Prop} {info : R56Struct} (async : info.params.mode = r56ModeAsync)
    (slow : info.port.tty = true → info.tty.cCflag &&& cbaud = 0 ∧ info.busType ≠ .isa) :
    KeepsDown begins info (r56ChangeParams info) := by
  unfold r56ChangeParams
  by_cases detached : ¬info.port.tty = true
  · rw [if_pos detached]
    exact .of_eq rfl rfl rfl rfl
  obtain ⟨b0, other⟩ := slow (not_not.mp detached)
  rw [if_neg detached]
  dsimp only
  rw [if_pos async, if_neg (not_not.mpr b0)]
  generalize changed : ({ info with
    serialSignals := _, params := _, timeout := _, port := _, readStatusMask := _,
    ignoreStatusMask := _ } : R56Struct) = s
  have before : s.rtsContext = info.rtsContext ∧ s.usc = info.usc ∧ s.busType = info.busType ∧ ¬s.rts := by
    rw [← changed]
    exact ⟨rfl, rfl, rfl, not_not.mpr (and_not_outputs info.serialSignals)⟩
  obtain ⟨context, usc, bus, lowered⟩ := before
  have frame := r56ProgramHw_frame s
  have programmed : (r56ProgramHw s).rtsContext = s.rtsContext := by
    have same : (r56ProgramHw s).exceptProgramming.rtsContext = s.exceptProgramming.rtsContext :=
      congrArg R56Struct.rtsContext frame
    exact same
  refine ⟨programmed.trans context, fun _ down => ?_⟩
  obtain ⟨mid, signals, chip, -, written⟩ := r56ProgramHw_programmed s
  obtain ⟨writes, prefixed, kept⟩ := chip.rts (by rw [bus]; exact other)
  have midDown : ¬mid.rts := by
    unfold R56Struct.rts
    rw [signals]
    exact lowered
  obtain ⟨⟨-, pcr⟩, later, rewritten, lastDown⟩ := uscSetSerialSignals_down midDown
  have control := congrArg ChipControl.pcr written
  have all := congrArg ChipControl.pcrWrites written
  have line : (r56ProgramHw s).line.rts = s.line.rts := by
    have same := congrArg Line.rts (r56ProgramHw_signals s).1
    exact same
  have rts : ¬(r56ProgramHw s).rts := by
    rw [rts_iff_line, line, ← rts_iff_line]
    exact lowered
  have held : s.usc.reg .pcr &&& rtsField = rtsField := by
    rw [usc]
    exact down.2
  refine ⟨⟨rts, ?_⟩, writes ++ later, ?_, fun w member => ?_⟩
  · have same : (r56ProgramHw s).usc.reg .pcr = (uscSetSerialSignals mid).usc.reg .pcr := control
    rw [same]
    exact pcr
  · have same : (r56ProgramHw s).usc.pcrWrites = (uscSetSerialSignals mid).usc.pcrWrites := all
    have first : mid.usc.pcrWrites = s.usc.pcrWrites ++ writes := prefixed
    rw [same, rewritten, first, usc, List.append_assoc]
  · rcases List.mem_append.mp member with old | new
    · exact (kept w (List.mem_cons_of_mem _ old)).trans held
    · exact lastDown w new

/-- The statements of `r56_set_termios` that follow keep RTS down while CRTSCTS is set. -/
theorem leaveB0_keepsDown {begins : Prop} {s : R56Struct} (flow : s.tty.cCflag &&& crtscts ≠ 0)
    (throttled : s.tty.throttled = true) (oldCflag : U32) :
    KeepsDown begins s (leaveCrtscts (leaveB0 (enterB0 s oldCflag) oldCflag) oldCflag) := by
  have entered : KeepsDown begins s (enterB0 s oldCflag) := by
    unfold enterB0
    split
    · exact .lowered fun _ => and_not_outputs s.serialSignals
    · exact .of_eq rfl rfl rfl rfl
  generalize enterB0 s oldCflag = t at entered ⊢
  have cCflag : t.tty.cCflag = s.tty.cCflag := congrArg RtsContext.cCflag entered.context
  have stays : t.tty.throttled = s.tty.throttled := congrArg RtsContext.throttled entered.context
  have left : KeepsDown begins t (leaveB0 t oldCflag) := by
    unfold leaveB0
    split
    · dsimp only
      rw [if_neg]
      · refine .lowered fun down => ?_
        rw [BitVec.and_or_distrib_right, not_not.mp down]
        decide
      · rw [cCflag, stays]
        exact fun up => up.elim flow fun awake => awake throttled
    · exact .of_eq rfl rfl rfl rfl
  have cflag : (leaveB0 t oldCflag).tty.cCflag = s.tty.cCflag :=
    (congrArg RtsContext.cCflag left.context).trans cCflag
  have kept : leaveCrtscts (leaveB0 t oldCflag) oldCflag = leaveB0 t oldCflag := by
    unfold leaveCrtscts
    rw [if_neg]
    rw [cflag]
    exact fun off => flow off.2
  rw [kept]
  exact entered.trans left

/-- What every run keeps whose steps keep RTS down. -/
structure ThrottledInv (start s : R56Struct) : Prop where
  async : s.params.mode = r56ModeAsync
  flow : s.tty.cCflag &&& crtscts ≠ 0
  throttled : s.tty.throttled = true
  stays : RtsStaysDown start s

theorem RtsStaysDown.trans {s t u : R56Struct} (first : RtsStaysDown s t) (second : RtsStaysDown t u) :
    RtsStaysDown s u := by
  obtain ⟨-, earlier, written, before⟩ := first
  obtain ⟨down, later, rewritten, since⟩ := second
  refine ⟨down, earlier ++ later, by rw [rewritten, written, List.append_assoc], fun w member => ?_⟩
  rcases List.mem_append.mp member with old | new
  · exact before w old
  · exact since w new

/-- A step that leaves the context alone. -/
theorem ThrottledInv.keeps {start s t : R56Struct} (inv : ThrottledInv start s)
    (context : t.rtsContext = s.rtsContext) (stays : RtsStaysDown s t) : ThrottledInv start t := by
  have mode : t.params.mode = s.params.mode := congrArg RtsContext.mode context
  have cCflag : t.tty.cCflag = s.tty.cCflag := congrArg RtsContext.cCflag context
  have throttled : t.tty.throttled = s.tty.throttled := congrArg RtsContext.throttled context
  exact ⟨mode.trans inv.async, cCflag ▸ inv.flow, throttled.trans inv.throttled, inv.stays.trans stays⟩

theorem sendStopChar_keepsDown (s : R56Struct) : KeepsDown (beginsFrame s .throttle) s (sendStopChar s) := by
  unfold sendStopChar
  split
  · rename_i software
    exact keepsDown_core.sendXchar s _ fun some resumable t => .started t fun _ => ⟨software, some, resumable⟩
  · exact .of_eq rfl rfl rfl rfl

theorem r56Throttle_keepsDown (s : R56Struct) : KeepsDown (beginsFrame s .throttle) s (r56Throttle s) := by
  have lowered (t : R56Struct) : KeepsDown (beginsFrame s .throttle) t (signalRts t false) := by
    unfold signalRts
    split
    · exact .lowered fun _ => and_not_rts t.serialSignals
    · exact .of_eq rfl rfl rfl rfl
  exact (sendStopChar_keepsDown s).trans (lowered _)

/-- `r56_throttle` lowers RTS, also if the stop character has begun a frame. -/
theorem r56Throttle_down {s : R56Struct} (flow : s.tty.cCflag &&& crtscts ≠ 0) : (r56Throttle s).rtsDown := by
  have cCflag : (sendStopChar s).tty.cCflag = s.tty.cCflag :=
    congrArg RtsContext.cCflag (sendStopChar_keepsDown s).context
  have signals (t : R56Struct) (flow : t.tty.cCflag &&& crtscts ≠ 0) : (signalRts t false).rtsDown := by
    unfold signalRts
    rw [if_pos flow]
    exact (uscSetSerialSignals_down (not_not.mpr (and_not_rts t.serialSignals))).down
  exact signals _ (cCflag ▸ flow)

theorem tiocmset_keepsDown {begins : Prop} {set : U8} (user : set &&& serialSignalRts = 0) (s : R56Struct)
    (clear : U8) : KeepsDown begins s (tiocmset s set clear) := by
  refine .lowered fun down => ?_
  have asked (outputs : U8) : (set &&& outputs) &&& serialSignalRts = 0 := by
    rw [BitVec.and_assoc, BitVec.and_comm outputs, ← BitVec.and_assoc, user]
    exact BitVec.zero_and
  have raised (outputs : U8) : (s.serialSignals ||| (set &&& outputs)) &&& serialSignalRts = 0 := by
    rw [BitVec.and_or_distrib_right, not_not.mp down, asked]
    rfl
  rw [BitVec.and_assoc, BitVec.and_comm (~~~_), ← BitVec.and_assoc, raised]
  exact BitVec.zero_and

/-- Reprogramming a throttled port, with new settings that keep it asynchronous with CRTSCTS. -/
theorem ThrottledInv.changed {start s : R56Struct} (inv : ThrottledInv start s)
    (slow : s.port.tty = true → s.tty.cCflag &&& cbaud = 0 ∧ s.busType ≠ .isa) :
    ThrottledInv start (r56ChangeParams s) := by
  have kept : KeepsDown False s (r56ChangeParams s) := r56ChangeParams_keepsDown inv.async slow
  exact inv.keeps kept.context (kept.down False.elim inv.stays.down)

theorem ThrottledInv.op {start s t : R56Struct} {op : Op} (inv : ThrottledInv start s) (ran : exec s op = some t)
    (keeps : op.keepsThrottled) (down : KeepsRtsDown s (.op op)) : ThrottledInv start t := by
  have kept (same : KeepsDown (beginsFrame s op) s t) : ThrottledInv start t :=
    inv.keeps same.context (same.down down.1 inv.stays.down)
  cases op with
  | unthrottle => exact absurd keeps id
  | dtrRts on => exact absurd keeps id
  | throttle =>
    cases ran
    exact kept (r56Throttle_keepsDown s)
  | tiocmset set clear =>
    cases ran
    exact kept (tiocmset_keepsDown keeps s clear)
  | setParams newParams =>
    cases ran
    have asked : ThrottledInv start { s with params := newParams } :=
      ⟨keeps, inv.flow, inv.throttled, inv.stays.down, inv.stays.writes⟩
    exact asked.changed (down.2 trivial)
  | setTermios cCflag cIflag baudRate =>
    cases ran
    have asked : ThrottledInv start { s with
        tty := { s.tty with cCflag := cCflag, cIflag := cIflag, baudRate := baudRate } } :=
      ⟨inv.async, keeps, inv.throttled, inv.stays.down, inv.stays.writes⟩
    have changed := asked.changed (down.2 trivial)
    have left := @leaveB0_keepsDown False _ changed.flow changed.throttled s.tty.cCflag
    exact changed.keeps left.context (left.down False.elim changed.stays.down)
  | _ => exact kept ((keepsDown_parts id).exec (fun begins s => .started s fun _ => begins) id ran)

theorem ThrottledInv.step {start s t : R56Struct} {event : ThrottledEvent} (inv : ThrottledInv start s)
    (step : ThrottledStep s event t) (down : KeepsRtsDown s event) : ThrottledInv start t := by
  cases step with
  | op ran keeps => exact inv.op ran.1 keeps down
  | signals =>
    have read : KeepsDown False s (uscGetSerialSignals s) := .of_same rfl (uscGetSerialSignals_rts s) rfl rfl
    exact inv.keeps read.context (read.down False.elim inv.stays.down)
  | query frame control =>
    have asked : KeepsDown False s t :=
      .of_frame (exceptReception_of_exceptChip frame) (congrArg Control.chip control)
    exact inv.keeps asked.context (asked.down False.elim inv.stays.down)

/-- On an asynchronous port with CRTSCTS RTS is down after `r56_throttle`, and stays down in every run
until `r56_unthrottle` in which no frame is begun in automatic RTS mode and an attached port is
reprogrammed only at B0 and not on the ISA bus. -/
theorem throttled_rts_down {info : R56Struct} {p : List (ThrottledEvent × R56Struct)}
    (async : info.params.mode = r56ModeAsync) (flow : info.tty.cCflag &&& crtscts ≠ 0)
    (throttled : info.tty.throttled = true) (run : Run ThrottledStep (r56Throttle info) p)
    (keeps : Run (fun s e _ => KeepsRtsDown s e) (r56Throttle info) p) :
    (r56Throttle info).rtsDown ∧ ∀ x ∈ p, RtsStaysDown (r56Throttle info) x.2 := by
  have context := (r56Throttle_keepsDown info).context
  have mode : (r56Throttle info).params.mode = info.params.mode := congrArg RtsContext.mode context
  have cCflag : (r56Throttle info).tty.cCflag = info.tty.cCflag := congrArg RtsContext.cCflag context
  have stays : (r56Throttle info).tty.throttled = info.tty.throttled := congrArg RtsContext.throttled context
  have down := r56Throttle_down flow
  have init : ThrottledInv (r56Throttle info) (r56Throttle info) :=
    ⟨mode.trans async, cCflag ▸ flow, stays.trans throttled, down, [], (List.append_nil _).symm, nofun⟩
  have both : Run (fun s e t => ThrottledStep s e t ∧ KeepsRtsDown s e) (r56Throttle info) p :=
    run_and.mpr ⟨run, keeps⟩
  have reached := both.invariant (P := ThrottledInv (r56Throttle info))
    (fun s e t inv step => inv.step step.1 step.2) init
  exact ⟨down, fun x member => (reached x member).stays⟩

/-- An open asynchronous port with CRTSCTS whose tty is throttled. -/
def throttledPort : R56Struct :=
  { r56SetParams openedDevice { defaultParams with mode := r56ModeAsync } with
    tty := { openedDevice.tty with cCflag := openedDevice.tty.cCflag ||| crtscts, throttled := true } }

/-- The speed is set to B0, and the signals are queried. -/
theorem throttled_rts_down_b0 :
    let throttled := r56Throttle throttledPort
    let slow := r56SetTermios { throttled with
      tty := { throttled.tty with cCflag := cs8 ||| crtscts } } throttled.tty.cCflag
    RtsStaysDown throttled (uscGetSerialSignals slow) := by
  intro throttled slow
  have run : Run ThrottledStep throttled
      [(.op (.setTermios (cs8 ||| crtscts) throttled.tty.cIflag throttled.tty.baudRate), slow),
        (.signals, uscGetSerialSignals slow)] := by
    have kept : (cs8 ||| crtscts) &&& crtscts ≠ 0 := by decide
    exact ⟨.op ⟨rfl, nofun⟩ kept, .signals, trivial⟩
  have reached := @throttled_rts_down throttledPort _ rfl (by decide) rfl run
    ⟨⟨fun begins => absurd begins id, fun _ _ => by decide⟩, trivial, trivial⟩
  exact reached.2 (.signals, uscGetSerialSignals slow) (by simp)

/-- `r56_set_termios` with the settings unchanged raises RTS. -/
theorem throttled_rts_raised :
    let throttled := r56Throttle throttledPort
    let set := r56SetTermios throttled throttled.tty.cCflag
    throttledPort.params.mode = r56ModeAsync ∧ throttledPort.tty.cCflag &&& crtscts ≠ 0 ∧
      throttledPort.tty.throttled = true ∧
      Run ThrottledStep throttled
        [(.op (.setTermios throttled.tty.cCflag throttled.tty.cIflag throttled.tty.baudRate), set)] ∧
      ¬RtsStaysDown throttled set := by
  intro throttled set
  have kept : throttled.tty.cCflag &&& crtscts ≠ 0 := by decide
  refine ⟨rfl, by decide, rfl, ⟨.op ⟨rfl, nofun⟩ kept, trivial⟩, fun stays => ?_⟩
  exact stays.down.1 (by decide)

end Route56
