import Route56.Line
import Route56.Watchdog

namespace Route56

open Transition

/-- `HDLC || RAW` with `HDLC_FLAG_AUTO_RTS`. -/
def R56Params.autoRts (params : R56Params) : Prop :=
  (params.mode = r56ModeHdlc ∨ params.mode = r56ModeRaw) ∧ params.flags &&& hdlcFlagAutoRts ≠ 0

instance (params : R56Params) : Decidable params.autoRts := inferInstanceAs (Decidable (_ ∧ _))

/-- What is owed since the last frame was begun: the driver raised RTS for a frame
that has not ended, or RTS was up when the frame was begun. -/
inductive RtsDebt
  | none
  | raised
  | kept
  deriving DecidableEq

/-- The chip reports the end of a frame. -/
def reportsEnd (info : R56Struct) : Op → Bool
  | .interrupt report => (info.reporting report).uscVector = 4
  | _ => false

/-- The frame being sent ends: the chip reports it, or the driver gives it up. -/
def endsFrame (info : R56Struct) : Op → Bool
  | .txTimeout => true
  | op => reportsEnd info op

/-- The request reprograms the chip, which discards the frame being sent. -/
def reprograms : Op → Bool
  | .setParams _ | .setTermios .. => true
  | _ => false

/-- The debt after an operation. A frame that was stopped and is begun again is
still the frame RTS was raised for. -/
def RtsDebt.after (debt : RtsDebt) (info : R56Struct) (op : Op) : RtsDebt :=
  if beginsFrame info op then
    if debt = .raised then .raised else if info.rts then .kept else .raised
  else if debt = .raised ∧ (endsFrame info op || reprograms op) then .none
  else debt

/-- RTS is changed by the user: by `TIOCMSET`, on open and close, or to and from B0. -/
def userSetsRts (info : R56Struct) : Op → Prop
  | .tiocmset set clear => (set ||| clear) &&& serialSignalRts ≠ 0
  | .dtrRts _ => True
  | .setTermios cCflag _ _ => ¬(info.tty.cCflag &&& cbaud = 0 ↔ cCflag &&& cbaud = 0)
  | _ => False

/-- `r56_throttle` lowers RTS for CRTSCTS. -/
def throttles (info : R56Struct) : Op → Prop
  | .throttle => info.tty.cCflag &&& crtscts ≠ 0
  | _ => False

/-- A step of a port that stays in automatic RTS mode and whose user does not
change RTS, with the debt it leaves. -/
structure AutoRtsStep (s : R56Struct × RtsDebt) (op : Op) (t : R56Struct × RtsDebt) : Prop where
  step : Step s.1 op t.1
  user : ¬userSetsRts s.1 op
  mode : ∀ params, op = .setParams params → params.autoRts
  debt : t.2 = s.2.after s.1 op

/-- RTS is paired: the end of a frame RTS was raised for lowers it and settles the
debt, and RTS that was up is left up. -/
structure Paired (s : R56Struct × RtsDebt) (op : Op) (t : R56Struct × RtsDebt) : Prop where
  lowered : s.2 = .raised → endsFrame s.1 op = true → ¬t.1.rts ∧ t.1.dropRtsOnTxDone = false
  kept : t.2 = .kept → t.1.rts

/-- The step does not lose the debt: a frame RTS was raised for is neither given up
nor begun again with RTS still up, and RTS that is to be left up is not lowered for CRTSCTS. -/
structure KeepsDebt (s : R56Struct × RtsDebt) (op : Op) : Prop where
  reported : s.2 = .raised → op ≠ .txTimeout
  once : s.2 = .raised → beginsFrame s.1 op → ¬s.1.rts
  left : s.2.after s.1 op = .kept → ¬throttles s.1 op

/-- The fields of the line that concern RTS. -/
def Line.signals (l : Line) : Line := { l with interface := 0, rxEnabled := false, rccUnderrun := false }

theorem signals_of_exceptSettings {s t : R56Struct} (frame : t.exceptSettings = s.exceptSettings) :
    t.line.signals = s.line.signals := by
  have same := congrArg (fun info : R56Struct => info.line.signals) frame
  exact same

theorem programMode_frame (info : R56Struct) : (programMode info).exceptSettings = info.exceptSettings := by
  unfold programMode
  split
  · exact uscSetSyncMode_frame info
  · exact uscSetAsyncMode_frame info

/-- Programming the chip discards what is to be sent and leaves RTS alone. -/
theorem r56ProgramHw_signals (info : R56Struct) :
    (r56ProgramHw info).line.signals = info.line.signals ∧ (r56ProgramHw info).tty = info.tty ∧
      (r56ProgramHw info).xmitCnt = 0 := by
  have stopped : { uscStopTransmitter (uscStopReceiver info) with
      xmitCnt := 0, xmitHead := 0, xmitTail := 0 }.line.signals = info.line.signals := rfl
  have frame := programMode_frame { uscStopTransmitter (uscStopReceiver info) with
    xmitCnt := 0, xmitHead := 0, xmitTail := 0 }
  unfold r56ProgramHw
  dsimp only
  generalize programMode { uscStopTransmitter (uscStopReceiver info) with
    xmitCnt := 0, xmitHead := 0, xmitTail := 0 } = programmed at frame ⊢
  have signals : (programSignals programmed).line.signals = info.line.signals := by
    have read := uscGetSerialSignals_line programmed
    exact (congrArg Line.signals read).trans ((signals_of_exceptSettings frame).trans stopped)
  have tty := congrArg R56Struct.tty frame
  have empty := congrArg R56Struct.xmitCnt frame
  split
  · have started := uscStartReceiver_frame (programSignals programmed)
    have line := uscStartReceiver_line (programSignals programmed)
    refine ⟨?_, (congrArg R56Struct.tty started).trans tty, (congrArg R56Struct.xmitCnt started).trans empty⟩
    rw [line]
    exact signals
  · exact ⟨signals, tty, empty⟩

theorem r56ChangeParams_signals (info : R56Struct) (attached : info.port.tty = true) (sync : info.synchronous) :
    (r56ChangeParams info).line.signals = info.line.signals ∧ (r56ChangeParams info).tty = info.tty ∧
      (r56ChangeParams info).xmitCnt = 0 := by
  have async : ¬info.params.mode = r56ModeAsync := by
    rcases sync with hdlc | raw
    · rw [hdlc]
      decide
    · rw [raw]
      decide
  unfold r56ChangeParams
  rw [if_neg (by simp [attached])]
  dsimp only
  rw [if_neg async]
  obtain ⟨signals, tty, empty⟩ := r56ProgramHw_signals _
  exact ⟨signals, tty, empty⟩

theorem r56SetTermios_signals {info : R56Struct} (cCflag cIflag : U32) (baudRate : Nat)
    (attached : info.port.tty = true) (sync : info.synchronous)
    (user : ¬userSetsRts info (.setTermios cCflag cIflag baudRate)) :
    (r56SetTermios { info with
      tty := { info.tty with cCflag := cCflag, cIflag := cIflag, baudRate := baudRate } }
      info.tty.cCflag).line.signals = info.line.signals := by
  obtain ⟨signals, tty, empty⟩ := r56ChangeParams_signals { info with
    tty := { info.tty with cCflag := cCflag, cIflag := cIflag, baudRate := baudRate } } attached sync
  have speed : info.tty.cCflag &&& cbaud = 0 ↔ cCflag &&& cbaud = 0 := not_not.mp user
  unfold r56SetTermios
  generalize r56ChangeParams { info with
    tty := { info.tty with cCflag := cCflag, cIflag := cIflag, baudRate := baudRate } } = changed at signals tty empty ⊢
  have cflag : changed.tty.cCflag = cCflag := congrArg TtyStruct.cCflag tty
  have enter : enterB0 changed info.tty.cCflag = changed := by
    unfold enterB0
    rw [cflag]
    exact if_neg fun h => h.1 (speed.mpr h.2)
  have leave : leaveB0 changed info.tty.cCflag = changed := by
    unfold leaveB0
    rw [cflag]
    exact if_neg fun h => h.2 (speed.mp h.1)
  have idle : ¬{ changed with tty := { changed.tty with hwStopped := false } }.resumable := fun h => h.2 empty
  rw [enter, leave]
  unfold leaveCrtscts
  split
  · rw [r56Start_line, if_neg idle]
    exact signals
  · exact signals

theorem tiocmset_signals {info : R56Struct} {set clear : U8} (user : ¬userSetsRts info (.tiocmset set clear)) :
    (tiocmset info set clear).line.signals = info.line.signals := by
  have outputs : ∀ (i : Nat) (bound : i < 8),
      serialSignalRts[i] = true → (serialSignalRts + serialSignalDtr)[i] = true := by decide
  have same : ((info.serialSignals ||| (set &&& (serialSignalRts + serialSignalDtr))) &&&
      ~~~(clear &&& (serialSignalRts + serialSignalDtr))) &&& serialSignalRts =
        info.serialSignals &&& serialSignalRts := by
    ext i bound
    have output := outputs i bound
    have here : ((set ||| clear) &&& serialSignalRts)[i] = (0 : U8)[i] := by rw [not_not.mp user]
    simp only [BitVec.getElem_and, BitVec.getElem_or, BitVec.getElem_not, BitVec.ofNat_eq_ofNat,
      BitVec.getElem_zero] at here ⊢
    grind
  have rts : (tiocmset info set clear).rts ↔ info.rts := by
    exact not_congr (Eq.congr_left same)
  exact Line.ext rfl rfl rfl (decide_eq_decide.mpr rts) rfl rfl rfl

/-- RTS and the flag after what an operation does for a frame. -/
def signalsFramed (info : R56Struct) (op : Op) : Line :=
  if beginsFrame info op then info.line.signals.begun
  else if reportsEnd info op then info.line.signals.ended
  else info.line.signals

/-- RTS and the flag after an operation. -/
def signalsAfter (info : R56Struct) (op : Op) : Line :=
  match op with
  | .throttle =>
    if info.tty.cCflag &&& crtscts ≠ 0 then { signalsFramed info op with rts := false }
    else signalsFramed info op
  | .unthrottle =>
    if info.tty.cCflag &&& crtscts ≠ 0 then { signalsFramed info op with rts := true }
    else signalsFramed info op
  | _ => signalsFramed info op

theorem lineAfter_signals (info : R56Struct) (op : Op) :
    (lineAfter info op).signals = signalsAfter info op := by
  have silent (quiet : reportsEnd info op = false) :
      (if beginsFrame info op then info.line.begun else info.line).signals = signalsFramed info op := by
    unfold signalsFramed
    rw [if_neg (by rw [quiet]; decide : ¬reportsEnd info op = true)]
    split
    · rfl
    · rfl
  cases op with
  | throttle =>
    unfold lineAfter signalsAfter
    dsimp only
    rw [← silent rfl]
    split
    · rfl
    · rfl
  | unthrottle =>
    unfold lineAfter signalsAfter
    dsimp only
    rw [← silent rfl]
    split
    · rfl
    · rfl
  | interrupt report =>
    unfold lineAfter signalsAfter
    dsimp only
    by_cases ended : (info.reporting report).uscVector = 4
    · have begins : ¬beginsFrame info (.interrupt report) := fun h => absurd h.1.1 (by rw [ended]; decide)
      have reports : reportsEnd info (.interrupt report) = true := decide_eq_true ended
      rw [if_neg begins, if_pos ended, signalsFramed, if_neg begins, if_pos reports]
      rfl
    · rw [← silent (decide_eq_false ended), if_neg ended]
      split
      · rfl
      · rfl
  | rxenable enable =>
    unfold lineAfter signalsAfter
    dsimp only
    rw [← silent rfl]
    split
    · rfl
    · rfl
  | bhReceive =>
    unfold lineAfter signalsAfter
    dsimp only
    rw [← silent rfl]
    split
    · rfl
    · rfl
  | _ => exact silent rfl

theorem signalsAfter_params (info : R56Struct) (op : Op) :
    (signalsAfter info op).mode = info.params.mode ∧ (signalsAfter info op).flags = info.params.flags := by
  have framed : (signalsFramed info op).mode = info.params.mode ∧
      (signalsFramed info op).flags = info.params.flags := by
    unfold signalsFramed
    split
    · exact ⟨rfl, rfl⟩
    split
    · exact ⟨rfl, rfl⟩
    · exact ⟨rfl, rfl⟩
  unfold signalsAfter
  split
  · split
    · exact framed
    · exact framed
  · split
    · exact framed
    · exact framed
  · exact framed

/-- Only `r56_throttle` and the end of a frame lower RTS. -/
theorem signalsAfter_rts {info : R56Struct} {op : Op} (notThrottled : ¬throttles info op)
    (up : (signalsFramed info op).rts = true) : (signalsAfter info op).rts = true := by
  unfold signalsAfter
  split
  · split
    · rename_i lowered
      exact absurd lowered notThrottled
    · exact up
  · split
    · rfl
    · exact up
  · exact up

theorem signalsAfter_drop (info : R56Struct) (op : Op) :
    (signalsAfter info op).drop = (signalsFramed info op).drop := by
  unfold signalsAfter
  split
  · split
    · rfl
    · rfl
  · split
    · rfl
    · rfl
  · rfl

theorem signalsAfter_ended {info : R56Struct} {op : Op} (ended : reportsEnd info op = true) :
    signalsAfter info op = info.line.signals.ended := by
  cases op with
  | interrupt report =>
    have vector : (info.reporting report).uscVector = 4 := of_decide_eq_true ended
    have begins : ¬beginsFrame info (.interrupt report) := fun h => absurd h.1.1 (by rw [vector]; decide)
    have framed : signalsFramed info (.interrupt report) = info.line.signals.ended :=
      (if_neg begins).trans (if_pos ended)
    exact framed
  | _ => exact absurd ended Bool.false_ne_true

/-- What an operation does to RTS in automatic RTS mode, with the user leaving RTS alone. -/
theorem exec_signals {info after : R56Struct} {op : Op} (attached : info.port.tty = true)
    (auto : info.params.autoRts) (user : ¬userSetsRts info op)
    (mode : ∀ params, op = .setParams params → params.autoRts) (ran : exec info op = some after) :
    after.params.autoRts ∧ after.line.rts = (signalsAfter info op).rts ∧
      after.line.drop = (signalsAfter info op).drop := by
  have signed (same : after.line.signals = signalsAfter info op) :
      after.params.autoRts ∧ after.line.rts = (signalsAfter info op).rts ∧
        after.line.drop = (signalsAfter info op).drop := by
    obtain ⟨oldMode, oldFlags⟩ := signalsAfter_params info op
    rw [← same] at oldMode oldFlags ⊢
    have sameMode : after.params.mode = info.params.mode := oldMode
    have sameFlags : after.params.flags = info.params.flags := oldFlags
    refine ⟨?_, rfl, rfl⟩
    rw [R56Params.autoRts, sameMode, sameFlags]
    exact auto
  have other (free : ¬setsLine op) : after.params.autoRts ∧ after.line.rts = (signalsAfter info op).rts ∧
      after.line.drop = (signalsAfter info op).drop :=
    signed ((congrArg Line.signals (exec_line free ran)).trans (lineAfter_signals info op))
  cases op with
  | setParams params =>
    cases ran
    have new := mode params rfl
    obtain ⟨signals, -, -⟩ := r56ChangeParams_signals { info with params := params } attached new.1
    obtain ⟨newMode, newFlags, -, rts, drop, -, -⟩ := Line.ext_iff.mp signals
    have sameMode : (r56SetParams info params).params.mode = params.mode := newMode
    have sameFlags : (r56SetParams info params).params.flags = params.flags := newFlags
    refine ⟨?_, rts, drop⟩
    rw [R56Params.autoRts, sameMode, sameFlags]
    exact new
  | setTermios cCflag cIflag baudRate =>
    cases ran
    exact signed (r56SetTermios_signals cCflag cIflag baudRate attached auto.1 user)
  | tiocmset set clear =>
    cases ran
    exact signed (tiocmset_signals user)
  | dtrRts on => exact absurd trivial user
  | _ => exact other id

/-- RTS and the flag record the debt. -/
def RtsDebt.recorded (debt : RtsDebt) (l : Line) : Prop :=
  match debt with
  | .none => True
  | .raised => l.drop = true
  | .kept => l.rts = true ∧ l.drop = false

theorem rts_iff_line (info : R56Struct) : info.rts ↔ info.line.rts = true := decide_eq_true_iff.symm

/-- A frame that is begun records its debt, unless it is one that RTS is up for already. -/
theorem recorded_begun {s : R56Struct × RtsDebt} {op : Op} (auto : s.1.params.autoRts)
    (begins : beginsFrame s.1 op) (keeps : KeepsDebt s op) :
    (s.2.after s.1 op).recorded (signalsAfter s.1 op) := by
  have flagged : s.1.line.signals.autoRts = true := (autoRts_iff s.1).mpr auto.2
  have owed : (signalsAfter s.1 op).drop = !s.1.line.rts := by
    rw [signalsAfter_drop, signalsFramed, if_pos begins]
    exact (congrArg (· && !s.1.line.rts) flagged).trans (Bool.true_and _)
  have raises (down : ¬s.1.rts) : RtsDebt.raised.recorded (signalsAfter s.1 op) := by
    have lowered : s.1.line.rts = false := Bool.eq_false_iff.mpr (mt (rts_iff_line s.1).mpr down)
    exact owed.trans (by rw [lowered]; rfl)
  have leaves (up : s.1.rts) (notThrottled : ¬throttles s.1 op) :
      RtsDebt.kept.recorded (signalsAfter s.1 op) := by
    refine ⟨signalsAfter_rts notThrottled ?_, owed.trans (by rw [(rts_iff_line s.1).mp up]; rfl)⟩
    rw [signalsFramed, if_pos begins]
    exact (congrArg (s.1.line.rts || ·) flagged).trans (Bool.or_true _)
  have left := keeps.left
  unfold RtsDebt.after at left ⊢
  rw [if_pos begins] at left ⊢
  by_cases again : s.2 = .raised
  · rw [if_pos again]
    exact raises (keeps.once again begins)
  · rw [if_neg again] at left ⊢
    by_cases up : s.1.rts
    · rw [if_pos up] at left ⊢
      exact leaves up (left rfl)
    · rw [if_neg up]
      exact raises up

/-- Without a frame being begun the debt changes when it is settled or the frame is discarded. -/
theorem recorded_quiet {s : R56Struct × RtsDebt} {op : Op} (begins : ¬beginsFrame s.1 op)
    (inv : s.2.recorded s.1.line) (keeps : KeepsDebt s op) :
    (s.2.after s.1 op).recorded (signalsAfter s.1 op) := by
  have left := keeps.left
  unfold RtsDebt.after at left ⊢
  rw [if_neg begins] at left ⊢
  have quiet (silent : ¬reportsEnd s.1 op = true) : signalsFramed s.1 op = s.1.line.signals :=
    (if_neg begins).trans (if_neg silent)
  cases before : s.2 with
  | none =>
    rw [if_neg fun h => absurd h.1 (by decide)]
    trivial
  | raised =>
    rw [before] at inv
    split
    · trivial
    · rename_i unsettled
      have silent : ¬reportsEnd s.1 op = true := by
        intro reported
        refine unsettled ⟨rfl, Bool.or_eq_true_iff.mpr (.inl ?_)⟩
        unfold endsFrame
        split
        · rfl
        · exact reported
      have drop := signalsAfter_drop s.1 op
      rw [quiet silent] at drop
      exact drop.trans inv
  | kept =>
    rw [before, if_neg fun h => absurd h.1 (by decide)] at left
    rw [if_neg fun h => absurd h.1 (by decide)]
    rw [before] at inv
    obtain ⟨up, paid⟩ := inv
    by_cases reported : reportsEnd s.1 op = true
    · rw [signalsAfter_ended reported]
      refine ⟨Bool.and_eq_true_iff.mpr ⟨up, ?_⟩, rfl⟩
      rw [show s.1.line.signals.drop = false from paid]
      rfl
    · have still := quiet reported
      refine ⟨signalsAfter_rts (left rfl) ?_, ?_⟩
      · rw [still]
        exact up
      · rw [signalsAfter_drop, still]
        exact paid

/-- The end of the frame RTS was raised for settles the debt. -/
theorem settled {s : R56Struct × RtsDebt} {op : Op} (raised : s.2 = .raised)
    (inv : s.2.recorded s.1.line) (keeps : KeepsDebt s op) (ends : endsFrame s.1 op = true) :
    (signalsAfter s.1 op).rts = false ∧ (signalsAfter s.1 op).drop = false := by
  rw [raised] at inv
  have reported : reportsEnd s.1 op = true := by
    unfold endsFrame at ends
    split at ends
    · exact absurd rfl (keeps.reported raised)
    · exact ends
  rw [signalsAfter_ended reported]
  refine ⟨?_, rfl⟩
  have owed : s.1.line.signals.drop = true := inv
  exact (congrArg (s.1.line.rts && !·) owed).trans (Bool.and_false _)

/-- An open port in automatic RTS mode in which the flag records the debt. -/
structure DebtRecorded (s : R56Struct × RtsDebt) : Prop where
  attached : s.1.port.tty = true
  auto : s.1.params.autoRts
  recorded : s.2.recorded s.1.line

/-- Step lemma: a step that does not lose the debt records it and is paired. -/
theorem autoRtsStep_recorded {s t : R56Struct × RtsDebt} {op : Op} (inv : DebtRecorded s)
    (step : AutoRtsStep s op t) (keeps : KeepsDebt s op) : DebtRecorded t ∧ Paired s op t := by
  obtain ⟨auto, rts, drop⟩ := exec_signals inv.attached inv.auto step.user step.mode step.step.1
  have signals : (s.2.after s.1 op).recorded (signalsAfter s.1 op) := by
    by_cases begins : beginsFrame s.1 op
    · exact recorded_begun inv.auto begins keeps
    · exact recorded_quiet begins inv.recorded keeps
  have recorded : t.2.recorded t.1.line := by
    rw [← step.debt] at signals
    cases debt : t.2 with
    | none => trivial
    | raised =>
      rw [debt] at signals
      exact drop.trans signals
    | kept =>
      rw [debt] at signals
      exact ⟨rts.trans signals.1, drop.trans signals.2⟩
  refine ⟨⟨step_attached inv.attached step.step, auto, recorded⟩, ?_, ?_⟩
  · intro raised ends
    obtain ⟨low, paid⟩ := settled raised inv.recorded keeps ends
    exact ⟨fun up => absurd ((rts_iff_line t.1).mp up) (by rw [rts, low]; decide), drop.trans paid⟩
  · intro kept
    rw [kept] at recorded
    exact (rts_iff_line t.1).mpr recorded.1

/-- In every run of an open port in automatic RTS mode whose steps do not lose the debt
RTS is paired. -/
theorem auto_rts_paired {info : R56Struct} {run : List (Op × (R56Struct × RtsDebt))}
    (attached : info.port.tty = true) (auto : info.params.autoRts)
    (steps : Run AutoRtsStep (info, .none) run) (keeps : Run (fun s op _ => KeepsDebt s op) (info, .none) run) :
    Run Paired (info, .none) run := by
  have start : DebtRecorded (info, .none) := ⟨attached, auto, trivial⟩
  have both := run_and.mpr ⟨steps, keeps⟩
  exact Run.steps_of_invariant (fun s op t inv step => autoRtsStep_recorded inv step.1 step.2) both start

/-- An open port in HDLC mode with automatic RTS, RTS down. -/
def autoRtsDevice : R56Struct :=
  tiocmset (r56SetParams openedDevice { openedDevice.params with flags := hdlcFlagAutoRts }) 0 serialSignalRts

theorem auto_rts_paired_sent :
    let sent := (r56Write autoRtsDevice (fun _ => 0x7e) 1).1
    Run Paired (autoRtsDevice, .none)
      [(.write (fun _ => 0x7e) 1, (sent, .raised)),
        (.interrupt frameSent, (r56Interrupt (sent.reporting frameSent), .none))] :=
  auto_rts_paired (by decide) (by decide)
    ⟨⟨⟨rfl, nofun⟩, id, nofun, by decide⟩, ⟨⟨rfl, nofun⟩, id, nofun, by decide⟩, trivial⟩
    ⟨⟨nofun, nofun, fun _ => id⟩, ⟨fun _ => nofun, fun _ begins => absurd begins (by decide), fun _ => id⟩, trivial⟩

/-- A frame times out, and another is stopped, started again and sent: RTS, which the
driver raised for them, stays up. -/
theorem timed_out_rts_up :
    let sent := (r56Write autoRtsDevice (fun _ => 0x7e) 1).1
    let stopped := r56Stop sent
    let resumed := r56Start stopped
    let timedOut : List (Op × (R56Struct × RtsDebt)) :=
      [(.write (fun _ => 0x7e) 1, (sent, .raised)), (.txTimeout, (r56TxTimeout sent, .none))]
    let restarted : List (Op × (R56Struct × RtsDebt)) :=
      [(.write (fun _ => 0x7e) 1, (sent, .raised)), (.stop, (stopped, .raised)), (.start, (resumed, .raised)),
        (.interrupt frameSent, (r56Interrupt (resumed.reporting frameSent), .none))]
    autoRtsDevice.port.tty = true ∧ autoRtsDevice.params.autoRts ∧ ¬autoRtsDevice.rts ∧
      (Run AutoRtsStep (autoRtsDevice, .none) timedOut ∧ ¬Run Paired (autoRtsDevice, .none) timedOut) ∧
      (Run AutoRtsStep (autoRtsDevice, .none) restarted ∧ ¬Run Paired (autoRtsDevice, .none) restarted) := by
  intro sent stopped resumed timedOut restarted
  have begun : AutoRtsStep (autoRtsDevice, .none) (.write (fun _ => 0x7e) 1) (sent, .raised) :=
    ⟨⟨rfl, nofun⟩, id, nofun, by decide⟩
  refine ⟨by decide, by decide, by decide, ⟨⟨begun, ⟨⟨rfl, fun _ => by decide⟩, id, nofun, by decide⟩, trivial⟩, ?_⟩,
    ⟨⟨begun, ⟨⟨rfl, nofun⟩, id, nofun, by decide⟩, ⟨⟨rfl, nofun⟩, id, nofun, by decide⟩,
      ⟨⟨rfl, nofun⟩, id, nofun, by decide⟩, trivial⟩, ?_⟩⟩
  · intro paired
    exact (paired.2.1.lowered rfl (by decide)).1 (by decide)
  · intro paired
    exact (paired.2.2.2.1.lowered rfl (by decide)).1 (by decide)

end Route56
