import Route56.Primitives

namespace Route56

open Transition

/-- The part of the termios that the driver reads. -/
structure Termios where
  cCflag : U32
  cIflag : U32
  baudRate : Nat

def R56Struct.withTermios (info : R56Struct) (termios : Termios) : R56Struct :=
  { info with tty := { info.tty with
      cCflag := termios.cCflag, cIflag := termios.cIflag, baudRate := termios.baudRate } }

/-- What `r56_change_params` applies, the programming of the chip apart. -/
structure LineSettings where
  readStatusMask : U16
  ignoreStatusMask : U16
  timeout : Nat
  dataBits : U8
  stopBits : U8
  parity : U8
  ctsFlow : Bool
  checkCd : Bool
  deriving DecidableEq

def R56Struct.lineSettings (info : R56Struct) : LineSettings where
  readStatusMask := info.readStatusMask
  ignoreStatusMask := info.ignoreStatusMask
  timeout := info.timeout
  dataBits := info.params.dataBits
  stopBits := info.params.stopBits
  parity := info.params.parity
  ctsFlow := info.port.ctsFlow
  checkCd := info.port.checkCd

/-- The flags of a `tty_struct` with this termios. -/
def Termios.tty (termios : Termios) : TtyStruct where
  cCflag := termios.cCflag
  cIflag := termios.cIflag
  baudRate := termios.baudRate

/-- The conditions that a termios asks to ignore. -/
def Termios.ignoreBits (termios : Termios) : U16 := (termiosStatusMasks termios.tty 0).2

/-- The data rate in effect. -/
def Termios.dataRate (termios : Termios) (params : R56Params) : Nat := (termiosParams termios.tty params).dataRate

/-- The settings that a termios and parameters ask for by themselves. -/
def settingsOf (hz : Nat) (termios : Termios) (params : R56Params) : LineSettings :=
  let applied := termiosParams termios.tty params
  let bitsPerChar := applied.dataBits.toNat + applied.stopBits.toNat + 1
  { readStatusMask := (termiosStatusMasks termios.tty 0).1
    ignoreStatusMask := termios.ignoreBits
    timeout := (if applied.dataRate ≠ 0 then 32 * hz * bitsPerChar / applied.dataRate else 0) + hz / 50
    dataBits := applied.dataBits
    stopBits := applied.stopBits
    parity := applied.parity
    ctsFlow := termios.cCflag &&& crtscts ≠ 0
    checkCd := termios.cCflag &&& clocal = 0 }

/-- All that the settings are made of. -/
structure LineView where
  settings : LineSettings
  dataRate : Nat
  hz : Nat
  attached : Bool
  termios : Termios

def R56Struct.lineView (info : R56Struct) : LineView where
  settings := info.lineSettings
  dataRate := info.params.dataRate
  hz := info.build.hz
  attached := info.port.tty
  termios := ⟨info.tty.cCflag, info.tty.cIflag, info.tty.baudRate⟩

theorem lineView_of_exceptTransmitter {s t : R56Struct} (frame : t.exceptTransmitter = s.exceptTransmitter) :
    t.lineView = s.lineView := by
  have same := congrArg R56Struct.lineView frame
  exact same

theorem lineView_of_exceptReception {s t : R56Struct} (frame : t.exceptReception = s.exceptReception) :
    t.lineView = s.lineView := by
  have same := congrArg R56Struct.lineView frame
  exact same

theorem lineView_of_exceptSettings {s t : R56Struct} (frame : t.exceptSettings = s.exceptSettings) :
    t.lineView = s.lineView := by
  have same := congrArg R56Struct.lineView frame
  exact same

theorem lineView_kept : Kept fun s t => t.lineView = s.lineView where
  refl _ := rfl
  trans first second := second.trans first
  reception := lineView_of_exceptReception
  signals _ _ := rfl
  flow _ _ _ := rfl
  xchar _ _ := rfl
  start s := lineView_of_exceptTransmitter (uscStartTransmitter_frame s)
  stop _ := rfl
  collect _ _ _ _ := rfl
  chunk _ _ _ _ _ _ _ := rfl
  loadXmitBuf _ _ _ _ := rfl
  loadWrite _ _ _ _ _ _ := rfl
  hold s buf count _ _ _ room := by
    unfold saveTxBufferRequest
    rw [if_neg (Nat.not_le_of_lt room)]
    rfl
  unhold s := by
    unfold loadNextTxHoldingBuffer
    dsimp only
    split
    · rfl
    · rfl
  emptied _ := rfl
  ended _ := rfl
  dropped _ := rfl
  continued s := lineView_of_exceptTransmitter (continueAsync_frame s)

/-- Data transfer leaves the settings alone. -/
theorem exec_lineView {info after : R56Struct} {op : Op} (free : ¬op.programs) (ran : exec info op = some after) :
    after.lineView = info.lineView := by
  by_cases flush : op = .flushBuffer
  · subst flush
    cases ran
    rfl
  · exact lineView_kept.exec free flush ran

theorem r56ProgramHw_lineView (info : R56Struct) : (r56ProgramHw info).lineView = info.lineView := by
  have mode (s : R56Struct) : (programMode s).lineView = s.lineView := by
    unfold programMode
    split
    · exact lineView_of_exceptSettings (uscSetSyncMode_frame s)
    · exact lineView_of_exceptSettings (uscSetAsyncMode_frame s)
  have signals (s : R56Struct) : (programSignals s).lineView = s.lineView := rfl
  have started (s : R56Struct) : (uscStartReceiver s).lineView = s.lineView :=
    lineView_of_exceptReception (exceptReception_of_exceptReceiver (uscStartReceiver_frame s))
  unfold r56ProgramHw
  dsimp only
  split
  · exact (started _).trans ((signals _).trans (mode _))
  · exact (signals _).trans (mode _)

/-- The termios that the `tty_struct` holds. -/
def R56Struct.termios (info : R56Struct) : Termios := ⟨info.tty.cCflag, info.tty.cIflag, info.tty.baudRate⟩

/-- Bits are only added to the mask of ignored conditions. -/
theorem termiosStatusMasks_ignore (tty : TtyStruct) (mask : U16) :
    (termiosStatusMasks tty mask).2 = mask ||| (termiosStatusMasks tty 0).2 := by
  have none (x : U16) : 0 ||| x = x := BitVec.zero_or
  have only (x : U16) : x ||| 0 = x := BitVec.or_zero
  unfold termiosStatusMasks
  dsimp only
  by_cases par : tty.cIflag &&& ignpar = 0 <;> by_cases brk : tty.cIflag &&& ignbrk = 0 <;>
    simp only [par, brk, ne_eq, not_true, not_false_iff, if_true, if_false, BitVec.or_assoc, none, only]

/-- What a call makes of the settings before it. -/
def settingsAfter (before : LineSettings) (hz : Nat) (termios : Termios) (params : R56Params) : LineSettings :=
  { settingsOf hz termios params with
    ignoreStatusMask := before.ignoreStatusMask ||| termios.ignoreBits
    timeout := if termios.dataRate params ≠ 0 then (settingsOf hz termios params).timeout else before.timeout + hz / 50 }

theorem r56ChangeParams_lineView {info : R56Struct} (attached : info.port.tty = true) :
    (r56ChangeParams info).lineView = { info.lineView with
      settings := settingsAfter info.lineSettings info.build.hz info.termios info.params
      dataRate := info.termios.dataRate info.params } := by
  have params : termiosParams info.tty info.params = termiosParams info.termios.tty info.params := rfl
  have masks (mask : U16) : termiosStatusMasks info.tty mask = termiosStatusMasks info.termios.tty mask := rfl
  unfold r56ChangeParams
  rw [if_neg (not_not.mpr attached)]
  dsimp only
  rw [r56ProgramHw_lineView, params, masks]
  unfold R56Struct.lineView R56Struct.lineSettings settingsAfter settingsOf Termios.ignoreBits Termios.dataRate
  dsimp only
  rw [termiosStatusMasks_ignore]
  by_cases rate : (termiosParams info.termios.tty info.params).dataRate = 0
  · simp only [rate, ne_eq, not_true, if_false]
    rfl
  · simp only [rate, ne_eq, not_false_iff, if_true]
    rfl

theorem r56ChangeParams_settings {info : R56Struct} (attached : info.port.tty = true) :
    (r56ChangeParams info).lineSettings = settingsAfter info.lineSettings info.build.hz info.termios info.params :=
  congrArg LineView.settings (r56ChangeParams_lineView attached)

/-- The call gives the settings by themselves if the mask had no other bits, and the timeout is
either replaced or was 0. -/
theorem settingsAfter_iff (before : LineSettings) (hz : Nat) (termios : Termios) (params : R56Params) :
    settingsAfter before hz termios params = settingsOf hz termios params ↔
      before.ignoreStatusMask ||| termios.ignoreBits = termios.ignoreBits ∧
        (termios.dataRate params ≠ 0 ∨ before.timeout = 0) := by
  have alone : (settingsOf hz termios params).ignoreStatusMask = termios.ignoreBits := rfl
  have slow (none : termios.dataRate params = 0) : (settingsOf hz termios params).timeout = hz / 50 := by
    show (if termios.dataRate params ≠ 0 then _ else 0) + hz / 50 = _
    rw [if_neg (not_not.mpr none), Nat.zero_add]
  constructor
  · intro same
    have mask := congrArg LineSettings.ignoreStatusMask same
    have time := congrArg LineSettings.timeout same
    refine ⟨mask, ?_⟩
    by_cases none : termios.dataRate params = 0
    · unfold settingsAfter at time
      dsimp only at time
      rw [if_neg (not_not.mpr none), slow none] at time
      exact .inr (by omega)
    · exact .inl none
  · rintro ⟨mask, time⟩
    have timeout : (if termios.dataRate params ≠ 0 then (settingsOf hz termios params).timeout
        else before.timeout + hz / 50) = (settingsOf hz termios params).timeout := by
      split
      · rfl
      · rename_i none
        rw [slow (not_not.mp none), time.resolve_left none, Nat.zero_add]
    rw [settingsAfter, mask, timeout, ← alone]

/-- Of the parameters the settings depend on the data rate in effect alone. -/
theorem settingsOf_rate (hz : Nat) (termios : Termios) {params others : R56Params}
    (same : termios.dataRate params = termios.dataRate others) :
    settingsOf hz termios params = settingsOf hz termios others := by
  have rate : (termiosParams termios.tty params).dataRate = (termiosParams termios.tty others).dataRate := same
  unfold settingsOf
  dsimp only
  rw [rate]
  rfl

/-- The data rate in effect stays in effect. -/
theorem dataRate_idem (termios : Termios) {params applied : R56Params}
    (rate : applied.dataRate = termios.dataRate params) : termios.dataRate applied = termios.dataRate params := by
  have choice (q : R56Params) : termios.dataRate q = if q.dataRate ≤ 460800 then termios.baudRate else q.dataRate := rfl
  rw [choice, rate, choice]
  split_ifs <;> rfl

/-- Applied once more, the settings are the same if the data rate replaces the timeout. -/
theorem settingsAfter_idem_iff {hz : Nat} (ticks : 50 ≤ hz) (before : LineSettings) (termios : Termios)
    (params : R56Params) :
    settingsAfter (settingsAfter before hz termios params) hz termios params = settingsAfter before hz termios params ↔
      termios.dataRate params ≠ 0 := by
  constructor
  · intro same none
    have time := congrArg LineSettings.timeout same
    unfold settingsAfter at time
    dsimp only at time
    rw [if_neg (not_not.mpr none), if_neg (not_not.mpr none)] at time
    omega
  · intro some
    have mask : (before.ignoreStatusMask ||| termios.ignoreBits) ||| termios.ignoreBits =
        before.ignoreStatusMask ||| termios.ignoreBits := by rw [BitVec.or_assoc, BitVec.or_self]
    unfold settingsAfter
    dsimp only
    rw [mask, if_pos some, if_pos some]

/-- The termios that is in effect when the request applies the settings. -/
def Op.termios (info : R56Struct) : Op → Termios
  | .setTermios cCflag cIflag baudRate => ⟨cCflag, cIflag, baudRate⟩
  | _ => info.termios

/-- A request that applies settings is a call of `r56_change_params`. -/
theorem exec_programs {info after : R56Struct} {op : Op} (programs : op.programs) (ran : exec info op = some after) :
    ∃ s : R56Struct, s.lineSettings.ignoreStatusMask = info.ignoreStatusMask ∧ s.lineSettings.timeout = info.timeout ∧
      s.build.hz = info.build.hz ∧ s.port.tty = info.port.tty ∧ s.termios = op.termios info ∧
      after.lineView = (r56ChangeParams s).lineView := by
  cases op with
  | setParams newParams =>
    cases ran
    exact ⟨{ info with params := newParams }, rfl, rfl, rfl, rfl, rfl, rfl⟩
  | setTermios cCflag cIflag baudRate =>
    cases ran
    exact ⟨{ info with tty := { info.tty with cCflag := cCflag, cIflag := cIflag, baudRate := baudRate } },
      rfl, rfl, rfl, rfl, rfl, lineView_kept.termios _ _⟩
  | _ => exact absurd programs id

/-- The port is open, on a kernel of `hz` ticks a second. -/
structure OpenLine (hz : Nat) (info : R56Struct) : Prop where
  attached : info.port.tty = true
  hz : info.build.hz = hz

theorem exec_programs_settings {hz : Nat} {info after : R56Struct} {op : Op} (line : OpenLine hz info)
    (programs : op.programs) (ran : exec info op = some after) :
    OpenLine hz after ∧ after.ignoreStatusMask = info.ignoreStatusMask ||| (op.termios info).ignoreBits ∧
      hz / 50 ≤ after.timeout := by
  obtain ⟨s, mask, time, ticks, tty, termios, view⟩ := exec_programs programs ran
  have attached : s.port.tty = true := tty.trans line.attached
  rw [r56ChangeParams_lineView attached, ticks, line.hz, termios] at view
  have settings := congrArg LineView.settings view
  have masked := congrArg LineSettings.ignoreStatusMask settings
  have timed := congrArg LineSettings.timeout settings
  refine ⟨⟨(congrArg LineView.attached view).trans attached, (congrArg LineView.hz view).trans (ticks.trans line.hz)⟩,
    masked.trans (by rw [settingsAfter, mask]), ?_⟩
  refine le_of_le_of_eq ?_ timed.symm
  unfold settingsAfter
  dsimp only
  split
  · exact Nat.le_add_left _ _
  · exact Nat.le_add_left _ _

theorem exec_openLine {hz : Nat} {info after : R56Struct} {op : Op} (line : OpenLine hz info)
    (ran : exec info op = some after) : OpenLine hz after := by
  by_cases programs : op.programs
  · exact (exec_programs_settings line programs ran).1
  · have view := exec_lineView programs ran
    exact ⟨(congrArg LineView.attached view).trans line.attached, (congrArg LineView.hz view).trans line.hz⟩

theorem or_within_iff {a b own : U16} : (a ||| b) ||| own = own ↔ a ||| own = own ∧ b ||| own = own := by
  constructor
  · intro both
    have left : a ||| own = own := by
      rw [← both, BitVec.or_assoc, ← BitVec.or_assoc a a, BitVec.or_self]
    have right : b ||| own = own := by
      rw [← both, BitVec.or_assoc, BitVec.or_comm a, ← BitVec.or_assoc, ← BitVec.or_assoc, BitVec.or_self]
    exact ⟨left, right⟩
  · rintro ⟨left, right⟩
    rw [BitVec.or_assoc, right, left]

/-- Over a run the mask collects what every request asked to ignore. -/
theorem ignored_within_iff {hz : Nat} (own : U16) {s : R56Struct} {p : List (Op × R56Struct)} (run : Run Step s p)
    (line : OpenLine hz s) :
    (last s p).ignoreStatusMask ||| own = own ↔ s.ignoreStatusMask ||| own = own ∧
      Run (fun s op _ => op.programs → (op.termios s).ignoreBits ||| own = own) s p := by
  refine Run.last_iff (P := fun s => s.ignoreStatusMask ||| own = own)
    (fun s op t (line : OpenLine hz s) step => exec_openLine line step.1) (fun s op t line step => ?_) run line
  by_cases programs : op.programs
  · rw [(exec_programs_settings line programs step.1).2.1, or_within_iff]
    exact and_congr_right fun _ => ⟨fun within _ => within, fun within => within programs⟩
  · have same : t.ignoreStatusMask = s.ignoreStatusMask :=
      congrArg (·.settings.ignoreStatusMask) (exec_lineView programs step.1)
    rw [same]
    exact ⟨fun within => ⟨within, fun is => absurd is programs⟩, And.left⟩

/-- The timeout is 0 only before the first request. -/
theorem timeout_zero_iff {hz : Nat} (ticks : 50 ≤ hz) {s : R56Struct} {p : List (Op × R56Struct)} (run : Run Step s p)
    (line : OpenLine hz s) :
    (last s p).timeout = 0 ↔ s.timeout = 0 ∧ Run (fun _ op _ => ¬op.programs) s p := by
  refine Run.last_iff (P := fun s => s.timeout = 0)
    (fun s op t (line : OpenLine hz s) step => exec_openLine line step.1) (fun s op t line step => ?_) run line
  by_cases programs : op.programs
  · have slop := (exec_programs_settings line programs step.1).2.2
    exact iff_of_false (by omega) fun both => both.2 programs
  · have same : t.timeout = s.timeout := congrArg (·.settings.timeout) (exec_lineView programs step.1)
    rw [same]
    exact ⟨fun zero => ⟨zero, programs⟩, And.left⟩

/-- After any history of an open port the settings are those of the current termios and parameters by
themselves, exactly when no earlier request has asked to ignore a condition that the current
termios does not, and the current data rate is not 0 or there was no earlier request. A second
call changes nothing exactly when the data rate is not 0. -/
theorem line_settings_current_iff {s : R56Struct} (attached : s.port.tty = true) (ticks : 50 ≤ s.build.hz)
    {p : List (Op × R56Struct)} (run : Run Step s p) (termios : Termios) (params : R56Params) :
    let info := { (last s p).withTermios termios with params := params }
    ((r56ChangeParams info).lineSettings = settingsOf s.build.hz termios params ↔
      (s.ignoreStatusMask ||| termios.ignoreBits = termios.ignoreBits ∧
        Run (fun s op _ => op.programs → (op.termios s).ignoreBits ||| termios.ignoreBits = termios.ignoreBits) s p) ∧
      (termios.dataRate params ≠ 0 ∨ s.timeout = 0 ∧ Run (fun _ op _ => ¬op.programs) s p)) ∧
    ((r56ChangeParams (r56ChangeParams info)).lineSettings = (r56ChangeParams info).lineSettings ↔
      termios.dataRate params ≠ 0) := by
  intro info
  have line : OpenLine s.build.hz (last s p) :=
    run.last_invariant (P := OpenLine s.build.hz) (fun s op t line step => exec_openLine line step.1) ⟨attached, rfl⟩
  have up : info.port.tty = true := line.attached
  have hz : info.build.hz = s.build.hz := line.hz
  have here : info.termios = termios := rfl
  have first := r56ChangeParams_settings up
  rw [hz, here] at first
  refine ⟨?_, ?_⟩
  · rw [first, show info.params = params from rfl, settingsAfter_iff]
    exact and_congr (ignored_within_iff termios.ignoreBits run ⟨attached, rfl⟩)
      (or_congr_right (timeout_zero_iff ticks run ⟨attached, rfl⟩))
  · have view := r56ChangeParams_lineView up
    have again : (r56ChangeParams info).port.tty = true := (congrArg LineView.attached view).trans up
    have rate : (r56ChangeParams info).params.dataRate = termios.dataRate params := congrArg LineView.dataRate view
    have second := r56ChangeParams_settings again
    have ticksAgain : (r56ChangeParams info).build.hz = s.build.hz := (congrArg LineView.hz view).trans hz
    have termiosAgain : (r56ChangeParams info).termios = termios := congrArg LineView.termios view
    rw [ticksAgain, termiosAgain] at second
    have repeated : settingsAfter (r56ChangeParams info).lineSettings s.build.hz termios (r56ChangeParams info).params =
        settingsAfter (r56ChangeParams info).lineSettings s.build.hz termios params := by
      unfold settingsAfter
      rw [dataRate_idem termios rate, settingsOf_rate s.build.hz termios (dataRate_idem termios rate)]
    rw [second, repeated, first]
    exact settingsAfter_idem_iff ticks _ termios params

/-- An open port whose settings have not been applied yet. -/
def freshLine : R56Struct := { port := { tty := true } }

/-- 9600 bit/s, ignoring characters with parity errors or not. -/
def ignoring (ignore : Bool) : Termios := ⟨cs8 ||| cread, if ignore then ignpar else 0, 9600⟩

def freshIgnoring : R56Struct := r56SetTermios (freshLine.withTermios (ignoring true)) freshLine.tty.cCflag

theorem line_settings_current_ignoring :
    (r56ChangeParams { freshIgnoring.withTermios (ignoring true) with params := defaultParams }).lineSettings =
      settingsOf 1000 (ignoring true) defaultParams := by
  have run : Run Step freshLine [(.setTermios (cs8 ||| cread) ignpar 9600, freshIgnoring)] := ⟨⟨rfl, nofun⟩, trivial⟩
  exact (line_settings_current_iff rfl (by decide) run (ignoring true) defaultParams).1.mpr
    ⟨⟨by decide, fun _ => by decide, trivial⟩, .inl (by decide)⟩

/-- Characters with parity errors are still dropped when the termios does not ask for it any more, and
without a data rate the timeout grows with every call. -/
theorem stale_line_settings :
    (r56ChangeParams { freshIgnoring.withTermios (ignoring false) with params := defaultParams }).ignoreStatusMask =
      rxstatusParityError ||| rxstatusFramingError ∧
    (r56ChangeParams { freshLine.withTermios (ignoring false) with params := defaultParams }).ignoreStatusMask = 0 ∧
    (r56ChangeParams (freshLine.withTermios ⟨cs8, 0, 0⟩)).timeout = 20 ∧
    (r56ChangeParams (r56ChangeParams (freshLine.withTermios ⟨cs8, 0, 0⟩))).timeout = 40 := by
  have set := @exec_programs_settings 1000 freshLine freshIgnoring (.setTermios (cs8 ||| cread) ignpar 9600)
    ⟨rfl, rfl⟩ trivial rfl
  have stale : freshIgnoring.ignoreStatusMask = rxstatusParityError ||| rxstatusFramingError :=
    set.2.1.trans (by decide)
  have later := @r56ChangeParams_settings { freshIgnoring.withTermios (ignoring false) with params := defaultParams }
    set.1.attached
  have clean := @r56ChangeParams_settings { freshLine.withTermios (ignoring false) with params := defaultParams } rfl
  refine ⟨(congrArg LineSettings.ignoreStatusMask later).trans ?_,
    (congrArg LineSettings.ignoreStatusMask clean).trans (by decide), ?_⟩
  · show freshIgnoring.ignoreStatusMask ||| (ignoring false).ignoreBits = _
    rw [stale]
    decide
  -- at B0 there is no data rate
  have once := r56ChangeParams_lineView (show (freshLine.withTermios ⟨cs8, 0, 0⟩).port.tty = true from rfl)
  generalize r56ChangeParams (freshLine.withTermios ⟨cs8, 0, 0⟩) = s at once ⊢
  have time : s.timeout = 20 := (congrArg (·.settings.timeout) once).trans (by decide)
  have attached : s.port.tty = true := congrArg LineView.attached once
  have none : s.termios.dataRate s.params = 0 := by
    have termios : s.termios = ⟨cs8, 0, 0⟩ := congrArg LineView.termios once
    have rate : s.params.dataRate = 0 := congrArg LineView.dataRate once
    rw [termios, Termios.dataRate, termiosParams]
    dsimp only
    rw [rate]
    rfl
  have again := congrArg LineSettings.timeout (r56ChangeParams_settings attached)
  have hz : s.build.hz = 1000 := congrArg LineView.hz once
  unfold settingsAfter at again
  dsimp only at again
  rw [if_neg (not_not.mpr none), hz] at again
  refine ⟨time, again.trans ?_⟩
  show s.timeout + 1000 / 50 = 40
  rw [time]

end Route56
