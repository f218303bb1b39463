import Route56.Frame
import Route56.Lib.Nearest

namespace Route56

open Nearest

/-- The divider nearest to `xtal / speed` among those a 16 bit constant can give. -/
def bestDivider (xtal speed : Nat) : Nat := max 1 (min 65536 (nearest xtal speed))

/-- The rate a generator makes of `xtal` with the constant `tc`. -/
def generatedClock (xtal : Nat) (tc : U16) : ℚ := xtal / (tc.toNat + 1)

/-- The nearest divider is not 0, and is no more than the generator has, or a multiple of it. -/
def DividerFits (xtal speed : Nat) : Prop :=
  speed ≤ 2 * xtal ∧ (2 * xtal < 131073 * speed ∨ nearest xtal speed % 65536 = 0)

/-- What `usc_set_sdlc_mode` divides the crystal by for the DPLL. -/
def R56Struct.dpllDivisor (info : R56Struct) : Nat :=
  if info.params.flags &&& hdlcFlagDpllDiv16 ≠ 0 then 16
  else if info.params.flags &&& hdlcFlagDpllDiv8 ≠ 0 then 8 else 32

/-- One of the two clocks comes from the DPLL. -/
def R56Struct.usesDpll (info : R56Struct) : Prop :=
  info.params.flags &&& (hdlcFlagRxcDpll + hdlcFlagTxcDpll) ≠ 0

instance (info : R56Struct) : Decidable info.usesDpll :=
  inferInstanceAs (Decidable (info.params.flags &&& (hdlcFlagRxcDpll + hdlcFlagTxcDpll) ≠ 0))

/-- Whatever the quotient, the driver writes one less than the nearest divider, modulo 2^16. -/
theorem timeConstant_toNat (xtal : Nat) {rate : Nat} (pos : 0 < rate) :
    (timeConstant xtal rate).toNat = (nearest xtal rate + 65535) % 65536 := by
  have half : xtal % rate * 2 / rate = 0 ↔ 2 * (xtal % rate) < rate := by
    rw [Nat.div_eq_zero_iff_lt pos, Nat.mul_comm]
  have quotient : ((xtal / rate : Nat) : U16).toNat = xtal / rate % 65536 := BitVec.toNat_ofNat _ _
  unfold timeConstant
  rw [nearest_eq_ite xtal pos]
  by_cases down : 2 * (xtal % rate) < rate
  · rw [if_pos (half.mpr down), if_pos down, BitVec.toNat_sub, quotient]
    have one : (1 : U16).toNat = 1 := rfl
    rw [one]
    omega
  · rw [if_neg (fun zero => down (half.mp zero)), if_neg down, quotient]
    omega

/-- The constant of the two copies that only truncate. -/
theorem truncated_toNat (xtal rate : Nat) :
    (((xtal / rate : Nat) : U16) - 1).toNat = (xtal / rate + 65535) % 65536 := by
  have quotient : ((xtal / rate : Nat) : U16).toNat = xtal / rate % 65536 := BitVec.toNat_ofNat _ _
  have one : (1 : U16).toNat = 1 := rfl
  rw [BitVec.toNat_sub, quotient, one]
  omega

theorem timeConstant_best_iff (xtal : Nat) {speed : Nat} (pos : 0 < speed) :
    (timeConstant xtal speed).toNat + 1 = bestDivider xtal speed ↔ DividerFits xtal speed := by
  have some := nearest_pos_iff (a := xtal) pos
  have few := nearest_le_iff (a := xtal) pos 65536
  rw [timeConstant_toNat xtal pos, bestDivider, DividerFits, ← some]
  omega

theorem bestDivider_antitone (xtal : Nat) {slow fast : Nat} (pos : 0 < slow) (faster : slow ≤ fast) :
    bestDivider xtal fast ≤ bestDivider xtal slow := by
  have le := nearest_antitone xtal pos faster
  unfold bestDivider
  omega

/-- Of two speeds the driver can divide for, the larger one gets the faster clock. -/
theorem generatedClock_mono (xtal : Nat) {slow fast : Nat} (pos : 0 < slow) (faster : slow ≤ fast)
    (slowFits : DividerFits xtal slow) (fastFits : DividerFits xtal fast) :
    generatedClock xtal (timeConstant xtal slow) ≤ generatedClock xtal (timeConstant xtal fast) := by
  have slowBest := (timeConstant_best_iff xtal pos).mpr slowFits
  have fastBest := (timeConstant_best_iff xtal (pos.trans_le faster)).mpr fastFits
  have le : (timeConstant xtal fast).toNat + 1 ≤ (timeConstant xtal slow).toNat + 1 := by
    rw [slowBest, fastBest]
    exact bestDivider_antitone xtal pos faster
  have cast : ((timeConstant xtal fast).toNat + 1 : ℚ) ≤ (timeConstant xtal slow).toNat + 1 := by exact_mod_cast le
  exact div_le_div_of_nonneg_left (Nat.cast_nonneg xtal) (by positivity) cast

/-- The rounded and the truncated constant are the same when the quotient is rounded down. -/
theorem truncated_eq_iff (xtal : Nat) {rate : Nat} (pos : 0 < rate) :
    ((xtal / rate : Nat) : U16) - 1 = timeConstant xtal rate ↔ 2 * (xtal % rate) < rate := by
  rw [← BitVec.toNat_inj, truncated_toNat, timeConstant_toNat xtal pos, nearest_eq_ite xtal pos]
  split
  · rename_i down
    exact iff_of_true rfl down
  · rename_i up
    exact iff_of_false (by omega) up

/-- The constants of the two generators. -/
def Usc.timeConstants (u : Usc) : U16 × U16 := (u.reg .tc0r, u.reg .tc1r)

theorem programChannelMode_timeConstants (info : R56Struct) (u : Usc) :
    (programChannelMode info u).timeConstants = u.timeConstants := by
  have mode : (sdlcChannelMode info u).1.timeConstants = u.timeConstants := by
    unfold sdlcChannelMode
    dsimp only
    repeat' split
    all_goals rfl
  unfold programChannelMode
  dsimp only
  split
  · exact mode
  · exact mode

theorem programTransmitter_timeConstants (info : R56Struct) (pre : Bool) (u : Usc) :
    (programTransmitter info pre u).timeConstants = u.timeConstants := by
  have idle (v : Usc) : (uscSetTxidle info v).timeConstants = v.timeConstants := by
    unfold uscSetTxidle
    dsimp only
    split
    · rfl
    · rfl
  exact idle _

theorem programClockMode_timeConstants (info : R56Struct) (u : Usc) :
    (programClockMode info u).timeConstants = u.timeConstants := by
  unfold programClockMode
  dsimp only
  repeat' split
  all_goals rfl

theorem programDma_timeConstants (info : R56Struct) (u : Usc) :
    (programDma info u).timeConstants = u.timeConstants := by
  unfold programDma
  dsimp only
  split
  · split <;> rfl
  · split <;> rfl

theorem programHardwareConfiguration_tc0r (info : R56Struct) (u : Usc) :
    (programHardwareConfiguration info u).reg .tc0r = u.reg .tc0r := by
  unfold programHardwareConfiguration
  dsimp only
  split
  · rfl
  · rfl

theorem programHardwareConfiguration_tc1r (info : R56Struct) (u : Usc) (dpll : info.usesDpll)
    (speed : info.params.clockSpeed ≠ 0) :
    (programHardwareConfiguration info u).reg .tc1r =
      timeConstant (info.xtalSpeed / info.dpllDivisor) info.params.clockSpeed := by
  have divisor : (if info.params.flags &&& hdlcFlagDpllDiv16 ≠ 0 then (16, bit10)
      else if info.params.flags &&& hdlcFlagDpllDiv8 ≠ 0 then (8, bit11) else (32, 0)).1 = info.dpllDivisor := by
    unfold R56Struct.dpllDivisor
    split
    · rfl
    · split <;> rfl
  unfold programHardwareConfiguration
  dsimp only
  rw [if_neg dpll, ← divisor, if_pos speed]
  rfl

theorem uscSetSdlcMode_timeConstants (info : R56Struct) : ∃ u : Usc, u.timeConstants = info.usc.timeConstants ∧
    (uscSetSdlcMode info).usc.timeConstants = (programHardwareConfiguration info u).timeConstants := by
  have receiver (u : Usc) : (programReceiver info u).timeConstants = u.timeConstants := rfl
  have preamble (u : Usc) : (programPreamble info u).timeConstants = u.timeConstants := rfl
  have interface (s : R56Struct) : (uscSetInterface s).usc.timeConstants = s.usc.timeConstants := by
    unfold uscSetInterface
    split
    · rfl
    · rfl
  have stopped (s : R56Struct) : (uscStopReceiver (uscStopTransmitter s)).usc.timeConstants = s.usc.timeConstants := rfl
  refine ⟨programClockMode info (programTransmitter info
    (decide (uscInReg (uscOutReg info.usc .tmcr 0x1f) .tmdr = iuscPreSl1660))
    (programReceiver info (programChannelMode info (uscOutReg info.usc .tmcr 0x1f)))), ?_, ?_⟩
  · rw [programClockMode_timeConstants, programTransmitter_timeConstants, receiver, programChannelMode_timeConstants]
    rfl
  · unfold uscSetSdlcMode
    dsimp only
    rw [interface, stopped]
    exact (preamble _).trans (programDma_timeConstants _ _)

theorem uscSetSdlcMode_tc0r (info : R56Struct) : (uscSetSdlcMode info).usc.reg .tc0r = info.usc.reg .tc0r := by
  obtain ⟨u, before, after⟩ := uscSetSdlcMode_timeConstants info
  have written := congrArg Prod.fst after
  exact written.trans ((programHardwareConfiguration_tc0r info u).trans (congrArg Prod.fst before))

theorem uscSetSdlcMode_tc1r {info : R56Struct} (dpll : info.usesDpll) (speed : info.params.clockSpeed ≠ 0) :
    (uscSetSdlcMode info).usc.reg .tc1r = timeConstant (info.xtalSpeed / info.dpllDivisor) info.params.clockSpeed := by
  obtain ⟨u, -, after⟩ := uscSetSdlcMode_timeConstants info
  have written := congrArg Prod.snd after
  exact written.trans (programHardwareConfiguration_tc1r info u dpll speed)

theorem uscEnableAuxClock_tc0r (info : R56Struct) (rate : Nat) (u : Usc) :
    (uscEnableAuxClock info rate u).reg .tc0r = if rate ≠ 0 then timeConstant info.xtalSpeed rate else u.reg .tc0r := by
  unfold uscEnableAuxClock
  split
  · rfl
  · rfl

theorem uscEnableAsyncClock_tc0r (info : R56Struct) (rate : Nat) (u : Usc) :
    (uscEnableAsyncClock info rate u).reg .tc0r =
      if rate ≠ 0 then ((info.xtalSpeed / rate : Nat) : U16) - 1 else u.reg .tc0r := by
  unfold uscEnableAsyncClock
  split
  · rfl
  · rfl

theorem uscEnableLoopback_tc0r (info : R56Struct) (u : Usc) :
    (uscEnableLoopback info true u).reg .tc0r =
      if info.params.clockSpeed ≠ 0 then ((info.xtalSpeed / info.params.clockSpeed : Nat) : U16) - 1 else 8 := rfl

/-- `usc_loopback_frame` leaves the fastest clock in BRG0. -/
theorem uscLoopbackFrame_tc0r (info : R56Struct) : (uscLoopbackFrame info).usc.reg .tc0r = 0 := rfl

/-- The port set to another speed. -/
def R56Struct.withSpeed (info : R56Struct) (clockSpeed : Nat) : R56Struct :=
  { info with params := { info.params with clockSpeed := clockSpeed } }

/-- The driver writes the best constant exactly when the nearest divider fits the 16 bits, for
the AUX clock and for the DPLL; among the speeds for which it does a larger one is not slower. -/
theorem time_constants_best_iff (info : R56Struct) :
    (∀ (speed : Nat) (u : Usc), 0 < speed →
      (((uscEnableAuxClock info speed u).reg .tc0r).toNat + 1 = bestDivider info.xtalSpeed speed ↔
        DividerFits info.xtalSpeed speed)) ∧
    (info.usesDpll → 0 < info.params.clockSpeed →
      (((uscSetSdlcMode info).usc.reg .tc1r).toNat + 1 =
          bestDivider (info.xtalSpeed / info.dpllDivisor) info.params.clockSpeed ↔
        DividerFits (info.xtalSpeed / info.dpllDivisor) info.params.clockSpeed)) ∧
    (∀ (slow fast : Nat) (u v : Usc), 0 < slow → slow ≤ fast →
      DividerFits info.xtalSpeed slow → DividerFits info.xtalSpeed fast →
      generatedClock info.xtalSpeed ((uscEnableAuxClock info slow u).reg .tc0r) ≤
        generatedClock info.xtalSpeed ((uscEnableAuxClock info fast v).reg .tc0r)) ∧
    (info.usesDpll → ∀ slow fast : Nat, 0 < slow → slow ≤ fast →
      DividerFits (info.xtalSpeed / info.dpllDivisor) slow → DividerFits (info.xtalSpeed / info.dpllDivisor) fast →
      generatedClock (info.xtalSpeed / info.dpllDivisor) ((uscSetSdlcMode (info.withSpeed slow)).usc.reg .tc1r) ≤
        generatedClock (info.xtalSpeed / info.dpllDivisor) ((uscSetSdlcMode (info.withSpeed fast)).usc.reg .tc1r)) := by
  refine ⟨fun speed u pos => ?_, fun dpll pos => ?_, fun slow fast u v pos faster slowFits fastFits => ?_,
    fun dpll slow fast pos faster slowFits fastFits => ?_⟩
  · rw [uscEnableAuxClock_tc0r, if_pos pos.ne']
    exact timeConstant_best_iff _ pos
  · rw [uscSetSdlcMode_tc1r dpll pos.ne']
    exact timeConstant_best_iff _ pos
  · rw [uscEnableAuxClock_tc0r, uscEnableAuxClock_tc0r, if_pos pos.ne', if_pos (pos.trans_le faster).ne']
    exact generatedClock_mono _ pos faster slowFits fastFits
  · have constant (speed : Nat) (some : speed ≠ 0) : (uscSetSdlcMode (info.withSpeed speed)).usc.reg .tc1r =
        timeConstant (info.xtalSpeed / info.dpllDivisor) speed := @uscSetSdlcMode_tc1r (info.withSpeed speed) dpll some
    rw [constant slow pos.ne', constant fast (pos.trans_le faster).ne']
    exact generatedClock_mono _ pos faster slowFits fastFits

/-- An ISA adapter whose receive clock comes from the DPLL, at 9600 bit/s. -/
def dpllPort : R56Struct where
  busType := .isa
  params := { defaultParams with flags := hdlcFlagRxcDpll, clockSpeed := 9600 }

theorem time_constants_best_dpllPort :
    ((uscEnableAuxClock dpllPort 9600 {}).reg .tc0r).toNat + 1 = bestDivider 14745600 9600 ∧
    ((uscSetSdlcMode dpllPort).usc.reg .tc1r).toNat + 1 = bestDivider 460800 9600 ∧
    generatedClock 14745600 ((uscEnableAuxClock dpllPort 9600 {}).reg .tc0r) ≤
      generatedClock 14745600 ((uscEnableAuxClock dpllPort 19200 {}).reg .tc0r) ∧
    generatedClock 460800 ((uscSetSdlcMode (dpllPort.withSpeed 9600)).usc.reg .tc1r) ≤
      generatedClock 460800 ((uscSetSdlcMode (dpllPort.withSpeed 19200)).usc.reg .tc1r) := by
  have fits (xtal speed : Nat) (low : speed ≤ 2 * xtal) (high : 2 * xtal < 131073 * speed) : DividerFits xtal speed :=
    ⟨low, .inl high⟩
  obtain ⟨aux, dpll, mono, dpllMono⟩ := time_constants_best_iff dpllPort
  exact ⟨(aux 9600 {} (by norm_num)).mpr (fits _ _ (by decide) (by decide)),
    (dpll (by decide) (by decide)).mpr (fits _ _ (by decide) (by decide)),
    mono 9600 19200 {} {} (by norm_num) (by norm_num) (fits _ _ (by decide) (by decide)) (fits _ _ (by decide) (by decide)),
    dpllMono (by decide) 9600 19200 (by norm_num) (by norm_num) (fits _ _ (by decide) (by decide))
      (fits _ _ (by decide) (by decide))⟩

/-- Above twice the crystal the slowest clock comes out, and far below it the count wraps: 100 bit/s
give a faster clock than 1000 bit/s. -/
theorem time_constants_wrap :
    ((uscEnableAuxClock {} 40000001 {}).reg .tc0r).toNat + 1 = 65536 ∧ bestDivider 20000000 40000001 = 1 ∧
    ((uscEnableAuxClock {} 100 {}).reg .tc0r).toNat + 1 = 3392 ∧ bestDivider 20000000 100 = 65536 ∧
    ((uscEnableAuxClock {} 1000 {}).reg .tc0r).toNat + 1 = 20000 := by
  have above : nearest 20000000 40000001 = 0 := by rw [nearest_eq_div _ (by norm_num)]
  have below : nearest 20000000 100 = 200000 := by rw [nearest_eq_div _ (by norm_num)]
  refine ⟨by decide +kernel, ?_, by decide +kernel, ?_, by decide +kernel⟩
  · rw [bestDivider, above]
    rfl
  · rw [bestDivider, below]
    rfl

/-- The two ends of `usc_set_sync_mode` give BRG0 the same constant. `usc_enable_loopback` takes all
of `clock_speed`, the AUX clock its low 32 bits. -/
def SyncClockAgrees (xtal clockSpeed : Nat) : Prop :=
  if clockSpeed < 2 ^ 32 then clockSpeed ≠ 0 ∧ 2 * (xtal % clockSpeed) < clockSpeed
  else clockSpeed % 2 ^ 32 ≠ 0 ∧ nearest xtal (clockSpeed % 2 ^ 32) % 65536 = 0

def R56Struct.withLoopback (info : R56Struct) (loopback : U8) : R56Struct :=
  { info with params := { info.params with loopback := loopback } }

theorem uscSetSyncMode_tc0r (info : R56Struct) :
    (uscSetSyncMode info).usc.reg .tc0r =
      if info.params.loopback ≠ 0 then
        if info.params.clockSpeed ≠ 0 then ((info.xtalSpeed / info.params.clockSpeed : Nat) : U16) - 1 else 8
      else
        if info.params.clockSpeed % 2 ^ 32 ≠ 0 then timeConstant info.xtalSpeed (info.params.clockSpeed % 2 ^ 32) else 0 := by
  have frame := (uscSetSdlcMode_frame (uscLoopbackFrame info)).trans (uscLoopbackFrame_frame info)
  have tc0r := (uscSetSdlcMode_tc0r (uscLoopbackFrame info)).trans (uscLoopbackFrame_tc0r info)
  unfold uscSetSyncMode
  dsimp only
  generalize uscSetSdlcMode (uscLoopbackFrame info) = after at frame tc0r ⊢
  have speed : after.params.clockSpeed = info.params.clockSpeed := congrArg (·.params.clockSpeed) frame
  have loopback : after.params.loopback = info.params.loopback := congrArg (·.params.loopback) frame
  have xtal : after.xtalSpeed = info.xtalSpeed := congrArg (·.xtalSpeed) frame
  have inten (u : Usc) : (enableIsaInten after u).reg .tc0r = u.reg .tc0r := by
    unfold enableIsaInten
    split
    · rfl
    · rfl
  rw [loopback]
  split
  · rw [uscEnableLoopback_tc0r, speed, xtal]
  · rw [uscEnableAuxClock_tc0r, speed, xtal, inten, tc0r]

theorem syncClockAgrees_iff {xtal : Nat} (small : xtal < 2 ^ 32) (clockSpeed : Nat) :
    (if clockSpeed % 2 ^ 32 ≠ 0 then timeConstant xtal (clockSpeed % 2 ^ 32) else 0) =
        (if clockSpeed ≠ 0 then ((xtal / clockSpeed : Nat) : U16) - 1 else 8) ↔
      SyncClockAgrees xtal clockSpeed := by
  unfold SyncClockAgrees
  by_cases narrow : clockSpeed < 2 ^ 32
  · rw [if_pos narrow, Nat.mod_eq_of_lt narrow]
    by_cases none : clockSpeed = 0
    · rw [if_neg (not_not.mpr none), if_neg (not_not.mpr none)]
      exact iff_of_false (by decide) (fun agrees => agrees.1 none)
    · rw [if_pos none, if_pos none, eq_comm, truncated_eq_iff xtal (Nat.pos_of_ne_zero none)]
      exact ⟨fun down => ⟨none, down⟩, fun agrees => agrees.2⟩
  · have zero : xtal / clockSpeed = 0 := Nat.div_eq_of_lt (by omega)
    have some : clockSpeed ≠ 0 := by omega
    rw [if_neg narrow, if_pos some, zero]
    by_cases none : clockSpeed % 2 ^ 32 = 0
    · rw [if_neg (not_not.mpr none)]
      exact iff_of_false (by decide) (fun agrees => agrees.1 none)
    · have slowest : (((0 : Nat) : U16) - 1).toNat = 65535 := rfl
      rw [if_pos none, ← BitVec.toNat_inj, timeConstant_toNat xtal (Nat.pos_of_ne_zero none), slowest]
      constructor
      · exact fun same => ⟨none, by omega⟩
      · intro agrees
        have multiple := agrees.2
        omega

/-- The places that program BRG0 give it the same constant for a rate exactly when the quotient
is not rounded up; `usc_set_sync_mode` in addition needs a clock speed. -/
theorem brg0_constants_agree_iff (info : R56Struct) :
    (∀ (rate : Nat) (u v : Usc), 0 < rate →
      ((uscEnableAsyncClock info rate u).reg .tc0r = (uscEnableAuxClock info rate v).reg .tc0r ↔
        2 * (info.xtalSpeed % rate) < rate)) ∧
    (∀ u v : Usc, 0 < info.params.clockSpeed →
      ((uscEnableLoopback info true u).reg .tc0r = (uscEnableAuxClock info info.params.clockSpeed v).reg .tc0r ↔
        2 * (info.xtalSpeed % info.params.clockSpeed) < info.params.clockSpeed)) ∧
    ((uscSetSyncMode (info.withLoopback 0)).usc.reg .tc0r = (uscSetSyncMode (info.withLoopback 1)).usc.reg .tc0r ↔
      SyncClockAgrees info.xtalSpeed info.params.clockSpeed) := by
  refine ⟨fun rate u v pos => ?_, fun u v pos => ?_, ?_⟩
  · rw [uscEnableAsyncClock_tc0r, uscEnableAuxClock_tc0r, if_pos pos.ne', if_pos pos.ne']
    exact truncated_eq_iff _ pos
  · rw [uscEnableLoopback_tc0r, uscEnableAuxClock_tc0r, if_pos pos.ne', if_pos pos.ne']
    exact truncated_eq_iff _ pos
  · have small : info.xtalSpeed < 2 ^ 32 := by
      unfold R56Struct.xtalSpeed
      split <;> decide
    rw [uscSetSyncMode_tc0r, uscSetSyncMode_tc0r]
    exact syncClockAgrees_iff small info.params.clockSpeed

theorem brg0_constants_agree_dpllPort :
    (uscEnableAsyncClock dpllPort 9600 {}).reg .tc0r = (uscEnableAuxClock dpllPort 9600 {}).reg .tc0r ∧
    (uscEnableLoopback dpllPort true {}).reg .tc0r = (uscEnableAuxClock dpllPort 9600 {}).reg .tc0r := by
  obtain ⟨async, loopback, -⟩ := brg0_constants_agree_iff dpllPort
  exact ⟨(async 9600 {} {} (by norm_num)).mpr (by decide), (loopback {} {} (by decide)).mpr (by decide)⟩

/-- 20 MHz over 48 kbit/s is 416.67: the AUX clock divides by 417, the loopback clock by 416. -/
theorem loopback_clock_differs :
    let info : R56Struct := { params := { defaultParams with clockSpeed := 48000 } }
    (uscSetSyncMode (info.withLoopback 0)).usc.reg .tc0r = 416 ∧
      (uscSetSyncMode (info.withLoopback 1)).usc.reg .tc0r = 415 ∧
      (uscEnableAsyncClock info 48000 {}).reg .tc0r = 415 := by
  intro info
  rw [uscSetSyncMode_tc0r, uscSetSyncMode_tc0r, uscEnableAsyncClock_tc0r]
  decide

end Route56
