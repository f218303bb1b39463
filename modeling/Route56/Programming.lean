import Route56.Control

namespace Route56

/-- The field of the Port Control Register that drives RTS. -/
def rtsField : U16 := bit14 + bit15

/-- Bit 13 of the channel mode is 0, in the register and in the copy of it. -/
def ChipControl.released (c : ChipControl) : Prop := c.cmr &&& bit13 = 0 ∧ c.cmrValue &&& bit13 = 0

/-- On the ISA bus the field of RTS is programmed as well, and out of loop mode bit 13 of the channel
mode. -/
structure ChipProgrammed (isa loop : Prop) (c d : ChipControl) : Prop where
  stopped : c.txDma.running = false → d.txDma.running = false
  rts : ¬isa → ∃ writes, d.pcrWrites = c.pcrWrites ++ writes ∧
    ∀ w ∈ d.pcr :: writes, w &&& rtsField = c.pcr &&& rtsField
  released : loop → c.released → d.released

/-- The loop mode flag is set. -/
def R56Struct.loopmode (info : R56Struct) : Prop := info.params.flags &&& hdlcFlagHdlcLoopmode ≠ 0

section

variable {isa loop : Prop}

namespace ChipProgrammed

theorem of_eq {c d : ChipControl} (same : d = c) : ChipProgrammed isa loop c d := by
  subst same
  refine ⟨id, fun _ => ⟨[], (List.append_nil _).symm, fun w member => ?_⟩, fun _ => id⟩
  rw [List.mem_singleton.mp member]

theorem trans {c d e : ChipControl} (first : ChipProgrammed isa loop c d) (second : ChipProgrammed isa loop d e) :
    ChipProgrammed isa loop c e where
  stopped := second.stopped ∘ first.stopped
  rts other := by
    obtain ⟨earlier, written, kept⟩ := first.rts other
    obtain ⟨later, rewritten, same⟩ := second.rts other
    have here := kept d.pcr (List.mem_cons_self ..)
    refine ⟨earlier ++ later, by rw [rewritten, written, List.append_assoc], fun w member => ?_⟩
    rcases List.mem_cons.mp member with rfl | member
    · exact (same _ (List.mem_cons_self ..)).trans here
    rcases List.mem_append.mp member with old | new
    · exact kept w (List.mem_cons_of_mem _ old)
    · exact (same w (List.mem_cons_of_mem _ new)).trans here
  released inLoop := second.released inLoop ∘ first.released inLoop

theorem pcr {u : Usc} {value : U16} (kept : ¬isa → value &&& rtsField = u.reg .pcr &&& rtsField) :
    ChipProgrammed isa loop u.control (uscOutReg u .pcr value).control where
  stopped := id
  rts other := by
    refine ⟨[value], rfl, fun w member => ?_⟩
    rcases List.mem_cons.mp member with rfl | member
    · exact kept other
    · rw [List.mem_singleton.mp member]
      exact kept other
  released _ := id

theorem reset {u : Usc} {cmd : U16} (stops : ∀ ch : TxDma, ch.running = false → (ch.command u.ntar cmd).running = false) :
    ChipProgrammed isa loop u.control (uscDmaCmd u cmd).control where
  stopped := stops u.txDma
  rts _ := by
    refine ⟨[], (List.append_nil _).symm, fun w member => ?_⟩
    rw [List.mem_singleton.mp member]
    rfl
  released _ := id

end ChipProgrammed

/-- A field outside the bits that are cleared and set. -/
theorem field_rewritten {x cleared set field : U16} (outside : ~~~cleared &&& field = field) (none : set &&& field = 0) :
    (x &&& ~~~cleared ||| set) &&& field = x &&& field := by
  rw [BitVec.and_or_distrib_right, BitVec.and_assoc, outside, none]
  exact BitVec.or_zero

theorem field_set {x set field : U16} (none : set &&& field = 0) : (x ||| set) &&& field = x &&& field := by
  rw [BitVec.and_or_distrib_right, none]
  exact BitVec.or_zero

/-- In loop mode the channel mode that is written has bit 13 clear. -/
theorem programChannelMode_released {info : R56Struct} (inLoop : info.loopmode) (u : Usc) :
    (programChannelMode info u).control.released := by
  have mode : sdlcChannelMode info u = (u, 0x8e06) := if_pos inLoop
  unfold programChannelMode
  dsimp only
  rw [mode]
  have cleared : ∀ value : U16, value = 0x8e06 ∨ value = 0x8e06 ||| bit12 →
      value &&& bit13 = 0 ∧ (value ||| bit4) &&& bit13 = 0 := by
    rintro value (rfl | rfl)
    · decide
    · decide
  have shared : (if info.params.mode = r56ModeHdlc ∧ info.params.flags &&& hdlcFlagShareZero ≠ 0 then
      (0x8e06 : U16) ||| bit12 else 0x8e06) = 0x8e06 ∨ (if info.params.mode = r56ModeHdlc ∧
        info.params.flags &&& hdlcFlagShareZero ≠ 0 then (0x8e06 : U16) ||| bit12 else 0x8e06) = 0x8e06 ||| bit12 := by
    split
    · exact .inr rfl
    · exact .inl rfl
  dsimp only
  generalize (if info.params.mode = r56ModeHdlc ∧ info.params.flags &&& hdlcFlagShareZero ≠ 0 then
      (0x8e06 : U16) ||| bit12 else 0x8e06) = value at shared ⊢
  obtain ⟨plain, filtered⟩ := cleared value shared
  split
  · exact ⟨filtered, filtered⟩
  · exact ⟨plain, plain⟩

theorem programChannelMode_programmed (info : R56Struct) (u : Usc) :
    ChipProgrammed isa info.loopmode u.control (programChannelMode info u).control := by
  have mode : (sdlcChannelMode info u).1.txDma = u.txDma ∧ (sdlcChannelMode info u).1.pcrWrites = u.pcrWrites ∧
      (sdlcChannelMode info u).1.reg .pcr = u.reg .pcr := by
    unfold sdlcChannelMode
    dsimp only
    repeat' split
    all_goals exact ⟨rfl, rfl, rfl⟩
  have same : (programChannelMode info u).txDma = u.txDma ∧ (programChannelMode info u).pcrWrites = u.pcrWrites ∧
      (programChannelMode info u).reg .pcr = u.reg .pcr := by
    unfold programChannelMode
    dsimp only
    split
    · exact mode
    · exact mode
  refine ⟨fun stopped => ?_, fun _ => ⟨[], ?_, fun w member => ?_⟩, fun inLoop _ => programChannelMode_released inLoop u⟩
  · rw [← stopped]
    exact congrArg TxDma.running same.1
  · rw [List.append_nil]
    exact same.2.1
  · rw [List.mem_singleton.mp member]
    exact congrArg (· &&& rtsField) same.2.2

theorem programTransmitter_control (info : R56Struct) (pre : Bool) (u : Usc) :
    (programTransmitter info pre u).control = u.control := by
  have idle (v : Usc) : (uscSetTxidle info v).control = v.control := by
    unfold uscSetTxidle
    dsimp only
    split
    · rfl
    · rfl
  exact idle _

theorem programClockMode_programmed (info : R56Struct) (u : Usc) :
    ChipProgrammed isa loop u.control (programClockMode info u).control := by
  have cleared : ChipProgrammed isa loop u.control (uscOutReg u .pcr (uscInReg u .pcr &&& ~~~0x0c00 ||| 0x0800)).control :=
    .pcr fun _ => field_rewritten (by decide) (by decide)
  generalize first : uscOutReg u .pcr (uscInReg u .pcr &&& ~~~0x0c00 ||| 0x0800) = v at cleared
  have set : ChipProgrammed isa loop v.control (uscOutReg v .pcr (uscInReg v .pcr ||| 0x0c00)).control :=
    .pcr fun _ => field_set (by decide)
  have written : (programClockMode info u).control = v.control ∨
      (programClockMode info u).control = (uscOutReg v .pcr (uscInReg v .pcr ||| 0x0c00)).control := by
    unfold programClockMode
    dsimp only
    rw [first]
    repeat' split
    all_goals first | exact .inl rfl | exact .inr rfl
  rcases written with same | second
  · rw [same]
    exact cleared
  · rw [second]
    exact cleared.trans set

theorem programHardwareConfiguration_control (info : R56Struct) (u : Usc) :
    (programHardwareConfiguration info u).control = u.control := by
  unfold programHardwareConfiguration
  dsimp only
  split
  · rfl
  · rfl

theorem programDma_programmed (info : R56Struct) (u : Usc) :
    ChipProgrammed (info.busType = .isa) loop u.control (programDma info u).control := by
  have reset (v : Usc) : ChipProgrammed (info.busType = .isa) loop v.control (uscDmaCmd v dmaCmdResetAllChannels).control :=
    .reset fun _ _ => rfl
  have bus (v : Usc) : ChipProgrammed (info.busType = .isa) loop v.control (if info.busType = .isa then
      uscOutReg v .pcr ((uscInReg v .pcr ||| bit15) &&& ~~~bit14) else v).control := by
    split
    · rename_i isa
      exact .pcr fun other => absurd isa other
    · exact .of_eq rfl
  have enabled : (if info.params.flags &&& hdlcFlagAutoCts ≠ 0 then
      uscOutReg (uscOutReg u .ccsr 0x1020) .sicr (uscInReg (uscOutReg u .ccsr 0x1020) .sicr ||| sicrCtsInactive)
      else uscOutReg u .ccsr 0x1020).control = u.control := by
    split
    · rfl
    · rfl
  have modes (v : Usc) (dcr : U16) : (uscOutDmaReg (uscOutDmaReg (uscOutDmaReg (uscOutDmaReg (uscOutDmaReg v
      .dcr dcr) .rdmr 0xf200) .tdmr 0xf200) .dicr 0x9000) .cdir 0x0303).control = v.control := rfl
  unfold programDma
  dsimp only
  generalize (if info.params.flags &&& hdlcFlagAutoCts ≠ 0 then
      uscOutReg (uscOutReg u .ccsr 0x1020) .sicr (uscInReg (uscOutReg u .ccsr 0x1020) .sicr ||| sicrCtsInactive)
      else uscOutReg u .ccsr 0x1020) = v at enabled ⊢
  have restored (w : Usc) : (uscOutReg { w with mbreBit := bit8 } .dcar bit8).control = w.control := rfl
  rw [← enabled, modes]
  refine ChipProgrammed.trans ?_ (bus _)
  refine ChipProgrammed.trans ?_ (.of_eq (restored _))
  exact ChipProgrammed.trans (.of_eq rfl) (reset _)

theorem uscSetInterface_control (info : R56Struct) : (uscSetInterface info).usc.control = info.usc.control := by
  unfold uscSetInterface
  split
  · rfl
  · rfl

theorem uscStopReceiver_programmed (info : R56Struct) :
    ChipProgrammed isa loop info.usc.control (uscStopReceiver (uscStopTransmitter info)).usc.control := by
  have reset (v : Usc) : ChipProgrammed isa loop v.control (uscDmaCmd v dmaCmdResetTxChannel).control := .reset fun _ _ => rfl
  exact (ChipProgrammed.of_eq rfl).trans ((reset _).trans (.of_eq rfl))

/-- The parts of `usc_set_sdlc_mode` after the channel mode. -/
theorem uscSetSdlcMode_after (info : R56Struct) :
    ChipProgrammed (info.busType = .isa) loop
      (programChannelMode info (uscOutReg info.usc .tmcr 0x1f)).control (uscSetSdlcMode info).usc.control := by
  have receiver (u : Usc) : (programReceiver info u).control = u.control := rfl
  have preamble (u : Usc) : (programPreamble info u).control = u.control := rfl
  have configured (u : Usc) : ChipProgrammed (info.busType = .isa) loop u.control
      (programPreamble info (programDma info (programHardwareConfiguration info (programClockMode info u)))).control := by
    rw [preamble]
    refine (programClockMode_programmed info u).trans ?_
    rw [← programHardwareConfiguration_control info]
    exact programDma_programmed info _
  unfold uscSetSdlcMode
  dsimp only
  rw [uscSetInterface_control]
  refine ChipProgrammed.trans ?_ (uscStopReceiver_programmed _)
  rw [← receiver, ← programTransmitter_control info (decide (uscInReg (uscOutReg info.usc .tmcr 0x1f) .tmdr = iuscPreSl1660))]
  exact configured _

theorem uscSetSdlcMode_programmed (info : R56Struct) :
    ChipProgrammed (info.busType = .isa) info.loopmode info.usc.control (uscSetSdlcMode info).usc.control :=
  (programChannelMode_programmed info (uscOutReg info.usc .tmcr 0x1f)).trans (uscSetSdlcMode_after info)

theorem uscSetSdlcMode_released {info : R56Struct} (inLoop : info.loopmode) :
    (uscSetSdlcMode info).usc.control.released :=
  (uscSetSdlcMode_after info).released inLoop (programChannelMode_released inLoop _)

theorem uscEnableLoopback_control (info : R56Struct) (enable : Bool) (u : Usc) :
    (uscEnableLoopback info enable u).control = u.control := by
  unfold uscEnableLoopback
  split
  · rfl
  · rfl

theorem enableIsaInten_programmed (info : R56Struct) (u : Usc) :
    ChipProgrammed (info.busType = .isa) loop u.control (enableIsaInten info u).control := by
  unfold enableIsaInten
  split
  · rename_i isa
    exact .pcr fun other => absurd isa other
  · exact .of_eq rfl

theorem uscLoopbackFrame_programmed (info : R56Struct) :
    ChipProgrammed (info.busType = .isa) info.loopmode info.usc.control (uscLoopbackFrame info).usc.control := by
  have sdlc := uscSetSdlcMode_programmed { info with
    params := { info.params with mode := r56ModeHdlc }, usc := uscDisableMasterIrqBit info.usc }
  unfold uscLoopbackFrame
  dsimp only
  generalize uscSetSdlcMode _ = s at sdlc ⊢
  have sent : (uscEnableMasterIrqBit (uscEnableLoopback s false (uscEnableTransmitter (uscTCmd (uscOutReg
      (uscUnlatchTxstatusBits (uscRTCmd (uscOutReg (uscEnableReceiver (uscRTCmd (uscOutReg (uscOutReg
        (uscEnableLoopback s true s.usc) .tc0r 0) .ccr 0x0100) rtCmdPurgeRxFifo) enableUnconditional) .tclr 2)
          rtCmdPurgeTxFifo) txstatusAll) .data 0) tCmdSendFrame) enableUnconditional))).control = s.usc.control := by
    have last (u : Usc) : (uscEnableMasterIrqBit u).control = u.control := rfl
    have frame (u : Usc) : (uscEnableTransmitter (uscTCmd (uscOutReg (uscUnlatchTxstatusBits (uscRTCmd (uscOutReg
      (uscEnableReceiver (uscRTCmd (uscOutReg (uscOutReg u .tc0r 0) .ccr 0x0100) rtCmdPurgeRxFifo)
        enableUnconditional) .tclr 2) rtCmdPurgeTxFifo) txstatusAll) .data 0) tCmdSendFrame)
          enableUnconditional).control = u.control := rfl
    rw [last, uscEnableLoopback_control, frame, uscEnableLoopback_control]
  rw [sent]
  exact sdlc

theorem uscLoopbackFrame_params (info : R56Struct) :
    (uscLoopbackFrame info).busType = info.busType ∧ (uscLoopbackFrame info).params.flags = info.params.flags := by
  have frame := uscLoopbackFrame_frame info
  have bus := congrArg (·.busType) frame
  have flags := congrArg (·.params.flags) frame
  exact ⟨bus, flags⟩

theorem uscEnableAuxClock_control (info : R56Struct) (dataRate : Nat) (u : Usc) :
    (uscEnableAuxClock info dataRate u).control = u.control := by
  unfold uscEnableAuxClock
  split
  · rfl
  · rfl

/-- The statements of `usc_set_sync_mode` after `usc_set_sdlc_mode`. -/
theorem uscSetSyncMode_after (info : R56Struct) :
    ChipProgrammed (info.busType = .isa) loop (uscSetSdlcMode (uscLoopbackFrame info)).usc.control
      (uscSetSyncMode info).usc.control := by
  have frame := (uscSetSdlcMode_frame (uscLoopbackFrame info)).trans (uscLoopbackFrame_frame info)
  have bus : (uscSetSdlcMode (uscLoopbackFrame info)).busType = info.busType := by
    have same := congrArg (·.busType) frame
    exact same
  unfold uscSetSyncMode
  dsimp only
  generalize uscSetSdlcMode (uscLoopbackFrame info) = s at bus ⊢
  have connected : ChipProgrammed (info.busType = .isa) loop s.usc.control (enableIsaInten s s.usc).control :=
    bus ▸ enableIsaInten_programmed s s.usc
  split
  · rw [uscEnableLoopback_control, uscEnableAuxClock_control]
    exact connected
  · rw [uscEnableAuxClock_control]
    exact connected

theorem uscSetSyncMode_programmed (info : R56Struct) :
    ChipProgrammed (info.busType = .isa) info.loopmode info.usc.control (uscSetSyncMode info).usc.control := by
  have sdlc := uscSetSdlcMode_programmed (uscLoopbackFrame info)
  obtain ⟨bus, flags⟩ := uscLoopbackFrame_params info
  unfold R56Struct.loopmode at sdlc
  rw [bus, flags] at sdlc
  exact (uscLoopbackFrame_programmed info).trans (sdlc.trans (uscSetSyncMode_after info))

theorem uscSetSyncMode_released {info : R56Struct} (inLoop : info.loopmode) :
    (uscSetSyncMode info).usc.control.released := by
  have flags := (uscLoopbackFrame_params info).2
  have released : (uscLoopbackFrame info).loopmode := by
    unfold R56Struct.loopmode
    rw [flags]
    exact inLoop
  exact (uscSetSyncMode_after info).released inLoop (uscSetSdlcMode_released released)

theorem uscSetAsyncMode_programmed (info : R56Struct) :
    ChipProgrammed (info.busType = .isa) info.loopmode info.usc.control (uscSetAsyncMode info).usc.control := by
  have reset (v : Usc) : ChipProgrammed (info.busType = .isa) info.loopmode v.control
      (uscDmaCmd v dmaCmdResetAllChannels).control := .reset fun _ _ => rfl
  have looped (u : Usc) : ChipProgrammed (info.busType = .isa) info.loopmode u.control
      (uscLoopbackFrame { info with usc := u }).usc.control := uscLoopbackFrame_programmed { info with usc := u }
  have bus (u : Usc) : (uscLoopbackFrame { info with usc := u }).busType = info.busType := (uscLoopbackFrame_params _).1
  have clock (s : R56Struct) (u : Usc) (rate : Nat) : (uscEnableAsyncClock s rate u).control = u.control := by
    unfold uscEnableAsyncClock
    split
    · rfl
    · rfl
  have idle (s : R56Struct) (u : Usc) : (uscSetTxidle s u).control = u.control := by
    unfold uscSetTxidle
    dsimp only
    split
    · rfl
    · rfl
  have mode (u : Usc) (two : Prop) [Decidable two] : ChipProgrammed (info.busType = .isa) info.loopmode u.control
      (uscOutReg u .cmr (if two then bit14 else 0)).control := by
    have clear : (if two then bit14 else (0 : U16)) &&& bit13 = 0 := by
      split
      · decide
      · decide
    refine ⟨id, fun _ => ⟨[], (List.append_nil _).symm, fun w member => ?_⟩, fun _ released => ⟨clear, released.2⟩⟩
    rw [List.mem_singleton.mp member]
    rfl
  unfold uscSetAsyncMode
  dsimp only
  rw [uscSetInterface_control]
  have quiet : (uscOutReg (outb (uscDisableMasterIrqBit info.usc) 0 5) .dcar 0).control = info.usc.control := rfl
  generalize uscOutReg (outb (uscDisableMasterIrqBit info.usc) 0 5) .dcar 0 = v at quiet ⊢
  have begun := (reset v).trans (looped (uscDmaCmd v dmaCmdResetAllChannels))
  rw [quiet] at begun
  generalize framed : uscLoopbackFrame { info with usc := uscDmaCmd v dmaCmdResetAllChannels } = s at begun ⊢
  have bus : s.busType = info.busType := by
    rw [← framed]
    exact bus _
  have connected (u : Usc) : ChipProgrammed (info.busType = .isa) info.loopmode u.control (enableIsaInten s u).control := by
    rw [← bus]
    exact enableIsaInten_programmed s u
  refine ChipProgrammed.trans ?_ (connected _)
  have moded := begun.trans (mode s.usc (s.params.stopBits ≠ 1))
  generalize uscOutReg s.usc .cmr _ = y at moded ⊢
  have receiver (u : Usc) (format : U16) :
      (uscOutReg (uscRCmd (uscOutReg u .rmr format) rCmdSelectRicrIntLevel) .ricr 0x0000).control = u.control := rfl
  have status (u : Usc) :
      (uscClearIrqPendingBits (uscUnlatchRxstatusBits u rxstatusAll) receiveStatus).control = u.control := rfl
  have transmitter (u : Usc) (format : U16) : (uscOutReg u .tmr format).control = u.control := rfl
  have format : ChipProgrammed (info.busType = .isa) info.loopmode info.usc.control (uscOutReg (uscClearIrqPendingBits
      (uscUnlatchRxstatusBits (uscOutReg (uscRCmd (uscOutReg y .rmr (asyncFormat s.params)) rCmdSelectRicrIntLevel)
        .ricr 0x0000) rxstatusAll) receiveStatus) .tmr (asyncFormat s.params)).control := by
    rw [transmitter, status, receiver]
    exact moded
  generalize uscOutReg _ .tmr _ = u at format ⊢
  have idled := idle s u
  generalize uscSetTxidle s u = v at idled ⊢
  generalize latched : uscClearIrqPendingBits _ transmitStatus = w
  have levels : w.control = u.control := by
    rw [← latched, ← idled]
    rfl
  have clocked := (clock s w (s.params.dataRate % 2 ^ 32)).trans levels
  generalize uscEnableAsyncClock s (s.params.dataRate % 2 ^ 32) w = x at clocked ⊢
  rw [← clocked] at format
  exact format.trans (.of_eq rfl)

theorem programMode_programmed (info : R56Struct) :
    ChipProgrammed (info.busType = .isa) info.loopmode info.usc.control (programMode info).usc.control := by
  unfold programMode
  split
  · exact uscSetSyncMode_programmed info
  · exact uscSetAsyncMode_programmed info

/-- `r56_program_hw` programs a stopped transmitter and sets the modem signals. -/
theorem r56ProgramHw_programmed (info : R56Struct) :
    ∃ s : R56Struct, s.serialSignals = info.serialSignals ∧
      ChipProgrammed (info.busType = .isa) info.loopmode
        { info.usc.control with txDma := { info.usc.txDma with running := false } } s.usc.control ∧
      (info.synchronous → info.loopmode → s.usc.control.released) ∧
      (r56ProgramHw info).usc.control = (uscSetSerialSignals s).usc.control := by
  generalize stopped : ({ uscStopTransmitter (uscStopReceiver info) with
    xmitCnt := 0, xmitHead := 0, xmitTail := 0 } : R56Struct) = before
  have control : before.usc.control = { info.usc.control with txDma := { info.usc.txDma with running := false } } := by
    rw [← stopped]
    rfl
  have same : before.busType = info.busType ∧ before.params = info.params ∧
      before.serialSignals = info.serialSignals := by
    rw [← stopped]
    exact ⟨rfl, rfl, rfl⟩
  obtain ⟨bus, params, signals⟩ := same
  have loop : before.loopmode ↔ info.loopmode := by
    unfold R56Struct.loopmode
    rw [params]
  have programmed := programMode_programmed before
  rw [bus, propext loop, control] at programmed
  have kept : (programMode before).serialSignals = info.serialSignals := by
    have frame : (programMode before).exceptSettings = before.exceptSettings := by
      unfold programMode
      split
      · exact uscSetSyncMode_frame before
      · exact uscSetAsyncMode_frame before
    have same := congrArg (·.serialSignals) frame
    exact same.trans signals
  have started (s : R56Struct) : (uscStartReceiver s).usc.control = s.usc.control :=
    congrArg Control.chip (uscStartReceiver_control s)
  refine ⟨programMode before, kept, programmed, fun sync inLoop => ?_, ?_⟩
  · have sync : before.synchronous := by
      unfold R56Struct.synchronous
      rw [params]
      exact sync
    unfold programMode
    rw [if_pos (.inl sync)]
    exact uscSetSyncMode_released (loop.mpr inLoop)
  · unfold r56ProgramHw
    dsimp only
    rw [stopped]
    split
    · exact started _
    · rfl

theorem r56ProgramHw_stopped (info : R56Struct) : (r56ProgramHw info).usc.txDma.running = false := by
  obtain ⟨s, -, programmed, -, after⟩ := r56ProgramHw_programmed info
  have stopped := programmed.stopped rfl
  have channel : (r56ProgramHw info).usc.txDma = s.usc.txDma := congrArg ChipControl.txDma after
  rw [channel]
  exact stopped

theorem r56ProgramHw_released {info : R56Struct} (sync : info.synchronous) (inLoop : info.loopmode) :
    (r56ProgramHw info).usc.control.released := by
  obtain ⟨s, -, -, released, after⟩ := r56ProgramHw_programmed info
  rw [after]
  exact released sync inLoop

end

/-- `info` without the fields that `r56_program_hw` may change. -/
def R56Struct.exceptProgramming (info : R56Struct) : R56Struct :=
  { info with
    usc := {}, icount := {}, params := { info.params with interface := 0 }, serialSignals := 0
    dcdChkcount := 0, ctsChkcount := 0, dsrChkcount := 0, riChkcount := 0
    rxBufferList := fun _ => {}, currentRxBuffer := 0
    rxEnabled := false, rxOverflow := false, rxRccUnderrun := false
    xmitCnt := 0, xmitHead := 0, xmitTail := 0, txTimer := false, txEnabled := false, txActive := false
    history := { info.history with ldisc := [], netRx := [], rxStarts := [] } }

theorem exceptProgramming_of_exceptSettings {s t : R56Struct} (frame : t.exceptSettings = s.exceptSettings) :
    t.exceptProgramming = s.exceptProgramming := by
  have same := congrArg R56Struct.exceptProgramming frame
  exact same

theorem exceptProgramming_of_exceptReceiver {s t : R56Struct} (frame : t.exceptReceiver = s.exceptReceiver) :
    t.exceptProgramming = s.exceptProgramming := by
  have same := congrArg R56Struct.exceptProgramming frame
  exact same

theorem r56ProgramHw_frame (info : R56Struct) :
    (r56ProgramHw info).exceptProgramming = info.exceptProgramming := by
  have stopped : ({ uscStopTransmitter (uscStopReceiver info) with
      xmitCnt := 0, xmitHead := 0, xmitTail := 0 } : R56Struct).exceptProgramming = info.exceptProgramming := rfl
  have mode (s : R56Struct) : (programMode s).exceptProgramming = s.exceptProgramming := by
    refine exceptProgramming_of_exceptSettings ?_
    unfold programMode
    split
    · exact uscSetSyncMode_frame s
    · exact uscSetAsyncMode_frame s
  have signals (s : R56Struct) : (programSignals s).exceptProgramming = s.exceptProgramming := rfl
  have started (s : R56Struct) : (uscStartReceiver s).exceptProgramming = s.exceptProgramming :=
    exceptProgramming_of_exceptReceiver (uscStartReceiver_frame s)
  unfold r56ProgramHw
  dsimp only
  have programmed := (signals _).trans ((mode _).trans stopped)
  split
  · exact (started _).trans programmed
  · exact programmed

end Route56
