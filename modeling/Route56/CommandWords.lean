import Route56.IdlePattern
import Route56.Lib.BitField

namespace Route56

open Transition BitField Relation

/-- The PCI branch of `usc_reset`. The loops that watch the reset bit only read, or write the 0xff
that is overwritten next. -/
def resetPciAdapter (info : R56Struct) (u : Usc) : Usc :=
  let u := outb (outb (outb u 0 5) 0xff 3) 0 3
  let u := if info.hwVersion = r561DeviceId then outb u (u.port 0 ||| 0xc0) 0 else u
  let u := uscOutReg { u with mbreBit := 0, loopbackBits := 0, uscIdleMode := 0 } .bcr 0x000f
  let u := uscRTCmd u rtCmdSelectLittleEndian
  let u := uscOutReg u .pcr (0x3c05 |||
    if info.params.interface = rs485Term ∨ info.params.interface = rs485Noterm then 0x4000 else 0xc000)
  uscOutReg (uscOutReg u .iocr 0x0000) .ccsr 0x2020

/-- `usc_reset`. -/
def uscReset (info : R56Struct) : R56Struct :=
  let u := if info.busType = .pci then resetPciAdapter info info.usc else info.usc
  { info with usc := outb u 0xff 5 }

/-- What the adapter does during `r56_dma_test`: whether it reads the receive entry and fills the
transmit FIFO in time, the transmit status it reports in time, and the first receive entry at the end. -/
structure DmaTestRun where
  entryRead : Bool
  fifoFilled : Bool
  txStatus : Option U16
  rxEntry : DmaBufferEntry

def testFrameSize : Nat := 40

/-- The first two entries of both rings for the test. -/
def dmaTestBuffers (info : R56Struct) : R56Struct :=
  let tx := info.txBufferList 0
  let rx := info.rxBufferList 0
  let frame := (List.range testFrameSize).map fun i => (i : U8)
  { info with
    txBufferList := Function.update (Function.update info.txBufferList 0
      { tx with count := testFrameSize, rcc := testFrameSize, status := 0x4000, data := Memory.blit tx.data 0 frame })
      1 { info.txBufferList 1 with count := 0 }
    rxBufferList := Function.update (Function.update info.rxBufferList 0
      { rx with
        count := testFrameSize + 4, status := 0
        data := Memory.blit rx.data 0 (List.replicate (testFrameSize + 4) 0) })
      1 { info.rxBufferList 1 with count := 0 } }

/-- The receiver is programmed for the first entry. -/
def dmaTestReceiver (info : R56Struct) (u : Usc) : Usc :=
  let u := uscRTCmd u rtCmdPurgeRxFifo
  let u := programNrar u 0 (info.rxBufferList 0).physEntry
  let u := uscDmaCmd u dmaCmdInitRxChannel
  uscOutReg u .rmr ((uscInReg u .rmr &&& 0xfffc) ||| 0x0002)

/-- The transmitter is programmed for the first entry, but not enabled. -/
def dmaTestTransmitter (info : R56Struct) (u : Usc) : Usc :=
  let u := uscOutReg u .tclr (info.txBufferList 0).count
  let u := uscRTCmd u rtCmdPurgeTxFifo
  let u := programNtar u 0 (info.txBufferList 0).physEntry
  let u := uscOutReg u .tcsr ((uscInReg u .tcsr &&& 0x0f00) ||| 0xfa)
  let u := uscDmaCmd u dmaCmdInitTxChannel
  uscTCmd u tCmdSelectTicrTxFifostatus

def dmaTestSend (u : Usc) : Usc :=
  let u := uscTCmd u tCmdSendFrame
  uscOutReg u .tmr ((uscInReg u .tmr &&& 0xfffc) ||| 0x0002)

/-- The checks of `r56_dma_test` after the frame has been sent. -/
def dmaTestPassed (tx rx : DmaBufferEntry) (txStatus : Option U16) : Bool :=
  match txStatus with
  | none => false
  | some status =>
    status &&& (bit5 + bit1) = 0 && rx.status ≠ 0 && rx.status &&& (bit8 + bit3 + bit1) = 0 &&
      Memory.read tx.data 0 testFrameSize = Memory.read rx.data 0 testFrameSize

/-- `r56_dma_test`. -/
def r56DmaTest (adapter : DmaTestRun) (info : R56Struct) : R56Struct × Bool :=
  let params := info.params
  let info := uscSetSdlcMode (uscReset { info with params := defaultParams })
  let u := uscOutDmaReg (uscEnableLoopback info true info.usc) .rdmr 0xe200
  let info := dmaTestBuffers { info with usc := u }
  let info := { info with usc := dmaTestTransmitter info (dmaTestReceiver info info.usc) }
  let sends := adapter.entryRead && adapter.fifoFilled
  let info := if sends then { info with usc := dmaTestSend info.usc } else info
  let info := { info with rxBufferList := Function.update info.rxBufferList 0 adapter.rxEntry }
  let rc := sends && dmaTestPassed (info.txBufferList 0) (info.rxBufferList 0) adapter.txStatus
  ({ uscReset info with params := params }, rc)

/-- The shadows that commands are added to. -/
structure Shadows where
  tcsr : U16 := 0
  loopback : U16 := 0
  mbre : U16 := 0

def Usc.shadows (u : Usc) : Shadows where
  tcsr := u.tcsrValue
  loopback := u.loopbackBits
  mbre := u.mbreBit

/-- The shadows have bits in their own fields only. -/
structure Shadows.Clean (s : Shadows) : Prop where
  tcsr : Within 0x0f00 s.tcsr
  loopback : s.loopback = 0 ∨ s.loopback = 0x0300
  mbre : s.mbre = 0 ∨ s.mbre = 0x0100

/-- The arguments of the calls of `usc_TCmd`. -/
def tCmds : List U16 :=
  [tCmdSelectTicrTxFifostatus, tCmdSelectTicrIntLevel, tCmdSelectTicrdmaLevel, tCmdSendFrame, tCmdSendAbort]

/-- The arguments of the calls of `usc_RTCmd`. -/
def rtCmds : List U16 := [rtCmdPurgeRxFifo, rtCmdPurgeTxFifo, rtCmdSelectLittleEndian]

/-- The arguments of the calls of `usc_DmaCmd`. -/
def dmaCmds : List U16 :=
  [dmaCmdResetTxChannel, dmaCmdResetRxChannel, dmaCmdPauseRxChannel, dmaCmdInitTxChannel, dmaCmdInitRxChannel,
    dmaCmdResetAllChannels]

/-- A word written for a command is the command and the shadow, which have no bit in common. -/
structure Intact (written command shadow : U16) : Prop where
  apart : Apart command shadow
  union : written = command ||| shadow

theorem Intact.sum {command shadow m n : U16} (fields : Apart m n) (known : Within m command)
    (kept : Within n shadow) : Intact (command + shadow) command shadow :=
  have apart := Apart.of_within fields known kept
  ⟨apart, apart.add_eq_or⟩

theorem tCmds_within {cmd : U16} (known : cmd ∈ tCmds) : Within 0xf000 cmd := by
  simp only [tCmds, List.mem_cons, List.not_mem_nil, or_false] at known
  rcases known with rfl | rfl | rfl | rfl | rfl <;> decide

theorem rtCmds_within {cmd : U16} (known : cmd ∈ rtCmds) : Within 0xf800 cmd := by
  simp only [rtCmds, List.mem_cons, List.not_mem_nil, or_false] at known
  rcases known with rfl | rfl | rfl <;> decide

theorem dmaCmds_within {cmd : U16} (known : cmd ∈ dmaCmds) : Within 0xf200 cmd := by
  simp only [dmaCmds, List.mem_cons, List.not_mem_nil, or_false] at known
  rcases known with rfl | rfl | rfl | rfl | rfl | rfl <;> decide

theorem Shadows.Clean.loopback_within {s : Shadows} (clean : s.Clean) : Within 0x0300 s.loopback := by
  rcases clean.loopback with none | set
  · rw [none]
    decide
  · rw [set]
    decide

theorem Shadows.Clean.mbre_within {s : Shadows} (clean : s.Clean) : Within 0x0100 s.mbre := by
  rcases clean.mbre with none | set
  · rw [none]
    decide
  · rw [set]
    decide

/-- Every command the driver passes and every status is written intact. -/
structure CommandsIntact (u : Usc) : Prop where
  tCmd : ∀ cmd ∈ tCmds, Intact ((uscTCmd u cmd).reg .tcsr) cmd u.tcsrValue
  unlatch : ∀ status : U16, Intact ((uscUnlatchTxstatusBits u status).reg .tcsr) (status &&& 0x00ff) u.tcsrValue
  rtCmd : ∀ cmd ∈ rtCmds, Intact ((uscRTCmd u cmd).reg .ccar) cmd u.loopbackBits
  dmaCmd : ∀ cmd ∈ dmaCmds, Intact ((uscDmaCmd u cmd).reg .dcar) cmd u.mbreBit

theorem Shadows.Clean.intact {u : Usc} (clean : u.shadows.Clean) : CommandsIntact u := by
  refine ⟨fun cmd known => ?_, fun status => ?_, fun cmd known => ?_, fun cmd known => ?_⟩
  · show Intact (u.tcsrValue + cmd) cmd u.tcsrValue
    rw [BitVec.add_comm]
    exact .sum (by decide) (tCmds_within known) clean.tcsr
  · show Intact (u.tcsrValue + (status &&& 0x00ff)) (status &&& 0x00ff) u.tcsrValue
    rw [BitVec.add_comm]
    exact .sum (by decide) (within_and status 0x00ff) clean.tcsr
  · exact .sum (by decide) (rtCmds_within known) clean.loopback_within
  · exact .sum (by decide) (dmaCmds_within known) clean.mbre_within

/-- The shadows and the registers commands are written to. -/
def Usc.commandWords (u : Usc) : Shadows × U16 × U16 × U16 := (u.shadows, u.reg .tcsr, u.reg .ccar, u.reg .dcar)

/-- Registers to which commands are added to a shadow. -/
def Reg.isCommand : Reg → Bool
  | .tcsr | .ccar | .dcar => true
  | _ => false

/-- One statement: it issues a command intact, or writes no command. -/
inductive Statement (u : Usc) : Usc → Prop
  | other {v : Usc} (kept : v.commandWords = u.commandWords) : Statement u v
  | tCmd {cmd : U16} (known : cmd ∈ tCmds) (intact : Intact ((uscTCmd u cmd).reg .tcsr) cmd u.tcsrValue) :
      Statement u (uscTCmd u cmd)
  | unlatch (status : U16)
      (intact : Intact ((uscUnlatchTxstatusBits u status).reg .tcsr) (status &&& 0x00ff) u.tcsrValue) :
      Statement u (uscUnlatchTxstatusBits u status)
  | rtCmd {cmd : U16} (known : cmd ∈ rtCmds) (intact : Intact ((uscRTCmd u cmd).reg .ccar) cmd u.loopbackBits) :
      Statement u (uscRTCmd u cmd)
  | dmaCmd {cmd : U16} (known : cmd ∈ dmaCmds) (intact : Intact ((uscDmaCmd u cmd).reg .dcar) cmd u.mbreBit) :
      Statement u (uscDmaCmd u cmd)
  | shadow {v : Usc} (tcsr : v.reg .tcsr = u.reg .tcsr ∨ v.reg .tcsr = v.tcsrValue)
      (ccar : v.reg .ccar = u.reg .ccar ∨ v.reg .ccar = v.loopbackBits)
      (dcar : v.reg .dcar = u.reg .dcar ∨ v.reg .dcar = v.mbreBit ∨ v.reg .dcar = 0) : Statement u v
  | status {value : U16} (none : Within 0x0fff value) : Statement u (uscOutReg u .tcsr value)

/-- From clean shadows the statements lead to clean shadows, all commands issued intact. -/
def Commands (u v : Usc) : Prop := u.shadows.Clean → v.shadows.Clean ∧ ReflTransGen Statement u v

namespace Commands

variable {u v w : Usc}

theorem refl (u : Usc) : Commands u u := fun clean => ⟨clean, .refl⟩

theorem step (path : Commands u v) (next : v.shadows.Clean → w.shadows.Clean ∧ Statement v w) : Commands u w :=
  fun clean =>
    have ⟨between, before⟩ := path clean
    have ⟨after, last⟩ := next between
    ⟨after, before.tail last⟩

theorem other (kept : w.commandWords = v.commandWords) (path : Commands u v) : Commands u w := by
  have shadows : w.shadows = v.shadows := congrArg Prod.fst kept
  refine path.step fun clean => ⟨?_, .other kept⟩
  rw [shadows]
  exact clean

theorem write {r : Reg} {value : U16} (plain : r.isCommand = false) (path : Commands u v) :
    Commands u (uscOutReg v r value) := by
  have tcsr : Reg.tcsr ≠ r := fun same => by rw [← same] at plain; cases plain
  have ccar : Reg.ccar ≠ r := fun same => by rw [← same] at plain; cases plain
  have dcar : Reg.dcar ≠ r := fun same => by rw [← same] at plain; cases plain
  refine .other ?_ path
  unfold Usc.commandWords uscOutReg
  dsimp only
  rw [Function.update_of_ne tcsr, Function.update_of_ne ccar, Function.update_of_ne dcar]
  rfl

theorem outb {value : U8} {offset : Nat} (path : Commands u v) : Commands u (Route56.outb v value offset) :=
  .other (v := v) rfl path

theorem tCmd {cmd : U16} (known : tCmds.elem cmd = true) (path : Commands u v) : Commands u (uscTCmd v cmd) :=
  have member := List.mem_of_elem_eq_true known
  path.step fun clean => ⟨clean, .tCmd member (clean.intact.tCmd cmd member)⟩

theorem unlatch {status : U16} (path : Commands u v) : Commands u (uscUnlatchTxstatusBits v status) :=
  path.step fun clean => ⟨clean, .unlatch status (clean.intact.unlatch status)⟩

theorem rtCmd {cmd : U16} (known : rtCmds.elem cmd = true) (path : Commands u v) : Commands u (uscRTCmd v cmd) :=
  have member := List.mem_of_elem_eq_true known
  path.step fun clean => ⟨clean, .rtCmd member (clean.intact.rtCmd cmd member)⟩

theorem dmaCmd {cmd : U16} (known : dmaCmds.elem cmd = true) (path : Commands u v) : Commands u (uscDmaCmd v cmd) :=
  have member := List.mem_of_elem_eq_true known
  path.step fun clean => ⟨clean, .dmaCmd member (clean.intact.dmaCmd cmd member)⟩

theorem ite {c : Prop} [Decidable c] {x y : Usc} (yes : Commands u x) (no : Commands u y) :
    Commands u (if c then x else y) := by
  split
  · exact yes
  · exact no

/-- A value is chosen, with register writes made on the way. -/
theorem chosen {α : Type} {p : Usc × α} {f : Usc → α → Usc} (choice : Commands u p.1)
    (rest : ∀ x value, Commands u x → Commands u (f x value)) :
    Commands u (match p with | (x, value) => f x value) := by
  obtain ⟨x, value⟩ := p
  exact rest x value choice

theorem ite_fst {α : Type} {c : Prop} [Decidable c] {p q : Usc × α} (yes : Commands u p.1) (no : Commands u q.1) :
    Commands u (if c then p else q).1 := by
  split
  · exact yes
  · exact no

/-- The shadow of TCSR is set, and written. -/
theorem tcsr {value : U16} (field : Within 0x0f00 value) (path : Commands u v) :
    Commands u (uscOutReg { v with tcsrValue := value } .tcsr value) :=
  path.step fun clean => ⟨⟨field, clean.loopback, clean.mbre⟩, .shadow (.inr rfl) (.inl rfl) (.inl rfl)⟩

theorem loopback {value : U16} (field : value = 0 ∨ value = 0x0300) (path : Commands u v) :
    Commands u (uscOutReg { v with loopbackBits := value } .ccar value) :=
  path.step fun clean => ⟨⟨clean.tcsr, field, clean.mbre⟩, .shadow (.inl rfl) (.inr rfl) (.inl rfl)⟩

theorem mbre {value : U16} (field : value = 0 ∨ value = 0x0100) (path : Commands u v) :
    Commands u (uscOutReg { v with mbreBit := value } .dcar value) :=
  path.step fun clean => ⟨⟨clean.tcsr, clean.loopback, field⟩, .shadow (.inl rfl) (.inl rfl) (.inr (.inl rfl))⟩

/-- A field of the TCSR shadow is replaced by an idle mode. -/
theorem idle (mode : Nat) (path : Commands u v) : Commands u (programIdleMode v (idleModeBits mode)) := by
  refine path.step fun clean => ⟨⟨?_, clean.loopback, clean.mbre⟩, .shadow (.inr rfl) (.inl rfl) (.inl rfl)⟩
  have bits : Within idlemodeMask (idleModeBits mode) := (idleModeBits_outside mode).2
  have rest : Within (~~~idlemodeMask) (v.tcsrValue &&& ~~~idlemodeMask) := within_and _ _
  have apart := Apart.of_within (by decide : Apart (~~~idlemodeMask) idlemodeMask) rest bits
  show Within 0x0f00 ((v.tcsrValue &&& ~~~idlemodeMask) + idleModeBits mode)
  rw [apart.add_eq_or]
  have kept : Within 0x0f00 (v.tcsrValue &&& ~~~idlemodeMask) := Within.and clean.tcsr _
  exact kept.or (bits.mono (by decide))

end Commands

theorem uscSetTxidle_commands {u v : Usc} (info : R56Struct) (path : Commands u v) :
    Commands u (uscSetTxidle info v) := by
  unfold uscSetTxidle
  dsimp only
  exact .ite (.write rfl (path.idle _)) (path.idle _)

theorem sdlcChannelMode_commands {u v : Usc} (info : R56Struct) (path : Commands u v) :
    Commands u (sdlcChannelMode info v).1 :=
  .ite_fst path (.chosen (f := fun x _ => (x, _).1)
    (.ite_fst (.write rfl (.write rfl path)) (.ite_fst path (.ite_fst path (.ite_fst path path)))) fun _ _ before => before)

theorem programChannelMode_commands {u v : Usc} (info : R56Struct) (path : Commands u v) :
    Commands u (programChannelMode info v) := by
  have stored {x : Usc} {value : U16} (before : Commands u x) :
      Commands u { uscOutReg x .cmr value with cmrValue := value } := .other (v := x) rfl before
  exact .chosen (sdlcChannelMode_commands info path) fun _ _ before => stored (.ite (.write rfl before) before)

theorem programClockMode_commands {u v : Usc} (info : R56Struct) (path : Commands u v) :
    Commands u (programClockMode info v) := by
  unfold programClockMode
  dsimp only
  refine .write rfl (.ite_fst ?_ (.ite_fst ?_ (.ite_fst ?_ (.write rfl (.write rfl ?_)))))
  all_goals
    refine .ite_fst ?_ (.ite_fst ?_ (.ite_fst ?_ (.write rfl ?_)))
    all_goals exact .write rfl (.write rfl (.write rfl path))

theorem programHardwareConfiguration_commands {u v : Usc} (info : R56Struct) (path : Commands u v) :
    Commands u (programHardwareConfiguration info v) := by
  unfold programHardwareConfiguration
  dsimp only
  split
  · exact .write rfl path
  · refine .other (v := v) ?_ path
    rfl

theorem programTransmitter_commands {u v : Usc} (info : R56Struct) (preSL1660 : Bool) (path : Commands u v) :
    Commands u (programTransmitter info preSL1660 v) := by
  have field : Within 0x0f00 (if preSL1660 then 0 else tcsrUnderwait : U16) := by
    cases preSL1660 <;> decide
  exact .tcsr field (.write rfl (.unlatch (.write rfl (.tCmd rfl (uscSetTxidle_commands info (.write rfl path))))))

theorem programDma_commands {u v : Usc} (info : R56Struct) (path : Commands u v) :
    Commands u (programDma info v) := by
  unfold programDma
  dsimp only
  refine .write rfl (.write rfl (.write rfl (.write rfl (.write rfl (.ite (.write rfl ?_) ?_)))))
  all_goals
    refine .mbre (.inr rfl) (.dmaCmd rfl (.mbre (.inl rfl) ?_))
    exact .write rfl (.write rfl (.write rfl (.outb (.write rfl (.ite (.write rfl (.write rfl path)) (.write rfl path))))))

theorem programPreamble_commands {u v : Usc} (info : R56Struct) (path : Commands u v) :
    Commands u (programPreamble info v) := .write rfl (.write rfl path)

theorem programReceiver_commands {u v : Usc} (info : R56Struct) (path : Commands u v) :
    Commands u (programReceiver info v) :=
  .write rfl (.write rfl (.write rfl (.write rfl (.write rfl (.write rfl path)))))

theorem uscStopTransmitter_commands {u : Usc} (info : R56Struct) (path : Commands u info.usc) :
    Commands u (uscStopTransmitter info).usc :=
  .rtCmd rfl (.dmaCmd rfl (.write rfl (.write rfl (.write rfl (.unlatch path)))))

theorem uscStopReceiver_commands {u : Usc} (info : R56Struct) (path : Commands u info.usc) :
    Commands u (uscStopReceiver info).usc :=
  .rtCmd rfl (.write rfl (.write rfl (.write rfl (.write rfl (.write rfl (.dmaCmd rfl path))))))

theorem uscSetInterface_commands {u : Usc} (info : R56Struct) (path : Commands u info.usc) :
    Commands u (uscSetInterface info).usc := by
  unfold uscSetInterface
  split
  · exact .outb path
  · exact .outb path

theorem uscSetSdlcMode_commands {u : Usc} (info : R56Struct) (path : Commands u info.usc) :
    Commands u (uscSetSdlcMode info).usc := by
  refine uscSetInterface_commands _ (uscStopReceiver_commands _ (uscStopTransmitter_commands _ ?_))
  refine programPreamble_commands info (programDma_commands info ?_)
  refine programHardwareConfiguration_commands info (programClockMode_commands info ?_)
  refine programTransmitter_commands info _ (programReceiver_commands info ?_)
  exact programChannelMode_commands info (.write rfl path)

theorem uscEnableLoopback_commands {u v : Usc} (info : R56Struct) (enable : Bool) (path : Commands u v) :
    Commands u (uscEnableLoopback info enable v) := by
  cases enable with
  | true => exact .loopback (.inr rfl) (.write rfl (.write rfl (.write rfl (.write rfl (.write rfl path)))))
  | false => exact .loopback (.inl rfl) (.write rfl path)

theorem uscLoopbackFrame_commands {u : Usc} (info : R56Struct) (path : Commands u info.usc) :
    Commands u (uscLoopbackFrame info).usc := by
  have sdlc := uscSetSdlcMode_commands { info with
    params := { info.params with mode := r56ModeHdlc }, usc := uscDisableMasterIrqBit info.usc } (.outb (.write rfl path))
  unfold uscLoopbackFrame
  dsimp only
  generalize uscSetSdlcMode _ = after at sdlc ⊢
  refine .outb (.write rfl (uscEnableLoopback_commands after false ?_))
  refine .write rfl (.tCmd rfl (.write rfl (.unlatch (.rtCmd rfl (.write rfl (.write rfl ?_))))))
  exact .rtCmd rfl (.write rfl (.write rfl (uscEnableLoopback_commands after true sdlc)))

theorem enableIsaInten_commands {u v : Usc} (info : R56Struct) (path : Commands u v) :
    Commands u (enableIsaInten info v) := .ite (.write rfl path) path

theorem uscEnableAuxClock_commands {u v : Usc} (info : R56Struct) (dataRate : Nat) (path : Commands u v) :
    Commands u (uscEnableAuxClock info dataRate v) := .ite (.write rfl (.write rfl path)) (.write rfl path)

theorem uscEnableAsyncClock_commands {u v : Usc} (info : R56Struct) (dataRate : Nat) (path : Commands u v) :
    Commands u (uscEnableAsyncClock info dataRate v) :=
  .ite (.write rfl (.write rfl (.write rfl (.write rfl path)))) (.write rfl path)

theorem uscSetSyncMode_commands {u : Usc} (info : R56Struct) (path : Commands u info.usc) :
    Commands u (uscSetSyncMode info).usc := by
  have sdlc := uscSetSdlcMode_commands _ (uscLoopbackFrame_commands info path)
  unfold uscSetSyncMode
  dsimp only
  generalize uscSetSdlcMode _ = after at sdlc ⊢
  have clocked := uscEnableAuxClock_commands after (after.params.clockSpeed % 2 ^ 32)
    (enableIsaInten_commands after sdlc)
  exact .ite (uscEnableLoopback_commands after true clocked) clocked

theorem uscSetAsyncMode_commands {u : Usc} (info : R56Struct) (path : Commands u info.usc) :
    Commands u (uscSetAsyncMode info).usc := by
  have stopped {v : Usc} (before : Commands u v) : Commands u (uscOutReg v .dcar 0) :=
    before.step fun clean => ⟨clean, .shadow (.inl rfl) (.inl rfl) (.inr (.inr rfl))⟩
  have looped := uscLoopbackFrame_commands { info with
    usc := uscDmaCmd (uscOutReg (Route56.outb (uscDisableMasterIrqBit info.usc) 0 5) .dcar 0) dmaCmdResetAllChannels }
    (.dmaCmd rfl (stopped (.outb (.outb (.write rfl path)))))
  unfold uscSetAsyncMode
  dsimp only
  generalize uscLoopbackFrame _ = after at looped ⊢
  refine uscSetInterface_commands _ (enableIsaInten_commands after ?_)
  refine .outb (.write rfl (.write rfl (.write rfl (.write rfl (uscEnableAsyncClock_commands after _ ?_)))))
  refine .write rfl (.unlatch (.write rfl (.tCmd rfl (uscSetTxidle_commands after ?_))))
  exact .write rfl (.write rfl (.write rfl (.write rfl (.write rfl (.write rfl (.write rfl looped))))))

theorem uscReset_commands {u : Usc} (info : R56Struct) (path : Commands u info.usc) :
    Commands u (uscReset info).usc := by
  have cleared {v : Usc} (before : Commands u v) :
      Commands u { v with mbreBit := 0, loopbackBits := 0, uscIdleMode := 0 } :=
    before.step fun clean => ⟨⟨clean.tcsr, .inl rfl, .inl rfl⟩, .shadow (.inl rfl) (.inl rfl) (.inl rfl)⟩
  refine .outb (.ite ?_ path)
  refine .write rfl (.write rfl (.write rfl (.rtCmd rfl (.write rfl (cleared (.ite (.outb ?_) ?_))))))
  all_goals exact .outb (.outb (.outb path))

theorem programNrar_commands {u v : Usc} (entry : Nat) (physAddr : U32) (path : Commands u v) :
    Commands u (programNrar v entry physAddr) := .other (v := v) rfl path

theorem programNtar_commands {u v : Usc} (entry : Nat) (physAddr : U32) (path : Commands u v) :
    Commands u (programNtar v entry physAddr) := .other (v := v) rfl path

theorem dmaTestReceiver_commands {u v : Usc} (info : R56Struct) (path : Commands u v) :
    Commands u (dmaTestReceiver info v) :=
  .write rfl (.dmaCmd rfl (programNrar_commands _ _ (.rtCmd rfl path)))

theorem dmaTestTransmitter_commands {u v : Usc} (info : R56Struct) (path : Commands u v) :
    Commands u (dmaTestTransmitter info v) := by
  have unlatched {x : Usc} (before : Commands u x) :
      Commands u (uscOutReg x .tcsr ((uscInReg x .tcsr &&& 0x0f00) ||| 0xfa)) := by
    refine before.step fun clean => ⟨clean, .status ?_⟩
    exact Within.or ((within_and _ _).mono (by decide)) (by decide)
  exact .tCmd rfl (.dmaCmd rfl (unlatched (programNtar_commands _ _ (.rtCmd rfl (.write rfl path)))))

theorem r56DmaTest_commands {u : Usc} (adapter : DmaTestRun) (info : R56Struct) (path : Commands u info.usc) :
    Commands u (r56DmaTest adapter info).1.usc := by
  have sdlc := uscSetSdlcMode_commands _ (uscReset_commands { info with params := defaultParams } path)
  have looped {s : R56Struct} (before : Commands u s.usc) :
      Commands u (uscOutDmaReg (uscEnableLoopback s true s.usc) .rdmr 0xe200) :=
    .write rfl (uscEnableLoopback_commands s true before)
  have programmed {s : R56Struct} (before : Commands u s.usc) :
      Commands u (dmaTestTransmitter s (dmaTestReceiver s s.usc)) :=
    dmaTestTransmitter_commands s (dmaTestReceiver_commands s before)
  have sent (s : R56Struct) (sends : Bool) (before : Commands u s.usc) :
      Commands u (if sends then { s with usc := dmaTestSend s.usc } else s : R56Struct).usc := by
    cases sends with
    | true => exact .write rfl (.tCmd rfl before)
    | false => exact before
  exact uscReset_commands _ (sent _ _ (programmed (looped sdlc)))

theorem r56SetTxidle_commands {u : Usc} (info : R56Struct) (idleMode : Nat) (path : Commands u info.usc) :
    Commands u (r56SetTxidle info idleMode).usc := uscSetTxidle_commands _ (path.idle _)

theorem programMode_commands {u : Usc} (info : R56Struct) (path : Commands u info.usc) :
    Commands u (programMode info).usc := by
  unfold programMode
  split
  · exact uscSetSyncMode_commands info path
  · exact uscSetAsyncMode_commands info path

theorem initRxChannel_commands {u v : Usc} (info : R56Struct) (entry : Nat) (path : Commands u v) :
    Commands u (initRxChannel info v entry) := by
  unfold initRxChannel
  dsimp only
  refine .ite (.write rfl ?_) (.write rfl ?_)
  all_goals
    refine .dmaCmd rfl (.write rfl (.write rfl (.write rfl (.write rfl (.write rfl ?_)))))
    exact programNrar_commands _ _ path

theorem startAsyncReceiver_commands {u v : Usc} (path : Commands u v) : Commands u (startAsyncReceiver v) :=
  .write rfl (.write rfl (.rtCmd rfl (.write rfl (.write rfl (.write rfl path)))))

theorem uscStartReceiver_commands {u : Usc} (info : R56Struct) (path : Commands u info.usc) :
    Commands u (uscStartReceiver info).usc := by
  unfold uscStartReceiver
  dsimp only
  refine .write rfl (.ite (initRxChannel_commands _ _ ?_) (startAsyncReceiver_commands ?_))
  all_goals exact .rtCmd rfl (.write rfl (uscStopReceiver_commands _ path))

theorem r56ProgramHw_commands {u : Usc} (info : R56Struct) (path : Commands u info.usc) :
    Commands u (r56ProgramHw info).usc := by
  have programmed := programMode_commands { uscStopTransmitter (uscStopReceiver info) with
    xmitCnt := 0, xmitHead := 0, xmitTail := 0 } (uscStopTransmitter_commands _ (uscStopReceiver_commands info path))
  have signals {s : R56Struct} (before : Commands u s.usc) : Commands u (programSignals s).usc :=
    .write rfl (.write rfl (.write rfl before))
  unfold r56ProgramHw
  dsimp only
  split
  · exact uscStartReceiver_commands _ (signals programmed)
  · exact signals programmed

/-- The requests that write the shadows. An `int` idle mode is given by its 32 bits. -/
inductive ShadowOp
  | reset
  | programHw
  | sdlcMode
  | syncMode
  | asyncMode
  | setTxidle (idleMode : U32)
  | loopback (enable : Bool)
  | dmaTest (adapter : DmaTestRun)

def ShadowOp.run (info : R56Struct) : ShadowOp → R56Struct
  | .reset => uscReset info
  | .programHw => r56ProgramHw info
  | .sdlcMode => uscSetSdlcMode info
  | .syncMode => uscSetSyncMode info
  | .asyncMode => uscSetAsyncMode info
  | .setTxidle idleMode => r56SetTxidle info idleMode.toNat
  | .loopback enable => { info with usc := uscEnableLoopback info enable info.usc }
  | .dmaTest adapter => (r56DmaTest adapter info).1

/-- One request. Everything but the shadows may have changed since the last. -/
def ShadowStep (s : R56Struct) (op : ShadowOp) (t : R56Struct) : Prop :=
  ∃ before : R56Struct, before.usc.shadows = s.usc.shadows ∧ t = op.run before

/-- The statements of the request issue all commands intact. -/
def IntactStep (s : R56Struct) (op : ShadowOp) (t : R56Struct) : Prop :=
  ∃ before : R56Struct, before.usc.shadows = s.usc.shadows ∧ t = op.run before ∧
    ReflTransGen Statement before.usc t.usc

theorem ShadowOp.run_commands (info : R56Struct) (op : ShadowOp) : Commands info.usc (op.run info).usc := by
  have here := Commands.refl info.usc
  cases op with
  | reset => exact uscReset_commands info here
  | programHw => exact r56ProgramHw_commands info here
  | sdlcMode => exact uscSetSdlcMode_commands info here
  | syncMode => exact uscSetSyncMode_commands info here
  | asyncMode => exact uscSetAsyncMode_commands info here
  | setTxidle idleMode => exact r56SetTxidle_commands info _ here
  | loopback enable => exact uscEnableLoopback_commands info enable here
  | dmaTest adapter => exact r56DmaTest_commands adapter info here

theorem ShadowStep.intact {s t : R56Struct} {op : ShadowOp} (clean : s.usc.shadows.Clean) (step : ShadowStep s op t) :
    t.usc.shadows.Clean ∧ IntactStep s op t := by
  obtain ⟨before, same, rfl⟩ := step
  rw [← same] at clean
  obtain ⟨after, path⟩ := op.run_commands before clean
  exact ⟨after, before, same, rfl, path⟩

theorem allocated_clean : r56AllocateDevice.usc.shadows.Clean := ⟨by decide, .inl rfl, .inl rfl⟩

/-- No command word carries: in every state that requests can reach the shadows have bits in their own
fields only, so every command and status the driver may pass is written intact, and so are those the
requests themselves pass on the way. -/
theorem commands_never_carry {p : List (ShadowOp × R56Struct)} (run : Run ShadowStep r56AllocateDevice p) :
    (∀ x ∈ p, x.2.usc.shadows.Clean ∧ CommandsIntact x.2.usc) ∧ Run IntactStep r56AllocateDevice p := by
  have kept := run.invariant (P := fun s => s.usc.shadows.Clean)
    (fun s op t clean step => (step.intact clean).1) allocated_clean
  exact ⟨fun x member => ⟨kept x member, (kept x member).intact⟩,
    run.steps_of_invariant (fun s op t clean step => step.intact clean) allocated_clean⟩

def dmaTested : R56Struct := (r56DmaTest ⟨true, false, none, {}⟩ r56AllocateDevice).1

/-- After a DMA test the idle mode -1 is requested. -/
theorem commands_never_carry_tested :
    CommandsIntact (r56SetTxidle dmaTested (0xffffffff : U32).toNat).usc := by
  have run : Run ShadowStep r56AllocateDevice [(.dmaTest ⟨true, false, none, {}⟩, dmaTested),
      (.setTxidle 0xffffffff, r56SetTxidle dmaTested (0xffffffff : U32).toNat)] :=
    ⟨⟨r56AllocateDevice, rfl, rfl⟩, ⟨dmaTested, rfl, rfl⟩, trivial⟩
  exact ((commands_never_carry run).1 _ (List.mem_cons_of_mem _ List.mem_cons_self)).2

end Route56
