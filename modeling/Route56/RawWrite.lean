import Route56.Xmit
import Route56.Lib.Transition

namespace Route56

open Transition

/-- The next statement of an `r56_write` call, in the order of the source. The three between
`testHolding` and `loadNext` are those of `save_tx_buffer_request`. -/
inductive WritePc
  | enter
  | testHolding
  | saveFrame
  | countFrame
  | advancePut
  | loadNext
  | testLoop
  | testCnt
  | loadXmitBuf
  | setCnt
  | loadFrame
  | testStart
  | start
  deriving DecidableEq

/-- An `r56_write` call in progress. -/
structure WriteCall where
  pc : WritePc
  buf : Nat → U8
  count : Nat
  ret : Nat := 0

def WriteCall.frame (call : WriteCall) : List U8 := Memory.read call.buf 0 call.count

/-- One step of a call: the call goes on, or returns a count. The asynchronous branch is one step. -/
def writeStep (info : R56Struct) (call : WriteCall) : R56Struct × (WriteCall ⊕ Nat) :=
  match call.pc with
  | .enter =>
    if ¬info.xmitBufPtr then (info, .inr 0)
    else if info.synchronous then
      if info.txActive then
        if info.params.mode = r56ModeHdlc then (info, .inr 0)
        else (info, .inl { call with pc := .testHolding })
      else (info, .inl { call with pc := .testLoop })
    else
      let (info, ret) := r56Write info call.buf call.count
      (info, .inr ret)
  | .testHolding =>
    if info.txHoldingCount ≥ info.numTxHoldingBuffers then (info, .inr 0)
    else (info, .inl { call with pc := .saveFrame, ret := call.count })
  | .saveFrame =>
    if info.txHoldingCount ≥ info.numTxHoldingBuffers then (info, .inl { call with pc := .loadNext })
    else (storeTxBufferRequest info call.buf call.count, .inl { call with pc := .countFrame })
  | .countFrame => (countTxBufferRequest info, .inl { call with pc := .advancePut })
  | .advancePut => (advancePutTxHoldingIndex info, .inl { call with pc := .loadNext })
  | .loadNext => ((loadNextTxHoldingBuffer info).1, .inr call.ret)
  | .testLoop =>
    if info.params.flags &&& hdlcFlagHdlcLoopmode ≠ 0 ∧ ¬uscLoopmodeActive info then (info, .inr 0)
    else (info, .inl { call with pc := .testCnt })
  | .testCnt =>
    if info.xmitCnt ≠ 0 then (info, .inl { call with pc := .loadXmitBuf })
    else (info, .inl { call with pc := .setCnt, ret := call.count })
  | .loadXmitBuf => (loadXmitBuf info, .inl { call with pc := .testStart })
  | .setCnt => ({ info with xmitCnt := call.count }, .inl { call with pc := .loadFrame })
  | .loadFrame =>
    (r56LoadTxDmaBuffer info .write call.buf call.count, .inl { call with pc := .testStart })
  | .testStart =>
    if info.xmitCnt ≠ 0 ∧ ¬info.ttyStopped then (info, .inl { call with pc := .start })
    else (info, .inr call.ret)
  | .start => (if info.txActive then info else uscStartTransmitter info, .inr call.ret)

/-- At most `fuel` steps of a call that nothing interrupts. -/
def runWrite : Nat → R56Struct → WriteCall → Option (R56Struct × Nat)
  | 0, _, _ => none
  | fuel + 1, info, call =>
    match writeStep info call with
    | (info, .inl call) => runWrite fuel info call
    | (info, .inr ret) => some (info, ret)

theorem runWrite_inl {info after : R56Struct} {call next : WriteCall} (fuel : Nat)
    (stepped : writeStep info call = (after, .inl next)) :
    runWrite (fuel + 1) info call = runWrite fuel after next := by
  rw [runWrite, stepped]

theorem runWrite_inr {info after : R56Struct} {call : WriteCall} {ret : Nat} (fuel : Nat)
    (stepped : writeStep info call = (after, .inr ret)) : runWrite (fuel + 1) info call = some (after, ret) := by
  rw [runWrite, stepped]

/-- The last two steps of a call are the last statement of `r56_write`. -/
theorem runWrite_testStart (info : R56Struct) (buf : Nat → U8) (count ret fuel : Nat) :
    runWrite (fuel + 2) info ⟨.testStart, buf, count, ret⟩ = some (startIfIdle info, ret) := by
  by_cases ready : info.xmitCnt ≠ 0 ∧ ¬info.ttyStopped
  · have stepped : writeStep info ⟨.testStart, buf, count, ret⟩ = (info, .inl ⟨.start, buf, count, ret⟩) := if_pos ready
    rw [runWrite_inl _ stepped, runWrite_inr fuel rfl]
    unfold startIfIdle
    rw [if_pos ready]
  · have stepped : writeStep info ⟨.testStart, buf, count, ret⟩ = (info, .inr ret) := if_neg ready
    rw [runWrite_inr _ stepped]
    unfold startIfIdle
    rw [if_neg ready]

/-- The frame is held back, and the next frame held back is loaded if there is room for it. -/
theorem runWrite_testHolding (info : R56Struct) (buf : Nat → U8) (count fuel : Nat) :
    runWrite (fuel + 5) info ⟨.testHolding, buf, count, 0⟩ =
      some (if info.txHoldingCount ≥ info.numTxHoldingBuffers then (info, 0)
        else ((loadNextTxHoldingBuffer (saveTxBufferRequest info buf count)).1, count)) := by
  by_cases full : info.txHoldingCount ≥ info.numTxHoldingBuffers
  · have stepped : writeStep info ⟨.testHolding, buf, count, 0⟩ = (info, .inr 0) := if_pos full
    rw [runWrite_inr _ stepped, if_pos full]
  · have tested : writeStep info ⟨.testHolding, buf, count, 0⟩ = (info, .inl ⟨.saveFrame, buf, count, count⟩) :=
      if_neg full
    have stored : writeStep info ⟨.saveFrame, buf, count, count⟩ =
        (storeTxBufferRequest info buf count, .inl ⟨.countFrame, buf, count, count⟩) := if_neg full
    have saved : saveTxBufferRequest info buf count =
        advancePutTxHoldingIndex (countTxBufferRequest (storeTxBufferRequest info buf count)) := if_neg full
    have counted (s : R56Struct) : writeStep s ⟨.countFrame, buf, count, count⟩ =
        (countTxBufferRequest s, .inl ⟨.advancePut, buf, count, count⟩) := rfl
    have advanced (s : R56Struct) : writeStep s ⟨.advancePut, buf, count, count⟩ =
        (advancePutTxHoldingIndex s, .inl ⟨.loadNext, buf, count, count⟩) := rfl
    have loaded (s : R56Struct) : writeStep s ⟨.loadNext, buf, count, count⟩ =
        ((loadNextTxHoldingBuffer s).1, .inr count) := rfl
    rw [if_neg full, saved, runWrite_inl _ tested, runWrite_inl _ stored, runWrite_inl _ (counted _),
      runWrite_inl _ (advanced _), runWrite_inr fuel (loaded _)]

/-- The collected characters are sent, or else the frame. -/
theorem runWrite_testLoop (info : R56Struct) (buf : Nat → U8) (count fuel : Nat) :
    runWrite (fuel + 6) info ⟨.testLoop, buf, count, 0⟩ =
      some (if info.params.flags &&& hdlcFlagHdlcLoopmode ≠ 0 ∧ ¬uscLoopmodeActive info then (info, 0)
        else if info.xmitCnt ≠ 0 then (startIfIdle (loadXmitBuf info), 0)
        else (startIfIdle (r56LoadTxDmaBuffer { info with xmitCnt := count } .write buf count), count)) := by
  by_cases out : info.params.flags &&& hdlcFlagHdlcLoopmode ≠ 0 ∧ ¬uscLoopmodeActive info
  · have stepped : writeStep info ⟨.testLoop, buf, count, 0⟩ = (info, .inr 0) := if_pos out
    rw [runWrite_inr _ stepped, if_pos out]
  · have tested : writeStep info ⟨.testLoop, buf, count, 0⟩ = (info, .inl ⟨.testCnt, buf, count, 0⟩) := if_neg out
    rw [runWrite_inl _ tested, if_neg out]
    by_cases queued : info.xmitCnt ≠ 0
    · have counted : writeStep info ⟨.testCnt, buf, count, 0⟩ = (info, .inl ⟨.loadXmitBuf, buf, count, 0⟩) :=
        if_pos queued
      rw [runWrite_inl _ counted, runWrite_inl _ rfl, runWrite_testStart, if_pos queued]
    · have counted : writeStep info ⟨.testCnt, buf, count, 0⟩ = (info, .inl ⟨.setCnt, buf, count, count⟩) :=
        if_neg queued
      rw [runWrite_inl _ counted, runWrite_inl _ rfl, runWrite_inl _ rfl, runWrite_testStart, if_neg queued]

/-- A call that nothing interrupts is `r56_write`. -/
theorem runWrite_enter (info : R56Struct) (buf : Nat → U8) (count : Nat) :
    runWrite 7 info ⟨.enter, buf, count, 0⟩ = some (r56Write info buf count) := by
  unfold r56Write
  by_cases ptr : info.xmitBufPtr = true
  · rw [if_neg (not_not.mpr ptr)]
    by_cases sync : info.synchronous
    · rw [if_pos sync]
      by_cases active : info.txActive = true
      · rw [if_pos active]
        by_cases hdlc : info.params.mode = r56ModeHdlc
        · have stepped : writeStep info ⟨.enter, buf, count, 0⟩ = (info, .inr 0) := by
            unfold writeStep
            dsimp only
            rw [if_neg (not_not.mpr ptr), if_pos sync, if_pos active, if_pos hdlc]
          rw [runWrite_inr _ stepped, if_pos hdlc]
        · have stepped : writeStep info ⟨.enter, buf, count, 0⟩ = (info, .inl ⟨.testHolding, buf, count, 0⟩) := by
            unfold writeStep
            dsimp only
            rw [if_neg (not_not.mpr ptr), if_pos sync, if_pos active, if_neg hdlc]
          rw [runWrite_inl _ stepped, runWrite_testHolding, if_neg hdlc]
      · have stepped : writeStep info ⟨.enter, buf, count, 0⟩ = (info, .inl ⟨.testLoop, buf, count, 0⟩) := by
          unfold writeStep
          dsimp only
          rw [if_neg (not_not.mpr ptr), if_pos sync, if_neg active]
        rw [runWrite_inl _ stepped, runWrite_testLoop, if_neg active]
    · have stepped : writeStep info ⟨.enter, buf, count, 0⟩ =
          ((r56Write info buf count).1, .inr (r56Write info buf count).2) := by
        unfold writeStep
        dsimp only
        rw [if_neg (not_not.mpr ptr), if_neg sync]
      rw [runWrite_inr _ stepped, if_neg sync, r56Write, if_neg (not_not.mpr ptr), if_neg sync]
  · have stepped : writeStep info ⟨.enter, buf, count, 0⟩ = (info, .inr 0) := if_pos ptr
    rw [runWrite_inr _ stepped, if_pos ptr]

/-- A port in RAW mode, the `r56_write` call in progress, and the frames for which
`ret = count` has been executed, in order. -/
structure RawState where
  info : R56Struct
  call : Option WriteCall := none
  accepted : List (List U8) := []

inductive RawEvent
  | call (buf : Nat → U8) (count : Nat)
  | step
  | transmitStatus (report : UscReport)
  | transmitDma (report : UscReport)
  | flow (stopped hwStopped : Bool)

/-- End of buffer interrupts of the transmit DMA channel are armed. -/
def R56Struct.eobArmed (info : R56Struct) : Prop :=
  uscInDmaReg info.usc .tdiar &&& bit2 ≠ 0 ∧ uscInDmaReg info.usc .dicr &&& bit0 ≠ 0

/-- The frames accepted after the next step of a call: those for which it sets `ret` to `count`. -/
def acceptedAfter (s : RawState) (call : WriteCall) : List (List U8) :=
  match call.pc with
  | .testHolding =>
    if s.info.txHoldingCount ≥ s.info.numTxHoldingBuffers then s.accepted else s.accepted ++ [call.frame]
  | .testCnt => if s.info.xmitCnt ≠ 0 then s.accepted else s.accepted ++ [call.frame]
  | _ => s.accepted

inductive RawStep : RawState → RawEvent → RawState → Prop
  | call {s : RawState} {buf : Nat → U8} {count : Nat} (free : s.call = none)
      (size : 1 ≤ count ∧ count ≤ s.info.maxFrameSize) :
      RawStep s (.call buf count) { s with call := some ⟨.enter, buf, count, 0⟩ }
  | step {s : RawState} {call : WriteCall} (running : s.call = some call) :
      RawStep s .step
        { info := (writeStep s.info call).1
          call := (writeStep s.info call).2.getLeft?
          accepted := acceptedAfter s call }
  | transmitStatus {s : RawState} {report : UscReport} (vector : (s.info.reporting report).uscVector = 4) :
      RawStep s (.transmitStatus report) { s with info := r56Interrupt (s.info.reporting report) }
  | transmitDma {s : RawState} {report : UscReport} (armed : s.info.eobArmed)
      (vector : (s.info.reporting report).uscVector = 0)
      (transmit : uscInDmaReg (s.info.reporting report).usc .divr &&& (bit10 ||| bit9) = bit10) :
      RawStep s (.transmitDma report) { s with info := r56Interrupt (s.info.reporting report) }
  | flow {s : RawState} {stopped hwStopped : Bool} :
      RawStep s (.flow stopped hwStopped)
        { s with info := { s.info with tty := { s.info.tty with stopped := stopped, hwStopped := hwStopped } } }

/-- Each frame handed over is an accepted one, in order and once, and an idle transmitter
that the tty does not hold back leaves no frame waiting. -/
structure RawGood (s : RawState) : Prop where
  handed : ∀ load ∈ s.info.history.loads, load.1 ≠ .xmitBuf
  inOrder : s.info.history.loads.map Prod.snd <+: s.accepted
  noneWaiting : s.info.txActive = false → s.info.ttyStopped = false → s.info.txHoldingCount = 0

/-- A call that found the transmitter idle finds nothing collected in `xmit_buf`, and loads its frame with none held
back before it. -/
def stepsInOrder (info : R56Struct) : WritePc → Prop
  | .testCnt => info.xmitCnt = 0
  | .loadFrame => info.txHoldingCount = 0
  | _ => True

instance (info : R56Struct) : (pc : WritePc) → Decidable (stepsInOrder info pc)
  | .testCnt => inferInstanceAs (Decidable (info.xmitCnt = 0))
  | .loadFrame => inferInstanceAs (Decidable (info.txHoldingCount = 0))
  | .enter | .testHolding | .saveFrame | .countFrame | .advancePut | .loadNext | .testLoop | .loadXmitBuf | .setCnt
  | .testStart | .start => .isTrue trivial

def RawInOrder (s : RawState) : RawEvent → Prop
  | .step => ∀ call ∈ s.call, stepsInOrder s.info call.pc
  | _ => True

instance (s : RawState) : (event : RawEvent) → Decidable (RawInOrder s event)
  | .step => inferInstanceAs (Decidable (∀ call ∈ s.call, stepsInOrder s.info call.pc))
  | .call .. | .transmitStatus _ | .transmitDma _ | .flow .. => .isTrue trivial

/-- A frame is counted as held back while the transmitter is busy or stopped by the tty, and neither does the
transmitter become idle nor the tty let it go on with frames held back. -/
def RawAttended (s : RawState) : RawEvent → Prop
  | .step => ∀ call ∈ s.call, call.pc = .countFrame → s.info.txActive = true ∨ s.info.ttyStopped = true
  | .transmitStatus _ => s.info.ttyStopped = false → s.info.txHoldingCount = 0
  | .flow stopped hwStopped =>
    (stopped || hwStopped) = false → s.info.txActive = false → s.info.txHoldingCount = 0
  | _ => True

instance (s : RawState) : (event : RawEvent) → Decidable (RawAttended s event)
  | .step => inferInstanceAs (Decidable
    (∀ call ∈ s.call, call.pc = .countFrame → s.info.txActive = true ∨ s.info.ttyStopped = true))
  | .transmitStatus _ => inferInstanceAs (Decidable (_ → _))
  | .flow .. => inferInstanceAs (Decidable (_ → _ → _))
  | .call .. | .transmitDma _ => .isTrue trivial

/-- A frame that is stored is counted as held back. -/
def Xmit.counted (x : Xmit) : Xmit := { x with holding := x.holding + 1 }

def Xmit.advanced (x : Xmit) : Xmit := { x with put := if x.put + 1 ≥ x.holders then 0 else x.put + 1 }

/-- The transmit data once `save_tx_buffer_request` will have finished. -/
def finished (call : Option WriteCall) (x : Xmit) : Xmit :=
  match call with
  | none => x
  | some call =>
    match call.pc with
    | .countFrame => x.counted.advanced
    | .advancePut => x.advanced
    | _ => x

/-- The frame that is accepted but neither stored nor loaded. -/
def pending : Option WriteCall → List (List U8)
  | none => []
  | some call =>
    match call.pc with
    | .saveFrame | .setCnt | .loadFrame => [call.frame]
    | _ => []

/-- Every accepted frame is handed over, held back or pending, in that order. -/
structure Ledger (x : Xmit) (call : Option WriteCall) (accepted : List (List U8)) : Prop where
  mode : x.mode = r56ModeRaw
  queued : (finished call x).Queued
  balance : accepted = x.loads.map Prod.snd ++ (finished call x).held ++ pending call
  handed : ∀ load ∈ x.loads, load.1 ≠ .xmitBuf
  place : ∀ c, call = some c →
    c.pc ≠ .loadXmitBuf ∧ (c.pc = .saveFrame → x.holding < x.holders)

theorem held_eq_nil {x : Xmit} (none : x.holding = 0) : x.held = [] := by
  unfold Xmit.held
  rw [none]
  rfl

theorem finished_unhold {call : Option WriteCall} {x : Xmit} (waiting : x.holding ≠ 0) :
    finished call x.unhold = (finished call x).unhold := by
  have counted : x.unhold.counted.advanced = x.counted.advanced.unhold := by
    have count : x.holding - 1 + 1 = x.holding + 1 - 1 := by omega
    unfold Xmit.unhold Xmit.counted Xmit.advanced Xmit.load
    dsimp only
    rw [count]
  cases call with
  | none => rfl
  | some call =>
    obtain ⟨pc, buf, count, ret⟩ := call
    cases pc with
    | countFrame => exact counted
    | _ => rfl

theorem finished_holding (call : Option WriteCall) (x : Xmit) : x.holding ≤ (finished call x).holding := by
  cases call with
  | none => exact le_rfl
  | some call =>
    obtain ⟨pc, buf, count, ret⟩ := call
    cases pc with
    | countFrame => exact Nat.le_succ _
    | _ => exact le_rfl

/-- The oldest frame held back is handed over next. -/
theorem Ledger.unhold {x : Xmit} {call : Option WriteCall} {accepted : List (List U8)}
    (inv : Ledger x call accepted) (waiting : x.holding ≠ 0) : Ledger x.unhold call accepted := by
  have still : (finished call x).holding ≠ 0 := by
    have le := finished_holding call x
    omega
  obtain ⟨queued, held⟩ := inv.queued.unhold still
  have buffers : (finished call x).buffers = x.buffers ∧ (finished call x).get = x.get := by
    unfold finished
    split
    · exact ⟨rfl, rfl⟩
    · split
      · exact ⟨rfl, rfl⟩
      · exact ⟨rfl, rfl⟩
      · exact ⟨rfl, rfl⟩
  rw [buffers.1, buffers.2] at held
  have loads : x.unhold.loads = x.loads ++ [(.holding, (x.buffers x.get).frame)] := rfl
  refine ⟨inv.mode, ?_, ?_, ?_, fun c running => ?_⟩
  · rw [finished_unhold waiting]
    exact queued
  · rw [finished_unhold waiting, inv.balance, held, loads, List.map_append, List.map_singleton]
    simp only [List.append_assoc, List.cons_append, List.nil_append]
  · intro load member
    rw [loads] at member
    rcases List.mem_append.mp member with old | new
    · exact inv.handed load old
    · rw [List.mem_singleton.mp new]
      exact nofun
  · obtain ⟨place, room⟩ := inv.place c running
    exact ⟨place, fun saving => (Nat.sub_le _ _).trans_lt (room saving)⟩

theorem Ledger.zeroed {x : Xmit} {call : Option WriteCall} {accepted : List (List U8)}
    (inv : Ledger x call accepted) : Ledger x.zeroed call accepted := by
  have same : finished call x.zeroed = (finished call x).zeroed := by
    unfold finished
    split
    · rfl
    · split
      · rfl
      · rfl
      · rfl
  refine ⟨inv.mode, ?_, ?_, inv.handed, inv.place⟩
  · rw [same]
    exact ⟨inv.queued.le, inv.queued.get, inv.queued.put⟩
  · rw [same]
    exact inv.balance

/-- Moving on between places where nothing is stored or pending. -/
theorem Ledger.moved {x : Xmit} {call next : Option WriteCall} {accepted : List (List U8)}
    (inv : Ledger x call accepted) (finish : finished next x = finished call x) (pend : pending next = pending call)
    (place : ∀ c, next = some c → c.pc ≠ .loadXmitBuf ∧ c.pc ≠ .saveFrame) : Ledger x next accepted := by
  refine ⟨inv.mode, ?_, ?_, inv.handed, fun c running => ?_⟩
  · rw [finish]
    exact inv.queued
  · rw [finish, pend]
    exact inv.balance
  · obtain ⟨loading, saving⟩ := place c running
    exact ⟨loading, fun pc => absurd pc saving⟩

section

variable {s : RawState} {buf : Nat → U8} {count ret : Nat}

/-- The call goes on to a place where nothing is stored or pending, or returns. -/
theorem Ledger.plain {pc : WritePc} {next : Option WriteCall}
    (inv : Ledger s.info.xmit (some ⟨pc, buf, count, ret⟩) s.accepted)
    (finish : finished next s.info.xmit = finished (some ⟨pc, buf, count, ret⟩) s.info.xmit)
    (pend : pending next = pending (some ⟨pc, buf, count, ret⟩))
    (place : ∀ c, next = some c → c.pc ≠ .loadXmitBuf ∧ c.pc ≠ .saveFrame) :
    Ledger s.info.xmit next s.accepted := inv.moved finish pend place

/-- A frame is accepted. -/
theorem Ledger.accept {pc next : WritePc} (inv : Ledger s.info.xmit (some ⟨pc, buf, count, ret⟩) s.accepted)
    (here : finished (some ⟨pc, buf, count, ret⟩) s.info.xmit = s.info.xmit ∧ pending (some ⟨pc, buf, count, ret⟩) = [])
    (there : finished (some ⟨next, buf, count, count⟩) s.info.xmit = s.info.xmit ∧
      pending (some ⟨next, buf, count, count⟩) = [Memory.read buf 0 count])
    (place : next ≠ .loadXmitBuf) (room : next = .saveFrame → s.info.txHoldingCount < s.info.numTxHoldingBuffers) :
    Ledger s.info.xmit (some ⟨next, buf, count, count⟩) (s.accepted ++ [Memory.read buf 0 count]) := by
  have queued := inv.queued
  have balance := inv.balance
  rw [here.1] at queued balance
  rw [here.2, List.append_nil] at balance
  refine ⟨inv.mode, ?_, ?_, inv.handed, fun c running => ?_⟩
  · rw [there.1]
    exact queued
  · rw [there.1, there.2, balance]
  · cases running
    exact ⟨place, room⟩

/-- It is stored in the next holding buffer. -/
theorem Ledger.saveFrame (inv : Ledger s.info.xmit (some ⟨.saveFrame, buf, count, ret⟩) s.accepted) :
    Ledger (writeStep s.info ⟨.saveFrame, buf, count, ret⟩).1.xmit
      (writeStep s.info ⟨.saveFrame, buf, count, ret⟩).2.getLeft? s.accepted := by
  have room : s.info.xmit.holding < s.info.xmit.holders := (inv.place _ rfl).2 rfl
  have open' : ¬s.info.txHoldingCount ≥ s.info.numTxHoldingBuffers := Nat.not_le_of_lt room
  unfold writeStep
  dsimp only
  rw [if_neg open']
  obtain ⟨queued, held⟩ := Xmit.Queued.hold inv.queued room buf count
  refine ⟨inv.mode, queued, ?_, inv.handed, fun c running => ?_⟩
  · have balance : s.accepted = s.info.xmit.loads.map Prod.snd ++ s.info.xmit.held ++ [Memory.read buf 0 count] :=
      inv.balance
    have stored : (s.info.xmit.hold buf count).held = s.info.xmit.held ++ [Memory.read buf 0 count] := held
    rw [balance, List.append_assoc, ← stored]
    exact (List.append_nil _).symm
  · cases running
    exact ⟨nofun, nofun⟩

/-- With none held back, the frame goes to the ring at once. -/
theorem Ledger.loadFrame (inv : Ledger s.info.xmit (some ⟨.loadFrame, buf, count, ret⟩) s.accepted)
    (empty : s.info.txHoldingCount = 0) :
    Ledger (s.info.xmit.load .write (Memory.read buf 0 count)) (some ⟨.testStart, buf, count, ret⟩) s.accepted := by
  have none : s.info.xmit.held = [] := held_eq_nil empty
  have balance : s.accepted = s.info.xmit.loads.map Prod.snd ++ s.info.xmit.held ++ [Memory.read buf 0 count] :=
    inv.balance
  rw [none, List.append_nil] at balance
  refine ⟨inv.mode, ⟨inv.queued.le, inv.queued.get, inv.queued.put⟩, ?_, ?_, fun c running => ?_⟩
  · have after : (s.info.xmit.load .write (Memory.read buf 0 count)).held = [] := none
    have loads : (s.info.xmit.load .write (Memory.read buf 0 count)).loads.map Prod.snd =
        s.info.xmit.loads.map Prod.snd ++ [Memory.read buf 0 count] := by
      unfold Xmit.load
      rw [List.map_append, List.map_singleton]
    have sum : s.accepted = (s.info.xmit.load .write (Memory.read buf 0 count)).loads.map Prod.snd ++
        (s.info.xmit.load .write (Memory.read buf 0 count)).held ++ [] := by
      rw [after, loads, balance, List.append_nil, List.append_nil]
    exact sum
  · intro load member
    rcases List.mem_append.mp member with old | new
    · exact inv.handed load old
    · rw [List.mem_singleton.mp new]
      exact nofun
  · cases running
    exact ⟨nofun, nofun⟩

end

/-- Step lemma: a step of a call keeps the books. -/
theorem Ledger.step {s : RawState} {call : WriteCall} (inv : Ledger s.info.xmit (some call) s.accepted)
    (inOrder : stepsInOrder s.info call.pc) :
    Ledger (writeStep s.info call).1.xmit (writeStep s.info call).2.getLeft? (acceptedAfter s call) := by
  have raw : s.info.params.mode = r56ModeRaw := inv.mode
  obtain ⟨pc, buf, count, ret⟩ := call
  cases pc with
  | enter =>
    have sync : s.info.synchronous := .inr raw
    have hdlc : ¬s.info.params.mode = r56ModeHdlc := by
      rw [raw]
      decide
    unfold writeStep
    dsimp only
    split
    · exact inv.plain rfl rfl nofun
    split
    · exact inv.plain rfl rfl fun c same => by cases same; exact ⟨nofun, nofun⟩
    · exact inv.plain rfl rfl fun c same => by cases same; exact ⟨nofun, nofun⟩
  | testHolding =>
    unfold writeStep acceptedAfter
    dsimp only
    split
    · exact inv.plain rfl rfl nofun
    · rename_i room
      exact inv.accept ⟨rfl, rfl⟩ ⟨rfl, rfl⟩ nofun fun _ => Nat.lt_of_not_le room
  | saveFrame => exact inv.saveFrame
  | countFrame =>
    refine ⟨inv.mode, inv.queued, inv.balance, inv.handed, fun c running => ?_⟩
    cases running
    exact ⟨nofun, nofun⟩
  | advancePut =>
    refine ⟨inv.mode, inv.queued, inv.balance, inv.handed, fun c running => ?_⟩
    cases running
    exact ⟨nofun, nofun⟩
  | loadNext =>
    have done : Ledger s.info.xmit none s.accepted := inv.plain rfl rfl nofun
    unfold writeStep
    dsimp only
    rcases loadNextTxHoldingBuffer_xmit s.info with same | ⟨waiting, loaded⟩
    · rw [same]
      exact done
    · rw [loaded]
      exact done.unhold waiting
  | testLoop =>
    unfold writeStep
    dsimp only
    split
    · exact inv.plain rfl rfl nofun
    · exact inv.plain rfl rfl fun c same => by cases same; exact ⟨nofun, nofun⟩
  | testCnt =>
    have empty : ¬s.info.xmitCnt ≠ 0 := not_not.mpr inOrder
    unfold writeStep acceptedAfter
    dsimp only
    rw [if_neg empty, if_neg empty]
    exact inv.accept ⟨rfl, rfl⟩ ⟨rfl, rfl⟩ nofun nofun
  | loadXmitBuf => exact absurd rfl (inv.place _ rfl).1
  | setCnt =>
    refine ⟨inv.mode, ⟨inv.queued.le, inv.queued.get, inv.queued.put⟩, inv.balance, inv.handed, fun c running => ?_⟩
    cases running
    exact ⟨nofun, nofun⟩
  | loadFrame => exact inv.loadFrame inOrder
  | testStart =>
    unfold writeStep
    dsimp only
    split
    · exact inv.plain rfl rfl fun c same => by cases same; exact ⟨nofun, nofun⟩
    · exact inv.plain rfl rfl nofun
  | start =>
    have done : Ledger s.info.xmit none s.accepted := inv.plain rfl rfl nofun
    unfold writeStep
    dsimp only
    split
    · exact done
    · rw [uscStartTransmitter_xmit (.inr raw)]
      exact done

def R56Struct.pace (info : R56Struct) : Bool × Bool := (info.txActive, info.ttyStopped)

theorem pace_of_exceptReception {s t : R56Struct} (frame : t.exceptReception = s.exceptReception) :
    t.pace = s.pace := by
  have same := congrArg R56Struct.pace frame
  exact same

theorem loadNextTxHoldingBuffer_pace (info : R56Struct) : (loadNextTxHoldingBuffer info).1.pace = info.pace := by
  unfold loadNextTxHoldingBuffer
  dsimp only
  split
  · rfl
  · rfl

theorem r56IsrTransmitDma_pace (info : R56Struct) : (r56IsrTransmitDma info).pace = info.pace := by
  have done (s : R56Struct) : (txBufferDone s).pace = s.pace := by
    have loaded := loadNextTxHoldingBuffer_pace { s with txDmaBuffersUsed := s.txDmaBuffersUsed - 1 }
    unfold txBufferDone
    dsimp only
    split
    · exact loaded
    · exact loaded
  unfold r56IsrTransmitDma
  dsimp only
  split
  · exact done _
  · rfl

theorem uscStopTransmitter_pace (info : R56Struct) : (uscStopTransmitter info).pace = (false, info.ttyStopped) := rfl

theorem r56IsrTransmitStatus_pace (info : R56Struct) : (r56IsrTransmitStatus info).pace = (false, info.ttyStopped) := by
  have negated (s : R56Struct) : (negateRts s).pace = s.pace := by
    unfold negateRts
    split
    · rfl
    · rfl
  have dropped (s : R56Struct) : (dropAutoRts s).pace = s.pace := by
    unfold dropAutoRts
    split
    · exact negated _
    · rfl
  have ended := dropped (ackTxStatus info (uscInReg info.usc .tcsr))
  have stopped : (dropAutoRts (ackTxStatus info (uscInReg info.usc .tcsr))).ttyStopped = info.ttyStopped :=
    congrArg Prod.snd ended
  unfold r56IsrTransmitStatus
  dsimp only
  split
  · exact ended
  split
  · rw [uscStopTransmitter_pace, stopped]
  · exact ended

/-- Starting the transmitter never makes it idle. -/
theorem uscStartTransmitter_pace {info : R56Struct} (idle : (uscStartTransmitter info).txActive = false) :
    info.txActive = false ∧ (uscStartTransmitter info).ttyStopped = info.ttyStopped := by
  have stopped := congrArg R56Struct.ttyStopped (uscStartTransmitter_frame info)
  refine ⟨?_, stopped⟩
  have enabled (s : R56Struct) : (enableIfDisabled s).txActive = s.txActive := by
    unfold enableIfDisabled
    split
    · rfl
    · rfl
  unfold uscStartTransmitter at idle
  rw [enabled] at idle
  have busy : (sendXmit info).txActive = true := rfl
  split at idle
  · exact absurd busy (by rw [idle]; decide)
  · exact idle

/-- No frame waits for an idle transmitter that the tty does not hold back. -/
def R56Struct.noneWaiting (info : R56Struct) : Prop :=
  info.txActive = false → info.ttyStopped = false → info.txHoldingCount = 0

theorem noneWaiting_of_pace {s t : R56Struct} (pace : t.pace = s.pace) (fewer : t.txHoldingCount ≤ s.txHoldingCount)
    (inv : s.noneWaiting) : t.noneWaiting := by
  intro idle free
  have none := inv ((congrArg Prod.fst pace).symm.trans idle) ((congrArg Prod.snd pace).symm.trans free)
  omega

theorem xmit_fewer {s t : R56Struct} (changed : t.xmit = s.xmit ∨ s.txHoldingCount ≠ 0 ∧ t.xmit = s.xmit.unhold) :
    t.txHoldingCount ≤ s.txHoldingCount := by
  rcases changed with same | ⟨-, loaded⟩
  · exact Nat.le_of_eq (congrArg Xmit.holding same)
  · have fewer : t.txHoldingCount = s.txHoldingCount - 1 := congrArg Xmit.holding loaded
    omega

/-- A step of a call leaves a frame waiting only where it counts one as held back for an idle transmitter. -/
theorem writeStep_noneWaiting {info : R56Struct} {call : WriteCall} (sync : info.synchronous)
    (inv : info.noneWaiting) :
    (writeStep info call).1.noneWaiting ↔ (call.pc = .countFrame → info.txActive = true ∨ info.ttyStopped = true) := by
  have same {next : R56Struct} (pace : next.pace = info.pace) (count : next.txHoldingCount = info.txHoldingCount) :
      next.noneWaiting := noneWaiting_of_pace pace (Nat.le_of_eq count) inv
  obtain ⟨pc, buf, count, ret⟩ := call
  by_cases counts : pc = .countFrame
  · subst counts
    rw [imp_iff_right rfl]
    constructor
    · intro none
      by_contra idle
      rw [not_or, Bool.not_eq_true, Bool.not_eq_true] at idle
      exact Nat.succ_ne_zero _ (none idle.1 idle.2)
    · rintro attended idle free
      rcases attended with active | stopped
      · exact absurd active (by rw [show info.txActive = false from idle]; decide)
      · exact absurd stopped (by rw [show info.ttyStopped = false from free]; decide)
  · refine iff_of_true ?_ fun counted => absurd counted counts
    unfold writeStep
    cases pc with
    | enter =>
      dsimp only
      split
      · exact inv
      split
      · split
        · exact inv
        · exact inv
      · exact inv
    | testHolding => dsimp only; split <;> exact inv
    | saveFrame =>
      dsimp only
      split
      · exact inv
      · exact same rfl rfl
    | countFrame => exact absurd rfl counts
    | advancePut => exact same rfl rfl
    | loadNext =>
      exact noneWaiting_of_pace (loadNextTxHoldingBuffer_pace info) (xmit_fewer (loadNextTxHoldingBuffer_xmit info)) inv
    | testLoop => dsimp only; split <;> exact inv
    | testCnt => dsimp only; split <;> exact inv
    | loadXmitBuf => exact same rfl rfl
    | setCnt => exact same rfl rfl
    | loadFrame => exact same rfl rfl
    | testStart => dsimp only; split <;> exact inv
    | start =>
      dsimp only
      split
      · exact inv
      · intro idle free
        obtain ⟨was, stopped⟩ := uscStartTransmitter_pace idle
        have count : (uscStartTransmitter info).txHoldingCount = info.txHoldingCount :=
          congrArg Xmit.holding (uscStartTransmitter_xmit sync)
        rw [count]
        exact inv was (stopped.symm.trans free)

theorem r56Interrupt_transmitStatus {info : R56Struct} {report : UscReport}
    (vector : (info.reporting report).uscVector = 4) :
    (r56Interrupt (info.reporting report)).xmit = info.xmit.zeroed ∧
      (r56Interrupt (info.reporting report)).pace = (false, info.ttyStopped) := by
  have served : serviceInterrupt (info.reporting report) = r56IsrTransmitStatus (info.reporting report) := by
    unfold serviceInterrupt
    rw [if_pos (by rw [vector]; decide), vector]
    rfl
  have frame : (r56Interrupt (info.reporting report)).exceptReception =
      (r56IsrTransmitStatus (info.reporting report)).exceptReception := by
    rw [← served]
    exact (scheduleBh_frame _).trans (exceptReception_of_exceptChip (haltOnOverflow_frame _))
  exact ⟨(xmit_of_exceptReception frame).trans (r56IsrTransmitStatus_xmit _),
    (pace_of_exceptReception frame).trans (r56IsrTransmitStatus_pace _)⟩

theorem r56Interrupt_transmitDma {info : R56Struct} {report : UscReport}
    (vector : (info.reporting report).uscVector = 0)
    (transmit : uscInDmaReg (info.reporting report).usc .divr &&& (bit10 ||| bit9) = bit10) :
    ((r56Interrupt (info.reporting report)).xmit = info.xmit ∨
      info.txHoldingCount ≠ 0 ∧ (r56Interrupt (info.reporting report)).xmit = info.xmit.unhold) ∧
      (r56Interrupt (info.reporting report)).pace = info.pace := by
  have served : serviceInterrupt (info.reporting report) = r56IsrTransmitDma (info.reporting report) := by
    unfold serviceInterrupt
    dsimp only
    rw [if_neg (not_not.mpr vector), if_pos transmit]
  have frame : (r56Interrupt (info.reporting report)).exceptReception =
      (r56IsrTransmitDma (info.reporting report)).exceptReception := by
    rw [← served]
    exact (scheduleBh_frame _).trans (exceptReception_of_exceptChip (haltOnOverflow_frame _))
  refine ⟨?_, (pace_of_exceptReception frame).trans (r56IsrTransmitDma_pace _)⟩
  rw [xmit_of_exceptReception frame]
  exact r56IsrTransmitDma_xmit (info.reporting report)

/-- Where the books are kept, a state is good if no frame waits. -/
theorem Ledger.good_iff {s : RawState} (inv : Ledger s.info.xmit s.call s.accepted) : RawGood s ↔ s.info.noneWaiting := by
  refine ⟨RawGood.noneWaiting, fun none => ⟨inv.handed, ?_, none⟩⟩
  rw [inv.balance, List.append_assoc]
  exact List.prefix_append _ _

/-- Step lemma: the books are kept. -/
theorem rawStep_ledger {s t : RawState} {event : RawEvent} (inv : Ledger s.info.xmit s.call s.accepted)
    (step : RawStep s event t) (inOrder : RawInOrder s event) : Ledger t.info.xmit t.call t.accepted := by
  cases step with
  | call free size =>
    rw [free] at inv
    exact inv.moved rfl rfl fun c same => by cases same; exact ⟨nofun, nofun⟩
  | @step call running =>
    rw [running] at inv
    exact inv.step (inOrder call running)
  | transmitStatus vector =>
    obtain ⟨xmit, -⟩ := r56Interrupt_transmitStatus vector
    rw [xmit]
    exact inv.zeroed
  | transmitDma armed vector transmit =>
    obtain ⟨xmit, -⟩ := r56Interrupt_transmitDma vector transmit
    rcases xmit with same | ⟨waiting, loaded⟩
    · rw [same]
      exact inv
    · rw [loaded]
      exact inv.unhold waiting
  | flow => exact inv

/-- Step lemma: whether a frame is left waiting. -/
theorem rawStep_noneWaiting {s t : RawState} {event : RawEvent} (raw : s.info.params.mode = r56ModeRaw)
    (inv : s.info.noneWaiting) (step : RawStep s event t) : t.info.noneWaiting ↔ RawAttended s event := by
  cases step with
  | call free size => exact iff_of_true inv trivial
  | @step call running =>
    refine (writeStep_noneWaiting (.inr raw) inv).trans ⟨fun attended c same => ?_, fun attended => attended call running⟩
    obtain rfl : call = c := Option.some.inj (running.symm.trans same)
    exact attended
  | transmitStatus vector =>
    obtain ⟨xmit, pace⟩ := r56Interrupt_transmitStatus vector
    have count := congrArg Xmit.holding xmit
    have stopped := congrArg Prod.snd pace
    exact ⟨fun none free => count.symm.trans (none (congrArg Prod.fst pace) (stopped.trans free)),
      fun attended _ free => count.trans (attended (stopped.symm.trans free))⟩
  | transmitDma armed vector transmit =>
    obtain ⟨xmit, pace⟩ := r56Interrupt_transmitDma vector transmit
    exact iff_of_true (noneWaiting_of_pace pace (xmit_fewer xmit) inv) trivial
  | flow => exact ⟨fun none free idle => none idle free, fun attended idle free => attended free idle⟩

/-- From a port in RAW mode with nothing loaded or held back, in every run in which the calls that find the
transmitter idle find nothing collected and nothing held back: the frames handed over are the accepted ones in order and
none is left waiting, exactly when a frame is held back only for a busy transmitter and none is there when it becomes
idle. -/
theorem raw_writes_in_order {info : R56Struct} {run : List (RawEvent × RawState)}
    (raw : info.params.mode = r56ModeRaw) (none : info.history.loads = []) (empty : info.txHoldingCount = 0)
    (start : info.getTxHoldingIndex = 0 ∧ info.putTxHoldingIndex = 0) (steps : Run RawStep { info := info } run)
    (inOrder : Run (fun s event _ => RawInOrder s event) { info := info } run) :
    (∀ x ∈ run, RawGood x.2) ↔ Run (fun s event _ => RawAttended s event) { info := info } run := by
  have holding : info.xmit.holding = 0 := empty
  have get : info.xmit.get = 0 := start.1
  have put : info.xmit.put = 0 := start.2
  have queued : info.xmit.Queued := by
    refine ⟨by omega, fun some => by omega, fun some => ?_⟩
    rw [put, get, holding]
    exact (CircularBuffer.cell_zero some).symm
  have loads : info.xmit.loads = [] := none
  have ledger : Ledger info.xmit .none [] := by
    refine ⟨raw, queued, ?_, ?_, nofun⟩
    · have held : (finished .none info.xmit).held = [] := held_eq_nil holding
      rw [loads, held]
      rfl
    · rw [loads]
      exact nofun
  have preserved : ∀ s event t, Ledger s.info.xmit s.call s.accepted → RawStep s event t ∧ RawInOrder s event →
      Ledger t.info.xmit t.call t.accepted := fun s event t inv step => rawStep_ledger inv step.1 step.2
  have exact_step : ∀ s event t, RawGood s → Ledger s.info.xmit s.call s.accepted →
      RawStep s event t ∧ RawInOrder s event → (RawGood t ↔ RawAttended s event) := by
    intro s event t good inv step
    rw [(rawStep_ledger inv step.1 step.2).good_iff]
    exact rawStep_noneWaiting inv.mode good.noneWaiting step.1
  have good : RawGood { info := info } := Ledger.good_iff ledger |>.mpr fun _ _ => empty
  exact Run.good_iff exact_step preserved (run_and.mpr ⟨steps, inOrder⟩) good ledger

/-- The steps of the call in progress, uninterrupted. -/
def writeRun : Nat → RawState → List (RawEvent × RawState)
  | 0, _ => []
  | fuel + 1, s =>
    match s.call with
    | none => []
    | some call =>
      let t : RawState :=
        { info := (writeStep s.info call).1
          call := (writeStep s.info call).2.getLeft?
          accepted := acceptedAfter s call }
      (.step, t) :: writeRun fuel t

theorem writeRun_run (fuel : Nat) (s : RawState) : Run RawStep s (writeRun fuel s) := by
  induction fuel generalizing s with
  | zero => trivial
  | succ fuel ih =>
    unfold writeRun
    split
    · trivial
    · rename_i call running
      exact ⟨.step running, ih _⟩

/-- The interrupt for the end of a transmit DMA buffer. -/
def txBufferEmptied : UscReport where
  status reg := if reg = .divr then bit10 else if reg = .tdmr then bit2 else 0

/-- A port in RAW mode with two transmit DMA frames and two holding buffers. -/
def rawPair : R56Struct :=
  r56SetParams { openedDevice with numTxDmaBuffers := 2, numTxHoldingBuffers := 2, txBufferCount := 2 }
    { openedDevice.params with mode := r56ModeRaw }

/-- Three writes, the second loaded behind the first and the third held back until the buffer of the first is empty, and
then the end of the transmission. -/
theorem raw_writes_in_order_three :
    let first : RawState := { info := rawPair, call := some ⟨.enter, fun _ => 0x7d, 1, 0⟩ }
    let sending := last first (writeRun 7 first)
    let second : RawState := { sending with call := some ⟨.enter, fun _ => 0x7e, 1, 0⟩ }
    let following := last second (writeRun 7 second)
    let third : RawState := { following with call := some ⟨.enter, fun _ => 0x7f, 1, 0⟩ }
    let holding := last third (writeRun 7 third)
    let emptied : RawState := { holding with info := r56Interrupt (holding.info.reporting txBufferEmptied) }
    let ended : RawState := { emptied with info := r56Interrupt (emptied.info.reporting frameSent) }
    let run := (RawEvent.call (fun _ => 0x7d) 1, first) :: (writeRun 7 first ++
      (.call (fun _ => 0x7e) 1, second) :: (writeRun 7 second ++ (.call (fun _ => 0x7f) 1, third) :: (writeRun 7 third ++
        [(.transmitDma txBufferEmptied, emptied), (.transmitStatus frameSent, ended)])))
    (∀ x ∈ run, RawGood x.2) ∧ holding.info.txHoldingCount = 1 ∧
      ended.accepted = [[0x7d], [0x7e], [0x7f]] ∧ ended.info.txActive = false ∧
      ended.info.history.loads = [(.write, [0x7d]), (.holding, [0x7e]), (.holding, [0x7f])] := by
  intro first sending second following third holding emptied ended run
  have free : sending.call = none := Option.isNone_iff_eq_none.mp (by decide)
  have free' : following.call = none := Option.isNone_iff_eq_none.mp (by decide)
  have steps : Run RawStep { info := rawPair } run := by
    refine ⟨.call rfl (by decide), run_append.mpr ⟨writeRun_run 7 first, .call free (by decide), ?_⟩⟩
    refine run_append.mpr ⟨writeRun_run 7 second, .call free' (by decide), ?_⟩
    exact run_append.mpr ⟨writeRun_run 7 third, .transmitDma ⟨by decide, by decide⟩ (by decide) (by decide),
      .transmitStatus (by decide), trivial⟩
  have inOrder : Run (fun s event _ => RawInOrder s event) { info := rawPair } run := by decide +kernel
  have attended : Run (fun s event _ => RawAttended s event) { info := rawPair } run := by decide +kernel
  have good := raw_writes_in_order (by decide) (by decide) (by decide) (by decide) steps inOrder
  exact ⟨good.mpr attended, by decide +kernel, by decide +kernel, by decide +kernel, by decide +kernel⟩

/-- A port in RAW mode with one transmit DMA frame and one holding buffer. -/
def rawDevice : R56Struct :=
  { r56SetParams openedDevice { openedDevice.params with mode := r56ModeRaw } with numTxHoldingBuffers := 1 }

/-- Two writes, the second held back, and the end of the first frame: the second is left waiting. -/
theorem held_frame_left :
    let first : RawState := { info := rawDevice, call := some ⟨.enter, fun _ => 0x7e, 1, 0⟩ }
    let sending := last first (writeRun 7 first)
    let second : RawState := { sending with call := some ⟨.enter, fun _ => 0x7f, 1, 0⟩ }
    let holding := last second (writeRun 7 second)
    let ended : RawState := { holding with info := r56Interrupt (holding.info.reporting frameSent) }
    let run := (RawEvent.call (fun _ => 0x7e) 1, first) :: (writeRun 7 first ++
      (.call (fun _ => 0x7f) 1, second) :: (writeRun 7 second ++ [(.transmitStatus frameSent, ended)]))
    rawDevice.params.mode = r56ModeRaw ∧ rawDevice.txHoldingCount = 0 ∧
      Run RawStep { info := rawDevice } run ∧ ¬∀ x ∈ run, RawGood x.2 := by
  intro first sending second holding ended run
  have free : sending.call = none := Option.isNone_iff_eq_none.mp (by decide)
  have runs : Run RawStep { info := rawDevice } run := by
    refine ⟨.call rfl (by decide), run_append.mpr ⟨writeRun_run 7 first, .call free (by decide), ?_⟩⟩
    exact run_append.mpr ⟨writeRun_run 7 second, .transmitStatus (by decide), trivial⟩
  refine ⟨by decide, by decide, runs, fun good => ?_⟩
  have member : (RawEvent.transmitStatus frameSent, ended) ∈ run := by
    refine List.mem_cons_of_mem _ (List.mem_append_right _ (List.mem_cons_of_mem _ (List.mem_append_right _ ?_)))
    exact List.mem_singleton_self _
  have waiting := (good _ member).noneWaiting (by decide) (by decide)
  exact absurd waiting (by decide)

end Route56
