import Route56.BottomHalf

namespace Route56

open Transition

/-- The statements of `startup` before it claims resources. -/
def startupBegin (info : R56Struct) : R56Struct := { info with xmitBufPtr := true, pendingBh := 0, icount := {} }

def requestIrq (info : R56Struct) : R56Struct := { info with irqRequested := true }

/-- The buffer counts of `r56_allocate_dma_buffers`, computed as natural numbers. -/
def countDmaBuffers (info : R56Struct) : R56Struct :=
  let buffersPerFrame := info.maxFrameSize / dmaBufferSize + if info.maxFrameSize % dmaBufferSize ≠ 0 then 1 else 0
  let tx := info.numTxDmaBuffers * buffersPerFrame
  let rx := buffersPerFrame * 7 + 6
  { info with
    txBufferCount := tx
    rxBufferCount := if info.busType = .pci ∨ tx + rx > 62 then 62 - tx else rx }

/-- `r56_alloc_buffer_list_memory`, at the physical addresses the memory has. -/
def r56AllocBufferListMemory (info : R56Struct) (physEntry : Nat → U32) : R56Struct :=
  { info with
    rxBufferListPtr := true
    rxBufferList := fun i => { physEntry := physEntry i }
    txBufferList := fun i => { physEntry := physEntry (info.rxBufferCount + i) } }

/-- `r56_alloc_intermediate_rxbuffer_memory`, and the resets that follow it. -/
def r56AllocIntermediateRxbufferMemory (info : R56Struct) : R56Struct :=
  r56ResetTxDmaBuffers (r56ResetRxDmaBuffers { info with intermediateRxbufferPtr := true })

/-- The statements of `startup` after the adapter test. -/
def startupEnd (info : R56Struct) : R56Struct :=
  let info := r56ChangeParams info
  { info with port := { info.port with initialized := true } }

/-- The statements of `shutdown` before it releases resources. -/
def shutdownHardware (info : R56Struct) : R56Struct :=
  let info := { info with txTimer := false, xmitBufPtr := false, usc := uscDisableMasterIrqBit info.usc }
  let info := uscStopTransmitter (uscStopReceiver info)
  let u := uscDisableInterrupts info.usc
    (receiveData + receiveStatus + transmitData + transmitStatus + ioPin + misc)
  let u := uscDisableDmaInterrupts u (dicrMaster + dicrTransmit + dicrReceive)
  let u := uscOutReg u .pcr (uscInReg u .pcr ||| bit15 ||| bit14)
  let u := uscOutReg u .pcr (uscInReg u .pcr ||| bit13 ||| bit12)
  let info := { info with usc := u }
  if ¬info.port.tty ∨ info.tty.cCflag &&& hupcl ≠ 0 then
    uscSetSerialSignals { info with
      serialSignals := info.serialSignals &&& ~~~(serialSignalDtr + serialSignalRts) }
  else info

def freeIrq (info : R56Struct) : R56Struct := { info with irqRequested := false }

/-- `r56_free_dma_buffers`. -/
def r56FreeDmaBuffers (info : R56Struct) : R56Struct := { info with rxBufferListPtr := false }

/-- `r56_free_intermediate_rxbuffer_memory`. -/
def r56FreeIntermediateRxbufferMemory (info : R56Struct) : R56Struct :=
  { info with intermediateRxbufferPtr := false }

/-- The last statement of `shutdown`. -/
def shutdownEnd (info : R56Struct) : R56Struct := { info with port := { info.port with initialized := false } }

/-- How far opening or closing the port has come. -/
inductive Stage
  | closed | begun | irqLine | list | ring | opened | quiet | irqFreed | listFreed
  deriving DecidableEq

/-- The statement groups of an opening and a closing. `fail` stands for the error paths of
`startup` and `r56_claim_resources`, which release what has been claimed. -/
inductive Life
  | requestIrq
  | allocList (physEntry : Nat → U32)
  | allocIntermediate
  | opened
  | fail
  | shutdown
  | freeIrq
  | freeList
  | freeIntermediate

def Life.from : Life → List Stage
  | .requestIrq => [.begun]
  | .allocList _ => [.irqLine]
  | .allocIntermediate => [.list]
  | .opened => [.ring]
  | .fail => [.begun, .irqLine, .list, .ring]
  | .shutdown => [.opened]
  | .freeIrq => [.quiet]
  | .freeList => [.irqFreed]
  | .freeIntermediate => [.listFreed]

def Life.to : Life → Stage
  | .requestIrq => .irqLine
  | .allocList _ => .list
  | .allocIntermediate => .ring
  | .opened => .opened
  | .fail => .quiet
  | .shutdown => .quiet
  | .freeIrq => .irqFreed
  | .freeList => .listFreed
  | .freeIntermediate => .closed

def Life.apply (info : R56Struct) : Life → R56Struct
  | .requestIrq => Route56.requestIrq info
  | .allocList physEntry => r56AllocBufferListMemory (countDmaBuffers info) physEntry
  | .allocIntermediate => r56AllocIntermediateRxbufferMemory info
  | .opened => startupEnd info
  | .fail => info
  | .shutdown => shutdownHardware info
  | .freeIrq => Route56.freeIrq info
  | .freeList => r56FreeDmaBuffers info
  | .freeIntermediate => shutdownEnd (r56FreeIntermediateRxbufferMemory info)

/-- The bottom half, whether a handler is inside `r56_bh_receive`, and the stage of the port. -/
structure PortState where
  bh : BhState
  receiving : Bool := false
  stage : Stage

/-- `rx_buffer_list` and `intermediate_rxbuffer` are not NULL. -/
def Resources.ring (r : Resources) : Prop := r.rxBufferList = true ∧ r.intermediateRxbuffer = true

instance (r : Resources) : Decidable r.ring := inferInstanceAs (Decidable (_ ∧ _))

def PortState.allocated (s : PortState) : Prop := s.bh.info.resources.ring

instance (s : PortState) : Decidable s.allocated := inferInstanceAs (Decidable (Resources.ring _))

inductive PortEvent
  | interrupt (report : UscReport)
  | start
  | action
  | received
  | other (op : Op)
  | program
  | begin
  | life (step : Life)

/-- Steps of the machine. `action` enters `r56_bh_receive` when it takes `BH_RECEIVE`, `received`
leaves it; `program` is a part of `startup` that only tests or programs the chip. -/
inductive PortStep : PortState → PortEvent → PortState → Prop
  | interrupt {s : PortState} (report : UscReport) (line : s.bh.info.irqRequested = true) :
      PortStep s (.interrupt report) { s with bh := s.bh.interrupted report }
  | start {s : PortState} (queued : s.bh.info.taskQueued = true) : PortStep s .start { s with bh := s.bh.started }
  | action {s : PortState} (running : 0 < s.bh.handlers) (free : s.receiving = false) :
      PortStep s .action
        { s with bh := s.bh.acted, receiving := decide ((r56BhAction s.bh.info).2 = bhReceive) }
  | received {s : PortState} {after : R56Struct} (busy : s.receiving = true)
      (ran : exec s.bh.info .bhReceive = some after) :
      PortStep s .received { s with bh := { s.bh with info := after }, receiving := false }
  | other {s : PortState} {op : Op} {after : R56Struct} (apart : ¬op.interrupts) (work : op ≠ .bhReceive)
      (ran : exec s.bh.info op = some after) :
      PortStep s (.other op) { s with bh := { s.bh with info := after } }
  | program {s : PortState} {after : R56Struct} (kept : after.bh = s.bh.info.bh) :
      PortStep s .program { s with bh := { s.bh with info := after } }
  | begin {s : PortState} (closed : s.stage = .closed) :
      PortStep s .begin { s with bh := { s.bh.cleared with info := startupBegin s.bh.info }, stage := .begun }
  | life {s : PortState} (step : Life) (ready : s.stage ∈ step.from) :
      PortStep s (.life step) { s with bh := { s.bh with info := step.apply s.bh.info }, stage := step.to }

/-- The receive action is pending or under way. -/
def PortState.receiveDue (s : PortState) : Prop := s.bh.info.pendingBh.asks .receive = true ∨ s.receiving = true

instance (s : PortState) : Decidable s.receiveDue := inferInstanceAs (Decidable (_ ∨ _))

/-- Steps a handler takes by itself. -/
def PortEvent.handles : PortEvent → Prop
  | .start | .action => True
  | _ => False

/-- The handler, left alone, runs `r56_bh_receive` on an allocated ring only. -/
def PortState.Sound (s : PortState) : Prop :=
  ∀ run : List (PortEvent × PortState), Run PortStep s run → (∀ x ∈ run, x.1.handles) →
    (last s run).receiving = true → (last s run).allocated

/-- The receive memory is not released while the receive action is due, and without it no
interrupt asks for that action. -/
def ringKept (s : PortState) : PortEvent → Prop
  | .interrupt report => ¬s.allocated → ¬(s.bh.info.reporting report).asksReceive
  | .life .freeList => ¬s.receiveDue
  | .life .freeIntermediate => ¬s.receiveDue
  | _ => True

/-- What `PortState.Sound` amounts to. -/
def PortState.safe (s : PortState) : Prop := ¬s.allocated → ¬s.receiveDue

theorem PortState.safe.mono {s t : PortState} (safe : s.safe) (allocated : s.allocated → t.allocated)
    (due : t.receiveDue → s.receiveDue) : t.safe :=
  fun released isDue => safe (fun kept => released (allocated kept)) (due isDue)

theorem shutdownHardware_bh (info : R56Struct) : (shutdownHardware info).bh = info.bh := by
  unfold shutdownHardware
  dsimp only
  split
  · rfl
  · rfl

theorem startupEnd_bh (info : R56Struct) : (startupEnd info).bh = info.bh := r56ChangeParams_bh info

theorem life_bh (info : R56Struct) (step : Life) :
    (step.apply info).bh = { info.bh with resources := (step.apply info).resources } := by
  cases step with
  | opened =>
    have bh := startupEnd_bh info
    exact bh.trans (Bh.ext rfl rfl rfl rfl (congrArg Bh.resources bh).symm)
  | shutdown =>
    have bh := shutdownHardware_bh info
    exact bh.trans (Bh.ext rfl rfl rfl rfl (congrArg Bh.resources bh).symm)
  | _ => rfl

/-- Only the releases take memory away. -/
theorem life_allocated {s : PortState} {step : Life} (list : step ≠ .freeList) (buffer : step ≠ .freeIntermediate)
    (allocated : s.allocated) :
    PortState.allocated { s with bh := { s.bh with info := step.apply s.bh.info }, stage := step.to } := by
  cases step with
  | freeList => exact absurd rfl list
  | freeIntermediate => exact absurd rfl buffer
  | requestIrq => exact allocated
  | allocList physEntry => exact ⟨rfl, allocated.2⟩
  | allocIntermediate => exact ⟨allocated.1, rfl⟩
  | opened =>
    have same : (startupEnd s.bh.info).resources = s.bh.info.resources :=
      congrArg Bh.resources (startupEnd_bh s.bh.info)
    show (startupEnd s.bh.info).resources.ring
    rw [same]
    exact allocated
  | fail => exact allocated
  | shutdown =>
    have same : (shutdownHardware s.bh.info).resources = s.bh.info.resources :=
      congrArg Bh.resources (shutdownHardware_bh s.bh.info)
    show (shutdownHardware s.bh.info).resources.ring
    rw [same]
    exact allocated
  | freeIrq => exact allocated

theorem portStep_inv {s t : PortState} {event : PortEvent} (inv : BhInv s.bh) (step : PortStep s event t) :
    BhInv t.bh := by
  cases step with
  | interrupt report => exact bhStep_inv inv (.interrupt report)
  | start queued => exact bhStep_inv inv (.start queued)
  | action running => exact bhStep_inv inv (.action running)
  | received busy ran => exact bhStep_inv inv (.other id ran)
  | other apart work ran => exact bhStep_inv inv (.other apart ran)
  | program kept => exact inv.of_flags (kept.trans (Bh.ext rfl rfl rfl rfl (congrArg Bh.resources kept).symm))
  | begin =>
    have cleared := bhStep_inv inv .clear
    exact cleared.of_flags rfl
  | life step => exact inv.of_flags (life_bh s.bh.info step)

theorem acted_resources (s : BhState) : s.acted.info.resources = s.info.resources := by
  rcases r56BhAction_bh s.info with ⟨action, asked, acts, bh⟩ | ⟨none, acts, bh⟩
  · exact congrArg Bh.resources bh
  · exact congrArg Bh.resources bh

theorem action_safe {s : PortState} (safe : s.safe) :
    PortState.safe { s with bh := s.bh.acted, receiving := decide ((r56BhAction s.bh.info).2 = bhReceive) } := by
  have resources := acted_resources s.bh
  have kept (allocated : s.allocated) : s.bh.acted.info.resources.ring := by
    rw [resources]
    exact allocated
  refine safe.mono kept fun due => ?_
  rcases r56BhAction_bh s.bh.info with ⟨action, asked, acts, bh⟩ | ⟨none, acts, bh⟩
  · rcases due with pending | receiving
    · have after : s.bh.acted.info.pendingBh = s.bh.info.pendingBh &&& ~~~action.bit := congrArg Bh.pending bh
      have asks : (s.bh.acted.info.pendingBh).asks .receive = true := pending
      rw [after, asks_clear, Bool.and_eq_true] at asks
      exact .inl asks.1
    · have taken : (r56BhAction s.bh.info).2 = bhReceive := of_decide_eq_true receiving
      rw [acts] at taken
      cases action with
      | receive => exact .inl asked
      | transmit => exact absurd taken (by decide)
      | status => exact absurd taken (by decide)
  · rcases due with pending | receiving
    · have after : s.bh.acted.info.pendingBh = s.bh.info.pendingBh := congrArg Bh.pending bh
      have asks : (s.bh.acted.info.pendingBh).asks .receive = true := pending
      rw [after] at asks
      exact .inl asks
    · have taken : (r56BhAction s.bh.info).2 = bhReceive := of_decide_eq_true receiving
      rw [acts] at taken
      exact absurd taken (by decide)

theorem interrupted_due (s : PortState) (report : UscReport) :
    PortState.receiveDue { s with bh := s.bh.interrupted report } ↔
      s.receiveDue ∨ (s.bh.info.reporting report).asksReceive := by
  obtain ⟨bits, -, receive, bh⟩ := r56Interrupt_bh (s.bh.info.reporting report)
  have pending : (s.bh.interrupted report).info.pendingBh = s.bh.info.pendingBh ||| bits :=
    (congrArg Bh.pending bh).trans (interrupted_pending _ _)
  have asks : (s.bh.interrupted report).info.pendingBh.asks .receive = true ↔
      s.bh.info.pendingBh.asks .receive = true ∨ (s.bh.info.reporting report).asksReceive := by
    rw [pending, asks_or, Bool.or_eq_true, receive]
  unfold PortState.receiveDue
  dsimp only
  rw [asks]
  tauto

theorem interrupted_allocated (s : PortState) (report : UscReport) :
    PortState.allocated { s with bh := s.bh.interrupted report } ↔ s.allocated := by
  obtain ⟨bits, -, -, bh⟩ := r56Interrupt_bh (s.bh.info.reporting report)
  have same : (s.bh.interrupted report).info.resources = s.bh.info.resources :=
    (congrArg Bh.resources bh).trans (interrupted_resources _ _)
  unfold PortState.allocated
  dsimp only
  rw [same]

/-- An operation that keeps the flags and the resources keeps the port safe. -/
theorem kept_safe {s : PortState} {after : R56Struct} (safe : s.safe) (kept : after.bh = s.bh.info.bh)
    {receiving : Bool} (continued : receiving = true → s.receiving = true) :
    PortState.safe { s with bh := { s.bh with info := after }, receiving := receiving } := by
  have resources : after.resources = s.bh.info.resources := congrArg Bh.resources kept
  have still (allocated : s.allocated) : after.resources.ring := by
    rw [resources]
    exact allocated
  refine safe.mono still fun due => ?_
  rcases due with pending | busy
  · have same : after.pendingBh = s.bh.info.pendingBh := congrArg Bh.pending kept
    have asks : after.pendingBh.asks .receive = true := pending
    rw [same] at asks
    exact .inl asks
  · exact .inr (continued busy)

theorem life_safe_iff {s : PortState} (safe : s.safe) (step : Life) :
    PortState.safe { s with bh := { s.bh with info := step.apply s.bh.info }, stage := step.to } ↔
      ringKept s (.life step) := by
  have pending : (step.apply s.bh.info).pendingBh = s.bh.info.pendingBh :=
    congrArg Bh.pending (life_bh s.bh.info step)
  have due : PortState.receiveDue { s with bh := { s.bh with info := step.apply s.bh.info }, stage := step.to } ↔
      s.receiveDue := by
    unfold PortState.receiveDue
    dsimp only
    rw [pending]
  by_cases list : step = .freeList
  · subst list
    constructor
    · intro kept isDue
      exact kept (fun allocated => Bool.false_ne_true allocated.1) (due.mpr isDue)
    · intro idle _ isDue
      exact idle (due.mp isDue)
  by_cases buffer : step = .freeIntermediate
  · subst buffer
    constructor
    · intro kept isDue
      exact kept (fun allocated => Bool.false_ne_true allocated.2) (due.mpr isDue)
    · intro idle _ isDue
      exact idle (due.mp isDue)
  have unconditional : ringKept s (.life step) := by
    cases step with
    | freeList => exact absurd rfl list
    | freeIntermediate => exact absurd rfl buffer
    | _ => trivial
  exact iff_of_true (safe.mono (life_allocated list buffer) due.mp) unconditional

/-- Step lemma: a step from a safe state leads to a safe state exactly when it keeps the ring. -/
theorem step_safe_iff {s t : PortState} {event : PortEvent} (safe : s.safe) (step : PortStep s event t) :
    t.safe ↔ ringKept s event := by
  cases step with
  | interrupt report =>
    have due := interrupted_due s report
    have allocated := interrupted_allocated s report
    constructor
    · intro after released asks
      exact after (mt allocated.mp released) (due.mpr (.inr asks))
    · intro kept released isDue
      have before := mt allocated.mpr released
      rcases due.mp isDue with isDue | asks
      · exact safe before isDue
      · exact kept before asks
  | start => exact iff_of_true safe trivial
  | action => exact iff_of_true (action_safe safe) trivial
  | received busy ran => exact iff_of_true (kept_safe safe (exec_bh id ran) fun busy => nomatch busy) trivial
  | other apart work ran => exact iff_of_true (kept_safe safe (exec_bh apart ran) id) trivial
  | program kept => exact iff_of_true (kept_safe safe kept id) trivial
  | begin =>
    refine iff_of_true ?_ trivial
    refine safe.mono id fun due => ?_
    rcases due with pending | busy
    · exact absurd pending (by decide : ¬(U32.asks 0 .receive) = true)
    · exact .inr busy
  | life step => exact life_safe_iff safe step

/-- A safe port stays safe while only the handler runs. -/
theorem handled_safe {s : PortState} {run : List (PortEvent × PortState)} (safe : s.safe)
    (steps : Run PortStep s run) (own : ∀ x ∈ run, x.1.handles) : (last s run).safe := by
  induction run generalizing s with
  | nil => exact safe
  | cons head rest ih =>
    obtain ⟨event, t⟩ := head
    have handles : event.handles := own _ List.mem_cons_self
    have kept : ringKept s event := by
      cases event with
      | start => trivial
      | action => trivial
      | _ => exact absurd handles id
    have next := (step_safe_iff safe steps.1).mpr kept
    exact ih next steps.2 fun x member => own x (List.mem_cons_of_mem _ member)

/-- A running handler that finds the receive action pending enters `r56_bh_receive`. -/
theorem action_receives {s : PortState} (running : 0 < s.bh.handlers) (free : s.receiving = false)
    (asks : s.bh.info.pendingBh.asks .receive = true) (sound : s.Sound) : s.allocated := by
  have taken : (r56BhAction s.bh.info).2 = bhReceive := by
    have receive : s.bh.info.pendingBh &&& bhReceive ≠ 0 := of_decide_eq_true asks
    unfold r56BhAction
    rw [if_pos receive]
  have entered := sound [(.action, _)] ⟨.action running free, trivial⟩ (List.forall_mem_singleton.mpr trivial)
    (decide_eq_true taken)
  have ring : s.bh.acted.info.resources.ring := entered
  rw [acted_resources] at ring
  exact ring

theorem sound_iff_safe {s : PortState} (inv : BhInv s.bh) : s.Sound ↔ s.safe := by
  constructor
  · intro sound released due
    by_cases busy : s.receiving = true
    · exact released (sound [] trivial (List.forall_mem_nil _) busy)
    have free : s.receiving = false := Bool.eq_false_iff.mpr busy
    have asks : s.bh.info.pendingBh.asks .receive = true := due.resolve_right busy
    have pending : s.bh.info.pendingBh ≠ 0 := by
      intro none
      rw [none] at asks
      exact absurd asks (by decide)
    rcases inv.good.scheduled pending with queued | running
    · have started : PortStep s .start { s with bh := s.bh.started } := .start queued
      have soundAfter : PortState.Sound { s with bh := s.bh.started } := by
        intro run steps own
        exact sound ((.start, _) :: run) ⟨started, steps⟩ (List.forall_mem_cons.mpr ⟨trivial, own⟩)
      have running : 0 < s.bh.started.handlers := Nat.succ_pos _
      have allocated := action_receives (s := { s with bh := s.bh.started }) running free asks soundAfter
      exact released allocated
    · exact released (action_receives running free asks sound)
  · intro safe run steps own receiving
    by_contra released
    exact handled_safe safe steps own released (.inr receiving)

/-- Nothing is due on a port whose bottom half is fresh. -/
structure PortState.Fresh (s : PortState) : Prop where
  bh : s.bh.Fresh
  receiving : s.receiving = false

theorem PortState.Fresh.safe {s : PortState} (fresh : s.Fresh) : s.safe := by
  intro _ due
  have pending : s.bh.info.pendingBh = 0 := congrArg Bh.pending fresh.bh.flags
  rcases due with asks | busy
  · rw [pending] at asks
    exact absurd asks (by decide)
  · exact absurd busy (by rw [fresh.receiving]; decide)

/-- If the ring is kept in every step of a run, `r56_bh_receive` only ever runs on an
allocated ring; and a run in which it is not kept reaches a state from which the handler,
left alone, gets to `r56_bh_receive` without a ring. -/
theorem receives_on_allocated_ring {s : PortState} {run : List (PortEvent × PortState)} (fresh : s.Fresh)
    (steps : Run PortStep s run) :
    (Run (fun s event _ => ringKept s event) s run → ∀ x ∈ run, x.2.receiving = true → x.2.allocated) ∧
      ((∀ x ∈ run, x.2.Sound) ↔ Run (fun s event _ => ringKept s event) s run) := by
  have invariant : ∀ x ∈ run, BhInv x.2.bh := by
    have preserved : ∀ s e t, BhInv (PortState.bh s) → PortStep s e t → BhInv t.bh :=
      fun _ _ _ inv step => portStep_inv inv step
    exact Run.invariant preserved steps fresh.bh.inv
  have safeIff : (∀ x ∈ run, x.2.safe) ↔ Run (fun s event _ => ringKept s event) s run :=
    Run.good_iff (fun _ _ _ safe _ step => step_safe_iff safe step) (fun _ _ _ _ _ => trivial) steps fresh.safe trivial
  have soundIff : (∀ x ∈ run, x.2.Sound) ↔ ∀ x ∈ run, x.2.safe := by
    refine forall₂_congr fun x member => ?_
    exact sound_iff_safe (invariant x member)
  refine ⟨fun kept x member receiving => ?_, soundIff.trans safeIff⟩
  have sound := soundIff.mpr (safeIff.mpr kept) x member
  exact sound [] trivial (List.forall_mem_nil _) receiving

/-- The port is open and idle. -/
def openedPort : PortState where
  bh := { info := openedDevice }
  stage := .opened

/-- A receive DMA interrupt. -/
def rxDmaReport : UscReport where
  status reg := if reg = .divr then 0x0600 else 0

theorem openedPort_fresh : openedPort.Fresh := ⟨⟨by decide, rfl, fun _ => ⟨rfl, rfl, rfl⟩⟩, rfl⟩

/-- A receive interrupt on the open port, and the handler that it starts runs `r56_bh_receive`. -/
theorem receives_on_allocated_ring_interrupted :
    let interrupted := { openedPort with bh := openedPort.bh.interrupted rxDmaReport }
    let started := { interrupted with bh := interrupted.bh.started }
    let receives := { started with bh := started.bh.acted, receiving := true }
    receives.allocated ∧ ∃ after, exec receives.bh.info .bhReceive = some after ∧
      interrupted.Sound ∧ started.Sound ∧ receives.Sound ∧
      { receives with bh := { receives.bh with info := after }, receiving := false }.Sound := by
  intro interrupted started receives
  have line : openedPort.bh.info.irqRequested = true := by decide
  have queued : interrupted.bh.info.taskQueued = true := by decide
  have taken : decide ((r56BhAction started.bh.info).2 = bhReceive) = true := by decide
  have action := PortStep.action (s := started) (Nat.succ_pos _) rfl
  rw [taken] at action
  have returns : (exec receives.bh.info .bhReceive).isSome = true := by decide +kernel
  obtain ⟨after, ran⟩ := Option.isSome_iff_exists.mp returns
  have kept : ¬openedPort.allocated → ¬(openedPort.bh.info.reporting rxDmaReport).asksReceive :=
    fun released => absurd (by decide) released
  have steps : Run PortStep openedPort [(.interrupt rxDmaReport, interrupted), (.start, started), (.action, receives),
      (.received, { receives with bh := { receives.bh with info := after }, receiving := false })] :=
    ⟨.interrupt rxDmaReport line, .start queued, action, .received (s := receives) rfl ran, trivial⟩
  obtain ⟨allocated, sound⟩ := receives_on_allocated_ring openedPort_fresh steps
  have safe := sound.mpr ⟨kept, trivial, trivial, trivial, trivial⟩
  have receiving := allocated ⟨kept, trivial, trivial, trivial, trivial⟩ _ (.tail _ (.tail _ List.mem_cons_self)) rfl
  exact ⟨receiving, after, ran, safe _ List.mem_cons_self, safe _ (.tail _ List.mem_cons_self),
    safe _ (.tail _ (.tail _ List.mem_cons_self)), safe _ (.tail _ (.tail _ (.tail _ List.mem_cons_self)))⟩

/-- A receive interrupt queues work, the port is closed, and then the handler runs. -/
theorem released_ring_received :
    let interrupted := { openedPort with bh := openedPort.bh.interrupted rxDmaReport }
    let applied (s : PortState) (step : Life) : PortState :=
      { s with bh := { s.bh with info := step.apply s.bh.info }, stage := step.to }
    let quiet := applied interrupted .shutdown
    let irqFreed := applied quiet .freeIrq
    let listFreed := applied irqFreed .freeList
    let closed := applied listFreed .freeIntermediate
    let started := { closed with bh := closed.bh.started }
    let received := { started with bh := started.bh.acted, receiving := true }
    openedPort.Fresh ∧
      Run PortStep openedPort [(.interrupt rxDmaReport, interrupted), (.life .shutdown, quiet),
        (.life .freeIrq, irqFreed), (.life .freeList, listFreed), (.life .freeIntermediate, closed),
        (.start, started), (.action, received)] ∧
      received.receiving = true ∧ ¬received.allocated := by
  intro interrupted applied quiet irqFreed listFreed closed started received
  have line : openedPort.bh.info.irqRequested = true := by decide
  have queued : closed.bh.info.taskQueued = true := by decide
  have taken : decide ((r56BhAction started.bh.info).2 = bhReceive) = true := by decide
  have action := PortStep.action (s := started) (Nat.succ_pos _) rfl
  rw [taken] at action
  have opened : openedPort.stage ∈ Life.shutdown.from := by decide
  refine ⟨openedPort_fresh, ⟨.interrupt rxDmaReport line, .life .shutdown opened, .life .freeIrq (by decide),
    .life .freeList (by decide), .life .freeIntermediate (by decide), .start queued, action, trivial⟩, rfl, by decide⟩

end Route56
