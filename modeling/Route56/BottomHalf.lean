import Route56.BhFlags
import Route56.Lib.Transition

namespace Route56

open Transition

/-- The flags, the handler runs that have not yet returned 0 from `r56_bh_action`, and what
became of each action: how often it was raised, consumed and reset. -/
structure BhState where
  info : R56Struct
  handlers : Nat := 0
  raised : Action → Nat := fun _ => 0
  consumed : Action → Nat := fun _ => 0
  reset : Action → Nat := fun _ => 0

/-- Steps of the machine. `start` dequeues the work item and sets `bh_running`; `other` is any
operation besides the interrupt handler, the work a handler does for an action included;
`clear` is the statement of `startup`. -/
inductive BhEvent
  | interrupt (report : UscReport)
  | start
  | action
  | other (op : Op)
  | clear

/-- Count an action whose bit is newly set. -/
def countRaised (before after : U32) (raised : Action → Nat) (action : Action) : Nat :=
  if after.asks action ∧ ¬before.asks action then raised action + 1 else raised action

def countAsked (pending : U32) (counts : Action → Nat) (action : Action) : Nat :=
  if pending.asks action then counts action + 1 else counts action

def BhState.interrupted (s : BhState) (report : UscReport) : BhState :=
  let after := r56Interrupt (s.info.reporting report)
  { s with info := after, raised := countRaised s.info.pendingBh after.pendingBh s.raised }

def BhState.started (s : BhState) : BhState :=
  { s with info := { s.info with taskQueued := false, bhRunning := true }, handlers := s.handlers + 1 }

def BhState.acted (s : BhState) : BhState :=
  let (after, action) := r56BhAction s.info
  { s with
    info := after
    handlers := if action = 0 then s.handlers - 1 else s.handlers
    consumed := countAsked action s.consumed }

def BhState.cleared (s : BhState) : BhState :=
  { s with info := { s.info with pendingBh := 0 }, reset := countAsked s.info.pendingBh s.reset }

inductive BhStep : BhState → BhEvent → BhState → Prop
  | interrupt {s : BhState} (report : UscReport) : BhStep s (.interrupt report) (s.interrupted report)
  | start {s : BhState} (queued : s.info.taskQueued = true) : BhStep s .start s.started
  | action {s : BhState} (running : 0 < s.handlers) : BhStep s .action s.acted
  | other {s : BhState} {op : Op} {after : R56Struct} (apart : ¬op.interrupts)
      (ran : exec s.info op = some after) : BhStep s (.other op) { s with info := after }
  | clear {s : BhState} : BhStep s .clear s.cleared

/-- No work is stranded, none is lost or done twice, and an idle bottom half is not requested. -/
structure BhGood (s : BhState) : Prop where
  scheduled : s.info.pendingBh ≠ 0 → s.info.taskQueued = true ∨ 0 < s.handlers
  accounted : ∀ action, s.raised action =
    s.consumed action + s.reset action + if s.info.pendingBh.asks action then 1 else 0
  idle : s.info.taskQueued = false → s.handlers = 0 → s.info.bhRequested = false

/-- The three phases of the bottom half: idle, queued, running. -/
inductive BhPhase (s : BhState) : Prop
  | idle (queued : s.info.taskQueued = false) (handlers : s.handlers = 0) (requested : s.info.bhRequested = false)
      (running : s.info.bhRunning = false) (none : s.info.pendingBh = 0)
  | queued (queued : s.info.taskQueued = true) (handlers : s.handlers = 0) (requested : s.info.bhRequested = true)
  | running (queued : s.info.taskQueued = false) (handlers : s.handlers = 1) (requested : s.info.bhRequested = true)
      (running : s.info.bhRunning = true)

structure BhInv (s : BhState) : Prop where
  phase : BhPhase s
  known : s.info.pendingBh &&& bhActions = s.info.pendingBh
  accounted : ∀ action, s.raised action =
    s.consumed action + s.reset action + if s.info.pendingBh.asks action then 1 else 0

theorem BhInv.good {s : BhState} (inv : BhInv s) : BhGood s := by
  refine ⟨fun pending => ?_, inv.accounted, fun queued handlers => ?_⟩
  · cases inv.phase with
    | idle _ _ _ _ none => exact absurd none pending
    | queued queued => exact .inl queued
    | running _ handlers => exact .inr (by omega)
  · cases inv.phase with
    | idle _ _ requested => exact requested
    | queued here => exact absurd here (by rw [queued]; decide)
    | running _ one => omega

theorem interrupted_inv {s : BhState} (report : UscReport) (inv : BhInv s) : BhInv (s.interrupted report) := by
  obtain ⟨bits, actions, -, raised⟩ := r56Interrupt_bh (s.info.reporting report)
  unfold BhState.interrupted
  generalize r56Interrupt (s.info.reporting report) = after at raised ⊢
  have bh : after.bh = s.info.bh.interrupted bits := raised
  have pending : after.pendingBh = s.info.pendingBh ||| bits := (congrArg Bh.pending bh).trans (interrupted_pending _ _)
  refine ⟨?_, ?_, fun action => ?_⟩
  · unfold Bh.interrupted at bh
    cases inv.phase with
    | idle queued handlers requested running none =>
      by_cases some : s.info.bh.pending ||| bits ≠ 0
      · rw [if_pos ⟨some, running, requested⟩] at bh
        exact .queued (congrArg Bh.queued bh) handlers (congrArg Bh.requested bh)
      · rw [if_neg fun h => some h.1] at bh
        exact .idle ((congrArg Bh.queued bh).trans queued) handlers ((congrArg Bh.requested bh).trans requested)
          ((congrArg Bh.running bh).trans running) (pending.trans (not_not.mp some))
    | queued queued handlers requested =>
      have busy : s.info.bh.requested = true := requested
      rw [if_neg fun h => absurd h.2.2 (by rw [busy]; decide)] at bh
      exact .queued ((congrArg Bh.queued bh).trans queued) handlers ((congrArg Bh.requested bh).trans requested)
    | running queued handlers requested running =>
      have busy : s.info.bh.running = true := running
      rw [if_neg fun h => absurd h.2.1 (by rw [busy]; decide)] at bh
      exact .running ((congrArg Bh.queued bh).trans queued) handlers ((congrArg Bh.requested bh).trans requested)
        ((congrArg Bh.running bh).trans running)
  · show after.pendingBh &&& bhActions = after.pendingBh
    rw [pending, BitVec.and_or_distrib_right, inv.known, actions]
  · have before := inv.accounted action
    show countRaised s.info.pendingBh after.pendingBh s.raised action =
      s.consumed action + s.reset action + if after.pendingBh.asks action then 1 else 0
    rw [pending, countRaised, asks_or]
    cases asked : s.info.pendingBh.asks action with
    | true =>
      rw [asked] at before
      simpa using before
    | false =>
      rw [asked] at before
      cases new : bits.asks action with
      | true => simpa using before
      | false => simpa using before

theorem acted_inv {s : BhState} (running : 0 < s.handlers) (inv : BhInv s) : BhInv s.acted := by
  obtain ⟨queued, handlers, requested, run⟩ : s.info.taskQueued = false ∧ s.handlers = 1 ∧
      s.info.bhRequested = true ∧ s.info.bhRunning = true := by
    cases inv.phase with
    | idle _ none => omega
    | queued _ none => omega
    | running queued handlers requested running => exact ⟨queued, handlers, requested, running⟩
  have cases := r56BhAction_bh s.info
  unfold BhState.acted
  generalize r56BhAction s.info = result at cases ⊢
  obtain ⟨after, act⟩ := result
  rcases cases with ⟨action, asked, acts, bh⟩ | ⟨none, acts, bh⟩
  · have returned : act = action.bit := acts
    have pending : after.pendingBh = s.info.pendingBh &&& ~~~action.bit := congrArg Bh.pending bh
    have goesOn : act ≠ 0 := by
      rw [returned]
      cases action <;> decide
    dsimp only
    rw [if_neg goesOn]
    refine ⟨.running ((congrArg Bh.queued bh).trans queued) handlers ((congrArg Bh.requested bh).trans requested)
      ((congrArg Bh.running bh).trans run), ?_, fun other => ?_⟩
    · show after.pendingBh &&& bhActions = after.pendingBh
      rw [pending, BitVec.and_assoc, BitVec.and_comm _ bhActions, ← BitVec.and_assoc, inv.known]
    · have before := inv.accounted other
      show s.raised other =
        countAsked act s.consumed other + s.reset other + if after.pendingBh.asks other then 1 else 0
      rw [returned, countAsked, asks_bit, pending, asks_clear]
      by_cases same : other = action
      · rw [same, asked] at before
        rw [same]
        simp only [if_true] at before
        simp
        omega
      · simpa [same] using before
  · have returned : act = 0 := acts
    have empty : s.info.pendingBh = 0 := pending_eq_zero inv.known none
    have pending : after.pendingBh = s.info.pendingBh := congrArg Bh.pending bh
    dsimp only
    rw [if_pos returned]
    refine ⟨.idle ((congrArg Bh.queued bh).trans queued) ?_ (congrArg Bh.requested bh) (congrArg Bh.running bh)
      (pending.trans empty), ?_, fun other => ?_⟩
    · show s.handlers - 1 = 0
      omega
    · show after.pendingBh &&& bhActions = after.pendingBh
      rw [pending, inv.known]
    · have before := inv.accounted other
      show s.raised other =
        countAsked act s.consumed other + s.reset other + if after.pendingBh.asks other then 1 else 0
      have unasked : U32.asks 0 other = false := by cases other <;> rfl
      rw [returned, countAsked, unasked, pending]
      exact before

/-- The invariant is about the flags. -/
theorem BhInv.of_flags {s : BhState} {info : R56Struct}
    (same : info.bh = { s.info.bh with resources := info.resources }) (inv : BhInv s) :
    BhInv { s with info := info } := by
  have pending : info.pendingBh = s.info.pendingBh := congrArg Bh.pending same
  have queued : info.taskQueued = s.info.taskQueued := congrArg Bh.queued same
  have requested : info.bhRequested = s.info.bhRequested := congrArg Bh.requested same
  have running : info.bhRunning = s.info.bhRunning := congrArg Bh.running same
  refine ⟨?_, ?_, fun action => ?_⟩
  · cases inv.phase with
    | idle isQueued handlers isRequested isRunning none =>
      exact .idle (queued.trans isQueued) handlers (requested.trans isRequested) (running.trans isRunning)
        (pending.trans none)
    | queued isQueued handlers isRequested =>
      exact .queued (queued.trans isQueued) handlers (requested.trans isRequested)
    | running isQueued handlers isRequested isRunning =>
      exact .running (queued.trans isQueued) handlers (requested.trans isRequested) (running.trans isRunning)
  · show info.pendingBh &&& bhActions = info.pendingBh
    rw [pending]
    exact inv.known
  · show s.raised action = s.consumed action + s.reset action + if info.pendingBh.asks action then 1 else 0
    rw [pending]
    exact inv.accounted action

/-- Step lemma. -/
theorem bhStep_inv {s t : BhState} {event : BhEvent} (inv : BhInv s) (step : BhStep s event t) : BhInv t := by
  cases step with
  | interrupt report => exact interrupted_inv report inv
  | start queued =>
    refine ⟨?_, inv.known, inv.accounted⟩
    cases inv.phase with
    | idle idle => exact absurd queued (by rw [idle]; decide)
    | queued _ handlers requested => exact .running rfl (congrArg (· + 1) handlers) requested rfl
    | running idle => exact absurd queued (by rw [idle]; decide)
  | action running => exact acted_inv running inv
  | other apart ran =>
    have bh := exec_bh apart ran
    have resources := congrArg Bh.resources bh
    exact inv.of_flags (bh.trans (Bh.ext rfl rfl rfl rfl resources.symm))
  | clear =>
    have nothing : (0 : U32) &&& bhActions = 0 := by decide
    refine ⟨?_, nothing, fun action => ?_⟩
    · cases inv.phase with
      | idle queued handlers requested running => exact .idle queued handlers requested running rfl
      | queued queued handlers requested => exact .queued queued handlers requested
      | running queued handlers requested running => exact .running queued handlers requested running
    · have before := inv.accounted action
      have unasked : U32.asks 0 action = false := by cases action <;> rfl
      show s.raised action =
        s.consumed action + countAsked s.info.pendingBh s.reset action + if U32.asks 0 action then 1 else 0
      rw [unasked, countAsked]
      cases asked : s.info.pendingBh.asks action with
      | true =>
        rw [asked] at before
        simp only [if_true] at before
        simp
        omega
      | false =>
        rw [asked] at before
        simpa using before

theorem run_inv {s : BhState} {run : List (BhEvent × BhState)} (inv : BhInv s) (steps : Run BhStep s run) :
    ∀ x ∈ run, BhInv x.2 := by
  have preserved : ∀ s e t, BhInv s → BhStep s e t → BhInv t := fun _ _ _ inv step => bhStep_inv inv step
  exact Run.invariant preserved steps inv

/-- Steps a handler takes by itself. -/
def BhEvent.handles : BhEvent → Prop
  | .start | .action => True
  | _ => False

/-- The handler, left alone, consumes each action that is pending once and nothing else. -/
def Drains (s : BhState) : Prop :=
  ∃ run : List (BhEvent × BhState), Run BhStep s run ∧ (∀ x ∈ run, x.1.handles) ∧
    (last s run).info.pendingBh = 0 ∧ (last s run).consumed = countAsked s.info.pendingBh s.consumed

/-- The number of actions asked for. -/
def U32.asked (pending : U32) : Nat :=
  (pending.asks .receive).toNat + (pending.asks .transmit).toNat + (pending.asks .status).toNat

theorem asked_clear {pending : U32} {action : Action} (asked : pending.asks action = true) :
    (pending &&& ~~~action.bit).asked < pending.asked := by
  unfold U32.asked
  rw [asks_clear, asks_clear, asks_clear]
  cases action with
  | receive => simp [asked]
  | transmit => simp [asked]
  | status => simp [asked]

theorem countAsked_zero (counts : Action → Nat) : countAsked 0 counts = counts := by
  funext action
  cases action <;> rfl

/-- Consuming one of the pending actions and then the others consumes them all. -/
theorem countAsked_clear {pending : U32} {action : Action} (asked : pending.asks action = true)
    (counts : Action → Nat) :
    countAsked (pending &&& ~~~action.bit) (countAsked action.bit counts) = countAsked pending counts := by
  funext other
  unfold countAsked
  rw [asks_clear, asks_bit]
  by_cases same : other = action
  · simp [same, asked]
  · simp [same]

/-- A step of the handler comes before the rest of a run that consumes what is pending. -/
theorem Drains.prepend {s t : BhState} {event : BhEvent} (step : BhStep s event t) (own : event.handles)
    (counts : countAsked t.info.pendingBh t.consumed = countAsked s.info.pendingBh s.consumed)
    (drains : Drains t) : Drains s := by
  obtain ⟨run, steps, handles, drained, consumed⟩ := drains
  exact ⟨(event, t) :: run, ⟨step, steps⟩, List.forall_mem_cons.mpr ⟨own, handles⟩, drained, consumed.trans counts⟩

theorem Drains.of_empty {s : BhState} (empty : s.info.pendingBh = 0) : Drains s := by
  refine ⟨[], trivial, List.forall_mem_nil _, empty, ?_⟩
  rw [empty, countAsked_zero]
  rfl

/-- A running handler consumes one of the actions asked for. -/
theorem action_consumes {s : BhState} (running : 0 < s.handlers) {action : Action}
    (acts : (r56BhAction s.info).2 = action.bit)
    (bh : (r56BhAction s.info).1.bh = { s.info.bh with pending := s.info.pendingBh &&& ~~~action.bit }) :
    ∃ t, BhStep s .action t ∧ t.handlers = s.handlers ∧
      t.info.pendingBh = s.info.pendingBh &&& ~~~action.bit ∧ t.consumed = countAsked action.bit s.consumed := by
  have goesOn : (r56BhAction s.info).2 ≠ 0 := by
    rw [acts]
    cases action <;> decide
  have pending := congrArg Bh.pending bh
  refine ⟨_, .action running, if_neg goesOn, pending, ?_⟩
  rw [← acts]
  rfl

theorem running_drains {s : BhState} (inv : BhInv s) (running : 0 < s.handlers) : Drains s := by
  -- by induction on the number of actions asked for: each step consumes one of them
  induction count : s.info.pendingBh.asked using Nat.strong_induction_on generalizing s with
  | _ n ih =>
    rcases r56BhAction_bh s.info with ⟨action, asked, acts, bh⟩ | ⟨none, -, -⟩
    · obtain ⟨t, step, handlers, pending, consumed⟩ := action_consumes running acts bh
      have fewer : t.info.pendingBh.asked < n := by
        rw [pending, ← count]
        exact asked_clear asked
      have rest := ih _ fewer (bhStep_inv inv step) (by omega) rfl
      refine rest.prepend step trivial ?_
      rw [pending, consumed, countAsked_clear asked]
    · exact .of_empty (pending_eq_zero inv.known none)

theorem BhInv.drains {s : BhState} (inv : BhInv s) : Drains s := by
  cases inv.phase with
  | idle _ _ _ _ none => exact .of_empty none
  | queued queued =>
    have step := BhStep.start queued
    exact (running_drains (bhStep_inv inv step) (Nat.succ_pos _)).prepend step trivial rfl
  | running _ handlers => exact running_drains inv (by omega)

/-- A device that has just been opened has nothing pending and no handler due. -/
structure BhState.Fresh (s : BhState) : Prop where
  flags : s.info.bh = { s.info.bh with pending := 0, running := false, requested := false, queued := false }
  handlers : s.handlers = 0
  counts : ∀ action, s.raised action = 0 ∧ s.consumed action = 0 ∧ s.reset action = 0

theorem BhState.Fresh.inv {s : BhState} (fresh : s.Fresh) : BhInv s := by
  have pending : s.info.pendingBh = 0 := congrArg Bh.pending fresh.flags
  refine ⟨.idle (congrArg Bh.queued fresh.flags) fresh.handlers (congrArg Bh.requested fresh.flags)
    (congrArg Bh.running fresh.flags) pending, ?_, fun action => ?_⟩
  · rw [pending]
    rfl
  · have unasked : U32.asks 0 action = false := by cases action <;> rfl
    obtain ⟨raised, consumed, reset⟩ := fresh.counts action
    rw [raised, consumed, reset, pending, unasked]
    rfl

/-- No work is stranded or lost: in every state of every run of interrupts, handler starts,
actions, other operations and openings, what is pending has a handler due, each raised
action has been consumed once or reset or is pending, an idle bottom half is not
requested, and the handlers due consume what is pending. -/
theorem no_work_stranded {s : BhState} {run : List (BhEvent × BhState)} (fresh : s.Fresh)
    (steps : Run BhStep s run) : ∀ x ∈ run, BhGood x.2 ∧ Drains x.2 := by
  intro x member
  have inv := run_inv fresh.inv steps x member
  exact ⟨inv.good, inv.drains⟩

/-- A frame has been sent, the handler starts, takes the action and returns. -/
theorem no_work_stranded_sent :
    let opened : BhState := { info := openedDevice }
    let sent := opened.interrupted frameSent
    ∀ x ∈ [(BhEvent.interrupt frameSent, sent), (.start, sent.started), (.action, sent.started.acted),
      (.action, sent.started.acted.acted)], BhGood x.2 ∧ Drains x.2 := by
  intro opened sent
  have fresh : opened.Fresh := ⟨by decide, rfl, fun _ => ⟨rfl, rfl, rfl⟩⟩
  have queued : sent.info.taskQueued = true := by decide
  have running : 0 < sent.started.acted.handlers := by decide
  exact no_work_stranded fresh ⟨.interrupt _, .start queued, .action (Nat.succ_pos _), .action running, trivial⟩

end Route56
