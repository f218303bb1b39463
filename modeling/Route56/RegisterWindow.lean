import Route56.Usc
import Route56.Lib.Transition

namespace Route56

open Transition

/-- Bits 7 and 6 of the port at `io_base` of the R561 choose what is behind the window: here the registers of the
16C32, with bit 6 set the buffer memory. -/
def registersSelected (port : U8) : Prop := port &&& 0x80 ≠ 0 ∧ port &&& 0x40 = 0

def ramSelected (port : U8) : Prop := port &&& 0x80 ≠ 0 ∧ port &&& 0x40 ≠ 0

instance (port : U8) : Decidable (registersSelected port) := inferInstanceAs (Decidable (_ ∧ _))

instance (port : U8) : Decidable (ramSelected port) := inferInstanceAs (Decidable (_ ∧ _))

/-- A call of `usc_InReg` or `usc_OutReg`, or an access to a ring entry or a data buffer. -/
inductive WindowUse
  | inReg
  | outReg
  | memory
  deriving DecidableEq

/-- An access through the window, with the port at that time. -/
structure WindowAccess where
  use : WindowUse
  port : U8
  deriving DecidableEq

def WindowAccess.good (access : WindowAccess) : Prop :=
  match access.use with
  | .memory => ramSelected access.port
  | _ => registersSelected access.port

/-- The next access of a call of `usc_InReg` or `usc_OutReg`, with the local variables `temp` and
`NeedsChanged`. -/
inductive RegPc
  | snapshot
  | select (temp : U8)
  | readSelect (temp : U8)
  | access (temp : U8) (needsChanged : Bool)
  | restore (temp : U8)
  | readRestore
  deriving DecidableEq

/-- One access of a call: the port after it, the accesses through the window, and how the call goes on. -/
def regStep (use : WindowUse) (port : U8) : RegPc → U8 × List WindowAccess × Option RegPc
  | .snapshot =>
    let temp := port
    if temp &&& 0x80 = 0 ∨ temp &&& 0x40 ≠ 0 then (port, [], some (.select ((temp ||| 0x80) &&& ~~~0x40)))
    else (port, [], some (.access temp false))
  | .select temp => (temp, [], some (.readSelect temp))
  | .readSelect temp => (port, [], some (.access temp true))
  | .access temp needsChanged => (port, [⟨use, port⟩], if needsChanged then some (.restore temp) else none)
  | .restore temp => (temp ||| 0x40, [], some .readRestore)
  | .readRestore => (port, [], none)

/-- A call that nothing interrupts, in at most `fuel` accesses. -/
def regCall (use : WindowUse) : Nat → U8 → RegPc → U8 × List WindowAccess
  | 0, port, _ => (port, [])
  | fuel + 1, port, pc =>
    let (port, accesses, next) := regStep use port pc
    match next with
    | none => (port, accesses)
    | some pc =>
      let (port, rest) := regCall use fuel port pc
      (port, accesses ++ rest)

/-- One use of the window by a handler. -/
def handlerUse (port : U8) (use : WindowUse) : U8 × List WindowAccess :=
  if use = .memory then (port, [⟨.memory, port⟩]) else regCall use 6 port .snapshot

/-- A handler from beginning to end. -/
def runHandler : U8 → List WindowUse → U8 × List WindowAccess
  | port, [] => (port, [])
  | port, use :: rest =>
    let (port, accesses) := handlerUse port use
    let (port, later) := runHandler port rest
    (port, accesses ++ later)

/-- The port, the call the process is in, and all accesses through the window. -/
structure WindowState where
  port : U8
  call : Option (WindowUse × RegPc) := none
  accesses : List WindowAccess := []

inductive WindowEvent
  | begin (use : WindowUse)
  | memory
  | advance
  | handler (uses : List WindowUse)

/-- One access of the process, or a handler between two of them. -/
inductive WindowStep (s : WindowState) : WindowEvent → WindowState → Prop
  | begin {use : WindowUse} (idle : s.call = none) (register : use ≠ .memory) {port : U8}
      {accesses : List WindowAccess} {next : Option RegPc} (ran : regStep use s.port .snapshot = (port, accesses, next)) :
      WindowStep s (.begin use) ⟨port, next.map (use, ·), s.accesses ++ accesses⟩
  | memory (idle : s.call = none) : WindowStep s .memory { s with accesses := s.accesses ++ [⟨.memory, s.port⟩] }
  | advance {use : WindowUse} {pc : RegPc} (call : s.call = some (use, pc)) {port : U8}
      {accesses : List WindowAccess} {next : Option RegPc} (ran : regStep use s.port pc = (port, accesses, next)) :
      WindowStep s .advance ⟨port, next.map (use, ·), s.accesses ++ accesses⟩
  | handler {uses : List WindowUse} {port : U8} {accesses : List WindowAccess}
      (ran : runHandler s.port uses = (port, accesses)) :
      WindowStep s (.handler uses) { s with port := port, accesses := s.accesses ++ accesses }

/-- Every access so far found its window, and the buffer memory is selected between two calls. -/
def WindowState.right (s : WindowState) : Prop :=
  (∀ access ∈ s.accesses, access.good) ∧ (s.call = none → ramSelected s.port)

/-- The process has selected the registers and has not gone back to the buffer memory yet. -/
def WindowState.inWindow (s : WindowState) : Prop :=
  match s.call with
  | some (_, .readSelect _) | some (_, .access _ _) | some (_, .restore _) => True
  | _ => False

/-- A handler that comes while the process has the registers selected uses no buffer memory. -/
def keepsOutOfWindow (s : WindowState) (event : WindowEvent) : Prop :=
  ∀ uses, event = .handler uses → s.inWindow → .memory ∉ uses

theorem registersSelected_select (port : U8) : registersSelected ((port ||| 0x80) &&& ~~~0x40) := by
  revert port
  decide +kernel

theorem ramSelected_restore {temp : U8} (registers : registersSelected temp) : ramSelected (temp ||| 0x40) := by
  revert temp
  decide +kernel

theorem ramSelected_of_set {port : U8} (set : port &&& 0xc0 = 0xc0) : ramSelected port := by
  revert port
  decide +kernel

theorem not_registersSelected {port : U8} (ram : ramSelected port) : ¬registersSelected port :=
  fun registers => ram.2 registers.2

theorem snapshot_ram {port : U8} (ram : ramSelected port) (use : WindowUse) :
    regStep use port .snapshot = (port, [], some (.select ((port ||| 0x80) &&& ~~~0x40))) := if_pos (.inr ram.2)

theorem snapshot_registers {port : U8} (registers : registersSelected port) (use : WindowUse) :
    regStep use port .snapshot = (port, [], some (.access port false)) :=
  if_neg fun change => change.elim registers.1 fun ram => ram registers.2

/-- A call leaves the buffer memory selected if it was, and finds the registers. -/
theorem regCall_ram {port : U8} (ram : ramSelected port) (use : WindowUse) :
    ramSelected (regCall use 6 port .snapshot).1 ∧
      (regCall use 6 port .snapshot).2 = [⟨use, (port ||| 0x80) &&& ~~~0x40⟩] := by
  rw [regCall, snapshot_ram ram]
  exact ⟨ramSelected_restore (registersSelected_select port), rfl⟩

/-- A call that finds the registers selected leaves the port alone. -/
theorem regCall_registers {port : U8} (registers : registersSelected port) (use : WindowUse) :
    regCall use 6 port .snapshot = (port, [⟨use, port⟩]) := by
  rw [regCall, snapshot_registers registers]
  rfl

theorem WindowUse.good_of_register {use : WindowUse} (register : use ≠ .memory) {port : U8}
    (selected : registersSelected port) : (WindowAccess.mk use port).good := by
  cases use with
  | inReg => exact selected
  | outReg => exact selected
  | memory => exact absurd rfl register

/-- With the buffer memory selected a handler does all accesses right and leaves it selected. -/
theorem runHandler_ram {port : U8} (ram : ramSelected port) (uses : List WindowUse) :
    ramSelected (runHandler port uses).1 ∧ ∀ access ∈ (runHandler port uses).2, access.good := by
  induction uses generalizing port with
  | nil => exact ⟨ram, fun access member => absurd member List.not_mem_nil⟩
  | cons use rest ih =>
    have first : ramSelected (handlerUse port use).1 ∧ ∀ access ∈ (handlerUse port use).2, access.good := by
      by_cases memory : use = .memory
      · rw [handlerUse, if_pos memory]
        refine ⟨ram, fun access member => ?_⟩
        rw [List.mem_singleton.mp member]
        exact ram
      · rw [handlerUse, if_neg memory]
        obtain ⟨restored, accesses⟩ := regCall_ram ram use
        refine ⟨restored, fun access member => ?_⟩
        rw [accesses] at member
        rw [List.mem_singleton.mp member]
        exact WindowUse.good_of_register memory (registersSelected_select port)
    obtain ⟨still, later⟩ := ih first.1
    refine ⟨still, fun access member => ?_⟩
    rcases List.mem_append.mp member with here | there
    · exact first.2 access here
    · exact later access there

/-- With the registers selected a handler leaves them selected, and does all accesses right exactly when
none is to the buffer memory. -/
theorem runHandler_registers {port : U8} (registers : registersSelected port) (uses : List WindowUse) :
    (runHandler port uses).1 = port ∧
      ((∀ access ∈ (runHandler port uses).2, access.good) ↔ .memory ∉ uses) := by
  induction uses with
  | nil => simp [runHandler]
  | cons use rest ih =>
    have first : (handlerUse port use).1 = port ∧ (handlerUse port use).2 = [⟨use, port⟩] := by
      by_cases memory : use = .memory
      · rw [handlerUse, if_pos memory, memory]
        exact ⟨rfl, rfl⟩
      · rw [handlerUse, if_neg memory, regCall_registers registers]
        exact ⟨rfl, rfl⟩
    have found : (WindowAccess.mk use port).good ↔ use ≠ .memory := by
      constructor
      · rintro good rfl
        exact not_registersSelected good registers
      · exact fun register => WindowUse.good_of_register register registers
    have here : (runHandler port (use :: rest)).1 = (runHandler port rest).1 ∧
        (runHandler port (use :: rest)).2 = ⟨use, port⟩ :: (runHandler port rest).2 := by
      rw [runHandler]
      dsimp only
      rw [first.1, first.2]
      exact ⟨rfl, rfl⟩
    rw [here.1, here.2, List.forall_mem_cons, found, ih.2, List.mem_cons, not_or]
    exact ⟨ih.1, and_congr ⟨Ne.symm, Ne.symm⟩ Iff.rfl⟩

/-- What is selected at each point of a call. -/
def RegPc.selected (port : U8) : RegPc → Prop
  | .snapshot | .readRestore => ramSelected port
  | .select temp => ramSelected port ∧ registersSelected temp
  | .readSelect temp | .restore temp => registersSelected port ∧ registersSelected temp
  | .access temp needsChanged => registersSelected port ∧ registersSelected temp ∧ needsChanged = true

def WindowState.Inv (s : WindowState) : Prop :=
  match s.call with
  | none => ramSelected s.port
  | some (use, pc) => use ≠ .memory ∧ pc.selected s.port

theorem WindowState.Inv.ram {s : WindowState} (inv : s.Inv) (idle : s.call = none) : ramSelected s.port := by
  unfold WindowState.Inv at inv
  rw [idle] at inv
  exact inv

/-- An access of the process is made with the registers selected. -/
theorem regStep_selected {use : WindowUse} (register : use ≠ .memory) {port after : U8} {pc : RegPc}
    {accesses : List WindowAccess} {next : Option RegPc} (selected : pc.selected port)
    (ran : regStep use port pc = (after, accesses, next)) (earlier : List WindowAccess) :
    WindowState.Inv ⟨after, next.map (use, ·), earlier⟩ ∧ ∀ access ∈ accesses, access.good := by
  have none (pair : accesses = []) : ∀ access ∈ accesses, access.good := by
    rw [pair]
    exact fun access member => absurd member List.not_mem_nil
  cases pc with
  | snapshot =>
    rw [snapshot_ram selected] at ran
    cases ran
    exact ⟨⟨register, selected, registersSelected_select port⟩, none rfl⟩
  | select temp =>
    cases ran
    exact ⟨⟨register, selected.2, selected.2⟩, none rfl⟩
  | readSelect temp =>
    cases ran
    exact ⟨⟨register, selected.1, selected.2, rfl⟩, none rfl⟩
  | access temp needsChanged =>
    obtain ⟨here, restores, rfl⟩ := selected
    cases ran
    refine ⟨⟨register, here, restores⟩, fun access member => ?_⟩
    rw [List.mem_singleton.mp member]
    exact WindowUse.good_of_register register here
  | restore temp =>
    cases ran
    exact ⟨⟨register, ramSelected_restore selected.2⟩, none rfl⟩
  | readRestore =>
    cases ran
    exact ⟨selected, none rfl⟩

/-- A handler keeps what is selected, and its accesses are right exactly when it keeps out of the window. -/
theorem runHandler_selected {s : WindowState} (inv : s.Inv) (uses : List WindowUse) (accesses : List WindowAccess) :
    WindowState.Inv ⟨(runHandler s.port uses).1, s.call, accesses⟩ ∧
      ((∀ access ∈ (runHandler s.port uses).2, access.good) ↔ (s.inWindow → .memory ∉ uses)) := by
  have outside (ram : ramSelected s.port) (quiet : ¬s.inWindow) :
      ramSelected (runHandler s.port uses).1 ∧
        ((∀ access ∈ (runHandler s.port uses).2, access.good) ↔ (s.inWindow → .memory ∉ uses)) := by
    obtain ⟨still, good⟩ := runHandler_ram ram uses
    exact ⟨still, fun _ inside => absurd inside quiet, fun _ => good⟩
  have inside (registers : registersSelected s.port) (window : s.inWindow) :
      (runHandler s.port uses).1 = s.port ∧
        ((∀ access ∈ (runHandler s.port uses).2, access.good) ↔ (s.inWindow → .memory ∉ uses)) := by
    obtain ⟨same, good⟩ := runHandler_registers registers uses
    exact ⟨same, good.trans ⟨fun out _ => out, fun out => out window⟩⟩
  obtain ⟨port, call, earlier⟩ := s
  cases call with
  | none => exact outside inv id
  | some pending =>
    obtain ⟨use, pc⟩ := pending
    obtain ⟨register, selected⟩ := inv
    cases pc with
    | snapshot =>
      obtain ⟨still, good⟩ := outside selected id
      exact ⟨⟨register, still⟩, good⟩
    | select temp =>
      obtain ⟨still, good⟩ := outside selected.1 id
      exact ⟨⟨register, still, selected.2⟩, good⟩
    | readRestore =>
      obtain ⟨still, good⟩ := outside selected id
      exact ⟨⟨register, still⟩, good⟩
    | readSelect temp =>
      obtain ⟨same, good⟩ := inside selected.1 trivial
      rw [same]
      exact ⟨⟨register, selected⟩, good⟩
    | access temp needsChanged =>
      obtain ⟨same, good⟩ := inside selected.1 trivial
      rw [same]
      exact ⟨⟨register, selected⟩, good⟩
    | restore temp =>
      obtain ⟨same, good⟩ := inside selected.1 trivial
      rw [same]
      exact ⟨⟨register, selected⟩, good⟩

/-- Every step keeps the invariant, and its accesses are right exactly when a handler keeps out of the window. -/
theorem windowStep_inv {s t : WindowState} {event : WindowEvent} (inv : s.Inv) (step : WindowStep s event t) :
    t.Inv ∧ ∃ new, t.accesses = s.accesses ++ new ∧ ((∀ access ∈ new, access.good) ↔ keepsOutOfWindow s event) := by
  cases step with
  | begin idle register ran =>
    obtain ⟨kept, good⟩ := @regStep_selected _ register _ _ .snapshot _ _ (inv.ram idle) ran _
    exact ⟨kept, _, rfl, fun _ _ => nofun, fun _ => good⟩
  | memory idle =>
    refine ⟨inv, _, rfl, fun _ _ => nofun, fun _ access member => ?_⟩
    rw [List.mem_singleton.mp member]
    exact inv.ram idle
  | advance call ran =>
    unfold WindowState.Inv at inv
    rw [call] at inv
    obtain ⟨kept, good⟩ := regStep_selected inv.1 inv.2 ran _
    exact ⟨kept, _, rfl, fun _ _ => nofun, fun _ => good⟩
  | @handler uses port accesses ran =>
    obtain ⟨kept, good⟩ := runHandler_selected inv uses (s.accesses ++ accesses)
    rw [ran] at kept good
    refine ⟨kept, accesses, rfl, good.trans ⟨fun out others same => ?_, fun out => out uses rfl⟩⟩
    cases same
    exact out

theorem windowStep_right {s t : WindowState} {event : WindowEvent} (right : s.right) (inv : s.Inv)
    (step : WindowStep s event t) : t.right ↔ keepsOutOfWindow s event := by
  obtain ⟨kept, new, accesses, good⟩ := windowStep_inv inv step
  have idle := kept.ram
  rw [← good, WindowState.right, accesses, List.forall_mem_append]
  exact ⟨fun both => both.1.2, fun here => ⟨⟨right.1, here⟩, idle⟩⟩

/-- From a port with both bits set every access finds its window, and both bits are set again after
every call, exactly when no handler uses the buffer memory while the process has the registers selected. -/
theorem register_window_safe_iff {port : U8} (set : port &&& 0xc0 = 0xc0) {p : List (WindowEvent × WindowState)}
    (run : Run WindowStep { port := port } p) :
    (∀ x ∈ p, x.2.right) ↔ Run (fun s event _ => keepsOutOfWindow s event) { port := port } p := by
  have ram := ramSelected_of_set set
  exact run.good_iff (fun s event t right inv step => windowStep_right right inv step)
    (fun s event t inv step => (windowStep_inv inv step).1)
    ⟨fun access member => absurd member List.not_mem_nil, fun _ => ram⟩ ram

/-- The process has switched the window to read TCSR. -/
def switched : WindowState := ⟨0x80, some (.inReg, .readSelect 0x80), []⟩

theorem switched_run : Run WindowStep { port := 0xc0 }
    [(.begin .inReg, ⟨0xc0, some (.inReg, .select 0x80), []⟩), (.advance, switched)] :=
  ⟨@WindowStep.begin { port := 0xc0 } .inReg rfl (by decide) 0xc0 [] (some (.select 0x80)) (by decide),
    @WindowStep.advance ⟨0xc0, some (.inReg, .select 0x80), []⟩ .inReg (.select 0x80) rfl 0x80 []
      (some (.readSelect 0x80)) (by decide), trivial⟩

/-- A handler that reads a register there does no harm. -/
theorem register_window_safe_read :
    WindowState.right { switched with accesses := [⟨.inReg, 0x80⟩] } := by
  have step : WindowStep switched (.handler [.inReg]) { switched with accesses := [⟨.inReg, 0x80⟩] } :=
    @WindowStep.handler switched [.inReg] 0x80 [⟨.inReg, 0x80⟩] (by decide)
  have run : Run WindowStep { port := 0xc0 } ([(.begin .inReg, ⟨0xc0, some (.inReg, .select 0x80), []⟩),
      (.advance, switched)] ++ [(.handler [.inReg], { switched with accesses := [⟨.inReg, 0x80⟩] })]) :=
    run_append.mpr ⟨switched_run, step, trivial⟩
  refine (register_window_safe_iff (by decide) run).mpr ⟨nofun, nofun, ?_, trivial⟩
    (.handler [.inReg], { switched with accesses := [⟨.inReg, 0x80⟩] }) (by simp)
  intro uses same _
  cases same
  decide

/-- A handler that looks at a ring entry there finds the registers behind the window. -/
theorem register_window_unsafe :
    Run WindowStep { port := 0xc0 } ([(.begin .inReg, ⟨0xc0, some (.inReg, .select 0x80), []⟩),
      (.advance, switched)] ++ [(.handler [.memory], { switched with accesses := [⟨.memory, 0x80⟩] })]) ∧
      ¬WindowState.right { switched with accesses := [⟨.memory, 0x80⟩] } := by
  have step : WindowStep switched (.handler [.memory]) { switched with accesses := [⟨.memory, 0x80⟩] } :=
    @WindowStep.handler switched [.memory] 0x80 [⟨.memory, 0x80⟩] (by decide)
  refine ⟨run_append.mpr ⟨switched_run, step, trivial⟩, fun right => ?_⟩
  have found : ramSelected 0x80 := right.1 ⟨.memory, 0x80⟩ (List.mem_singleton.mpr rfl)
  exact absurd found (by decide)

end Route56
