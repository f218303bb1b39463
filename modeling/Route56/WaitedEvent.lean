import Route56.Events

namespace Route56

inductive InputLine
  | ri | dsr | dcd | cts
  deriving DecidableEq, Repr

/-- What can be waited for: by `r56_wait_event` an input line going up or down, the exit from hunt
mode and an idle line; by `modem_input_wait` a change of an input line. -/
inductive WaitedEvent
  | line (line : InputLine) (up : Bool)
  | hunt
  | idle
  | input (line : InputLine)
  deriving DecidableEq, Repr

/-- The two functions. -/
inductive WaitFunction
  | r56WaitEvent | modemInputWait
  deriving DecidableEq, Repr

def WaitedEvent.function : WaitedEvent → WaitFunction
  | .line .. | .hunt | .idle => .r56WaitEvent
  | .input _ => .modemInputWait

/-- The bit that stands for the event in the argument. -/
def WaitedEvent.bit : WaitedEvent → U32
  | .line .ri true => rt56EventRiActive
  | .line .ri false => rt56EventRiInactive
  | .line .dsr true => rt56EventDsrActive
  | .line .dsr false => rt56EventDsrInactive
  | .line .dcd true => rt56EventDcdActive
  | .line .dcd false => rt56EventDcdInactive
  | .line .cts true => rt56EventCtsActive
  | .line .cts false => rt56EventCtsInactive
  | .hunt => rt56EventExitHuntMode
  | .idle => rt56EventIdleReceived
  | .input .ri => tiocmRng
  | .input .dsr => tiocmDsr
  | .input .dcd => tiocmCd
  | .input .cts => tiocmCts

/-- The counter the function compares for the event. -/
def WaitedEvent.counter (counts : EventCounts) : WaitedEvent → Nat
  | .line .ri true => counts.sigs.riUp
  | .line .ri false => counts.sigs.riDown
  | .line .dsr true => counts.sigs.dsrUp
  | .line .dsr false => counts.sigs.dsrDown
  | .line .dcd true => counts.sigs.dcdUp
  | .line .dcd false => counts.sigs.dcdDown
  | .line .cts true => counts.sigs.ctsUp
  | .line .cts false => counts.sigs.ctsDown
  | .hunt => counts.icount.exithunt.toNat
  | .idle => counts.icount.rxidle.toNat
  | .input .ri => counts.icount.rng.toNat
  | .input .dsr => counts.icount.dsr.toNat
  | .input .dcd => counts.icount.dcd.toNat
  | .input .cts => counts.icount.cts.toNat

def WaitedEvent.differs (old new : EventCounts) (e : WaitedEvent) : Prop := e.counter new ≠ e.counter old

instance (old new : EventCounts) (e : WaitedEvent) : Decidable (e.differs old new) :=
  inferInstanceAs (Decidable (_ ≠ _))

/-- The argument of a call asks for the event. -/
def WaitedEvent.asked (f : WaitFunction) (mask : U32) (e : WaitedEvent) : Prop := e.function = f ∧ mask &&& e.bit ≠ 0

/-- The ten event bits of a choice, added up as the driver does it. -/
def eventSum (ri riDown dsr dsrDown dcd dcdDown cts ctsDown hunt idle : Bool) : U32 :=
  (if dsr then rt56EventDsrActive else 0) + (if dsrDown then rt56EventDsrInactive else 0) +
    (if dcd then rt56EventDcdActive else 0) + (if dcdDown then rt56EventDcdInactive else 0) +
    (if cts then rt56EventCtsActive else 0) + (if ctsDown then rt56EventCtsInactive else 0) +
    (if ri then rt56EventRiActive else 0) + (if riDown then rt56EventRiInactive else 0) +
    (if hunt then rt56EventExitHuntMode else 0) + (if idle then rt56EventIdleReceived else 0)

/-- The sum for a choice of events. -/
def eventBits (chosen : WaitedEvent → Bool) : U32 :=
  eventSum (chosen (.line .ri true)) (chosen (.line .ri false)) (chosen (.line .dsr true)) (chosen (.line .dsr false))
    (chosen (.line .dcd true)) (chosen (.line .dcd false)) (chosen (.line .cts true)) (chosen (.line .cts false))
    (chosen .hunt) (chosen .idle)

/-- The sum has no carries. -/
theorem eventSum_or : ∀ ri riDown dsr dsrDown dcd dcdDown cts ctsDown hunt idle : Bool,
    eventSum ri riDown dsr dsrDown dcd dcdDown cts ctsDown hunt idle =
      (if ri then rt56EventRiActive else 0) ||| ((if riDown then rt56EventRiInactive else 0) |||
        ((if dsr then rt56EventDsrActive else 0) ||| ((if dsrDown then rt56EventDsrInactive else 0) |||
        ((if dcd then rt56EventDcdActive else 0) ||| ((if dcdDown then rt56EventDcdInactive else 0) |||
        ((if cts then rt56EventCtsActive else 0) ||| ((if ctsDown then rt56EventCtsInactive else 0) |||
        ((if hunt then rt56EventExitHuntMode else 0) ||| ((if idle then rt56EventIdleReceived else 0) ||| 0))))))))) := by
  decide +kernel

/-- The events `r56_wait_event` knows. -/
def waitEvents : List WaitedEvent :=
  [.line .ri true, .line .ri false, .line .dsr true, .line .dsr false, .line .dcd true, .line .dcd false,
    .line .cts true, .line .cts false, .hunt, .idle]

theorem eventBits_or (chosen : WaitedEvent → Bool) :
    eventBits chosen = waitEvents.foldr (fun e bits => (if chosen e then e.bit else 0) ||| bits) 0 :=
  eventSum_or _ _ _ _ _ _ _ _ _ _

theorem eventBits_bit (chosen : WaitedEvent → Bool) {e : WaitedEvent} (here : e.function = .r56WaitEvent) :
    eventBits chosen &&& e.bit = if chosen e then e.bit else 0 := by
  have all : ∀ ri riDown dsr dsrDown dcd dcdDown cts ctsDown hunt idle : Bool,
      let sum := eventSum ri riDown dsr dsrDown dcd dcdDown cts ctsDown hunt idle
      sum &&& rt56EventRiActive = (if ri then rt56EventRiActive else 0) ∧
      sum &&& rt56EventRiInactive = (if riDown then rt56EventRiInactive else 0) ∧
      sum &&& rt56EventDsrActive = (if dsr then rt56EventDsrActive else 0) ∧
      sum &&& rt56EventDsrInactive = (if dsrDown then rt56EventDsrInactive else 0) ∧
      sum &&& rt56EventDcdActive = (if dcd then rt56EventDcdActive else 0) ∧
      sum &&& rt56EventDcdInactive = (if dcdDown then rt56EventDcdInactive else 0) ∧
      sum &&& rt56EventCtsActive = (if cts then rt56EventCtsActive else 0) ∧
      sum &&& rt56EventCtsInactive = (if ctsDown then rt56EventCtsInactive else 0) ∧
      sum &&& rt56EventExitHuntMode = (if hunt then rt56EventExitHuntMode else 0) ∧
      sum &&& rt56EventIdleReceived = (if idle then rt56EventIdleReceived else 0) := by
    decide +kernel
  obtain ⟨ri, riDown, dsr, dsrDown, dcd, dcdDown, cts, ctsDown, hunt, idle⟩ := all
    (chosen (.line .ri true)) (chosen (.line .ri false)) (chosen (.line .dsr true)) (chosen (.line .dsr false))
    (chosen (.line .dcd true)) (chosen (.line .dcd false)) (chosen (.line .cts true)) (chosen (.line .cts false))
    (chosen .hunt) (chosen .idle)
  match e, here with
  | .line .ri true, _ => exact ri
  | .line .ri false, _ => exact riDown
  | .line .dsr true, _ => exact dsr
  | .line .dsr false, _ => exact dsrDown
  | .line .dcd true, _ => exact dcd
  | .line .dcd false, _ => exact dcdDown
  | .line .cts true, _ => exact cts
  | .line .cts false, _ => exact ctsDown
  | .hunt, _ => exact hunt
  | .idle, _ => exact idle

/-- A mask meets the sum in one of the events chosen. -/
theorem and_eventBits {mask : U32} {chosen : WaitedEvent → Bool} (meets : mask &&& eventBits chosen ≠ 0) :
    ∃ e : WaitedEvent, e.asked .r56WaitEvent mask ∧ chosen e = true := by
  have one : ∀ events : List WaitedEvent,
      mask &&& events.foldr (fun e bits => (if chosen e then e.bit else 0) ||| bits) 0 ≠ 0 →
      ∃ e ∈ events, mask &&& e.bit ≠ 0 ∧ chosen e = true := by
    intro events
    induction events with
    | nil => exact fun some => absurd BitVec.and_zero some
    | cons e rest ih =>
      intro some
      rw [List.foldr_cons, BitVec.and_or_distrib_left] at some
      by_cases here : mask &&& (if chosen e then e.bit else 0) = 0
      · have only : ∀ x : U32, 0 ||| x = x := fun _ => BitVec.zero_or
        rw [here, only] at some
        obtain ⟨other, member, found⟩ := ih some
        exact ⟨other, List.mem_cons_of_mem _ member, found⟩
      · split at here
        · rename_i picked
          exact ⟨e, List.mem_cons_self, here, picked⟩
        · exact absurd BitVec.and_zero here
  rw [eventBits_or] at meets
  obtain ⟨e, member, asked, picked⟩ := one waitEvents meets
  have function : ∀ e ∈ waitEvents, e.function = .r56WaitEvent := by decide
  exact ⟨e, ⟨function e member, asked⟩, picked⟩

/-- What the mask leaves of the sum. -/
theorem masked_eventBits {mask : U32} {chosen : WaitedEvent → Bool} {e : WaitedEvent}
    (here : e.function = .r56WaitEvent) :
    mask &&& eventBits chosen &&& e.bit ≠ 0 ↔ e.asked .r56WaitEvent mask ∧ chosen e = true := by
  rw [BitVec.and_assoc, eventBits_bit chosen here]
  split
  · rename_i picked
    exact ⟨fun asked => ⟨⟨here, asked⟩, picked⟩, fun both => both.1.2⟩
  · rename_i other
    exact ⟨fun some => absurd BitVec.and_zero some, fun both => absurd both.2 other⟩

/-- No bits beside those of the events. -/
theorem eventBits_within (chosen : WaitedEvent → Bool) : eventBits chosen &&& ~~~0x3ff = 0 := by
  have all : ∀ ri riDown dsr dsrDown dcd dcdDown cts ctsDown hunt idle : Bool,
      eventSum ri riDown dsr dsrDown dcd dcdDown cts ctsDown hunt idle &&& ~~~0x3ff = 0 := by
    decide +kernel
  exact all _ _ _ _ _ _ _ _ _ _

/-- The events whose counters differ. -/
theorem changedEvents_eq (old new : EventCounts) :
    changedEvents old new = eventBits fun e => decide (e.differs old new) := by
  have u32 (a b : U32) : a ≠ b ↔ a.toNat ≠ b.toNat := (BitVec.toNat_inj).not.symm
  unfold changedEvents eventBits eventSum
  simp only [decide_eq_true_eq]
  simp only [WaitedEvent.differs, WaitedEvent.counter, u32]
  congr

theorem unchangedEvents_iff (old new : EventCounts) :
    unchangedEvents old new ↔ ∀ e : WaitedEvent, e.function = .r56WaitEvent → ¬e.differs old new := by
  unfold unchangedEvents WaitedEvent.differs
  constructor
  · rintro ⟨dsr, dsrDown, dcd, dcdDown, cts, ctsDown, ri, riDown, hunt, idle⟩ e here
    rw [not_not]
    match e, here with
    | .line .ri true, _ => exact ri
    | .line .ri false, _ => exact riDown
    | .line .dsr true, _ => exact dsr
    | .line .dsr false, _ => exact dsrDown
    | .line .dcd true, _ => exact dcd
    | .line .dcd false, _ => exact dcdDown
    | .line .cts true, _ => exact cts
    | .line .cts false, _ => exact ctsDown
    | .hunt, _ => exact congrArg BitVec.toNat hunt
    | .idle, _ => exact congrArg BitVec.toNat idle
  · intro same
    have same (e : WaitedEvent) (here : e.function = .r56WaitEvent) : e.counter new = e.counter old :=
      not_not.mp (same e here)
    exact ⟨same (.line .dsr true) rfl, same (.line .dsr false) rfl, same (.line .dcd true) rfl,
      same (.line .dcd false) rfl, same (.line .cts true) rfl, same (.line .cts false) rfl, same (.line .ri true) rfl,
      same (.line .ri false) rfl, BitVec.eq_of_toNat_eq (same .hunt rfl), BitVec.eq_of_toNat_eq (same .idle rfl)⟩

theorem unchangedInputs_iff (old new : EventCounts) :
    unchangedInputs old new ↔ ∀ e : WaitedEvent, e.function = .modemInputWait → ¬e.differs old new := by
  unfold unchangedInputs WaitedEvent.differs
  constructor
  · rintro ⟨ri, dsr, dcd, cts⟩ e here
    rw [not_not]
    match e, here with
    | .input .ri, _ => exact congrArg BitVec.toNat ri
    | .input .dsr, _ => exact congrArg BitVec.toNat dsr
    | .input .dcd, _ => exact congrArg BitVec.toNat dcd
    | .input .cts, _ => exact congrArg BitVec.toNat cts
  · intro same
    have same (l : InputLine) : (WaitedEvent.input l).counter new = (WaitedEvent.input l).counter old :=
      not_not.mp (same (.input l) rfl)
    exact ⟨BitVec.eq_of_toNat_eq (same .ri), BitVec.eq_of_toNat_eq (same .dsr), BitVec.eq_of_toNat_eq (same .dcd),
      BitVec.eq_of_toNat_eq (same .cts)⟩

theorem changedInput_iff (arg : U32) (old new : EventCounts) :
    changedInput arg old new ↔ ∃ e : WaitedEvent, e.asked .modemInputWait arg ∧ e.differs old new := by
  have u32 (a b : U32) : a ≠ b ↔ a.toNat ≠ b.toNat := (BitVec.toNat_inj).not.symm
  unfold changedInput WaitedEvent.differs WaitedEvent.asked
  constructor
  · rintro (⟨asked, ri⟩ | ⟨asked, dsr⟩ | ⟨asked, dcd⟩ | ⟨asked, cts⟩)
    · exact ⟨.input .ri, ⟨rfl, asked⟩, (u32 _ _).mp ri⟩
    · exact ⟨.input .dsr, ⟨rfl, asked⟩, (u32 _ _).mp dsr⟩
    · exact ⟨.input .dcd, ⟨rfl, asked⟩, (u32 _ _).mp dcd⟩
    · exact ⟨.input .cts, ⟨rfl, asked⟩, (u32 _ _).mp cts⟩
  · rintro ⟨e, ⟨here, asked⟩, moved⟩
    match e, here with
    | .input .ri, _ => exact .inl ⟨asked, (u32 _ _).mpr moved⟩
    | .input .dsr, _ => exact .inr (.inl ⟨asked, (u32 _ _).mpr moved⟩)
    | .input .dcd, _ => exact .inr (.inr (.inl ⟨asked, (u32 _ _).mpr moved⟩))
    | .input .cts, _ => exact .inr (.inr (.inr ⟨asked, (u32 _ _).mpr moved⟩))

def InputLine.latched : InputLine → U16
  | .ri => miscstatusRiLatched
  | .dsr => miscstatusDsrLatched
  | .dcd => miscstatusDcdLatched
  | .cts => miscstatusCtsLatched

def InputLine.level : InputLine → U16
  | .ri => miscstatusRi
  | .dsr => miscstatusDsr
  | .dcd => miscstatusDcd
  | .cts => miscstatusCts

/-- The event is among those the interrupt reports. -/
def WaitedEvent.occurs (info : R56Struct) : WaitedEvent → Prop
  | .line l up =>
    info.uscVector = 2 ∧ uscInReg info.usc .misr &&& l.latched ≠ 0 ∧ decide (uscInReg info.usc .misr &&& l.level ≠ 0) = up
  | .input l => info.uscVector = 2 ∧ uscInReg info.usc .misr &&& l.latched ≠ 0
  | .hunt => info.uscVector = 6 ∧ uscInReg info.usc .rcsr &&& rxstatusExitedHunt ≠ 0
  | .idle => info.uscVector = 6 ∧ uscInReg info.usc .rcsr &&& rxstatusIdleReceived ≠ 0

instance (info : R56Struct) (e : WaitedEvent) : Decidable (e.occurs info) := by
  unfold WaitedEvent.occurs
  split
  · infer_instance
  · infer_instance
  · infer_instance
  · infer_instance

/-- The interrupt wakes the wait queue of the function. -/
def wakesQueue (f : WaitFunction) (info : R56Struct) : Prop :=
  info.uscVector = 2 ∧ uscInReg info.usc .misr &&& miscstatusLines ≠ 0 ∨
    f = .r56WaitEvent ∧ info.uscVector = 6 ∧
      uscInReg info.usc .rcsr &&& (rxstatusExitedHunt + rxstatusIdleReceived) ≠ 0

instance (f : WaitFunction) (info : R56Struct) : Decidable (wakesQueue f info) :=
  inferInstanceAs (Decidable (_ ∨ _))

/-- A part of a word that is not zero makes the word not zero. -/
theorem and_ne_zero_of_part {status part whole : U16} (within : whole &&& part = part) (some : status &&& part ≠ 0) :
    status &&& whole ≠ 0 := by
  intro none
  refine some ?_
  rw [← within, ← BitVec.and_assoc, none]
  exact BitVec.zero_and

theorem WaitedEvent.occurs.wakes {e : WaitedEvent} {info : R56Struct} (occurs : e.occurs info) :
    wakesQueue e.function info := by
  have line (l : InputLine) : miscstatusLines &&& l.latched = l.latched := by cases l <;> decide
  match e, occurs with
  | .line l _, here => exact .inl ⟨here.1, and_ne_zero_of_part (line l) here.2.1⟩
  | .input l, here => exact .inl ⟨here.1, and_ne_zero_of_part (line l) here.2⟩
  | .hunt, here => exact .inr ⟨rfl, here.1, and_ne_zero_of_part (by decide) here.2⟩
  | .idle, here => exact .inr ⟨rfl, here.1, and_ne_zero_of_part (by decide) here.2⟩

/-- The counters that are compared. -/
structure Tally where
  rng : U32
  dsr : U32
  dcd : U32
  cts : U32
  exithunt : U32
  rxidle : U32
  sigs : InputSignalEvents

def R56Struct.tally (info : R56Struct) : Tally where
  rng := info.icount.rng
  dsr := info.icount.dsr
  dcd := info.icount.dcd
  cts := info.icount.cts
  exithunt := info.icount.exithunt
  rxidle := info.icount.rxidle
  sigs := info.inputSignalEvents

def WaitedEvent.count (tally : Tally) : WaitedEvent → Nat
  | .line .ri true => tally.sigs.riUp
  | .line .ri false => tally.sigs.riDown
  | .line .dsr true => tally.sigs.dsrUp
  | .line .dsr false => tally.sigs.dsrDown
  | .line .dcd true => tally.sigs.dcdUp
  | .line .dcd false => tally.sigs.dcdDown
  | .line .cts true => tally.sigs.ctsUp
  | .line .cts false => tally.sigs.ctsDown
  | .hunt => tally.exithunt.toNat
  | .idle => tally.rxidle.toNat
  | .input .ri => tally.rng.toNat
  | .input .dsr => tally.dsr.toNat
  | .input .dcd => tally.dcd.toNat
  | .input .cts => tally.cts.toNat

theorem counter_eq_count (info : R56Struct) (e : WaitedEvent) : e.counter info.eventCounts = e.count info.tally := by
  rcases e with ⟨_ | _ | _ | _, _ | _⟩ | _ | _ | ⟨_ | _ | _ | _⟩ <;> rfl

/-- The counters of single lines are as wide as an `int`, the others have 32 bits. -/
def WaitedEvent.wrap : WaitedEvent → Nat → Nat
  | .line .., n => n
  | _, n => n % 2 ^ 32

theorem WaitedEvent.wrap_count (e : WaitedEvent) (tally : Tally) : e.wrap (e.count tally) = e.count tally := by
  rcases e with ⟨l, up⟩ | _ | _ | l
  · rfl
  · exact Nat.mod_eq_of_lt (BitVec.isLt _)
  · exact Nat.mod_eq_of_lt (BitVec.isLt _)
  · cases l <;> exact Nat.mod_eq_of_lt (BitVec.isLt _)

theorem WaitedEvent.wrap_counter (e : WaitedEvent) (counts : EventCounts) :
    e.wrap (e.counter counts) = e.counter counts := by
  rcases e with ⟨l, up⟩ | _ | _ | l
  · rfl
  · exact Nat.mod_eq_of_lt (BitVec.isLt _)
  · exact Nat.mod_eq_of_lt (BitVec.isLt _)
  · cases l <;> exact Nat.mod_eq_of_lt (BitVec.isLt _)

theorem WaitedEvent.wrap_add (e : WaitedEvent) (n k : Nat) : e.wrap (e.wrap n + k) = e.wrap (n + k) := by
  cases e with
  | line l up => rfl
  | hunt => exact Nat.mod_add_mod _ _ _
  | idle => exact Nat.mod_add_mod _ _ _
  | input l => exact Nat.mod_add_mod _ _ _

/-- Fewer than 2^32 events are seen. -/
theorem WaitedEvent.wrap_ne (e : WaitedEvent) {k n : Nat} (same : e.wrap k = k) (few : n < 2 ^ 32) :
    e.wrap (k + n) ≠ k ↔ n ≠ 0 := by
  cases e with
  | line l up =>
    show k + n ≠ k ↔ n ≠ 0
    omega
  | hunt =>
    have same : k % 2 ^ 32 = k := same
    show (k + n) % 2 ^ 32 ≠ k ↔ n ≠ 0
    omega
  | idle =>
    have same : k % 2 ^ 32 = k := same
    show (k + n) % 2 ^ 32 ≠ k ↔ n ≠ 0
    omega
  | input l =>
    have same : k % 2 ^ 32 = k := same
    show (k + n) % 2 ^ 32 ≠ k ↔ n ≠ 0
    omega

/-- What the statements for one line count. -/
def Tally.line (tally : Tally) (l : InputLine) (status : U16) : Tally :=
  if status &&& l.latched ≠ 0 then
    let ev := tally.sigs
    match l with
    | .ri => { tally with
        rng := tally.rng + 1
        sigs := if status &&& miscstatusRi ≠ 0 then { ev with riUp := ev.riUp + 1 } else { ev with riDown := ev.riDown + 1 } }
    | .dsr => { tally with
        dsr := tally.dsr + 1
        sigs := if status &&& miscstatusDsr ≠ 0 then { ev with dsrUp := ev.dsrUp + 1 }
          else { ev with dsrDown := ev.dsrDown + 1 } }
    | .dcd => { tally with
        dcd := tally.dcd + 1
        sigs := if status &&& miscstatusDcd ≠ 0 then { ev with dcdUp := ev.dcdUp + 1 }
          else { ev with dcdDown := ev.dcdDown + 1 } }
    | .cts => { tally with
        cts := tally.cts + 1
        sigs := if status &&& miscstatusCts ≠ 0 then { ev with ctsUp := ev.ctsUp + 1 }
          else { ev with ctsDown := ev.ctsDown + 1 } }
  else tally

/-- The event is one of the line. -/
def WaitedEvent.ofLine (l : InputLine) (status : U16) : WaitedEvent → Prop
  | .line l' up => l' = l ∧ status &&& l.latched ≠ 0 ∧ decide (status &&& l.level ≠ 0) = up
  | .input l' => l' = l ∧ status &&& l.latched ≠ 0
  | _ => False

instance (l : InputLine) (status : U16) (e : WaitedEvent) : Decidable (e.ofLine l status) := by
  unfold WaitedEvent.ofLine
  split
  · infer_instance
  · infer_instance
  · infer_instance

/-- The statements for a line count the events of the line once. -/
theorem Tally.line_count (tally : Tally) (l : InputLine) (status : U16) (e : WaitedEvent) :
    e.count (tally.line l status) = e.wrap (e.count tally + if e.ofLine l status then 1 else 0) := by
  have same := e.wrap_count tally
  by_cases latched : status &&& l.latched ≠ 0
  · have latched' : ¬status &&& l.latched = 0#16 := latched
    have small (n : U32) : n.toNat % 4294967296 = n.toNat := Nat.mod_eq_of_lt n.isLt
    unfold Tally.line
    rw [if_pos latched]
    rcases l with _ | _ | _ | _
    · by_cases up : status &&& miscstatusRi = 0#16 <;>
        rcases e with ⟨_ | _ | _ | _, _ | _⟩ | _ | _ | ⟨_ | _ | _ | _⟩ <;>
        simp [WaitedEvent.count, WaitedEvent.wrap, WaitedEvent.ofLine, InputLine.level, latched', up, small]
    · by_cases up : status &&& miscstatusDsr = 0#16 <;>
        rcases e with ⟨_ | _ | _ | _, _ | _⟩ | _ | _ | ⟨_ | _ | _ | _⟩ <;>
        simp [WaitedEvent.count, WaitedEvent.wrap, WaitedEvent.ofLine, InputLine.level, latched', up, small]
    · by_cases up : status &&& miscstatusDcd = 0#16 <;>
        rcases e with ⟨_ | _ | _ | _, _ | _⟩ | _ | _ | ⟨_ | _ | _ | _⟩ <;>
        simp [WaitedEvent.count, WaitedEvent.wrap, WaitedEvent.ofLine, InputLine.level, latched', up, small]
    · by_cases up : status &&& miscstatusCts = 0#16 <;>
        rcases e with ⟨_ | _ | _ | _, _ | _⟩ | _ | _ | ⟨_ | _ | _ | _⟩ <;>
        simp [WaitedEvent.count, WaitedEvent.wrap, WaitedEvent.ofLine, InputLine.level, latched', up, small]
  · have none : ¬e.ofLine l status := by
      cases e with
      | line l' up => exact fun here => latched here.2.1
      | input l' => exact fun here => latched here.2
      | hunt => exact id
      | idle => exact id
    unfold Tally.line
    rw [if_neg latched, if_neg none]
    exact same.symm

/-- The input line statements count as the four lines do. -/
theorem countIoPins_tally (info : R56Struct) (status : U16) :
    (countIoPins info status).tally =
      (((info.tally.line .ri status).line .dsr status).line .dcd status).line .cts status := by
  have ri (s : R56Struct) : (countRi s status).tally = s.tally.line .ri status := by
    by_cases latched : status &&& miscstatusRiLatched ≠ 0
    · rw [countRi, if_pos latched]
      exact (if_pos latched).symm
    · rw [countRi, if_neg latched]
      exact (if_neg latched).symm
  have dsr (s : R56Struct) : (countDsr s status).tally = s.tally.line .dsr status := by
    by_cases latched : status &&& miscstatusDsrLatched ≠ 0
    · rw [countDsr, if_pos latched]
      exact (if_pos latched).symm
    · rw [countDsr, if_neg latched]
      exact (if_neg latched).symm
  have dcd (s : R56Struct) : (countDcd s status).tally = s.tally.line .dcd status := by
    by_cases latched : status &&& miscstatusDcdLatched ≠ 0
    · rw [countDcd, if_pos latched]
      exact (if_pos latched).symm
    · rw [countDcd, if_neg latched]
      exact (if_neg latched).symm
  have cts (s : R56Struct) : (countCts s status).tally = s.tally.line .cts status := by
    by_cases latched : status &&& miscstatusCtsLatched ≠ 0
    · rw [countCts, if_pos latched]
      exact (if_pos latched).symm
    · rw [countCts, if_neg latched]
      exact (if_neg latched).symm
  unfold countIoPins
  rw [cts, dcd, dsr, ri]

/-- Starting the transmitter counts characters sent only. -/
theorem uscStartTransmitter_tally (info : R56Struct) : (uscStartTransmitter info).tally = info.tally := by
  have step (s : R56Struct) (fifocount : Nat) : (loadTxfifoStep s fifocount).tally = s.tally := by
    unfold loadTxfifoStep
    dsimp only
    split
    · rfl
    split
    · rfl
    · rfl
  have load (s : R56Struct) : (uscLoadTxfifo s).tally = s.tally :=
    uscLoadTxfifo_kept (R := fun s t => t.tally = s.tally) (fun _ => rfl) (fun first second => second.trans first)
      (fun _ _ => rfl) (fun _ => rfl) step s
  have fed (s : R56Struct) : (feedTransmitter s).tally = s.tally := by
    unfold feedTransmitter startAsyncTransmitter
    split
    · split
      · rfl
      · exact load _
    · rfl
  have kept : KeptPrepare fun s t => t.tally = s.tally :=
    ⟨fun _ => rfl, fun first second => second.trans first, fun _ _ => rfl, fun _ => rfl, fun _ => rfl,
      fun _ _ => rfl, fun _ => rfl, fun _ => rfl, fun _ _ => rfl⟩
  exact kept.start fun _ => fed _

theorem r56IsrIoPin_tally (info : R56Struct) :
    (r56IsrIoPin info).tally = (countIoPins info (uscInReg info.usc .misr)).tally := by
  have done (s : R56Struct) (status : U16) : (ioPinDone s status).tally = s.tally := by
    unfold ioPinDone
    dsimp only
    split
    · rfl
    · rfl
  have control (s : R56Struct) (status : U16) : (ctsFlowControl s status).tally = s.tally := by
    unfold ctsFlowControl
    dsimp only
    split
    · split
      · exact uscStartTransmitter_tally _
      · exact done s status
    · split
      · exact done _ status
      · exact done s status
  have served (s : R56Struct) (status : U16) : (serviceIoPins s status).tally = (countIoPins s status).tally := by
    unfold serviceIoPins
    dsimp only
    split
    · exact control _ status
    · exact done _ status
  -- the chip is acknowledged first
  have acked (u : Usc) (status : U16) :
      (countIoPins { info with usc := u } status).tally = (countIoPins info status).tally := by
    rw [countIoPins_tally, countIoPins_tally]
    rfl
  unfold r56IsrIoPin
  dsimp only
  split
  · rw [served, acked]
  · rename_i quiet
    have none (l : InputLine) (tally : Tally) : tally.line l (uscInReg info.usc .misr) = tally := by
      refine if_neg fun latched => quiet ?_
      have part : miscstatusLines &&& l.latched = l.latched := by cases l <;> decide
      exact and_ne_zero_of_part part latched
    rw [done, countIoPins_tally, none, none, none, none]
    rfl

/-- An io-pin interrupt counts the events of each line. -/
theorem countIoPins_count (info : R56Struct) (status : U16) (e : WaitedEvent) :
    e.count (countIoPins info status).tally = e.wrap (e.count info.tally +
      ((if e.ofLine .ri status then 1 else 0) + (if e.ofLine .dsr status then 1 else 0) +
        (if e.ofLine .dcd status then 1 else 0) + if e.ofLine .cts status then 1 else 0)) := by
  rw [countIoPins_tally, Tally.line_count, Tally.line_count, Tally.line_count, Tally.line_count]
  rw [e.wrap_add, Nat.add_assoc, e.wrap_add, Nat.add_assoc, e.wrap_add]
  simp only [Nat.add_assoc]

theorem r56IsrReceiveStatus_tally (info : R56Struct) :
    (r56IsrReceiveStatus info).tally = { info with icount := countRxEvents info.icount (uscInReg info.usc .rcsr) }.tally := by
  have discard (s : R56Struct) : (overrunDiscard s).1.tally = s.tally := by
    unfold overrunDiscard
    dsimp only
    split
    · rfl
    split
    · rfl
    · rfl
  have sync (s : R56Struct) : (uscProcessRxoverrunSync s).tally = s.tally := by
    unfold uscProcessRxoverrunSync
    dsimp only
    split
    · exact discard s
    · exact discard s
  have recovered (s : R56Struct) (status : U16) : (recoverOverrun s status).tally = s.tally := by
    unfold recoverOverrun
    split
    · exact sync _
    · rfl
  have inserted (s : R56Struct) (status : U16) :
      { completeInsertion s status with icount := countRxEvents (completeInsertion s status).icount status }.tally =
        { s with icount := countRxEvents s.icount status }.tally := by
    unfold completeInsertion
    split
    · rfl
    · rfl
  unfold r56IsrReceiveStatus
  exact (recovered _ _).trans (inserted _ _)

/-- An interrupt adds one to the counters of the events it reports. -/
theorem r56Interrupt_count (info : R56Struct) (vector : info.uscVector = 2 ∨ info.uscVector = 6) (e : WaitedEvent) :
    e.count (r56Interrupt info).tally = e.wrap (e.count info.tally + if e.occurs info then 1 else 0) := by
  have halted (s : R56Struct) : (haltOnOverflow s).tally = s.tally := by
    unfold haltOnOverflow
    split
    · rfl
    · rfl
  have scheduled (s : R56Struct) : (scheduleBh s).tally = s.tally := by
    unfold scheduleBh
    split
    · rfl
    · rfl
  have same := e.wrap_count info.tally
  unfold r56Interrupt serviceInterrupt
  rw [scheduled, halted]
  rcases vector with vector | vector
  · rw [if_pos (by rw [vector]; decide), vector]
    show e.count (r56IsrIoPin info).tally = _
    rw [r56IsrIoPin_tally, countIoPins_count]
    congr 2
    have here : info.uscVector = 2 := vector
    match e with
    | .line l up => cases l <;> simp [WaitedEvent.ofLine, WaitedEvent.occurs, here]
    | .input l => cases l <;> simp [WaitedEvent.ofLine, WaitedEvent.occurs, here]
    | .hunt => simp [WaitedEvent.ofLine, WaitedEvent.occurs, here]
    | .idle => simp [WaitedEvent.ofLine, WaitedEvent.occurs, here]
  · rw [if_pos (by rw [vector]; decide), vector]
    show e.count (r56IsrReceiveStatus info).tally = _
    rw [r56IsrReceiveStatus_tally]
    have here : info.uscVector = 6 := vector
    have small (n : U32) : n.toNat % 4294967296 = n.toNat := Nat.mod_eq_of_lt n.isLt
    match e with
    | .line l up => cases l <;> cases up <;> simp [WaitedEvent.occurs, WaitedEvent.wrap, here] <;> rfl
    | .input l => cases l <;> simp [WaitedEvent.occurs, here, same] <;> rfl
    | .hunt =>
      simp only [WaitedEvent.occurs, WaitedEvent.count, WaitedEvent.wrap, R56Struct.tally, countRxEvents, here, true_and]
      split
      · exact BitVec.toNat_add _ _
      · exact (small _).symm
    | .idle =>
      simp only [WaitedEvent.occurs, WaitedEvent.count, WaitedEvent.wrap, R56Struct.tally, countRxEvents, here, true_and]
      split
      · exact BitVec.toNat_add _ _
      · exact (small _).symm

end Route56
