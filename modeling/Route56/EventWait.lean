import Route56.WaitedEvent
import Route56.Lib.Transition

namespace Route56

open Transition

/-- What a call returns: `r56_wait_event` the events, `modem_input_wait` only that there was one. -/
inductive WaitResult
  | events (events : U32)
  | changed
  | eio
  | restartsys

/-- What a process that was woken makes of the counters; `none`: it sleeps on. -/
def waitLook (f : WaitFunction) (mask : U32) (old new : EventCounts) : Option WaitResult :=
  match f with
  | .r56WaitEvent =>
    if unchangedEvents old new then some .eio
    else
      let events := mask &&& changedEvents old new
      if events ≠ 0 then some (.events events) else none
  | .modemInputWait =>
    if unchangedInputs old new then some .eio
    else if changedInput mask old new then some .changed
    else none

/-- Where the call is. -/
inductive WaitPhase
  | outside
  | waiting (old : EventCounts)
  | returned (result : WaitResult)

/-- The driver and the call: whether the process was woken, whether it has a signal, what the input
lines showed at entry and which events were reported while it waited. -/
structure WaitState where
  info : R56Struct
  phase : WaitPhase := .outside
  woken : Bool := false
  signal : Bool := false
  level : U32 := 0
  since : WaitedEvent → Prop := fun _ => False

inductive WaitLabel
  | enter (report : UscReport)
  | interrupt (report : UscReport)
  | getStats (reset : Bool)
  | otherEnters (mask : U32) (report : UscReport)
  | otherLeaves (mask : U32) (active : Bool)
  | signal
  | look

/-- The first critical section. -/
def WaitState.entered (s : WaitState) (f : WaitFunction) (mask : U32) (report : UscReport) : WaitState :=
  match f with
  | .r56WaitEvent =>
    let info := uscGetSerialSignals (s.info.reporting report)
    let s := { s with level := levelEvents info.serialSignals (BitVec.allOnes 32), since := fun _ => False }
    let events := levelEvents info.serialSignals mask
    if events ≠ 0 then { s with info := info, phase := .returned (.events events) }
    else { s with
      info := { info with usc := armEvents info.usc mask }, phase := .waiting info.eventCounts, woken := false }
  | .modemInputWait =>
    { s with
      info := s.info.reporting report, phase := .waiting s.info.eventCounts, woken := false, level := 0
      since := fun _ => False }

/-- The process runs again: it has a signal, or it compares the counters. -/
def WaitState.looked (s : WaitState) (f : WaitFunction) (mask : U32) (old : EventCounts) : WaitState :=
  if s.signal then { s with phase := .returned .restartsys }
  else
    match waitLook f mask old s.info.eventCounts with
    | some result => { s with phase := .returned result }
    | none => { s with phase := .waiting s.info.eventCounts, woken := false }

def WaitPhase.waits : WaitPhase → Prop
  | .waiting _ => True
  | _ => False

/-- One call of the function with the argument `mask`, and everything else that goes on. An event occurs when an
interrupt reports it; whether the RICR lets the chip report it is not asked here. -/
def WaitStep (f : WaitFunction) (mask : U32) (s : WaitState) (label : WaitLabel) (t : WaitState) : Prop :=
  match label with
  | .enter report => s.phase = .outside ∧ t = s.entered f mask report
  | .interrupt report =>
    ((s.info.reporting report).uscVector = 2 ∨ (s.info.reporting report).uscVector = 6) ∧
      t = { s with
        info := r56Interrupt (s.info.reporting report)
        woken := s.woken || decide (wakesQueue f (s.info.reporting report))
        since := fun e => s.since e ∨ s.phase.waits ∧ e.occurs (s.info.reporting report) }
  | .getStats reset => t = { s with info := if reset then r56ResetStats s.info else s.info }
  | .otherEnters mask report =>
    let info := uscGetSerialSignals (s.info.reporting report)
    t = { s with info := { info with usc := armEvents info.usc mask } }
  | .otherLeaves mask active => t = { s with info := { s.info with usc := disarmEvents s.info.usc mask active } }
  | .signal => t = { s with signal := true }
  | .look => ∃ old, s.phase = .waiting old ∧ (s.woken = true ∨ s.signal = true) ∧ t = s.looked f mask old

/-- What the call may return, and when it may go on sleeping. -/
def WaitState.Exact (f : WaitFunction) (mask : U32) (s : WaitState) : Prop :=
  match s.phase with
  | .outside => True
  | .waiting _ => (∃ e : WaitedEvent, e.asked f mask ∧ s.since e) → s.woken = true
  | .returned (.events events) =>
    f = .r56WaitEvent ∧ events ≠ 0 ∧ events &&& ~~~mask = 0 ∧ events &&& ~~~0x3ff = 0 ∧
      (∀ e : WaitedEvent, e.function = f → events &&& e.bit ≠ 0 → s.level &&& e.bit ≠ 0 ∨ s.since e) ∧
      ∀ e : WaitedEvent, e.asked f mask → s.since e → events &&& e.bit ≠ 0
  | .returned .changed => ∃ e : WaitedEvent, e.asked f mask ∧ s.since e
  | .returned .eio => ∀ e : WaitedEvent, e.asked f mask → ¬s.since e
  | .returned .restartsys => s.signal = true

/-- The counters tell what has occurred: those compared for the events asked for differ where the
event was reported since entry. For `modem_input_wait` it is enough that one does if one was. -/
def CountersTell (f : WaitFunction) (mask : U32) (s : WaitState) (old : EventCounts) : Prop :=
  match f with
  | .r56WaitEvent => ∀ e : WaitedEvent, e.asked f mask → (e.differs old s.info.eventCounts ↔ s.since e)
  | .modemInputWait =>
    (∃ e : WaitedEvent, e.asked f mask ∧ e.differs old s.info.eventCounts) ↔ ∃ e : WaitedEvent, e.asked f mask ∧ s.since e

/-- Where the process looks at the counters, they tell. -/
def LooksRight (f : WaitFunction) (mask : U32) (s : WaitState) (label : WaitLabel) : Prop :=
  match label with
  | .look => s.signal = false → ∀ old, s.phase = .waiting old → CountersTell f mask s old
  | _ => True

/-- A process that waits did not find the input lines as it wants them. -/
def LevelsPassed (mask : U32) (s : WaitState) : Prop := s.phase.waits → mask &&& s.level = 0

theorem levelEvents_masked (signals : U8) (mask : U32) :
    levelEvents signals mask = mask &&& levelEvents signals (BitVec.allOnes 32) := by
  unfold levelEvents
  rw [BitVec.allOnes_and]

theorem levelEvents_within (signals : U8) : levelEvents signals (BitVec.allOnes 32) &&& ~~~0x3ff = 0 := by
  have all : ∀ dsr dcd cts ri : Bool,
      (((if dsr then rt56EventDsrActive else rt56EventDsrInactive) +
        (if dcd then rt56EventDcdActive else rt56EventDcdInactive) +
        (if cts then rt56EventCtsActive else rt56EventCtsInactive) +
        (if ri then rt56EventRiActive else rt56EventRiInactive)) : U32) &&& ~~~0x3ff = 0 := by
    decide +kernel
  have here := all (decide (signals &&& serialSignalDsr ≠ 0)) (decide (signals &&& serialSignalDcd ≠ 0))
    (decide (signals &&& serialSignalCts ≠ 0)) (decide (signals &&& serialSignalRi ≠ 0))
  simp only [decide_eq_true_eq] at here
  unfold levelEvents
  rw [BitVec.allOnes_and]
  exact here

theorem and_within {mask bits whole : U32} (within : bits &&& ~~~whole = 0) : mask &&& bits &&& ~~~whole = 0 := by
  rw [BitVec.and_assoc, within]
  exact BitVec.and_zero

theorem and_mask (mask bits : U32) : mask &&& bits &&& ~~~mask = 0 := by
  rw [BitVec.and_comm mask, BitVec.and_assoc, BitVec.and_not_self]
  exact BitVec.and_zero

theorem and_bit {mask bits bit : U32} (some : mask &&& bits &&& bit ≠ 0) : bits &&& bit ≠ 0 := by
  intro none
  rw [BitVec.and_assoc, none] at some
  exact some BitVec.and_zero

theorem entered_exact (f : WaitFunction) (mask : U32) (s : WaitState) (report : UscReport) :
    (s.entered f mask report).Exact f mask ∧ LevelsPassed mask (s.entered f mask report) := by
  cases f with
  | r56WaitEvent =>
    have masked := levelEvents_masked (uscGetSerialSignals (s.info.reporting report)).serialSignals mask
    have within := levelEvents_within (uscGetSerialSignals (s.info.reporting report)).serialSignals
    unfold WaitState.entered
    dsimp only
    split
    · rename_i some
      rw [masked] at some ⊢
      exact ⟨⟨rfl, some, and_mask _ _, and_within within, fun e _ shown => .inl (and_bit shown),
        fun e _ since => absurd since id⟩, fun waits => absurd waits id⟩
    · rename_i none
      refine ⟨fun since => ?_, fun _ => ?_⟩
      · obtain ⟨e, _, since⟩ := since
        exact absurd since id
      · rw [← masked]
        exact not_not.mp none
  | modemInputWait =>
    refine ⟨fun since => ?_, fun _ => BitVec.and_zero⟩
    obtain ⟨e, _, since⟩ := since
    exact absurd since id

/-- The decision of `r56_wait_event`. -/
theorem waitLook_event (mask : U32) (old new : EventCounts) :
    (waitLook .r56WaitEvent mask old new = some .eio ∨ waitLook .r56WaitEvent mask old new = none) ∧
      mask &&& changedEvents old new = 0 ∨
    waitLook .r56WaitEvent mask old new = some (.events (mask &&& changedEvents old new)) ∧
      mask &&& changedEvents old new ≠ 0 := by
  unfold waitLook
  dsimp only
  split
  · rename_i same
    have none : mask &&& changedEvents old new = 0 := by
      by_contra some
      rw [changedEvents_eq] at some
      obtain ⟨e, asked, moved⟩ := and_eventBits some
      exact (unchangedEvents_iff old new).mp same e asked.1 (of_decide_eq_true moved)
    exact .inl ⟨.inl rfl, none⟩
  · split
    · rename_i some
      exact .inr ⟨rfl, some⟩
    · rename_i none
      exact .inl ⟨.inr rfl, not_not.mp none⟩

/-- The decision of `modem_input_wait`. -/
theorem waitLook_modem (mask : U32) (old new : EventCounts) :
    (waitLook .modemInputWait mask old new = some .eio ∨ waitLook .modemInputWait mask old new = none) ∧
      ¬changedInput mask old new ∨
    waitLook .modemInputWait mask old new = some .changed ∧ changedInput mask old new := by
  unfold waitLook
  dsimp only
  split
  · rename_i same
    refine .inl ⟨.inl rfl, fun moved => ?_⟩
    obtain ⟨e, asked, differs⟩ := (changedInput_iff mask old new).mp moved
    exact (unchangedInputs_iff old new).mp same e asked.1 differs
  · split
    · rename_i moved
      exact .inr ⟨rfl, moved⟩
    · rename_i still
      exact .inl ⟨.inr rfl, still⟩

/-- Giving up and sleeping on are right exactly when nothing asked for has occurred. -/
theorem looked_quiet {f : WaitFunction} {mask : U32} {s : WaitState} {old : EventCounts} (calm : s.signal = false)
    (quiet : waitLook f mask old s.info.eventCounts = some .eio ∨ waitLook f mask old s.info.eventCounts = none) :
    (s.looked f mask old).Exact f mask ↔ ∀ e : WaitedEvent, e.asked f mask → ¬s.since e := by
  unfold WaitState.looked
  rw [if_neg (Bool.eq_false_iff.mp calm)]
  rcases quiet with eio | sleep
  · rw [eio]
    exact Iff.rfl
  · rw [sleep]
    constructor
    · intro woken e asked since
      have sleeps : ¬false = true := by decide
      exact sleeps (woken ⟨e, asked, since⟩)
    · rintro none ⟨e, asked, since⟩
      exact absurd since (none e asked)

/-- Each event has a single bit. -/
theorem and_bit_cases (x : U32) (e : WaitedEvent) : x &&& e.bit = 0 ∨ x &&& e.bit = e.bit := by
  have single : ∃ i, e.bit = BitVec.twoPow 32 i := by
    match e with
    | .line .ri true => exact ⟨6, by decide⟩
    | .line .ri false => exact ⟨7, by decide⟩
    | .line .dsr true => exact ⟨0, by decide⟩
    | .line .dsr false => exact ⟨1, by decide⟩
    | .line .dcd true => exact ⟨4, by decide⟩
    | .line .dcd false => exact ⟨5, by decide⟩
    | .line .cts true => exact ⟨2, by decide⟩
    | .line .cts false => exact ⟨3, by decide⟩
    | .hunt => exact ⟨8, by decide⟩
    | .idle => exact ⟨9, by decide⟩
    | .input .ri => exact ⟨7, by decide⟩
    | .input .dsr => exact ⟨8, by decide⟩
    | .input .dcd => exact ⟨6, by decide⟩
    | .input .cts => exact ⟨5, by decide⟩
  obtain ⟨i, bit⟩ := single
  rw [bit, BitVec.and_twoPow]
  split
  · exact .inr rfl
  · exact .inl rfl

/-- What a mask asks for is not at a level it does not meet. -/
theorem not_level {mask level : U32} (passed : mask &&& level = 0) {e : WaitedEvent} (asked : mask &&& e.bit ≠ 0) :
    level &&& e.bit = 0 := by
  refine (and_bit_cases level e).resolve_right fun shown => asked ?_
  rw [← shown, ← BitVec.and_assoc, passed]
  exact BitVec.zero_and

theorem looked_event {mask : U32} {s : WaitState} {old : EventCounts} (calm : s.signal = false)
    (passed : mask &&& s.level = 0) :
    (s.looked .r56WaitEvent mask old).Exact .r56WaitEvent mask ↔ CountersTell .r56WaitEvent mask s old := by
  have bits {e : WaitedEvent} (here : e.function = .r56WaitEvent) :
      mask &&& changedEvents old s.info.eventCounts &&& e.bit ≠ 0 ↔
        e.asked .r56WaitEvent mask ∧ e.differs old s.info.eventCounts := by
    rw [changedEvents_eq, masked_eventBits here, decide_eq_true_iff]
  rcases waitLook_event mask old s.info.eventCounts with ⟨quiet, none⟩ | ⟨events, some⟩
  · rw [looked_quiet calm quiet]
    have same (e : WaitedEvent) (asked : e.asked .r56WaitEvent mask) : ¬e.differs old s.info.eventCounts := by
      intro differs
      have shown := (bits asked.1).mpr ⟨asked, differs⟩
      rw [none] at shown
      exact shown BitVec.zero_and
    constructor
    · exact fun nothing e asked => ⟨fun differs => absurd differs (same e asked), fun since => absurd since (nothing e asked)⟩
    · exact fun tell e asked since => same e asked ((tell e asked).mpr since)
  · have returned : s.looked .r56WaitEvent mask old =
        { s with phase := .returned (.events (mask &&& changedEvents old s.info.eventCounts)) } := by
      unfold WaitState.looked
      rw [if_neg (Bool.eq_false_iff.mp calm), events]
    have within : changedEvents old s.info.eventCounts &&& ~~~0x3ff = 0 := by
      rw [changedEvents_eq]
      exact eventBits_within _
    rw [returned]
    constructor
    · rintro ⟨_, _, _, _, reported, every⟩ e asked
      constructor
      · intro differs
        refine (reported e asked.1 ((bits asked.1).mpr ⟨asked, differs⟩)).resolve_left fun level => ?_
        exact level (not_level passed asked.2)
      · exact fun since => ((bits asked.1).mp (every e asked since)).2
    · intro tell
      refine ⟨rfl, some, and_mask _ _, and_within within, fun e here shown => ?_, fun e asked since => ?_⟩
      · obtain ⟨asked, differs⟩ := (bits here).mp shown
        exact .inr ((tell e asked).mp differs)
      · exact (bits asked.1).mpr ⟨asked, (tell e asked).mpr since⟩

theorem looked_modem {mask : U32} {s : WaitState} {old : EventCounts} (calm : s.signal = false) :
    (s.looked .modemInputWait mask old).Exact .modemInputWait mask ↔ CountersTell .modemInputWait mask s old := by
  have moves := changedInput_iff mask old s.info.eventCounts
  rcases waitLook_modem mask old s.info.eventCounts with ⟨quiet, still⟩ | ⟨changed, moved⟩
  · rw [looked_quiet calm quiet]
    constructor
    · intro nothing
      refine ⟨fun differs => absurd (moves.mpr differs) still, ?_⟩
      rintro ⟨e, asked, since⟩
      exact absurd since (nothing e asked)
    · intro tell e asked since
      exact still (moves.mpr (tell.mpr ⟨e, asked, since⟩))
  · have returned : s.looked .modemInputWait mask old = { s with phase := .returned .changed } := by
      unfold WaitState.looked
      rw [if_neg (Bool.eq_false_iff.mp calm), changed]
    rw [returned]
    constructor
    · exact fun since => ⟨fun _ => since, fun _ => moves.mp moved⟩
    · exact fun tell => tell.mp (moves.mp moved)

/-- Steps that are not of the call leave what it may do as it is. -/
theorem WaitState.Exact.other {f : WaitFunction} {mask : U32} {s t : WaitState} (right : s.Exact f mask)
    (phase : t.phase = s.phase) (level : t.level = s.level)
    (signal : s.signal = true → t.signal = true) (woken : s.woken = true → t.woken = true)
    (since : ∀ e : WaitedEvent, t.since e → s.since e ∨ s.phase.waits ∧ (e.asked f mask → t.woken = true))
    (kept : ∀ e : WaitedEvent, s.since e → t.since e) : t.Exact f mask := by
  unfold WaitState.Exact at right ⊢
  rw [phase, level]
  generalize s.phase = p at right since ⊢
  cases p with
  | outside => trivial
  | waiting old =>
    rintro ⟨e, asked, here⟩
    rcases since e here with before | now
    · exact woken (right ⟨e, asked, before⟩)
    · exact now.2 asked
  | returned result =>
    have same (e : WaitedEvent) (here : t.since e) : s.since e := (since e here).resolve_right fun now => now.1
    cases result with
    | events events =>
      obtain ⟨function, some, within, known, reported, every⟩ := right
      exact ⟨function, some, within, known, fun e here shown => (reported e here shown).imp_right (kept e),
        fun e asked here => every e asked (same e here)⟩
    | changed =>
      obtain ⟨e, asked, here⟩ := right
      exact ⟨e, asked, kept e here⟩
    | eio => exact fun e asked here => right e asked (same e here)
    | restartsys => exact signal right

/-- A step from a state that is right leads to one exactly when a look of the process is right. -/
theorem wait_step {f : WaitFunction} {mask : U32} {s t : WaitState} {label : WaitLabel} (right : s.Exact f mask)
    (passed : f = .r56WaitEvent → LevelsPassed mask s) (step : WaitStep f mask s label t) :
    t.Exact f mask ↔ LooksRight f mask s label := by
  have free {t : WaitState} {label : WaitLabel} (always : LooksRight f mask s label) (next : t.Exact f mask) :
      t.Exact f mask ↔ LooksRight f mask s label := ⟨fun _ => always, fun _ => next⟩
  have chip (info : R56Struct) : { s with info := info }.Exact f mask :=
    right.other rfl rfl id id (fun _ since => .inl since) fun _ since => since
  cases label with
  | enter report =>
    obtain ⟨_, rfl⟩ := step
    exact free trivial (entered_exact f mask s report).1
  | interrupt report =>
    obtain ⟨_, rfl⟩ := step
    refine free trivial (right.other rfl rfl id ?_ ?_ fun _ since => .inl since)
    · intro woken
      show (s.woken || _) = true
      rw [woken]
      exact Bool.true_or _
    · rintro e (before | ⟨waits, occurs⟩)
      · exact .inl before
      · refine .inr ⟨waits, fun asked => ?_⟩
        have wakes := occurs.wakes
        rw [asked.1] at wakes
        show (s.woken || decide _) = true
        rw [decide_eq_true wakes]
        exact Bool.or_true _
  | getStats reset =>
    cases step
    exact free trivial (chip _)
  | otherEnters mask report =>
    cases step
    exact free trivial (chip _)
  | otherLeaves mask active =>
    cases step
    exact free trivial (chip _)
  | signal =>
    cases step
    exact free trivial (right.other rfl rfl (fun _ => rfl) id (fun _ since => .inl since) fun _ since => since)
  | look =>
    obtain ⟨old, phase, _, rfl⟩ := step
    by_cases signal : s.signal = true
    · have returned : s.looked f mask old = { s with phase := .returned .restartsys } := if_pos signal
      rw [returned]
      exact ⟨fun _ calm => absurd signal (Bool.eq_false_iff.mp calm), fun _ => signal⟩
    · have calm := Bool.eq_false_iff.mpr signal
      have tells : LooksRight f mask s .look ↔ CountersTell f mask s old := by
        constructor
        · exact fun looks => looks calm old phase
        · intro tell _ other same
          rw [phase] at same
          cases same
          exact tell
      rw [tells]
      cases f with
      | r56WaitEvent =>
        have waits : s.phase.waits := by
          rw [phase]
          trivial
        exact looked_event calm (passed rfl waits)
      | modemInputWait => exact looked_modem calm

theorem LevelsPassed.step {f : WaitFunction} {mask : U32} {s t : WaitState} {label : WaitLabel}
    (passed : LevelsPassed mask s) (step : WaitStep f mask s label t) : LevelsPassed mask t := by
  cases label with
  | enter report =>
    obtain ⟨_, rfl⟩ := step
    exact (entered_exact f mask s report).2
  | interrupt report =>
    obtain ⟨_, rfl⟩ := step
    exact passed
  | getStats reset => cases step; exact passed
  | otherEnters mask report => cases step; exact passed
  | otherLeaves mask active => cases step; exact passed
  | signal => cases step; exact passed
  | look =>
    obtain ⟨old, phase, _, rfl⟩ := step
    have level : (s.looked f mask old).level = s.level := by
      unfold WaitState.looked
      split
      · rfl
      · split
        · rfl
        · rfl
    intro _
    rw [level]
    refine passed ?_
    rw [phase]
    trivial

/-- A process that sleeps on saw nothing it asked for. -/
theorem waitLook_none {f : WaitFunction} {mask : U32} {old new : EventCounts} (quiet : waitLook f mask old new = none)
    {e : WaitedEvent} (asked : e.asked f mask) : ¬e.differs old new := by
  intro differs
  cases f with
  | r56WaitEvent =>
    rcases waitLook_event mask old new with ⟨_, none⟩ | ⟨some, _⟩
    · have shown := (@masked_eventBits mask (fun e => decide (e.differs old new)) e asked.1).mpr
        ⟨asked, decide_eq_true differs⟩
      rw [← changedEvents_eq, none] at shown
      exact shown BitVec.zero_and
    · rw [quiet] at some
      cases some
  | modemInputWait =>
    rcases waitLook_modem mask old new with ⟨_, still⟩ | ⟨some, _⟩
    · exact still ((changedInput_iff mask old new).mpr ⟨e, asked, differs⟩)
    · rw [quiet] at some
      cases some

/-- The counters are ahead of the snapshot by the events reported since, of which there are at most
`k`, and an event asked for is among them if it was reported since entry. -/
def Counted (f : WaitFunction) (mask : U32) (k : Nat) (s : WaitState) : Prop :=
  ∀ old, s.phase = .waiting old → ∀ e : WaitedEvent, ∃ n ≤ k,
    e.counter s.info.eventCounts = e.wrap (e.counter old + n) ∧ (e.asked f mask → (n ≠ 0 ↔ s.since e))

/-- The counters are not reset while the process waits. -/
def NotReset (s : WaitState) (label : WaitLabel) : Prop := s.phase.waits → label ≠ .getStats true

theorem Counted.differs {f : WaitFunction} {mask : U32} {k : Nat} {s : WaitState} {old : EventCounts}
    (counted : Counted f mask k s) (few : k < 2 ^ 32) (phase : s.phase = .waiting old) {e : WaitedEvent}
    (asked : e.asked f mask) : e.differs old s.info.eventCounts ↔ s.since e := by
  obtain ⟨n, least, ahead, since⟩ := counted old phase e
  have apart : e.wrap (e.counter old + n) ≠ e.counter old ↔ n ≠ 0 := e.wrap_ne (e.wrap_counter old) (by omega)
  rw [← since asked, ← apart, ← ahead]
  rfl

theorem Counted.tell {f : WaitFunction} {mask : U32} {k : Nat} {s : WaitState} {old : EventCounts}
    (counted : Counted f mask k s) (few : k < 2 ^ 32) (phase : s.phase = .waiting old) : CountersTell f mask s old := by
  cases f with
  | r56WaitEvent => exact fun e asked => counted.differs few phase asked
  | modemInputWait =>
    exact exists_congr fun e => and_congr_right fun asked => counted.differs few phase asked

theorem Counted.step {f : WaitFunction} {mask : U32} {k : Nat} {s t : WaitState} {label : WaitLabel}
    (counted : Counted f mask k s) (few : k < 2 ^ 32) (kept : NotReset s label) (step : WaitStep f mask s label t) :
    Counted f mask (k + 1) t := by
  have chip (info : R56Struct) (tally : info.tally = s.info.tally) : Counted f mask (k + 1) { s with info := info } := by
    intro old phase e
    obtain ⟨n, least, ahead, since⟩ := counted old phase e
    refine ⟨n, by omega, ?_, since⟩
    rw [← ahead, counter_eq_count, counter_eq_count, ← tally]
  have fresh (t : WaitState) (old : EventCounts) (same : old = t.info.eventCounts)
      (none : ∀ e : WaitedEvent, e.asked f mask → ¬t.since e) (e : WaitedEvent) :
      ∃ n ≤ k + 1, e.counter t.info.eventCounts = e.wrap (e.counter old + n) ∧ (e.asked f mask → (n ≠ 0 ↔ t.since e)) := by
    refine ⟨0, Nat.zero_le _, ?_, fun asked => ⟨fun some => absurd rfl some, fun since => absurd since (none e asked)⟩⟩
    rw [same, counter_eq_count, Nat.add_zero, e.wrap_count]
  cases label with
  | enter report =>
    obtain ⟨_, rfl⟩ := step
    intro old phase
    refine fresh _ old ?_ fun e _ since => ?_
    · cases f with
      | r56WaitEvent =>
        unfold WaitState.entered at phase ⊢
        dsimp only at phase ⊢
        split at phase
        · cases phase
        · rename_i passed
          cases phase
          rw [if_neg passed]
          rfl
      | modemInputWait =>
        cases phase
        rfl
    · cases f with
      | r56WaitEvent =>
        unfold WaitState.entered at since
        dsimp only at since
        split at since
        · exact since
        · exact since
      | modemInputWait => exact since
  | interrupt report =>
    obtain ⟨vector, rfl⟩ := step
    intro old phase e
    obtain ⟨n, least, ahead, since⟩ := counted old phase e
    have counts := r56Interrupt_count (s.info.reporting report) vector e
    refine ⟨n + if e.occurs (s.info.reporting report) then 1 else 0, ?_, ?_, fun asked => ?_⟩
    · split
      · omega
      · omega
    · show e.counter (r56Interrupt (s.info.reporting report)).eventCounts = _
      rw [counter_eq_count, counts, ← Nat.add_assoc, ← e.wrap_add (e.counter old + n), ← ahead, counter_eq_count]
      rfl
    · have waits : s.phase.waits := by
        rw [phase]
        trivial
      show _ ↔ s.since e ∨ s.phase.waits ∧ e.occurs (s.info.reporting report)
      rw [← since asked]
      split
      · rename_i occurs
        exact ⟨fun _ => .inr ⟨waits, occurs⟩, fun _ => Nat.succ_ne_zero n⟩
      · rename_i quiet
        exact ⟨fun some => .inl some, fun either => either.resolve_right fun now => quiet now.2⟩
  | getStats reset =>
    cases step
    cases reset with
    | false => exact chip s.info rfl
    | true =>
      intro old phase
      refine absurd rfl (kept ?_)
      rw [phase]
      trivial
  | otherEnters mask report =>
    cases step
    exact chip _ rfl
  | otherLeaves mask active =>
    cases step
    exact chip _ rfl
  | signal =>
    cases step
    exact chip s.info rfl
  | look =>
    obtain ⟨before, waiting, _, rfl⟩ := step
    intro old phase
    unfold WaitState.looked at phase ⊢
    split at phase
    · cases phase
    rename_i calm
    rw [if_neg calm]
    cases looked : waitLook f mask before s.info.eventCounts with
    | some result =>
      rw [looked] at phase
      cases phase
    | none =>
      rw [looked] at phase
      cases phase
      refine fresh _ _ rfl fun e asked since => ?_
      have differs := (counted.differs few waiting asked).mpr since
      exact waitLook_none looked asked differs

/-- Without a reset, every look of a run of fewer than 2^32 steps is right. -/
theorem Counted.run {f : WaitFunction} {mask : U32} {p : List (WaitLabel × WaitState)} {s : WaitState} {k : Nat}
    (counted : Counted f mask k s) (few : k + p.length ≤ 2 ^ 32) (run : Run (WaitStep f mask) s p)
    (kept : Run (fun s label _ => NotReset s label) s p) : Run (fun s label _ => LooksRight f mask s label) s p := by
  induction p generalizing s k with
  | nil => trivial
  | cons head rest ih =>
    obtain ⟨label, t⟩ := head
    rw [List.length_cons] at few
    have now : k < 2 ^ 32 := by omega
    have right : LooksRight f mask s label := by
      cases label with
      | look => exact fun _ old phase => counted.tell now phase
      | enter report => trivial
      | interrupt report => trivial
      | getStats reset => trivial
      | otherEnters mask report => trivial
      | otherLeaves mask active => trivial
      | signal => trivial
    exact ⟨right, ih (counted.step now kept.1 run.1) (by omega) run.2 kept.2⟩

/-- The call is exact in every state of a run exactly when the counters tell what has occurred
wherever the process looks at them; without a reset while it waits, they do. -/
theorem event_wait_exact_iff (f : WaitFunction) (mask : U32) (info : R56Struct) (p : List (WaitLabel × WaitState))
    (run : Run (WaitStep f mask) { info := info } p) :
    ((∀ x ∈ p, x.2.Exact f mask) ↔ Run (fun s label _ => LooksRight f mask s label) { info := info } p) ∧
      (Run (fun s label _ => NotReset s label) { info := info } p → p.length ≤ 2 ^ 32 →
        ∀ x ∈ p, x.2.Exact f mask) := by
  have exact_step : ∀ s label t, s.Exact f mask → LevelsPassed mask s → WaitStep f mask s label t →
      (t.Exact f mask ↔ LooksRight f mask s label) :=
    fun _ _ _ right passed step => wait_step right (fun _ => passed) step
  have preserved : ∀ s label t, LevelsPassed mask s → WaitStep f mask s label t → LevelsPassed mask t :=
    fun _ _ _ passed step => passed.step step
  have outside : LevelsPassed mask { info := info } := fun waits => absurd waits id
  have good := Run.good_iff exact_step preserved run trivial outside
  refine ⟨good, fun kept few => good.mpr ?_⟩
  have start : Counted f mask 0 { info := info } := fun old phase => nomatch phase
  exact start.run (by omega) run kept

def quietReport : UscReport where
  status := fun _ => 0

/-- The ring indicator goes up. -/
def ringReport : UscReport where
  status
    | .ivr => 0x0400
    | .misr => miscstatusRiLatched ||| miscstatusRi
    | _ => 0

/-- The state after the interrupt of `ringReport`. -/
def WaitState.rings (s : WaitState) (f : WaitFunction) : WaitState :=
  { s with
    info := r56Interrupt (s.info.reporting ringReport)
    woken := s.woken || decide (wakesQueue f (s.info.reporting ringReport))
    since := fun e => s.since e ∨ s.phase.waits ∧ e.occurs (s.info.reporting ringReport) }

theorem entered_waits {mask : U32} {s : WaitState} {report : UscReport}
    (passed : levelEvents (uscGetSerialSignals (s.info.reporting report)).serialSignals mask = 0) :
    (s.entered .r56WaitEvent mask report).phase =
      .waiting (s.entered .r56WaitEvent mask report).info.eventCounts := by
  have passed : ¬levelEvents (uscGetSerialSignals (s.info.reporting report)).serialSignals mask ≠ 0 := not_not.mpr passed
  unfold WaitState.entered
  dsimp only
  rw [if_neg passed]
  rfl

theorem looked_returns {mask : U32} {s : WaitState} {old : EventCounts} (calm : s.signal = false)
    (some : mask &&& changedEvents old s.info.eventCounts ≠ 0) :
    (s.looked .r56WaitEvent mask old).phase = .returned (.events (mask &&& changedEvents old s.info.eventCounts)) := by
  unfold WaitState.looked
  rw [if_neg (Bool.eq_false_iff.mp calm)]
  rcases waitLook_event mask old s.info.eventCounts with ⟨_, none⟩ | ⟨events, _⟩
  · exact absurd none some
  · rw [events]

theorem entered_since (s : WaitState) (f : WaitFunction) (mask : U32) (report : UscReport) :
    (s.entered f mask report).since = fun _ => False := by
  unfold WaitState.entered
  cases f with
  | r56WaitEvent =>
    dsimp only
    split
    · rfl
    · rfl
  | modemInputWait => rfl

theorem looked_since (s : WaitState) (f : WaitFunction) (mask : U32) (old : EventCounts) :
    (s.looked f mask old).since = s.since := by
  unfold WaitState.looked
  split
  · rfl
  · split
    · rfl
    · rfl

/-- A process waits for the ring indicator, which goes up. -/
theorem event_wait_exact_iff_rings :
    let s : WaitState := { info := {} }
    let waiting := s.entered .r56WaitEvent rt56EventRiActive quietReport
    let rung := waiting.rings .r56WaitEvent
    let done := rung.looked .r56WaitEvent rt56EventRiActive waiting.info.eventCounts
    done.phase = .returned (.events rt56EventRiActive) ∧ done.Exact .r56WaitEvent rt56EventRiActive := by
  intro s waiting rung done
  have waits : waiting.phase = .waiting waiting.info.eventCounts := entered_waits (by decide)
  have woken : rung.woken = true := by decide +kernel
  have vector : (waiting.info.reporting ringReport).uscVector = 2 := by decide +kernel
  have run : Run (WaitStep .r56WaitEvent rt56EventRiActive) s
      [(.enter quietReport, waiting), (.interrupt ringReport, rung), (.look, done)] :=
    ⟨⟨rfl, rfl⟩, ⟨.inl vector, rfl⟩, ⟨_, waits, .inl woken, rfl⟩, trivial⟩
  have kept : Run (fun s label _ => NotReset s label) s
      [(.enter quietReport, waiting), (.interrupt ringReport, rung), (.look, done)] :=
    ⟨fun _ => nofun, fun _ => nofun, fun _ => nofun, trivial⟩
  have exact_run := (event_wait_exact_iff .r56WaitEvent rt56EventRiActive {} _ run).2 kept (by simp)
  have changed : changedEvents waiting.info.eventCounts rung.info.eventCounts = rt56EventRiActive := by decide +kernel
  have returns : done.phase = .returned (.events (rt56EventRiActive &&& changedEvents _ _)) :=
    looked_returns (by decide +kernel) (by rw [changed]; decide)
  rw [changed] at returns
  exact ⟨returns, exact_run (.look, done) (by simp)⟩

/-- A process waits for the exit from hunt mode when the counters are reset. The ring indicator
wakes it, and it returns an exit from hunt mode that has not occurred. -/
theorem reset_reports_hunt :
    let s : WaitState := { info := { icount := { exithunt := 1 } } }
    let waiting := s.entered .r56WaitEvent rt56EventExitHuntMode quietReport
    let reset := { waiting with info := r56ResetStats waiting.info }
    let rung := reset.rings .r56WaitEvent
    let done := rung.looked .r56WaitEvent rt56EventExitHuntMode waiting.info.eventCounts
    Run (WaitStep .r56WaitEvent rt56EventExitHuntMode) s
      [(.enter quietReport, waiting), (.getStats true, reset), (.interrupt ringReport, rung), (.look, done)] ∧
    done.phase = .returned (.events rt56EventExitHuntMode) ∧ done.level &&& rt56EventExitHuntMode = 0 ∧
    ¬done.since .hunt ∧ ¬done.Exact .r56WaitEvent rt56EventExitHuntMode := by
  intro s waiting reset rung done
  have waits : waiting.phase = .waiting waiting.info.eventCounts := entered_waits (by decide)
  have woken : rung.woken = true := by decide +kernel
  have vector : (reset.info.reporting ringReport).uscVector = 2 := by decide +kernel
  have changed : rt56EventExitHuntMode &&& changedEvents waiting.info.eventCounts rung.info.eventCounts =
      rt56EventExitHuntMode := by
    decide +kernel
  have returns : done.phase = .returned (.events (rt56EventExitHuntMode &&& changedEvents _ _)) :=
    looked_returns (by decide +kernel) (by rw [changed]; decide)
  rw [changed] at returns
  have level : done.level &&& rt56EventExitHuntMode = 0 := by decide +kernel
  have never : ¬done.since .hunt := by
    have since : done.since = rung.since := looked_since rung _ _ _
    have before : waiting.since .hunt ↔ False := by
      rw [entered_since]
    rw [since]
    rintro (entered | ⟨_, occurs⟩)
    · exact before.mp entered
    · exact absurd occurs.1 (by rw [vector]; decide)
  refine ⟨⟨⟨rfl, rfl⟩, rfl, ⟨.inl vector, rfl⟩, ⟨_, waits, .inl woken, rfl⟩, trivial⟩, returns, level, never, ?_⟩
  unfold WaitState.Exact
  rw [returns]
  rintro ⟨_, _, _, _, reported, _⟩
  rcases reported .hunt rfl (by decide) with shown | since
  · exact shown level
  · exact never since

end Route56
