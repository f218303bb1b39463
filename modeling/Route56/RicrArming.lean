import Route56.Events
import Route56.Lib.Transition

namespace Route56

open Transition

/-- The masks of the processes on `event_wait_q`, of those that have been taken off it but
have not returned, and of the last one to return. -/
structure ArmState where
  info : R56Struct
  waiting : List U32 := []
  leaving : List U32 := []
  lastLeft : U32 := 0

inductive ArmEvent
  | enter (mask : U32)
  | remove (mask : U32)
  | leave (mask : U32)

def ArmState.ricr (s : ArmState) : U16 := uscInReg s.info.usc .ricr

/-- The events in the mask are not yet to be seen on the input lines. -/
def R56Struct.mustWait (info : R56Struct) (mask : U32) : Prop :=
  levelEvents (uscGetSerialSignals info).serialSignals mask = 0

instance (info : R56Struct) (mask : U32) : Decidable (info.mustWait mask) :=
  inferInstanceAs (Decidable (_ = _))

def ArmState.entered (s : ArmState) (mask : U32) : ArmState :=
  let info := uscGetSerialSignals s.info
  { s with info := { info with usc := armEvents info.usc mask }, waiting := mask :: s.waiting }

def ArmState.removed (s : ArmState) (mask : U32) : ArmState :=
  { s with waiting := s.waiting.erase mask, leaving := mask :: s.leaving }

def ArmState.left (s : ArmState) (mask : U32) : ArmState :=
  { s with
    info := { s.info with usc := disarmEvents s.info.usc mask !s.waiting.isEmpty }
    leaving := s.leaving.erase mask
    lastLeft := mask }

inductive ArmStep : ArmState → ArmEvent → ArmState → Prop
  | level {s : ArmState} {mask : U32} (here : ¬s.info.mustWait mask) :
      ArmStep s (.enter mask) { s with info := uscGetSerialSignals s.info }
  | enter {s : ArmState} {mask : U32} (wait : s.info.mustWait mask) : ArmStep s (.enter mask) (s.entered mask)
  | remove {s : ArmState} {mask : U32} (waits : mask ∈ s.waiting) : ArmStep s (.remove mask) (s.removed mask)
  | leave {s : ArmState} {mask : U32} (leaves : mask ∈ s.leaving) : ArmStep s (.leave mask) (s.left mask)

def armedBits : U16 := rxstatusExitedHunt + rxstatusIdleReceived

/-- The bits asked for are set, both are clear when the last process that asked has left, and
the other bits are those of `base`. -/
structure ArmState.Exact (base : U16) (s : ArmState) : Prop where
  armed : ∀ mask ∈ s.waiting, s.ricr &&& armBits mask = armBits mask
  disarmed : s.waiting = [] → s.leaving = [] → armBits s.lastLeft ≠ 0 → s.ricr &&& armedBits = 0
  others : s.ricr &&& ~~~armedBits = base &&& ~~~armedBits

/-- A process that will wait does not ask for a bit that is armed already. -/
def armsFresh (s : ArmState) : ArmEvent → Prop
  | .enter mask => s.info.mustWait mask → s.ricr &&& armBits mask = 0
  | _ => True

theorem armBits_cases (mask : U32) :
    armBits mask = 0 ∨ armBits mask = 0x40 ∨ armBits mask = 0x80 ∨ armBits mask = 0xc0 := by
  unfold armBits
  split
  · split
    · exact .inr (.inr (.inr rfl))
    · exact .inr (.inr (.inl rfl))
  · split
    · exact .inr (.inl rfl)
    · exact .inl rfl

theorem armBits_within (mask : U32) : armBits mask &&& armedBits = armBits mask := by
  rcases armBits_cases mask with bits | bits | bits | bits <;> rw [bits] <;> rfl

theorem armBits_of_none {mask : U32} (none : mask &&& rt56EventHuntIdle = 0) : armBits mask = 0 := by
  have part (bit : U32) (within : rt56EventHuntIdle &&& bit = bit) : mask &&& bit = 0 := by
    rw [← within, ← BitVec.and_assoc, none]
    exact BitVec.zero_and
  unfold armBits
  rw [part rt56EventExitHuntMode (by decide), part rt56EventIdleReceived (by decide)]
  rfl

/-- The two fields of a word. -/
theorem split_armed (x : U16) : x = (x &&& armedBits) + (x &&& ~~~armedBits) := by
  have apart : (x &&& armedBits) &&& (x &&& ~~~armedBits) = 0 := by
    rw [BitVec.and_assoc, BitVec.and_comm x (~~~armedBits), ← BitVec.and_assoc armedBits, BitVec.and_not_self]
    simp
  rw [BitVec.add_eq_or_of_and_eq_zero _ _ apart, ← BitVec.and_or_distrib_left, BitVec.or_not_self, BitVec.and_allOnes]

theorem field_cases {field : U16} (within : field &&& armedBits = field) :
    field = 0 ∨ field = 0x40 ∨ field = 0x80 ∨ field = 0xc0 := by
  have bound : field.toNat < 193 := by
    have least := Nat.and_le_right (n := field.toNat) (m := 192)
    rw [← within, BitVec.toNat_and]
    exact Nat.lt_succ_of_le least
  have all : ∀ n < 193, BitVec.ofNat 16 n &&& armedBits = BitVec.ofNat 16 n →
      BitVec.ofNat 16 n = 0 ∨ BitVec.ofNat 16 n = 0x40 ∨ BitVec.ofNat 16 n = 0x80 ∨ BitVec.ofNat 16 n = 0xc0 := by
    decide +kernel
  have here := all field.toNat bound
  rw [BitVec.ofNat_toNat, BitVec.setWidth_eq] at here
  exact here within

/-- A sum of two-bit fields that keeps the bits added has no carry. -/
theorem field_add {field bits : U16} (fieldIn : field &&& armedBits = field) (bitsIn : bits &&& armedBits = bits)
    (kept : (field + bits) &&& bits = bits) : field &&& bits = 0 := by
  rcases field_cases fieldIn with rfl | rfl | rfl | rfl <;> rcases field_cases bitsIn with rfl | rfl | rfl | rfl <;>
    first | rfl | exact absurd kept (by decide)

/-- Adding the bits of a mask sets them and leaves the rest alone exactly when they were clear. -/
theorem add_armBits_iff (old : U16) (mask : U32) :
    ((old + armBits mask) &&& ~~~armedBits = old &&& ~~~armedBits ∧
      (old + armBits mask) &&& armBits mask = armBits mask) ↔ old &&& armBits mask = 0 := by
  have within := armBits_within mask
  generalize armBits mask = bits at within ⊢
  constructor
  · rintro ⟨others, kept⟩
    -- both words have the same rest, so their two-bit fields differ by the bits added
    have fields : (old &&& armedBits) + bits = (old + bits) &&& armedBits := by
      have sum := split_armed (old + bits)
      rw [others] at sum
      have parts := split_armed old
      generalize old &&& ~~~armedBits = rest at sum parts
      generalize (old + bits) &&& armedBits = after at sum ⊢
      generalize old &&& armedBits = before at parts ⊢
      rw [parts, BitVec.add_assoc, BitVec.add_comm rest, ← BitVec.add_assoc] at sum
      exact (BitVec.add_left_inj rest).mp sum
    have inField : old &&& armedBits &&& armedBits = old &&& armedBits := by
      rw [BitVec.and_assoc, BitVec.and_self]
    have keptField : ((old &&& armedBits) + bits) &&& bits = bits := by
      rw [fields, BitVec.and_assoc, BitVec.and_comm armedBits, within, kept]
    have none := field_add inField within keptField
    rw [BitVec.and_assoc, BitVec.and_comm armedBits, within] at none
    exact none
  · intro clear
    have outside : bits &&& ~~~armedBits = 0 := by
      rw [← within, BitVec.and_assoc, BitVec.and_not_self]
      exact BitVec.and_zero
    rw [BitVec.add_eq_or_of_and_eq_zero _ _ clear]
    constructor
    · rw [BitVec.and_or_distrib_right, outside]
      exact BitVec.or_zero
    · rw [BitVec.and_or_distrib_right, clear, BitVec.and_self]
      exact BitVec.zero_or

theorem ricr_written (u : Usc) (value : U16) : uscInReg (uscOutReg u .ricr value) .ricr = value := by
  show Function.update u.reg .ricr value .ricr = value
  exact Function.update_self _ _ _

theorem armEvents_ricr (u : Usc) (mask : U32) :
    uscInReg (armEvents u mask) .ricr = uscInReg u .ricr + armBits mask := by
  unfold armEvents
  by_cases asks : mask &&& rt56EventHuntIdle ≠ 0
  · rw [if_pos asks]
    dsimp only
    split
    · exact ricr_written _ _
    · rename_i same
      exact not_not.mp same
  · rw [if_neg asks, armBits_of_none (not_not.mp asks)]
    exact (BitVec.add_zero _).symm

theorem entered_ricr (s : ArmState) (mask : U32) : (s.entered mask).ricr = s.ricr + armBits mask :=
  armEvents_ricr (uscGetSerialSignals s.info).usc mask

theorem left_ricr (s : ArmState) (mask : U32) :
    (s.left mask).ricr =
      if mask &&& rt56EventHuntIdle ≠ 0 ∧ s.waiting = [] then s.ricr &&& ~~~armedBits else s.ricr := by
  unfold ArmState.left ArmState.ricr disarmEvents
  dsimp only
  by_cases asks : mask &&& rt56EventHuntIdle ≠ 0
  · rw [if_pos asks]
    cases s.waiting with
    | nil =>
      rw [if_neg (by decide), if_pos ⟨asks, rfl⟩]
      exact ricr_written _ _
    | cons first rest =>
      have active : (!(first :: rest).isEmpty) = true := rfl
      rw [if_pos active, if_neg fun h => List.cons_ne_nil _ _ h.2]
  · rw [if_neg asks, if_neg fun h => asks h.1]

theorem entered_exact_iff {base : U16} {s : ArmState} (exact : s.Exact base) (mask : U32) :
    (s.entered mask).Exact base ↔ s.ricr &&& armBits mask = 0 := by
  rw [← add_armBits_iff]
  have ricr := entered_ricr s mask
  constructor
  · intro after
    have others := after.others
    have armed := after.armed mask List.mem_cons_self
    rw [ricr] at others armed
    exact ⟨others.trans exact.others.symm, armed⟩
  · rintro ⟨others, kept⟩
    have clear := (add_armBits_iff _ _).mp ⟨others, kept⟩
    refine ⟨fun other waits => ?_, fun none => absurd none (List.cons_ne_nil _ _), ?_⟩
    · rw [ricr]
      rcases List.mem_cons.mp waits with rfl | before
      · exact kept
      · have armed := exact.armed other before
        rw [BitVec.add_eq_or_of_and_eq_zero _ _ clear, BitVec.and_or_distrib_right, armed]
        ext i inside
        simp only [BitVec.getElem_or, BitVec.getElem_and]
        cases (armBits other)[i] <;> simp
    · rw [ricr]
      exact others.trans exact.others

theorem removed_exact {base : U16} {s : ArmState} (exact : s.Exact base) (mask : U32) :
    (s.removed mask).Exact base :=
  ⟨fun other waits => exact.armed other (List.mem_of_mem_erase waits),
    fun _ none => absurd none (List.cons_ne_nil _ _), exact.others⟩

theorem left_exact {base : U16} {s : ArmState} (exact : s.Exact base) (mask : U32) : (s.left mask).Exact base := by
  have ricr := left_ricr s mask
  refine ⟨fun other waits => ?_, fun none _ asks => ?_, ?_⟩
  · have waiting : other ∈ s.waiting := waits
    rw [ricr, if_neg fun h => absurd (h.2 ▸ waiting) List.not_mem_nil]
    exact exact.armed other waiting
  · have asked : mask &&& rt56EventHuntIdle ≠ 0 := fun none => asks (armBits_of_none none)
    rw [ricr, if_pos ⟨asked, none⟩, BitVec.and_assoc, BitVec.and_comm _ armedBits, BitVec.and_not_self]
    exact BitVec.and_zero
  · rw [ricr]
    split
    · rw [BitVec.and_assoc, BitVec.and_self]
      exact exact.others
    · exact exact.others

/-- Step lemma: arming stays exact exactly when the step arms fresh bits. -/
theorem armStep_exact_iff {base : U16} {s t : ArmState} {event : ArmEvent} (exact : s.Exact base)
    (step : ArmStep s event t) : t.Exact base ↔ armsFresh s event := by
  cases step with
  | level here =>
    have same : ArmState.Exact base { s with info := uscGetSerialSignals s.info } :=
      ⟨exact.armed, exact.disarmed, exact.others⟩
    exact iff_of_true same fun wait => absurd wait here
  | enter wait =>
    rw [entered_exact_iff exact]
    exact ⟨fun clear _ => clear, fun fresh => fresh wait⟩
  | remove => exact iff_of_true (removed_exact exact _) trivial
  | leave => exact iff_of_true (left_exact exact _) trivial

/-- From a state in which nobody waits, arming is exact in every state of a run exactly when
no process waits for an event whose interrupt is armed already. -/
theorem ricr_arming_exact_iff {s : ArmState} {run : List (ArmEvent × ArmState)} (waiting : s.waiting = [])
    (fresh : s.lastLeft = 0) (steps : Run ArmStep s run) :
    (∀ x ∈ run, x.2.Exact s.ricr) ↔ Run (fun t event _ => armsFresh t event) s run := by
  have start : s.Exact s.ricr := by
    refine ⟨fun mask waits => ?_, fun _ _ asks => ?_, rfl⟩
    · rw [waiting] at waits
      exact absurd waits List.not_mem_nil
    · rw [fresh] at asks
      exact absurd asks (by decide)
  exact Run.good_iff (fun _ _ _ exact _ step => armStep_exact_iff exact step) (fun _ _ _ _ _ => trivial)
    steps start trivial

/-- One process waits for the end of hunt mode and another for an idle line, and both leave. -/
theorem ricr_arming_exact_iff_entered :
    let s : ArmState := { info := openedDevice }
    let hunt := s.entered rt56EventExitHuntMode
    let both := hunt.entered rt56EventIdleReceived
    let removed := both.removed rt56EventExitHuntMode
    let idle := removed.left rt56EventExitHuntMode
    let nobody := idle.removed rt56EventIdleReceived
    let quiet := nobody.left rt56EventIdleReceived
    both.ricr &&& armedBits = armedBits ∧ quiet.ricr &&& armedBits = 0 ∧
      both.Exact s.ricr ∧ idle.Exact s.ricr ∧ quiet.Exact s.ricr := by
  intro s hunt both removed idle nobody quiet
  have steps : Run ArmStep s [(.enter rt56EventExitHuntMode, hunt), (.enter rt56EventIdleReceived, both),
      (.remove rt56EventExitHuntMode, removed), (.leave rt56EventExitHuntMode, idle),
      (.remove rt56EventIdleReceived, nobody), (.leave rt56EventIdleReceived, quiet)] :=
    ⟨.enter (by decide), .enter (by decide), .remove (by decide), .leave (by decide), .remove (by decide),
      .leave (by decide), trivial⟩
  have exact := (ricr_arming_exact_iff rfl rfl steps).mpr
    ⟨fun _ => by decide, fun _ => by decide, trivial, trivial, trivial, trivial, trivial⟩
  exact ⟨by decide, by decide, exact _ (.tail _ List.mem_cons_self),
    exact _ (.tail _ (.tail _ (.tail _ List.mem_cons_self))), exact _ (List.mem_of_getLast? rfl)⟩

/-- A second process waits for the end of hunt mode: its addition carries, and the interrupt
both wait for is off. -/
theorem second_waiter_disarms :
    let s : ArmState := { info := openedDevice }
    let first := s.entered rt56EventExitHuntMode
    let second := first.entered rt56EventExitHuntMode
    s.waiting = [] ∧ s.lastLeft = 0 ∧
      Run ArmStep s [(.enter rt56EventExitHuntMode, first), (.enter rt56EventExitHuntMode, second)] ∧
      second.ricr &&& rxstatusExitedHunt = 0 ∧ ¬second.Exact s.ricr := by
  intro s first second
  have wait : s.info.mustWait rt56EventExitHuntMode := by decide
  have waitAgain : first.info.mustWait rt56EventExitHuntMode := by decide
  have off : second.ricr &&& rxstatusExitedHunt = 0 := by decide
  refine ⟨rfl, rfl, ⟨.enter wait, .enter waitAgain, trivial⟩, off, fun exact => ?_⟩
  have armed := exact.armed rt56EventExitHuntMode List.mem_cons_self
  have asked : armBits rt56EventExitHuntMode = rxstatusExitedHunt := by decide
  rw [asked, off] at armed
  exact absurd armed (by decide)

end Route56
