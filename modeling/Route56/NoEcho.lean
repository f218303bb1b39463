import Route56.Line
import Route56.Lib.Transition

namespace Route56

open Transition

/-- The request is an ioctl or a change of the termios that may set the line or the receiver. -/
def asksReceiver (op : Op) : Prop := setsLine op ∨ ∃ enable, op = .rxenable enable

/-- Whether a receiver that a frame has silenced has been started again since the last
frame was begun: only `r56_bh_receive` does, after a receive count underrun. -/
def reopens (info : R56Struct) (op : Op) (reopened : Bool) : Bool :=
  if beginsFrame info op then false
  else match op with
    | .bhReceive => reopened || info.rxRccUnderrun
    | _ => reopened

/-- The same at the end of a run. -/
def reopened (info : R56Struct) : List (Op × R56Struct) → Bool → Bool
  | [], before => before
  | (op, after) :: rest, before => reopened after rest (reopens info op before)

theorem lineAfter_interface (info : R56Struct) (op : Op) : (lineAfter info op).interface = info.line.interface := by
  have begun : (if beginsFrame info op then info.line.begun else info.line).interface = info.line.interface := by
    split
    · rfl
    · rfl
  unfold lineAfter
  dsimp only
  split
  · split
    · exact begun
    · exact begun
  · split
    · exact begun
    · exact begun
  · split
    · exact begun
    · split
      · exact begun
      · exact begun
  · split
    · exact begun
    · exact begun
  · split
    · exact begun
    · exact begun
  · exact begun

theorem lineAfter_rxEnabled {info : R56Struct} {op : Op} (noEcho : info.line.noEcho = true)
    (free : ¬asksReceiver op) : (lineAfter info op).rxEnabled = reopens info op info.rxEnabled := by
  have silenced : info.line.begun.rxEnabled = false := by
    exact (congrArg (info.rxEnabled && !·) noEcho).trans (Bool.and_false _)
  have framed : (if beginsFrame info op then info.line.begun else info.line).rxEnabled =
      if beginsFrame info op then false else info.rxEnabled := by
    split
    · exact silenced
    · rfl
  cases op with
  | throttle =>
    unfold lineAfter
    dsimp only
    split
    · exact framed
    · exact framed
  | unthrottle =>
    unfold lineAfter
    dsimp only
    split
    · exact framed
    · exact framed
  | interrupt report =>
    unfold lineAfter
    dsimp only
    split
    · exact framed
    · split
      · exact framed
      · exact framed
  | rxenable enable => exact absurd (.inr ⟨enable, rfl⟩) free
  | bhReceive =>
    unfold lineAfter reopens
    dsimp only
    have idle : ¬beginsFrame info .bhReceive := id
    rw [if_neg idle, if_neg idle]
    cases underrun : info.rxRccUnderrun with
    | true => rw [if_pos rfl, Bool.or_true]
    | false =>
      rw [if_neg Bool.false_ne_true, Bool.or_false]
      rfl
  | _ => exact framed

/-- Step lemma. -/
theorem step_rxEnabled {info after : R56Struct} {op : Op} (noEcho : info.line.noEcho = true)
    (free : ¬asksReceiver op) (step : Step info op after) :
    after.line.noEcho = true ∧ after.rxEnabled = reopens info op info.rxEnabled := by
  have line := exec_line (fun set => free (.inl set)) step.1
  have interface : after.line.interface = info.line.interface := by rw [line, lineAfter_interface]
  constructor
  · unfold Line.noEcho at noEcho ⊢
    rw [interface]
    exact noEcho
  · have enabled : after.line.rxEnabled = reopens info op info.rxEnabled := by
      rw [line, lineAfter_rxEnabled noEcho free]
    exact enabled

/-- Run lemma. -/
theorem run_rxEnabled {info : R56Struct} {run : List (Op × R56Struct)} (noEcho : info.line.noEcho = true)
    (steps : Run Step info run) (free : ∀ x ∈ run, ¬asksReceiver x.1) :
    (last info run).rxEnabled = reopened info run info.rxEnabled := by
  induction run generalizing info with
  | nil => rfl
  | cons head rest ih =>
    obtain ⟨op, after⟩ := head
    obtain ⟨still, enabled⟩ := step_rxEnabled noEcho (free _ List.mem_cons_self) steps.1
    have later := ih still steps.2 fun x member => free x (List.mem_cons_of_mem _ member)
    rw [last_cons, later, enabled]
    rfl

/-- After a frame for which the receiver was silenced has been begun, sent or not, the
receiver is enabled exactly when `r56_bh_receive` has started it again after a receive
count underrun since the last frame was begun. -/
theorem receiver_restored_iff {info started : R56Struct} {op : Op} {run : List (Op × R56Struct)}
    (noEcho : info.params.interface &&& r56InterfaceNe ≠ 0) (begins : beginsFrame info op)
    (first : Step info op started) (steps : Run Step started run)
    (free : ∀ x ∈ (op, started) :: run, ¬asksReceiver x.1) :
    (last started run).rxEnabled = true ↔ reopened started run false = true := by
  have set := (noEcho_iff info).mpr noEcho
  have silenced : reopens info op info.rxEnabled = false := if_pos begins
  have whole := run_rxEnabled set (run_cons.mpr ⟨first, steps⟩) free
  rw [last_cons] at whole
  rw [whole, reopened, silenced]

/-- An open port on an RS-485 line without echo, receiving. -/
def noEchoDevice : R56Struct :=
  r56SetParams openedDevice { openedDevice.params with interface := rs485Noterm ||| r56InterfaceNe }

theorem receiver_restored_iff_sent :
    let sent := (r56Write noEchoDevice (fun _ => 0x7e) 1).1
    let run := [(Op.interrupt frameSent, r56Interrupt (sent.reporting frameSent))]
    (last sent run).rxEnabled = true ↔ reopened sent run false = true := by
  intro sent run
  have begins : beginsFrame noEchoDevice (.write (fun _ => 0x7e) 1) := by decide
  have first : Step noEchoDevice (.write (fun _ => 0x7e) 1) sent := ⟨rfl, nofun⟩
  have steps : Run Step sent run := ⟨⟨rfl, nofun⟩, trivial⟩
  have writes : ¬asksReceiver (.write (fun _ => 0x7e) 1) := fun asks => asks.elim id nofun
  have interrupts : ¬asksReceiver (.interrupt frameSent) := fun asks => asks.elim id nofun
  exact receiver_restored_iff (by decide) begins first steps
    (List.forall_mem_cons.mpr ⟨writes, List.forall_mem_cons.mpr ⟨interrupts, List.forall_mem_nil _⟩⟩)

/-- The chip reports that a frame has been sent, or its timeout runs out: the receiver
that was silenced for it is still off. -/
theorem sent_receiver_off :
    let sent := (r56Write noEchoDevice (fun _ => 0x7e) 1).1
    noEchoDevice.rxEnabled = true ∧ noEchoDevice.params.interface &&& r56InterfaceNe ≠ 0 ∧
      beginsFrame noEchoDevice (.write (fun _ => 0x7e) 1) ∧
      Run Step noEchoDevice [(.write (fun _ => 0x7e) 1, sent),
        (.interrupt frameSent, r56Interrupt (sent.reporting frameSent))] ∧
      (r56Interrupt (sent.reporting frameSent)).txActive = false ∧
      (r56Interrupt (sent.reporting frameSent)).rxEnabled = false ∧
      Run Step noEchoDevice [(.write (fun _ => 0x7e) 1, sent), (.txTimeout, r56TxTimeout sent)] ∧
      (r56TxTimeout sent).rxEnabled = false := by
  intro sent
  exact ⟨by decide, by decide, by decide, ⟨⟨rfl, nofun⟩, ⟨rfl, nofun⟩, trivial⟩, by decide, by decide,
    ⟨⟨rfl, nofun⟩, ⟨rfl, fun _ => by decide⟩, trivial⟩, by decide⟩

end Route56
