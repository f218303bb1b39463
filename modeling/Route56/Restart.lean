import Mathlib.Data.List.TakeWhile
import Route56.Recedes
import Route56.RawReceive
import Route56.RxBounds

namespace Route56

open CircularBuffer Transition

/-- A receiver that is restarted while it is enabled has no frame in its ring. -/
def RxStart.keepsFrames (start : RxStart) : Prop :=
  start.enabled = true → ∀ i, i < start.bufferCount → (start.bufferList i).status = 0

/-- The calls of `usc_start_receiver` between two states. -/
def restarts (info after : R56Struct) : List RxStart := after.history.rxStarts.drop info.history.rxStarts.length

theorem restarts_append {info after : R56Struct} {new : List RxStart}
    (same : after.history.rxStarts = info.history.rxStarts ++ new) : restarts info after = new := by
  rw [restarts, same, List.drop_left]

/-- In terms of the ring read from `current_rx_buffer`. -/
theorem rxStart_keepsFrames_iff {info : R56Struct} (first : info.currentRxBuffer < info.rxBufferCount) :
    info.rxStart.keepsFrames ↔ (info.rxEnabled = true → ∀ x ∈ info.rxView, x.status = 0) := by
  refine imp_congr_right fun _ => ⟨fun clear x member => ?_, fun clear i inside => ?_⟩
  · obtain ⟨i, inside, rfl⟩ := (mem_view_iff first).mp member
    exact clear i inside
  · exact clear _ ((mem_view_iff first).mpr ⟨i, inside, rfl⟩)

theorem uscStartReceiver_rxStarts (info : R56Struct) :
    (uscStartReceiver info).history.rxStarts = info.history.rxStarts ++ [info.rxStart] := rfl

/-- The test after `Cleanup:`. -/
def restartsAt (info : R56Struct) (index : Nat) : Prop :=
  info.rxEnabled = true ∧ info.rxOverflow = true ∧ (info.rxBufferList index).free

instance (info : R56Struct) (index : Nat) : Decidable (restartsAt info index) :=
  inferInstanceAs (Decidable (_ ∧ _ ∧ _))

theorem restartOnOverflow_eq (info : R56Struct) (index : Nat) :
    restartOnOverflow info index = if restartsAt info index then uscStartReceiver info else info := by
  unfold restartOnOverflow
  by_cases flags : info.rxEnabled = true ∧ info.rxOverflow = true
  · rw [if_pos (show (info.rxEnabled && info.rxOverflow) = true by rw [flags.1, flags.2]; rfl)]
    exact if_congr ⟨fun free => ⟨flags.1, flags.2, free⟩, fun test => test.2.2⟩ rfl rfl
  · have calm : ¬restartsAt info index := fun test => flags ⟨test.1, test.2.1⟩
    rw [if_neg fun test => flags (Bool.and_eq_true_iff.mp test), if_neg calm]

theorem restartOnOverflow_rxStarts (info : R56Struct) (index : Nat) :
    (restartOnOverflow info index).history.rxStarts =
      info.history.rxStarts ++ if restartsAt info index then [info.rxStart] else [] := by
  rw [restartOnOverflow_eq]
  split
  · exact uscStartReceiver_rxStarts info
  · exact (List.append_nil _).symm

/-- No frame but perhaps one, in the first entry that is not open. -/
def oneFrame (entries : List DmaBufferEntry) : Prop :=
  ∀ x ∈ (entries.dropWhile fun x => decide x.open).tail, x.status = 0

instance (entries : List DmaBufferEntry) : Decidable (oneFrame entries) := inferInstanceAs (Decidable (∀ x ∈ _, _))

theorem oneFrame_split {front back : List DmaBufferEntry} {e : DmaBufferEntry} (opens : ∀ x ∈ front, x.open)
    (stops : e.free ∨ e.ends) : oneFrame (front ++ e :: back) ↔ ∀ x ∈ back, x.status = 0 := by
  have closed : ¬e.open := by
    rintro ⟨status, count⟩
    rcases stops with free | ends
    · exact free.2 count
    · exact ends status
  have dropped : (front ++ e :: back).dropWhile (fun x => decide x.open) = e :: back := by
    rw [List.dropWhile_append_of_pos fun x member => decide_eq_true (opens x member), List.dropWhile_cons,
      if_neg (by simpa using closed)]
  unfold oneFrame
  rw [dropped, List.tail_cons]

/-- No frame is lost in a pass over such a ring: with a receive count underrun there is none in it, after an
overflow none but the one that the pass takes. -/
def passKeepsFrames (info : R56Struct) : Prop :=
  info.rxEnabled = true →
    if info.rxRccUnderrun then ∀ x ∈ info.rxView, x.status = 0
    else info.rxOverflow = true →
      if info.params.mode = r56ModeHdlc then oneFrame info.rxView
      else (info.rxBufferList info.currentRxBuffer).count = 0 ∧ ¬rawFrameReady info info.currentRxBuffer ∨
        ∀ x ∈ info.rxView.tail, x.status = 0

instance (info : R56Struct) : Decidable (passKeepsFrames info) := by
  unfold passKeepsFrames
  infer_instance

section

variable {info : R56Struct}

/-- The restart after a frame has been taken from the front of the ring. -/
theorem freed_restarts {front back : List DmaBufferEntry} {e : DmaBufferEntry} {delivered : R56Struct}
    (first : info.currentRxBuffer < info.rxBufferCount) (split : info.rxView = front ++ e :: back)
    (frame : delivered.exceptDelivery = info.exceptDelivery) :
    (∀ start ∈ restarts info (restartOnOverflow (r56FreeRxFrameBuffers delivered info.currentRxBuffer
        (info.rxCell front.length)) (info.rxCell front.length)), start.keepsFrames) ↔
      (info.rxEnabled = true → info.rxOverflow = true → ∀ x ∈ back, x.status = 0) := by
  have count : delivered.rxBufferCount = info.rxBufferCount := congrArg (·.rxBufferCount) frame
  have current : delivered.currentRxBuffer = info.currentRxBuffer := congrArg (·.currentRxBuffer) frame
  have list : delivered.rxBufferList = info.rxBufferList := congrArg (·.rxBufferList) frame
  have enabled : delivered.rxEnabled = info.rxEnabled := congrArg (·.rxEnabled) frame
  have overflow : delivered.rxOverflow = info.rxOverflow := congrArg (·.rxOverflow) frame
  have starts : delivered.history.rxStarts = info.history.rxStarts := congrArg (·.history.rxStarts) frame
  have cells : delivered.rxCell front.length = info.rxCell front.length := by
    unfold R56Struct.rxCell
    rw [current, count]
  have inside : delivered.currentRxBuffer < delivered.rxBufferCount := by rwa [current, count]
  have whole : delivered.rxView = front ++ e :: back := by
    unfold R56Struct.rxView
    rw [list, count, current]
    exact split
  have view := r56FreeRxFrameBuffers_view front inside whole
  have within := length_of_view whole
  have spec := (freeRxEntries_spec (c := delivered.currentRxBuffer) delivered.build.lp64 within
    delivered.rxBufferCount 0 delivered.rxBufferList (Nat.zero_le _) (by omega)).2 front.length within
  rw [cell_zero inside, if_pos ⟨Nat.zero_le _, Nat.le_refl _⟩] at spec
  have free : ((r56FreeRxFrameBuffers delivered delivered.currentRxBuffer
      (delivered.rxCell front.length)).rxBufferList (delivered.rxCell front.length)).free := by
    show ((freeRxEntries delivered.build.lp64 delivered.rxBufferCount _ delivered.rxBufferCount _
      delivered.rxBufferList).1 _).free
    exact spec ▸ DmaBufferEntry.reset_free _ _
  rw [current, cells] at view free
  generalize freed : r56FreeRxFrameBuffers delivered info.currentRxBuffer (info.rxCell front.length) = t
    at view free ⊢
  have size : t.rxBufferCount = delivered.rxBufferCount := by rw [← freed]; rfl
  have flags : t.rxEnabled = info.rxEnabled ∧ t.rxOverflow = info.rxOverflow := by
    rw [← freed]
    exact ⟨enabled, overflow⟩
  have before : t.history.rxStarts = info.history.rxStarts := by rw [← freed]; exact starts
  have new := restartOnOverflow_rxStarts t (info.rxCell front.length)
  rw [before] at new
  have firstFreed : t.currentRxBuffer < t.rxBufferCount := by
    rw [view.2, size]
    exact cell_lt (Nat.zero_lt_of_lt inside)
  rw [restarts_append new]
  by_cases test : restartsAt t (info.rxCell front.length)
  · rw [if_pos test, List.forall_mem_singleton, rxStart_keepsFrames_iff firstFreed, view.1, flags.1]
    refine imp_congr_right fun on => ?_
    constructor
    · exact fun clear _ x member => clear x (List.mem_append_left _ member)
    · intro clear x member
      rcases List.mem_append.mp member with later | here
      · exact clear (flags.2 ▸ test.2.1) x later
      · obtain ⟨y, _, rfl⟩ := List.mem_map.mp here
        exact (y.reset_free _).1
  · rw [if_neg test]
    refine iff_of_true (fun _ member => absurd member List.not_mem_nil) fun enabled overflow => ?_
    exact absurd ⟨flags.1.trans enabled, flags.2.trans overflow, free⟩ test

theorem quiet_restarts_iff (index : Nat) (first : info.currentRxBuffer < info.rxBufferCount) :
    (∀ start ∈ restarts info (restartOnOverflow info index), start.keepsFrames) ↔
      (info.rxEnabled = true → info.rxOverflow = true → (info.rxBufferList index).free →
        ∀ x ∈ info.rxView, x.status = 0) := by
  rw [restarts_append (restartOnOverflow_rxStarts info index)]
  by_cases test : restartsAt info index
  · rw [if_pos test, List.forall_mem_singleton, rxStart_keepsFrames_iff first]
    exact imp_congr_right fun _ => ⟨fun clear _ _ => clear, fun clear => clear test.2.1 test.2.2⟩
  · rw [if_neg test]
    exact iff_of_true (fun _ member => absurd member List.not_mem_nil)
      fun enabled overflow free => absurd ⟨enabled, overflow, free⟩ test

/-- A call of `r56_get_rx_frame`. -/
theorem r56GetRxFrame_restarts_iff (first : info.currentRxBuffer < info.rxBufferCount) :
    (∀ start ∈ restarts info (r56GetRxFrame info).1, start.keepsFrames) ↔
      (info.rxEnabled = true → info.rxOverflow = true → oneFrame info.rxView) := by
  rcases opens_split info.rxView with opens | ⟨front, e, back, split, opens, free | ends⟩
  · -- every entry is in use, and none holds the end of a frame
    have clear : oneFrame info.rxView := by
      have dropped : info.rxView.dropWhile (fun x => decide x.open) = [] :=
        List.dropWhile_eq_nil_iff.mpr fun x member => decide_eq_true (opens x member)
      unfold oneFrame
      rw [dropped]
      exact fun x member => absurd member List.not_mem_nil
    refine iff_of_true ?_ fun _ _ => clear
    rw [r56GetRxFrame_of_exhausted first opens]
    dsimp only
    by_cases enabled : info.rxEnabled = true
    · rw [if_pos enabled, restartOnOverflow_calm (uscStartReceiver_fields info).2.2.2.2.1,
        restarts_append (uscStartReceiver_rxStarts info), List.forall_mem_singleton, rxStart_keepsFrames_iff first]
      exact fun _ x member => (opens x member).1
    · rw [if_neg enabled, quiet_restarts_iff _ first]
      exact fun on => absurd on enabled
  · have entry : info.rxBufferList (info.rxCell front.length) = e := cell_of_view split
    rw [r56GetRxFrame_of_unused first split opens free]
    dsimp only
    rw [quiet_restarts_iff _ first, entry, split, oneFrame_split opens (.inl free)]
    refine imp_congr_right fun _ => imp_congr_right fun _ => ⟨fun clear x member => ?_, fun clear _ x member => ?_⟩
    · exact clear free x (List.mem_append_right _ (List.mem_cons_of_mem _ member))
    · rcases List.mem_append.mp member with earlier | here
      · exact (opens x earlier).1
      · rcases List.mem_cons.mp here with rfl | later
        · exact free.1
        · exact clear x later
  · have call := r56GetRxFrame_of_frame first split opens ends
    dsimp only at call
    rw [call, split, oneFrame_split opens (.inr ends)]
    exact freed_restarts first split (deliverRxFrame_frame _ _ _)

/-- A call of `r56_get_raw_rx_frame`. -/
theorem r56GetRawRxFrame_restarts_iff (first : info.currentRxBuffer < info.rxBufferCount) :
    (∀ start ∈ restarts info (r56GetRawRxFrame info).1, start.keepsFrames) ↔
      (info.rxEnabled = true → info.rxOverflow = true →
        (info.rxBufferList info.currentRxBuffer).count = 0 ∧ ¬rawFrameReady info info.currentRxBuffer ∨
          ∀ x ∈ info.rxView.tail, x.status = 0) := by
  obtain ⟨e, rest, split⟩ : ∃ e rest, info.rxView = e :: rest := by
    refine List.exists_cons_of_length_pos ?_
    rw [R56Struct.rxView, length_view]
    exact Nat.zero_lt_of_lt first
  have entry := rxView_head first split
  have cell : info.rxCell 0 = info.currentRxBuffer := cell_zero first
  unfold r56GetRawRxFrame
  dsimp only
  by_cases ready : rawFrameReady info info.currentRxBuffer
  · rw [if_pos ready, split, List.tail_cons]
    have taken := @freed_restarts info [] rest e _ first split (deliverRawFrame_frame info info.currentRxBuffer)
    rw [List.length_nil, cell] at taken
    rw [taken]
    exact imp_congr_right fun _ => imp_congr_right fun _ =>
      ⟨.inr, fun either => either.resolve_left fun waits => waits.2 ready⟩
  · have status : e.status = 0 := by
      rw [← entry]
      by_contra ends
      exact ready (.inl ends)
    rw [if_neg ready, quiet_restarts_iff _ first, entry, split, List.tail_cons]
    refine imp_congr_right fun _ => imp_congr_right fun _ => ⟨fun clear => ?_, fun either free x member => ?_⟩
    · by_cases used : e.count = 0
      · exact .inl ⟨used, ready⟩
      · exact .inr fun x member => clear ⟨status, used⟩ x (List.mem_cons_of_mem _ member)
    · rcases List.mem_cons.mp member with rfl | later
      · exact status
      · exact either.resolve_left (fun waits => free.2 waits.1) x later

/-- Over such a ring, and over no other, a pass loses no frame. -/
theorem bhReceivePass_keeps_iff (first : info.currentRxBuffer < info.rxBufferCount) :
    (∀ start ∈ restarts info (bhReceivePass info).1, start.keepsFrames) ↔ passKeepsFrames info := by
  unfold bhReceivePass passKeepsFrames
  by_cases underrun : info.rxRccUnderrun = true
  · rw [if_pos underrun, if_pos underrun, restarts_append (uscStartReceiver_rxStarts info), List.forall_mem_singleton,
      rxStart_keepsFrames_iff first]
  · rw [if_neg underrun, if_neg underrun]
    unfold getRxFrame
    by_cases hdlc : info.params.mode = r56ModeHdlc
    · rw [if_pos hdlc, if_pos hdlc]
      exact r56GetRxFrame_restarts_iff first
    · rw [if_neg hdlc, if_neg hdlc]
      exact r56GetRawRxFrame_restarts_iff first

end

inductive BhReceiveEvent
  | pass
  | interrupt (report : UscReport)
  | reception (list : Nat → DmaBufferEntry) (rxDma : RxDma)

/-- Passes of `r56_bh_receive`, with interrupts of the receiver and whatever the chip does to the ring in
between. -/
def BhReceiveStep (info : R56Struct) (event : BhReceiveEvent) (after : R56Struct) : Prop :=
  match event with
  | .pass => after = (bhReceivePass info).1
  | .interrupt report =>
    (info.reporting report).receiveInterrupt ∧ after = r56Interrupt (info.reporting report)
  | .reception list rxDma => after = { info with rxBufferList := list, usc := { info.usc with rxDma := rxDma } }

theorem BhReceiveStep.inside {info after : R56Struct} {event : BhReceiveEvent} (step : BhReceiveStep info event after)
    (first : info.currentRxBuffer < info.rxBufferCount) : after.currentRxBuffer < after.rxBufferCount := by
  cases event with
  | pass =>
    cases step
    have recedes := bhReceivePass_recedes info
    rw [recedes.count]
    exact recedes.current first
  | interrupt report =>
    obtain ⟨receives, rfl⟩ := step
    have recedes := r56Interrupt_recedes receives
    rw [recedes.count]
    exact recedes.current first
  | reception list rxDma =>
    cases step
    exact first

/-- A run of `r56_bh_receive` is made of passes. -/
theorem r56BhReceiveLoop_run (mode : R56Struct) {after : R56Struct} :
    ∀ (fuel : Nat) (info : R56Struct), info.params.mode = mode.params.mode →
      r56BhReceiveLoop (getRxFrame mode) fuel info = some after →
        ∃ p, Run BhReceiveStep info p ∧ (∀ x ∈ p, x.1 = .pass) ∧ last info p = after := by
  intro fuel
  induction fuel with
  | zero =>
    intro info _ returned
    exact absurd returned (by simp [r56BhReceiveLoop])
  | succ fuel ih =>
    intro info same returned
    have alone (t : R56Struct) (pass : (bhReceivePass info).1 = t) :
        ∃ p, Run BhReceiveStep info p ∧ (∀ x ∈ p, x.1 = .pass) ∧ last info p = t :=
      ⟨[(.pass, t)], ⟨pass.symm, trivial⟩, fun x member => congrArg Prod.fst (List.mem_singleton.mp member), rfl⟩
    have function : getRxFrame mode = getRxFrame info := by
      unfold getRxFrame
      rw [same]
    rw [r56BhReceiveLoop, function] at returned
    by_cases underrun : info.rxRccUnderrun = true
    · rw [if_pos underrun] at returned
      refine alone after ?_
      rw [bhReceivePass, if_pos underrun]
      exact Option.some.inj returned
    · have pass : bhReceivePass info = getRxFrame info info := if_neg underrun
      rw [if_neg underrun] at returned
      split at returned
      · have kept : (getRxFrame info info).1.params = info.params := congrArg (·.params) (getRxFrame_frame info info)
        obtain ⟨p, run, passes, ends⟩ := ih (getRxFrame info info).1 (by rw [kept, same])
          (by rw [function]; exact returned)
        refine ⟨(.pass, (getRxFrame info info).1) :: p, ⟨?_, run⟩, fun x member => ?_, ends⟩
        · rw [BhReceiveStep, pass]
        · rcases List.mem_cons.mp member with rfl | later
          · rfl
          · exact passes x later
      · refine alone after ?_
        rw [pass]
        exact Option.some.inj returned

/-- No restart loses a frame exactly in the runs whose passes all find a ring from which none can be lost. A run
of `r56_bh_receive` is among them. A pass is one step: what the chip and the interrupts do meanwhile counts as done
before it or after it. -/
theorem restarts_keep_frames_iff {info : R56Struct} (first : info.currentRxBuffer < info.rxBufferCount) :
    (∃ p after, r56BhReceive info = some after ∧ Run BhReceiveStep info p ∧ (∀ x ∈ p, x.1 = .pass) ∧
      last info p = after) ∧
    ∀ p, Run BhReceiveStep info p →
      (Run (fun s event t => event = .pass → ∀ start ∈ restarts s t, start.keepsFrames) info p ↔
        Run (fun s event _ => event = .pass → passKeepsFrames s) info p) := by
  constructor
  · obtain ⟨⟨after, _, returned, _⟩, _⟩ := receive_processing_bounded first
    obtain ⟨p, run, passes, ends⟩ := r56BhReceiveLoop_run info (info.rxBufferCount + 1) info rfl returned
    exact ⟨p, after, returned, run, passes, ends⟩
  · intro p run
    have stays : ∀ s event t, s.currentRxBuffer < s.rxBufferCount → BhReceiveStep s event t →
        t.currentRxBuffer < t.rxBufferCount := fun _ _ _ inside step => step.inside inside
    refine run.iff_of_invariant stays (fun s event t inside step => imp_congr_right fun pass => ?_) first
    subst pass
    cases step
    exact bhReceivePass_keeps_iff inside

/-- The interrupt by which the chip reports that it has come to the end of the list. -/
def endOfList : UscReport where
  status reg := if reg = .rdmr then bit3 else 0

/-- The chip does this, beginning with an empty ring, and then comes to the end of the list. -/
def overflowed (steps : List Reception) : R56Struct :=
  r56Interrupt ((steps.foldl receive twoEntries).reporting endOfList)

/-- One frame is taken, and the restart loses nothing. -/
theorem restarts_keep_frames_single :
    let info := overflowed [.use, .store [1, 2, 3, 4], .finish bit4]
    ∀ start ∈ restarts info (bhReceivePass info).1, start.keepsFrames := by
  intro info
  have run : Run BhReceiveStep info [(.pass, (bhReceivePass info).1)] := ⟨rfl, trivial⟩
  have kept : passKeepsFrames info := by decide +kernel
  exact (((restarts_keep_frames_iff (show info.currentRxBuffer < info.rxBufferCount by decide +kernel)).2 _ run).mpr
    ⟨fun _ => kept, trivial⟩).1 rfl

/-- Two frames, which fill the ring. -/
def twoFrames : R56Struct :=
  overflowed [.use, .store [1, 2, 3, 4], .finish bit4, .use, .store [5, 6, 7, 8], .finish bit4]

/-- Only the first is taken before the receiver is restarted. -/
theorem queued_frame_lost :
    ∃ after start, r56BhReceive twoFrames = some after ∧ after.history.ldisc = [[1, 2]] ∧
      start ∈ restarts twoFrames after ∧ ¬start.keepsFrames := by
  obtain ⟨⟨after, _, returned, _⟩, _⟩ :=
    receive_processing_bounded (show twoFrames.currentRxBuffer < twoFrames.rxBufferCount by decide +kernel)
  have taken : (r56BhReceive twoFrames).map (fun after => after.history.ldisc) = some [[1, 2]] := by decide +kernel
  have lost : (r56BhReceive twoFrames).map (fun after => (restarts twoFrames after).any fun start =>
      start.enabled && decide (1 < start.bufferCount) && decide ((start.bufferList 1).status ≠ 0)) = some true := by
    decide +kernel
  rw [returned] at taken lost
  obtain ⟨start, member, found⟩ := List.any_eq_true.mp (Option.some.inj lost)
  simp only [Bool.and_eq_true, decide_eq_true_eq] at found
  exact ⟨after, start, returned, Option.some.inj taken, member, fun keeps => found.2 (keeps found.1.1 1 found.1.2)⟩

end Route56
