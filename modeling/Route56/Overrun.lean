import Route56.RxFrame

namespace Route56

open CircularBuffer

/-- One pass of the search, with its advance. -/
def OverrunScan.pass (n : Nat) (scan : OverrunScan) (e : DmaBufferEntry) : OverrunScan :=
  { scan.look e with endIndex := next n scan.endIndex }

theorem OverrunScan.look_endIndex (scan : OverrunScan) (e : DmaBufferEntry) : (scan.look e).endIndex = scan.endIndex := by
  unfold OverrunScan.look
  dsimp only
  split <;> split <;> rfl

theorem OverrunScan.look_wrapped (scan : OverrunScan) (e : DmaBufferEntry) : (scan.look e).wrapped = scan.wrapped := by
  unfold OverrunScan.look
  dsimp only
  split <;> split <;> rfl

section

variable {list : Nat → DmaBufferEntry} {n c : Nat}

/-- The search passes over entries in use. -/
theorem overrunScan_skip (first : c < n) {entries rest : List DmaBufferEntry} (used : ∀ e ∈ entries, e.count = 0) :
    ∀ (o : Nat) (scan : OverrunScan), scan.endIndex = cell n c o → (view list n c).drop o = entries ++ rest →
      rest ≠ [] →
      overrunScan list n c (n - o) scan = overrunScan list n c (n - (o + entries.length)) (entries.foldl (·.pass n) scan) ∧
        (entries.foldl (·.pass n) scan).endIndex = cell n c (o + entries.length) := by
  induction entries with
  | nil => exact fun o scan at_ _ _ => ⟨rfl, at_⟩
  | cons e later ih =>
    intro o scan at_ split more
    have room : o + (later.length + 1 + rest.length) = n := by
      have length := congrArg List.length split
      rw [List.length_drop, length_view, List.length_append, List.length_cons] at length
      omega
    have some := List.length_pos_of_ne_nil more
    have here : list scan.endIndex = e := by
      have shown : o < (view list n c).length := by
        rw [length_view]
        omega
      have head := List.drop_eq_getElem_cons shown
      rw [split, getElem_view, List.cons_append] at head
      rw [at_]
      exact (List.cons.inj head).1.symm
    have following : next n scan.endIndex = cell n c (o + 1) := at_ ▸ next_cell (by omega)
    have apart : c ≠ cell n c (o + 1) := by
      intro round
      have same := (cell_inj (c := c) (show o + 1 < n by omega) (show 0 < n by omega)).mp
        (round.symm.trans (cell_zero first).symm)
      omega
    have dropped : (view list n c).drop (o + 1) = later ++ rest := by
      rw [← List.drop_drop, split, List.cons_append, List.drop_one, List.tail_cons]
    obtain ⟨onward, index⟩ := ih (fun x member => used x (List.mem_cons_of_mem _ member)) (o + 1) (scan.pass n e) following
      dropped more
    refine ⟨?_, ?_⟩
    · rw [show n - o = (n - (o + 1)) + 1 by omega, overrunScan, here, if_neg (not_not.mpr (used e List.mem_cons_self))]
      dsimp only
      rw [OverrunScan.look_endIndex, following, if_neg apart]
      rw [← following]
      refine onward.trans ?_
      rw [List.length_cons, List.foldl_cons, Nat.add_right_comm, Nat.add_assoc]
    · rw [List.foldl_cons, index, List.length_cons, Nat.add_right_comm, Nat.add_assoc]

/-- The search stops at an entry that is not in use. -/
theorem overrunScan_stop (first : c < n) {entries rest : List DmaBufferEntry} {e : DmaBufferEntry}
    (used : ∀ x ∈ entries, x.count = 0) (split : view list n c = entries ++ e :: rest) (unused : e.count ≠ 0)
    {scan : OverrunScan} (at_ : scan.endIndex = c) :
    overrunScan list n c n scan = entries.foldl (·.pass n) scan := by
  obtain ⟨onward, index⟩ := overrunScan_skip first used 0 scan (at_.trans (cell_zero first).symm)
    (List.drop_zero.trans split) (List.cons_ne_nil e rest)
  have inside := length_of_view split
  rw [Nat.zero_add] at onward index
  rw [Nat.sub_zero] at onward
  rw [onward, show n - entries.length = (n - (entries.length + 1)) + 1 by omega, overrunScan, index, cell_of_view split,
    if_pos unused]

/-- Where every entry is in use the search comes round. -/
theorem overrunScan_round (first : c < n) (used : ∀ x ∈ view list n c, x.count = 0) {scan : OverrunScan}
    (at_ : scan.endIndex = c) : (overrunScan list n c n scan).wrapped = true := by
  have some : view list n c ≠ [] := by
    refine List.ne_nil_of_length_pos ?_
    rw [length_view]
    exact Nat.zero_lt_of_lt first
  obtain ⟨entries, e, split⟩ : ∃ entries e, view list n c = entries ++ [e] :=
    ⟨_, _, (List.dropLast_append_getLast some).symm⟩
  have usedFront : ∀ x ∈ entries, x.count = 0 := fun x member => used x (split ▸ List.mem_append_left _ member)
  obtain ⟨onward, index⟩ := overrunScan_skip first usedFront 0 scan (at_.trans (cell_zero first).symm)
    (List.drop_zero.trans split) (List.cons_ne_nil e [])
  have last : entries.length + 1 = n := by
    have length := congrArg List.length split
    rw [length_view, List.length_append, List.length_singleton] at length
    exact length.symm
  have ended : e.count = 0 := used e (split ▸ List.mem_append_right _ (List.mem_singleton.mpr rfl))
  rw [Nat.zero_add] at onward index
  rw [Nat.sub_zero] at onward
  have round : c = next n (cell n c entries.length) := by
    rw [next_cell (Nat.zero_lt_of_lt first), last, cell_length, Nat.mod_eq_of_lt first]
  rw [onward, show n - entries.length = 0 + 1 by omega, overrunScan, index, cell_of_view split, if_neg (not_not.mpr ended)]
  dsimp only
  rw [OverrunScan.look_endIndex, index, if_pos round]

/-- After complete frames the search is between frames. -/
theorem foldl_frames {frames : List DmaBufferEntry} (ended : ∀ x, frames.getLast? = some x → x.ends) (n : Nat)
    {scan : OverrunScan} (between : scan.startOfFrameFound = false) :
    (frames.foldl (·.pass n) scan).startOfFrameFound = false := by
  rcases List.eq_nil_or_concat frames with rfl | ⟨front, last, rfl⟩
  · exact between
  · rw [List.concat_eq_append] at ended ⊢
    have ends : last.status ≠ 0 := ended last List.getLast?_concat
    rw [List.foldl_append, List.foldl_cons, List.foldl_nil]
    generalize front.foldl (·.pass n) scan = before
    show (before.look last).startOfFrameFound = false
    unfold OverrunScan.look
    dsimp only
    rw [if_pos ends]

/-- In an unfinished string the search remembers where it began. -/
theorem foldl_string {string : List DmaBufferEntry} (opens : ∀ x ∈ string, x.open) (n : Nat) :
    ∀ {scan : OverrunScan}, scan.startOfFrameFound = true → scan.endOfFrameFound = false →
      (string.foldl (·.pass n) scan).startOfFrameFound = true ∧
        (string.foldl (·.pass n) scan).endOfFrameFound = false ∧
        (string.foldl (·.pass n) scan).frameStartIndex = scan.frameStartIndex := by
  induction string with
  | nil => exact fun found unfinished => ⟨found, unfinished, rfl⟩
  | cons x later ih =>
    intro scan found unfinished
    have status : ¬x.status ≠ 0 := not_not.mpr (opens x List.mem_cons_self).1
    have looked : scan.look x = scan := by
      unfold OverrunScan.look
      dsimp only
      rw [if_pos found, if_neg status]
    have onward := ih (fun y member => opens y (List.mem_cons_of_mem _ member))
      (show (scan.pass n x).startOfFrameFound = true by unfold OverrunScan.pass; rw [looked]; exact found)
      (show (scan.pass n x).endOfFrameFound = false by unfold OverrunScan.pass; rw [looked]; exact unfinished)
    have start : (scan.pass n x).frameStartIndex = scan.frameStartIndex := by
      unfold OverrunScan.pass
      rw [looked]
    rw [List.foldl_cons, ← start]
    exact onward

/-- The first entry of an unfinished string begins it. -/
theorem pass_begins {x : DmaBufferEntry} (opened : x.open) (n : Nat) {scan : OverrunScan}
    (between : scan.startOfFrameFound = false) :
    (scan.pass n x).startOfFrameFound = true ∧ (scan.pass n x).endOfFrameFound = false ∧
      (scan.pass n x).frameStartIndex = scan.endIndex := by
  have status : ¬x.status ≠ 0 := not_not.mpr opened.1
  unfold OverrunScan.pass OverrunScan.look
  dsimp only
  rw [if_neg (Bool.eq_false_iff.mp between), if_neg status]
  exact ⟨rfl, rfl, rfl⟩

/-- The loop resets the entries from offset `o` to the one before offset `d`. -/
theorem resetRxEntries_spec (lp64 : Bool) {d : Nat} (whole : d < n) :
    ∀ (fuel o : Nat) (list : Nat → DmaBufferEntry), o < d → d ≤ o + fuel → ∀ p, p < n →
      resetRxEntries lp64 n (cell n c d) fuel (cell n c o) list (cell n c p) =
        if o ≤ p ∧ p < d then (list (cell n c p)).reset lp64 else list (cell n c p) := by
  intro fuel
  induction fuel with
  | zero =>
    intro o list before enough
    omega
  | succ fuel ih =>
    intro o list before enough p inside
    have entry : Function.update list (cell n c o) ((list (cell n c o)).storeLong lp64 4096) (cell n c p) =
        if p = o then (list (cell n c p)).reset lp64 else list (cell n c p) := by
      by_cases here : p = o
      · rw [here, Function.update_self, if_pos rfl]
        rfl
      · have apart : cell n c p ≠ cell n c o := fun same => here ((cell_inj inside (by omega)).mp same)
        rw [Function.update_of_ne apart, if_neg here]
    have following : next n (cell n c o) = cell n c (o + 1) := next_cell (by omega)
    unfold resetRxEntries
    dsimp only
    rw [following]
    by_cases last : o + 1 = d
    · rw [if_neg (not_not.mpr (congrArg (cell n c) last)), entry]
      exact if_congr (by omega) rfl rfl
    · have apart : cell n c (o + 1) ≠ cell n c d := fun same => last ((cell_inj (by omega) whole).mp same)
      rw [if_pos apart, ih (o + 1) _ (by omega) (by omega) p inside, entry]
      by_cases here : p = o
      · rw [if_neg (by omega), if_pos here, if_pos (by omega)]
      · rw [if_neg here]
        exact if_congr (by omega) rfl rfl

end

/-- The ring holds complete frames, then perhaps an unfinished string, then free entries. -/
structure OverrunRing (info : R56Struct) (frames string free : List DmaBufferEntry) : Prop where
  first : info.currentRxBuffer < info.rxBufferCount
  view : info.rxView = frames ++ string ++ free
  used : ∀ x ∈ frames, x.count = 0
  ended : ∀ x, frames.getLast? = some x → x.ends
  opens : ∀ x ∈ string, x.open
  frees : ∀ x ∈ free, x.free

/-- The complete frames are where they were, the string's entries are free, the others are unchanged, and the
channel starts at the first entry of the string if there was one. -/
structure Recovered (info after : R56Struct) (frames string : List DmaBufferEntry) : Prop where
  kept : after.rxView.take frames.length = frames
  entries : ∀ o, o < info.rxBufferCount → after.rxBufferList (info.rxCell o) =
    if frames.length ≤ o ∧ o < frames.length + string.length then
      (info.rxBufferList (info.rxCell o)).reset info.build.lp64
    else info.rxBufferList (info.rxCell o)
  channel : after.usc.rxDma = if string = [] then info.usc.rxDma else .init (info.rxCell frames.length)
  nrar : after.usc.nrar = if string = [] then info.usc.nrar else info.rxCell frames.length

theorem initRxChannel_nrar (info : R56Struct) (u : Usc) (entry : Nat) : (initRxChannel info u entry).nrar = entry := by
  unfold initRxChannel
  dsimp only
  split
  · rfl
  · rfl

/-- What recovery leaves of the ring and of the channel. -/
theorem uscProcessRxoverrunSync_ring {info ring : R56Struct} {entry : Nat} {reprogram : Bool}
    (discard : overrunDiscard info = (ring, entry, reprogram)) :
    (uscProcessRxoverrunSync info).rxBufferList = ring.rxBufferList ∧
      (uscProcessRxoverrunSync info).rxBufferCount = info.rxBufferCount ∧
      (uscProcessRxoverrunSync info).currentRxBuffer = ring.currentRxBuffer ∧
      (uscProcessRxoverrunSync info).usc.rxDma = (if reprogram then .init entry else info.usc.rxDma) ∧
      (uscProcessRxoverrunSync info).usc.nrar = if reprogram then entry else info.usc.nrar := by
  have count : (uscProcessRxoverrunSync info).rxBufferCount = info.rxBufferCount :=
    congrArg (·.rxBufferCount) (uscProcessRxoverrunSync_frame info)
  refine ⟨?_, count, ?_⟩
  · unfold uscProcessRxoverrunSync
    rw [discard]
    dsimp only
    split
    · rfl
    · rfl
  · unfold uscProcessRxoverrunSync
    rw [discard]
    dsimp only
    cases reprogram with
    | true =>
      rw [if_pos rfl, if_pos rfl, if_pos rfl]
      exact ⟨rfl, initRxChannel_rxDma _ _ _, initRxChannel_nrar _ _ _⟩
    | false =>
      rw [if_neg Bool.false_ne_true, if_neg Bool.false_ne_true, if_neg Bool.false_ne_true]
      exact ⟨rfl, rfl, rfl⟩

theorem foldl_wrapped (n : Nat) (entries : List DmaBufferEntry) (scan : OverrunScan) :
    (entries.foldl (·.pass n) scan).wrapped = scan.wrapped := by
  induction entries generalizing scan with
  | nil => rfl
  | cons e later ih =>
    rw [List.foldl_cons, ih]
    exact scan.look_wrapped e

section

variable {info : R56Struct} {frames string free : List DmaBufferEntry}

theorem OverrunRing.length (ring : OverrunRing info frames string free) :
    frames.length + string.length + free.length = info.rxBufferCount := by
  have length := congrArg List.length ring.view
  rw [R56Struct.rxView, length_view, List.length_append, List.length_append] at length
  exact length.symm

/-- Entries before the string are where they were. -/
theorem OverrunRing.kept {after : R56Struct} (ring : OverrunRing info frames string free)
    (count : after.rxBufferCount = info.rxBufferCount) (current : after.currentRxBuffer = info.currentRxBuffer)
    (entries : ∀ o, o < frames.length → after.rxBufferList (info.rxCell o) = info.rxBufferList (info.rxCell o)) :
    after.rxView.take frames.length = frames := by
  have length := ring.length
  have whole : info.rxView.take frames.length = frames := by
    rw [ring.view, List.append_assoc, List.take_left]
  conv_rhs => rw [← whole]
  refine List.ext_getElem? fun o => ?_
  by_cases inside : o < frames.length
  · rw [List.getElem?_take_of_lt inside, List.getElem?_take_of_lt inside]
    unfold R56Struct.rxView
    rw [count, current, getElem?_view (by omega), getElem?_view (by omega)]
    exact congrArg some (entries o inside)
  · rw [List.getElem?_eq_none (by rw [List.length_take]; omega), List.getElem?_eq_none (by rw [List.length_take]; omega)]

/-- A ring with a free entry is recovered. -/
theorem OverrunRing.recovered (ring : OverrunRing info frames string free) (some : free ≠ []) :
    Recovered info (uscProcessRxoverrunSync info) frames string := by
  obtain ⟨unused, rest, rfl⟩ := List.exists_cons_of_ne_nil some
  have length := ring.length
  rw [List.length_cons] at length
  have used : ∀ x ∈ frames ++ string, x.count = 0 := by
    intro x member
    rcases List.mem_append.mp member with inFrames | inString
    · exact ring.used x inFrames
    · exact (ring.opens x inString).2
  have stop := (ring.frees unused List.mem_cons_self).2
  let start : OverrunScan := { endIndex := info.currentRxBuffer, frameStartIndex := info.currentRxBuffer }
  have scanned : overrunScan info.rxBufferList info.rxBufferCount info.currentRxBuffer info.rxBufferCount start =
      (frames ++ string).foldl (·.pass info.rxBufferCount) start := overrunScan_stop ring.first used ring.view stop rfl
  have endIndex : ((frames ++ string).foldl (·.pass info.rxBufferCount) start).endIndex =
      info.rxCell (frames.length + string.length) := by
    have index := (overrunScan_skip ring.first used 0 start (cell_zero ring.first).symm
      (List.drop_zero.trans ring.view) (List.cons_ne_nil _ _)).2
    rwa [Nat.zero_add, List.length_append] at index
  have frameEnd : (frames.foldl (·.pass info.rxBufferCount) start).endIndex = info.rxCell frames.length := by
    have view : info.rxView = frames ++ (string ++ unused :: rest) := ring.view.trans (List.append_assoc _ _ _)
    have index := (overrunScan_skip ring.first ring.used 0 start (cell_zero ring.first).symm
      (List.drop_zero.trans view) (List.append_ne_nil_of_right_ne_nil _ (List.cons_ne_nil _ _))).2
    rwa [Nat.zero_add] at index
  have straight : ((frames ++ string).foldl (·.pass info.rxBufferCount) start).wrapped = false := foldl_wrapped _ _ _
  have between : (frames.foldl (·.pass info.rxBufferCount) start).startOfFrameFound = false :=
    foldl_frames ring.ended _ rfl
  rw [List.foldl_append] at scanned endIndex straight
  cases string with
  | nil =>
    rw [List.foldl_nil] at scanned straight
    have discard : overrunDiscard info =
        (info, (frames.foldl (·.pass info.rxBufferCount) start).frameStartIndex, false) := by
      unfold overrunDiscard
      dsimp only
      rw [scanned, if_neg (Bool.eq_false_iff.mp straight)]
      refine if_neg ?_
      rw [show (frames.foldl (·.pass info.rxBufferCount) start).startOfFrameFound = false from between]
      exact Bool.false_ne_true
    obtain ⟨list, count, current, channel, nrar⟩ := uscProcessRxoverrunSync_ring discard
    refine ⟨ring.kept count current fun o _ => congrFun list _, fun o _ => ?_, channel, nrar⟩
    rw [list, if_neg (by rw [List.length_nil]; omega)]
  | cons x later =>
    obtain ⟨begun, unfinished, first⟩ := pass_begins (ring.opens x List.mem_cons_self) info.rxBufferCount between
    obtain ⟨found, unended, began⟩ := foldl_string (fun y member => ring.opens y (List.mem_cons_of_mem _ member))
      info.rxBufferCount begun unfinished
    rw [List.foldl_cons] at scanned endIndex straight
    rw [first, frameEnd] at began
    generalize later.foldl (·.pass info.rxBufferCount) (OverrunScan.pass info.rxBufferCount
      (frames.foldl (·.pass info.rxBufferCount) start) x) = scan at scanned endIndex straight found unended began
    have discard : overrunDiscard info =
        ({ info with
            rxBufferList := resetRxEntries info.build.lp64 info.rxBufferCount
              (info.rxCell (frames.length + (x :: later).length)) info.rxBufferCount (info.rxCell frames.length)
              info.rxBufferList }, info.rxCell frames.length, true) := by
      unfold overrunDiscard
      dsimp only
      rw [scanned, if_neg (Bool.eq_false_iff.mp straight), found, unended, began, endIndex]
      rfl
    obtain ⟨list, count, current, channel, nrar⟩ := uscProcessRxoverrunSync_ring discard
    have spec := resetRxEntries_spec (c := info.currentRxBuffer) info.build.lp64
      (show frames.length + (x :: later).length < info.rxBufferCount by omega) info.rxBufferCount frames.length
      info.rxBufferList (by rw [List.length_cons]; omega) (by omega)
    have entries : ∀ o, o < info.rxBufferCount → (uscProcessRxoverrunSync info).rxBufferList (info.rxCell o) =
        if frames.length ≤ o ∧ o < frames.length + (x :: later).length then
          (info.rxBufferList (info.rxCell o)).reset info.build.lp64
        else info.rxBufferList (info.rxCell o) := fun o inside => (congrFun list _).trans (spec o inside)
    refine ⟨ring.kept count current fun o before => ?_, entries, channel, nrar⟩
    rw [entries o (by omega), if_neg (by omega)]

/-- Recovery keeps the complete frames and gives back the string just when an entry is free, or when all the ring
is one string from its first entry on. -/
theorem recovered_iff (ring : OverrunRing info frames string free) :
    Recovered info (uscProcessRxoverrunSync info) frames string ↔
      free ≠ [] ∨ frames = [] ∧ info.currentRxBuffer = 0 := by
  by_cases some : free ≠ []
  · exact iff_of_true (ring.recovered some) (.inl some)
  obtain rfl : free = [] := not_not.mp some
  have length := ring.length
  have used : ∀ x ∈ info.rxView, x.count = 0 := by
    intro x member
    rw [ring.view, List.append_nil] at member
    rcases List.mem_append.mp member with inFrames | inString
    · exact ring.used x inFrames
    · exact (ring.opens x inString).2
  have discard : overrunDiscard info = (r56ResetRxDmaBuffers info, 0, true) := by
    unfold overrunDiscard
    dsimp only
    exact if_pos (overrunScan_round ring.first used rfl)
  obtain ⟨list, count, current, channel, nrar⟩ := uscProcessRxoverrunSync_ring discard
  have reset (o : Nat) : (uscProcessRxoverrunSync info).rxBufferList (info.rxCell o) =
      (info.rxBufferList (info.rxCell o)).reset info.build.lp64 := by
    rw [list]
    exact if_pos (cell_lt (Nat.zero_lt_of_lt ring.first))
  have first := ring.first
  constructor
  · intro recovered
    have none : frames = [] := by
      rcases List.eq_nil_or_concat frames with none | ⟨front, last, rfl⟩
      · exact none
      · -- its last entry ends a frame, and is reset
        rw [List.concat_eq_append] at recovered ring length
        have ends := ring.ended last List.getLast?_concat
        have view : info.rxView = front ++ last :: (string ++ []) := by
          rw [ring.view, List.append_assoc, List.append_assoc, List.singleton_append]
        have entry : info.rxBufferList (info.rxCell front.length) = last := cell_of_view view
        rw [List.length_append, List.length_singleton] at length
        have same := recovered.entries front.length (by omega)
        rw [if_neg (by rw [List.length_append, List.length_singleton]; omega), reset, entry] at same
        have status : last.status = 0 := (congrArg DmaBufferEntry.status same).symm
        exact absurd status ends
    subst none
    refine .inr ⟨rfl, ?_⟩
    have string_some : string ≠ [] := by
      rintro rfl
      rw [List.length_nil] at length
      omega
    have start := recovered.nrar
    rw [if_neg string_some, nrar, if_pos rfl] at start
    rw [start]
    exact (cell_zero first).symm
  · rintro (absurd_some | ⟨rfl, here⟩)
    · exact absurd rfl absurd_some
    have string_some : string ≠ [] := by
      rintro rfl
      rw [List.length_nil] at length
      omega
    have cell : info.rxCell 0 = 0 := (cell_zero first).trans here
    refine ⟨rfl, fun o inside => ?_, ?_, ?_⟩
    · rw [reset, if_pos]
      rw [List.length_nil] at length ⊢
      omega
    · rw [channel, if_pos rfl, if_neg string_some, List.length_nil, cell]
    · rw [nrar, if_pos rfl, if_neg string_some, List.length_nil, cell]

end

/-- Two complete frames fill the ring. -/
def fullRing : R56Struct where
  rxBufferCount := 2
  rxBufferList := fun _ => { status := bit4 }

/-- Recovery drops both. -/
theorem full_ring_dropped :
    OverrunRing fullRing [{ status := bit4 }, { status := bit4 }] [] [] ∧
      ¬Recovered fullRing (uscProcessRxoverrunSync fullRing) [{ status := bit4 }, { status := bit4 }] [] := by
  have ring : OverrunRing fullRing [{ status := bit4 }, { status := bit4 }] [] [] := by
    refine ⟨by decide, rfl, by simp, ?_, by simp, by simp⟩
    rintro x ⟨⟩
    decide
  refine ⟨ring, fun recovered => ?_⟩
  have entry := congrArg (·.status) (recovered.entries 0 (by decide))
  revert entry
  decide

/-- A ring of four entries, looked at from the third: a complete frame, a string in the fourth and the first, and an
entry that is free. -/
def halfRing : R56Struct where
  rxBufferCount := 4
  currentRxBuffer := 2
  rxBufferList := fun i => if i = 2 then { status := bit4 } else if i = 1 then { count := 4096 } else {}

theorem recovered_iff_half :
    Recovered halfRing (uscProcessRxoverrunSync halfRing) [{ status := bit4 }] [{}, {}] := by
  have ring : OverrunRing halfRing [{ status := bit4 }] [{}, {}] [{ count := 4096 }] := by
    refine ⟨by decide, rfl, by simp, ?_, ?_, ?_⟩
    · rintro x ⟨⟩
      decide
    · intro x member
      rcases List.mem_pair.mp member with rfl | rfl
      · decide
      · decide
    · intro x member
      rw [List.mem_singleton.mp member]
      decide
  exact (recovered_iff ring).mpr (.inl (List.cons_ne_nil _ _))

end Route56
