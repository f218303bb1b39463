import Route56.Frame

namespace Route56

/-- The character and flag of a call. -/
def FlipCall.entry (call : FlipCall) : U8 × Nat := (call.ch, call.flag)

/-- The calls that insert `entries` one after the other, when those of `calls` were made before. -/
def flipCalls (insert : List FlipCall → U8 → Nat → Nat) : List FlipCall → List (U8 × Nat) → List FlipCall
  | _, [] => []
  | calls, (ch, flag) :: rest =>
    ⟨ch, flag, insert calls ch flag⟩ :: flipCalls insert (calls ++ [⟨ch, flag, insert calls ch flag⟩]) rest

/-- A character with its flag, and the mark of an overrun behind it. -/
def statusEntries (readMask : U16) (ch : U8) (status : U16) : List (U8 × Nat) :=
  (ch, charFlag (status &&& readMask)) :: if status &&& readMask &&& rxstatusOverrun ≠ 0 then [(0, ttyOverrun)] else []

/-- What is to be inserted for a character read with its status. -/
def charEntries (readMask ignoreMask : U16) (char : U8 × U16) : List (U8 × Nat) :=
  if char.2 &&& ignoreMask ≠ 0 then [] else statusEntries readMask char.1 char.2

/-- What the handler inserts for it. -/
def handledEntries (readMask ignoreMask : U16) (char : U8 × U16) : List (U8 × Nat) :=
  if char.2 &&& rxstatusCharError ≠ 0 ∧ hideByBreak char.2 &&& ignoreMask ≠ 0 then []
  else statusEntries readMask char.1 (hideByBreak char.2)

/-- How many overrun marks were inserted. -/
def marksInserted (calls : List FlipCall) : Nat :=
  ((calls.filter fun call => call.flag = ttyOverrun).map FlipCall.inserted).sum

section

variable {insert : List FlipCall → U8 → Nat → Nat}

theorem flipCalls_entry (calls : List FlipCall) (entries : List (U8 × Nat)) :
    (flipCalls insert calls entries).map FlipCall.entry = entries := by
  induction entries generalizing calls with
  | nil => rfl
  | cons entry rest ih => exact congrArg (entry :: ·) (ih _)

theorem flipCalls_append (calls : List FlipCall) (a b : List (U8 × Nat)) :
    flipCalls insert calls (a ++ b) =
      flipCalls insert calls a ++ flipCalls insert (calls ++ flipCalls insert calls a) b := by
  induction a generalizing calls with
  | nil =>
    show flipCalls insert calls b = flipCalls insert (calls ++ []) b
    rw [List.append_nil]
  | cons entry rest ih =>
    have front := ih (calls ++ [⟨entry.1, entry.2, insert calls entry.1 entry.2⟩])
    rw [List.append_assoc] at front
    exact congrArg (_ :: ·) front

end

theorem marksInserted_append (a b : List FlipCall) :
    marksInserted (a ++ b) = marksInserted a + marksInserted b := by
  unfold marksInserted
  rw [List.filter_append, List.map_append, List.sum_append]

theorem marksInserted_ne_zero {calls : List FlipCall} :
    marksInserted calls ≠ 0 ↔ ∃ call ∈ calls, call.flag = ttyOverrun ∧ call.inserted ≠ 0 := by
  unfold marksInserted
  rw [Ne, List.sum_eq_zero_iff, not_forall]
  constructor
  · rintro ⟨n, some⟩
    obtain ⟨member, positive⟩ := Classical.not_imp.mp some
    obtain ⟨call, kept, rfl⟩ := List.mem_map.mp member
    obtain ⟨among, mark⟩ := List.mem_filter.mp kept
    exact ⟨call, among, of_decide_eq_true mark, positive⟩
  · rintro ⟨call, among, mark, positive⟩
    exact ⟨call.inserted, Classical.not_imp.mpr
      ⟨List.mem_map_of_mem (List.mem_filter.mpr ⟨among, decide_eq_true mark⟩), positive⟩⟩

theorem charFlag_ne_overrun (status : U16) : charFlag status ≠ ttyOverrun := by
  unfold charFlag
  split
  · decide
  · split
    · decide
    · split
      · decide
      · decide

theorem insertChar_received (info : R56Struct) (dataByte : U8) (status : U16) {flag : Nat} (plain : flag ≠ ttyOverrun) :
    let calls := flipCalls info.tty.insertFlipChar info.tty.flip
      ((dataByte, flag) :: if status &&& rxstatusOverrun ≠ 0 then [(0, ttyOverrun)] else [])
    let after := insertChar info dataByte status flag
    after.1.tty = { info.tty with flip := info.tty.flip ++ calls } ∧
      after.1.readStatusMask = info.readStatusMask ∧ after.1.ignoreStatusMask = info.ignoreStatusMask ∧
      after.2 = marksInserted calls := by
  have unmarked (n : Nat) (rest : List FlipCall) : marksInserted (⟨dataByte, flag, n⟩ :: rest) = marksInserted rest := by
    unfold marksInserted
    rw [List.filter_cons_of_neg (by simpa using plain)]
  unfold insertChar
  dsimp only
  by_cases overrun : status &&& rxstatusOverrun ≠ 0
  · rw [if_pos overrun, if_pos overrun]
    refine ⟨?_, rfl, rfl, ?_⟩
    · exact congrArg (fun calls => { info.tty with flip := calls }) (List.append_assoc _ _ _)
    · exact (unmarked (info.tty.insertFlipChar info.tty.flip dataByte flag) [⟨0, ttyOverrun, _⟩]).symm
  · rw [if_neg overrun, if_neg overrun]
    exact ⟨rfl, rfl, rfl, (unmarked (info.tty.insertFlipChar info.tty.flip dataByte flag) []).symm⟩

/-- What the handler has done about the characters `chars`, with the result `after`. -/
structure CharsReceived (info : R56Struct) (chars : List (U8 × U16)) (after : R56Struct × Nat) : Prop where
  masks : after.1.readStatusMask = info.readStatusMask ∧ after.1.ignoreStatusMask = info.ignoreStatusMask
  tty : after.1.tty = { info.tty with
    flip := info.tty.flip ++ flipCalls info.tty.insertFlipChar info.tty.flip
      (chars.flatMap (handledEntries info.readStatusMask info.ignoreStatusMask)) }
  work : after.2 = marksInserted (flipCalls info.tty.insertFlipChar info.tty.flip
    (chars.flatMap (handledEntries info.readStatusMask info.ignoreStatusMask)))

theorem CharsReceived.trans {info : R56Struct} {a b : List (U8 × U16)} {mid after : R56Struct × Nat}
    (first : CharsReceived info a mid) (second : CharsReceived mid.1 b after) :
    CharsReceived info (a ++ b) (after.1, mid.2 + after.2) := by
  obtain ⟨masks, tty, work⟩ := first
  obtain ⟨masks', tty', work'⟩ := second
  rw [masks.1, masks.2, tty] at tty' work'
  refine ⟨⟨masks'.1.trans masks.1, masks'.2.trans masks.2⟩, tty'.trans ?_, ?_⟩
  · rw [List.flatMap_append, flipCalls_append, ← List.append_assoc]
  · show mid.2 + after.2 = _
    rw [work, work', List.flatMap_append, flipCalls_append, marksInserted_append]

/-- A status with no error bit has none of the bits that the flags and the overrun mark are for. -/
theorem good_status {status : U16} (good : ¬status &&& rxstatusCharError ≠ 0) (readMask : U16) :
    status &&& rxstatusBreakReceived = 0 ∧ charFlag (status &&& readMask) = ttyNormal ∧
      status &&& readMask &&& rxstatusOverrun = 0 ∧ status &&& rxstatusOverrun = 0 := by
  have none : status &&& rxstatusCharError = 0 := not_not.mp good
  have bits : rxstatusCharError =
      ((rxstatusFramingError ||| rxstatusParityError) ||| rxstatusOverrun) ||| rxstatusBreakReceived := by decide
  rw [bits, BitVec.and_or_distrib_left, BitVec.and_or_distrib_left, BitVec.and_or_distrib_left] at none
  obtain ⟨others, brk⟩ := BitVec.or_eq_zero_iff.mp none
  obtain ⟨faults, overrun⟩ := BitVec.or_eq_zero_iff.mp others
  obtain ⟨framing, parity⟩ := BitVec.or_eq_zero_iff.mp faults
  have masked {bit : U16} (clear : status &&& bit = 0) : status &&& readMask &&& bit = 0 := by
    rw [BitVec.and_assoc, BitVec.and_comm readMask, ← BitVec.and_assoc, clear]
    exact BitVec.zero_and
  refine ⟨brk, ?_, masked overrun, overrun⟩
  unfold charFlag
  rw [if_neg (not_not.mpr (masked brk)), if_neg (not_not.mpr (masked parity)), if_neg (not_not.mpr (masked framing))]

/-- One pass of the loop. -/
theorem receiveChar_received (info : R56Struct) (char : U8 × U16) :
    CharsReceived info [char] (receiveChar info char.1 char.2) := by
  have one : [char].flatMap (handledEntries info.readStatusMask info.ignoreStatusMask) =
      handledEntries info.readStatusMask info.ignoreStatusMask char := List.append_nil _
  unfold receiveChar
  dsimp only
  by_cases bad : char.2 &&& rxstatusCharError ≠ 0
  · rw [if_pos bad]
    unfold receiveBadChar
    dsimp only
    by_cases ignored : hideByBreak char.2 &&& info.ignoreStatusMask ≠ 0
    · rw [if_pos ignored]
      have dropped : handledEntries info.readStatusMask info.ignoreStatusMask char = [] := if_pos ⟨bad, ignored⟩
      refine ⟨⟨rfl, rfl⟩, ?_, ?_⟩
      · rw [one, dropped]
        exact congrArg (fun calls => { info.tty with flip := calls }) (List.append_nil _).symm
      · rw [one, dropped]
        rfl
    · rw [if_neg ignored]
      have kept : handledEntries info.readStatusMask info.ignoreStatusMask char =
          statusEntries info.readStatusMask char.1 (hideByBreak char.2) := if_neg fun both => ignored both.2
      obtain ⟨tty, reads, ignores, work⟩ := insertChar_received
        { info with
          usc := purgeOnOverrun (uscUnlatchRxstatusBits (uscOutReg info.usc .ccar
            ((uscInReg info.usc .ccar &&& 0x0780) ||| (rdrAddress + lsbOnly))) rxstatusAll) char.2
          icount := countCharError { info.icount with rx := info.icount.rx + 1 } char.2 }
        char.1 (hideByBreak char.2 &&& info.readStatusMask) (charFlag_ne_overrun (hideByBreak char.2 &&& _))
      refine ⟨⟨reads, ignores⟩, ?_, ?_⟩
      · rw [one, kept]
        exact tty
      · rw [one, kept]
        exact work
  · rw [if_neg bad]
    obtain ⟨brk, flag, unmarked, overrun⟩ := good_status bad info.readStatusMask
    have plain : hideByBreak char.2 = char.2 := if_neg (not_not.mpr brk)
    have kept : handledEntries info.readStatusMask info.ignoreStatusMask char = [(char.1, ttyNormal)] := by
      refine (if_neg fun both => bad both.1).trans ?_
      rw [plain, statusEntries, flag, if_neg (not_not.mpr unmarked)]
    obtain ⟨tty, reads, ignores, work⟩ := insertChar_received
      { info with
        usc := uscOutReg info.usc .ccar ((uscInReg info.usc .ccar &&& 0x0780) ||| (rdrAddress + lsbOnly))
        icount := { info.icount with rx := info.icount.rx + 1 } } char.1 char.2 (show ttyNormal ≠ ttyOverrun by decide)
    rw [if_neg (not_not.mpr overrun)] at tty work
    refine ⟨⟨reads, ignores⟩, ?_, ?_⟩
    · rw [one, kept]
      exact tty
    · rw [one, kept]
      exact work

/-- The loop: the calls come in the order of the characters, and `work` counts the overrun marks inserted. -/
theorem receiveChars_received (chars : List (U8 × U16)) (info : R56Struct) (work : Nat) :
    ∃ marks, CharsReceived info chars ((receiveChars chars info work).1, marks) ∧
      (receiveChars chars info work).2 = work + marks := by
  induction chars generalizing info work with
  | nil =>
    refine ⟨0, ⟨⟨rfl, rfl⟩, ?_, rfl⟩, rfl⟩
    exact congrArg (fun calls => { info.tty with flip := calls }) (List.append_nil _).symm
  | cons char rest ih =>
    have head := receiveChar_received info char
    obtain ⟨marks, tail, count⟩ := ih (receiveChar info char.1 char.2).1 (work + (receiveChar info char.1 char.2).2)
    have whole := head.trans tail
    exact ⟨(receiveChar info char.1 char.2).2 + marks, whole, count.trans (Nat.add_assoc _ _ _)⟩

/-- The flip buffer and the pushes after the handler. -/
theorem r56IsrReceiveData_received (info : R56Struct) :
    let calls := flipCalls info.tty.insertFlipChar info.tty.flip
      (info.usc.rxFifo.flatMap (handledEntries info.readStatusMask info.ignoreStatusMask))
    (r56IsrReceiveData info).tty.flip = info.tty.flip ++ calls ∧
      (r56IsrReceiveData info).tty.flipPushes = info.tty.flipPushes + if marksInserted calls ≠ 0 then 1 else 0 := by
  let u := uscRCmd (uscClearIrqPendingBits info.usc receiveData) rCmdSelectRicrRxFifostatus
  obtain ⟨marks, ⟨_, tty, work⟩, count⟩ := receiveChars_received info.usc.rxFifo
    { info with usc := { uscOutReg u .ricr (uscInReg u .ricr &&& ~~~bit3) with rxFifo := [] } } 0
  have unfolded : r56IsrReceiveData info =
      let received := receiveChars info.usc.rxFifo
        { info with usc := { uscOutReg u .ricr (uscInReg u .ricr &&& ~~~bit3) with rxFifo := [] } } 0
      if received.2 ≠ 0 then
        { received.1 with tty := { received.1.tty with flipPushes := received.1.tty.flipPushes + 1 } }
      else received.1 := rfl
  rw [unfolded]
  generalize receiveChars info.usc.rxFifo
    { info with usc := { uscOutReg u .ricr (uscInReg u .ricr &&& ~~~bit3) with rxFifo := [] } } 0 = received at *
  dsimp only at tty work ⊢
  rw [Nat.zero_add, work] at count
  rw [← count]
  by_cases some : received.2 ≠ 0
  · rw [if_pos some, if_pos some]
    dsimp only
    rw [tty]
    exact ⟨rfl, rfl⟩
  · rw [if_neg some, if_neg some, tty]
    exact ⟨rfl, rfl⟩

/-- What the handler inserts for a character is what is to be inserted. Without an error the mask of ignored conditions
is not looked at; with a break the parity and framing errors are hidden from both masks. -/
def statusHandled (readMask ignoreMask status : U16) : Prop :=
  (status &&& rxstatusCharError = 0 → status &&& ignoreMask = 0) ∧
    (status &&& rxstatusBreakReceived ≠ 0 → hideByBreak status &&& ignoreMask ≠ 0 ∨
      status &&& ignoreMask = 0 ∧ (rxstatusBreakReceived &&& readMask ≠ 0 ∨
        status &&& readMask &&& (rxstatusParityError ||| rxstatusFramingError) = 0))

instance (readMask ignoreMask status : U16) : Decidable (statusHandled readMask ignoreMask status) :=
  inferInstanceAs (Decidable ((_ → _) ∧ (_ → _)))

/-- A bit that `hideByBreak` keeps. -/
theorem hideByBreak_and {status bit : U16} (kept : ~~~(rxstatusFramingError + rxstatusParityError) &&& bit = bit)
    (mask : U16) : hideByBreak status &&& mask &&& bit = status &&& mask &&& bit := by
  unfold hideByBreak
  split
  · rw [BitVec.and_assoc, BitVec.and_assoc, BitVec.and_assoc, BitVec.and_comm mask bit, ← BitVec.and_assoc _ bit, kept]
  · rfl

theorem ignored_of_hidden {status ignoreMask : U16} (ignored : hideByBreak status &&& ignoreMask ≠ 0) :
    status &&& ignoreMask ≠ 0 := by
  unfold hideByBreak at ignored
  split at ignored
  · intro none
    rw [BitVec.and_assoc, BitVec.and_comm (~~~_), ← BitVec.and_assoc, none] at ignored
    exact ignored BitVec.zero_and
  · exact ignored

theorem charFlag_normal {status : U16} (clear : ¬status &&& rxstatusBreakReceived ≠ 0) :
    charFlag status = ttyNormal ↔ status &&& (rxstatusParityError ||| rxstatusFramingError) = 0 := by
  have parts : status &&& (rxstatusParityError ||| rxstatusFramingError) = 0 ↔
      status &&& rxstatusParityError = 0 ∧ status &&& rxstatusFramingError = 0 := by
    rw [BitVec.and_or_distrib_left]
    exact BitVec.or_eq_zero_iff
  unfold charFlag
  rw [if_neg clear, parts]
  by_cases parity : status &&& rxstatusParityError ≠ 0
  · rw [if_pos parity]
    exact iff_of_false (by decide) fun none => parity none.1
  · rw [if_neg parity]
    by_cases framing : status &&& rxstatusFramingError ≠ 0
    · rw [if_pos framing]
      exact iff_of_false (by decide) fun none => framing none.2
    · rw [if_neg framing]
      exact iff_of_true rfl ⟨not_not.mp parity, not_not.mp framing⟩

/-- The flag of a kept character with a break. -/
theorem breakFlag_iff {status : U16} (brk : status &&& rxstatusBreakReceived ≠ 0) (readMask : U16) :
    charFlag (hideByBreak status &&& readMask) = charFlag (status &&& readMask) ↔
      rxstatusBreakReceived &&& readMask ≠ 0 ∨
        status &&& readMask &&& (rxstatusParityError ||| rxstatusFramingError) = 0 := by
  have single : status &&& rxstatusBreakReceived = rxstatusBreakReceived := by
    have power : rxstatusBreakReceived = BitVec.twoPow 16 5 := by decide
    rw [power, BitVec.and_twoPow] at brk ⊢
    split
    · rfl
    · rename_i unset
      exact absurd (if_neg unset) brk
  have shown : status &&& readMask &&& rxstatusBreakReceived = rxstatusBreakReceived &&& readMask := by
    rw [BitVec.and_assoc, BitVec.and_comm readMask, ← BitVec.and_assoc, single]
  have same : hideByBreak status &&& readMask &&& rxstatusBreakReceived = rxstatusBreakReceived &&& readMask :=
    (hideByBreak_and (by decide) readMask).trans shown
  by_cases enabled : rxstatusBreakReceived &&& readMask ≠ 0
  · have left : charFlag (hideByBreak status &&& readMask) = ttyBreak := if_pos (same.symm ▸ enabled)
    have right : charFlag (status &&& readMask) = ttyBreak := if_pos (shown.symm ▸ enabled)
    exact iff_of_true (left.trans right.symm) (.inl enabled)
  · have hidden : hideByBreak status &&& readMask &&& (rxstatusParityError ||| rxstatusFramingError) = 0 := by
      have none : ~~~(rxstatusFramingError + rxstatusParityError) &&&
          (rxstatusParityError ||| rxstatusFramingError) = 0 := by decide
      rw [hideByBreak, if_pos brk, BitVec.and_assoc, BitVec.and_comm readMask, BitVec.and_assoc status,
        ← BitVec.and_assoc (~~~_), none, show (0 : U16) &&& readMask = 0 from BitVec.zero_and]
      exact BitVec.and_zero
    rw [(charFlag_normal (same.symm ▸ enabled)).mpr hidden, eq_comm, charFlag_normal (shown.symm ▸ enabled)]
    exact (or_iff_right enabled).symm

/-- The handler never inserts less for a character than it is to. -/
theorem charEntries_length (readMask ignoreMask : U16) (char : U8 × U16) :
    (charEntries readMask ignoreMask char).length ≤ (handledEntries readMask ignoreMask char).length := by
  by_cases ignored : hideByBreak char.2 &&& ignoreMask ≠ 0
  · rw [charEntries, if_pos (ignored_of_hidden ignored)]
    exact Nat.zero_le _
  · rw [handledEntries, if_neg fun both => ignored both.2, charEntries]
    split
    · exact Nat.zero_le _
    · unfold statusEntries
      rw [hideByBreak_and (by decide) readMask]
      exact Nat.le_refl _

theorem handledEntries_iff {readMask ignoreMask : U16} {char : U8 × U16} :
    handledEntries readMask ignoreMask char = charEntries readMask ignoreMask char ↔
      statusHandled readMask ignoreMask char.2 := by
  obtain ⟨ch, status⟩ := char
  unfold handledEntries charEntries statusHandled
  dsimp only
  by_cases bad : status &&& rxstatusCharError ≠ 0
  swap
  · obtain ⟨brk, -⟩ := good_status bad readMask
    have plain : hideByBreak status = status := if_neg (not_not.mpr brk)
    rw [if_neg fun both => bad both.1, plain]
    constructor
    · intro same
      refine ⟨fun _ => ?_, fun some => absurd brk some⟩
      by_contra dropped
      rw [if_pos dropped] at same
      exact List.cons_ne_nil _ _ same
    · exact fun handled => (if_neg (not_not.mpr (handled.1 (not_not.mp bad)))).symm
  · have first : status &&& rxstatusCharError = 0 → status &&& ignoreMask = 0 := fun none => absurd none bad
    rw [and_iff_right first]
    by_cases brk : status &&& rxstatusBreakReceived ≠ 0
    swap
    · have plain : hideByBreak status = status := if_neg brk
      rw [plain]
      refine iff_of_true (if_congr (and_iff_right bad) rfl rfl) fun some => absurd some brk
    · rw [imp_iff_right brk]
      by_cases ignored : hideByBreak status &&& ignoreMask ≠ 0
      · rw [if_pos ⟨bad, ignored⟩, if_pos (ignored_of_hidden ignored)]
        exact iff_of_true rfl (.inl ignored)
      · rw [if_neg fun both => ignored both.2, or_iff_right ignored]
        by_cases dropped : status &&& ignoreMask ≠ 0
        · rw [if_pos dropped]
          exact iff_of_false (List.cons_ne_nil _ _) fun both => dropped both.1
        · rw [if_neg dropped, and_iff_right (not_not.mp dropped), ← breakFlag_iff brk readMask]
          unfold statusEntries
          rw [hideByBreak_and (by decide) readMask, List.cons.injEq, and_iff_left rfl, Prod.mk.injEq, and_iff_right rfl]

/-- Lists that are joined from parts no longer than others are equal to those only part by part. -/
theorem flatMap_eq_iff {α β : Type} {f g : α → List β} (shorter : ∀ a, (g a).length ≤ (f a).length) (l : List α) :
    l.flatMap f = l.flatMap g ↔ ∀ a ∈ l, f a = g a := by
  have total (l : List α) : (l.flatMap g).length ≤ (l.flatMap f).length := by
    induction l with
    | nil => exact Nat.le_refl _
    | cons a rest ih =>
      rw [List.flatMap_cons, List.flatMap_cons, List.length_append, List.length_append]
      exact Nat.add_le_add (shorter a) ih
  refine ⟨fun same => ?_, List.flatMap_congr⟩
  induction l with
  | nil => exact fun a member => absurd member List.not_mem_nil
  | cons a rest ih =>
    rw [List.flatMap_cons, List.flatMap_cons] at same
    have lengths := congrArg List.length same
    rw [List.length_append, List.length_append] at lengths
    obtain ⟨head, tail⟩ := List.append_inj same (by have := shorter a; have := total rest; omega)
    rw [List.forall_mem_cons]
    exact ⟨head, ih tail⟩

/-- The calls that have been made insert what is to be inserted for the characters read, in their order, and the flip
buffer has been pushed if a character was inserted. -/
def CharsDelivered (info after : R56Struct) : Prop :=
  ∃ calls, after.tty.flip = info.tty.flip ++ calls ∧
    calls.map FlipCall.entry = info.usc.rxFifo.flatMap (charEntries info.readStatusMask info.ignoreStatusMask) ∧
    ((∃ call ∈ calls, call.inserted ≠ 0) → info.tty.flipPushes < after.tty.flipPushes)

/-- Nothing of what is to be inserted has room in the flip buffer, or the mark of an overrun has. -/
def PushIsDue (info : R56Struct) : Prop :=
  let calls := flipCalls info.tty.insertFlipChar info.tty.flip
    (info.usc.rxFifo.flatMap (charEntries info.readStatusMask info.ignoreStatusMask))
  (∀ call ∈ calls, call.inserted = 0) ∨ ∃ call ∈ calls, call.flag = ttyOverrun ∧ call.inserted ≠ 0

/-- Two characters with the tty's masks open: one without an error, one behind an overrun. -/
def twoChars : R56Struct where
  readStatusMask := rxstatusCharError
  usc := { rxFifo := [(0x41, 0), (0x42, rxstatusOverrun)] }

/-- One character received without an error. -/
def oneChar : R56Struct where
  usc := { rxFifo := [(0x41, 0)] }

end Route56
