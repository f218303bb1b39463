import Route56.RxBounds

namespace Route56

open CircularBuffer

/-- `MAX_ASYNC_BUFFER_SIZE`, the length of `flag_buf`. -/
def maxAsyncBufferSize : Nat := 4096

/-- No count passed to `ldisc_receive_buf` from `info` to `after` is beyond the flag buffer. -/
def FlagsCover (info after : R56Struct) : Prop :=
  ∃ passed, after.history.ldisc = info.history.ldisc ++ passed ∧ ∀ block ∈ passed, block.length ≤ maxAsyncBufferSize

theorem FlagsCover.of_append {info after : R56Struct} {passed : List (List U8)}
    (appended : after.history.ldisc = info.history.ldisc ++ passed) :
    FlagsCover info after ↔ ∀ block ∈ passed, block.length ≤ maxAsyncBufferSize := by
  constructor
  · rintro ⟨other, same, short⟩
    rw [appended] at same
    rw [List.append_cancel_left same]
    exact short
  · exact fun short => ⟨passed, appended, short⟩

/-- A frame waits at the front of the ring, and `e` is its last entry. -/
def R56Struct.frontFrame (info : R56Struct) (e : DmaBufferEntry) : Prop :=
  ∃ front back, info.rxView = front ++ e :: back ∧ (∀ x ∈ front, x.open) ∧ e.ends

/-- A frame with this status is returned: it has no error, or has a CRC error and bad frames are returned. -/
def returnsFrame (crcType status : U16) : Prop :=
  status &&& rxstatusError = 0 ∨
    status &&& (rxstatusShortFrame + rxstatusAbort + rxstatusOverrun) = 0 ∧ crcType &&& hdlcCrcReturnEx ≠ 0

/-- The bytes of the frame without the CRC, or all of them and a status. -/
def returnLength (crcType rcc : U16) : Nat :=
  rclrValue - rcc.toNat - crcLength crcType + (if crcType &&& hdlcCrcReturnEx ≠ 0 then 1 else 0)

/-- A frame for the line discipline at the front of the ring is no longer than the flag buffer, or
too long to be returned. -/
def R56Struct.flagsEnough (info : R56Struct) : Prop :=
  info.netcount = 0 → ∀ e, info.frontFrame e → returnsFrame info.params.crcType e.status →
    returnLength info.params.crcType e.rcc ≤ maxAsyncBufferSize ∨
      info.maxFrameSize < returnLength info.params.crcType e.rcc

theorem rxFrameSize_eq (crcType rcc : U16) :
    rxFrameSize crcType rcc = (rclrValue - rcc.toNat + 2 ^ 32 - crcLength crcType) % 2 ^ 32 := by
  have small : rclrValue - rcc.toNat < 2 ^ 32 := by
    unfold rclrValue
    omega
  unfold rxFrameSize crcLength
  dsimp only
  split
  · rfl
  · split
    · rfl
    · rw [Nat.sub_zero, Nat.add_mod_right, Nat.mod_eq_of_lt small]

theorem rxFrameData_length (info : R56Struct) (startIndex : Nat) (status : U16) (framesize : Nat) :
    (rxFrameData info startIndex status framesize).length =
      framesize + (if info.params.crcType &&& hdlcCrcReturnEx ≠ 0 then 1 else 0) := by
  have copied := copyRxFrame_length info.rxBufferList info.rxBufferCount framesize startIndex framesize (Nat.le_refl _)
  unfold rxFrameData
  dsimp only
  split
  · rw [List.length_append, copied]
    rfl
  · exact copied

theorem crcLength_le_four (crc : U16) : crcLength crc ≤ 4 := by
  unfold crcLength
  split
  · decide
  · split
    · decide
    · exact Nat.zero_le _

/-- The bytes passed on for a frame of `framesize` bytes. -/
def passedSize (crcType : U16) (framesize : Nat) : Nat :=
  framesize + (if crcType &&& hdlcCrcReturnEx ≠ 0 then 1 else 0)

theorem rxTooLong_passedSize {info : R56Struct} (most : info.maxFrameSize ≤ hdlcMaxFrameSize) {framesize : Nat} :
    rxTooLong info framesize ↔ info.maxFrameSize < passedSize info.params.crcType framesize := by
  have most : info.maxFrameSize ≤ 65535 := most
  unfold rxTooLong passedSize
  by_cases ex : info.params.crcType &&& hdlcCrcReturnEx ≠ 0
  · rw [if_pos ex]
    constructor
    · rintro (⟨_, long⟩ | long) <;> omega
    · intro long
      by_cases whole : framesize > info.maxFrameSize
      · exact .inr whole
      · exact .inl ⟨ex, by omega⟩
  · rw [if_neg ex]
    exact ⟨fun long => long.elim (fun set => absurd set.1 ex) id, .inr⟩

/-- A frame that is returned is passed on with `returnLength` bytes, unless it is empty or too long. -/
theorem rxBlocks_short_iff {info : R56Struct} (most : info.maxFrameSize ≤ hdlcMaxFrameSize) (e : DmaBufferEntry) :
    (∀ block ∈ rxBlocks info e, block.length ≤ maxAsyncBufferSize) ↔
      (returnsFrame info.params.crcType e.status →
        returnLength info.params.crcType e.rcc ≤ maxAsyncBufferSize ∨
          info.maxFrameSize < returnLength info.params.crcType e.rcc) := by
  have limit : info.maxFrameSize ≤ 65535 := most
  have room : maxAsyncBufferSize = 4096 := rfl
  have none (dropped : rxBlocks info e = []) : ∀ block ∈ rxBlocks info e, block.length ≤ maxAsyncBufferSize := by
    rw [dropped]
    exact fun block member => absurd member List.not_mem_nil
  by_cases returned : returnsFrame info.params.crcType e.status
  swap
  · have dropped : rxReturnSize info.params.crcType e.status e.rcc = 0 := if_neg returned
    exact ⟨fun _ both => absurd both returned, fun _ => none (rxBlocks_eq_nil (.inl dropped))⟩
  have size : rxReturnSize info.params.crcType e.status e.rcc = rxFrameSize info.params.crcType e.rcc := if_pos returned
  rw [rxFrameSize_eq] at size
  have crc := crcLength_le_four info.params.crcType
  have whole : rclrValue - e.rcc.toNat ≤ 65535 := Nat.sub_le _ _
  have data := rxFrameData_length info info.currentRxBuffer e.status (rxReturnSize info.params.crcType e.status e.rcc)
  have singleton := @rxBlocks_eq_singleton info e
  have nil := @rxBlocks_eq_nil info e
  rw [rxTooLong_passedSize most] at singleton nil
  unfold passedSize at singleton nil
  unfold returnLength
  have status : (if info.params.crcType &&& hdlcCrcReturnEx ≠ 0 then 1 else 0) ≤ 1 := by
    split <;> decide
  generalize (if info.params.crcType &&& hdlcCrcReturnEx ≠ 0 then 1 else 0) = more at data singleton nil status ⊢
  generalize rxReturnSize info.params.crcType e.status e.rcc = framesize at size data singleton nil
  generalize rclrValue - e.rcc.toNat = length at size whole ⊢
  generalize crcLength info.params.crcType = crcBytes at size crc ⊢
  by_cases empty : framesize = 0
  · exact ⟨fun _ _ => .inl (by omega), fun _ => none (nil (.inl empty))⟩
  by_cases long : info.maxFrameSize < framesize + more
  · exact ⟨fun _ _ => by omega, fun _ => none (nil (.inr long))⟩
  rw [singleton empty long]
  constructor
  · intro short _
    have within := short _ (List.mem_singleton.mpr rfl)
    rw [data] at within
    omega
  · intro enough block member
    rw [List.mem_singleton.mp member, data]
    have within := enough returned
    omega

/-- The blocks handed on, to the line discipline and to the network layer. -/
def R56Struct.handed (info : R56Struct) : List (List U8) × List (List U8) := (info.history.ldisc, info.history.netRx)

theorem restartOnOverflow_handed (info : R56Struct) (index : Nat) :
    (restartOnOverflow info index).handed = info.handed := by
  have started : (uscStartReceiver info).handed = info.handed := rfl
  unfold restartOnOverflow
  split
  · split
    · exact started
    · rfl
  · rfl

theorem restartOnOverflow_ldisc (info : R56Struct) (index : Nat) :
    (restartOnOverflow info index).history.ldisc = info.history.ldisc :=
  congrArg Prod.fst (restartOnOverflow_handed info index)

theorem frontFrame_eq {info : R56Struct} (first : info.currentRxBuffer < info.rxBufferCount) {e x : DmaBufferEntry}
    (here : info.frontFrame e) (there : info.frontFrame x) : x = e := by
  obtain ⟨front, back, split, opens, ends⟩ := here
  obtain ⟨otherFront, otherBack, otherSplit, otherOpens, otherEnds⟩ := there
  have found := searchRxFrame_frame first split opens ends
  rw [searchRxFrame_frame first otherSplit otherOpens otherEnds] at found
  have same : cell info.rxBufferCount info.currentRxBuffer otherFront.length =
      cell info.rxBufferCount info.currentRxBuffer front.length := RxSearch.frame.inj found
  have entry := cell_of_view split
  rw [← same, cell_of_view otherSplit] at entry
  exact entry

/-- A call without a frame at the front passes nothing on. -/
theorem r56GetRxFrame_ldisc {info : R56Struct} (first : info.currentRxBuffer < info.rxBufferCount) :
    (∃ e, info.frontFrame e ∧ (r56GetRxFrame info).1.history.ldisc =
        info.history.ldisc ++ (if info.netcount = 0 then rxBlocks info e else [])) ∨
      (∀ e, ¬info.frontFrame e) ∧ (r56GetRxFrame info).1.history.ldisc = info.history.ldisc := by
  rcases opens_split info.rxView with opens | ⟨front, e, back, split, opens, free | ends⟩
  · have call := r56GetRxFrame_of_exhausted first opens
    refine .inr ⟨?_, ?_⟩
    · rintro e ⟨front, back, split, _, ends⟩
      have member : e ∈ info.rxView := by
        rw [split]
        exact List.mem_append_right _ List.mem_cons_self
      exact ends (opens e member).1
    · rw [call]
      refine (restartOnOverflow_ldisc _ _).trans ?_
      split
      · rfl
      · rfl
  · have call := r56GetRxFrame_of_unused first split opens free
    refine .inr ⟨?_, ?_⟩
    · rintro x ⟨otherFront, otherBack, otherSplit, otherOpens, otherEnds⟩
      have found := searchRxFrame_unused first split opens free
      rw [searchRxFrame_frame first otherSplit otherOpens otherEnds] at found
      cases found
    · rw [call]
      exact restartOnOverflow_ldisc _ _
  · have call := r56GetRxFrame_of_frame first split opens ends
    have entry : info.rxBufferList (info.rxCell front.length) = e := cell_of_view split
    have history := (deliverRxFrame_history info (info.rxCell front.length)).1
    rw [entry] at history
    refine .inl ⟨e, ⟨front, back, split, opens, ends⟩, ?_⟩
    rw [call]
    exact (restartOnOverflow_ldisc _ _).trans history

theorem r56GetRxFrame_flags {info : R56Struct} (first : info.currentRxBuffer < info.rxBufferCount)
    (most : info.maxFrameSize ≤ hdlcMaxFrameSize) :
    FlagsCover info (r56GetRxFrame info).1 ↔ info.flagsEnough := by
  rcases r56GetRxFrame_ldisc first with ⟨e, front, passed⟩ | ⟨noFrame, kept⟩
  · rw [FlagsCover.of_append passed]
    by_cases net : info.netcount = 0
    · rw [if_pos net, rxBlocks_short_iff most]
      refine ⟨fun short _ x other => ?_, fun enough => enough net e front⟩
      rw [frontFrame_eq first front other]
      exact short
    · rw [if_neg net]
      exact ⟨fun _ set => absurd set net, fun _ block member => absurd member List.not_mem_nil⟩
  · rw [FlagsCover.of_append (kept.trans (List.append_nil _).symm)]
    exact ⟨fun _ _ e front => absurd front (noFrame e), fun _ block member => absurd member List.not_mem_nil⟩

theorem r56GetRawRxFrame_flags (info : R56Struct) : FlagsCover info (r56GetRawRxFrame info).1 := by
  have delivered : FlagsCover info (deliverRawFrame info info.currentRxBuffer) := by
    have size := rawFrameSize_le (info.rxBufferList info.currentRxBuffer)
    unfold deliverRawFrame
    dsimp only
    split
    · exact ⟨[], by rw [countBadFrame_history, List.append_nil], fun block member => absurd member List.not_mem_nil⟩
    · refine ⟨[_], congrArg (· ++ [_]) (congrArg History.ldisc (countBadFrame_history info _)), fun block member => ?_⟩
      rw [List.mem_singleton.mp member, Memory.length_read]
      exact size
  have kept (s : R56Struct) (index : Nat) (same : s.history.ldisc = info.history.ldisc) :
      FlagsCover info (restartOnOverflow s index) :=
    ⟨[], ((restartOnOverflow_ldisc s index).trans same).trans (List.append_nil _).symm,
      fun block member => absurd member List.not_mem_nil⟩
  unfold r56GetRawRxFrame
  dsimp only
  split
  · obtain ⟨passed, appended, short⟩ := delivered
    exact ⟨passed, (restartOnOverflow_ldisc _ _).trans appended, short⟩
  · exact kept info _ rfl

/-- The flag buffer covers what the RAW path passes on, and covers what the HDLC path passes on exactly
when the frame at the front of the ring is none of those the driver returns with more than 4096 bytes. -/
theorem flag_buffer_covers_iff {info : R56Struct} (first : info.currentRxBuffer < info.rxBufferCount)
    (allowed : 4096 ≤ info.maxFrameSize ∧ info.maxFrameSize ≤ 65535) :
    (FlagsCover info (r56GetRxFrame info).1 ∧ FlagsCover info (r56GetRawRxFrame info).1) ↔ info.flagsEnough :=
  ⟨fun both => (r56GetRxFrame_flags first allowed.2).mp both.1,
    fun enough => ⟨(r56GetRxFrame_flags first allowed.2).mpr enough, r56GetRawRxFrame_flags info⟩⟩

/-- A frame of 4096 bytes and its CRC, in the last entry of the ring and in the first. -/
def pageFrame : R56Struct where
  rxBufferCount := 3
  currentRxBuffer := 2
  rxBufferList := fun i => { count := if i = 1 then 4096 else 0, status := if i = 0 then bit4 else 0, rcc := 61437 }

theorem pageFrame_front : pageFrame.frontFrame (pageFrame.rxBufferList 0) := by
  refine ⟨[pageFrame.rxBufferList 2], [pageFrame.rxBufferList 1], rfl, fun x member => ?_, by decide⟩
  rw [List.mem_singleton.mp member]
  decide

/-- It is passed on in one call, with as many bytes as there are flags. -/
theorem flag_buffer_covers_page :
    FlagsCover pageFrame (r56GetRxFrame pageFrame).1 ∧
      ∃ block : List U8, block.length = maxAsyncBufferSize ∧ (r56GetRxFrame pageFrame).1.history.ldisc = [block] := by
  have enough : pageFrame.flagsEnough := by
    intro _ e front _
    rw [frontFrame_eq (by decide) pageFrame_front front]
    decide
  have size : rxReturnSize pageFrame.params.crcType (pageFrame.rxBufferList 0).status (pageFrame.rxBufferList 0).rcc =
      maxAsyncBufferSize := by decide
  have singleton := @rxBlocks_eq_singleton pageFrame (pageFrame.rxBufferList 0) (by rw [size]; decide)
    (by rw [size]; decide)
  rw [size] at singleton
  have length := rxFrameData_length pageFrame pageFrame.currentRxBuffer (pageFrame.rxBufferList 0).status maxAsyncBufferSize
  refine ⟨((@flag_buffer_covers_iff pageFrame (by decide) (by decide)).mpr enough).1, _, length.trans (by decide), ?_⟩
  rcases @r56GetRxFrame_ldisc pageFrame (by decide) with ⟨e, front, passed⟩ | ⟨noFrame, _⟩
  · have net : pageFrame.netcount = 0 := rfl
    rw [passed, frontFrame_eq (by decide) pageFrame_front front, if_pos net, singleton]
    rfl
  · exact absurd pageFrame_front (noFrame _)

/-- A frame of 4097 bytes and its CRC has arrived on a port that returns up to 8192. -/
def longFrame : R56Struct where
  maxFrameSize := 8192
  rxBufferCount := 3
  rxBufferList := fun i =>
    { count := if i = 2 then 4096 else 0, status := if i = 1 then bit4 else 0, rcc := 61436 }

/-- It is passed on in one call. -/
theorem flag_buffer_exceeded :
    4096 ≤ longFrame.maxFrameSize ∧ longFrame.maxFrameSize ≤ 65535 ∧
      ¬FlagsCover longFrame (r56GetRxFrame longFrame).1 := by
  refine ⟨by decide, by decide, ?_⟩
  rw [r56GetRxFrame_flags (by decide) (by decide)]
  intro enough
  have front : longFrame.frontFrame (longFrame.rxBufferList 1) := by
    refine ⟨[longFrame.rxBufferList 0], [longFrame.rxBufferList 2], rfl, fun x member => ?_, by decide⟩
    rw [List.mem_singleton.mp member]
    decide
  have within := enough rfl _ front (.inl (by decide))
  revert within
  decide

end Route56
