import Route56.RxFrame

namespace Route56

open CircularBuffer Transition

/-- The counters of `r56_icount` for received frames. -/
inductive RxCounter
  | ok | short | long | abort | over | crc
  deriving DecidableEq, Repr

def R56Icount.rxCounter (ic : R56Icount) : RxCounter → U32
  | .ok => ic.rxok
  | .short => ic.rxshort
  | .long => ic.rxlong
  | .abort => ic.rxabort
  | .over => ic.rxover
  | .crc => ic.rxcrc

def R56Icount.count (ic : R56Icount) : RxCounter → R56Icount
  | .ok => { ic with rxok := ic.rxok + 1 }
  | .short => { ic with rxshort := ic.rxshort + 1 }
  | .long => { ic with rxlong := ic.rxlong + 1 }
  | .abort => { ic with rxabort := ic.rxabort + 1 }
  | .over => { ic with rxover := ic.rxover + 1 }
  | .crc => { ic with rxcrc := ic.rxcrc + 1 }

theorem R56Icount.rxCounter_count (ic : R56Icount) (c d : RxCounter) :
    (ic.count c).rxCounter d = ic.rxCounter d + BitVec.ofNat 32 (if c = d then 1 else 0) := by
  cases c <;> cases d <;> first | rfl | exact (BitVec.add_zero _).symm

/-- Exactly one of the counters is incremented. -/
def CountedAs (before after : R56Icount) (c : RxCounter) : Prop :=
  ∀ d, after.rxCounter d = before.rxCounter d + (if d = c then 1 else 0)

/-- The counter a bad status adds to. -/
def errorCounter (status : U16) : RxCounter :=
  if status &&& rxstatusShortFrame ≠ 0 then .short
  else if status &&& rxstatusAbort ≠ 0 then .abort
  else if status &&& rxstatusOverrun ≠ 0 then .over
  else .crc

theorem countRxError_eq (ic : R56Icount) (status : U16) : countRxError ic status = ic.count (errorCounter status) := by
  unfold countRxError errorCounter
  split
  · rfl
  · split
    · rfl
    · split
      · rfl
      · rfl

/-- The counters that the frame with this last entry adds to. -/
def rxCounters (info : R56Struct) (e : DmaBufferEntry) : List RxCounter :=
  let framesize := rxReturnSize info.params.crcType e.status e.rcc
  (if e.status &&& rxstatusError ≠ 0 then [errorCounter e.status] else []) ++
    if framesize = 0 then [] else if rxTooLong info framesize then [.long]
    else if e.status &&& rxstatusCrcError = 0 then [.ok] else []

theorem rxCounter_foldl (cs : List RxCounter) (ic : R56Icount) (d : RxCounter) :
    (cs.foldl R56Icount.count ic).rxCounter d = ic.rxCounter d + BitVec.ofNat 32 (cs.count d) := by
  induction cs generalizing ic with
  | nil => exact (BitVec.add_zero _).symm
  | cons c rest ih =>
    have split : (c :: rest).count d = (if c = d then 1 else 0) + rest.count d := by
      rw [List.count_cons, Nat.add_comm]
      simp only [beq_iff_eq]
    rw [List.foldl_cons, ih, R56Icount.rxCounter_count, split, BitVec.ofNat_add, BitVec.add_assoc]

/-- One counter is incremented if the frame adds to one. -/
theorem countedAs_iff {cs : List RxCounter} (ic : R56Icount) (c : RxCounter) (apart : cs.Nodup) :
    CountedAs ic (cs.foldl R56Icount.count ic) c ↔ cs = [c] := by
  have counted (d : RxCounter) : (cs.foldl R56Icount.count ic).rxCounter d =
      ic.rxCounter d + (if d = c then 1 else 0) ↔ (d ∈ cs ↔ d = c) := by
    have once := List.nodup_iff_count_le_one.mp apart d
    rw [rxCounter_foldl, BitVec.add_right_inj, ← List.count_pos_iff]
    generalize cs.count d = times at once
    by_cases same : d = c
    · rw [if_pos same]
      interval_cases times <;> simp [same]
    · rw [if_neg same]
      interval_cases times <;> simp [same]
  constructor
  · intro all
    have perm : cs.Perm [c] := by
      rw [List.perm_ext_iff_of_nodup apart (List.nodup_singleton c)]
      intro d
      rw [List.mem_singleton]
      exact (counted d).mp (all d)
    exact List.perm_singleton.mp perm
  · rintro rfl d
    rw [counted d, List.mem_singleton]

theorem rxCounters_nodup (info : R56Struct) (e : DmaBufferEntry) : (rxCounters info e).Nodup := by
  have error : errorCounter e.status ≠ .long ∧ errorCounter e.status ≠ .ok := by
    unfold errorCounter
    split
    · decide
    · split
      · decide
      · split <;> decide
  unfold rxCounters
  dsimp only
  split <;> split <;> try split
  all_goals try split
  all_goals simp [error.1, error.2]

/-- What the frame is counted as in the end is what its last entry says. -/
theorem deliverRxFrame_icount (info : R56Struct) (startIndex last : Nat) :
    (deliverRxFrame info startIndex last).icount =
      (rxCounters info (info.rxBufferList last)).foldl R56Icount.count info.icount := by
  rw [deliverRxFrame_eq]
  dsimp only
  generalize info.rxBufferList last = e
  have passed (s : R56Struct) (data : List U8) : (passRxFrame s e.status data).icount =
      if e.status &&& rxstatusCrcError = 0 then s.icount.count .ok else s.icount := by
    unfold passRxFrame
    dsimp only
    split
    · split <;> rfl
    · split <;> rfl
  have counted : (countBadFrame info e.status).icount =
      (if e.status &&& rxstatusError ≠ 0 then [errorCounter e.status] else []).foldl R56Icount.count info.icount := by
    unfold countBadFrame
    split
    · exact countRxError_eq _ _
    · rfl
  unfold rxCounters
  dsimp only
  rw [List.foldl_append, ← counted]
  split
  · rfl
  · split
    · rfl
    · rw [passed]
      split
      · rfl
      · rfl

/-- The bytes received of the frame, its CRC included. -/
def DmaBufferEntry.frameLength (e : DmaBufferEntry) : Nat := rclrValue - e.rcc.toNat

/-- The least length of a frame that is not short. -/
def shortestFrame (crc : U16) : Nat := 2 + crcLength crc

/-- The number of bytes a read returns of a frame of this length. -/
def returnedLength (crc : U16) (returnEx : Bool) (length : Nat) : Nat :=
  if returnEx then length + 1 else length - crcLength crc

/-- The counter for a frame that ended with no error. -/
def documentedCounter (crc : U16) (returnEx : Bool) (maxFrameSize : Nat) (e : DmaBufferEntry) : RxCounter :=
  if e.frameLength < shortestFrame crc then .short
  else if returnedLength crc returnEx e.frameLength > maxFrameSize then .long
  else .ok

/-- The frame is counted once, and as documented if it ended with no error. -/
def CountedRight (before after : R56Icount) (crc : U16) (returnEx : Bool) (maxFrameSize : Nat) (e : DmaBufferEntry) :
    Prop :=
  ∃ c, CountedAs before after c ∧
    (e.status &&& rxstatusError = 0 → c = documentedCounter crc returnEx maxFrameSize e)

/-- A frame without an error is not short; one that is returned with its CRC error is not too long. -/
def rxCountable (crc : U16) (returnEx : Bool) (maxFrameSize : Nat) (e : DmaBufferEntry) : Prop :=
  if e.status &&& rxstatusError = 0 then shortestFrame crc ≤ e.frameLength
  else returnEx = true → e.status &&& (rxstatusShortFrame + rxstatusAbort + rxstatusOverrun) = 0 →
    e.frameLength + 1 ≤ maxFrameSize

instance (crc : U16) (returnEx : Bool) (maxFrameSize : Nat) (e : DmaBufferEntry) :
    Decidable (rxCountable crc returnEx maxFrameSize e) := by
  unfold rxCountable
  exact inferInstance

section

variable {info : R56Struct} {crc : U16} {returnEx : Bool} {e : DmaBufferEntry}

theorem frameLength_residual (e : DmaBufferEntry) : e.rcc.toNat + e.frameLength = rclrValue := by
  have bound := e.rcc.isLt
  unfold DmaBufferEntry.frameLength rclrValue
  omega

theorem frameLength_le (e : DmaBufferEntry) : e.frameLength ≤ 65535 := by
  unfold DmaBufferEntry.frameLength rclrValue
  exact Nat.sub_le _ _

/-- The size the driver goes on with, for a frame it returns. -/
theorem rxReturnSize_of_returned (documented : documentedCrc crc)
    (returned : e.status &&& rxstatusError = 0 ∨
      e.status &&& (rxstatusShortFrame + rxstatusAbort + rxstatusOverrun) = 0 ∧ returnEx = true) :
    rxReturnSize (crcTypeOf crc returnEx) e.status e.rcc =
      if returnEx then e.frameLength else (e.frameLength + 2 ^ 32 - crcLength crc) % 2 ^ 32 := by
  rw [← rxFrameSize_documented documented returnEx (frameLength_residual e)]
  refine if_pos ?_
  rcases returned with good | ⟨clean, ex⟩
  · exact .inl good
  · exact .inr ⟨clean, (crcTypeOf_returnEx documented returnEx).mpr ex⟩

/-- When the driver finds the frame too long to be returned. -/
theorem rxTooLong_iff (documented : documentedCrc crc) (crcType : info.params.crcType = crcTypeOf crc returnEx)
    {framesize : Nat} (small : framesize ≤ 65535) :
    rxTooLong info framesize ↔ (if returnEx then framesize + 1 else framesize) > info.maxFrameSize := by
  have flag := crcTypeOf_returnEx documented returnEx
  unfold rxTooLong
  rw [crcType, flag]
  cases returnEx with
  | true =>
    rw [if_pos rfl]
    constructor
    · rintro (⟨_, beyond⟩ | beyond) <;> omega
    · exact fun beyond => .inl ⟨rfl, by omega⟩
  | false =>
    rw [if_neg Bool.false_ne_true]
    constructor
    · rintro (⟨set, _⟩ | beyond)
      · exact absurd set Bool.false_ne_true
      · exact beyond
    · exact fun beyond => .inr beyond

/-- The counters of a frame that ended with no error. -/
theorem rxCounters_good (documented : documentedCrc crc) (crcType : info.params.crcType = crcTypeOf crc returnEx)
    (good : e.status &&& rxstatusError = 0) (whole : shortestFrame crc ≤ e.frameLength) :
    rxCounters info e = [documentedCounter crc returnEx info.maxFrameSize e] := by
  have small := frameLength_le e
  have size : rxReturnSize (crcTypeOf crc returnEx) e.status e.rcc = _ := rxReturnSize_of_returned documented (.inl good)
  have crcGood : e.status &&& rxstatusCrcError = 0 := by
    have parts := rxstatusError_split e.status
    rw [good] at parts
    exact (BitVec.or_eq_zero_iff.mp parts.symm).2
  unfold shortestFrame at whole
  have framesize : rxReturnSize info.params.crcType e.status e.rcc =
      if returnEx then e.frameLength else e.frameLength - crcLength crc := by
    rw [crcType, size]
    cases returnEx with
    | true => rw [if_pos rfl, if_pos rfl]
    | false =>
      rw [if_neg Bool.false_ne_true, if_neg Bool.false_ne_true]
      omega
  have some : (if returnEx then e.frameLength else e.frameLength - crcLength crc) ≠ 0 := by
    split <;> omega
  have long := rxTooLong_iff documented crcType
    (show (if returnEx then e.frameLength else e.frameLength - crcLength crc) ≤ 65535 by split <;> omega)
  have returned : (if returnEx then (if returnEx then e.frameLength else e.frameLength - crcLength crc) + 1
      else if returnEx then e.frameLength else e.frameLength - crcLength crc) =
      returnedLength crc returnEx e.frameLength := by
    cases returnEx <;> rfl
  rw [returned] at long
  unfold rxCounters documentedCounter shortestFrame
  dsimp only
  rw [if_neg (not_not.mpr good), List.nil_append, framesize, if_neg some, if_pos crcGood,
    if_neg (Nat.not_lt_of_le whole)]
  by_cases beyond : returnedLength crc returnEx e.frameLength > info.maxFrameSize
  · rw [if_pos (long.mpr beyond), if_pos beyond]
  · rw [if_neg fun tooLong => beyond (long.mp tooLong), if_neg beyond]

/-- The counters of a short frame that ended with no error do not include that for short frames. -/
theorem rxCounters_short (good : e.status &&& rxstatusError = 0) : RxCounter.short ∉ rxCounters info e := by
  unfold rxCounters
  dsimp only
  rw [if_neg (not_not.mpr good), List.nil_append]
  split
  · exact List.not_mem_nil
  · split
    · decide
    · split <;> decide

/-- The counters of a frame that ended with an error. -/
theorem rxCounters_bad (documented : documentedCrc crc) (crcType : info.params.crcType = crcTypeOf crc returnEx)
    (bad : e.status &&& rxstatusError ≠ 0) :
    rxCounters info e = errorCounter e.status ::
      if returnEx = true ∧ e.status &&& (rxstatusShortFrame + rxstatusAbort + rxstatusOverrun) = 0 ∧
          e.frameLength ≠ 0 ∧ e.frameLength + 1 > info.maxFrameSize then [.long] else [] := by
  have small := frameLength_le e
  unfold rxCounters
  dsimp only
  rw [if_pos bad, List.singleton_append]
  congr 1
  by_cases returned : e.status &&& (rxstatusShortFrame + rxstatusAbort + rxstatusOverrun) = 0 ∧ returnEx = true
  · have crcBad : e.status &&& rxstatusCrcError ≠ 0 := by
      intro none
      rw [rxstatusError_split, returned.1, none] at bad
      exact bad rfl
    have long := rxTooLong_iff documented crcType small
    have size := rxReturnSize_of_returned documented (.inr returned)
    rw [if_pos returned.2] at size long
    rw [crcType, size, if_neg crcBad]
    by_cases none : e.frameLength = 0
    · rw [if_pos none, if_neg fun all => all.2.2.1 none]
    · rw [if_neg none]
      exact if_congr (long.trans ⟨fun beyond => ⟨returned.2, returned.1, none, beyond⟩, fun all => all.2.2.2⟩) rfl rfl
  · have dropped : rxReturnSize info.params.crcType e.status e.rcc = 0 := by
      refine if_neg ?_
      rw [crcType, crcTypeOf_returnEx documented returnEx]
      exact fun either => either.elim bad returned
    rw [if_pos dropped, if_neg fun all => returned ⟨all.2.1, all.1⟩]

/-- Exactly the countable frames are counted right. -/
theorem countedRight_iff (documented : documentedCrc crc) (crcType : info.params.crcType = crcTypeOf crc returnEx)
    (least : 1 ≤ info.maxFrameSize) :
    CountedRight info.icount ((rxCounters info e).foldl R56Icount.count info.icount) crc returnEx info.maxFrameSize e ↔
      rxCountable crc returnEx info.maxFrameSize e := by
  have counted (c : RxCounter) := countedAs_iff info.icount c (rxCounters_nodup info e)
  unfold CountedRight rxCountable
  simp only [counted]
  by_cases good : e.status &&& rxstatusError = 0
  · rw [if_pos good]
    constructor
    · rintro ⟨c, once, right⟩
      by_contra short
      have shortest : c = .short := by
        rw [right good, documentedCounter, if_pos (Nat.lt_of_not_le short)]
      rw [shortest] at once
      have member : RxCounter.short ∈ rxCounters info e := once ▸ List.mem_cons_self
      exact rxCounters_short good member
    · exact fun whole => ⟨_, rxCounters_good documented crcType good whole, fun _ => rfl⟩
  · rw [if_neg good, rxCounters_bad documented crcType good]
    constructor
    · rintro ⟨c, once, _⟩ ex clean
      by_contra beyond
      rw [if_pos ⟨ex, clean, by omega, by omega⟩] at once
      exact absurd once (by simp)
    · intro short
      refine ⟨errorCounter e.status, ?_, fun none => absurd none good⟩
      rw [if_neg]
      rintro ⟨ex, clean, _, beyond⟩
      have within := short ex clean
      omega

end

/-- The chip takes a step of a reception, or the bottom half takes a frame. -/
inductive RxEvent
  | chip (reception : Reception)
  | get

def RxStep (s : R56Struct) (event : RxEvent) (t : R56Struct) : Prop :=
  match event with
  | .chip reception => reception.possible s ∧ t = receive s reception
  | .get => t = (r56GetRxFrame s).1

/-- The last entry of the frame that `r56_get_rx_frame` will find. -/
def R56Struct.nextFrame (info : R56Struct) : Option DmaBufferEntry :=
  match searchRxFrame info.rxBufferList info.rxBufferCount info.currentRxBuffer info.rxBufferCount
      info.currentRxBuffer with
  | .frame endIndex => some (info.rxBufferList endIndex)
  | _ => none

/-- The frame found is the frame consumed, and its counters are all that is counted. -/
theorem r56GetRxFrame_icount {info : R56Struct} {e : DmaBufferEntry} (found : info.nextFrame = some e) :
    (r56GetRxFrame info).2 = true ∧
      (r56GetRxFrame info).1.icount = (rxCounters info e).foldl R56Icount.count info.icount := by
  have restarted (s : R56Struct) (index : Nat) : (restartOnOverflow s index).icount = s.icount := by
    unfold restartOnOverflow
    split
    · split <;> rfl
    · rfl
  unfold R56Struct.nextFrame at found
  unfold r56GetRxFrame
  dsimp only
  split at found
  · rename_i endIndex search
    rw [search]
    refine ⟨rfl, (restarted _ _).trans ?_⟩
    rw [← Option.some.inj found]
    exact deliverRxFrame_icount info info.currentRxBuffer endIndex
  · exact absurd found (by simp)

/-- Every frame taken in this step is counted right. -/
def CountsFrames (crc : U16) (returnEx : Bool) (s : R56Struct) (event : RxEvent) (t : R56Struct) : Prop :=
  event = .get → ∀ e, s.nextFrame = some e → CountedRight s.icount t.icount crc returnEx s.maxFrameSize e

/-- The frame taken in this step is one that is counted right. -/
def TakesCountable (crc : U16) (returnEx : Bool) (s : R56Struct) (event : RxEvent) : Prop :=
  event = .get → ∀ e, s.nextFrame = some e → rxCountable crc returnEx s.maxFrameSize e

theorem RxStep.settings {s t : R56Struct} {event : RxEvent} (step : RxStep s event t) :
    t.params = s.params ∧ t.maxFrameSize = s.maxFrameSize := by
  cases event with
  | chip reception =>
    obtain ⟨_, rfl⟩ := step
    exact ⟨rfl, rfl⟩
  | get =>
    obtain rfl : t = (r56GetRxFrame s).1 := step
    have frame := r56GetRxFrame_frame s
    exact ⟨congrArg (·.params) frame, congrArg (·.maxFrameSize) frame⟩

/-- In a run of receptions and calls the statistics are right if and only if no frame without an error is
short and no frame returned with a CRC error is too long. -/
theorem statistics_right_iff {start : R56Struct} {run : List (RxEvent × R56Struct)} {crc : U16} {returnEx : Bool}
    (documented : documentedCrc crc) (crcType : start.params.crcType = crcTypeOf crc returnEx)
    (least : 4096 ≤ start.maxFrameSize) (steps : Run RxStep start run) :
    Run (CountsFrames crc returnEx) start run ↔ Run (fun s event _ => TakesCountable crc returnEx s event) start run := by
  have preserved : ∀ s event t, s.params.crcType = crcTypeOf crc returnEx ∧ 4096 ≤ s.maxFrameSize →
      RxStep s event t → t.params.crcType = crcTypeOf crc returnEx ∧ 4096 ≤ t.maxFrameSize := by
    rintro s event t ⟨crcType, least⟩ step
    obtain ⟨params, size⟩ := step.settings
    exact ⟨params ▸ crcType, size ▸ least⟩
  refine Run.iff_of_invariant preserved ?_ steps ⟨crcType, least⟩
  rintro s event t ⟨crcType, least⟩ step
  refine forall_congr' fun taken => forall_congr' fun e => forall_congr' fun found => ?_
  subst taken
  obtain rfl : t = (r56GetRxFrame s).1 := step
  rw [(r56GetRxFrame_icount found).2]
  exact countedRight_iff documented crcType (by omega)

/-- A port that has two receive buffers and has been started. -/
def countingPort : R56Struct where
  rxEnabled := true
  rxBufferCount := 2
  rxBufferList := fun _ => { count := 4096 }

/-- A frame is received without an error and one with a wrong CRC, and both are taken. -/
theorem statistics_right_iff_received :
    let first := receive (receive (receive countingPort .use) (.store [1, 2, 3, 4])) (.finish bit4)
    let used := receive first .use
    let stored := receive used (.store [5, 6, 7, 8])
    let second := receive stored (.finish (bit4 + rxstatusCrcError))
    let taken := (r56GetRxFrame second).1
    let both := (r56GetRxFrame taken).1
    both.icount.rxok = 1 ∧ both.icount.rxcrc = 1 ∧
      Run (CountsFrames hdlcCrc16Ccitt false) countingPort [(.chip .use, receive countingPort .use),
        (.chip (.store [1, 2, 3, 4]), receive (receive countingPort .use) (.store [1, 2, 3, 4])),
        (.chip (.finish bit4), first), (.chip .use, used), (.chip (.store [5, 6, 7, 8]), stored),
        (.chip (.finish (bit4 + rxstatusCrcError)), second), (.get, taken), (.get, both)] := by
  intro first used stored second taken both
  have here : ∀ e ∈ second.nextFrame, rxCountable hdlcCrc16Ccitt false second.maxFrameSize e := by decide +kernel
  have there : ∀ e ∈ taken.nextFrame, rxCountable hdlcCrc16Ccitt false taken.maxFrameSize e := by decide +kernel
  refine ⟨by decide +kernel, by decide +kernel, (statistics_right_iff (by decide) rfl (by decide) ?_).mpr ?_⟩
  · exact ⟨⟨by decide +kernel, rfl⟩, ⟨by decide +kernel, rfl⟩, ⟨by decide +kernel, rfl⟩, ⟨by decide +kernel, rfl⟩,
      ⟨by decide +kernel, rfl⟩, ⟨by decide +kernel, rfl⟩, rfl, rfl, trivial⟩
  · exact ⟨nofun, nofun, nofun, nofun, nofun, nofun, fun _ => here, fun _ => there, trivial⟩

/-- A frame of nothing but its CRC is in the ring. -/
def emptyFrame : R56Struct where
  rxBufferCount := 1
  rxBufferList := fun _ => { status := bit4, rcc := 0xfffd }

/-- It is consumed and not counted. -/
theorem empty_frame_uncounted :
    (r56GetRxFrame emptyFrame).2 = true ∧
      ∀ c, ¬CountedAs emptyFrame.icount (r56GetRxFrame emptyFrame).1.icount c := by
  have found : emptyFrame.nextFrame = some (emptyFrame.rxBufferList 0) := rfl
  have none : rxCounters emptyFrame (emptyFrame.rxBufferList 0) = [] := by decide
  obtain ⟨consumed, icount⟩ := r56GetRxFrame_icount found
  refine ⟨consumed, fun c counted => ?_⟩
  rw [icount, countedAs_iff _ _ (rxCounters_nodup _ _), none] at counted
  exact List.cons_ne_nil c [] counted.symm

end Route56
