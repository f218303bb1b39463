import Route56.RxChip
import Route56.Lib.Transition

namespace Route56

open CircularBuffer Transition

theorem initRxChannel_rxDma (info : R56Struct) (u : Usc) (entry : Nat) :
    (initRxChannel info u entry).rxDma = .init entry := by
  unfold initRxChannel
  dsimp only
  split
  · rfl
  · rfl

/-- The ring is reset, and no error is left. -/
theorem uscStartReceiver_fields (info : R56Struct) :
    (uscStartReceiver info).rxBufferList = (r56ResetRxDmaBuffers info).rxBufferList ∧
      (uscStartReceiver info).rxBufferCount = info.rxBufferCount ∧ (uscStartReceiver info).currentRxBuffer = 0 ∧
      (uscStartReceiver info).rxEnabled = true ∧ (uscStartReceiver info).rxOverflow = false ∧
      (uscStartReceiver info).rxRccUnderrun = false :=
  ⟨rfl, congrArg (·.rxBufferCount) (uscStartReceiver_frame info), rfl, rfl, rfl, rfl⟩

/-- The receive channel is idle. -/
theorem uscStartReceiver_rxDma (info : R56Struct) :
    (uscStartReceiver info).usc.rxDma.inUse = false ∧ (uscStartReceiver info).usc.rxDma.frame = [] := by
  unfold uscStartReceiver
  dsimp only
  split
  · rw [uscOutReg_rxDma, initRxChannel_rxDma]
    exact ⟨rfl, rfl⟩
  · exact ⟨rfl, rfl⟩

/-- Every entry is free. -/
theorem uscStartReceiver_free {info : R56Struct} {i : Nat} (inside : i < info.rxBufferCount) :
    ((uscStartReceiver info).rxBufferList i).free := by
  rw [(uscStartReceiver_fields info).1]
  show (if i < info.rxBufferCount then _ else _ : DmaBufferEntry).free
  rw [if_pos inside]
  exact (info.rxBufferList i).reset_free _

theorem restartOnOverflow_calm {info : R56Struct} (calm : info.rxOverflow = false) (index : Nat) :
    restartOnOverflow info index = info := by
  unfold restartOnOverflow
  rw [calm, Bool.and_false, if_neg Bool.false_ne_true]

section

variable {info : R56Struct} {front back : List DmaBufferEntry} {e : DmaBufferEntry}

theorem r56GetRxFrame_of_frame (first : info.currentRxBuffer < info.rxBufferCount)
    (split : info.rxView = front ++ e :: back) (opens : ∀ x ∈ front, x.open) (ends : e.ends) :
    let last := info.rxCell front.length
    let delivered := deliverRxFrame info info.currentRxBuffer last
    r56GetRxFrame info =
      (restartOnOverflow (r56FreeRxFrameBuffers delivered info.currentRxBuffer last) last, true) := by
  intro last delivered
  have search := searchRxFrame_frame first split opens ends
  unfold r56GetRxFrame
  dsimp only
  rw [search]
  rfl

theorem r56GetRxFrame_of_unused (first : info.currentRxBuffer < info.rxBufferCount)
    (split : info.rxView = front ++ e :: back) (opens : ∀ x ∈ front, x.open) (free : e.free) :
    r56GetRxFrame info = (restartOnOverflow info (info.rxCell front.length), false) := by
  have search := searchRxFrame_unused first split opens free
  unfold r56GetRxFrame
  dsimp only
  rw [search]
  rfl

theorem r56GetRxFrame_of_exhausted (first : info.currentRxBuffer < info.rxBufferCount)
    (opens : ∀ x ∈ info.rxView, x.open) :
    r56GetRxFrame info =
      (restartOnOverflow (if info.rxEnabled then uscStartReceiver info else info) info.currentRxBuffer, false) := by
  have search := searchRxFrame_exhausted first opens
  unfold r56GetRxFrame
  dsimp only
  rw [search]

end

/-- The blocks that the frame with this last entry gives: one, or none where it is not returned. -/
def rxBlocks (info : R56Struct) (e : DmaBufferEntry) : List (List U8) :=
  let framesize := rxReturnSize info.params.crcType e.status e.rcc
  if framesize = 0 ∨ rxTooLong info framesize then []
  else [rxFrameData info info.currentRxBuffer e.status framesize]

theorem countBadFrame_history (info : R56Struct) (status : U16) :
    (countBadFrame info status).history = info.history := by
  unfold countBadFrame
  split
  · rfl
  · rfl

theorem passRxFrame_history (info : R56Struct) (status : U16) (data : List U8) :
    (passRxFrame info status data).history.ldisc =
        info.history.ldisc ++ (if info.netcount = 0 then [data] else []) ∧
      (passRxFrame info status data).history.netRx =
        info.history.netRx ++ (if info.netcount = 0 then [] else [data]) := by
  unfold passRxFrame
  by_cases net : info.netcount = 0
  · rw [if_pos net, if_pos net, List.append_nil]
    split
    · rw [if_neg (not_not.mpr net)]
      exact ⟨rfl, rfl⟩
    · rw [if_neg (not_not.mpr net)]
      exact ⟨rfl, rfl⟩
  · rw [if_neg net, if_neg net, List.append_nil]
    split
    · rw [if_pos net]
      exact ⟨rfl, rfl⟩
    · rw [if_pos net]
      exact ⟨rfl, rfl⟩

/-- What is measured and copied does not depend on the counters. -/
theorem rxFrameData_counted (info : R56Struct) (startIndex : Nat) (counted status : U16) (framesize : Nat) :
    rxFrameData (countBadFrame info counted) startIndex status framesize =
      rxFrameData info startIndex status framesize := by
  unfold countBadFrame
  split
  · rfl
  · rfl

theorem rxTooLong_counted (info : R56Struct) (counted : U16) (framesize : Nat) :
    rxTooLong (countBadFrame info counted) framesize ↔ rxTooLong info framesize := by
  unfold countBadFrame
  split
  · exact Iff.rfl
  · exact Iff.rfl

theorem rxBlocks_eq_nil {info : R56Struct} {e : DmaBufferEntry}
    (dropped : rxReturnSize info.params.crcType e.status e.rcc = 0 ∨
      rxTooLong info (rxReturnSize info.params.crcType e.status e.rcc)) : rxBlocks info e = [] := if_pos dropped

theorem rxBlocks_eq_singleton {info : R56Struct} {e : DmaBufferEntry}
    (some : rxReturnSize info.params.crcType e.status e.rcc ≠ 0)
    (short : ¬rxTooLong info (rxReturnSize info.params.crcType e.status e.rcc)) :
    rxBlocks info e = [rxFrameData info info.currentRxBuffer e.status
      (rxReturnSize info.params.crcType e.status e.rcc)] := if_neg fun either => either.elim some short

/-- The counting of a bad status does not change what is measured and copied. -/
theorem deliverRxFrame_eq (info : R56Struct) (startIndex endIndex : Nat) :
    deliverRxFrame info startIndex endIndex =
      let e := info.rxBufferList endIndex
      let counted := countBadFrame info e.status
      let framesize := rxReturnSize info.params.crcType e.status e.rcc
      if framesize = 0 then counted
      else if rxTooLong info framesize then
        { counted with icount := { counted.icount with rxlong := counted.icount.rxlong + 1 } }
      else passRxFrame counted e.status (rxFrameData info startIndex e.status framesize) := by
  generalize entry : info.rxBufferList endIndex = e
  have frame := countBadFrame_frame info e.status
  have params : (countBadFrame info e.status).params = info.params := congrArg (·.params) frame
  have list : (countBadFrame info e.status).rxBufferList = info.rxBufferList := congrArg (·.rxBufferList) frame
  unfold deliverRxFrame
  dsimp only
  rw [entry, params, list, entry, rxFrameData_counted]
  simp only [rxTooLong_counted]

theorem deliverRxFrame_history (info : R56Struct) (last : Nat) :
    let delivered := deliverRxFrame info info.currentRxBuffer last
    delivered.history.ldisc =
        info.history.ldisc ++ (if info.netcount = 0 then rxBlocks info (info.rxBufferList last) else []) ∧
      delivered.history.netRx =
        info.history.netRx ++ (if info.netcount = 0 then [] else rxBlocks info (info.rxBufferList last)) := by
  intro delivered
  have unfolded : delivered = _ := deliverRxFrame_eq info info.currentRxBuffer last
  rw [unfolded]
  dsimp only
  generalize info.rxBufferList last = e
  have net : (countBadFrame info e.status).netcount = info.netcount :=
    congrArg (·.netcount) (countBadFrame_frame info e.status)
  have history := countBadFrame_history info e.status
  by_cases none : rxReturnSize info.params.crcType e.status e.rcc = 0
  · rw [if_pos none, rxBlocks_eq_nil (.inl none), ite_self, List.append_nil, List.append_nil, history]
    exact ⟨rfl, rfl⟩
  rw [if_neg none]
  by_cases long : rxTooLong info (rxReturnSize info.params.crcType e.status e.rcc)
  · rw [if_pos long, rxBlocks_eq_nil (.inr long), ite_self, List.append_nil, List.append_nil]
    exact ⟨congrArg History.ldisc history, congrArg History.netRx history⟩
  · have passed := passRxFrame_history (countBadFrame info e.status) e.status
      (rxFrameData info info.currentRxBuffer e.status (rxReturnSize info.params.crcType e.status e.rcc))
    rw [history, net] at passed
    rw [if_neg long, rxBlocks_eq_singleton none long]
    exact passed

/-- The bytes the driver strips from the end of a frame. -/
def crcLength (crc : U16) : Nat := if crc = hdlcCrc16Ccitt then 2 else if crc = hdlcCrc32Ccitt then 4 else 0

/-- The values `crc_type` has by the documentation. -/
def documentedCrc (crc : U16) : Prop := crc = hdlcCrcNone ∨ crc = hdlcCrc16Ccitt ∨ crc = hdlcCrc32Ccitt

instance (crc : U16) : Decidable (documentedCrc crc) := inferInstanceAs (Decidable (_ ∨ _ ∨ _))

/-- `crc_type` with or without the flag that asks for the CRC and a status. -/
def crcTypeOf (crc : U16) (returnEx : Bool) : U16 := if returnEx then crc ||| hdlcCrcReturnEx else crc

theorem crcTypeOf_returnEx {crc : U16} (documented : documentedCrc crc) (returnEx : Bool) :
    crcTypeOf crc returnEx &&& hdlcCrcReturnEx ≠ 0 ↔ returnEx = true := by
  rcases documented with rfl | rfl | rfl <;> cases returnEx <;> decide

theorem rxFrameSize_documented {crc rcc : U16} {size : Nat} (documented : documentedCrc crc) (returnEx : Bool)
    (residual : rcc.toNat + size = rclrValue) :
    rxFrameSize (crcTypeOf crc returnEx) rcc =
      if returnEx then size else (size + 2 ^ 32 - crcLength crc) % 2 ^ 32 := by
  have counted : rclrValue - rcc.toNat = size := by omega
  have small : size < 2 ^ 32 := by
    have bound : rclrValue < 2 ^ 32 := by decide
    omega
  unfold rxFrameSize
  dsimp only
  rw [counted]
  cases returnEx with
  | true =>
    have other : crcTypeOf crc true ≠ hdlcCrc16Ccitt ∧ crcTypeOf crc true ≠ hdlcCrc32Ccitt := by
      rcases documented with rfl | rfl | rfl <;> decide
    rw [if_neg other.1, if_neg other.2, if_pos rfl]
  | false =>
    have same : crcTypeOf crc false = crc := rfl
    rw [same, if_neg Bool.false_ne_true]
    unfold crcLength
    split
    · rfl
    · split
      · rfl
      · omega

theorem rxstatusError_split (status : U16) :
    status &&& rxstatusError =
      (status &&& (rxstatusShortFrame + rxstatusAbort + rxstatusOverrun)) ||| (status &&& rxstatusCrcError) := by
  have bits : rxstatusError = (rxstatusShortFrame + rxstatusAbort + rxstatusOverrun) ||| rxstatusCrcError := by decide
  rw [bits, BitVec.and_or_distrib_left]

/-- A frame with at most a CRC error, and that only where bad frames are returned, is returned. -/
theorem rxReturnSize_clean {crcType status rcc : U16}
    (clean : status &&& (rxstatusShortFrame + rxstatusAbort + rxstatusOverrun) = 0)
    (crc : status &&& rxstatusCrcError ≠ 0 → crcType &&& hdlcCrcReturnEx ≠ 0) :
    rxReturnSize crcType status rcc = rxFrameSize crcType rcc := by
  refine if_pos ?_
  by_cases good : status &&& rxstatusCrcError = 0
  · left
    rw [rxstatusError_split, clean, good]
    rfl
  · exact .inr ⟨clean, crc good⟩

/-- The first `k` buffers hold one completed frame of `size` bytes, its CRC included, which ended with no
error that the driver drops it for. -/
structure CompletedFrame (info : R56Struct) (k size : Nat) : Prop where
  some : 1 ≤ k
  fits : k ≤ info.rxBufferCount
  opens : ∀ o, o + 1 < k → (info.rxBufferList (info.rxCell o)).open
  ends : (info.rxBufferList (info.rxCell (k - 1))).ends
  clean : (info.rxBufferList (info.rxCell (k - 1))).status &&&
    (rxstatusShortFrame + rxstatusAbort + rxstatusOverrun) = 0
  crc : (info.rxBufferList (info.rxCell (k - 1))).status &&& rxstatusCrcError ≠ 0 →
    info.params.crcType &&& hdlcCrcReturnEx ≠ 0
  residual : (info.rxBufferList (info.rxCell (k - 1))).rcc.toNat + size = rclrValue
  lower : dmaBufferSize * (k - 1) < size
  upper : size ≤ dmaBufferSize * k

section

variable {info : R56Struct} {k size : Nat}

theorem CompletedFrame.split (frame : CompletedFrame info k size) :
    ∃ front back, front.length = k - 1 ∧
      info.rxView = front ++ info.rxBufferList (info.rxCell (k - 1)) :: back ∧
      info.rxView.take k = front ++ [info.rxBufferList (info.rxCell (k - 1))] ∧ ∀ x ∈ front, x.open := by
  obtain ⟨some, fits, opens, _⟩ := frame
  have length : info.rxView.length = info.rxBufferCount := length_view _ _ _
  have inside : k - 1 < info.rxView.length := by omega
  have entry : info.rxView[k - 1] = info.rxBufferList (info.rxCell (k - 1)) := getElem_view inside
  have whole : info.rxView = info.rxView.take (k - 1) ++ info.rxBufferList (info.rxCell (k - 1)) :: info.rxView.drop k := by
    have dropped := List.drop_eq_getElem_cons inside
    rw [entry, Nat.sub_add_cancel some] at dropped
    rw [← dropped, List.take_append_drop]
  have taken : info.rxView.take k = info.rxView.take (k - 1) ++ [info.rxBufferList (info.rxCell (k - 1))] := by
    rw [← entry, List.take_append_getElem inside, Nat.sub_add_cancel some]
  refine ⟨info.rxView.take (k - 1), info.rxView.drop k, ?_, whole, taken, fun x member => ?_⟩
  · rw [List.length_take, length]
    omega
  · obtain ⟨o, before, rfl⟩ := List.mem_take_iff_getElem.mp member
    rw [show info.rxView[o] = info.rxBufferList (info.rxCell o) from getElem_view _]
    exact opens o (by omega)

end

/-- Entries outside the ring are left alone. -/
theorem freeRxEntries_outside (lp64 : Bool) {n endIndex i : Nat} (outside : n ≤ i) :
    ∀ (fuel index : Nat) (list : Nat → DmaBufferEntry), index < n →
      (freeRxEntries lp64 n endIndex fuel index list).1 i = list i := by
  intro fuel
  induction fuel with
  | zero => exact fun _ _ _ => rfl
  | succ fuel ih =>
    intro index list inside
    have kept (x : DmaBufferEntry) : Function.update list index x i = list i :=
      Function.update_of_ne (by omega) x list
    unfold freeRxEntries
    dsimp only
    split
    · exact kept _
    · rw [ih _ _ (next_lt inside)]
      exact kept _

/-- What the driver copies of a frame that is in whole buffers at the front of the ring. -/
theorem rxFrameData_eq {info : R56Struct} {crc : U16} {returnEx : Bool} (first : info.currentRxBuffer < info.rxBufferCount)
    (documented : documentedCrc crc) (crcType : info.params.crcType = crcTypeOf crc returnEx) {k framesize : Nat}
    (fits : k ≤ info.rxBufferCount) (upper : framesize ≤ dmaBufferSize * k) (status : U16) :
    rxFrameData info info.currentRxBuffer status framesize =
      (pages (info.rxView.take k)).take framesize ++
        (if returnEx then [if status &&& rxstatusCrcError ≠ 0 then rxCrcError else rxOk] else []) := by
  have length : info.rxView.length = info.rxBufferCount := length_view _ _ _
  have short : framesize ≤ (pages (info.rxView.take k)).length := by
    rw [length_pages, List.length_take, length, Nat.min_eq_left fits, Nat.mul_comm]
    exact upper
  have room : framesize ≤ info.rxView.length * dmaBufferSize := by
    have enough : k * dmaBufferSize ≤ info.rxBufferCount * dmaBufferSize := Nat.mul_le_mul_right _ fits
    rw [length]
    rw [Nat.mul_comm] at upper
    exact upper.trans enough
  have copied := copyRxFrame_spec framesize framesize 0 info.rxView (List.drop_zero) (Nat.le_refl _) room
  have taken : (pages info.rxView).take framesize = (pages (info.rxView.take k)).take framesize := by
    conv_lhs => rw [← List.take_append_drop k info.rxView, pages_append]
    exact List.take_append_of_le_length short
  rw [cell_zero first, taken] at copied
  have flag := crcTypeOf_returnEx documented returnEx
  unfold rxFrameData
  dsimp only
  rw [copied, crcType]
  by_cases ex : returnEx = true
  · rw [if_pos (flag.mpr ex), if_pos ex]
  · rw [if_neg fun set => ex (flag.mp set), if_neg ex, List.append_nil]

/-- The data of the frame in the first `k` buffers: its first bytes without the CRC, or all of them and a
status. -/
def frameData (info : R56Struct) (k size : Nat) (crc : U16) (returnEx : Bool) : List U8 :=
  if returnEx then
    (pages (info.rxView.take k)).take size ++
      [if (info.rxBufferList (info.rxCell (k - 1))).status &&& rxstatusCrcError ≠ 0 then rxCrcError else rxOk]
  else (pages (info.rxView.take k)).take (size - crcLength crc)

/-- The frame is handed on if there is data in it and no more than the driver returns. -/
theorem CompletedFrame.blocks {info : R56Struct} {k size : Nat} {crc : U16} {returnEx : Bool}
    (frame : CompletedFrame info k size) (first : info.currentRxBuffer < info.rxBufferCount)
    (documented : documentedCrc crc) (crcType : info.params.crcType = crcTypeOf crc returnEx)
    (most : info.maxFrameSize ≤ hdlcMaxFrameSize) :
    let data := frameData info k size crc returnEx
    rxBlocks info (info.rxBufferList (info.rxCell (k - 1))) =
      if 1 ≤ data.length ∧ data.length ≤ info.maxFrameSize then [data] else [] := by
  intro data
  have bound : hdlcMaxFrameSize = 65535 := rfl
  have residual := frame.residual
  rw [show rclrValue = 65535 from rfl] at residual
  have lower := frame.lower
  have flag := crcTypeOf_returnEx documented returnEx
  have returned : rxReturnSize info.params.crcType (info.rxBufferList (info.rxCell (k - 1))).status
      (info.rxBufferList (info.rxCell (k - 1))).rcc =
        if returnEx then size else (size + 2 ^ 32 - crcLength crc) % 2 ^ 32 := by
    rw [rxReturnSize_clean frame.clean frame.crc, crcType, rxFrameSize_documented documented returnEx frame.residual]
  have length : (pages (info.rxView.take k)).length = dmaBufferSize * k := by
    rw [length_pages, List.length_take, R56Struct.rxView, length_view, Nat.min_eq_left frame.fits, Nat.mul_comm]
  have upper := frame.upper
  have copied {framesize : Nat} (fits : framesize ≤ size) :=
    rxFrameData_eq first documented crcType frame.fits (fits.trans upper)
      (info.rxBufferList (info.rxCell (k - 1))).status
  cases returnEx with
  | true =>
    rw [if_pos rfl] at returned
    have dataLength : data.length = size + 1 := by
      show (frameData info k size crc true).length = _
      rw [frameData, if_pos rfl, List.length_append, List.length_take, length, Nat.min_eq_left upper]
      rfl
    have long : rxTooLong info size ↔ ¬data.length ≤ info.maxFrameSize := by
      unfold rxTooLong
      rw [crcType, dataLength]
      have set := flag.mpr rfl
      constructor
      · rintro (⟨_, beyond⟩ | beyond) <;> omega
      · exact fun beyond => .inl ⟨set, by omega⟩
    by_cases fits : data.length ≤ info.maxFrameSize
    · rw [if_pos ⟨by omega, fits⟩]
      refine (rxBlocks_eq_singleton (by rw [returned]; omega) (by rw [returned, long]; exact not_not.mpr fits)).trans ?_
      rw [returned, copied (Nat.le_refl _), if_pos rfl]
      rfl
    · rw [if_neg fun both => fits both.2]
      exact rxBlocks_eq_nil (.inr (by rw [returned]; exact long.mpr fits))
  | false =>
    rw [if_neg Bool.false_ne_true] at returned
    have dataLength : data.length = size - crcLength crc := by
      show (frameData info k size crc false).length = _
      rw [frameData, if_neg Bool.false_ne_true, List.length_take, length, Nat.min_eq_left (by omega)]
    have crcBound : crcLength crc ≤ 4 := by
      rcases documented with rfl | rfl | rfl <;> decide
    have clear : ¬info.params.crcType &&& hdlcCrcReturnEx ≠ 0 := by
      rw [crcType]
      exact fun set => Bool.noConfusion (flag.mp set)
    by_cases whole : crcLength crc ≤ size
    · have framesize : (size + 2 ^ 32 - crcLength crc) % 2 ^ 32 = size - crcLength crc := by omega
      rw [framesize] at returned
      have long : rxTooLong info (size - crcLength crc) ↔ ¬data.length ≤ info.maxFrameSize := by
        unfold rxTooLong
        rw [dataLength]
        constructor
        · rintro (⟨set, _⟩ | beyond)
          · exact absurd set clear
          · omega
        · exact fun beyond => .inr (by omega)
      by_cases fits : 1 ≤ data.length ∧ data.length ≤ info.maxFrameSize
      · rw [if_pos fits]
        refine (rxBlocks_eq_singleton (by rw [returned]; omega) (by rw [returned, long]; exact not_not.mpr fits.2)).trans ?_
        rw [returned, copied (Nat.sub_le _ _), if_neg Bool.false_ne_true, List.append_nil]
        rfl
      · rw [if_neg fits]
        by_cases none : size - crcLength crc = 0
        · exact rxBlocks_eq_nil (.inl (returned.trans none))
        · exact rxBlocks_eq_nil (.inr (by rw [returned, long]; omega))
    · -- the size wraps below zero
      have framesize : (size + 2 ^ 32 - crcLength crc) % 2 ^ 32 = size + 2 ^ 32 - crcLength crc := by omega
      rw [framesize] at returned
      rw [if_neg (by omega)]
      exact rxBlocks_eq_nil (.inr (by rw [returned]; exact .inr (by omega)))

/-- `r56_get_rx_frame` hands on the data of the frame, frees its entries and goes on to the next. -/
theorem r56GetRxFrame_reassembles {info : R56Struct} {k size : Nat} {crc : U16} {returnEx : Bool}
    (first : info.currentRxBuffer < info.rxBufferCount) (documented : documentedCrc crc)
    (crcType : info.params.crcType = crcTypeOf crc returnEx) (most : info.maxFrameSize ≤ hdlcMaxFrameSize)
    (calm : info.rxOverflow = false) (frame : CompletedFrame info k size) :
    let after := (r56GetRxFrame info).1
    let data := frameData info k size crc returnEx
    let blocks := if 1 ≤ data.length ∧ data.length ≤ info.maxFrameSize then [data] else []
    (r56GetRxFrame info).2 = true ∧
      after.history.ldisc = info.history.ldisc ++ (if info.netcount = 0 then blocks else []) ∧
      after.history.netRx = info.history.netRx ++ (if info.netcount = 0 then [] else blocks) ∧
      (∀ o, o < info.rxBufferCount → after.rxBufferList (info.rxCell o) =
        if o < k then (info.rxBufferList (info.rxCell o)).reset info.build.lp64
        else info.rxBufferList (info.rxCell o)) ∧
      (∀ i, info.rxBufferCount ≤ i → after.rxBufferList i = info.rxBufferList i) ∧
      after.currentRxBuffer = (info.currentRxBuffer + k) % info.rxBufferCount := by
  intro after data blocks
  obtain ⟨front, back, length, split, _, opens⟩ := frame.split
  have call := r56GetRxFrame_of_frame first split opens frame.ends
  rw [length] at call
  dsimp only at call
  have delivery := deliverRxFrame_frame info info.currentRxBuffer (info.rxCell (k - 1))
  have history := deliverRxFrame_history info (info.rxCell (k - 1))
  rw [frame.blocks first documented crcType most] at history
  generalize deliverRxFrame info info.currentRxBuffer (info.rxCell (k - 1)) = delivered at call delivery history
  have count : delivered.rxBufferCount = info.rxBufferCount := congrArg (·.rxBufferCount) delivery
  have list : delivered.rxBufferList = info.rxBufferList := congrArg (·.rxBufferList) delivery
  have build : delivered.build = info.build := congrArg (·.build) delivery
  have overflow : delivered.rxOverflow = info.rxOverflow := congrArg (·.rxOverflow) delivery
  have spec := freeRxEntries_spec (c := info.currentRxBuffer) info.build.lp64
    (show k - 1 < info.rxBufferCount by have := frame.some; have := frame.fits; omega)
    info.rxBufferCount 0 info.rxBufferList (Nat.zero_le _) (by have := frame.some; have := frame.fits; omega)
  rw [cell_zero first, Nat.sub_add_cancel frame.some] at spec
  have calls : r56GetRxFrame info =
      (r56FreeRxFrameBuffers delivered info.currentRxBuffer (info.rxCell (k - 1)), true) := by
    have quiet : (r56FreeRxFrameBuffers delivered info.currentRxBuffer (info.rxCell (k - 1))).rxOverflow = false :=
      overflow.trans calm
    rw [call, restartOnOverflow_calm quiet]
  have freed : after = r56FreeRxFrameBuffers delivered info.currentRxBuffer (info.rxCell (k - 1)) :=
    congrArg Prod.fst calls
  have ring : after.rxBufferList = (freeRxEntries info.build.lp64 info.rxBufferCount (info.rxCell (k - 1))
      info.rxBufferCount info.currentRxBuffer info.rxBufferList).1 := by
    rw [freed]
    show (freeRxEntries delivered.build.lp64 delivered.rxBufferCount _ delivered.rxBufferCount _ delivered.rxBufferList).1 = _
    rw [count, list, build]
  have current : after.currentRxBuffer = (freeRxEntries info.build.lp64 info.rxBufferCount (info.rxCell (k - 1))
      info.rxBufferCount info.currentRxBuffer info.rxBufferList).2 := by
    rw [freed]
    show (freeRxEntries delivered.build.lp64 delivered.rxBufferCount _ delivered.rxBufferCount _ delivered.rxBufferList).2 = _
    rw [count, list, build]
  refine ⟨congrArg Prod.snd calls, ?_, ?_, fun o inside => ?_, fun i outside => ?_, current.trans spec.1⟩
  · rw [freed]
    exact history.1
  · rw [freed]
    exact history.2
  · have some := frame.some
    rw [ring, R56Struct.rxCell, R56Struct.rxCell, spec.2 o inside]
    exact if_congr (by omega) rfl rfl
  · rw [ring, freeRxEntries_outside _ outside _ _ _ first]

/-- A ring of three entries. A frame of 5000 bytes begins in the last and ends in the first. -/
def wrappedFrame : R56Struct where
  maxFrameSize := 8192
  rxBufferCount := 3
  currentRxBuffer := 2
  rxBufferList := fun i => { count := if i = 1 then 4096 else 0, status := if i = 0 then bit4 else 0, rcc := 60535 }

/-- It is handed on without its CRC. -/
theorem r56GetRxFrame_reassembles_wrapped :
    (r56GetRxFrame wrappedFrame).2 = true ∧
      (∃ data : List U8, data.length = 4998 ∧ (r56GetRxFrame wrappedFrame).1.history.ldisc = [data]) ∧
      (r56GetRxFrame wrappedFrame).1.currentRxBuffer = (wrappedFrame.currentRxBuffer + 2) % wrappedFrame.rxBufferCount := by
  have frame : CompletedFrame wrappedFrame 2 5000 := by
    refine ⟨by decide, by decide, fun o before => ?_, by decide, by decide, by decide, rfl, by decide, by decide⟩
    obtain rfl : o = 0 := by omega
    decide
  have length : (frameData wrappedFrame 2 5000 hdlcCrc16Ccitt false).length = 4998 := by
    have taken : (wrappedFrame.rxView.take 2).length = 2 := by decide
    rw [frameData, if_neg Bool.false_ne_true, List.length_take, length_pages, taken]
    decide
  obtain ⟨found, passed, _, _, _, moved⟩ := @r56GetRxFrame_reassembles wrappedFrame 2 5000 hdlcCrc16Ccitt false (by decide)
    (by decide) rfl (by decide) rfl frame
  refine ⟨found, ⟨_, length, ?_⟩, moved⟩
  have net : wrappedFrame.netcount = 0 := rfl
  rw [passed, if_pos net, if_pos (by rw [length]; decide)]
  rfl

end Route56
