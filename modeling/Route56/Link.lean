import Route56.HdlcDev
import Route56.HdlcReceive

namespace Route56

open CircularBuffer Transition

/-- What the chip puts on the line: as many bytes as its length counter was loaded with, read from the entry at which
the DMA channel was started, and the check sequence. -/
def TxView.onLine (fcs : List U8 → List U8) (v : TxView) (length : Nat) : List U8 :=
  let data := readTxFrame v.list v.n v.n v.channel.pos length
  data ++ fcs data

/-- The ports, the frame that is being sent with the number of its bytes that are received, and the frames that the
sending port has accepted. -/
structure Link where
  sender : HdlcDev
  receiver : HdlcRxState
  sending : Option (Nat × Nat) := none
  accepted : List (List U8) := []

inductive LinkEvent
  | xmit (skb : Nat → U8) (len : Nat)
  | sender (event : NetEvent)
  | line (reception : Reception)
  | receiver (event : HdlcRxEvent)

/-- The event does not end the sending of a frame. -/
def NetEvent.duringFrame (s : HdlcDev) : NetEvent → Prop
  | .interrupt report => (s.info.reporting report).uscVector ≠ 4
  | .bhReceive => True
  | .reception _ _ => True
  | _ => False

/-- What the receiving chip does with what is on the line. -/
def Link.arrives (fcs : List U8 → List U8) (s : Link) (after : Option (Nat × Nat)) : Reception → Prop
  | .store bytes => ∃ length n, s.sending = some (length, n) ∧
      bytes <+: (s.sender.info.txView.onLine fcs length).drop n ∧ after = some (length, n + bytes.length)
  | .finish status => ∃ length, s.sending = some (length, (s.sender.info.txView.onLine fcs length).length) ∧
      status &&& rxstatusError = 0 ∧ after = none
  | .use | .move => after = s.sending

/-- The line is undisturbed: no frame is aborted by the sending port, and the receiving chip finds room. The network
layer sends frames that the receiving port may return. -/
def LinkStep (crc : U16) (fcs : List U8 → List U8) (s : Link) (event : LinkEvent) (t : Link) : Prop :=
  match event with
  | .xmit skb len => NetStep s.sender (.xmit skb len) t.sender ∧ len ≤ s.receiver.info.maxFrameSize ∧
      len + crcLength crc ≤ rclrValue ∧
        t = { s with
          sender := s.sender.xmit skb len
          sending := some ((uscInReg (s.sender.xmit skb len).info.usc .tclr).toNat, 0)
          accepted := s.accepted ++ [Memory.read skb 0 len] }
  | .sender event => (∀ skb len, event ≠ .xmit skb len) ∧ (s.sending ≠ none → event.duringFrame s.sender) ∧
      ∃ sender, NetStep s.sender event sender ∧ t = { s with sender := sender }
  | .line reception => reception.possible s.receiver.info ∧
      ∃ after, s.arrives fcs after reception ∧ t = { s with receiver := s.receiver.chip reception, sending := after }
  | .receiver event => ¬event.fills ∧
      ∃ receiver, HdlcRxStep crc false s.receiver event receiver ∧ t = { s with receiver := receiver }

theorem ioPinDone_txView (info : R56Struct) (status : U16) : (ioPinDone info status).txView = info.txView := by
  unfold ioPinDone
  dsimp only
  split
  · rfl
  · rfl

theorem serviceInterrupt_txView {info : R56Struct} (ctsFlow : info.port.ctsFlow = false)
    (data : info.uscVector ≠ 3) (status : info.uscVector ≠ 4) (dma : ¬info.transmitDmaVector) :
    (serviceInterrupt info).txView = info.txView := by
  have view {s t : R56Struct} (frame : t.exceptReception = s.exceptReception) (output : t.output = s.output) :
      t.txView = s.txView := txView_of_exceptReception frame (congrArg (·.1.txDma) output)
  have served := serviceInterrupt_serviced info
  generalize serviceInterrupt info = after at served ⊢
  cases served with
  | transmitDma vector channel => exact absurd ⟨vector, channel⟩ dma
  | receiveDma => exact view (r56IsrReceiveDma_frame info) (r56IsrReceiveDma_output info)
  | misc => exact view (r56IsrMisc_frame info) (r56IsrMisc_output info)
  | ioPin =>
    have counted (s : R56Struct) (status : U16) : (countIoPins s status).txView = s.txView :=
      view (exceptReception_of_exceptChip (countIoPins_frame s status))
        (output_of_control (countIoPins_control s status))
    unfold r56IsrIoPin serviceIoPins
    dsimp only
    split
    · rw [if_neg]
      · exact (ioPinDone_txView _ _).trans (counted _ _)
      · rintro ⟨flow, _⟩
        have same := congrArg (·.port.ctsFlow) (countIoPins_frame { info with
          usc := uscUnlatchIostatusBits (uscClearIrqPendingBits info.usc ioPin) (uscInReg info.usc .misr) }
          (uscInReg info.usc .misr))
        exact Bool.false_ne_true (ctsFlow.symm.trans (same.symm.trans flow))
    · exact ioPinDone_txView _ _
  | transmitData vector => exact absurd vector data
  | transmitStatus vector => exact absurd vector status
  | receiveData =>
    exact view (exceptReception_of_exceptChip (r56IsrReceiveData_frame info))
      (output_of_control (r56IsrReceiveData_control info))
  | receiveStatus =>
    have inserted (status : U16) : (completeInsertion info status).txView = info.txView := by
      unfold completeInsertion
      split
      · rfl
      · rfl
    have recovered (s : R56Struct) (status : U16) : (recoverOverrun s status).txView = s.txView :=
      view (exceptReception_of_exceptReceiver (recoverOverrun_frame s status))
        (output_of_control (recoverOverrun_control s status))
    exact (recovered _ _).trans (inserted _)
  | null => rfl

theorem r56Interrupt_txView (info : R56Struct) : (r56Interrupt info).txView = (serviceInterrupt info).txView := by
  have halted (s : R56Struct) : (haltOnOverflow s).txView = s.txView := by
    unfold haltOnOverflow
    split
    · rfl
    · rfl
  have scheduled (s : R56Struct) : (scheduleBh s).txView = s.txView := by
    unfold scheduleBh
    split
    · rfl
    · rfl
  exact (scheduled _).trans (halted _)

/-- What happens while a frame is sent leaves the frame and the transmission alone. -/
theorem netStep_duringFrame {s t : HdlcDev} {event : NetEvent} (up : NetUp s) (during : event.duringFrame s)
    (step : NetStep s event t) : t.info.txView = s.info.txView ∧ t.info.txActive = s.info.txActive := by
  cases event with
  | interrupt report =>
    obtain ⟨data, dma, rfl⟩ := step
    have view := (r56Interrupt_txView _).trans
      (@serviceInterrupt_txView (s.info.reporting report) up.ctsFlow data during dma)
    have kept := (r56Interrupt_netTransmit _).trans
      (@serviceInterrupt_netTransmit (s.info.reporting report) up.ctsFlow data during dma)
    rw [s.interrupt_info report]
    exact ⟨view, congrArg (·.active) kept⟩
  | bhReceive =>
    obtain ⟨after, returned, rfl⟩ := step
    have channel : after.usc.txDma = s.info.usc.txDma := congrArg (·.chip.txDma) (r56BhReceive_control returned)
    exact ⟨txView_of_exceptReception (exceptReception_of_exceptReceiver (r56BhReceive_frame returned)) channel,
      congrArg (·.active) (r56BhReceive_netTransmit returned)⟩
  | reception list rxDma =>
    obtain rfl := step
    exact ⟨rfl, rfl⟩
  | xmit skb len => exact absurd during id
  | txTimeout => exact absurd during id
  | watchdog => exact absurd during id
  | attach encoding parity => exact absurd during id
  | ioctl request => exact absurd during id

section

variable {crc : U16} {returnEx : Bool} {info : R56Struct} {frames : List (List DmaBufferEntry × List U8)}

/-- A call leaves the frame that is being received alone, unless it fills the ring. -/
theorem HoldsFrames.get_rxDma (held : HoldsFrames crc returnEx info frames)
    (room : info.usc.rxDma.frame.length < (info.rxBufferCount - 1) * dmaBufferSize) :
    (r56GetRxFrame info).1.usc.rxDma = info.usc.rxDma := by
  obtain ⟨_, _, calm, ⟨filling, free, bytes, layout⟩, good, _⟩ := held
  cases frames with
  | cons f frames =>
    obtain ⟨holds, _⟩ := good f List.mem_cons_self
    obtain ⟨front, e, whole, opens, ends, _⟩ := holds.ended
    have split : info.rxView = front ++ e :: (frames.flatMap Prod.fst ++ filling ++ free) := by
      rw [layout.view, List.flatMap_cons, whole]
      simp only [List.append_assoc, List.cons_append, List.nil_append]
    have call := r56GetRxFrame_of_frame layout.first split opens ends
    have frame := deliverRxFrame_frame info info.currentRxBuffer (info.rxCell front.length)
    dsimp only at call
    generalize deliverRxFrame info info.currentRxBuffer (info.rxCell front.length) = delivered at call frame
    have overflow : delivered.rxOverflow = info.rxOverflow := congrArg (·.rxOverflow) frame
    have dma : delivered.usc.rxDma = info.usc.rxDma := congrArg (·.usc.rxDma) frame
    have quiet :
        (r56FreeRxFrameBuffers delivered info.currentRxBuffer (info.rxCell front.length)).rxOverflow = false :=
      overflow.trans calm.1
    rw [call, restartOnOverflow_calm quiet]
    exact dma
  | nil =>
    have split := layout.view
    rw [List.flatMap_nil, List.nil_append] at split
    cases free with
    | cons e later =>
      have call := r56GetRxFrame_of_unused layout.first split layout.fills.opens (layout.frees e List.mem_cons_self)
      rw [call, restartOnOverflow_calm calm.1]
    | nil =>
      have entries := congrArg List.length split
      rw [R56Struct.rxView, length_view, List.append_nil] at entries
      have size := layout.fills.frame
      have full : (filling.length - 1) * dmaBufferSize ≤ bytes.length := by
        cases inUse : info.usc.rxDma.inUse with
        | true =>
          have used := layout.fills.used inUse
          omega
        | false =>
          have moved := layout.fills.moved inUse
          rw [moved]
          exact Nat.mul_le_mul_right _ (Nat.sub_le _ _)
      rw [entries] at room
      omega

/-- A run of `r56_bh_receive` leaves it alone. -/
theorem HoldsFrames.bhReceive_rxDma {after : R56Struct} (documented : documentedCrc crc)
    (held : HoldsFrames crc returnEx info frames)
    (room : info.usc.rxDma.frame.length < (info.rxBufferCount - 1) * dmaBufferSize)
    (returned : r56BhReceive info = some after) : after.usc.rxDma = info.usc.rxDma := by
  have loop (fuel : Nat) (s : R56Struct) (frames : List (List DmaBufferEntry × List U8))
      (held : HoldsFrames crc returnEx s frames)
      (room : s.usc.rxDma.frame.length < (s.rxBufferCount - 1) * dmaBufferSize)
      (ends : r56BhReceiveLoop r56GetRxFrame fuel s = some after) : after.usc.rxDma = s.usc.rxDma := by
    induction fuel generalizing s frames with
    | zero => exact absurd ends (by simp [r56BhReceiveLoop])
    | succ fuel ih =>
      have dma := held.get_rxDma room
      have count : (r56GetRxFrame s).1.rxBufferCount = s.rxBufferCount :=
        congrArg (·.rxBufferCount) (r56GetRxFrame_frame s)
      rw [r56BhReceiveLoop, if_neg (by rw [held.calm.2]; decide)] at ends
      cases frames with
      | cons f frames =>
        obtain ⟨found, later, _⟩ := held.get_frame documented
        rw [if_pos found] at ends
        exact (ih _ frames later (by rw [dma, count]; exact room) ends).trans dma
      | nil =>
        obtain ⟨none, _, _⟩ := held.get_empty
        rw [if_neg (by rw [none]; decide)] at ends
        exact Option.some.inj ends ▸ dma
  have function : getRxFrame info = r56GetRxFrame := if_pos held.hdlc
  unfold r56BhReceive at returned
  rw [function] at returned
  exact loop _ info frames held room returned

end

/-- The frame that is on the line with its check sequence. -/
def checked (fcs : List U8 → List U8) (data : List U8) : List U8 := data ++ fcs data

/-- The frame at the end of the accepted ones is on the line, and some of its bytes are received. -/
structure InFlight (crc : U16) (fcs : List U8 → List U8) (s : Link) (length n : Nat) (earlier : List (List U8))
    (frame : List U8) : Prop where
  active : s.sender.info.txActive = true
  running : s.sender.info.usc.txDma.running = true
  accepted : s.accepted = earlier ++ [frame]
  completed : s.receiver.completed = earlier.map (checked fcs)
  onLine : s.sender.info.txView.onLine fcs length = checked fcs frame
  received : s.receiver.info.usc.rxDma.frame = (checked fcs frame).take n
  within : n ≤ (checked fcs frame).length
  some : 0 < frame.length
  fits : frame.length ≤ s.receiver.info.maxFrameSize
  counted : frame.length + crcLength crc ≤ rclrValue

/-- Nothing is on the line and everything accepted is received, or a frame is in flight. -/
def Link.flying (crc : U16) (fcs : List U8 → List U8) (s : Link) : Prop :=
  match s.sending with
  | none => s.receiver.completed = s.accepted.map (checked fcs) ∧ s.receiver.info.usc.rxDma.frame = []
  | some (length, n) => ∃ earlier frame, InFlight crc fcs s length n earlier frame

structure LinkInv (crc : U16) (fcs : List U8 → List U8) (already : List (List U8)) (s : Link) : Prop where
  up : NetUp s.sender
  sound : HdlcRxSound crc false already s.receiver
  room : s.receiver.info.maxFrameSize + crcLength crc < (s.receiver.info.rxBufferCount - 1) * dmaBufferSize
  flying : s.flying crc fcs

section

variable {crc : U16} {fcs : List U8 → List U8} {already : List (List U8)} {s t : Link}

theorem InFlight.small {length n : Nat} {earlier : List (List U8)} {frame : List U8}
    (check : ∀ data, (fcs data).length = crcLength crc) (flight : InFlight crc fcs s length n earlier frame) :
    (checked fcs frame).length = frame.length + crcLength crc ∧
      s.receiver.info.usc.rxDma.frame.length ≤ frame.length + crcLength crc := by
  have whole : (checked fcs frame).length = frame.length + crcLength crc := by
    rw [checked, List.length_append, check]
  refine ⟨whole, ?_⟩
  rw [flight.received, List.length_take, ← whole]
  exact Nat.min_le_right _ _

/-- What is received is always less than the ring holds. -/
theorem LinkInv.ringRoom (check : ∀ data, (fcs data).length = crcLength crc) (inv : LinkInv crc fcs already s) :
    s.receiver.info.usc.rxDma.frame.length < (s.receiver.info.rxBufferCount - 1) * dmaBufferSize := by
  have room := inv.room
  have flying := inv.flying
  unfold Link.flying at flying
  cases sending : s.sending with
  | none =>
    rw [sending] at flying
    rw [flying.2]
    exact Nat.lt_of_le_of_lt (Nat.zero_le _) room
  | some pair =>
    obtain ⟨length, n⟩ := pair
    rw [sending] at flying
    obtain ⟨earlier, frame, flight⟩ := flying
    have small := (flight.small check).2
    have fits := flight.fits
    omega

/-- A frame is handed over. -/
theorem LinkInv.xmit {skb : Nat → U8} {len : Nat} (inv : LinkInv crc fcs already s)
    (step : LinkStep crc fcs s (.xmit skb len) t) : LinkInv crc fcs already t := by
  obtain ⟨net, fits, counted, rfl⟩ := step
  have kept := netStep_kept inv.up net
  obtain ⟨idle, sends⟩ := kept.right.1 skb len rfl
  refine ⟨kept.up, inv.sound, inv.room, s.accepted, Memory.read skb 0 len, ?_⟩
  have flying := inv.flying
  unfold Link.flying at flying
  cases sending : s.sending with
  | some pair =>
    rw [sending] at flying
    obtain ⟨earlier, frame, flight⟩ := flying
    exact absurd (idle.symm.trans flight.active) Bool.false_ne_true
  | none =>
    rw [sending] at flying
    have size : (Memory.read skb 0 len).length = len := Memory.length_read _ _ _
    have data : readTxFrame (s.sender.xmit skb len).info.txBufferList (s.sender.xmit skb len).info.txBufferCount
        (s.sender.xmit skb len).info.txBufferCount (s.sender.xmit skb len).info.usc.txDma.pos len =
          Memory.read skb 0 len := by
      rw [sends.channel]
      exact sends.frame
    refine ⟨sends.active, ?_, rfl, flying.1, ?_, ?_, Nat.zero_le _, ?_, ?_, ?_⟩
    · exact congrArg TxDma.running sends.channel
    · rw [sends.length]
      unfold TxView.onLine checked
      dsimp only
      rw [← data]
      rfl
    · exact flying.2
    · rw [size]
      exact net.2.1
    · rw [size]
      exact fits
    · rw [size]
      exact counted

/-- Something else happens at the sending port. -/
theorem LinkInv.sender {event : NetEvent} (inv : LinkInv crc fcs already s)
    (step : LinkStep crc fcs s (.sender event) t) : LinkInv crc fcs already t := by
  obtain ⟨_, during, after, net, rfl⟩ := step
  refine ⟨(netStep_kept inv.up net).up, inv.sound, inv.room, ?_⟩
  have flying := inv.flying
  unfold Link.flying at flying ⊢
  cases sending : s.sending with
  | none =>
    rw [sending] at flying
    exact flying
  | some pair =>
    obtain ⟨length, n⟩ := pair
    rw [sending] at flying
    obtain ⟨earlier, frame, flight⟩ := flying
    obtain ⟨view, active⟩ := netStep_duringFrame inv.up (during (by rw [sending]; nofun)) net
    have channel : after.info.usc.txDma = s.sender.info.usc.txDma := congrArg TxView.channel view
    refine ⟨earlier, frame, active.trans flight.active, ?_, flight.accepted, flight.completed, ?_, flight.received,
      flight.within, flight.some, flight.fits, flight.counted⟩
    · rw [channel]
      exact flight.running
    · rw [view]
      exact flight.onLine

/-- The chip of the receiving port takes what is on the line. -/
theorem LinkInv.line {reception : Reception} (documented : documentedCrc crc)
    (check : ∀ data, (fcs data).length = crcLength crc) (inv : LinkInv crc fcs already s)
    (step : LinkStep crc fcs s (.line reception) t) : LinkInv crc fcs already t := by
  obtain ⟨possible, after, arrives, rfl⟩ := step
  have sound (ends : reception.endsFrame crc false s.receiver.info) :
      HdlcRxSound crc false already (s.receiver.chip reception) :=
    @HdlcRxSound.step _ _ _ _ _ (.chip reception) documented inv.sound ⟨possible, ends, rfl⟩
  have flying := inv.flying
  unfold Link.flying at flying
  -- a step that does not move the frame on
  have waits (same : after = s.sending) (frame : (receive s.receiver.info reception).usc.rxDma.frame =
      s.receiver.info.usc.rxDma.frame) (none : reception.completes s.receiver.info = []) :
      Link.flying crc fcs { s with receiver := s.receiver.chip reception, sending := after } := by
    have completed : (s.receiver.chip reception).completed = s.receiver.completed := by
      rw [HdlcRxState.chip, none, List.append_nil]
    unfold Link.flying
    rw [same]
    cases sending : s.sending with
    | none =>
      rw [sending] at flying
      exact ⟨completed.trans flying.1, frame.trans flying.2⟩
    | some pair =>
      obtain ⟨length, n⟩ := pair
      rw [sending] at flying
      obtain ⟨earlier, data, flight⟩ := flying
      exact ⟨earlier, data, flight.active, flight.running, flight.accepted, completed.trans flight.completed,
        flight.onLine, frame.trans flight.received, flight.within, flight.some, flight.fits, flight.counted⟩
  cases reception with
  | use => exact ⟨inv.up, sound trivial, inv.room, waits arrives rfl rfl⟩
  | move => exact ⟨inv.up, sound trivial, inv.room, waits arrives rfl rfl⟩
  | store bytes =>
    obtain ⟨length, n, sending, rest, rfl⟩ := arrives
    rw [sending] at flying
    obtain ⟨earlier, frame, flight⟩ := flying
    rw [flight.onLine] at rest
    have stored : (receive s.receiver.info (.store bytes)).usc.rxDma.frame =
        s.receiver.info.usc.rxDma.frame ++ bytes := rfl
    refine ⟨inv.up, sound trivial, inv.room, earlier, frame, flight.active, flight.running, flight.accepted, ?_,
      flight.onLine, ?_, ?_, flight.some, flight.fits, flight.counted⟩
    · exact (List.append_nil _).trans flight.completed
    · refine stored.trans ?_
      rw [flight.received, List.take_add, ← List.prefix_iff_eq_take.mp rest]
    · have short := rest.length_le
      have within := flight.within
      rw [List.length_drop] at short
      omega
  | finish status =>
    obtain ⟨length, sending, well, rfl⟩ := arrives
    rw [sending] at flying
    obtain ⟨earlier, frame, flight⟩ := flying
    have whole : s.receiver.info.usc.rxDma.frame = checked fcs frame := by
      rw [flight.received, flight.onLine, List.take_length]
    have size := (flight.small check).1
    have back : returnSize crc false (checked fcs frame) = frame.length := by
      unfold returnSize
      rw [if_neg Bool.false_ne_true, size, Nat.add_sub_cancel]
    have returnable : Returnable crc false s.receiver.info.maxFrameSize s.receiver.info.usc.rxDma.frame := by
      rw [whole]
      refine ⟨?_, ?_, ?_⟩
      · rw [back]
        exact flight.some
      · rw [length_returned, back]
        exact flight.fits
      · rw [size]
        exact flight.counted
    refine ⟨inv.up, sound ⟨well, returnable⟩, inv.room, ?_, rfl⟩
    show s.receiver.completed ++ [s.receiver.info.usc.rxDma.frame] = s.accepted.map (checked fcs)
    rw [flight.completed, flight.accepted, whole, List.map_append, List.map_singleton]

/-- The driver of the receiving port. -/
theorem LinkInv.receiver {event : HdlcRxEvent} (documented : documentedCrc crc)
    (check : ∀ data, (fcs data).length = crcLength crc) (inv : LinkInv crc fcs already s)
    (step : LinkStep crc fcs s (.receiver event) t) : LinkInv crc fcs already t := by
  obtain ⟨idle, after, received, rfl⟩ := step
  have sound := inv.sound.step documented received
  have same : after.completed = s.receiver.completed ∧ after.info.usc.rxDma = s.receiver.info.usc.rxDma ∧
      after.info.maxFrameSize = s.receiver.info.maxFrameSize ∧
        after.info.rxBufferCount = s.receiver.info.rxBufferCount := by
    cases event with
    | chip reception => exact absurd trivial idle
    | interrupt report =>
      obtain ⟨only, rfl⟩ := received
      have frame : (r56Interrupt (s.receiver.info.reporting report)).exceptNotes = s.receiver.info.exceptNotes :=
        r56Interrupt_notes only
      exact ⟨rfl, congrArg (·.usc.rxDma) frame, congrArg (·.maxFrameSize) frame, congrArg (·.rxBufferCount) frame⟩
    | bhReceive =>
      obtain ⟨info, returned, rfl⟩ := received
      obtain ⟨frames, held, _⟩ := inv.sound
      have frame := r56BhReceive_frame returned
      exact ⟨rfl, held.bhReceive_rxDma documented (inv.ringRoom check) returned, congrArg (·.maxFrameSize) frame,
        congrArg (·.rxBufferCount) frame⟩
  obtain ⟨completed, dma, most, count⟩ := same
  refine ⟨inv.up, sound, ?_, ?_⟩
  · dsimp only
    rw [most, count]
    exact inv.room
  · have flying := inv.flying
    unfold Link.flying at flying ⊢
    cases sending : s.sending with
    | none =>
      rw [sending] at flying
      rw [completed, dma]
      exact flying
    | some pair =>
      obtain ⟨length, n⟩ := pair
      rw [sending] at flying
      obtain ⟨earlier, frame, flight⟩ := flying
      refine ⟨earlier, frame, flight.active, flight.running, flight.accepted, completed.trans flight.completed,
        flight.onLine, ?_, flight.within, flight.some, ?_, flight.counted⟩
      · dsimp only
        rw [dma]
        exact flight.received
      · dsimp only
        rw [most]
        exact flight.fits

theorem LinkInv.step {event : LinkEvent} (documented : documentedCrc crc)
    (check : ∀ data, (fcs data).length = crcLength crc) (inv : LinkInv crc fcs already s)
    (step : LinkStep crc fcs s event t) : LinkInv crc fcs already t := by
  cases event with
  | xmit skb len => exact inv.xmit step
  | sender event => exact inv.sender step
  | line reception => exact inv.line documented check step
  | receiver event => exact inv.receiver documented check step

end

/-- An interface that has just been opened, and a port that waits for its first frame. -/
def Link.opened (d : HdlcDev) (adapter : DmaTestRun) (physEntry : Nat → U32) (info : R56Struct) : Link where
  sender := d.opened adapter physEntry
  receiver := { info := info }

theorem Link.opened_inv {crc : U16} {fcs : List U8 → List U8} {d : HdlcDev} {adapter : DmaTestRun}
    {physEntry : Nat → U32} {info : R56Struct} (mode : d.info.params.mode = r56ModeHdlc)
    (tty : d.info.port.tty = false) (ctsFlow : d.info.port.ctsFlow = false)
    (buffers : 0 < (countDmaBuffers d.info).txBufferCount) (hdlc : info.params.mode = r56ModeHdlc)
    (crcType : info.params.crcType = crc) (calm : info.rxOverflow = false ∧ info.rxRccUnderrun = false)
    (empty : EmptyRing info) (room : info.maxFrameSize + crcLength crc < (info.rxBufferCount - 1) * dmaBufferSize) :
    LinkInv crc fcs info.passed (Link.opened d adapter physEntry info) := by
  refine ⟨HdlcDev.opened_up adapter physEntry mode tty ctsFlow buffers, empty.hdlcSound hdlc crcType calm, room,
    rfl, ?_⟩
  show info.usc.rxDma.frame = []
  rw [empty.dma]
  rfl

/-- What the receiving port hands on is at any time the beginning of what the sending port has accepted. While a frame
is on the line it is being sent; when the line is quiet a run of `r56_bh_receive` hands on all that is left. The sending
port has no `ASYNC_CTS_FLOW` left over from a tty, and the receiving port does not return the CRC and a status
(`HDLC_CRC_RETURN_EX`) with the frames. -/
theorem link_in_order {crc : U16} {fcs : List U8 → List U8} {d : HdlcDev} {adapter : DmaTestRun}
    {physEntry : Nat → U32} {info : R56Struct} {p : List (LinkEvent × Link)}
    (mode : d.info.params.mode = r56ModeHdlc) (tty : d.info.port.tty = false) (ctsFlow : d.info.port.ctsFlow = false)
    (buffers : 0 < (countDmaBuffers d.info).txBufferCount) (documented : documentedCrc crc)
    (check : ∀ data, (fcs data).length = crcLength crc) (hdlc : info.params.mode = r56ModeHdlc)
    (crcType : info.params.crcType = crc) (calm : info.rxOverflow = false ∧ info.rxRccUnderrun = false)
    (empty : EmptyRing info) (room : info.maxFrameSize + crcLength crc < (info.rxBufferCount - 1) * dmaBufferSize)
    (run : Run (LinkStep crc fcs) (Link.opened d adapter physEntry info) p) :
    let s := last (Link.opened d adapter physEntry info) p
    s.receiver.info.passed <+: info.passed ++ s.accepted ∧
      (s.sending ≠ none → s.sender.info.txActive = true ∧ s.sender.info.usc.txDma.running = true) ∧
      ∃ after, r56BhReceive s.receiver.info = some after ∧
        (s.sending = none → after.passed = info.passed ++ s.accepted) := by
  intro s
  have start : LinkInv crc fcs info.passed (Link.opened d adapter physEntry info) :=
    Link.opened_inv mode tty ctsFlow buffers hdlc crcType calm empty room
  have inv : LinkInv crc fcs info.passed s :=
    run.last_invariant (fun _ _ _ inv step => inv.step documented check step) start
  obtain ⟨after, returns, -, all, -⟩ := inv.sound.bhReceive documented
  obtain ⟨frames, _, whole⟩ := inv.sound
  have plain (data : List U8) : returned crc false (checked fcs data) = data := by
    have back : returnSize crc false (checked fcs data) = data.length := by
      unfold returnSize checked
      rw [if_neg Bool.false_ne_true, List.length_append, check, Nat.add_sub_cancel]
    unfold returned
    rw [back, if_neg Bool.false_ne_true, List.append_nil]
    exact List.take_left
  have mapped (datas : List (List U8)) : (datas.map (checked fcs)).map (returned crc false) = datas := by
    rw [List.map_map]
    exact List.map_id'' plain datas
  have flying := inv.flying
  unfold Link.flying at flying
  cases sending : s.sending with
  | none =>
    rw [sending] at flying
    rw [flying.1, mapped] at whole all
    exact ⟨⟨_, whole.symm⟩, fun on => absurd rfl on, after, returns, fun _ => all⟩
  | some pair =>
    obtain ⟨length, n⟩ := pair
    rw [sending] at flying
    obtain ⟨earlier, frame, flight⟩ := flying
    rw [flight.completed, mapped] at whole
    have first : s.receiver.info.passed <+: info.passed ++ earlier := ⟨_, whole.symm⟩
    refine ⟨?_, fun _ => ⟨flight.active, flight.running⟩, after, returns, nofun⟩
    rw [flight.accepted, ← List.append_assoc]
    exact first.trans (List.prefix_append _ _)

def crcByte (crc : U16) (byte : U8) : U16 :=
  (List.range 8).foldl (fun c _ => if c &&& 1 ≠ 0 then c >>> 1 ^^^ 0x8408 else c >>> 1) (crc ^^^ byte.setWidth 16)

/-- CRC-CCITT as HDLC sends it, the low byte first. -/
def crcCcitt (data : List U8) : List U8 :=
  let crc := ~~~data.foldl crcByte 0xffff
  [crc.setWidth 8, (crc >>> 8).setWidth 8]

/-- The check value of the digits from 1 to 9. -/
example : crcCcitt [0x31, 0x32, 0x33, 0x34, 0x35, 0x36, 0x37, 0x38, 0x39] = [0x6e, 0x90] := by decide +kernel

/-- The chip of the receiving port has taken some more bytes of the line. -/
def Link.took (s : Link) (reception : Reception) (sending : Option (Nat × Nat)) : Link :=
  { s with receiver := s.receiver.chip reception, sending := sending }

/-- The chip of the receiving port takes a page off the line, and then the rest of the frame. -/
def Link.pageTaken (s : Link) (length : Nat) (page rest : List U8) : List (LinkEvent × Link) :=
  let used := s.took .use (some (length, 0))
  let filled := used.took (.store page) (some (length, 0 + page.length))
  let moved := filled.took .move (some (length, 0 + page.length))
  let reused := moved.took .use (some (length, 0 + page.length))
  let stored := reused.took (.store rest) (some (length, 0 + page.length + rest.length))
  [(.line .use, used), (.line (.store page), filled), (.line .move, moved), (.line .use, reused),
    (.line (.store rest), stored), (.line (.finish bit4), stored.took (.finish bit4) none)]

theorem Link.pageTaken_run {crc : U16} {fcs : List U8 → List U8} {s : Link} {length entry after : Nat}
    {page rest : List U8} (full : page.length = dmaBufferSize) (fits : rest.length ≤ dmaBufferSize)
    (sending : s.sending = some (length, 0))
    (line : s.sender.info.txView.onLine fcs length = page ++ rest) (on : s.receiver.info.rxEnabled = true)
    (pos : s.receiver.info.usc.rxDma.pos = entry) (idle : s.receiver.info.usc.rxDma.inUse = false)
    (frame : s.receiver.info.usc.rxDma.frame = []) (follows : next s.receiver.info.rxBufferCount entry = after)
    (apart : after ≠ entry) (free : (s.receiver.info.rxBufferList entry).count ≠ 0)
    (room : (s.receiver.info.rxBufferList after).count ≠ 0) :
    Run (LinkStep crc fcs) s (s.pageTaken length page rest) := by
  obtain ⟨use, store, move, reuse, restore, finish, -, -⟩ :=
    receive_page full fits on pos idle frame follows apart free room
  have first : page <+: (s.sender.info.txView.onLine fcs length).drop 0 := by
    rw [line]
    exact List.prefix_append page rest
  have second : rest <+: (s.sender.info.txView.onLine fcs length).drop (0 + page.length) := by
    rw [line, Nat.zero_add, List.drop_left]
  have whole : 0 + page.length + rest.length = (s.sender.info.txView.onLine fcs length).length := by
    rw [line, List.length_append, Nat.zero_add]
  exact ⟨⟨use, _, sending.symm, rfl⟩, ⟨store, _, ⟨length, 0, rfl, first, rfl⟩, rfl⟩, ⟨move, _, rfl, rfl⟩,
    ⟨reuse, _, rfl, rfl⟩, ⟨restore, _, ⟨length, 0 + page.length, rfl, second, rfl⟩, rfl⟩,
    ⟨finish, _, ⟨length, congrArg (fun n => some (length, n)) whole, by decide, rfl⟩, rfl⟩, trivial⟩

/-- A frame of more than a page is sent, and taken off the line into two entries. -/
theorem Link.page_sent {crc : U16} {fcs : List U8 → List U8} {already : List (List U8)} {s : Link} (skb : Nat → U8)
    {len entry after : Nat} (documented : documentedCrc crc) (check : ∀ data, (fcs data).length = crcLength crc)
    (inv : LinkInv crc fcs already s) (accepts : s.sender.dev.queueStopped = false)
    (ring : len ≤ min (s.sender.info.txBufferCount * dmaBufferSize) 65535) (fits : len ≤ s.receiver.info.maxFrameSize)
    (counted : len + crcLength crc ≤ rclrValue) (page : dmaBufferSize < len)
    (two : len + crcLength crc ≤ 2 * dmaBufferSize) (on : s.receiver.info.rxEnabled = true)
    (pos : s.receiver.info.usc.rxDma.pos = entry) (idle : s.receiver.info.usc.rxDma.inUse = false)
    (frame : s.receiver.info.usc.rxDma.frame = []) (follows : next s.receiver.info.rxBufferCount entry = after)
    (apart : after ≠ entry) (free : (s.receiver.info.rxBufferList entry).count ≠ 0)
    (room : (s.receiver.info.rxBufferList after).count ≠ 0) :
    ∃ p, Run (LinkStep crc fcs) s p ∧ (last s p).sending = none ∧
      (last s p).accepted = s.accepted ++ [Memory.read skb 0 len] := by
  let length := (uscInReg (s.sender.xmit skb len).info.usc .tclr).toNat
  let sent : Link := { s with
    sender := s.sender.xmit skb len, sending := some (length, 0), accepted := s.accepted ++ [Memory.read skb 0 len] }
  have xmit : LinkStep crc fcs s (.xmit skb len) sent :=
    ⟨⟨accepts, (Nat.zero_le _).trans_lt page, ring, rfl⟩, fits, counted, rfl⟩
  obtain ⟨earlier, data, flight⟩ : ∃ earlier data, InFlight crc fcs sent length 0 earlier data :=
    (inv.step documented check xmit).flying
  have accepted : s.accepted ++ [Memory.read skb 0 len] = earlier ++ [data] := flight.accepted
  have same := List.singleton_inj.mp
    (List.append_inj' accepted (List.length_singleton.trans List.length_singleton.symm)).2
  have size : (checked fcs data).length = len + crcLength crc := by
    rw [checked, List.length_append, check, ← same, Memory.length_read]
  let taken := sent.pageTaken length ((checked fcs data).take dmaBufferSize) ((checked fcs data).drop dmaBufferSize)
  have line : sent.sender.info.txView.onLine fcs length =
      (checked fcs data).take dmaBufferSize ++ (checked fcs data).drop dmaBufferSize :=
    flight.onLine.trans (List.take_append_drop _ _).symm
  have full : ((checked fcs data).take dmaBufferSize).length = dmaBufferSize := by
    rw [List.length_take, size]
    omega
  have rest : ((checked fcs data).drop dmaBufferSize).length ≤ dmaBufferSize := by
    rw [List.length_drop, size]
    omega
  have later : Run (LinkStep crc fcs) sent taken :=
    Link.pageTaken_run full rest rfl line on pos idle frame follows apart free room
  exact ⟨(.xmit skb len, sent) :: taken, ⟨xmit, later⟩, rfl, rfl⟩

/-- A receiver with three entries of 4096 bytes. -/
def linkPort : R56Struct := { twoEntries with maxFrameSize := 5000, rxBufferCount := 3 }

/-- The sending port has room for frames of two pages. -/
def linkDevice : HdlcDev := { info := { r56AllocateDevice with maxFrameSize := 8192 } }

def linkOpened : Link := Link.opened linkDevice ⟨true, true, some 0, {}⟩ (fun _ => 0) linkPort

/-- A run of the driver's receive function at the receiving port. -/
def Link.looked (s : Link) : Link :=
  { s with receiver := { s.receiver with info := (r56BhReceive s.receiver.info).getD s.receiver.info } }

theorem Link.looked_step {crc : U16} {fcs : List U8 → List U8} {s : Link}
    (returns : (r56BhReceive s.receiver.info).isSome = true) : LinkStep crc fcs s (.receiver .bhReceive) s.looked := by
  obtain ⟨info, here⟩ := Option.isSome_iff_exists.mp returns
  refine ⟨id, _, ⟨_, here, rfl⟩, ?_⟩
  unfold looked
  rw [here]
  rfl

/-- The frame 1, 2, 3 is sent, while the driver of the receiving port looks for frames, and handed on. Then both ports
are ready for another. -/
theorem linkOpened_exchange :
    ∃ p, Run (LinkStep hdlcCrc16Ccitt crcCcitt) linkOpened p ∧
      let quiet := last linkOpened p
      quiet.accepted = [[1, 2, 3]] ∧ quiet.sender.dev.queueStopped = false ∧
        dmaBufferSize + 1 ≤ min (quiet.sender.info.txBufferCount * dmaBufferSize) 65535 ∧
        quiet.receiver.info.maxFrameSize = 5000 ∧ quiet.receiver.info.rxEnabled = true ∧
        quiet.receiver.info.usc.rxDma.pos = 1 ∧ quiet.receiver.info.usc.rxDma.inUse = false ∧
        quiet.receiver.info.usc.rxDma.frame = [] ∧ next quiet.receiver.info.rxBufferCount 1 = 2 ∧
        (quiet.receiver.info.rxBufferList 1).count ≠ 0 ∧ (quiet.receiver.info.rxBufferList 2).count ≠ 0 := by
  let skb := fun i : Nat => (i + 1 : U8)
  let length := (uscInReg (linkOpened.sender.xmit skb 3).info.usc .tclr).toNat
  let sent : Link :=
    { linkOpened with sender := linkOpened.sender.xmit skb 3, sending := some (length, 0), accepted := [[1, 2, 3]] }
  let begun := (sent.took .use (some (length, 0))).took (.store [1, 2]) (some (length, 2))
  let ended := (begun.looked.took (.store (3 :: crcCcitt [1, 2, 3])) (some (length, 5))).took (.finish bit4) none
  let quiet : Link := { ended.looked with sender := ended.looked.sender.interrupt frameSent }
  have run : Run (LinkStep hdlcCrc16Ccitt crcCcitt) linkOpened [(.xmit skb 3, sent),
      (.line .use, sent.took .use (some (length, 0))), (.line (.store [1, 2]), begun),
      (.receiver .bhReceive, begun.looked),
      (.line (.store (3 :: crcCcitt [1, 2, 3])), begun.looked.took (.store (3 :: crcCcitt [1, 2, 3])) (some (length, 5))),
      (.line (.finish bit4), ended), (.receiver .bhReceive, ended.looked), (.sender (.interrupt frameSent), quiet)] := by
    refine ⟨⟨⟨rfl, by decide, by decide +kernel, rfl⟩, by decide, by decide, rfl⟩, ⟨?_, _, rfl, rfl⟩,
      ⟨?_, _, ⟨_, _, rfl, ?_, rfl⟩, rfl⟩, Link.looked_step ?_, ⟨?_, _, ⟨_, _, rfl, ?_, rfl⟩, rfl⟩,
      ⟨?_, _, ⟨length, ?_, ?_, rfl⟩, rfl⟩, Link.looked_step ?_,
      ⟨nofun, fun on => absurd rfl on, _, ⟨?_, fun dma => ?_, rfl⟩, rfl⟩, trivial⟩
    · decide +kernel
    · decide +kernel
    · decide +kernel
    · decide +kernel
    · decide +kernel
    · decide +kernel
    · decide +kernel
    · decide +kernel
    · decide
    · decide +kernel
    · decide +kernel
    · exact absurd dma.1 (by decide +kernel)
  exact ⟨_, run, rfl, by decide +kernel⟩

/-- That frame is followed by one of a page and a byte, which takes two entries of the receiving port. -/
theorem link_in_order_two :
    ∃ p, Run (LinkStep hdlcCrc16Ccitt crcCcitt) linkOpened p ∧ (last linkOpened p).sending = none ∧
      ∃ after, r56BhReceive (last linkOpened p).receiver.info = some after ∧
        after.passed = [[1, 2, 3], Memory.read (fun _ => 7) 0 (dmaBufferSize + 1)] := by
  have empty : EmptyRing linkPort := .fresh (by decide) rfl rfl
  have start : LinkInv hdlcCrc16Ccitt crcCcitt [] linkOpened :=
    Link.opened_inv (d := linkDevice) rfl rfl rfl (by decide) rfl rfl ⟨rfl, rfl⟩ empty (by decide)
  have kept : ∀ s event t, LinkInv hdlcCrc16Ccitt crcCcitt [] s → LinkStep hdlcCrc16Ccitt crcCcitt s event t →
      LinkInv hdlcCrc16Ccitt crcCcitt [] t := fun _ _ _ inv step => inv.step (.inr (.inl rfl)) (fun _ => rfl) step
  obtain ⟨p, first, accepted, ready, ring, most, on, pos, idle, none, follows, free, room⟩ := linkOpened_exchange
  obtain ⟨q, second, quiet, sent⟩ := Link.page_sent (fun _ => 7) (.inr (.inl rfl)) (fun _ => rfl)
    (first.last_invariant kept start) ready ring (most ▸ by decide) (by decide) (Nat.lt_succ_self _) (by decide) on pos idle
    none follows (by decide) free room
  rw [← last_append] at quiet sent
  have run := run_append.mpr ⟨first, second⟩
  obtain ⟨-, -, after, returns, handed⟩ := link_in_order (d := linkDevice) rfl rfl rfl (by decide) (.inr (.inl rfl))
    (fun _ => rfl) rfl rfl ⟨rfl, rfl⟩ empty (by decide) run
  refine ⟨p ++ q, run, quiet, after, returns, (handed quiet).trans ?_⟩
  show [] ++ (last linkOpened (p ++ q)).accepted = _
  rw [sent, accepted]
  rfl

end Route56
