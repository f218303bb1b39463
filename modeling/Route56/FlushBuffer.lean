import Route56.DmaAccounting
import Route56.Programming
import Route56.RawWrite
import Mathlib.Order.CompletePartialOrder

namespace Route56

open CircularBuffer Transition

/-- A place of `xmit_buf`, or a holding buffer. -/
inductive TxPlace
  | char (i : Nat)
  | frame (slot : Nat)

/-- `r56_write` holds the frame back. -/
def R56Struct.holdsWrite (info : R56Struct) : Prop :=
  info.xmitBufPtr = true ∧ info.synchronous ∧ info.txActive = true ∧ ¬info.params.mode = r56ModeHdlc ∧
    info.txHoldingCount < info.numTxHoldingBuffers

instance (info : R56Struct) : Decidable info.holdsWrite :=
  inferInstanceAs (Decidable (_ ∧ (_ ∨ _) ∧ _))

/-- The number of characters the operation stores in `xmit_buf`, from `xmit_head` on. -/
def collected (info : R56Struct) : Op → Nat
  | .putChar ch => if (r56PutChar info ch).2 then 1 else 0
  | .write buf count => if info.synchronous then 0 else (r56Write info buf count).2
  | _ => 0

/-- The places the operation stores accepted data in, other than frames that go to the ring at once. -/
def stores (info : R56Struct) (op : Op) : Set TxPlace
  | .char i => ∃ k < collected info op, i = cell serialXmitSize info.xmitHead k
  | .frame slot => (∃ buf count, op = .write buf count) ∧ info.holdsWrite ∧ slot = info.putTxHoldingIndex

/-- The frames loaded between two states. -/
def loadsSince (s t : R56Struct) : List (TxSource × List U8) := t.history.loads.drop s.history.loads.length

/-- The places from which an operation moves data to the transmit ring or the FIFO: the bytes of a
frame out of `xmit_buf`, those the FIFO takes from `xmit_tail` on, and the next holding buffer. In
the frame oriented modes the FIFO is filled from the ring. -/
def taken (s : R56Struct) (op : Op) (t : R56Struct) : Set TxPlace
  | .char i =>
    (∃ frame, (.xmitBuf, frame) ∈ loadsSince s t ∧ i < frame.length) ∨
      ¬s.synchronous ∧ ∃ k, k < t.history.txData.length - s.history.txData.length ∧
        k < s.xmitCnt + collected s op ∧ i = cell serialXmitSize s.xmitTail k
  | .frame slot => slot = s.getTxHoldingIndex ∧ ∃ frame, (.holding, frame) ∈ loadsSince s t

instance (info : R56Struct) : (op : Op) → Decidable (loadsXmitBuf info op)
  | .write .. => inferInstanceAs (Decidable (_ ∧ _ ∧ (_ → _) ∧ _))
  | .flushChars => inferInstanceAs (Decidable (_ ∧ _ ∧ _ ∧ _))
  | .putChar _ | .flushBuffer | .stop | .start | .sendXchar _ | .throttle | .unthrottle | .txenable _ | .rxenable _
  | .txabort | .loopmodeSendDone | .setParams _ | .setTermios .. | .setTxidle _ | .tiocmset .. | .dtrRts _
  | .setBreak _ | .interrupt _ | .bhReceive | .bhTransmit | .bhStatus | .txTimeout | .flow .. | .reception .. =>
    .isFalse id

/-- As many places from the start of `xmit_buf` may hold accepted characters that were not loaded, after an operation
before which it were `used`. A frame of at least so many bytes takes them all. -/
def usedAfter (info : R56Struct) (used : Nat) (op : Op) : Nat :=
  if info.synchronous ∧ loadsXmitBuf info op ∧ used ≤ info.xmitCnt then 0
  else if collected info op = 0 then used
  else max used (min serialXmitSize (info.xmitHead + collected info op))

/-- The operation loads a holding buffer. -/
def unholds (info : R56Struct) : Op → Prop
  | .write buf count => info.holdsWrite ∧ (saveTxBufferRequest info buf count).heldSize ≠ none
  | .interrupt report =>
    (info.reporting report).bufferSent ∧
      { info.reporting report with txDmaBuffersUsed := info.txDmaBuffersUsed - 1 }.heldSize ≠ none
  | _ => False

/-- The driver with what is known of the data it accepted. -/
structure Flushed where
  info : R56Struct
  /-- Where accepted data lie that were not loaded yet. -/
  waiting : Set TxPlace := ∅
  /-- Of the data that waited at the last flush, those nothing was stored over since. -/
  unsent : Set TxPlace := ∅
  /-- As many places from the start of `xmit_buf` have been stored to since the last flush. -/
  stored : Nat := serialXmitSize
  /-- The number of frames held back at the last flush. -/
  held : Nat := 0
  /-- As many places from the start of `xmit_buf` may hold accepted characters that were not loaded yet. -/
  used : Nat := 0
  /-- The value of `used` at the last flush. -/
  reach : Nat := 0

/-- The account after an operation. -/
def Flushed.after (s : Flushed) (op : Op) (info : R56Struct) : Flushed :=
  let waiting := (s.waiting ∪ stores s.info op) \ taken s.info op info
  match op with
  | .flushBuffer => ⟨info, waiting, s.waiting, 0, s.info.txHoldingCount, s.used, s.used⟩
  | op =>
    ⟨info, waiting, s.unsent \ stores s.info op,
      max s.stored (min serialXmitSize (s.info.xmitHead + collected s.info op)), s.held,
      usedAfter s.info s.used op, s.reach⟩

/-- The chip interrupts for the FIFO in the asynchronous mode and for the transmit DMA channel in
the frame oriented ones, which are what the driver enables. -/
def fitsMode (info : R56Struct) : Op → Prop
  | .interrupt report =>
    if info.synchronous then (info.reporting report).uscVector ≠ 3 else ¬(info.reporting report).transmitDmaVector
  | _ => True

instance (info : R56Struct) : (op : Op) → Decidable (fitsMode info op)
  | .interrupt report =>
    (inferInstance : Decidable (if info.synchronous then (info.reporting report).uscVector ≠ 3
      else ¬((info.reporting report).uscVector = 0 ∧
        uscInDmaReg (info.reporting report).usc .divr &&& (bit10 ||| bit9) = bit10)))
  | .write .. | .putChar _ | .flushChars | .flushBuffer | .stop | .start | .sendXchar _ | .throttle | .unthrottle
  | .txenable _ | .rxenable _ | .txabort | .loopmodeSendDone | .setParams _ | .setTermios .. | .setTxidle _
  | .tiocmset .. | .dtrRts _ | .setBreak _ | .bhReceive | .bhTransmit | .bhStatus | .txTimeout | .flow ..
  | .reception .. => .isTrue trivial

structure FlushStep (s : Flushed) (op : Op) (t : Flushed) : Prop where
  step : Step s.info op t.info
  fits : fitsMode s.info op
  after : t = s.after op t.info

/-- Nothing is taken that the last flush should have discarded. -/
def Clean (s : Flushed) (op : Op) (t : Flushed) : Prop := Disjoint (taken s.info op t.info) t.unsent

/-- A holding buffer is loaded only if none was in use at the last flush, and of the places used at the last flush a
frame out of `xmit_buf` takes no more than were stored to since. -/
def Discards (s : Flushed) (op : Op) : Prop :=
  (unholds s.info op → s.held = 0) ∧
    (s.info.synchronous → loadsXmitBuf s.info op → min s.info.xmitCnt s.reach ≤ s.stored)

/-- Place `i` holds a byte that waits. -/
def XmitQueue.Holds (q : XmitQueue) (i : Nat) : Prop := ∃ k < q.cnt, i = cell serialXmitSize q.tail k

theorem XmitQueue.Ok.loads_holds {q : XmitQueue} (ok : q.Ok) (readings : List Nat) :
    ∀ i, (q.loads readings).Holds i → q.Holds i := by
  induction readings generalizing q with
  | nil => exact fun _ holds => holds
  | cons fifocount readings ih =>
    unfold XmitQueue.loads
    split
    · rename_i room
      intro i holds
      obtain ⟨k, bound, rfl⟩ := ih (@XmitQueue.Ok.load _ ok fifocount room.2).1 i holds
      have count : (q.load fifocount).cnt = q.cnt - (q.loaded fifocount).length := rfl
      refine ⟨(q.loaded fifocount).length + k, by omega, ?_⟩
      rw [ok.load_tail, cell_cell]
    · exact fun _ holds => holds

/-- The transmit data without the characters. -/
def Xmit.exceptChars (x : Xmit) : Xmit := { x with buf := fun _ => 0, head := 0, cnt := 0 }

/-- No frame is loaded or held back, no character stored; some may be taken out of the queue, or all dropped. -/
structure Thins (s t : R56Struct) : Prop where
  frames : t.xmit.exceptChars = s.xmit.exceptChars
  head : t.xmitHead = s.xmitHead ∨ t.xmitHead = 0
  queue : ¬s.synchronous → s.xmitQueue.Ok → t.xmitQueue.Ok ∧ ∀ i, t.xmitQueue.Holds i → s.xmitQueue.Holds i

theorem synchronous_of_mode {s t : R56Struct} (mode : t.params.mode = s.params.mode) :
    t.synchronous ↔ s.synchronous := by
  unfold R56Struct.synchronous
  rw [mode]

theorem Thins.synchronous {s t : R56Struct} (thins : Thins s t) : t.synchronous ↔ s.synchronous :=
  synchronous_of_mode (congrArg Xmit.mode thins.frames)

theorem Thins.of_same {s t : R56Struct} (same : t.xmit = s.xmit) (tail : t.xmitTail = s.xmitTail) : Thins s t := by
  have head : t.xmitHead = s.xmitHead := congrArg Xmit.head same
  have cnt : t.xmitCnt = s.xmitCnt := congrArg Xmit.cnt same
  refine ⟨congrArg Xmit.exceptChars same, .inl head, fun _ ok => ⟨⟨?_, ?_, ?_⟩, ?_⟩⟩
  · exact cnt.trans_le ok.room
  · exact tail.trans_lt ok.tail
  · show t.xmitHead = cell serialXmitSize t.xmitTail t.xmitCnt
    rw [head, tail, cnt]
    exact ok.head
  · rintro i ⟨k, bound, rfl⟩
    exact ⟨k, bound.trans_eq cnt, congrArg (cell serialXmitSize · k) tail⟩

theorem Thins.of_drains {s t : R56Struct} (frames : t.xmit.exceptChars = s.xmit.exceptChars)
    (head : t.xmitHead = s.xmitHead) (drains : s.xmitQueue.Drains t.xmitQueue) : Thins s t := by
  refine ⟨frames, .inl head, fun _ ok => ?_⟩
  obtain ⟨readings, same⟩ := drains
  rw [same]
  exact ⟨(ok.loads readings).1, ok.loads_holds readings⟩

/-- The queue is empty. -/
structure R56Struct.Dropped (info : R56Struct) : Prop where
  cnt : info.xmitCnt = 0
  head : info.xmitHead = 0
  tail : info.xmitTail = 0

theorem R56Struct.Dropped.queue {info : R56Struct} (dropped : info.Dropped) :
    info.xmitQueue.Ok ∧ ∀ i, ¬info.xmitQueue.Holds i := by
  refine ⟨⟨?_, ?_, ?_⟩, ?_⟩
  · exact dropped.cnt.trans_le (Nat.zero_le _)
  · exact dropped.tail.trans_lt (by decide)
  · show info.xmitHead = cell serialXmitSize info.xmitTail info.xmitCnt
    rw [dropped.head, dropped.tail, dropped.cnt]
    rfl
  · rintro i ⟨k, bound, -⟩
    have none : k < 0 := bound.trans_eq dropped.cnt
    exact absurd none (Nat.not_lt_zero k)

theorem Thins.of_dropped {s t : R56Struct} (frames : t.xmit.exceptChars = s.xmit.exceptChars)
    (dropped : t.Dropped) : Thins s t :=
  ⟨frames, .inr dropped.head, fun _ _ => ⟨dropped.queue.1, fun i holds => absurd holds (dropped.queue.2 i)⟩⟩

theorem Thins.trans {s t u : R56Struct} (first : Thins s t) (second : Thins t u) : Thins s u := by
  refine ⟨second.frames.trans first.frames, ?_, fun chars ok => ?_⟩
  · rcases second.head with same | zero
    · rw [same]
      exact first.head
    · exact .inr zero
  · obtain ⟨ok, before⟩ := first.queue chars ok
    obtain ⟨ok, between⟩ := second.queue (fun sync => chars (first.synchronous.mp sync)) ok
    exact ⟨ok, fun i holds => before i (between i holds)⟩

theorem exceptChars_of_exceptTransmitter {s t : R56Struct} (frame : t.exceptTransmitter = s.exceptTransmitter) :
    t.xmit.exceptChars = s.xmit.exceptChars ∧ t.xmitHead = s.xmitHead := by
  have same := congrArg (·.xmit.exceptChars) frame
  have head := congrArg (·.xmitHead) frame
  exact ⟨same, head⟩

theorem Thins.of_exceptReception {s t : R56Struct} (frame : t.exceptReception = s.exceptReception) : Thins s t := by
  have tail := congrArg (·.xmitTail) frame
  exact .of_same (xmit_of_exceptReception frame) tail

theorem uscStartTransmitter_thins (info : R56Struct) : Thins info (uscStartTransmitter info) := by
  by_cases async : info.params.mode = r56ModeAsync
  · obtain ⟨frames, head⟩ := exceptChars_of_exceptTransmitter (uscStartTransmitter_frame info)
    exact .of_drains frames head (uscStartTransmitter_drains async)
  · have kept : KeptPrepare fun s t => t.xmit = s.xmit ∧ t.xmitTail = s.xmitTail :=
      ⟨fun _ => ⟨rfl, rfl⟩, fun first second => ⟨second.1.trans first.1, second.2.trans first.2⟩,
        fun _ _ => ⟨rfl, rfl⟩, fun _ => ⟨rfl, rfl⟩, fun _ => ⟨rfl, rfl⟩, fun _ _ => ⟨rfl, rfl⟩,
        fun _ => ⟨rfl, rfl⟩, fun _ => ⟨rfl, rfl⟩, fun _ _ => ⟨rfl, rfl⟩⟩
    have mode : (ignoreEcho (assertAutoRts info)).params.mode = info.params.mode :=
      congrArg Xmit.mode (kept.prepare info).1
    have started : (uscStartTransmitter info).xmit = info.xmit ∧
        (uscStartTransmitter info).xmitTail = info.xmitTail := by
      refine kept.start fun _ => ?_
      have dma : feedTransmitter (ignoreEcho (assertAutoRts info)) = startTxDma (ignoreEcho (assertAutoRts info)) :=
        if_neg (by rw [mode]; exact async)
      rw [dma]
      exact ⟨rfl, rfl⟩
    exact .of_same started.1 started.2

theorem thins_kept : KeptSilent Thins where
  refl _ := .of_same rfl rfl
  trans := Thins.trans
  reception := .of_exceptReception
  signals _ _ := .of_same rfl rfl
  flow _ _ _ := .of_same rfl rfl
  xchar _ _ := .of_same rfl rfl
  start := uscStartTransmitter_thins
  stop _ := .of_same rfl rfl
  ended s := @Thins.of_dropped s { endTransmission s with txTimer := false } rfl ⟨rfl, rfl, rfl⟩
  dropped _ := .of_same rfl rfl
  continued s := by
    unfold continueAsync
    split
    · obtain ⟨frames, head⟩ := exceptChars_of_exceptTransmitter (uscLoadTxfifo_frame s)
      exact .of_drains frames head (uscLoadTxfifo_drains s)
    · exact .of_same rfl rfl

/-- The start of `xmit_buf` up to `stored`, the queue and the frames held back after the first `held`
hold nothing unsent. -/
structure Discarded (info : R56Struct) (unsent : Set TxPlace) (stored held : Nat) : Prop where
  queued : info.xmit.Queued
  head : info.xmitHead ≤ stored
  chars : ∀ i < stored, .char i ∉ unsent
  frames : ∀ k, held ≤ k → k < info.xmit.holding → .frame (cell info.xmit.holders info.xmit.get k) ∉ unsent
  queue : ¬info.synchronous → info.xmitQueue.Ok ∧ ∀ i, info.xmitQueue.Holds i → .char i ∉ unsent

namespace Discarded

variable {info after : R56Struct} {unsent less : Set TxPlace} {stored held : Nat}

theorem mono (inv : Discarded info unsent stored held) (fewer : less ⊆ unsent) : Discarded info less stored held where
  queued := inv.queued
  head := inv.head
  chars i bound here := inv.chars i bound (fewer here)
  frames k late bound here := inv.frames k late bound (fewer here)
  queue chars := ⟨(inv.queue chars).1, fun i holds here => (inv.queue chars).2 i holds (fewer here)⟩

/-- The part of the invariant about frames, where they have not changed. -/
theorem kept {s t : R56Struct} (queued : s.xmit.Queued)
    (frames : ∀ k, held ≤ k → k < s.xmit.holding → .frame (cell s.xmit.holders s.xmit.get k) ∉ unsent)
    (same : t.xmit.exceptChars = s.xmit.exceptChars) :
    t.xmit.Queued ∧ ∀ k, held ≤ k → k < t.xmit.holding → .frame (cell t.xmit.holders t.xmit.get k) ∉ unsent := by
  obtain ⟨holders, get, put, holding⟩ : t.xmit.holders = s.xmit.holders ∧ t.xmit.get = s.xmit.get ∧
      t.xmit.put = s.xmit.put ∧ t.xmit.holding = s.xmit.holding := by
    have same := congrArg (fun x => (x.holders, x.get, x.put, x.holding)) same
    simpa [Xmit.exceptChars] using same
  refine ⟨⟨?_, ?_, ?_⟩, ?_⟩
  · rw [holding, holders]
    exact queued.le
  · rw [get, holders]
    exact queued.get
  · rw [put, get, holding, holders]
    exact queued.put
  · rw [get, holding, holders]
    exact frames

theorem thins (inv : Discarded info unsent stored held) (thins : Thins info after) :
    Discarded after unsent stored held := by
  obtain ⟨queued, frames⟩ := kept inv.queued inv.frames thins.frames
  refine ⟨queued, ?_, inv.chars, frames, fun chars => ?_⟩
  · rcases thins.head with same | zero
    · exact same.trans_le inv.head
    · exact zero.trans_le (Nat.zero_le _)
  · have before : ¬info.synchronous := fun sync => chars (thins.synchronous.mpr sync)
    obtain ⟨ok, none⟩ := inv.queue before
    obtain ⟨ok, holds⟩ := thins.queue before ok
    exact ⟨ok, fun i here => none i (holds i here)⟩

/-- `c` characters are stored over what lay in their places. -/
theorem collect (inv : Discarded info unsent stored held) {c : Nat}
    (frames : after.xmit.exceptChars = info.xmit.exceptChars)
    (head : after.xmitHead = (info.xmitHead + c) % serialXmitSize) (tail : after.xmitTail = info.xmitTail)
    (cnt : after.xmitCnt = info.xmitCnt + c) (room : ¬info.synchronous → info.xmitCnt + c < serialXmitSize)
    (fewer : less ⊆ unsent) (gone : ∀ k < c, .char (cell serialXmitSize info.xmitHead k) ∉ less) :
    Discarded after less (max stored (min serialXmitSize (info.xmitHead + c))) held := by
  have size : serialXmitSize = 4096 := rfl
  obtain ⟨queued, held⟩ := kept inv.queued (inv.mono fewer).frames frames
  refine ⟨queued, ?_, fun i bound => ?_, held, fun chars => ?_⟩
  · rw [head]
    by_cases wraps : info.xmitHead + c < serialXmitSize
    · rw [Nat.mod_eq_of_lt wraps]
      omega
    · have below := Nat.mod_lt (info.xmitHead + c) (show 0 < serialXmitSize by decide)
      omega
  · by_cases old : i < stored
    · exact fun here => inv.chars i old (fewer here)
    · -- the places from `xmit_head` on are the ones stored to
      have start := inv.head
      have place : cell serialXmitSize info.xmitHead (i - info.xmitHead) = i := by
        unfold cell
        rw [Nat.add_sub_cancel' (by omega), Nat.mod_eq_of_lt (by omega)]
      have stored := gone (i - info.xmitHead) (by omega)
      rwa [place] at stored
  · have before : ¬info.synchronous := fun sync => chars ((synchronous_of_mode (congrArg Xmit.mode frames)).mpr sync)
    obtain ⟨ok, none⟩ := inv.queue before
    have start : info.xmitHead = cell serialXmitSize info.xmitTail info.xmitCnt := ok.head
    have next : cell serialXmitSize info.xmitTail (info.xmitCnt + c) = after.xmitHead := by
      rw [head, start]
      exact (cell_cell serialXmitSize info.xmitTail info.xmitCnt c).symm
    refine ⟨⟨?_, ?_, ?_⟩, ?_⟩
    · show after.xmitCnt ≤ serialXmitSize - 1
      have bound := room before
      omega
    · exact tail.trans_lt ok.tail
    · show after.xmitHead = cell serialXmitSize after.xmitTail after.xmitCnt
      rw [tail, cnt, next]
    · rintro i ⟨k, bound, rfl⟩
      have bound : k < after.xmitCnt := bound
      show TxPlace.char (cell serialXmitSize after.xmitTail k) ∉ less
      rw [tail]
      by_cases old : k < info.xmitCnt
      · exact fun here => none _ ⟨k, old, rfl⟩ (fewer here)
      · have stored := gone (k - info.xmitCnt) (by omega)
        rwa [start, cell_cell, Nat.add_sub_cancel' (by omega)] at stored

/-- In a frame oriented mode the queue does not matter. -/
theorem of_synchronous (inv : Discarded info unsent stored held) (sync : after.synchronous)
    (head : after.xmitHead = info.xmitHead) (queued : after.xmit.Queued)
    (frames : ∀ k, held ≤ k → k < after.xmit.holding → .frame (cell after.xmit.holders after.xmit.get k) ∉ unsent) :
    Discarded after unsent stored held :=
  ⟨queued, head.trans_le inv.head, inv.chars, frames, fun chars => absurd sync chars⟩

/-- A frame is held back in place of what lay in its holding buffer. -/
theorem hold (inv : Discarded info unsent stored held) (sync : info.synchronous)
    (room : info.txHoldingCount < info.numTxHoldingBuffers) (buf : Nat → U8) (count : Nat)
    (fewer : less ⊆ unsent) (gone : .frame info.putTxHoldingIndex ∉ less) :
    Discarded (saveTxBufferRequest info buf count) less stored held := by
  have saved := saveTxBufferRequest_xmit buf count room
  have queued := (inv.queued.hold room buf count).1
  have mode : (saveTxBufferRequest info buf count).params.mode = info.params.mode := congrArg Xmit.mode saved
  refine (inv.mono fewer).of_synchronous ((synchronous_of_mode mode).mpr sync) (congrArg Xmit.head saved) ?_ ?_
  · rw [saved]
    exact queued
  · rw [saved]
    intro k late bound
    by_cases last : k = info.xmit.holding
    · have put : info.putTxHoldingIndex = cell info.xmit.holders info.xmit.get info.xmit.holding :=
        inv.queued.put (Nat.zero_lt_of_lt room)
      rw [put] at gone
      rw [last]
      exact gone
    · have bound : k < info.xmit.holding + 1 := bound
      exact fun here => inv.frames k late (by omega) (fewer here)

/-- The oldest frame held back is loaded, none of which were held at the flush. -/
theorem unhold (inv : Discarded info unsent stored 0) (sync : info.synchronous) (waiting : info.txHoldingCount ≠ 0)
    (loaded : after.xmit = info.xmit.unhold) :
    Discarded after unsent stored 0 ∧ .frame info.getTxHoldingIndex ∉ unsent := by
  have waits : info.xmit.holding ≠ 0 := waiting
  have some : 0 < info.xmit.holders := by
    have le := inv.queued.le
    omega
  have inside := inv.queued.get some
  have get : info.xmit.unhold.get = cell info.xmit.holders info.xmit.get 1 :=
    (wrap_eq_next inside).trans (next_eq_cell inside)
  have first := inv.frames 0 (Nat.le_refl 0) (by omega)
  rw [cell_zero inside] at first
  have mode : after.params.mode = info.params.mode := congrArg Xmit.mode loaded
  refine ⟨inv.of_synchronous ((synchronous_of_mode mode).mpr sync) (congrArg Xmit.head loaded) ?_ ?_, first⟩
  · rw [loaded]
    exact (inv.queued.unhold waits).1
  · rw [loaded, get]
    intro k _ bound
    have bound : k < info.xmit.holding - 1 := bound
    show TxPlace.frame (cell info.xmit.holders (cell info.xmit.holders info.xmit.get 1) k) ∉ unsent
    rw [cell_cell]
    exact inv.frames (1 + k) (Nat.zero_le _) (by omega)

/-- The FIFO takes only bytes that waited or were just stored. -/
theorem fifo (inv : Discarded info unsent stored held) (chars : ¬info.synchronous) {op : Op} {k : Nat}
    (bound : k < info.xmitCnt + collected info op) :
    .char (cell serialXmitSize info.xmitTail k) ∉ unsent \ stores info op := by
  obtain ⟨ok, none⟩ := inv.queue chars
  rintro ⟨here, kept⟩
  by_cases old : k < info.xmitCnt
  · exact none _ ⟨k, old, rfl⟩ here
  · have start : info.xmitHead = cell serialXmitSize info.xmitTail info.xmitCnt := ok.head
    refine kept ⟨k - info.xmitCnt, by omega, ?_⟩
    rw [start, cell_cell, Nat.add_sub_cancel' (by omega)]

end Discarded

/-- What holds of a state of a run. -/
structure FlushInv (s : Flushed) : Prop where
  attached : s.info.port.tty = true
  discarded : Discarded s.info s.unsent s.stored s.held
  used : ∀ i, .char i ∈ s.waiting → i < s.used
  reach : ∀ i, .char i ∈ s.unsent → i < s.reach

theorem loadsSince_nil {s t : R56Struct} (same : t.xmit.loads = s.xmit.loads) : loadsSince s t = [] := by
  have same : t.history.loads = s.history.loads := same
  unfold loadsSince
  rw [same, List.drop_length]

theorem loadsSince_singleton {s t : R56Struct} {source : TxSource} {frame : List U8}
    (loaded : t.xmit.loads = s.xmit.loads ++ [(source, frame)]) : loadsSince s t = [(source, frame)] := by
  have loaded : t.history.loads = s.history.loads ++ [(source, frame)] := loaded
  unfold loadsSince
  rw [loaded, List.drop_left]

theorem Flushed.after_other {s : Flushed} {op : Op} (other : op ≠ .flushBuffer) (info : R56Struct) :
    (s.after op info).info = info ∧ (s.after op info).unsent = s.unsent \ stores s.info op ∧
      (s.after op info).stored = max s.stored (min serialXmitSize (s.info.xmitHead + collected s.info op)) ∧
      (s.after op info).held = s.held ∧ (s.after op info).reach = s.reach := by
  cases op with
  | flushBuffer => exact absurd rfl other
  | _ => exact ⟨rfl, rfl, rfl, rfl, rfl⟩

theorem Flushed.after_waiting (s : Flushed) (op : Op) (info : R56Struct) :
    (s.after op info).waiting = (s.waiting ∪ stores s.info op) \ taken s.info op info ∧
      (s.after op info).used = usedAfter s.info s.used op := by
  cases op with
  | flushBuffer => exact ⟨rfl, (if_neg fun loads => loads.2.1).symm⟩
  | _ => exact ⟨rfl, rfl⟩

/-- What a frame out of `xmit_buf` takes. -/
theorem taken_of_loads {s t : R56Struct} {op : Op} (sync : s.synchronous) (loads : loadsXmitBuf s op)
    (ran : exec s op = some t) {i : Nat} (within : i < s.xmitCnt) : .char i ∈ taken s op t := by
  have free : ¬setsXmit s op := by
    cases op with
    | write buf count => exact id
    | flushChars => exact id
    | _ => exact absurd loads id
  rcases exec_xmit sync free ran with ⟨_, loaded⟩ | ⟨quiet, _⟩
  · refine .inl ⟨Memory.read s.xmitBuf 0 s.xmitCnt, ?_, ?_⟩
    · rw [loadsSince_singleton (congrArg Xmit.loads loaded)]
      exact List.mem_singleton_self _
    · rw [Memory.length_read]
      exact within
  · exact absurd loads quiet

/-- No more places are used than the account says. -/
theorem FlushInv.used_after {s : Flushed} {op : Op} {info : R56Struct} (inv : FlushInv s)
    (ran : exec s.info op = some info) (i : Nat) (here : .char i ∈ (s.after op info).waiting) :
    i < (s.after op info).used := by
  obtain ⟨waiting, used⟩ := s.after_waiting op info
  rw [waiting] at here
  rw [used]
  obtain ⟨here, kept⟩ := here
  unfold usedAfter
  split
  · rename_i loads
    obtain ⟨sync, loads, whole⟩ := loads
    rcases here with before | ⟨k, new, -⟩
    · exact absurd (taken_of_loads sync loads ran ((inv.used i before).trans_le whole)) kept
    · have none : collected s.info op = 0 := by
        cases op with
        | write buf count => exact if_pos sync
        | flushChars => rfl
        | _ => exact absurd loads id
      omega
  · split
    · rename_i none
      rcases here with before | ⟨k, new, -⟩
      · exact inv.used i before
      · omega
    · rcases here with before | ⟨k, new, rfl⟩
      · exact (inv.used i before).trans_le (Nat.le_max_left _ _)
      · refine lt_of_lt_of_le (lt_min (Nat.mod_lt _ (by decide)) ?_) (Nat.le_max_right _ _)
        exact (Nat.mod_le _ _).trans_lt (Nat.add_lt_add_left new _)

/-- An operation that loads at most a frame of which nothing is unsent takes nothing unsent. -/
theorem FlushInv.clean {s : Flushed} {op : Op} {info : R56Struct} (inv : FlushInv s) (other : op ≠ .flushBuffer)
    (chars : ∀ frame, (.xmitBuf, frame) ∈ loadsSince s.info info → ∀ i < frame.length,
      .char i ∉ s.unsent \ stores s.info op)
    (frames : ∀ frame, (.holding, frame) ∈ loadsSince s.info info →
      .frame s.info.getTxHoldingIndex ∉ s.unsent \ stores s.info op) : Clean s op (s.after op info) := by
  obtain ⟨same, unsent, -⟩ := s.after_other other info
  unfold Clean
  rw [same, unsent]
  refine Set.disjoint_left.mpr fun place moved => ?_
  cases place with
  | char i =>
    rcases moved with ⟨frame, loaded, bound⟩ | ⟨async, k, -, bound, rfl⟩
    · exact chars frame loaded i bound
    · exact inv.discarded.fifo async bound
  | frame slot =>
    obtain ⟨rfl, frame, loaded⟩ := moved
    exact frames frame loaded

/-- What an operation is to be shown to do. -/
def Flushed.Fine (s : Flushed) (op : Op) (info : R56Struct) : Prop :=
  Discarded info (s.unsent \ stores s.info op)
      (max s.stored (min serialXmitSize (s.info.xmitHead + collected s.info op))) s.held ∧
    Clean s op (s.after op info)

theorem max_stored {info : R56Struct} {unsent : Set TxPlace} {stored held : Nat}
    (inv : Discarded info unsent stored held) : max stored (min serialXmitSize (info.xmitHead + 0)) = stored := by
  have head := inv.head
  omega

/-- An operation that stores no character. -/
theorem FlushInv.uncollected {s : Flushed} {op : Op} {info : R56Struct} (inv : FlushInv s)
    (none : collected s.info op = 0)
    (discarded : Discarded info (s.unsent \ stores s.info op) s.stored s.held)
    (clean : Clean s op (s.after op info)) : s.Fine op info := by
  refine ⟨?_, clean⟩
  rw [none, max_stored inv.discarded]
  exact discarded

theorem FlushInv.clean_of_none {s : Flushed} {op : Op} {info : R56Struct} (inv : FlushInv s)
    (other : op ≠ .flushBuffer) (loads : info.xmit.loads = s.info.xmit.loads) : Clean s op (s.after op info) := by
  have none := loadsSince_nil loads
  refine inv.clean other ?_ ?_
  · rw [none]
    exact fun _ loaded => absurd loaded List.not_mem_nil
  · rw [none]
    exact fun _ loaded => absurd loaded List.not_mem_nil

theorem Thins.loads {s t : R56Struct} (thins : Thins s t) : t.xmit.loads = s.xmit.loads := by
  have same := congrArg Xmit.loads thins.frames
  exact same

theorem FlushInv.thins {s : Flushed} {op : Op} {info : R56Struct} (inv : FlushInv s) (other : op ≠ .flushBuffer)
    (none : collected s.info op = 0) (thins : Thins s.info info) : s.Fine op info :=
  inv.uncollected none ((inv.discarded.thins thins).mono Set.sdiff_subset) (inv.clean_of_none other thins.loads)

theorem FlushInv.putChar {s : Flushed} (inv : FlushInv s) (ch : U8) :
    s.Fine (.putChar ch) (r56PutChar s.info ch).1 := by
  by_cases took : (r56PutChar s.info ch).2 = true
  · have one : collected s.info (.putChar ch) = 1 := if_pos took
    unfold r56PutChar at took ⊢
    split at took
    · rename_i accepted
      rw [if_pos accepted]
      refine ⟨?_, inv.clean_of_none nofun rfl⟩
      rw [one]
      refine inv.discarded.collect rfl rfl rfl rfl (fun async => ?_) Set.sdiff_subset fun k bound here => ?_
      · have room := accepted.2.2
        omega
      · refine here.2 ⟨k, ?_, rfl⟩
        rw [one]
        exact bound
    · exact absurd took Bool.false_ne_true
  · have none : collected s.info (.putChar ch) = 0 := if_neg took
    have refused : (r56PutChar s.info ch).1 = s.info := by
      unfold r56PutChar at took ⊢
      split
      · rename_i accepted
        rw [if_pos accepted] at took
        exact absurd rfl took
      · rfl
    rw [refused]
    exact inv.thins nofun none (thins_kept.refl _)

/-- The copy loop of `r56_write` appends what it takes. -/
theorem writeAsync_appends (buf : Nat → U8) (fuel count : Nat) {info : R56Struct}
    (head : info.xmitHead < serialXmitSize) :
    let after := (writeAsync info fuel buf count).1
    let ret := (writeAsync info fuel buf count).2
    after.xmit.exceptChars = info.xmit.exceptChars ∧ after.xmitTail = info.xmitTail ∧
      after.xmitHead = (info.xmitHead + ret) % serialXmitSize ∧ after.xmitCnt = info.xmitCnt + ret := by
  induction fuel generalizing info buf count with
  | zero => exact ⟨rfl, rfl, (Nat.mod_eq_of_lt head).symm, rfl⟩
  | succ fuel ih =>
    unfold writeAsync
    dsimp only
    split
    · exact ⟨rfl, rfl, (Nat.mod_eq_of_lt head).symm, rfl⟩
    · generalize min count (min (serialXmitSize - info.xmitCnt - 1) (serialXmitSize - info.xmitHead)) = c
      obtain ⟨frames, tail, next, cnt⟩ := @ih (fun i => buf (i + c)) (count - c) { info with
          xmitBuf := Memory.blit info.xmitBuf info.xmitHead (Memory.read buf 0 c)
          xmitHead := (info.xmitHead + c) % serialXmitSize
          xmitCnt := info.xmitCnt + c } (Nat.mod_lt _ (by decide))
      refine ⟨frames, tail, next.trans ?_, cnt.trans ?_⟩
      · rw [Nat.mod_add_mod, Nat.add_assoc, Nat.add_comm c]
      · rw [Nat.add_assoc, Nat.add_comm c]

/-- Outside the frame oriented modes `r56_write` appends to the queue. -/
theorem FlushInv.write_async {s : Flushed} (inv : FlushInv s) (async : ¬s.info.synchronous)
    (buf : Nat → U8) (count : Nat) : s.Fine (.write buf count) (r56Write s.info buf count).1 := by
  have size : serialXmitSize = 4096 := rfl
  have took : collected s.info (.write buf count) = (r56Write s.info buf count).2 := if_neg async
  by_cases ptr : s.info.xmitBufPtr = true
  · have wrote : r56Write s.info buf count =
        (startIfIdle (writeAsync s.info (count + 1) buf count).1, (writeAsync s.info (count + 1) buf count).2) := by
      unfold r56Write
      rw [if_neg (not_not.mpr ptr), if_neg async]
    obtain ⟨ok, -⟩ := inv.discarded.queue async
    have returned := writeAsync_returned ok.head_lt buf (Nat.lt_succ_self count)
    obtain ⟨frames, tail, head, cnt⟩ := writeAsync_appends buf (count + 1) count ok.head_lt
    have room : s.info.xmitCnt ≤ serialXmitSize - 1 := ok.room
    rw [wrote] at took ⊢
    dsimp only at took ⊢
    generalize writeAsync s.info (count + 1) buf count = result at took returned frames tail head cnt
    have started := thins_kept.startIfIdle result.1
    have copied : result.1.xmit.loads = s.info.xmit.loads := by
      have same := congrArg Xmit.loads frames
      exact same
    have loads := started.loads.trans copied
    refine ⟨?_, inv.clean_of_none nofun loads⟩
    rw [took]
    have fewer : s.unsent \ stores s.info (.write buf count) ⊆ s.unsent := Set.sdiff_subset
    have appended := inv.discarded.collect frames head tail cnt (fun _ => by omega) fewer
    refine Discarded.thins (appended ?_) started
    intro k bound here
    refine here.2 ⟨k, ?_, rfl⟩
    rw [took]
    exact bound
  · have refused : r56Write s.info buf count = (s.info, 0) := by
      unfold r56Write
      rw [if_pos ptr]
    rw [refused] at took ⊢
    exact inv.thins nofun took (thins_kept.refl _)

theorem loadNextTxHoldingBuffer_unholds (info : R56Struct) :
    (loadNextTxHoldingBuffer info).1 = info ∨
      info.heldSize ≠ none ∧ info.txHoldingCount ≠ 0 ∧ (loadNextTxHoldingBuffer info).1.xmit = info.xmit.unhold := by
  unfold loadNextTxHoldingBuffer R56Struct.heldSize
  dsimp only
  split
  · rename_i taken
    exact .inr ⟨Option.some_ne_none _, taken.1, rfl⟩
  · exact .inl rfl

/-- A frame that is not out of a holding buffer is loaded in a frame oriented mode. -/
theorem FlushInv.load {s : Flushed} {op : Op} {loaded info : R56Struct} {source : TxSource} {frame : List U8}
    (inv : FlushInv s) (other : op ≠ .flushBuffer) (sync : s.info.synchronous) (none : collected s.info op = 0)
    (cnt : Nat) (load : loaded.xmit = { s.info.xmit with cnt := cnt }.load source frame) (started : Thins loaded info)
    (ring : source ≠ .holding) (fresh : source = .xmitBuf → ∀ i < frame.length, .char i ∉ s.unsent) :
    s.Fine op info := by
  have mode : loaded.params.mode = s.info.params.mode := congrArg Xmit.mode load
  have frames : loaded.xmit.Queued ∧ ∀ k, s.held ≤ k → k < loaded.xmit.holding →
      .frame (cell loaded.xmit.holders loaded.xmit.get k) ∉ s.unsent := by
    rw [load]
    exact ⟨⟨inv.discarded.queued.le, inv.discarded.queued.get, inv.discarded.queued.put⟩, inv.discarded.frames⟩
  have kept := inv.discarded.of_synchronous ((synchronous_of_mode mode).mpr sync) (congrArg Xmit.head load)
    frames.1 frames.2
  have loads : info.xmit.loads = s.info.xmit.loads ++ [(source, frame)] :=
    started.loads.trans (congrArg Xmit.loads load)
  refine inv.uncollected none ((kept.thins started).mono Set.sdiff_subset) (inv.clean other ?_ ?_)
  · rw [loadsSince_singleton loads]
    intro taken member i bound here
    obtain ⟨rfl, rfl⟩ := Prod.mk.inj (List.mem_singleton.mp member)
    exact fresh rfl i bound here.1
  · rw [loadsSince_singleton loads]
    intro taken member
    exact absurd (Prod.mk.inj (List.mem_singleton.mp member)).1.symm ring

/-- The collected characters are loaded. -/
theorem FlushInv.loadCollected {s : Flushed} {op : Op} {info : R56Struct} (inv : FlushInv s)
    (other : op ≠ .flushBuffer) (sync : s.info.synchronous) (none : collected s.info op = 0)
    (within : min s.info.xmitCnt s.reach ≤ s.stored) (started : Thins (loadXmitBuf s.info) info) : s.Fine op info := by
  refine inv.load other sync none s.info.xmitCnt rfl started nofun fun _ i bound here => ?_
  rw [Memory.length_read] at bound
  have reached := inv.reach i here
  exact inv.discarded.chars i (by omega) here

/-- The next frame held back is loaded, if there is room, in the state `ready`. -/
theorem FlushInv.unhold {s : Flushed} {op : Op} {ready loaded info : R56Struct} (inv : FlushInv s)
    (other : op ≠ .flushBuffer) (none : collected s.info op = 0)
    (prepared : Discarded ready (s.unsent \ stores s.info op) s.stored s.held)
    (sync : ready.synchronous) (loads : ready.xmit.loads = s.info.xmit.loads)
    (get : ready.getTxHoldingIndex = s.info.getTxHoldingIndex)
    (load : loaded = ready ∨ s.held = 0 ∧ ready.txHoldingCount ≠ 0 ∧ loaded.xmit = ready.xmit.unhold)
    (done : Thins loaded info) : s.Fine op info := by
  rcases load with rfl | ⟨empty, waiting, unheld⟩
  · exact inv.uncollected none (prepared.thins done) (inv.clean_of_none other (done.loads.trans loads))
  · rw [empty] at prepared
    obtain ⟨kept, fresh⟩ := prepared.unhold sync waiting unheld
    rw [← empty] at kept
    have appended : loaded.xmit.loads = ready.xmit.loads ++ [(.holding, (ready.xmit.buffers ready.xmit.get).frame)] :=
      congrArg Xmit.loads unheld
    have since := done.loads.trans appended
    rw [loads] at since
    refine inv.uncollected none (kept.thins done) (inv.clean other ?_ ?_)
    · rw [loadsSince_singleton since]
      intro taken member
      exact absurd (Prod.mk.inj (List.mem_singleton.mp member)).1 nofun
    · intro _ _
      rw [← get]
      exact fresh

/-- In a frame oriented mode `r56_write` holds the frame back, loads what is collected or loads the frame. -/
theorem FlushInv.write_sync {s : Flushed} (inv : FlushInv s) (sync : s.info.synchronous) (buf : Nat → U8)
    (count : Nat) (cond : Discards s (.write buf count)) :
    s.Fine (.write buf count) (r56Write s.info buf count).1 := by
  have none : collected s.info (.write buf count) = 0 := if_pos sync
  have refused (same : r56Write s.info buf count = (s.info, 0)) :
      s.Fine (.write buf count) (r56Write s.info buf count).1 := by
    rw [same]
    exact inv.thins nofun none (thins_kept.refl _)
  by_cases ptr : s.info.xmitBufPtr = true
  swap
  · refine refused ?_
    unfold r56Write
    rw [if_pos ptr]
  by_cases active : s.info.txActive = true
  · by_cases hdlc : s.info.params.mode = r56ModeHdlc
    · refine refused ?_
      unfold r56Write
      rw [if_neg (not_not.mpr ptr), if_pos sync, if_pos active, if_pos hdlc]
    by_cases full : s.info.txHoldingCount ≥ s.info.numTxHoldingBuffers
    · refine refused ?_
      unfold r56Write
      rw [if_neg (not_not.mpr ptr), if_pos sync, if_pos active, if_neg hdlc, if_pos full]
    have wrote : r56Write s.info buf count =
        ((loadNextTxHoldingBuffer (saveTxBufferRequest s.info buf count)).1, count) := by
      unfold r56Write
      rw [if_neg (not_not.mpr ptr), if_pos sync, if_pos active, if_neg hdlc, if_neg full]
    have room : s.info.txHoldingCount < s.info.numTxHoldingBuffers := Nat.lt_of_not_le full
    have holds : s.info.holdsWrite := ⟨ptr, sync, active, hdlc, room⟩
    have saved := saveTxBufferRequest_xmit buf count room
    have fewer : s.unsent \ stores s.info (.write buf count) ⊆ s.unsent := Set.sdiff_subset
    have prepared := inv.discarded.hold sync room buf count fewer fun here => here.2 ⟨⟨buf, count, rfl⟩, holds, rfl⟩
    have mode : (saveTxBufferRequest s.info buf count).params.mode = s.info.params.mode := congrArg Xmit.mode saved
    rw [wrote]
    have loads : (saveTxBufferRequest s.info buf count).xmit.loads = s.info.xmit.loads := by
      rw [saved]
      rfl
    refine inv.unhold nofun none prepared ((synchronous_of_mode mode).mpr sync) loads (congrArg Xmit.get saved) ?_
      (thins_kept.refl _)
    rcases loadNextTxHoldingBuffer_unholds (saveTxBufferRequest s.info buf count) with same | ⟨ready, waiting, unheld⟩
    · exact .inl same
    · exact .inr ⟨cond.1 ⟨holds, ready⟩, waiting, unheld⟩
  · by_cases out : s.info.params.flags &&& hdlcFlagHdlcLoopmode ≠ 0 ∧ ¬uscLoopmodeActive s.info = true
    · refine refused ?_
      unfold r56Write
      rw [if_neg (not_not.mpr ptr), if_pos sync, if_neg active, if_pos out]
    have inLoop : s.info.inLoop := fun mode => not_not.mp fun outside => out ⟨mode, outside⟩
    by_cases queued : s.info.xmitCnt ≠ 0
    · have flushed : r56Write s.info buf count = (startIfIdle (loadXmitBuf s.info), 0) := by
        unfold r56Write
        rw [if_neg (not_not.mpr ptr), if_pos sync, if_neg active, if_neg out, if_pos queued]
      have within := cond.2 sync ⟨ptr, Bool.eq_false_iff.mpr active, inLoop, queued⟩
      rw [flushed]
      exact inv.loadCollected nofun sync none within (thins_kept.startIfIdle _)
    · have accepted : r56Write s.info buf count =
          (startIfIdle (r56LoadTxDmaBuffer { s.info with xmitCnt := count } .write buf count), count) := by
        unfold r56Write
        rw [if_neg (not_not.mpr ptr), if_pos sync, if_neg active, if_neg out, if_neg queued]
      rw [accepted]
      exact inv.load nofun sync none count rfl (thins_kept.startIfIdle _) nofun nofun

/-- `r56_flush_chars` loads what is collected or starts the transmitter. -/
theorem FlushInv.flushChars {s : Flushed} (inv : FlushInv s) (cond : Discards s .flushChars) :
    s.Fine .flushChars (r56FlushChars s.info) := by
  have refused : s.Fine .flushChars s.info := inv.thins nofun rfl (thins_kept.refl _)
  unfold r56FlushChars
  split
  · exact refused
  rename_i accepted
  rw [not_or, not_or, not_not] at accepted
  obtain ⟨queued, stopped, ptr⟩ := accepted
  split
  · exact refused
  rename_i active
  split
  · rename_i sync
    have within := cond.2 sync ⟨ptr, Bool.eq_false_iff.mpr active, Bool.eq_false_iff.mpr stopped, queued⟩
    exact inv.loadCollected nofun sync rfl within (thins_kept.start _)
  · exact inv.thins nofun rfl (thins_kept.start _)

/-- The interrupt for the transmit DMA channel may load a holding buffer. -/
theorem FlushInv.interrupt {s : Flushed} (inv : FlushInv s) (report : UscReport)
    (fits : fitsMode s.info (.interrupt report)) (cond : Discards s (.interrupt report)) :
    s.Fine (.interrupt report) (r56Interrupt (s.info.reporting report)) := by
  by_cases dma : (s.info.reporting report).transmitDmaVector
  swap
  · exact inv.thins nofun rfl (thins_kept.interruptGiven s.info report fun vector => absurd vector dma)
  have sync : s.info.synchronous := by
    by_contra async
    simp only [fitsMode, if_neg async] at fits
    exact fits dma
  have served : serviceInterrupt (s.info.reporting report) = r56IsrTransmitDma (s.info.reporting report) := by
    unfold serviceInterrupt
    rw [if_neg (by rw [dma.1]; decide), if_pos dma.2]
  have done (t : R56Struct) : Thins t (scheduleBh (haltOnOverflow t)) :=
    (Thins.of_exceptReception (exceptReception_of_exceptChip (haltOnOverflow_frame t))).trans
      (.of_exceptReception (scheduleBh_frame _))
  show s.Fine (.interrupt report) (scheduleBh (haltOnOverflow (serviceInterrupt (s.info.reporting report))))
  rw [served]
  unfold r56IsrTransmitDma
  dsimp only
  split
  · rename_i ended
    generalize ready : ({ s.info.reporting report with
      usc := uscOutDmaReg (s.info.reporting report).usc .cdir (bit8 + bit0)
      txDmaBuffersUsed := (s.info.reporting report).txDmaBuffersUsed - 1 } : R56Struct) = counted
    have same : Thins s.info counted := by
      rw [← ready]
      exact .of_same rfl rfl
    have get : counted.getTxHoldingIndex = s.info.getTxHoldingIndex := by rw [← ready]; rfl
    have emptied : counted.heldSize ≠ none → unholds s.info (.interrupt report) := by
      rw [← ready]
      exact fun some => ⟨⟨dma, ended⟩, some⟩
    refine @FlushInv.unhold _ _ counted (loadNextTxHoldingBuffer counted).1 _ inv nofun rfl
      ((inv.discarded.thins same).mono Set.sdiff_subset) (same.synchronous.mpr sync) same.loads get ?_ ?_
    · rcases loadNextTxHoldingBuffer_unholds counted with kept | ⟨some, waiting, unheld⟩
      · exact .inl kept
      · exact .inr ⟨cond.1 (emptied some), waiting, unheld⟩
    · refine Thins.trans ?_ (done _)
      unfold txBufferDone
      dsimp only
      rw [ready]
      split
      · exact .of_same rfl rfl
      · exact thins_kept.refl _
  · refine inv.thins nofun rfl (Thins.trans ?_ (done _))
    exact .of_same rfl rfl

/-- Programming the chip empties the queue. -/
theorem r56ChangeParams_dropped {info : R56Struct} (attached : info.port.tty = true) :
    (r56ChangeParams info).xmit.exceptChars = info.xmit.exceptChars ∧ (r56ChangeParams info).Dropped := by
  unfold r56ChangeParams
  rw [if_neg (not_not.mpr attached)]
  dsimp only
  generalize changed : ({ info with
    serialSignals := _, params := _, timeout := _, port := _, readStatusMask := _,
    ignoreStatusMask := _ } : R56Struct) = s
  have same : s.xmit.exceptChars = info.xmit.exceptChars := by
    rw [← changed]
    rfl
  have frame := congrArg (·.xmit.exceptChars) (r56ProgramHw_frame s)
  have queue := r56ProgramHw_queue s
  exact ⟨Eq.trans frame same,
    congrArg XmitQueue.cnt queue, congrArg XmitQueue.head queue, congrArg XmitQueue.tail queue⟩

theorem Discarded.programmed {info : R56Struct} {unsent : Set TxPlace} {stored held : Nat}
    (inv : Discarded info unsent stored held) (attached : info.port.tty = true) (params : R56Params)
    (tty : TtyStruct) : Discarded (r56ChangeParams { info with params := params, tty := tty }) unsent stored held ∧
      (r56ChangeParams { info with params := params, tty := tty }).xmit.loads = info.xmit.loads := by
  obtain ⟨same, dropped⟩ := @r56ChangeParams_dropped { info with params := params, tty := tty } attached
  obtain ⟨le, get, put⟩ := inv.queued
  obtain ⟨queued, frames⟩ := Discarded.kept (s := { info with params := params, tty := tty }) ⟨le, get, put⟩
    inv.frames same
  obtain ⟨ok, none⟩ := dropped.queue
  refine ⟨⟨queued, ?_, inv.chars, frames, fun _ => ⟨ok, fun i holds => absurd holds (none i)⟩⟩, ?_⟩
  · exact dropped.head.trans_le (Nat.zero_le _)
  · have loads := congrArg Xmit.loads same
    exact loads

theorem FlushInv.programs {s : Flushed} {op : Op} {after : R56Struct} (inv : FlushInv s) (programs : op.programs)
    (ran : exec s.info op = some after) : s.Fine op after := by
  cases op with
  | setParams newParams =>
    cases ran
    obtain ⟨kept, loads⟩ := inv.discarded.programmed inv.attached newParams s.info.tty
    exact inv.uncollected rfl (kept.mono Set.sdiff_subset) (inv.clean_of_none nofun loads)
  | setTermios cCflag cIflag baudRate =>
    cases ran
    obtain ⟨kept, loads⟩ := inv.discarded.programmed inv.attached s.info.params
      { s.info.tty with cCflag := cCflag, cIflag := cIflag, baudRate := baudRate }
    have resumed := thins_kept.termios (r56ChangeParams { s.info with
      tty := { s.info.tty with cCflag := cCflag, cIflag := cIflag, baudRate := baudRate } }) s.info.tty.cCflag
    exact inv.uncollected rfl ((kept.thins resumed).mono Set.sdiff_subset)
      (inv.clean_of_none nofun (resumed.loads.trans loads))
  | _ => exact absurd programs id

theorem FlushInv.exec {s : Flushed} {op : Op} {after : R56Struct} (inv : FlushInv s) (other : op ≠ .flushBuffer)
    (fits : fitsMode s.info op) (cond : Discards s op) (ran : exec s.info op = some after) : s.Fine op after := by
  by_cases programs : op.programs
  · exact inv.programs programs ran
  cases op with
  | write buf count =>
    cases ran
    by_cases sync : s.info.synchronous
    · exact inv.write_sync sync buf count cond
    · exact inv.write_async sync buf count
  | putChar ch => cases ran; exact inv.putChar ch
  | flushChars => cases ran; exact inv.flushChars cond
  | interrupt report => cases ran; exact inv.interrupt report fits cond
  | _ => exact inv.thins other rfl (thins_kept.exec programs other id ran)

/-- What waits at a flush is unsent from then on; the queue holds none of it. -/
theorem FlushInv.flush {s : Flushed} (inv : FlushInv s) :
    FlushInv (s.after .flushBuffer (r56FlushBuffer s.info)) ∧
      Clean s .flushBuffer (s.after .flushBuffer (r56FlushBuffer s.info)) := by
  have dropped : (r56FlushBuffer s.info).Dropped := ⟨rfl, rfl, rfl⟩
  obtain ⟨ok, none⟩ := dropped.queue
  obtain ⟨le, get, put⟩ := inv.discarded.queued
  refine ⟨⟨inv.attached, ⟨⟨le, get, put⟩, Nat.le_refl 0, nofun, ?_, ?_⟩, inv.used_after rfl, inv.used⟩, ?_⟩
  · intro k late bound
    exact absurd bound (Nat.not_lt_of_le late)
  · exact fun _ => ⟨ok, fun i holds => absurd holds (none i)⟩
  · refine Set.disjoint_left.mpr fun place moved => ?_
    have loads : loadsSince s.info (r56FlushBuffer s.info) = [] := loadsSince_nil rfl
    cases place with
    | char i =>
      rcases moved with ⟨frame, loaded, -⟩ | ⟨-, k, grown, -⟩
      · exact absurd (loads ▸ loaded) List.not_mem_nil
      · exact absurd grown (by simp [Flushed.after, r56FlushBuffer])
    | frame slot =>
      obtain ⟨-, frame, loaded⟩ := moved
      exact absurd (loads ▸ loaded) List.not_mem_nil

/-- Step lemma: an operation that meets the condition takes nothing unsent. -/
theorem flushStep_inv {s t : Flushed} {op : Op} (inv : FlushInv s) (step : FlushStep s op t) (cond : Discards s op) :
    FlushInv t ∧ Clean s op t := by
  have ran := step.step.1
  have attached : t.info.port.tty = true := (congrArg Setup.tty (exec_exceptParams ran)).trans inv.attached
  by_cases flush : op = .flushBuffer
  · subst flush
    have same : t.info = r56FlushBuffer s.info := (Option.some.inj ran).symm
    have after := step.after
    rw [same] at after
    rw [after]
    exact inv.flush
  · have fine := inv.exec flush step.fits cond ran
    obtain ⟨-, unsent, stored, held, reach⟩ := s.after_other flush t.info
    have discarded := fine.1
    have clean := fine.2
    have used := inv.used_after ran
    rw [← unsent, ← stored, ← held, ← step.after] at discarded
    rw [← step.after] at clean used unsent reach
    refine ⟨⟨attached, discarded, used, fun i here => ?_⟩, clean⟩
    rw [unsent] at here
    rw [reach]
    exact inv.reach i here.1

/-- From an open port with nothing to send: in every run in which frames are loaded out of the holding buffers only
where none were held at the last flush, and out of `xmit_buf` only where they take no more of what was used at the last
flush than was stored to since, nothing is transmitted that a flush found unsent. -/
theorem flush_discards {info : R56Struct} (attached : info.port.tty = true) (none : info.txHoldingCount = 0)
    (start : info.getTxHoldingIndex = 0 ∧ info.putTxHoldingIndex = 0) (empty : info.Dropped)
    {run : List (Op × Flushed)} (steps : Run FlushStep { info := info } run)
    (discards : Run (fun s op _ => Discards s op) { info := info } run) : Run Clean { info := info } run := by
  have holding : info.xmit.holding = 0 := none
  have get : info.xmit.get = 0 := start.1
  have put : info.xmit.put = 0 := start.2
  have queued : info.xmit.Queued := by
    refine ⟨by omega, fun some => by omega, fun some => ?_⟩
    rw [put, get, holding]
    exact (cell_zero some).symm
  have inv : FlushInv { info := info } := by
    refine ⟨attached, ⟨queued, ?_, fun _ _ => Set.notMem_empty _, fun _ _ _ => Set.notMem_empty _, fun _ => ?_⟩,
      fun i here => absurd here (Set.notMem_empty _), fun i here => absurd here (Set.notMem_empty _)⟩
    · exact empty.head.trans_le (Nat.zero_le _)
    · exact ⟨empty.queue.1, fun _ _ => Set.notMem_empty _⟩
  have preserved : ∀ s op t, FlushInv s → FlushStep s op t ∧ Discards s op → FlushInv t ∧ Clean s op t :=
    fun s op t inv step => flushStep_inv inv step.1 step.2
  exact Run.steps_of_invariant preserved (run_and.mpr ⟨steps, discards⟩) inv

/-- In RAW mode two characters are collected and flushed, a third is collected and sent, and a frame held back behind it
is loaded when its buffer is empty. The second character is not sent. -/
theorem flush_discards_collected :
    let start : Flushed := { info := rawDevice }
    let first := start.after (.putChar 0x7e) (r56PutChar rawDevice 0x7e).1
    let second := first.after (.putChar 0x7f) (r56PutChar first.info 0x7f).1
    let flushed := second.after .flushBuffer (r56FlushBuffer second.info)
    let third := flushed.after (.putChar 0x55) (r56PutChar flushed.info 0x55).1
    let sending := third.after .flushChars (r56FlushChars third.info)
    let holding := sending.after (.write (fun _ => 0x56) 1) (r56Write sending.info (fun _ => 0x56) 1).1
    let emptied := holding.after (.interrupt txBufferEmptied) (r56Interrupt (holding.info.reporting txBufferEmptied))
    let run := [(Op.putChar 0x7e, first), (.putChar 0x7f, second), (.flushBuffer, flushed), (.putChar 0x55, third),
      (.flushChars, sending), (.write (fun _ => 0x56) 1, holding), (.interrupt txBufferEmptied, emptied)]
    Run Clean start run ∧ .char 1 ∈ emptied.unsent ∧
      emptied.info.history.loads = [(.xmitBuf, [0x55]), (.holding, [0x56])] := by
  intro start first second flushed third sending holding emptied run
  have steps : Run FlushStep start run := by
    refine ⟨⟨⟨rfl, nofun⟩, trivial, rfl⟩, ⟨⟨rfl, nofun⟩, trivial, rfl⟩, ⟨⟨rfl, nofun⟩, trivial, rfl⟩,
      ⟨⟨rfl, nofun⟩, trivial, rfl⟩, ⟨⟨rfl, nofun⟩, trivial, rfl⟩, ⟨⟨rfl, nofun⟩, trivial, rfl⟩,
      ⟨⟨rfl, nofun⟩, ?_, rfl⟩, trivial⟩
    decide
  have discards : Run (fun s op _ => Discards s op) start run := by
    refine ⟨⟨fun unholds => absurd unholds id, fun _ loads => absurd loads id⟩,
      ⟨fun unholds => absurd unholds id, fun _ loads => absurd loads id⟩,
      ⟨fun unholds => absurd unholds id, fun _ loads => absurd loads id⟩,
      ⟨fun unholds => absurd unholds id, fun _ loads => absurd loads id⟩,
      ⟨fun unholds => absurd unholds id, fun _ _ => ?_⟩, ⟨fun _ => ?_, fun _ loads => ?_⟩,
      ⟨fun _ => ?_, fun _ loads => absurd loads id⟩, trivial⟩
    · decide +kernel
    · decide +kernel
    · exact absurd loads.2.1 (by decide +kernel)
    · decide +kernel
  have clean := flush_discards (by decide) (by decide) (by decide) ⟨by decide, by decide, by decide⟩ steps discards
  have untouched {info : R56Struct} {op : Op} (none : collected info op = 0) : TxPlace.char 1 ∉ stores info op := by
    rintro ⟨k, bound, -⟩
    omega
  have waiting : TxPlace.char 1 ∈ second.waiting := by
    refine ⟨.inr ⟨0, by decide, by decide⟩, ?_⟩
    rintro (⟨frame, loaded, -⟩ | ⟨async, -⟩)
    · have none : loadsSince first.info second.info = [] := by decide
      exact absurd (none ▸ loaded) List.not_mem_nil
    · exact async (by decide)
  have elsewhere : TxPlace.char 1 ∉ stores flushed.info (.putChar 0x55) := by
    rintro ⟨k, bound, same⟩
    have one : collected flushed.info (.putChar 0x55) = 1 := by decide
    obtain rfl : k = 0 := by omega
    exact absurd same (by decide)
  refine ⟨clean, ⟨⟨⟨⟨waiting, elsewhere⟩, untouched rfl⟩, untouched ?_⟩, untouched rfl⟩, by decide +kernel⟩
  decide

/-- In RAW mode a frame is held back behind another and flushed. The end of the first loads it. -/
theorem flushed_frame_loaded :
    let start : Flushed := { info := rawDevice }
    let sending := start.after (.write (fun _ => 0x7e) 1) (r56Write rawDevice (fun _ => 0x7e) 1).1
    let holding := sending.after (.write (fun _ => 0x7f) 1) (r56Write sending.info (fun _ => 0x7f) 1).1
    let flushed := holding.after .flushBuffer (r56FlushBuffer holding.info)
    let emptied := flushed.after (.interrupt txBufferEmptied) (r56Interrupt (flushed.info.reporting txBufferEmptied))
    let run := [(Op.write (fun _ => 0x7e) 1, sending), (.write (fun _ => 0x7f) 1, holding), (.flushBuffer, flushed),
      (.interrupt txBufferEmptied, emptied)]
    rawDevice.port.tty = true ∧ rawDevice.txHoldingCount = 0 ∧ Run FlushStep start run ∧ ¬Run Clean start run := by
  intro start sending holding flushed emptied run
  have steps : Run FlushStep start run := by
    refine ⟨⟨⟨rfl, nofun⟩, trivial, rfl⟩, ⟨⟨rfl, nofun⟩, trivial, rfl⟩, ⟨⟨rfl, nofun⟩, trivial, rfl⟩,
      ⟨⟨rfl, nofun⟩, ?_, rfl⟩, trivial⟩
    decide
  refine ⟨by decide, by decide, steps, fun clean => ?_⟩
  have accepted : TxPlace.frame 0 ∈ stores sending.info (.write (fun _ => 0x7f) 1) :=
    ⟨⟨_, _, rfl⟩, by decide, by decide⟩
  have kept : TxPlace.frame 0 ∉ taken sending.info (.write (fun _ => 0x7f) 1) holding.info := by
    rintro ⟨-, frame, loaded⟩
    have none : loadsSince sending.info holding.info = [] := by decide
    exact absurd (none ▸ loaded) List.not_mem_nil
  have waiting : TxPlace.frame 0 ∈ holding.waiting := ⟨.inr accepted, kept⟩
  have unsent : TxPlace.frame 0 ∈ emptied.unsent := ⟨waiting, fun stored => nomatch stored.1⟩
  have moved : TxPlace.frame 0 ∈ taken flushed.info (.interrupt txBufferEmptied) emptied.info := by
    refine ⟨by decide, [0x7f], ?_⟩
    have loaded : loadsSince flushed.info emptied.info = [(.holding, [0x7f])] := by decide
    rw [loaded]
    exact List.mem_singleton_self _
  exact Set.disjoint_left.mp clean.2.2.2.1 moved unsent

end Route56
