import Route56.Primitives
import Route56.Xmit

namespace Route56

open CircularBuffer Transition

/-- The queue of bytes to be sent, the character that goes before them, and what was written to
the transmit FIFO. -/
@[ext] structure XmitQueue where
  buf : Nat → U8
  head : Nat
  tail : Nat
  cnt : Nat
  xChar : U8
  written : List U8

def R56Struct.xmitQueue (info : R56Struct) : XmitQueue where
  buf := info.xmitBuf
  head := info.xmitHead
  tail := info.xmitTail
  cnt := info.xmitCnt
  xChar := info.xChar
  written := info.history.txData

namespace XmitQueue

/-- The bytes waiting, oldest first. -/
def waiting (q : XmitQueue) : List U8 := queue q.buf serialXmitSize q.tail q.cnt

/-- The indices agree with the count. -/
structure Ok (q : XmitQueue) : Prop where
  room : q.cnt ≤ serialXmitSize - 1
  tail : q.tail < serialXmitSize
  head : q.head = cell serialXmitSize q.tail q.cnt

def flushed (q : XmitQueue) : XmitQueue := { q with head := 0, tail := 0, cnt := 0 }

/-- One character is put. -/
def put (q : XmitQueue) (ch : U8) : XmitQueue :=
  { q with buf := Function.update q.buf q.head ch, head := (q.head + 1) % serialXmitSize, cnt := q.cnt + 1 }

/-- What one pass of the copy loop of `r56_write` may take of `count` bytes. -/
def chunkSize (q : XmitQueue) (count : Nat) : Nat :=
  min count (min (serialXmitSize - q.cnt - 1) (serialXmitSize - q.head))

/-- `c` bytes are copied. -/
def chunk (q : XmitQueue) (buf : Nat → U8) (c : Nat) : XmitQueue :=
  { q with
    buf := Memory.blit q.buf q.head (Memory.read buf 0 c), head := (q.head + c) % serialXmitSize, cnt := q.cnt + c }

/-- The data bytes one pass of the loop of `usc_load_txfifo` writes. -/
def loaded (q : XmitQueue) (fifocount : Nat) : List U8 :=
  if q.cnt > 1 ∧ fifocount > 1 ∧ q.xChar = 0 then [q.buf q.tail, q.buf ((q.tail + 1) % serialXmitSize)]
  else if q.xChar ≠ 0 then []
  else [q.buf q.tail]

/-- The queue after the pass. -/
def load (q : XmitQueue) (fifocount : Nat) : XmitQueue :=
  { q with
    tail := if q.loaded fifocount = [] then q.tail else cell serialXmitSize q.tail (q.loaded fifocount).length
    cnt := q.cnt - (q.loaded fifocount).length
    xChar := 0
    written := q.written ++ (if q.xChar ≠ 0 then [q.xChar] else []) ++ q.loaded fifocount }

theorem Ok.flushed (q : XmitQueue) : q.flushed.Ok := by
  refine ⟨Nat.zero_le _, ?_, rfl⟩
  show 0 < serialXmitSize
  decide

theorem Ok.put {q : XmitQueue} (ok : q.Ok) (room : q.cnt < serialXmitSize - 1) (ch : U8) :
    (q.put ch).Ok ∧ (q.put ch).waiting = q.waiting ++ [ch] := by
  have some : 0 < serialXmitSize := by decide
  have size : serialXmitSize = 4096 := rfl
  have head : (q.put ch).head = cell serialXmitSize q.tail (q.cnt + 1) := by
    show (q.head + 1) % serialXmitSize = _
    rw [ok.head]
    exact cell_cell serialXmitSize q.tail q.cnt 1
  refine ⟨⟨?_, ok.tail, head⟩, ?_⟩
  · show q.cnt + 1 ≤ serialXmitSize - 1
    omega
  · have pushed := queue_push (f := q.buf) (c := q.tail) (k := q.cnt) (n := serialXmitSize) (by omega) ch
    rw [← ok.head] at pushed
    exact pushed

theorem getElem_queue {α : Type*} {f : Nat → α} {n c k i : Nat} (h : i < (queue f n c k).length) :
    (queue f n c k)[i] = f (cell n c i) := by
  simp [queue]

/-- A block written into the free cells after the last one, without wrapping, is appended. -/
theorem queue_blit {f : Nat → U8} {n c k : Nat} (src : List U8) (room : k + src.length < n)
    (straight : cell n c k + src.length ≤ n) :
    queue (Memory.blit f (cell n c k) src) n c (k + src.length) = queue f n c k ++ src := by
  have some : 0 < n := by omega
  -- cell `k + j` is `j` cells after cell `k` as long as there is no wrap
  have after {j : Nat} (inside : j < src.length) : cell n c (k + j) = cell n c k + j := by
    rw [← cell_cell]
    exact Nat.mod_eq_of_lt (by omega)
  refine List.ext_getElem (by simp) fun i hi _ => ?_
  have bound : i < k + src.length := by simpa using hi
  rw [List.getElem_append]
  rw [getElem_queue]
  split
  · rename_i old
    have old : i < k := by simpa using old
    rw [getElem_queue]
    unfold Memory.blit
    rw [dif_neg]
    rintro ⟨above, below⟩
    obtain ⟨j, at_⟩ : ∃ j, cell n c i = cell n c k + j := ⟨cell n c i - cell n c k, by omega⟩
    have inside : j < src.length := by omega
    have same := (cell_inj (c := c) (by omega) (by omega)).mp (at_.trans (after inside).symm)
    omega
  · rename_i new
    have new : k ≤ i := by simpa using new
    have place : cell n c i = cell n c k + (i - k) := by
      rw [← after (by omega), Nat.add_sub_cancel' new]
    unfold Memory.blit
    rw [dif_pos (by omega)]
    simp only [place, Nat.add_sub_cancel_left, length_queue]

theorem Ok.chunk {q : XmitQueue} (ok : q.Ok) (buf : Nat → U8) {c : Nat} (room : q.cnt + c < serialXmitSize)
    (straight : q.head + c ≤ serialXmitSize) :
    (q.chunk buf c).Ok ∧ (q.chunk buf c).waiting = q.waiting ++ Memory.read buf 0 c := by
  have size : serialXmitSize = 4096 := rfl
  have head : (q.chunk buf c).head = cell serialXmitSize q.tail (q.cnt + c) := by
    show (q.head + c) % serialXmitSize = _
    rw [ok.head]
    exact cell_cell serialXmitSize q.tail q.cnt c
  refine ⟨⟨?_, ok.tail, head⟩, ?_⟩
  · show q.cnt + c ≤ serialXmitSize - 1
    omega
  · have length : (Memory.read buf 0 c).length = c := Memory.length_read _ _ _
    have appended := queue_blit (f := q.buf) (n := serialXmitSize) (c := q.tail) (k := q.cnt) (Memory.read buf 0 c)
      (by rw [length]; exact room) (by rw [length, ← ok.head]; exact straight)
    rw [length, ← ok.head] at appended
    exact appended

theorem Ok.load_tail {q : XmitQueue} (ok : q.Ok) (fifocount : Nat) :
    (q.load fifocount).tail = cell serialXmitSize q.tail (q.loaded fifocount).length := by
  show (if q.loaded fifocount = [] then q.tail else cell serialXmitSize q.tail _) = _
  split
  · rename_i nothing
    rw [nothing]
    exact (cell_zero ok.tail).symm
  · rfl

/-- The bytes a pass writes are the first that wait. -/
theorem Ok.load {q : XmitQueue} (ok : q.Ok) {fifocount : Nat} (some : q.cnt ≠ 0) :
    (q.load fifocount).Ok ∧ q.waiting = q.loaded fifocount ++ (q.load fifocount).waiting := by
  have length : (q.loaded fifocount).length ≤ q.cnt := by
    unfold loaded
    split
    · rename_i word
      exact word.1
    · split
      · exact Nat.zero_le _
      · exact Nat.pos_of_ne_zero some
  have head : (q.load fifocount).head = cell serialXmitSize (q.load fifocount).tail (q.load fifocount).cnt := by
    rw [ok.load_tail]
    show q.head = cell serialXmitSize (cell serialXmitSize q.tail _) (q.cnt - _)
    rw [cell_cell, Nat.add_sub_cancel' length]
    exact ok.head
  have tail : (q.load fifocount).tail < serialXmitSize := by
    rw [ok.load_tail]
    exact cell_lt (by decide)
  refine ⟨⟨(Nat.sub_le _ _).trans ok.room, tail, head⟩, ?_⟩
  have pop (k : Nat) : queue q.buf serialXmitSize q.tail (k + 1) =
      q.buf q.tail :: queue q.buf serialXmitSize (cell serialXmitSize q.tail 1) k := by
    rw [← next_eq_cell ok.tail]
    exact queue_pop k ok.tail
  unfold waiting
  rw [ok.load_tail]
  unfold XmitQueue.load loaded
  dsimp only
  split
  · rename_i word
    obtain ⟨k, count⟩ : ∃ k, q.cnt = k + 2 := ⟨q.cnt - 2, by omega⟩
    have second := queue_pop (f := q.buf) k (cell_lt (n := serialXmitSize) (c := q.tail) (o := 1) (by decide))
    rw [next_cell (by decide)] at second
    show queue q.buf serialXmitSize q.tail q.cnt =
      _ :: _ :: queue q.buf serialXmitSize (cell serialXmitSize q.tail 2) (q.cnt - 2)
    rw [count, pop, second]
    rfl
  · split
    · show queue q.buf serialXmitSize q.tail q.cnt = queue q.buf serialXmitSize (cell serialXmitSize q.tail 0) q.cnt
      rw [cell_zero ok.tail]
    · obtain ⟨k, count⟩ : ∃ k, q.cnt = k + 1 := ⟨q.cnt - 1, by omega⟩
      show queue q.buf serialXmitSize q.tail q.cnt =
        _ :: queue q.buf serialXmitSize (cell serialXmitSize q.tail 1) (q.cnt - 1)
      rw [count, pop]
      rfl

/-- The loop over the room found at each reading. -/
def loads : List Nat → XmitQueue → XmitQueue
  | [], q => q
  | fifocount :: readings, q =>
    if fifocount ≠ 0 ∧ q.cnt ≠ 0 then loads readings (q.load fifocount) else q

/-- What left the queue for the FIFO. The priority character goes first and is not data. -/
def dataWritten (q after : XmitQueue) : List U8 :=
  let grown := after.written.drop q.written.length
  if q.xChar ≠ 0 then grown.tail else grown

/-- Some filling of the FIFO. -/
def Drains (q after : XmitQueue) : Prop := ∃ readings, after = q.loads readings

theorem Drains.refl (q : XmitQueue) : q.Drains q := ⟨[], rfl⟩

/-- Everything written is the priority character, if there is one, and the bytes that waited longest. -/
theorem Ok.loads {q : XmitQueue} (ok : q.Ok) (readings : List Nat) :
    (q.loads readings).Ok ∧ ∃ first data,
      (q.loads readings).written = q.written ++ first ++ data ∧
      q.waiting = data ++ (q.loads readings).waiting ∧
      (q.xChar = 0 → first = []) ∧
      (q.xChar ≠ 0 → first = [q.xChar] ∨ first = [] ∧ data = []) := by
  induction readings generalizing q with
  | nil => exact ⟨ok, [], [], by simp [XmitQueue.loads], rfl, fun _ => rfl, fun _ => .inr ⟨rfl, rfl⟩⟩
  | cons fifocount readings ih =>
    unfold XmitQueue.loads
    split
    · rename_i room
      obtain ⟨next, popped⟩ := @Ok.load _ ok fifocount room.2
      obtain ⟨ends, first, data, written, waiting, clear, _⟩ := ih next
      have none : first = [] := clear rfl
      refine ⟨ends, if q.xChar ≠ 0 then [q.xChar] else [], q.loaded fifocount ++ data, ?_, ?_, ?_, ?_⟩
      · rw [written, none]
        simp only [XmitQueue.load, List.append_assoc, List.nil_append]
      · rw [popped, waiting, List.append_assoc]
      · intro clear
        rw [if_neg (not_not.mpr clear)]
      · intro pending
        rw [if_pos pending]
        exact .inl rfl
    · exact ⟨ok, [], [], by simp, rfl, fun _ => rfl, fun _ => .inr ⟨rfl, rfl⟩⟩

theorem Drains.conserves {q after : XmitQueue} (drained : q.Drains after) (ok : q.Ok) :
    after.Ok ∧ q.waiting = q.dataWritten after ++ after.waiting ∧
      (after.written = q.written ++ q.dataWritten after ∨
        q.xChar ≠ 0 ∧ after.written = q.written ++ [q.xChar] ++ q.dataWritten after) := by
  obtain ⟨readings, rfl⟩ := drained
  obtain ⟨ends, first, data, written, waiting, clear, pending⟩ := ok.loads readings
  have grown : (q.loads readings).written.drop q.written.length = first ++ data := by
    rw [written, List.append_assoc, List.drop_left]
  have same : q.dataWritten (q.loads readings) = data := by
    unfold dataWritten
    dsimp only
    rw [grown]
    split
    · rename_i some
      rcases pending some with rfl | ⟨rfl, rfl⟩
      · rfl
      · rfl
    · rename_i none
      rw [clear (not_not.mp none)]
      rfl
  rw [same]
  refine ⟨ends, waiting, ?_⟩
  by_cases some : q.xChar = 0
  · left
    rw [written, clear some, List.append_nil]
  · rcases pending some with rfl | ⟨rfl, rfl⟩
    · exact .inr ⟨some, written⟩
    · left
      rw [written, List.append_nil]

end XmitQueue

theorem loadTxfifoStep_queue (info : R56Struct) (fifocount : Nat) :
    (loadTxfifoStep info fifocount).xmitQueue = info.xmitQueue.load fifocount := by
  have next (i k : Nat) : (i % serialXmitSize + k) % serialXmitSize = (i + k) % serialXmitSize := Nat.mod_add_mod _ _ _
  unfold loadTxfifoStep XmitQueue.load XmitQueue.loaded R56Struct.xmitQueue
  dsimp only
  split
  · rename_i word
    simp only [word.2.2, next, Nat.add_assoc, CircularBuffer.cell]
    simp
  · split
    · simp
    · rename_i single
      simp [not_not.mp single, CircularBuffer.cell]

theorem loadTxfifoLoop_queue (readings : List Nat) (info : R56Struct) :
    (loadTxfifoLoop readings info).xmitQueue = info.xmitQueue.loads readings := by
  induction readings generalizing info with
  | nil => rfl
  | cons fifocount readings ih =>
    unfold loadTxfifoLoop XmitQueue.loads
    have same : info.xmitQueue.cnt = info.xmitCnt := rfl
    rw [same]
    split
    · rw [ih, loadTxfifoStep_queue]
    · rfl

theorem uscLoadTxfifo_drains (info : R56Struct) : info.xmitQueue.Drains (uscLoadTxfifo info).xmitQueue := by
  unfold uscLoadTxfifo
  split
  · exact .refl _
  · exact ⟨info.usc.txFifo, loadTxfifoLoop_queue _ _⟩

/-- What each pass of `usc_load_txfifo` writes fits in the room it read. -/
def LoadsWithinRoom (info : R56Struct) : Prop :=
  ∃ parts : List (List U8), (uscLoadTxfifo info).history.txData = info.history.txData ++ parts.flatten ∧
    List.Forall₂ (fun part fifocount => part.length ≤ fifocount) parts (info.usc.txFifo.take parts.length)

theorem loadTxfifoStep_room (info : R56Struct) {fifocount : Nat} (some : fifocount ≠ 0) :
    ∃ part : List U8, (loadTxfifoStep info fifocount).history.txData = info.history.txData ++ part ∧
      part.length ≤ fifocount := by
  have one : 1 ≤ fifocount := Nat.pos_of_ne_zero some
  unfold loadTxfifoStep
  dsimp only
  split
  · rename_i word
    exact ⟨_, rfl, word.2.1⟩
  · split
    · exact ⟨_, rfl, one⟩
    · exact ⟨_, rfl, one⟩

theorem uscLoadTxfifo_room (info : R56Struct) : LoadsWithinRoom info := by
  have loop : ∀ (readings : List Nat) (info : R56Struct), ∃ parts : List (List U8),
      (loadTxfifoLoop readings info).history.txData = info.history.txData ++ parts.flatten ∧
      List.Forall₂ (fun part fifocount => part.length ≤ fifocount) parts (readings.take parts.length) := by
    intro readings
    induction readings with
    | nil => exact fun info => ⟨[], (List.append_nil _).symm, .nil⟩
    | cons fifocount readings ih =>
      intro info
      unfold loadTxfifoLoop
      split
      · rename_i room
        obtain ⟨part, wrote, fits⟩ := loadTxfifoStep_room info room.1
        obtain ⟨parts, later, within⟩ := ih (loadTxfifoStep info fifocount)
        refine ⟨part :: parts, ?_, .cons fits within⟩
        rw [later, wrote, List.flatten_cons, List.append_assoc]
      · exact ⟨[], (List.append_nil _).symm, .nil⟩
  unfold LoadsWithinRoom uscLoadTxfifo
  split
  · exact ⟨[], (List.append_nil _).symm, .nil⟩
  · exact loop info.usc.txFifo _

theorem uscStartTransmitter_drains {info : R56Struct} (async : info.params.mode = r56ModeAsync) :
    info.xmitQueue.Drains (uscStartTransmitter info).xmitQueue := by
  have kept : KeptPrepare fun s t => t.xmitQueue = s.xmitQueue :=
    ⟨fun _ => rfl, fun first second => second.trans first, fun _ _ => rfl, fun _ => rfl, fun _ => rfl,
      fun _ _ => rfl, fun _ => rfl, fun _ => rfl, fun _ _ => rfl⟩
  have prepared := kept.prepare info
  have mode : (ignoreEcho (assertAutoRts info)).params.mode = r56ModeAsync :=
    (congrArg (·.params.mode) (prepareXmit_frame info)).trans async
  unfold uscStartTransmitter
  rw [kept.enableIfDisabled]
  split
  · show info.xmitQueue.Drains (feedTransmitter (ignoreEcho (assertAutoRts info))).xmitQueue
    unfold feedTransmitter startAsyncTransmitter
    rw [if_pos mode, ← prepared]
    split
    · exact .refl _
    · exact uscLoadTxfifo_drains _
  · exact .refl _

theorem startIfIdle_drains {info : R56Struct} (async : info.params.mode = r56ModeAsync) :
    info.xmitQueue.Drains (startIfIdle info).xmitQueue := by
  unfold startIfIdle
  split
  · split
    · exact .refl _
    · exact uscStartTransmitter_drains async
  · exact .refl _

theorem r56Start_drains {info : R56Struct} (async : info.params.mode = r56ModeAsync) :
    info.xmitQueue.Drains (r56Start info).xmitQueue := by
  unfold r56Start
  split
  · exact .refl _
  · exact uscStartTransmitter_drains async

theorem r56Stop_queue (info : R56Struct) : (r56Stop info).xmitQueue = info.xmitQueue := by
  unfold r56Stop
  split
  · rfl
  · rfl

theorem r56FlushChars_drains {info : R56Struct} (async : info.params.mode = r56ModeAsync) :
    info.xmitQueue.Drains (r56FlushChars info).xmitQueue := by
  have chars : ¬info.synchronous := fun sync => not_async_of_synchronous sync async
  unfold r56FlushChars
  rw [if_neg chars]
  split
  · exact .refl _
  split
  · exact .refl _
  · exact uscStartTransmitter_drains async

theorem r56SendXchar_drains {info : R56Struct} (async : info.params.mode = r56ModeAsync) (ch : U8) :
    { info.xmitQueue with xChar := ch }.Drains (r56SendXchar info ch).xmitQueue := by
  have started := @uscStartTransmitter_drains { info with xChar := ch } async
  unfold r56SendXchar
  dsimp only
  split
  · exact started
  · exact .refl _

theorem r56IsrTransmitData_drains (info : R56Struct) : info.xmitQueue.Drains (r56IsrTransmitData info).xmitQueue := by
  have fed := uscLoadTxfifo_drains { info with usc := uscClearIrqPendingBits info.usc transmitData }
  have continued : info.xmitQueue.Drains
      (continueAsync { info with usc := uscClearIrqPendingBits info.usc transmitData }).xmitQueue := by
    unfold continueAsync
    split
    · exact fed
    · exact .refl _
  unfold r56IsrTransmitData
  dsimp only
  split
  · exact .refl _
  split
  · exact continued
  · exact continued

theorem r56Interrupt_queue {info : R56Struct} {report : UscReport} (data : (info.reporting report).uscVector = 3) :
    (r56Interrupt (info.reporting report)).xmitQueue = (r56IsrTransmitData (info.reporting report)).xmitQueue := by
  have halted (s : R56Struct) : (haltOnOverflow s).xmitQueue = s.xmitQueue := by
    unfold haltOnOverflow
    split
    · rfl
    · rfl
  have scheduled (s : R56Struct) : (scheduleBh s).xmitQueue = s.xmitQueue := by
    unfold scheduleBh
    split
    · rfl
    · rfl
  have served : serviceInterrupt (info.reporting report) = r56IsrTransmitData (info.reporting report) := by
    unfold serviceInterrupt
    rw [data]
    rfl
  unfold r56Interrupt
  rw [scheduled, halted, served]

/-- The interrupt for room in the transmit FIFO. -/
theorem r56Interrupt_drains {info : R56Struct} {report : UscReport}
    (data : (info.reporting report).uscVector = 3) :
    info.xmitQueue.Drains (r56Interrupt (info.reporting report)).xmitQueue := by
  rw [r56Interrupt_queue data]
  exact r56IsrTransmitData_drains (info.reporting report)

/-- The number of bytes the copy loop of `r56_write` takes. -/
theorem writeAsync_returned {info : R56Struct} (head : info.xmitHead < serialXmitSize) {fuel count : Nat}
    (buf : Nat → U8) (enough : count < fuel) :
    (writeAsync info fuel buf count).2 = min count (serialXmitSize - 1 - info.xmitCnt) := by
  induction fuel generalizing info buf count with
  | zero => exact absurd enough (Nat.not_lt_zero _)
  | succ fuel ih =>
    unfold writeAsync
    dsimp only
    generalize taken : min count (min (serialXmitSize - info.xmitCnt - 1) (serialXmitSize - info.xmitHead)) = c
    split
    · show 0 = _
      omega
    · have rest := @ih { info with
          xmitBuf := Memory.blit info.xmitBuf info.xmitHead (Memory.read buf 0 c)
          xmitHead := (info.xmitHead + c) % serialXmitSize
          xmitCnt := info.xmitCnt + c } (Nat.mod_lt _ (by decide)) (count - c) (fun i => buf (i + c)) (by omega)
      show (writeAsync _ fuel _ _).2 + c = _
      rw [rest]
      show min (count - c) (serialXmitSize - 1 - (info.xmitCnt + c)) + c = _
      omega

theorem XmitQueue.Ok.head_lt {info : R56Struct} (ok : info.xmitQueue.Ok) : info.xmitHead < serialXmitSize := by
  have head : info.xmitHead = cell serialXmitSize info.xmitTail info.xmitCnt := ok.head
  rw [head]
  exact cell_lt (by decide)

/-- Where the bytes the copy loop takes go. -/
theorem writeAsync_queue {info : R56Struct} (ok : info.xmitQueue.Ok) (fuel count : Nat) (buf : Nat → U8) :
    (writeAsync info fuel buf count).1.xmitQueue.Ok ∧
    (writeAsync info fuel buf count).1.xmitQueue.waiting =
      info.xmitQueue.waiting ++ Memory.read buf 0 (writeAsync info fuel buf count).2 ∧
    (writeAsync info fuel buf count).1.xmitQueue.written = info.xmitQueue.written ∧
    (writeAsync info fuel buf count).1.xmitQueue.xChar = info.xmitQueue.xChar := by
  have size : serialXmitSize = 4096 := rfl
  induction fuel generalizing info buf count with
  | zero => exact ⟨ok, (List.append_nil _).symm, rfl, rfl⟩
  | succ fuel ih =>
    have head := ok.head_lt
    unfold writeAsync
    dsimp only
    generalize taken : min count (min (serialXmitSize - info.xmitCnt - 1) (serialXmitSize - info.xmitHead)) = c
    split
    · exact ⟨ok, (List.append_nil _).symm, rfl, rfl⟩
    · rename_i some
      obtain ⟨chunked, appended⟩ := ok.chunk buf (c := c)
        (by show info.xmitCnt + c < serialXmitSize; omega) (by show info.xmitHead + c ≤ serialXmitSize; omega)
      have rest := @ih { info with
          xmitBuf := Memory.blit info.xmitBuf info.xmitHead (Memory.read buf 0 c)
          xmitHead := (info.xmitHead + c) % serialXmitSize
          xmitCnt := info.xmitCnt + c } chunked (count - c) (fun i => buf (i + c))
      generalize writeAsync _ fuel (fun i => buf (i + c)) (count - c) = result at rest ⊢
      obtain ⟨ends, waiting, written, xChar⟩ := rest
      refine ⟨ends, ?_, written, xChar⟩
      show result.1.xmitQueue.waiting = _ ++ Memory.read buf 0 (result.2 + c)
      have first : R56Struct.xmitQueue { info with
          xmitBuf := Memory.blit info.xmitBuf info.xmitHead (Memory.read buf 0 c)
          xmitHead := (info.xmitHead + c) % serialXmitSize
          xmitCnt := info.xmitCnt + c } = info.xmitQueue.chunk buf c := rfl
      rw [waiting, Memory.read_shift, Nat.add_comm result.2, Memory.read_add, Nat.zero_add, ← List.append_assoc,
        first, appended]

theorem r56Write_queue {info : R56Struct} (async : info.params.mode = r56ModeAsync) (buffer : info.xmitBufPtr = true)
    (ok : info.xmitQueue.Ok) (buf : Nat → U8) (count : Nat) :
    (r56Write info buf count).2 = min count (serialXmitSize - 1 - info.xmitCnt) ∧
    ∃ filled : XmitQueue, filled.Ok ∧
      filled.waiting = info.xmitQueue.waiting ++ Memory.read buf 0 (r56Write info buf count).2 ∧
      filled.written = info.xmitQueue.written ∧ filled.xChar = info.xmitQueue.xChar ∧
      filled.Drains (r56Write info buf count).1.xmitQueue := by
  have chars : ¬info.synchronous := fun sync => not_async_of_synchronous sync async
  have mode : (writeAsync info (count + 1) buf count).1.params.mode = r56ModeAsync :=
    (congrArg (·.params.mode) (setup_kept.writeAsync buf (count + 1) count info chars)).trans async
  have returned := writeAsync_returned ok.head_lt buf (Nat.lt_succ_self count)
  obtain ⟨filled, waiting, written, xChar⟩ := writeAsync_queue ok (count + 1) count buf
  unfold r56Write
  rw [if_neg (not_not.mpr buffer), if_neg chars]
  exact ⟨returned, _, filled, waiting, written, xChar, startIfIdle_drains mode⟩

theorem r56PutChar_queue {info : R56Struct} (ok : info.xmitQueue.Ok) (ch : U8) :
    (r56PutChar info ch).1.xmitQueue.Ok ∧
    (r56PutChar info ch).1.xmitQueue.waiting =
      info.xmitQueue.waiting ++ (if (r56PutChar info ch).2 then [ch] else []) ∧
    (r56PutChar info ch).1.xmitQueue.written = info.xmitQueue.written := by
  unfold r56PutChar
  split
  · rename_i accepted
    obtain ⟨put, appended⟩ := ok.put accepted.2.2 ch
    exact ⟨put, appended, rfl⟩
  · exact ⟨ok, (List.append_nil _).symm, rfl⟩

/-- Where a call of `r56_write` is: in its copy loop with the bytes not copied yet, behind the
loop, or about to take the lock to start the transmitter. -/
inductive AsyncCall
  | none
  | copying (buf : Nat → U8) (count : Nat)
  | copied
  | starting

/-- The driver with what it has accepted and what of that it has written to the FIFO since the
send buffer was last flushed. -/
structure AsyncState where
  info : R56Struct
  call : AsyncCall := .none
  accepted : List U8 := []
  sent : List U8 := []

/-- What happens. `write` is a call of `r56_write` with nothing in between; the next four are the
parts of one, each under the lock. `interrupt` is the one for room in the transmit FIFO; `fifo`
is what the chip answers when the driver next asks for that room. -/
inductive AsyncEvent
  | write (buf : Nat → U8) (count : Nat)
  | enter (buf : Nat → U8) (count : Nat)
  | copy
  | check
  | begin
  | putChar (ch : U8)
  | flushChars
  | flushBuffer
  | stop
  | start
  | sendXchar (ch : U8)
  | flow (stopped hwStopped : Bool)
  | interrupt (report : UscReport)
  | fifo (readings : List Nat)

/-- The driver goes on to `after`, having accepted `data`. -/
def AsyncState.goes (s : AsyncState) (after : R56Struct) (data : List U8) : AsyncState :=
  { s with
    info := after
    accepted := s.accepted ++ data
    sent := s.sent ++ s.info.xmitQueue.dataWritten after.xmitQueue }

/-- One pass of the copy loop of `r56_write`, or its end. -/
def AsyncState.copyPass (s : AsyncState) (buf : Nat → U8) (count : Nat) : AsyncState :=
  let c := s.info.xmitQueue.chunkSize count
  if c = 0 then { s with call := .copied }
  else
    { s.goes (writeAsync s.info 1 buf count).1 (Memory.read buf 0 (writeAsync s.info 1 buf count).2) with
      call := .copying (fun i => buf (i + c)) (count - c) }

/-- The steps while the port is in asynchronous mode. -/
def AsyncStep (s : AsyncState) (e : AsyncEvent) (t : AsyncState) : Prop :=
  match e with
  | .write buf count =>
    t = s.goes (r56Write s.info buf count).1 (Memory.read buf 0 (r56Write s.info buf count).2)
  | .enter buf count => s.call = .none ∧ s.info.xmitBufPtr = true ∧ t = { s with call := .copying buf count }
  | .copy => ∃ buf count, s.call = .copying buf count ∧ t = s.copyPass buf count
  | .check => s.call = .copied ∧
    t = { s with call := if s.info.xmitCnt ≠ 0 ∧ ¬s.info.ttyStopped then .starting else .none }
  | .begin => s.call = .starting ∧
    t = { s.goes (if s.info.txActive then s.info else uscStartTransmitter s.info) [] with call := .none }
  | .putChar ch => t = s.goes (r56PutChar s.info ch).1 (if (r56PutChar s.info ch).2 then [ch] else [])
  | .flushChars => t = s.goes (r56FlushChars s.info) []
  | .flushBuffer => t = { s with info := r56FlushBuffer s.info, accepted := [], sent := [] }
  | .stop => t = s.goes (r56Stop s.info) []
  | .start => t = s.goes (r56Start s.info) []
  | .sendXchar ch =>
    t = { s with
      info := r56SendXchar s.info ch
      sent := s.sent ++ { s.info.xmitQueue with xChar := ch }.dataWritten (r56SendXchar s.info ch).xmitQueue }
  | .flow stopped hwStopped =>
    t = s.goes { s.info with tty := { s.info.tty with stopped := stopped, hwStopped := hwStopped } } []
  | .interrupt report => (s.info.reporting report).uscVector = 3 ∧ t = s.goes (r56Interrupt (s.info.reporting report)) []
  | .fifo readings => t = s.goes { s.info with usc := { s.info.usc with txFifo := readings } } []

/-- What every state of a run satisfies. -/
structure AsyncState.Lawful (s : AsyncState) : Prop where
  mode : s.info.params.mode = r56ModeAsync
  buffer : s.info.xmitBufPtr = true
  ok : s.info.xmitQueue.Ok
  conserved : s.accepted = s.sent ++ s.info.xmitQueue.waiting

/-- The FIFO got `data` and, before that, the priority character `pending` if it got one. -/
def Written (before after : R56Struct) (pending : U8) (data : List U8) : Prop :=
  after.history.txData = before.history.txData ++ data ∨
    pending ≠ 0 ∧ after.history.txData = before.history.txData ++ [pending] ++ data

/-- The priority character that waits when the event takes bytes out of the queue. -/
def AsyncEvent.pending (e : AsyncEvent) (info : R56Struct) : U8 :=
  match e with
  | .sendXchar ch => ch
  | _ => info.xChar

def AsyncEvent.flushes : AsyncEvent → Bool
  | .flushBuffer => true
  | _ => false

/-- Apart from the priority character the FIFO got what is added to `sent`, and an undivided
write took all there was room for. -/
def AsyncState.Faithful (s : AsyncState) (e : AsyncEvent) (t : AsyncState) : Prop :=
  (∃ data, Written s.info t.info (e.pending s.info) data ∧
    t.sent = if e.flushes then [] else s.sent ++ data) ∧
  ∀ buf count, e = .write buf count →
    (r56Write s.info buf count).2 = min count (serialXmitSize - 1 - s.info.xmitCnt)

theorem AsyncState.Lawful.conserves {s : AsyncState} (lawful : s.Lawful) {after : R56Struct} {filled : XmitQueue}
    {data : List U8} (setup : after.setup = s.info.setup) (ok : filled.Ok)
    (waiting : filled.waiting = s.info.xmitQueue.waiting ++ data)
    (written : filled.written = s.info.xmitQueue.written) (drained : filled.Drains after.xmitQueue) :
    { s with
      info := after, accepted := s.accepted ++ data
      sent := s.sent ++ filled.dataWritten after.xmitQueue : AsyncState }.Lawful ∧
    Written s.info after filled.xChar (filled.dataWritten after.xmitQueue) := by
  obtain ⟨ends, popped, grown⟩ := drained.conserves ok
  have mode := congrArg (·.params.mode) setup
  have buffer := congrArg (·.xmitBufPtr) setup
  refine ⟨⟨mode.trans lawful.mode, buffer.trans lawful.buffer, ends, ?_⟩, ?_⟩
  · show s.accepted ++ data = s.sent ++ filled.dataWritten after.xmitQueue ++ after.xmitQueue.waiting
    rw [lawful.conserved, List.append_assoc, ← waiting, popped, List.append_assoc]
  · rw [written] at grown
    exact grown

theorem AsyncState.Lawful.goes {s : AsyncState} (lawful : s.Lawful) {after : R56Struct} {filled : XmitQueue}
    {data : List U8} (setup : after.setup = s.info.setup) (ok : filled.Ok)
    (waiting : filled.waiting = s.info.xmitQueue.waiting ++ data)
    (written : filled.written = s.info.xmitQueue.written) (xChar : filled.xChar = s.info.xmitQueue.xChar)
    (drained : filled.Drains after.xmitQueue) :
    (s.goes after data).Lawful ∧
      Written s.info after s.info.xChar (s.info.xmitQueue.dataWritten after.xmitQueue) := by
  have moved := lawful.conserves setup ok waiting written drained
  have same : filled.dataWritten after.xmitQueue = s.info.xmitQueue.dataWritten after.xmitQueue := by
    unfold XmitQueue.dataWritten
    rw [written, xChar]
  rw [same, xChar] at moved
  exact moved

/-- An operation that only takes bytes out of the queue. -/
theorem AsyncState.Lawful.drains {s : AsyncState} (lawful : s.Lawful) {after : R56Struct}
    (setup : after.setup = s.info.setup) (drained : s.info.xmitQueue.Drains after.xmitQueue) :
    (s.goes after []).Lawful ∧
      Written s.info after s.info.xChar (s.info.xmitQueue.dataWritten after.xmitQueue) :=
  lawful.goes setup lawful.ok (List.append_nil _).symm rfl rfl drained

theorem AsyncState.Lawful.call {s : AsyncState} (lawful : s.Lawful) (call : AsyncCall) :
    { s with call := call }.Lawful := ⟨lawful.mode, lawful.buffer, lawful.ok, lawful.conserved⟩

theorem written_nothing (info : R56Struct) (pending : U8) : Written info info pending [] :=
  .inl (List.append_nil _).symm

theorem AsyncState.Lawful.copyPass {s : AsyncState} (lawful : s.Lawful) (buf : Nat → U8) (count : Nat) :
    (s.copyPass buf count).Lawful ∧ ∃ data, Written s.info (s.copyPass buf count).info s.info.xChar data ∧
      (s.copyPass buf count).sent = s.sent ++ data := by
  have size : serialXmitSize = 4096 := rfl
  have room : s.info.xmitCnt ≤ serialXmitSize - 1 := lawful.ok.room
  have chars : ¬s.info.synchronous := fun sync => not_async_of_synchronous sync lawful.mode
  unfold AsyncState.copyPass
  dsimp only
  split
  · exact ⟨lawful.call _, [], written_nothing _ _, (List.append_nil _).symm⟩
  · rename_i some
    have taken : (writeAsync s.info 1 buf count) =
        ({ s.info with
          xmitBuf := Memory.blit s.info.xmitBuf s.info.xmitHead (Memory.read buf 0 (s.info.xmitQueue.chunkSize count))
          xmitHead := (s.info.xmitHead + s.info.xmitQueue.chunkSize count) % serialXmitSize
          xmitCnt := s.info.xmitCnt + s.info.xmitQueue.chunkSize count }, s.info.xmitQueue.chunkSize count) := by
      refine (if_neg some).trans ?_
      exact Prod.ext rfl (Nat.zero_add _)
    have bound : s.info.xmitQueue.chunkSize count ≤
        min (serialXmitSize - s.info.xmitCnt - 1) (serialXmitSize - s.info.xmitHead) := Nat.min_le_right _ _
    have head := lawful.ok.head_lt
    generalize s.info.xmitQueue.chunkSize count = c at some taken bound ⊢
    obtain ⟨chunked, appended⟩ := lawful.ok.chunk buf (c := c)
      (by show s.info.xmitCnt + c < serialXmitSize; omega) (by show s.info.xmitHead + c ≤ serialXmitSize; omega)
    have moved := @AsyncState.Lawful.goes _ lawful _ _ (Memory.read buf 0 c)
      (setup_kept.writeAsync buf 1 count s.info chars) chunked appended rfl rfl (by rw [taken]; exact .refl _)
    rw [taken] at moved ⊢
    exact ⟨moved.1.call _, _, moved.2, rfl⟩

/-- One step. -/
theorem AsyncState.Lawful.step {s t : AsyncState} {e : AsyncEvent} (lawful : s.Lawful) (step : AsyncStep s e t) :
    t.Lawful ∧ s.Faithful e t := by
  have drains {after : R56Struct} (e : AsyncEvent) (undivided : ∀ buf count, e ≠ .write buf count)
      (pending : e.pending s.info = s.info.xChar) (keeps : e.flushes = false) (setup : after.setup = s.info.setup)
      (drained : s.info.xmitQueue.Drains after.xmitQueue) :
      (s.goes after []).Lawful ∧ s.Faithful e (s.goes after []) := by
    obtain ⟨next, written⟩ := lawful.drains setup drained
    refine ⟨next, ⟨s.info.xmitQueue.dataWritten after.xmitQueue, ?_, ?_⟩, fun buf count h => absurd h (undivided buf count)⟩
    · rw [pending]
      exact written
    · rw [keeps]
      rfl
  cases e with
  | write buf count =>
    cases step
    obtain ⟨returned, filled, ok, waiting, written, xChar, drained⟩ :=
      r56Write_queue lawful.mode lawful.buffer lawful.ok buf count
    obtain ⟨next, fed⟩ := lawful.goes (setup_kept.write s.info buf count) ok waiting written xChar drained
    refine ⟨next, ⟨_, fed, rfl⟩, ?_⟩
    intro buf count same
    cases same
    exact returned
  | enter buf count =>
    obtain ⟨_, _, rfl⟩ := step
    exact ⟨lawful.call _, ⟨[], written_nothing _ _, (List.append_nil _).symm⟩, by simp⟩
  | copy =>
    obtain ⟨buf, count, _, rfl⟩ := step
    obtain ⟨next, data, written, sent⟩ := lawful.copyPass buf count
    exact ⟨next, ⟨data, written, sent⟩, by simp⟩
  | check =>
    obtain ⟨_, rfl⟩ := step
    exact ⟨lawful.call _, ⟨[], written_nothing _ _, (List.append_nil _).symm⟩, by simp⟩
  | begin =>
    obtain ⟨_, rfl⟩ := step
    have started : (if s.info.txActive then s.info else uscStartTransmitter s.info).setup = s.info.setup ∧
        s.info.xmitQueue.Drains (if s.info.txActive then s.info else uscStartTransmitter s.info).xmitQueue := by
      split
      · exact ⟨rfl, .refl _⟩
      · exact ⟨setup_kept.start s.info, uscStartTransmitter_drains lawful.mode⟩
    obtain ⟨next, faithful⟩ := drains .begin (by simp) rfl rfl started.1 started.2
    exact ⟨next.call _, faithful⟩
  | putChar ch =>
    cases step
    obtain ⟨ok, waiting, written⟩ := r56PutChar_queue lawful.ok ch
    have same : (r56PutChar s.info ch).1.xmitQueue.xChar = s.info.xmitQueue.xChar := by
      unfold r56PutChar
      split
      · rfl
      · rfl
    obtain ⟨next, fed⟩ := lawful.goes (setup_kept.putChar s.info ch) ok waiting written same (.refl _)
    exact ⟨next, ⟨_, fed, rfl⟩, by simp⟩
  | flushChars =>
    cases step
    exact drains .flushChars (by simp) rfl rfl (setup_kept.flushChars s.info) (r56FlushChars_drains lawful.mode)
  | flushBuffer =>
    cases step
    exact ⟨⟨lawful.mode, lawful.buffer, XmitQueue.Ok.flushed s.info.xmitQueue, rfl⟩,
      ⟨[], .inl (List.append_nil _).symm, rfl⟩, by simp⟩
  | stop =>
    cases step
    have same := r56Stop_queue s.info
    exact drains .stop (by simp) rfl rfl (setup_kept.stopEnabled s.info) (by rw [same]; exact .refl _)
  | start =>
    cases step
    exact drains .start (by simp) rfl rfl (setup_kept.startDisabled s.info) (r56Start_drains lawful.mode)
  | sendXchar ch =>
    cases step
    have drained := r56SendXchar_drains lawful.mode ch
    obtain ⟨next, fed⟩ := @AsyncState.Lawful.conserves _ lawful _ { s.info.xmitQueue with xChar := ch } []
      (setup_kept.sendXchar s.info ch) ⟨lawful.ok.room, lawful.ok.tail, lawful.ok.head⟩
      (List.append_nil _).symm rfl drained
    rw [List.append_nil] at next
    exact ⟨next, ⟨_, fed, rfl⟩, by simp⟩
  | flow stopped hwStopped =>
    cases step
    exact drains (.flow stopped hwStopped) (by simp) rfl rfl rfl (.refl _)
  | interrupt report =>
    obtain ⟨data, rfl⟩ := step
    exact drains (.interrupt report) (by simp) rfl rfl (setup_kept.interrupt s.info report)
      (r56Interrupt_drains data)
  | fifo readings =>
    cases step
    exact drains (.fifo readings) (by simp) rfl rfl rfl (.refl _)

/-- Programming the chip empties the queue. -/
theorem r56ProgramHw_queue (info : R56Struct) : (r56ProgramHw info).xmitQueue = info.xmitQueue.flushed := by
  have same {s t : R56Struct} (frame : t.exceptSettings = s.exceptSettings) : t.xmitQueue = s.xmitQueue := by
    have views := congrArg R56Struct.xmitQueue frame
    exact views
  have started (s : R56Struct) : (uscStartReceiver s).xmitQueue = s.xmitQueue := by
    have views := congrArg R56Struct.xmitQueue (uscStartReceiver_frame s)
    exact views
  have programmed (s : R56Struct) : (programMode s).xmitQueue = s.xmitQueue := by
    unfold programMode
    split
    · exact same (uscSetSyncMode_frame s)
    · exact same (uscSetAsyncMode_frame s)
  have signals (s : R56Struct) : (programSignals s).xmitQueue = s.xmitQueue := rfl
  have prepared := (signals _).trans (programmed { uscStopTransmitter (uscStopReceiver info) with
    xmitCnt := 0, xmitHead := 0, xmitTail := 0 })
  unfold r56ProgramHw
  dsimp only
  split
  · exact (started _).trans prepared
  · exact prepared

/-- The queue law: the indices agree with the count, and what was sent is the beginning of what
was accepted, the rest of which waits in `xmit_buf`. -/
structure AsyncState.QueueLaw (s : AsyncState) : Prop where
  room : s.info.xmitCnt ≤ serialXmitSize - 1
  head : s.info.xmitHead = (s.info.xmitTail + s.info.xmitCnt) % serialXmitSize
  sent : s.sent <+: s.accepted
  waiting : s.accepted = s.sent ++ queue s.info.xmitBuf serialXmitSize s.info.xmitTail s.info.xmitCnt

theorem AsyncState.Lawful.law {s : AsyncState} (lawful : s.Lawful) : s.QueueLaw :=
  ⟨lawful.ok.room, lawful.ok.head, ⟨_, lawful.conserved.symm⟩, lawful.conserved⟩

/-- Asynchronous transmission is a byte queue, over every order of events since the chip was programmed. -/
theorem async_transmit_queue {before : R56Struct} (mode : before.params.mode = r56ModeAsync)
    (opened : before.xmitBufPtr = true) {p : List (AsyncEvent × AsyncState)}
    (run : Run AsyncStep { info := r56ProgramHw before } p) :
    (∀ x ∈ p, x.2.QueueLaw) ∧ Run AsyncState.Faithful { info := r56ProgramHw before } p ∧
      ∀ info, LoadsWithinRoom info := by
  have setup := r56ProgramHw_setup before
  have programmed := r56ProgramHw_queue before
  have init : AsyncState.Lawful { info := r56ProgramHw before } := by
    refine ⟨(congrArg (·.params.mode) setup).trans mode, (congrArg (·.xmitBufPtr) setup).trans opened, ?_, ?_⟩
    · show (r56ProgramHw before).xmitQueue.Ok
      rw [programmed]
      exact XmitQueue.Ok.flushed _
    · show [] = [] ++ (r56ProgramHw before).xmitQueue.waiting
      rw [programmed]
      rfl
  have step : ∀ s e t, AsyncState.Lawful s → AsyncStep s e t → AsyncState.Lawful t ∧ s.Faithful e t :=
    fun _ _ _ lawful step => lawful.step step
  have preserved : ∀ s e t, AsyncState.Lawful s → AsyncStep s e t → AsyncState.Lawful t :=
    fun s e t lawful taken => (step s e t lawful taken).1
  exact ⟨fun x member => (run.invariant preserved init x member).law, run.steps_of_invariant step init,
    uscLoadTxfifo_room⟩

/-- The port of the witness below. -/
def asyncPort : R56Struct := { openedDevice with params := { defaultParams with mode := r56ModeAsync } }

/-- Two characters are written, one of which a FIFO with a single free place takes. -/
theorem async_transmit_queue_two :
    let start : AsyncState := { info := r56ProgramHw asyncPort }
    let ready := start.goes { start.info with usc := { start.info.usc with txFifo := [1, 0] } } []
    let wrote := ready.goes (r56Write ready.info (fun i => BitVec.ofNat 8 i) 2).1
      (Memory.read (fun i => BitVec.ofNat 8 i) 0 (r56Write ready.info (fun i => BitVec.ofNat 8 i) 2).2)
    asyncPort.params.mode = r56ModeAsync ∧ asyncPort.xmitBufPtr = true ∧
      (∀ x ∈ [(AsyncEvent.fifo [1, 0], ready), (.write (fun i => BitVec.ofNat 8 i) 2, wrote)], x.2.QueueLaw) := by
  intro start ready wrote
  have run : Run AsyncStep start [(.fifo [1, 0], ready), (.write (fun i => BitVec.ofNat 8 i) 2, wrote)] :=
    ⟨rfl, rfl, trivial⟩
  exact ⟨rfl, rfl, (@async_transmit_queue asyncPort rfl rfl _ run).1⟩

end Route56
