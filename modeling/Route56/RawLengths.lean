import Route56.AutoRts
import Route56.DmaAccounting
import Route56.Programming
import Mathlib.Logic.Relation

namespace Route56

open CircularBuffer Transition Relation

/-- The channel comes to the entry if the entries before it are filled, and finds it filled. -/
def TxDma.comesTo (ch : TxDma) (n : Nat) (filled : Nat → Prop) (entry : Nat) : Prop :=
  ch.running = true ∧ ReflTransGen (fun i j => filled i ∧ j = next n i) ch.pos entry ∧ filled entry

theorem TxDma.comesTo_mono {ch : TxDma} {n entry : Nat} {filled more : Nat → Prop} (weaker : ∀ i, filled i → more i)
    (comes : ch.comesTo n filled entry) : ch.comesTo n more entry :=
  ⟨comes.1, ReflTransGen.mono (fun i _ link => ⟨weaker i link.1, link.2⟩) _ _ comes.2.1, weaker entry comes.2.2⟩

def R56Struct.filled (info : R56Struct) (entry : Nat) : Prop := (info.txBufferList entry).count ≠ 0

/-- The running channel can reach the entry. -/
def R56Struct.reaches (info : R56Struct) (entry : Nat) : Prop :=
  info.usc.txDma.comesTo info.txBufferCount info.filled entry

/-- The channel fetches an entry and, as TDMR has it, clears its count. -/
def R56Struct.fetched (info : R56Struct) : R56Struct :=
  let pos := info.usc.txDma.pos
  { info with
    txBufferList := Function.update info.txBufferList pos { info.txBufferList pos with count := 0 }
    usc := { info.usc with txDma := { info.usc.txDma with pos := next info.txBufferCount pos } } }

def R56Struct.channelHalted (info : R56Struct) : R56Struct :=
  { info with usc := { info.usc with txDma := { info.usc.txDma with running := false } } }

/-- The driver, and the entries of the transmit ring in which a frame begins. -/
structure RingState where
  info : R56Struct
  begins : Nat → Prop := fun _ => False

/-- The entries in which a frame begins after an operation: of the entries it loads, the first. -/
def RingState.beginsAfter (s : RingState) (op : Op) (entry : Nat) : Prop :=
  entry ∈ newEntries s.info op ∧ entry = s.info.currentTxBuffer ∨ entry ∉ newEntries s.info op ∧ s.begins entry

/-- The driver runs an operation, the channel fetches an entry, or the channel stops. -/
inductive RingEvent
  | op (op : Op)
  | fetch
  | halt

inductive RingStep : RingState → RingEvent → RingState → Prop
  | op {s : RingState} {op : Op} {after : R56Struct} (ran : Step s.info op after) :
      RingStep s (.op op) { info := after, begins := s.beginsAfter op }
  | fetch {s : RingState} (running : s.info.usc.txDma.running = true) (filled : s.info.filled s.info.usc.txDma.pos) :
      RingStep s .fetch { s with info := s.info.fetched }
  | halt {s : RingState} : RingStep s .halt { s with info := s.info.channelHalted }

/-- In RAW mode no entry that begins a frame and that the channel can reach carries a length. -/
def NoLengths (s : RingState) : Prop :=
  s.info.params.mode = r56ModeRaw →
    ∀ entry, s.info.reaches entry → s.begins entry → (s.info.txBufferList entry).rcc = 0

/-- The channel as the operation leaves it running. -/
def channelAfter (info : R56Struct) (op : Op) : TxDma :=
  if beginsFrame info op then
    { pos := if (loadSize info op).isSome then info.currentTxBuffer else info.startTxDmaBuffer, running := true }
  else info.usc.txDma

def filledAfter (info : R56Struct) (op : Op) (entry : Nat) : Prop := entry ∈ newEntries info op ∨ info.filled entry

/-- After the operation the channel comes to the entry, and it was not started there. -/
def comesUpon (info : R56Struct) (op : Op) (entry : Nat) : Prop :=
  (channelAfter info op).comesTo info.txBufferCount (filledAfter info op) entry ∧
    ¬(beginsFrame info op ∧ entry = (channelAfter info op).pos)

/-- The operation loads a frame where the running channel will come upon it, with its length. -/
def loadsBehind (info : R56Struct) (op : Op) : Prop :=
  ∃ size, loadSize info op = some size ∧ (size : U16) ≠ 0 ∧ comesUpon info op info.currentTxBuffer

/-- The operation starts the channel or fills entries before it, so that it will come upon a frame
loaded earlier that has kept its length. -/
def leavesBehind (s : RingState) (op : Op) : Prop :=
  (beginsFrame s.info op ∨ (loadSize s.info op).isSome) ∧
    ∃ entry, entry ∉ newEntries s.info op ∧ s.begins entry ∧ (s.info.txBufferList entry).rcc ≠ 0 ∧
      comesUpon s.info op entry

/-- In RAW mode an operation brings no frame with a length before the channel. -/
def SendsLengthless (s : RingState) : RingEvent → Prop
  | .op op => s.info.params.mode = r56ModeRaw → ¬loadsBehind s.info op ∧ ¬leavesBehind s op
  | .fetch | .halt => True

/-- The transmit ring and the channel. -/
structure TxView where
  list : Nat → DmaBufferEntry
  n : Nat
  start : Nat
  current : Nat
  channel : TxDma

def R56Struct.txView (info : R56Struct) : TxView where
  list := info.txBufferList
  n := info.txBufferCount
  start := info.startTxDmaBuffer
  current := info.currentTxBuffer
  channel := info.usc.txDma

/-- The channel stopped where it is. -/
def TxView.stopped (v : TxView) : TxView := { v with channel := { v.channel with running := false } }

/-- The channel started at the frame loaded last, which gives up its length. -/
def TxView.started (v : TxView) : TxView :=
  { v with
    list := Function.update v.list v.start { v.list v.start with rcc := 0 }
    channel := { pos := v.start, running := true } }

theorem txView_of_exceptReception {s t : R56Struct} (frame : t.exceptReception = s.exceptReception)
    (channel : t.usc.txDma = s.usc.txDma) : t.txView = s.txView := by
  have same := congrArg (fun r : R56Struct => { r.txView with channel := s.usc.txDma }) frame
  have back : { t.txView with channel := s.usc.txDma } = t.txView := by
    rw [← channel]
    rfl
  exact back.symm.trans same

/-- The mode is kept, and the ring, unless the channel is stopped. -/
def KeepsRing (s t : R56Struct) : Prop :=
  t.params.mode = s.params.mode ∧ (t.txView = s.txView ∨ t.txView = s.txView.stopped)

namespace KeepsRing

theorem of_eq {s t : R56Struct} (mode : t.params.mode = s.params.mode) (view : t.txView = s.txView) : KeepsRing s t :=
  ⟨mode, .inl view⟩

theorem trans {s t u : R56Struct} (first : KeepsRing s t) (second : KeepsRing t u) : KeepsRing s u := by
  refine ⟨second.1.trans first.1, ?_⟩
  rcases first.2 with same | stopped
  · rw [← same]
    exact second.2
  · rcases second.2 with same | again
    · exact .inr (same.trans stopped)
    · refine .inr ?_
      rw [again, stopped]
      rfl

end KeepsRing

theorem uscLoadTxfifo_txView (info : R56Struct) : (uscLoadTxfifo info).txView = info.txView := by
  have step (s : R56Struct) (fifocount : Nat) : (loadTxfifoStep s fifocount).txView = s.txView := by
    unfold loadTxfifoStep
    dsimp only
    split
    · rfl
    · split
      · rfl
      · rfl
  exact uscLoadTxfifo_kept (R := fun s t => t.txView = s.txView) (fun _ => rfl)
    (fun first second => second.trans first) (fun _ _ => rfl) (fun _ => rfl) step info

theorem txView_kept : KeptPrepare fun s t => t.txView = s.txView :=
  ⟨fun _ => rfl, fun first second => second.trans first, fun _ _ => rfl, fun _ => rfl, fun _ => rfl,
    fun _ _ => rfl, fun _ => rfl, fun _ => rfl, fun _ _ => rfl⟩

/-- Starting a frame in RAW mode. -/
theorem uscStartTransmitter_started {info : R56Struct} (raw : info.params.mode = r56ModeRaw) (queued : info.xmitCnt ≠ 0) :
    (uscStartTransmitter info).txView = info.txView.started := by
  have mode : (ignoreEcho (assertAutoRts info)).params.mode = r56ModeRaw :=
    (congrArg (·.params.mode) (prepareXmit_frame info)).trans raw
  have prepared := txView_kept.prepare info
  unfold uscStartTransmitter
  rw [if_pos queued, txView_kept.enableIfDisabled]
  show (feedTransmitter (ignoreEcho (assertAutoRts info))).txView = _
  generalize ignoreEcho (assertAutoRts info) = s at mode prepared ⊢
  have sync : ¬s.params.mode = r56ModeAsync := by
    rw [mode]
    decide
  unfold feedTransmitter startTxDma
  dsimp only
  rw [if_neg sync, if_pos mode, ← prepared]
  split
  · rfl
  · rfl

/-- An operation that loads nothing keeps the ring, but for the start of a frame. -/
theorem keepsRing_parts {info : R56Struct} {op : Op} (frames : ¬usesTxRing info op) : KeptParts KeepsRing info op where
  refl _ := .of_eq rfl rfl
  trans := .trans
  reception frame control :=
    .of_eq (congrArg (·.params.mode) frame) (txView_of_exceptReception frame (congrArg (·.chip.txDma) control))
  flow _ _ _ := .of_eq rfl rfl
  xchar _ _ := .of_eq rfl rfl
  read _ := .of_eq rfl rfl
  negate s := by
    unfold negateRts
    split
    · exact .of_eq rfl rfl
    · exact .of_eq rfl rfl
  dropped _ := .of_eq rfl rfl
  enable s empty := by
    unfold uscStartTransmitter
    rw [if_neg (not_not.mpr empty)]
    exact .of_eq (congrArg (·.params.mode) (enableIfDisabled_frame s)) (txView_kept.enableIfDisabled s)
  fed s _ := .of_eq (congrArg (·.params.mode) (uscLoadTxfifo_frame s)) (uscLoadTxfifo_txView s)
  reset _ := ⟨rfl, .inr rfl⟩
  sendDone _ := .of_eq rfl rfl
  insertion s status := by
    unfold completeInsertion
    split
    · exact .of_eq rfl rfl
    · exact .of_eq rfl rfl
  noted _ := fun frame output =>
    .of_eq (congrArg (·.params.mode) frame) (txView_of_exceptReception frame (congrArg (·.1.txDma) output))
  stop _ _ := ⟨rfl, .inr rfl⟩
  ended _ _ := .of_eq rfl rfl
  idle _ _ _ := .of_eq rfl rfl
  set _ _ _ := .of_eq rfl rfl
  insert _ _ := .of_eq rfl rfl
  request _ _ _ := .of_eq rfl rfl
  flush _ _ := .of_eq rfl rfl
  collect _ _ _ _ _ := .of_eq rfl rfl
  chunk _ _ _ _ _ _ _ _ := .of_eq rfl rfl
  loadXmitBuf uses := absurd uses frames
  loadWrite uses := absurd uses frames
  hold uses := absurd uses frames
  unhold uses := absurd uses frames
  emptied uses := absurd uses frames

/-- What the copy loop of a load leaves in the ring: lengths nowhere but in the first entry, and no
entry filled that it does not need. -/
theorem copyTxFrame_rcc (busType : BusType) (n fuel : Nat) (buffer : Nat → U8) (size : Nat) (ring : TxRing) (i : Nat) :
    ((copyTxFrame busType n fuel buffer size ring).list i).rcc = (ring.list i).rcc := by
  induction fuel generalizing buffer size ring with
  | zero => rfl
  | succ fuel ih =>
    by_cases empty : size = 0
    · rw [empty, copyTxFrame_done]
    · have entry : ((ring.pass n buffer size).list i).rcc = (ring.list i).rcc := by
        unfold TxRing.pass
        dsimp only
        by_cases here : i = ring.index
        · subst here
          rw [Function.update_self]
          rfl
        · rw [Function.update_of_ne here]
      rw [copyTxFrame_succ busType n fuel buffer ring empty, ih]
      exact entry

/-- Only a frame without bytes does not need the entry it begins in. -/
theorem size_eq_zero {n c size : Nat} (inside : c < n)
    (outside : c ∉ (Finset.range (txBuffersNeeded size)).image (cell n c)) : size = 0 := by
  have none : ¬0 < txBuffersNeeded size := fun pos =>
    outside (Finset.mem_image.mpr ⟨0, Finset.mem_range.mpr pos, cell_zero inside⟩)
  have least := (txBuffersNeeded_le_iff size 0).mp (Nat.le_of_not_lt none)
  omega

/-- The ring after a frame of `size` bytes was loaded. -/
structure LoadedAs (v : TxView) (size : Nat) (after : TxView) : Prop where
  n : after.n = v.n
  start : after.start = v.current
  channel : after.channel = v.channel
  filled : ∀ i, (after.list i).count ≠ 0 →
    i ∈ (Finset.range (txBuffersNeeded size)).image (cell v.n v.current) ∨ (v.list i).count ≠ 0
  length : ∀ i, (after.list i).rcc = if i = v.current then (size : U16) else (v.list i).rcc

theorem r56LoadTxDmaBuffer_loaded {info : R56Struct} (inside : info.currentTxBuffer < info.txBufferCount)
    (source : TxSource) (buffer : Nat → U8) (size : Nat) :
    LoadedAs info.txView size (r56LoadTxDmaBuffer info source buffer size).txView := by
  obtain ⟨status, loaded⟩ : ∃ status, (r56LoadTxDmaBuffer info source buffer size).txBufferList =
      (copyTxFrame info.busType info.txBufferCount size buffer size (info.firstEntrySet status size)).list := ⟨_, rfl⟩
  refine ⟨rfl, rfl, ?_, fun i some => ?_, fun i => ?_⟩
  · show (r56LoadTxDmaBuffer info source buffer size).usc.txDma = info.usc.txDma
    unfold r56LoadTxDmaBuffer
    dsimp only
  · change ((r56LoadTxDmaBuffer info source buffer size).txBufferList i).count ≠ 0 at some
    rw [loaded] at some
    by_cases needed : i ∈ (Finset.range (txBuffersNeeded size)).image (cell info.txBufferCount info.currentTxBuffer)
    · exact .inl needed
    refine .inr ?_
    have outside : ∀ j < txBuffersNeeded size, cell info.txBufferCount info.currentTxBuffer j ≠ i :=
      fun j below here => needed (Finset.mem_image.mpr ⟨j, Finset.mem_range.mpr below, here⟩)
    rw [@copyTxFrame_outside info.busType _ i _ size buffer (info.firstEntrySet status size) inside le_rfl outside] at some
    by_cases first : i = info.currentTxBuffer
    · rw [first] at needed
      rw [first, firstEntrySet_first, size_eq_zero inside needed] at some
      exact absurd rfl some
    · rw [firstEntrySet_other status size first] at some
      exact some
  · show ((r56LoadTxDmaBuffer info source buffer size).txBufferList i).rcc =
      if i = info.currentTxBuffer then (size : U16) else (info.txBufferList i).rcc
    rw [loaded, copyTxFrame_rcc]
    by_cases first : i = info.currentTxBuffer
    · rw [if_pos first, first, firstEntrySet_first]
    · rw [if_neg first, firstEntrySet_other status size first]

theorem loadNextTxHoldingBuffer_txView {info : R56Struct} (none : info.heldSize = none) :
    (loadNextTxHoldingBuffer info).1.txView = info.txView := by
  unfold R56Struct.heldSize at none
  dsimp only at none
  unfold loadNextTxHoldingBuffer
  dsimp only
  split
  · rename_i fits
    rw [if_pos fits] at none
    exact absurd none (Option.some_ne_none _)
  · rfl

theorem loadNextTxHoldingBuffer_loaded {info : R56Struct} (inside : info.currentTxBuffer < info.txBufferCount) {size : Nat}
    (held : info.heldSize = some size) : LoadedAs info.txView size (loadNextTxHoldingBuffer info).1.txView := by
  unfold R56Struct.heldSize at held
  dsimp only at held
  unfold loadNextTxHoldingBuffer
  dsimp only
  split
  · rename_i fits
    rw [if_pos fits] at held
    cases held
    exact @r56LoadTxDmaBuffer_loaded { info with
      xmitCnt := (info.txHoldingBuffers info.getTxHoldingIndex).bufferSize } inside .holding _ _
  · rename_i misfit
    rw [if_neg misfit] at held
    exact absurd held.symm (Option.some_ne_none _)

/-- What an operation that does not reprogram the chip leaves. -/
structure TxOutcome (info : R56Struct) (op : Op) (after : R56Struct) : Prop where
  n : after.txBufferCount = info.txBufferCount
  channel : after.usc.txDma.running = true → after.usc.txDma = channelAfter info op
  filled : ∀ i, after.filled i → filledAfter info op i
  cleared : beginsFrame info op → (after.txBufferList (channelAfter info op).pos).rcc = 0
  loaded : (after.txBufferList info.currentTxBuffer).rcc ≠ 0 → info.currentTxBuffer ∈ newEntries info op →
    ∃ size, loadSize info op = some size ∧ (size : U16) ≠ 0
  kept : ∀ i, i ∉ newEntries info op → (after.txBufferList i).rcc ≠ 0 → (info.txBufferList i).rcc ≠ 0

namespace TxOutcome

variable {info after : R56Struct} {op : Op}

theorem newEntries_of_none (none : loadSize info op = none) : newEntries info op = ∅ := by
  unfold newEntries
  rw [none]
  rfl

/-- Nothing is loaded and no frame is begun. -/
theorem of_quiet (quiet : ¬beginsFrame info op) (none : loadSize info op = none)
    (view : after.txView = info.txView ∨ after.txView = info.txView.stopped) : TxOutcome info op after := by
  have list : after.txBufferList = info.txBufferList := by
    rcases view with same | stopped
    · exact congrArg TxView.list same
    · exact congrArg TxView.list stopped
  have n : after.txBufferCount = info.txBufferCount := by
    rcases view with same | stopped
    · exact congrArg TxView.n same
    · exact congrArg TxView.n stopped
  have new := newEntries_of_none none
  refine ⟨n, fun running => ?_, fun i some => .inr ?_, fun begins => absurd begins quiet, fun _ member => ?_,
    fun i _ some => ?_⟩
  · unfold channelAfter
    rw [if_neg quiet]
    rcases view with same | stopped
    · exact congrArg TxView.channel same
    · have off : after.usc.txDma.running = false := congrArg (·.channel.running) stopped
      rw [off] at running
      exact absurd running (by decide)
  · unfold R56Struct.filled at some
    rw [list] at some
    exact some
  · rw [new] at member
    exact absurd member (Finset.notMem_empty _)
  · rw [list] at some
    exact some

/-- Of the frames in the ring the one loaded last is started. -/
theorem of_begun (begins : beginsFrame info op) (none : loadSize info op = none) {v : TxView}
    (before : v = info.txView ∨ v = info.txView.stopped)
    (view : after.txView = v.started ∨ after.txView = v.started.stopped) : TxOutcome info op after := by
  have new := newEntries_of_none none
  have channel : channelAfter info op = { pos := info.startTxDmaBuffer, running := true } := by
    unfold channelAfter
    rw [if_pos begins, none]
    rfl
  have started : v.list = info.txBufferList ∧ v.n = info.txBufferCount ∧ v.start = info.startTxDmaBuffer := by
    rcases before with rfl | rfl
    · exact ⟨rfl, rfl, rfl⟩
    · exact ⟨rfl, rfl, rfl⟩
  obtain ⟨vList, vN, vStart⟩ := started
  have list : after.txBufferList = Function.update info.txBufferList info.startTxDmaBuffer
      { info.txBufferList info.startTxDmaBuffer with rcc := 0 } := by
    rw [← vList, ← vStart]
    rcases view with same | stopped
    · exact congrArg TxView.list same
    · exact congrArg TxView.list stopped
  have n : after.txBufferCount = info.txBufferCount := by
    rw [← vN]
    rcases view with same | stopped
    · exact congrArg TxView.n same
    · exact congrArg TxView.n stopped
  have count (i : Nat) : (after.txBufferList i).count = (info.txBufferList i).count := by
    rw [list]
    by_cases here : i = info.startTxDmaBuffer
    · rw [here, Function.update_self]
    · rw [Function.update_of_ne here]
  refine ⟨n, fun running => ?_, fun i some => .inr ?_, fun _ => ?_, fun _ member => ?_, fun i _ some => ?_⟩
  · rw [channel, ← vStart]
    rcases view with same | stopped
    · exact congrArg TxView.channel same
    · have off : after.usc.txDma.running = false := congrArg (·.channel.running) stopped
      rw [off] at running
      exact absurd running (by decide)
  · unfold R56Struct.filled at some
    rw [count] at some
    exact some
  · rw [channel, list, Function.update_self]
  · rw [new] at member
    exact absurd member (Finset.notMem_empty _)
  · rw [list] at some
    by_cases here : i = info.startTxDmaBuffer
    · rw [here, Function.update_self] at some
      exact absurd rfl some
    · rw [Function.update_of_ne here] at some
      exact some

/-- A frame is loaded, and started if it is begun. -/
theorem of_loaded {size : Nat} (inside : info.currentTxBuffer < info.txBufferCount)
    (loads : loadSize info op = some size) {v : TxView} (loaded : LoadedAs info.txView size v)
    (view : after.txView = if beginsFrame info op then v.started else v) : TxOutcome info op after := by
  have new : newEntries info op =
      (Finset.range (txBuffersNeeded size)).image (cell info.txBufferCount info.currentTxBuffer) := by
    unfold newEntries
    rw [loads]
    rfl
  have n : after.txBufferCount = info.txBufferCount := by
    refine Eq.trans ?_ loaded.n
    have same := congrArg TxView.n view
    refine Eq.trans same ?_
    split
    · rfl
    · rfl
  have channel : after.usc.txDma = channelAfter info op := by
    have same := congrArg TxView.channel view
    change after.usc.txDma = _ at same
    unfold channelAfter
    rw [same, loads]
    split
    · exact congrArg (fun pos => ({ pos := pos, running := true } : TxDma)) loaded.start
    · exact loaded.channel
  have entry (i : Nat) : (after.txBufferList i).count = (v.list i).count ∧
      ((after.txBufferList i).rcc ≠ 0 → (v.list i).rcc ≠ 0) := by
    have same : after.txBufferList = (if beginsFrame info op then v.started else v).list := congrArg TxView.list view
    rw [same]
    split
    · unfold TxView.started
      dsimp only
      by_cases here : i = v.start
      · rw [here, Function.update_self]
        exact ⟨rfl, fun some => absurd rfl some⟩
      · rw [Function.update_of_ne here]
        exact ⟨rfl, id⟩
    · exact ⟨rfl, id⟩
  refine ⟨n, fun _ => channel, fun i some => ?_, fun begins => ?_, fun some _ => ⟨size, loads, ?_⟩, fun i other some => ?_⟩
  · unfold R56Struct.filled at some
    rw [(entry i).1] at some
    unfold filledAfter
    rw [new]
    exact loaded.filled i some
  · have pos : (channelAfter info op).pos = v.start := by
      unfold channelAfter
      rw [if_pos begins, loads]
      exact loaded.start.symm
    have same : after.txBufferList = v.started.list := by
      rw [if_pos begins] at view
      exact congrArg TxView.list view
    rw [pos, same]
    unfold TxView.started
    dsimp only
    rw [Function.update_self]
  · have length := (entry _).2 some
    rw [loaded.length] at length
    exact (if_pos (c := info.currentTxBuffer = info.currentTxBuffer) rfl).symm.trans_ne length
  · have length := (entry i).2 some
    rw [loaded.length] at length
    split at length
    · rename_i first
      change i = info.currentTxBuffer at first
      rw [new, first] at other
      rw [size_eq_zero inside other] at length
      exact absurd rfl length
    · exact length

end TxOutcome

/-- The last statement of `r56_write` starts the frame just loaded. -/
theorem startIfIdle_txView {s : R56Struct} (raw : s.params.mode = r56ModeRaw) (begins : Prop) [Decidable begins]
    (starts : begins ↔ s.xmitCnt ≠ 0 ∧ s.ttyStopped = false ∧ s.txActive = false) :
    (startIfIdle s).txView = if begins then s.txView.started else s.txView := by
  unfold startIfIdle
  split
  · rename_i ready
    split
    · rename_i active
      rw [if_neg fun begun => Bool.eq_false_iff.mp (starts.mp begun).2.2 active]
    · rename_i idle
      rw [if_pos (starts.mpr ⟨ready.1, Bool.eq_false_iff.mpr ready.2, Bool.eq_false_iff.mpr idle⟩)]
      exact uscStartTransmitter_started raw ready.1
  · rename_i unready
    rw [if_neg fun begun => unready ⟨(starts.mp begun).1, Bool.eq_false_iff.mp (starts.mp begun).2.1⟩]

theorem r56Write_outcome {info : R56Struct} (raw : info.params.mode = r56ModeRaw)
    (inside : info.currentTxBuffer < info.txBufferCount) (buf : Nat → U8) (count : Nat) :
    TxOutcome info (.write buf count) (r56Write info buf count).1 := by
  have sync : info.synchronous := .inr raw
  have hdlc : ¬info.params.mode = r56ModeHdlc := by
    rw [raw]
    decide
  by_cases buffer : info.xmitBufPtr = true
  swap
  · have refused : r56Write info buf count = (info, 0) := if_pos buffer
    rw [refused]
    exact .of_quiet (fun begins => buffer begins.1.1) (if_pos (.inl buffer)) (.inl rfl)
  by_cases active : info.txActive = true
  · have quiet : ¬beginsFrame info (.write buf count) := fun begins => Bool.eq_false_iff.mp begins.1.2.2 active
    have loads : loadSize info (.write buf count) = if info.txHoldingCount ≥ info.numTxHoldingBuffers then none
        else (saveTxBufferRequest info buf count).heldSize := by
      unfold loadSize
      dsimp only
      rw [if_neg (not_or.mpr ⟨not_not.mpr buffer, not_not.mpr sync⟩), if_pos active]
      by_cases full : info.txHoldingCount ≥ info.numTxHoldingBuffers
      · rw [if_pos (.inr full), if_pos full]
      · rw [if_neg (not_or.mpr ⟨hdlc, full⟩), if_neg full]
    unfold r56Write
    rw [if_neg (not_not.mpr buffer), if_pos sync, if_pos active, if_neg hdlc]
    split
    · rename_i full
      rw [if_pos full] at loads
      exact .of_quiet quiet loads (.inl rfl)
    · rename_i room
      rw [if_neg room] at loads
      have saved : (saveTxBufferRequest info buf count).txView = info.txView := by
        unfold saveTxBufferRequest
        rw [if_neg room]
        rfl
      have current : (saveTxBufferRequest info buf count).currentTxBuffer <
          (saveTxBufferRequest info buf count).txBufferCount := by
        have n := congrArg TxView.n saved
        have index := congrArg TxView.current saved
        change (saveTxBufferRequest info buf count).txBufferCount = info.txBufferCount at n
        change (saveTxBufferRequest info buf count).currentTxBuffer = info.currentTxBuffer at index
        rw [n, index]
        exact inside
      generalize saveTxBufferRequest info buf count = s at loads saved current ⊢
      cases held : s.heldSize with
      | none =>
        rw [held] at loads
        exact .of_quiet quiet loads (.inl ((loadNextTxHoldingBuffer_txView held).trans saved))
      | some size =>
        rw [held] at loads
        have loaded := loadNextTxHoldingBuffer_loaded current held
        rw [saved] at loaded
        exact .of_loaded inside loads loaded (if_neg quiet).symm
  have idle := Bool.eq_false_iff.mpr active
  rw [r56Write_inactive buffer sync idle]
  have writable : info.writable count ↔
      (info.params.flags &&& hdlcFlagHdlcLoopmode ≠ 0 → uscLoopmodeActive info = true) ∧ (info.xmitCnt ≠ 0 ∨ count ≠ 0) := by
    unfold R56Struct.writable
    rw [if_pos sync]
  have loads : loadSize info (.write buf count) =
      if info.params.flags &&& hdlcFlagHdlcLoopmode ≠ 0 ∧ ¬uscLoopmodeActive info then none
      else if info.xmitCnt ≠ 0 then some info.xmitCnt else some count := by
    unfold loadSize
    dsimp only
    rw [if_neg (not_or.mpr ⟨not_not.mpr buffer, not_not.mpr sync⟩), if_neg active]
  split
  · rename_i out
    rw [if_pos out] at loads
    exact .of_quiet (fun begins => out.2 ((writable.mp begins.2).1 out.1)) loads (.inl rfl)
  rename_i inLoop
  have free : info.params.flags &&& hdlcFlagHdlcLoopmode ≠ 0 → uscLoopmodeActive info = true :=
    fun mode => not_not.mp fun outside => inLoop ⟨mode, outside⟩
  rw [if_neg inLoop] at loads
  split
  · rename_i collected
    rw [if_pos collected] at loads
    have starts : beginsFrame info (.write buf count) ↔
        info.xmitCnt ≠ 0 ∧ info.ttyStopped = false ∧ info.txActive = false :=
      ⟨fun begins => ⟨collected, begins.1.2⟩, fun ready => ⟨⟨buffer, ready.2⟩, writable.mpr ⟨free, .inl collected⟩⟩⟩
    exact .of_loaded inside loads (r56LoadTxDmaBuffer_loaded inside .xmitBuf info.xmitBuf info.xmitCnt)
      (@startIfIdle_txView (loadXmitBuf info) raw _ _ starts)
  · rename_i none
    rw [if_neg none] at loads
    have starts : beginsFrame info (.write buf count) ↔ count ≠ 0 ∧ info.ttyStopped = false ∧ info.txActive = false :=
      ⟨fun begins => ⟨(writable.mp begins.2).2.resolve_left none, begins.1.2⟩,
        fun ready => ⟨⟨buffer, ready.2⟩, writable.mpr ⟨free, .inr ready.1⟩⟩⟩
    exact .of_loaded inside loads (@r56LoadTxDmaBuffer_loaded { info with xmitCnt := count } inside .write buf count)
      (@startIfIdle_txView (r56LoadTxDmaBuffer { info with xmitCnt := count } .write buf count) raw _ _ starts)

theorem r56FlushChars_outcome {info : R56Struct} (raw : info.params.mode = r56ModeRaw)
    (inside : info.currentTxBuffer < info.txBufferCount) : TxOutcome info .flushChars (r56FlushChars info) := by
  have sync : info.synchronous := .inr raw
  unfold r56FlushChars
  split
  · rename_i refused
    refine .of_quiet ?_ (if_pos refused) (.inl rfl)
    rintro ⟨⟨buffer, free, -⟩, queued⟩
    rcases refused with empty | stopped | none
    · exact queued empty
    · rw [free] at stopped
      exact absurd stopped (by decide)
    · exact none buffer
  rename_i accepted
  split
  · rename_i active
    refine .of_quiet (fun begins => Bool.eq_false_iff.mp begins.1.2.2 active) ?_ (.inl rfl)
    unfold loadSize
    dsimp only
    rw [if_neg accepted, if_pos (.inl active)]
  rename_i idle
  have loads : loadSize info .flushChars = some info.xmitCnt := by
    unfold loadSize
    dsimp only
    rw [if_neg accepted, if_neg (not_or.mpr ⟨idle, not_not.mpr sync⟩)]
  have queued : info.xmitCnt ≠ 0 := fun empty => accepted (.inl empty)
  have free : info.ttyStopped = false := Bool.eq_false_iff.mpr fun stopped => accepted (.inr (.inl stopped))
  have buffer : info.xmitBufPtr = true := not_not.mp fun none => accepted (.inr (.inr none))
  have begins : beginsFrame info .flushChars := ⟨⟨buffer, free, Bool.eq_false_iff.mpr idle⟩, queued⟩
  refine .of_loaded inside loads (r56LoadTxDmaBuffer_loaded inside .xmitBuf info.xmitBuf info.xmitCnt) ?_
  rw [if_pos begins]
  exact @uscStartTransmitter_started (loadXmitBuf info) raw queued

/-- The interrupt of the transmit DMA channel. -/
theorem r56Interrupt_outcome {info : R56Struct} (inside : info.currentTxBuffer < info.txBufferCount) {report : UscReport}
    (vector : (info.reporting report).transmitDmaVector) :
    TxOutcome info (.interrupt report) (r56Interrupt (info.reporting report)) := by
  have quiet : ¬beginsFrame info (.interrupt report) := by
    rintro ⟨⟨pins, -⟩, -⟩
    rw [vector.1] at pins
    exact absurd pins (by decide)
  have tail (s : R56Struct) : (scheduleBh (haltOnOverflow s)).txView = s.txView := by
    have halted := txView_of_exceptReception (exceptReception_of_exceptChip (haltOnOverflow_frame s))
      (congrArg (·.chip.txDma) (haltOnOverflow_control s))
    have scheduled := txView_of_exceptReception (scheduleBh_frame (haltOnOverflow s))
      (congrArg (·.1.txDma) (scheduleBh_output (haltOnOverflow s)))
    exact scheduled.trans halted
  have served : serviceInterrupt (info.reporting report) = r56IsrTransmitDma (info.reporting report) := by
    unfold serviceInterrupt
    dsimp only
    rw [if_neg (not_not.mpr vector.1), if_pos vector.2]
  have view : (r56Interrupt (info.reporting report)).txView = (r56IsrTransmitDma (info.reporting report)).txView := by
    unfold r56Interrupt
    rw [tail, served]
  have done (s : R56Struct) : (txBufferDone s).txView =
      (loadNextTxHoldingBuffer { s with txDmaBuffersUsed := s.txDmaBuffersUsed - 1 }).1.txView := by
    unfold txBufferDone
    dsimp only
    split
    · rfl
    · rfl
  unfold r56IsrTransmitDma at view
  dsimp only at view
  split at view
  · rename_i sent
    have reported : (info.reporting report).bufferSent := ⟨vector, sent⟩
    rw [done] at view
    -- the acknowledgement concerns neither the ring nor the frames held back
    generalize acked : ({ info.reporting report with
      usc := uscOutDmaReg (info.reporting report).usc .cdir (bit8 + bit0)
      txDmaBuffersUsed := (info.reporting report).txDmaBuffersUsed - 1 } : R56Struct) = s at view
    have same : s.txView = info.txView ∧ loadSize info (.interrupt report) = s.heldSize := by
      rw [← acked]
      exact ⟨rfl, if_pos reported⟩
    obtain ⟨ring, loads⟩ := same
    have current : s.currentTxBuffer < s.txBufferCount := by
      rw [← acked]
      exact inside
    cases held : s.heldSize with
    | none =>
      rw [held] at loads
      exact .of_quiet quiet loads (.inl (view.trans ((loadNextTxHoldingBuffer_txView held).trans ring)))
    | some size =>
      rw [held] at loads
      have loaded := loadNextTxHoldingBuffer_loaded current held
      rw [ring] at loaded
      refine .of_loaded inside loads loaded ?_
      rw [if_neg quiet]
      exact view
  · rename_i other
    have none : ¬(info.reporting report).bufferSent := fun sent => other sent.2
    exact .of_quiet quiet (if_neg none) (.inl view)

/-- Every operation that does not reprogram the chip, in RAW mode. -/
theorem exec_outcome {info after : R56Struct} {op : Op} (raw : info.params.mode = r56ModeRaw)
    (inside : info.currentTxBuffer < info.txBufferCount) (free : ¬op.programs) (ran : exec info op = some after) :
    TxOutcome info op after := by
  by_cases frames : usesTxRing info op
  · cases op with
    | write buf count => cases ran; exact r56Write_outcome raw inside buf count
    | flushChars => cases ran; exact r56FlushChars_outcome raw inside
    | interrupt report => cases ran; exact r56Interrupt_outcome inside frames
    | _ => exact absurd frames id
  have none : loadSize info op = none := by
    cases op with
    | write buf count => exact absurd trivial frames
    | flushChars => exact absurd trivial frames
    | interrupt report => exact if_neg fun sent => frames sent.1
    | _ => rfl
  have kept := keepsRing_parts frames
  by_cases begins : beginsFrame info op
  · obtain ⟨s, before, queued, -, afterwards⟩ := kept.toKeptCalls.begun frames begins ran
    have started := uscStartTransmitter_started (before.1.trans raw) queued
    refine .of_begun begins none before.2 ?_
    rw [← started]
    exact afterwards.2
  · exact .of_quiet begins none (kept.exec (fun there => absurd there begins) free ran).2

/-- The channel is stopped, and there is nothing to start it for. -/
def R56Struct.still (info : R56Struct) : Prop := info.usc.txDma.running = false ∧ info.xmitCnt = 0

theorem uscStartTransmitter_still {info : R56Struct} (still : info.still) : (uscStartTransmitter info).still := by
  unfold uscStartTransmitter
  rw [if_neg (not_not.mpr still.2)]
  have channel := congrArg (·.channel.running) (txView_kept.enableIfDisabled info)
  have count : (enableIfDisabled info).xmitCnt = info.xmitCnt := by
    unfold enableIfDisabled
    split
    · rfl
    · rfl
  exact ⟨channel.trans still.1, count.trans still.2⟩

theorem still_kept : KeptCore fun s t => s.still → t.still where
  refl _ := id
  trans first second := second ∘ first
  reception frame control still :=
    ⟨(congrArg (·.chip.txDma.running) control).trans still.1, (congrArg (·.xmitCnt) frame).trans still.2⟩
  flow _ _ _ := id
  xchar _ _ := id
  read _ := id
  negate s still := by
    unfold negateRts
    split
    · exact still
    · exact still
  dropped _ := id
  enable _ _ := uscStartTransmitter_still
  fed _ some still := absurd still.2 some
  reset _ still := ⟨rfl, still.2⟩
  sendDone _ := id
  insertion s status still := by
    unfold completeInsertion
    split
    · exact still
    · exact still

theorem r56ProgramHw_still (info : R56Struct) : (r56ProgramHw info).still :=
  ⟨r56ProgramHw_stopped info, (r56ProgramHw_signals info).2.2⟩

theorem r56ChangeParams_still {info : R56Struct} (attached : info.port.tty = true) : (r56ChangeParams info).still := by
  unfold r56ChangeParams
  rw [if_neg (not_not.mpr attached)]
  exact r56ProgramHw_still _

theorem exec_still {info after : R56Struct} {op : Op} (attached : info.port.tty = true) (programs : op.programs)
    (ran : exec info op = some after) : after.still := by
  cases op with
  | setParams newParams =>
    cases ran
    exact r56ChangeParams_still attached
  | setTermios cCflag cIflag baudRate =>
    cases ran
    refine still_kept.termios (fun _ _ => id) (fun _ => uscStartTransmitter_still) _ _ ?_
    exact r56ChangeParams_still attached
  | _ => exact absurd programs id

/-- The indices of the ring are in range and the port is open. -/
structure RingSound (s : RingState) : Prop where
  sound : TxSound s.info
  attached : s.info.port.tty = true

theorem RingSound.step {s t : RingState} {e : RingEvent} (inv : RingSound s) (step : RingStep s e t) : RingSound t := by
  cases step with
  | op ran =>
    have attached := congrArg (·.tty) (exec_exceptParams ran.1)
    exact ⟨inv.sound.exec ran.1, attached.trans inv.attached⟩
  | fetch running filled => exact ⟨⟨inv.sound.buffer, inv.sound.head, inv.sound.current⟩, inv.attached⟩
  | halt => exact ⟨⟨inv.sound.buffer, inv.sound.head, inv.sound.current⟩, inv.attached⟩

/-- What the channel comes to after it has fetched an entry it came to before. -/
theorem reaches_of_fetched {info : R56Struct} (running : info.usc.txDma.running = true)
    (filled : info.filled info.usc.txDma.pos) {entry : Nat} (reaches : info.fetched.reaches entry) :
    info.reaches entry ∧ (info.fetched.txBufferList entry).rcc = (info.txBufferList entry).rcc := by
  have fewer (i : Nat) (some : info.fetched.filled i) : info.filled i := by
    unfold R56Struct.filled R56Struct.fetched at some
    dsimp only at some
    by_cases here : i = info.usc.txDma.pos
    · rw [here]
      exact filled
    · rw [Function.update_of_ne here] at some
      exact some
  obtain ⟨-, path, here⟩ := TxDma.comesTo_mono fewer reaches
  refine ⟨⟨running, path.head ⟨filled, rfl⟩, here⟩, ?_⟩
  unfold R56Struct.fetched
  dsimp only
  by_cases first : entry = info.usc.txDma.pos
  · rw [first, Function.update_self]
  · rw [Function.update_of_ne first]

/-- An operation that brings no frame with a length before the channel keeps the invariant. -/
theorem noLengths_op {s : RingState} {op : Op} {after : R56Struct} (inv : RingSound s) (good : NoLengths s)
    (lengthless : SendsLengthless s (.op op)) (ran : exec s.info op = some after) :
    NoLengths { info := after, begins := s.beginsAfter op } := by
  intro raw entry reaches begins
  change after.params.mode = r56ModeRaw at raw
  change after.reaches entry at reaches
  by_cases programs : op.programs
  · have still := exec_still inv.attached programs ran
    have running := reaches.1
    rw [still.1] at running
    exact absurd running (by decide)
  have mode : s.info.params.mode = r56ModeRaw :=
    (congrArg (·.params.mode) (exec_setup programs ran)).symm.trans raw
  have outcome := exec_outcome mode inv.sound.current programs ran
  obtain ⟨loaded, left⟩ := lengthless mode
  by_contra length
  have comes : (channelAfter s.info op).comesTo s.info.txBufferCount (filledAfter s.info op) entry := by
    rw [← outcome.channel reaches.1, ← outcome.n]
    exact TxDma.comesTo_mono outcome.filled reaches
  have elsewhere : ¬(beginsFrame s.info op ∧ entry = (channelAfter s.info op).pos) := by
    rintro ⟨begun, rfl⟩
    exact length (outcome.cleared begun)
  rcases begins with ⟨new, rfl⟩ | ⟨old, begins⟩
  · obtain ⟨size, loads, some⟩ := outcome.loaded length new
    exact loaded ⟨size, loads, some, comes, elsewhere⟩
  · have kept := outcome.kept entry old length
    by_cases changes : beginsFrame s.info op ∨ (loadSize s.info op).isSome
    · exact left ⟨changes, entry, old, begins, kept, comes, elsewhere⟩
    · -- neither the channel nor the entries before it have changed
      obtain ⟨quiet, none⟩ := not_or.mp changes
      have new := TxOutcome.newEntries_of_none (Option.not_isSome_iff_eq_none.mp none)
      refine kept (good mode entry ?_ begins)
      unfold channelAfter at comes
      rw [if_neg quiet] at comes
      refine TxDma.comesTo_mono (fun i some => some.resolve_left fun member => ?_) comes
      rw [new] at member
      exact absurd member (Finset.notMem_empty _)

theorem noLengths_step {s t : RingState} {e : RingEvent} (inv : RingSound s) (good : NoLengths s)
    (lengthless : SendsLengthless s e) (step : RingStep s e t) : NoLengths t := by
  cases step with
  | op ran => exact noLengths_op inv good lengthless ran.1
  | fetch running filled =>
    intro raw entry reaches begins
    obtain ⟨before, same⟩ := reaches_of_fetched running filled reaches
    exact same.trans (good raw entry before begins)
  | halt =>
    intro raw entry reaches begins
    exact absurd reaches.1 Bool.false_ne_true

/-- In every run of an opened port whose steps in RAW mode bring no frame with a length before the
channel, no frame the channel can reach carries one. -/
theorem raw_frames_without_length {info : R56Struct} {physEntry : Nat → U32} (frames : 1 ≤ info.numTxDmaBuffers)
    (frame : 4096 ≤ info.maxFrameSize) {p : List (RingEvent × RingState)}
    (run : Run RingStep { info := r56Open info physEntry } p)
    (lengthless : Run (fun s e _ => SendsLengthless s e) { info := r56Open info physEntry } p) :
    ∀ x ∈ p, NoLengths x.2 := by
  have attached : (r56Open info physEntry).port.tty = true :=
    congrArg (·.tty) (r56ChangeParams_setup (r56AllocIntermediateRxbufferMemory (r56AllocBufferListMemory (countDmaBuffers
      (requestIrq (startupBegin { info with port := { info.port with tty := true, count := 1 } }))) physEntry))).1
  have inv : RingSound { info := r56Open info physEntry } := ⟨r56Open_sound physEntry frames frame, attached⟩
  have init : NoLengths { info := r56Open info physEntry } := fun _ _ _ begins => begins.elim
  refine fun x member => (Run.invariant (P := fun s => RingSound s ∧ NoLengths s) ?_
    (run_and.mpr ⟨run, lengthless⟩) ⟨inv, init⟩ x member).2
  rintro s e t ⟨inv, good⟩ ⟨step, lengthless⟩
  exact ⟨inv.step step, noLengths_step inv good lengthless step⟩

/-- A device for RAW mode with a ring of two pages and one holding buffer. -/
def rawRing : R56Struct :=
  { r56AllocateDevice with
    params := { defaultParams with mode := r56ModeRaw }, numTxDmaBuffers := 2, numTxHoldingBuffers := 1 }

/-- The state after a byte is written. -/
def RingState.written (s : RingState) : RingState where
  info := (r56Write s.info (fun _ => 0x55) 1).1
  begins := s.beginsAfter (.write (fun _ => 0x55) 1)

def RingState.opened : RingState := { info := r56Open rawRing fun _ => 0 }

theorem raw_frames_without_length_sent : NoLengths RingState.opened.written := by
  have step : RingStep .opened (.op (.write (fun _ => 0x55) 1)) RingState.opened.written :=
    .op ⟨rfl, fun timeout => nomatch timeout⟩
  have here : beginsFrame RingState.opened.info (.write (fun _ => 0x55) 1) ∧ RingState.opened.info.currentTxBuffer =
      (channelAfter RingState.opened.info (.write (fun _ => 0x55) 1)).pos := by decide +kernel
  have lengthless : SendsLengthless .opened (.op (.write (fun _ => 0x55) 1)) := by
    refine fun _ => ⟨?_, ?_⟩
    · rintro ⟨size, -, -, upon⟩
      exact upon.2 here
    · rintro ⟨-, entry, -, begins, -⟩
      exact begins.elim
  have good := @raw_frames_without_length rawRing (fun _ => 0) (by decide) (by decide)
    [(.op (.write (fun _ => 0x55) 1), RingState.opened.written)] ⟨step, trivial⟩ ⟨lengthless, trivial⟩
  exact good _ (List.mem_singleton_self _)

/-- A second frame is loaded behind the running channel with its length. -/
theorem second_frame_keeps_length :
    Run RingStep .opened [(.op (.write (fun _ => 0x55) 1), RingState.opened.written),
      (.op (.write (fun _ => 0x55) 1), RingState.opened.written.written)] ∧
    RingState.opened.written.written.info.params.mode = r56ModeRaw ∧ ¬NoLengths RingState.opened.written.written := by
  have first : RingStep .opened (.op (.write (fun _ => 0x55) 1)) RingState.opened.written :=
    .op ⟨rfl, fun timeout => nomatch timeout⟩
  have second : RingStep RingState.opened.written (.op (.write (fun _ => 0x55) 1)) RingState.opened.written.written :=
    .op ⟨rfl, fun timeout => nomatch timeout⟩
  have raw : RingState.opened.written.written.info.params.mode = r56ModeRaw := by decide +kernel
  have channel : RingState.opened.written.written.info.usc.txDma.running = true ∧
      RingState.opened.written.written.info.usc.txDma.pos = 0 ∧
      next RingState.opened.written.written.info.txBufferCount 0 = 1 := by decide +kernel
  have filled : (RingState.opened.written.written.info.txBufferList 0).count ≠ 0 ∧
      (RingState.opened.written.written.info.txBufferList 1).count ≠ 0 := by decide +kernel
  have begun : 1 ∈ newEntries RingState.opened.written.info (.write (fun _ => 0x55) 1) ∧
      1 = RingState.opened.written.info.currentTxBuffer := by decide +kernel
  have length : (RingState.opened.written.written.info.txBufferList 1).rcc = 1 := by decide +kernel
  refine ⟨⟨first, second, trivial⟩, raw, fun good => ?_⟩
  have reaches : RingState.opened.written.written.info.reaches 1 := by
    refine ⟨channel.1, ?_, filled.2⟩
    rw [channel.2.1]
    exact .single ⟨filled.1, channel.2.2.symm⟩
  have none := good raw 1 reaches (.inl begun)
  rw [length] at none
  exact absurd none (by decide)

end Route56
