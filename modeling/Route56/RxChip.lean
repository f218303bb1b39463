import Route56.RxRing

namespace Route56

open CircularBuffer

/-- The chip begins to use an entry, stores bytes in it, leaves it when it is full, or ends a frame in it. -/
inductive Reception
  | use
  | store (bytes : List U8)
  | move
  | finish (status : U16)

/-- The chip does not begin to use an entry whose count is 0: that is the end of the list. -/
def Reception.possible (info : R56Struct) : Reception → Prop
  | .use => info.rxEnabled = true ∧ info.usc.rxDma.inUse = false ∧ (info.rxBufferList info.usc.rxDma.pos).count ≠ 0
  | .store bytes => info.usc.rxDma.inUse = true ∧ info.usc.rxDma.fill + bytes.length ≤ dmaBufferSize
  | .move => info.usc.rxDma.inUse = true ∧ info.usc.rxDma.fill = dmaBufferSize
  | .finish status => info.usc.rxDma.inUse = true ∧ status ≠ 0

instance (info : R56Struct) : (reception : Reception) → Decidable (reception.possible info)
  | .use => inferInstanceAs (Decidable (_ ∧ _ ∧ _))
  | .store _ => inferInstanceAs (Decidable (_ ∧ _))
  | .move => inferInstanceAs (Decidable (_ ∧ _))
  | .finish _ => inferInstanceAs (Decidable (_ ∧ _))

/-- The entry and the DMA channel after a step; `next` is the entry that follows. -/
def Reception.apply (e : DmaBufferEntry) (dma : RxDma) (next : Nat) : Reception → DmaBufferEntry × RxDma
  | .use => ({ e with count := 0 }, { dma with inUse := true, fill := 0 })
  | .store bytes =>
    ({ e with data := Memory.blit e.data dma.fill bytes },
      { dma with fill := dma.fill + bytes.length, frame := dma.frame ++ bytes })
  | .move => (e, { dma with pos := next, inUse := false, fill := 0 })
  | .finish status =>
    ({ e with status := status, rcc := BitVec.ofNat 16 (rclrValue - dma.frame.length) }, .init next)

/-- The state after a step of the chip. -/
def receive (info : R56Struct) (reception : Reception) : R56Struct :=
  let dma := info.usc.rxDma
  let after := reception.apply (info.rxBufferList dma.pos) dma (next info.rxBufferCount dma.pos)
  { info with
    rxBufferList := Function.update info.rxBufferList dma.pos after.1
    usc := { info.usc with rxDma := after.2 } }

/-- Entries other than the one in use are left alone. -/
theorem receive_elsewhere {info : R56Struct} (reception : Reception) {i : Nat} (apart : i ≠ info.usc.rxDma.pos) :
    (receive info reception).rxBufferList i = info.rxBufferList i := Function.update_of_ne apart _ _

theorem receive_rxEnabled (info : R56Struct) (reception : Reception) :
    (receive info reception).rxEnabled = info.rxEnabled := rfl

theorem receive_maxFrameSize (info : R56Struct) (reception : Reception) :
    (receive info reception).maxFrameSize = info.maxFrameSize := rfl

/-- An idle channel can receive a page and then some bytes more if it finds two entries for them. -/
theorem receive_page {info : R56Struct} {entry after : Nat} {page rest : List U8} (full : page.length = dmaBufferSize)
    (fits : rest.length ≤ dmaBufferSize) (on : info.rxEnabled = true) (pos : info.usc.rxDma.pos = entry)
    (idle : info.usc.rxDma.inUse = false) (frame : info.usc.rxDma.frame = [])
    (follows : next info.rxBufferCount entry = after) (apart : after ≠ entry)
    (free : (info.rxBufferList entry).count ≠ 0) (room : (info.rxBufferList after).count ≠ 0) :
    let used := receive info .use
    let filled := receive used (.store page)
    let moved := receive filled .move
    let reused := receive moved .use
    let stored := receive reused (.store rest)
    Reception.use.possible info ∧ (Reception.store page).possible used ∧ Reception.move.possible filled ∧
      Reception.use.possible moved ∧ (Reception.store rest).possible reused ∧ (Reception.finish bit4).possible stored ∧
      stored.usc.rxDma.frame = page ++ rest ∧ stored.maxFrameSize = info.maxFrameSize := by
  intro used filled moved reused stored
  have usedPos : used.usc.rxDma.pos = entry := pos
  have filledPos : filled.usc.rxDma.pos = entry := pos
  have movedPos : moved.usc.rxDma.pos = after := by
    show next info.rxBufferCount info.usc.rxDma.pos = after
    rw [pos, follows]
  have left : moved.rxBufferList after = info.rxBufferList after := by
    rw [receive_elsewhere _ (by rw [filledPos]; exact apart), receive_elsewhere _ (by rw [usedPos]; exact apart),
      receive_elsewhere _ (by rw [pos]; exact apart)]
  refine ⟨⟨on, idle, ?_⟩, ⟨rfl, (Nat.zero_add _).trans_le full.le⟩, ⟨rfl, (Nat.zero_add _).trans full⟩, ⟨?_, rfl, ?_⟩,
    ⟨rfl, (Nat.zero_add _).trans_le fits⟩, ⟨rfl, by decide⟩, ?_, ?_⟩
  · rw [pos]
    exact free
  · simp only [moved, filled, used, receive_rxEnabled, on]
  · rw [movedPos, left]
    exact room
  · show info.usc.rxDma.frame ++ page ++ rest = page ++ rest
    rw [frame, List.nil_append]
  · simp only [stored, reused, moved, filled, used, receive_maxFrameSize]

/-- The entries hold the last bytes of a frame, those after the first `taken`. -/
structure HoldsFrame (entries : List DmaBufferEntry) (taken : Nat) (bytes : List U8) : Prop where
  ended : ∃ front e, entries = front ++ [e] ∧ (∀ x ∈ front, x.open) ∧ e.ends ∧
    e.rcc = BitVec.ofNat 16 (rclrValue - (taken + bytes.length)) ∧ front.length * dmaBufferSize ≤ bytes.length
  room : bytes.length ≤ entries.length * dmaBufferSize
  stored : (pages entries).take bytes.length = bytes

/-- The chip fills the entries with a frame; `taken` bytes of it were in entries before them. -/
structure Filling (dma : RxDma) (entries : List DmaBufferEntry) (taken : Nat) (bytes : List U8) : Prop where
  opens : ∀ x ∈ entries, x.open
  frame : dma.frame.length = taken + bytes.length
  rest : dma.frame.drop taken = bytes
  stored : (pages entries).take bytes.length = bytes
  used : dma.inUse = true → dma.fill ≤ dmaBufferSize ∧ 0 < entries.length ∧
    bytes.length = (entries.length - 1) * dmaBufferSize + dma.fill
  moved : dma.inUse = false → bytes.length = entries.length * dmaBufferSize

/-- How many of the entries being filled the chip has left. -/
def RxDma.left (dma : RxDma) (entries : List DmaBufferEntry) : Nat :=
  if dma.inUse then entries.length - 1 else entries.length

/-- The ring: entries used before, those being filled, those that are free. -/
structure RxLayout (info : R56Struct) (before filling free : List DmaBufferEntry) (taken : Nat) (bytes : List U8) :
    Prop where
  first : info.currentRxBuffer < info.rxBufferCount
  view : info.rxView = before ++ filling ++ free
  useds : ∀ x ∈ before, x.count = 0
  frees : ∀ x ∈ free, x.free
  fills : Filling info.usc.rxDma filling taken bytes
  pos : info.usc.rxDma.pos = info.rxCell (before.length + info.usc.rxDma.left filling)

section

variable {info : R56Struct} {before filling free : List DmaBufferEntry} {taken : Nat} {bytes : List U8}

/-- The ring after a step of the chip at a known place. -/
theorem receive_view {front back : List DmaBufferEntry} {e : DmaBufferEntry} (reception : Reception)
    (split : info.rxView = front ++ e :: back) (pos : info.usc.rxDma.pos = info.rxCell front.length) :
    (receive info reception).rxView =
      front ++ (reception.apply e info.usc.rxDma (next info.rxBufferCount info.usc.rxDma.pos)).1 :: back := by
  have entry : info.rxBufferList info.usc.rxDma.pos = e := by
    rw [pos]
    exact cell_of_view split
  have stored := view_store split
    (reception.apply e info.usc.rxDma (next info.rxBufferCount info.usc.rxDma.pos)).1
  show view (Function.update info.rxBufferList info.usc.rxDma.pos
    (reception.apply (info.rxBufferList info.usc.rxDma.pos) info.usc.rxDma
      (next info.rxBufferCount info.usc.rxDma.pos)).1) info.rxBufferCount info.currentRxBuffer = _
  rw [entry, ← stored]
  congr 2

/-- The entry in which bytes are being stored is the last of those being filled. -/
theorem RxLayout.last (layout : RxLayout info before filling free taken bytes) (inUse : info.usc.rxDma.inUse = true) :
    ∃ front e, filling = front ++ [e] ∧ info.rxView = (before ++ front) ++ e :: free ∧
      info.usc.rxDma.pos = info.rxCell (before ++ front).length := by
  have some := (layout.fills.used inUse).2.1
  obtain ⟨front, e, rfl⟩ : ∃ front e, filling = front ++ [e] :=
    ⟨_, _, (List.dropLast_append_getLast (List.ne_nil_of_length_pos some)).symm⟩
  refine ⟨front, e, rfl, ?_, ?_⟩
  · rw [layout.view, List.append_assoc, List.append_assoc, List.append_assoc, List.singleton_append]
  · rw [layout.pos, RxDma.left, if_pos inUse, List.length_append, List.length_append, List.length_singleton,
      Nat.add_sub_cancel]

/-- The chip begins to use the first free entry. -/
theorem RxLayout.use (layout : RxLayout info before filling free taken bytes)
    (possible : Reception.use.possible info) :
    ∃ e rest, free = e :: rest ∧
      RxLayout (receive info .use) before (filling ++ [{ e with count := 0 }]) rest taken bytes := by
  obtain ⟨_, idle, unused⟩ := possible
  have fills := layout.fills
  have pos := layout.pos
  rw [RxDma.left, if_neg (Bool.eq_false_iff.mp idle), ← List.length_append] at pos
  cases free with
  | nil =>
    -- the ring is full, and the next entry is in use
    have view := layout.view
    rw [List.append_nil] at view
    have length := congrArg List.length view
    rw [R56Struct.rxView, length_view] at length
    have round : info.usc.rxDma.pos = info.currentRxBuffer := by
      rw [pos, ← length, R56Struct.rxCell, cell_length, Nat.mod_eq_of_lt layout.first]
    have used : ∀ x ∈ before ++ filling, x.count = 0 := by
      intro x member
      rcases List.mem_append.mp member with earlier | here
      · exact layout.useds x earlier
      · exact (fills.opens x here).2
    have shown : info.rxBufferList info.currentRxBuffer ∈ info.rxView :=
      (mem_view_iff layout.first).mpr ⟨_, layout.first, rfl⟩
    rw [view] at shown
    rw [round] at unused
    exact absurd (used _ shown) unused
  | cons e rest =>
    refine ⟨e, rest, rfl, layout.first, ?_, layout.useds,
      fun x member => layout.frees x (List.mem_cons_of_mem _ member), ?_, ?_⟩
    · rw [receive_view .use layout.view pos, List.append_assoc, List.append_assoc, List.append_assoc,
        List.singleton_append]
      rfl
    · have free := layout.frees e List.mem_cons_self
      refine ⟨?_, fills.frame, fills.rest, ?_, fun _ => ⟨Nat.zero_le _, ?_, ?_⟩, fun moved => Bool.noConfusion moved⟩
      · intro x member
        rcases List.mem_append.mp member with earlier | here
        · exact fills.opens x earlier
        · rw [List.mem_singleton.mp here]
          exact ⟨free.1, rfl⟩
      · have enough : bytes.length ≤ (pages filling).length := by
          rw [length_pages, fills.moved idle]
        rw [pages_append, List.take_append_of_le_length enough]
        exact fills.stored
      · rw [List.length_append, List.length_singleton]
        exact Nat.succ_pos _
      · rw [List.length_append, List.length_singleton, Nat.add_sub_cancel]
        exact (fills.moved idle).trans (Nat.add_zero _).symm
    · show info.usc.rxDma.pos = info.rxCell (before.length + RxDma.left { info.usc.rxDma with inUse := true, fill := 0 } _)
      rw [pos, RxDma.left, if_pos rfl, List.length_append, List.length_append, List.length_singleton, Nat.add_sub_cancel]

/-- The chip stores bytes in the entry it uses. -/
theorem RxLayout.store {new : List U8} (layout : RxLayout info before filling free taken bytes)
    (possible : (Reception.store new).possible info) :
    ∃ filling', filling'.length = filling.length ∧
      RxLayout (receive info (.store new)) before filling' free taken (bytes ++ new) := by
  obtain ⟨inUse, room⟩ := possible
  obtain ⟨front, e, rfl, split, pos⟩ := layout.last inUse
  have fills := layout.fills
  obtain ⟨filled, _, size⟩ := fills.used inUse
  rw [List.length_append, List.length_singleton, Nat.add_sub_cancel] at size
  have opens := fills.opens e (List.mem_append_right _ List.mem_cons_self)
  refine ⟨front ++ [{ e with data := Memory.blit e.data info.usc.rxDma.fill new }], ?_, layout.first, ?_, layout.useds,
    layout.frees, ⟨?_, ?_, ?_, ?_, fun _ => ⟨room, ?_, ?_⟩, fun moved => ?_⟩, ?_⟩
  · rw [List.length_append, List.length_append, List.length_singleton, List.length_singleton]
  · rw [receive_view (.store new) split pos, List.append_assoc, List.append_assoc, List.append_assoc,
      List.singleton_append]
    rfl
  · intro x member
    rcases List.mem_append.mp member with earlier | here
    · exact fills.opens x (List.mem_append_left _ earlier)
    · rw [List.mem_singleton.mp here]
      exact opens
  · show (info.usc.rxDma.frame ++ new).length = _
    rw [List.length_append, List.length_append, fills.frame]
    omega
  · show (info.usc.rxDma.frame ++ new).drop taken = _
    rw [List.drop_append_of_le_length (by rw [fills.frame]; omega), fills.rest]
  · -- what is read of the last page: the bytes before and those stored now
    have stored := fills.stored
    have inFront := length_pages front
    have filledBefore : bytes.length - (pages front).length = info.usc.rxDma.fill := by omega
    have filledAfter : (bytes ++ new).length - (pages front).length = info.usc.rxDma.fill + new.length := by
      rw [List.length_append]
      omega
    have page (x : DmaBufferEntry) {k : Nat} (within : k ≤ dmaBufferSize) :
        (pages [x]).take k = Memory.read x.data 0 k := by
      rw [pages_cons, List.take_append_of_le_length (by rw [x.length_page]; exact within), x.take_page within]
    rw [pages_append, List.take_append, List.take_of_length_le (by omega), filledBefore, page e filled] at stored
    rw [pages_append, List.take_append, List.take_of_length_le (by rw [List.length_append]; omega), filledAfter,
      page _ room, Memory.read_blit_end, ← List.append_assoc, stored]
  · rw [List.length_append, List.length_singleton]
    exact Nat.succ_pos _
  · rw [List.length_append, List.length_append, List.length_singleton, Nat.add_sub_cancel, size]
    show _ = _ + (info.usc.rxDma.fill + new.length)
    omega
  · exact absurd (inUse.symm.trans moved) (by decide)
  · have left : RxDma.left (receive info (.store new)).usc.rxDma
        (front ++ [{ e with data := Memory.blit e.data info.usc.rxDma.fill new }]) = front.length := by
      rw [RxDma.left, if_pos (show (receive info (.store new)).usc.rxDma.inUse = true from inUse), List.length_append,
        List.length_singleton, Nat.add_sub_cancel]
    rw [left]
    exact pos.trans (congrArg info.rxCell List.length_append)

/-- The chip leaves an entry that is full. -/
theorem RxLayout.move (layout : RxLayout info before filling free taken bytes) (possible : Reception.move.possible info) :
    RxLayout (receive info .move) before filling free taken bytes := by
  obtain ⟨inUse, full⟩ := possible
  obtain ⟨front, e, same, split, pos⟩ := layout.last inUse
  have fills := layout.fills
  obtain ⟨_, some, size⟩ := fills.used inUse
  refine ⟨layout.first, ?_, layout.useds, layout.frees, ⟨fills.opens, fills.frame, fills.rest, fills.stored,
    fun moved => Bool.noConfusion moved, fun _ => ?_⟩, ?_⟩
  · exact (receive_view .move split pos).trans (split.symm.trans layout.view)
  · rw [full] at size
    rw [size, ← Nat.succ_mul, Nat.succ_eq_add_one, Nat.sub_add_cancel some]
  · show next info.rxBufferCount info.usc.rxDma.pos = info.rxCell (before.length + filling.length)
    have inside := Nat.zero_lt_of_lt layout.first
    rw [pos, R56Struct.rxCell, next_cell inside, List.length_append, same, List.length_append, List.length_singleton]
    rfl

/-- The frame ends in the entry the chip uses. -/
theorem RxLayout.finish {status : U16} (layout : RxLayout info before filling free taken bytes)
    (possible : (Reception.finish status).possible info) :
    ∃ front e, filling = front ++ [e] ∧
      HoldsFrame (front ++ [{ e with status := status, rcc := BitVec.ofNat 16 (rclrValue - info.usc.rxDma.frame.length) }])
        taken bytes ∧
      RxLayout (receive info (.finish status))
        (before ++ (front ++ [{ e with status := status, rcc := BitVec.ofNat 16 (rclrValue - info.usc.rxDma.frame.length) }]))
        [] free 0 [] := by
  obtain ⟨inUse, bad⟩ := possible
  obtain ⟨front, e, rfl, split, pos⟩ := layout.last inUse
  have fills := layout.fills
  obtain ⟨filled, _, size⟩ := fills.used inUse
  rw [List.length_append, List.length_singleton, Nat.add_sub_cancel] at size
  refine ⟨front, e, rfl, ⟨⟨front, _, rfl, ?_, bad, ?_, ?_⟩, ?_, ?_⟩, layout.first, ?_, ?_, layout.frees,
    ⟨?_, rfl, rfl, rfl, ?_, ?_⟩, ?_⟩
  · exact fun x member => fills.opens x (List.mem_append_left _ member)
  · rw [← fills.frame]
  · omega
  · rw [List.length_append, List.length_singleton, Nat.succ_mul]
    omega
  · have stored := fills.stored
    rw [pages_append] at stored ⊢
    exact stored
  · rw [receive_view (.finish status) split pos]
    simp only [List.append_assoc, List.append_nil, List.singleton_append]
    rfl
  · intro x member
    rcases List.mem_append.mp member with earlier | here
    · exact layout.useds x earlier
    rcases List.mem_append.mp here with inFront | last
    · exact (fills.opens x (List.mem_append_left _ inFront)).2
    · rw [List.mem_singleton.mp last]
      exact (fills.opens e (List.mem_append_right _ List.mem_cons_self)).2
  · exact fun x member => absurd member List.not_mem_nil
  · exact fun inUse => Bool.noConfusion inUse
  · exact fun _ => (Nat.zero_mul _).symm
  · show next info.rxBufferCount info.usc.rxDma.pos = info.rxCell _
    have inside := Nat.zero_lt_of_lt layout.first
    rw [pos, R56Struct.rxCell, next_cell inside]
    simp only [List.length_append, List.length_singleton]
    rfl

/-- Entries at the front of the ring are freed. -/
theorem RxLayout.freed (front back filling' : List DmaBufferEntry) {e : DmaBufferEntry}
    {taken' : Nat} {bytes' : List U8} (layout : RxLayout info before filling free taken bytes)
    (split : before ++ filling = front ++ e :: (back ++ filling')) (within : ∀ x ∈ back, x ∈ before)
    (fills : Filling info.usc.rxDma filling' taken' bytes')
    (left : before.length + info.usc.rxDma.left filling = front.length + 1 + (back.length + info.usc.rxDma.left filling')) :
    RxLayout (r56FreeRxFrameBuffers info info.currentRxBuffer (info.rxCell front.length)) back filling'
      (free ++ (front ++ [e]).map fun x => x.reset info.build.lp64) taken' bytes' := by
  have whole : info.rxView = front ++ e :: (back ++ filling' ++ free) := by
    rw [layout.view, split, List.append_assoc, List.cons_append]
  obtain ⟨view, current⟩ := r56FreeRxFrameBuffers_view front layout.first whole
  refine ⟨?_, ?_, fun x member => layout.useds x (within x member), ?_, fills, ?_⟩
  · rw [current]
    exact cell_lt (Nat.zero_lt_of_lt layout.first)
  · rw [view, List.append_assoc]
  · intro x member
    rcases List.mem_append.mp member with earlier | here
    · exact layout.frees x earlier
    · obtain ⟨y, _, rfl⟩ := List.mem_map.mp here
      exact y.reset_free _
  · show info.usc.rxDma.pos = cell info.rxBufferCount _ _
    rw [layout.pos, current, R56Struct.rxCell, R56Struct.rxCell, cell_cell, left]
    rfl

end

end Route56
