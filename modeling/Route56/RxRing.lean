import Route56.Frame

namespace Route56

open CircularBuffer

/-- The chip has begun to use the entry and no frame has ended in it. -/
def DmaBufferEntry.open (e : DmaBufferEntry) : Prop := e.status = 0 ∧ e.count = 0

/-- The chip has not begun to use the entry. -/
def DmaBufferEntry.free (e : DmaBufferEntry) : Prop := e.status = 0 ∧ e.count ≠ 0

/-- A frame has ended in the entry. -/
def DmaBufferEntry.ends (e : DmaBufferEntry) : Prop := e.status ≠ 0

instance (e : DmaBufferEntry) : Decidable e.open := inferInstanceAs (Decidable (_ ∧ _))

instance (e : DmaBufferEntry) : Decidable e.free := inferInstanceAs (Decidable (_ ∧ _))

instance (e : DmaBufferEntry) : Decidable e.ends := inferInstanceAs (Decidable (_ ≠ _))

theorem DmaBufferEntry.cases (e : DmaBufferEntry) : e.open ∨ e.free ∨ e.ends := by
  by_cases status : e.status = 0
  · by_cases count : e.count = 0
    · exact .inl ⟨status, count⟩
    · exact .inr (.inl ⟨status, count⟩)
  · exact .inr (.inr status)

/-- The entry made free again. -/
def DmaBufferEntry.reset (e : DmaBufferEntry) (lp64 : Bool) : DmaBufferEntry := e.storeLong lp64 4096

theorem DmaBufferEntry.reset_free (e : DmaBufferEntry) (lp64 : Bool) : (e.reset lp64).free := by
  refine ⟨rfl, ?_⟩
  show (4096 : U16) ≠ 0
  decide

/-- The bytes of a full buffer. -/
def DmaBufferEntry.page (e : DmaBufferEntry) : List U8 := Memory.read e.data 0 dmaBufferSize

@[simp] theorem DmaBufferEntry.length_page (e : DmaBufferEntry) : e.page.length = dmaBufferSize := Memory.length_read _ _ _

theorem DmaBufferEntry.take_page (e : DmaBufferEntry) {k : Nat} (within : k ≤ dmaBufferSize) :
    e.page.take k = Memory.read e.data 0 k := by
  rw [DmaBufferEntry.page, Memory.take_read, Nat.min_eq_left within]

section

variable {list : Nat → DmaBufferEntry} {n c : Nat} {front back : List DmaBufferEntry} {e : DmaBufferEntry}

theorem length_of_view {α : Type*} {f : Nat → α} {n c : Nat} {front back : List α} {x : α}
    (split : view f n c = front ++ x :: back) : front.length < n := by
  have length := congrArg List.length split
  rw [length_view, List.length_append, List.length_cons] at length
  omega

/-- The cells before the one at a known place. -/
theorem view_front {α : Type*} {f : Nat → α} {n c : Nat} {front back : List α} {x : α}
    (split : view f n c = front ++ x :: back) {o : Nat} (before : o < front.length) :
    f (cell n c o) = front[o] := by
  have inside := length_of_view split
  have at_ := getElem?_view (f := f) (c := c) (show o < n by omega)
  rw [split, List.getElem?_append_left before, List.getElem?_eq_getElem before] at at_
  exact (Option.some.inj at_).symm

/-- A store to the cell at a known place. -/
theorem view_store {α : Type*} {f : Nat → α} {n c : Nat} {front back : List α} {x : α}
    (split : view f n c = front ++ x :: back) (y : α) :
    view (Function.update f (cell n c front.length) y) n c = front ++ y :: back := by
  rw [view_update (length_of_view split), split, List.set_append_right _ _ (Nat.le_refl _), Nat.sub_self,
    List.set_cons_zero]

/-- The search passes over open entries. -/
theorem searchRxFrame_skip (first : c < n) {o : Nat} (inside : o < n)
    (opens : ∀ p, p < o → (list (cell n c p)).open) :
    searchRxFrame list n c n c = searchRxFrame list n c (n - o) (cell n c o) := by
  induction o with
  | zero => rw [Nat.sub_zero, cell_zero first]
  | succ o ih =>
    have entry := opens o (Nat.lt_succ_self o)
    rw [ih (by omega) fun p before => opens p (by omega), show n - o = (n - (o + 1)) + 1 by omega]
    rw [searchRxFrame, if_neg (not_not.mpr entry.1), if_neg (not_not.mpr entry.2), next_cell (by omega)]
    have apart : ¬cell n c (o + 1) = c := by
      intro round
      have back := (cell_inj (c := c) inside (show 0 < n by omega)).mp (round.trans (cell_zero first).symm)
      omega
    rw [if_neg apart]

theorem searchRxFrame_at (first : c < n) (split : view list n c = front ++ e :: back) (opens : ∀ x ∈ front, x.open) :
    searchRxFrame list n c n c =
      searchRxFrame list n c (n - front.length) (cell n c front.length) := by
  refine searchRxFrame_skip first (length_of_view split) fun p before => ?_
  rw [view_front split before]
  exact opens _ (List.getElem_mem _)

theorem searchRxFrame_frame (first : c < n) (split : view list n c = front ++ e :: back)
    (opens : ∀ x ∈ front, x.open) (ends : e.ends) :
    searchRxFrame list n c n c = .frame (cell n c front.length) := by
  have inside := length_of_view split
  have entry := cell_of_view split
  rw [searchRxFrame_at first split opens, show n - front.length = (n - (front.length + 1)) + 1 by omega, searchRxFrame,
    entry, if_pos (show e.status ≠ 0 from ends)]

theorem searchRxFrame_unused (first : c < n) (split : view list n c = front ++ e :: back)
    (opens : ∀ x ∈ front, x.open) (free : e.free) :
    searchRxFrame list n c n c = .unused (cell n c front.length) := by
  have inside := length_of_view split
  have entry := cell_of_view split
  rw [searchRxFrame_at first split opens, show n - front.length = (n - (front.length + 1)) + 1 by omega, searchRxFrame,
    entry, if_neg (not_not.mpr free.1), if_pos free.2]

theorem searchRxFrame_exhausted (first : c < n) (opens : ∀ x ∈ view list n c, x.open) :
    searchRxFrame list n c n c = .exhausted c := by
  have entry (o : Nat) (inside : o < n) : (list (cell n c o)).open := by
    refine opens _ ?_
    rw [mem_view_iff first]
    exact ⟨_, cell_lt (by omega), rfl⟩
  rw [searchRxFrame_skip first (show n - 1 < n by omega) fun p before => entry p (by omega)]
  have last := entry (n - 1) (by omega)
  have round : next n (cell n c (n - 1)) = c := by
    rw [next_cell (by omega), show n - 1 + 1 = n by omega, cell_length, Nat.mod_eq_of_lt first]
  rw [show n - (n - 1) = 0 + 1 by omega, searchRxFrame, if_neg (not_not.mpr last.1), if_neg (not_not.mpr last.2), round,
    if_pos rfl]

/-- A list of entries up to the first that is not open. -/
theorem opens_split (entries : List DmaBufferEntry) :
    (∀ x ∈ entries, x.open) ∨
      ∃ front e back, entries = front ++ e :: back ∧ (∀ x ∈ front, x.open) ∧ (e.free ∨ e.ends) := by
  induction entries with
  | nil => exact .inl fun x member => absurd member List.not_mem_nil
  | cons x rest ih =>
    rcases x.cases with here | other
    · rcases ih with all | ⟨front, e, back, rfl, opens, stops⟩
      · refine .inl fun y member => ?_
        rcases List.mem_cons.mp member with rfl | later
        · exact here
        · exact all y later
      · refine .inr ⟨x :: front, e, back, rfl, fun y member => ?_, stops⟩
        rcases List.mem_cons.mp member with rfl | later
        · exact here
        · exact opens y later
    · exact .inr ⟨[], x, rest, rfl, fun y member => absurd member List.not_mem_nil, other⟩

/-- Entries from the one at offset `o` to the one at offset `k` are freed. -/
theorem freeRxEntries_spec (lp64 : Bool) {k : Nat} (last : k < n) :
    ∀ (fuel o : Nat) (list : Nat → DmaBufferEntry), o ≤ k → k < o + fuel →
      (freeRxEntries lp64 n (cell n c k) fuel (cell n c o) list).2 = cell n c (k + 1) ∧
      ∀ p, p < n → (freeRxEntries lp64 n (cell n c k) fuel (cell n c o) list).1 (cell n c p) =
        if o ≤ p ∧ p ≤ k then (list (cell n c p)).reset lp64 else list (cell n c p) := by
  intro fuel
  induction fuel with
  | zero =>
    intro o list below enough
    omega
  | succ fuel ih =>
    intro o list below enough
    have same {p : Nat} (inside : p < n) : cell n c p = cell n c o ↔ p = o := cell_inj inside (by omega)
    have entry {p : Nat} (inside : p < n) :
        Function.update list (cell n c o) ((list (cell n c o)).storeLong lp64 4096) (cell n c p) =
          if p = o then (list (cell n c p)).reset lp64 else list (cell n c p) := by
      by_cases here : p = o
      · rw [here, Function.update_self, if_pos rfl]
        rfl
      · rw [Function.update_of_ne fun equal => here ((same inside).mp equal), if_neg here]
    unfold freeRxEntries
    dsimp only
    by_cases done : o = k
    · subst done
      rw [if_pos rfl, next_cell (by omega)]
      refine ⟨rfl, fun p inside => (entry inside).trans ?_⟩
      exact if_congr (by omega) rfl rfl
    · rw [if_neg fun equal => done ((same last).mp equal.symm).symm, next_cell (by omega)]
      obtain ⟨index, entries⟩ := ih (o + 1) _ (by omega) (by omega)
      refine ⟨index, fun p inside => ?_⟩
      rw [entries p inside, entry inside]
      by_cases here : p = o
      · rw [if_neg (by omega), if_pos here, if_pos (by omega)]
      · rw [if_neg here]
        exact if_congr (by omega) rfl rfl

/-- A freed frame leaves the front of the ring and its entries come round to the end. -/
theorem freeRxEntries_view {lp64 : Bool} (first : c < n) (split : view list n c = front ++ e :: back) :
    let freed := freeRxEntries lp64 n (cell n c front.length) n c list
    view freed.1 n freed.2 = back ++ (front ++ [e]).map fun x => x.reset lp64 := by
  intro freed
  have inside := length_of_view split
  have spec := freeRxEntries_spec (c := c) lp64 inside n 0 list (Nat.zero_le _) (by omega)
  rw [cell_zero first] at spec
  obtain ⟨index, entries⟩ := spec
  have fromFirst : view freed.1 n c = ((front ++ [e]).map fun x => x.reset lp64) ++ back := by
    have whole : view list n c = (front ++ [e]) ++ back := by rw [split, List.append_assoc, List.singleton_append]
    have short : (front ++ [e]).length = front.length + 1 := List.length_append
    refine List.ext_getElem? fun p => ?_
    by_cases below : p < n
    · have entry : some (list (cell n c p)) = ((front ++ [e]) ++ back)[p]? := by rw [← whole, getElem?_view below]
      rw [getElem?_view below, entries p below]
      by_cases here : p < front.length + 1
      · rw [List.getElem?_append_left (by rw [short]; exact here)] at entry
        rw [if_pos ⟨Nat.zero_le _, by omega⟩, List.getElem?_append_left (by rw [List.length_map, short]; exact here),
          List.getElem?_map, ← entry]
        rfl
      · rw [List.getElem?_append_right (by rw [short]; omega)] at entry
        rw [if_neg (by omega), List.getElem?_append_right (by rw [List.length_map, short]; omega), List.length_map, ← entry]
    · have length := congrArg List.length whole
      rw [length_view, List.length_append] at length
      rw [List.getElem?_eq_none (by rw [length_view]; omega),
        List.getElem?_eq_none (by rw [List.length_append, List.length_map]; omega)]
  have moved := view_cell_append fromFirst
  rw [List.length_map, List.length_append, List.length_singleton] at moved
  show view freed.1 n (freeRxEntries lp64 n (cell n c front.length) n c list).2 = _
  rw [index]
  exact moved

/-- The bytes of the buffers, one after the other. -/
def pages (entries : List DmaBufferEntry) : List U8 := entries.flatMap DmaBufferEntry.page

theorem length_pages (entries : List DmaBufferEntry) : (pages entries).length = entries.length * dmaBufferSize := by
  induction entries with
  | nil => rfl
  | cons e rest ih =>
    rw [pages, List.flatMap_cons, List.length_append, DmaBufferEntry.length_page, List.length_cons]
    rw [pages] at ih
    rw [ih]
    ring

theorem pages_cons (e : DmaBufferEntry) (rest : List DmaBufferEntry) : pages (e :: rest) = e.page ++ pages rest := rfl

theorem pages_append (a b : List DmaBufferEntry) : pages (a ++ b) = pages a ++ pages b := List.flatMap_append

/-- The copy loop reads the pages in order. -/
theorem copyRxFrame_spec (fuel size : Nat) :
    ∀ (o : Nat) (entries : List DmaBufferEntry), (view list n c).drop o = entries → size ≤ fuel →
      size ≤ entries.length * dmaBufferSize → copyRxFrame list n fuel (cell n c o) size = (pages entries).take size := by
  induction fuel generalizing size with
  | zero =>
    intro o entries _ enough _
    rw [Nat.le_zero.mp enough, List.take_zero]
    rfl
  | succ fuel ih =>
    intro o entries rest enough room
    unfold copyRxFrame
    dsimp only
    by_cases none : size = 0
    · rw [if_pos none, none, List.take_zero]
    rw [if_neg none]
    cases entries with
    | nil =>
      rw [List.length_nil, Nat.zero_mul] at room
      omega
    | cons e later =>
      rw [List.length_cons, Nat.succ_mul] at room
      have inside : o < n := by
        have length := congrArg List.length rest
        rw [List.length_drop, length_view, List.length_cons] at length
        omega
      have here : list (cell n c o) = e := by
        have shown : o < (view list n c).length := by rwa [length_view]
        have head := List.drop_eq_getElem_cons shown
        rw [rest, getElem_view] at head
        exact (List.cons.inj head).1.symm
      have next_rest : (view list n c).drop (o + 1) = later := by
        rw [← List.drop_drop, rest, List.drop_one, List.tail_cons]
      have positive : 0 < dmaBufferSize := by decide
      rw [here, pages_cons]
      by_cases long : size > dmaBufferSize
      · rw [if_pos long, next_cell (by omega), ih (size - dmaBufferSize) (o + 1) later next_rest (by omega) (by omega)]
        have whole : e.page.take size = e.page := List.take_of_length_le (by rw [e.length_page]; omega)
        rw [List.take_append, whole, e.length_page]
        rfl
      · rw [if_neg long, Nat.sub_self]
        have ended : copyRxFrame list n fuel (next n (cell n c o)) 0 = [] := by
          cases fuel with
          | zero => rfl
          | succ fuel => rfl
        rw [ended, List.append_nil, List.take_append_of_le_length (by rw [e.length_page]; omega),
          e.take_page (by omega)]

end

/-- The ring from `current_rx_buffer`. -/
def R56Struct.rxView (info : R56Struct) : List DmaBufferEntry :=
  view info.rxBufferList info.rxBufferCount info.currentRxBuffer

/-- The entry `o` places after `current_rx_buffer`. -/
def R56Struct.rxCell (info : R56Struct) (o : Nat) : Nat := cell info.rxBufferCount info.currentRxBuffer o

theorem r56FreeRxFrameBuffers_view {info : R56Struct} (front : List DmaBufferEntry) {back : List DmaBufferEntry}
    {e : DmaBufferEntry}
    (first : info.currentRxBuffer < info.rxBufferCount) (split : info.rxView = front ++ e :: back) :
    let freed := r56FreeRxFrameBuffers info info.currentRxBuffer (info.rxCell front.length)
    freed.rxView = back ++ ((front ++ [e]).map fun x => x.reset info.build.lp64) ∧
      freed.currentRxBuffer = info.rxCell (front.length + 1) := by
  have spec := freeRxEntries_spec (c := info.currentRxBuffer) info.build.lp64 (length_of_view split)
    info.rxBufferCount 0 info.rxBufferList (Nat.zero_le _) (by have := length_of_view split; omega)
  rw [cell_zero first] at spec
  exact ⟨freeRxEntries_view first split, spec.1⟩

end Route56
