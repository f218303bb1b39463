import Mathlib.Data.List.Rotate
import Mathlib.Tactic

namespace CircularBuffer

universe u
variable {α : Type u}

/-- Successor cell, as wrap-around code computes it. -/
def next (n i : Nat) : Nat := if i + 1 = n then 0 else i + 1

/-- The cell that is `o` cells after `c`. -/
def cell (n c o : Nat) : Nat := (c + o) % n

theorem next_lt {n i : Nat} (h : i < n) : next n i < n := by
  unfold next
  split <;> omega

theorem cell_lt {n c o : Nat} (h : 0 < n) : cell n c o < n := Nat.mod_lt _ h

theorem cell_zero {n c : Nat} (h : c < n) : cell n c 0 = c := Nat.mod_eq_of_lt h

theorem cell_length (n c : Nat) : cell n c n = c % n := Nat.add_mod_right c n

theorem cell_cell (n c o p : Nat) : cell n (cell n c o) p = cell n c (o + p) := by
  simp only [cell, Nat.mod_add_mod, Nat.add_assoc]

theorem next_eq_cell {n i : Nat} (h : i < n) : next n i = cell n i 1 := by
  unfold next cell
  split
  · rename_i wrap
    rw [wrap, Nat.mod_self]
  · exact (Nat.mod_eq_of_lt (by omega)).symm

theorem next_cell {n c o : Nat} (h : 0 < n) : next n (cell n c o) = cell n c (o + 1) := by
  rw [next_eq_cell (cell_lt h), cell_cell]

/-- Distinct offsets below the number of cells name distinct cells. -/
theorem cell_inj {n c o p : Nat} (ho : o < n) (hp : p < n) : cell n c o = cell n c p ↔ o = p := by
  constructor
  · intro same
    have congruent : o ≡ p [MOD n] := Nat.ModEq.add_left_cancel' c same
    exact Nat.ModEq.eq_of_lt_of_lt congruent ho hp
  · rintro rfl
    rfl

/-- Every cell is reached from every first cell. -/
theorem exists_offset {n c i : Nat} (hc : c < n) (hi : i < n) : ∃ o, o < n ∧ cell n c o = i := by
  by_cases ahead : c ≤ i
  · exact ⟨i - c, by omega, by unfold cell; rw [show c + (i - c) = i by omega, Nat.mod_eq_of_lt hi]⟩
  · refine ⟨i + n - c, by omega, ?_⟩
    unfold cell
    rw [show c + (i + n - c) = i + n by omega, Nat.add_mod_right, Nat.mod_eq_of_lt hi]

/-- The cells read in order from cell `c`, once round. -/
def view (f : Nat → α) (n c : Nat) : List α := (List.range n).map fun o => f (cell n c o)

@[simp] theorem length_view (f : Nat → α) (n c : Nat) : (view f n c).length = n := by
  simp [view]

theorem getElem_view {f : Nat → α} {n c o : Nat} (h : o < (view f n c).length) :
    (view f n c)[o] = f (cell n c o) := by
  simp [view]

theorem getElem?_view {f : Nat → α} {n c o : Nat} (h : o < n) :
    (view f n c)[o]? = some (f (cell n c o)) := by
  rw [List.getElem?_eq_getElem (by simpa using h), getElem_view]

theorem mem_view_iff {f : Nat → α} {n c : Nat} {x : α} (hc : c < n) :
    x ∈ view f n c ↔ ∃ i, i < n ∧ f i = x := by
  constructor
  · intro member
    obtain ⟨o, ho, rfl⟩ := List.mem_map.mp member
    exact ⟨_, cell_lt (Nat.zero_lt_of_lt hc), rfl⟩
  · rintro ⟨i, hi, rfl⟩
    obtain ⟨o, ho, rfl⟩ := exists_offset hc hi
    exact List.mem_map.mpr ⟨o, List.mem_range.mpr ho, rfl⟩

theorem view_update {f : Nat → α} {n c o : Nat} (ho : o < n) (x : α) :
    view (Function.update f (cell n c o) x) n c = (view f n c).set o x := by
  refine List.ext_getElem (by simp) fun p hp _ => ?_
  have inside : p < n := by simpa using hp
  rw [getElem_view, List.getElem_set]
  by_cases same : p = o
  · subst same
    rw [if_pos rfl, Function.update_self]
  · have apart : cell n c p ≠ cell n c o := fun h => same ((cell_inj inside ho).mp h)
    rw [if_neg (Ne.symm same), Function.update_of_ne apart, getElem_view]

/-- Moving the first cell forward rotates what is read. -/
theorem view_cell {f : Nat → α} {n c k : Nat} : view f n (cell n c k) = (view f n c).rotate k := by
  refine List.ext_getElem (by simp) fun o ho _ => ?_
  have inside : o < n := by simpa using ho
  rw [getElem_view, List.getElem_rotate, getElem_view, length_view, cell_cell]
  unfold cell
  rw [Nat.add_mod_mod, Nat.add_comm o k]

/-- The cells before the new first cell move to the end. -/
theorem view_cell_append {f : Nat → α} {n c : Nat} {front back : List α}
    (split : view f n c = front ++ back) : view f n (cell n c front.length) = back ++ front := by
  rw [view_cell, split, List.rotate_append_length_eq]

/-- The cell at a known place of the reading. -/
theorem cell_of_view {f : Nat → α} {n c : Nat} {front back : List α} {x : α}
    (split : view f n c = front ++ x :: back) : f (cell n c front.length) = x := by
  have inside : front.length < n := by
    have := congrArg List.length split
    simp only [length_view, List.length_append, List.length_cons] at this
    omega
  have at_ := getElem?_view (f := f) (c := c) inside
  rw [split, List.getElem?_append_right le_rfl, Nat.sub_self, List.getElem?_cons_zero] at at_
  exact (Option.some.inj at_).symm

/-- The first `k` cells from cell `c`. -/
def queue (f : Nat → α) (n c k : Nat) : List α := (List.range k).map fun o => f (cell n c o)

@[simp] theorem length_queue (f : Nat → α) (n c k : Nat) : (queue f n c k).length = k := by
  simp [queue]

/-- What is stored in the cell after the last one stands at the end of the queue. -/
theorem queue_push {f : Nat → α} {n c k : Nat} (room : k < n) (x : α) :
    queue (Function.update f (cell n c k) x) n c (k + 1) = queue f n c k ++ [x] := by
  unfold queue
  rw [List.range_succ, List.map_append, List.map_singleton, Function.update_self]
  congr 1
  refine List.map_congr_left fun o ho => ?_
  have before := List.mem_range.mp ho
  have apart : cell n c o ≠ cell n c k := fun same => by
    have equal := (cell_inj (by omega) room).mp same
    omega
  rw [Function.update_of_ne apart]

/-- The first cell leaves the queue. -/
theorem queue_pop {f : Nat → α} {n c : Nat} (k : Nat) (first : c < n) :
    queue f n c (k + 1) = f c :: queue f n (next n c) k := by
  unfold queue
  rw [List.range_succ_eq_map, List.map_cons, List.map_map, cell_zero first]
  congr 1
  refine List.map_congr_left fun o _ => ?_
  rw [Function.comp_apply, next_eq_cell first, cell_cell, Nat.add_comm 1 o]

end CircularBuffer
