import Mathlib.Tactic
import Mathlib.Data.List.Basic

namespace Memory

universe u
variable {α : Type u}

/-- The `len` cells from `off` on. -/
def read (m : Nat → α) (off len : Nat) : List α := (List.range len).map fun i => m (off + i)

/-- Overwrite the cells from `off` on with `src`. -/
def blit (m : Nat → α) (off : Nat) (src : List α) : Nat → α := fun i =>
  if h : off ≤ i ∧ i - off < src.length then src[i - off] else m i

@[simp] theorem length_read (m : Nat → α) (off len : Nat) : (read m off len).length = len := by
  simp [read]

@[simp] theorem read_zero (m : Nat → α) (off : Nat) : read m off 0 = [] := rfl

@[simp] theorem getElem_read {m : Nat → α} {off len i : Nat} (h : i < (read m off len).length) :
    (read m off len)[i] = m (off + i) := by
  simp [read]

theorem read_add (m : Nat → α) (off a b : Nat) :
    read m off (a + b) = read m off a ++ read m (off + a) b := by
  simp only [read, List.range_add, List.map_append, List.map_map]
  congr 2
  funext i
  simp only [Function.comp_apply, Nat.add_assoc]

theorem take_read (m : Nat → α) (off len k : Nat) :
    (read m off len).take k = read m off (min k len) := by
  simp only [read, ← List.map_take, List.take_range]

theorem read_congr {m m' : Nat → α} {off len : Nat}
    (same : ∀ i, i < len → m (off + i) = m' (off + i)) : read m off len = read m' off len :=
  List.map_congr_left fun i hi => same i (List.mem_range.mp hi)

theorem read_shift (m : Nat → α) (off len : Nat) : read (fun i => m (i + off)) 0 len = read m off len := by
  refine List.map_congr_left fun i _ => ?_
  show m (0 + i + off) = m (off + i)
  rw [Nat.zero_add, Nat.add_comm]

theorem read_succ (m : Nat → α) (off len : Nat) :
    read m off (len + 1) = read m off len ++ [m (off + len)] := by
  rw [read_add]
  rfl

/-- Storing the next cell extends what is read by it. -/
theorem read_store (m : Nat → α) (len : Nat) (x : α) :
    read (Function.update m len x) 0 (len + 1) = read m 0 len ++ [x] := by
  rw [read_succ, Nat.zero_add, Function.update_self]
  congr 1
  refine read_congr fun i hi => ?_
  rw [Nat.zero_add, Function.update_of_ne (by omega)]

@[simp] theorem blit_nil (m : Nat → α) (off : Nat) : blit m off [] = m := by
  funext i
  simp [blit]

theorem blit_of_lt {m : Nat → α} {off i : Nat} (src : List α) (h : i < off) : blit m off src i = m i := by
  unfold blit
  rw [dif_neg (by omega)]

theorem blit_of_ge {m : Nat → α} {off i : Nat} {src : List α} (h : off + src.length ≤ i) :
    blit m off src i = m i := by
  unfold blit
  rw [dif_neg (by omega)]

theorem read_blit (m : Nat → α) (off : Nat) (src : List α) : read (blit m off src) off src.length = src := by
  refine List.ext_getElem (by simp) fun i hi _ => ?_
  have inside : i < src.length := by simpa using hi
  rw [getElem_read]
  unfold blit
  rw [dif_pos (by omega)]
  congr 1
  omega

/-- A block write at the end of what is read extends it. -/
theorem read_blit_end (m : Nat → α) (off : Nat) (src : List α) :
    read (blit m off src) 0 (off + src.length) = read m 0 off ++ src := by
  have before : read (blit m off src) 0 off = read m 0 off :=
    read_congr fun i hi => by rw [Nat.zero_add, blit_of_lt src hi]
  rw [read_add, before, Nat.zero_add, read_blit]

/-- Two adjacent block writes are one. -/
theorem blit_append (m : Nat → α) (off : Nat) (a b : List α) :
    blit (blit m off a) (off + a.length) b = blit m off (a ++ b) := by
  funext i
  unfold blit
  by_cases inB : off + a.length ≤ i ∧ i - (off + a.length) < b.length
  · rw [dif_pos inB, dif_pos (by simp only [List.length_append]; omega),
      List.getElem_append_right (by omega)]
    congr 1
    omega
  · rw [dif_neg inB]
    by_cases inA : off ≤ i ∧ i - off < a.length
    · rw [dif_pos inA, dif_pos (by simp only [List.length_append]; omega), List.getElem_append_left inA.2]
    · rw [dif_neg inA, dif_neg (by simp only [List.length_append]; omega)]

end Memory
