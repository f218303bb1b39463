import Mathlib.Tactic
import Mathlib.Data.List.Rotate

namespace Cycle

universe u
variable {α : Type u} {f : α → α} {e : ℕ → α} {n : ℕ}

/-- `f` leads from each of `e 0, …, e (n - 1)` to the next one, and from the last to the first. -/
def GoesRound (f : α → α) (e : ℕ → α) (n : ℕ) : Prop := ∀ i < n, f (e i) = e ((i + 1) % n)

theorem GoesRound.iterate (round : GoesRound f e n) {i : ℕ} (inside : i < n) (k : ℕ) :
    f^[k] (e i) = e ((i + k) % n) := by
  have pos : 0 < n := (Nat.zero_le i).trans_lt inside
  induction k with
  | zero => rw [Nat.add_zero, Nat.mod_eq_of_lt inside, Function.iterate_zero_apply]
  | succ k ih => rw [Function.iterate_succ_apply', ih, round _ (Nat.mod_lt _ pos), Nat.mod_add_mod, Nat.add_assoc]

/-- After `n` steps `f` is back. -/
theorem GoesRound.returns (round : GoesRound f e n) {i : ℕ} (inside : i < n) : f^[n] (e i) = e i := by
  rw [round.iterate inside, Nat.add_mod_right, Nat.mod_eq_of_lt inside]

/-- On the way `f` comes to all of them, to each one once. -/
theorem GoesRound.visits (round : GoesRound f e n) {i : ℕ} (inside : i < n) :
    ((List.range n).map fun k => f^[k] (e i)).Perm ((List.range n).map e) := by
  have rotated : (List.range n).map (fun k => f^[k] (e i)) = ((List.range n).rotate i).map e := by
    refine List.ext_getElem (by simp) fun k left right => ?_
    simp only [List.getElem_map, List.getElem_range, List.getElem_rotate, List.length_range]
    rw [round.iterate inside, Nat.add_comm]
  rw [rotated]
  exact (List.rotate_perm _ i).map e

end Cycle
