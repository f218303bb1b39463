import Mathlib.Tactic
import Mathlib.Algebra.Order.Floor.Semifield
import Mathlib.Data.Rat.Floor

namespace Nearest

/-- The integer nearest to `a / b`, the upper one of two. -/
def nearest (a b : ℕ) : ℕ := ⌊(a / b : ℚ) + 1 / 2⌋₊

theorem nearest_eq_div (a : ℕ) {b : ℕ} (pos : 0 < b) : nearest a b = (2 * a + b) / (2 * b) := by
  have denominator : (b : ℚ) ≠ 0 := by exact_mod_cast pos.ne'
  have sum : (a / b : ℚ) + 1 / 2 = ((2 * a + b : ℕ) : ℚ) / ((2 * b : ℕ) : ℚ) := by
    push_cast
    field_simp
  rw [nearest, sum, Nat.floor_div_eq_div]

theorem nearest_le_iff {a b : ℕ} (pos : 0 < b) (n : ℕ) : nearest a b ≤ n ↔ 2 * a < (2 * n + 1) * b := by
  have bound : (2 * a + b) / (2 * b) < n + 1 ↔ 2 * a + b < (n + 1) * (2 * b) := Nat.div_lt_iff_lt_mul (by omega)
  have product : (n + 1) * (2 * b) = (2 * n + 1) * b + b := by ring
  rw [nearest_eq_div a pos, ← Nat.lt_succ_iff, Nat.succ_eq_add_one, bound, product]
  omega

theorem nearest_pos_iff {a b : ℕ} (pos : 0 < b) : 0 < nearest a b ↔ b ≤ 2 * a := by
  have zero := nearest_le_iff (a := a) pos 0
  omega

/-- The remainder decides which of the two neighbours it is. -/
theorem nearest_eq_ite (a : ℕ) {b : ℕ} (pos : 0 < b) :
    nearest a b = if 2 * (a % b) < b then a / b else a / b + 1 := by
  have parts := Nat.div_add_mod a b
  have small := Nat.mod_lt a pos
  generalize a / b = q at parts ⊢
  generalize a % b = r at parts small ⊢
  have split : 2 * a + b = (2 * r + b) + 2 * b * q := by rw [← parts]; ring
  rw [nearest_eq_div a pos, split, Nat.add_mul_div_left _ _ (by omega)]
  split
  · rw [Nat.div_eq_of_lt (by omega), Nat.zero_add]
  · rw [Nat.div_eq_of_lt_le (k := 1) (by omega) (by omega), Nat.add_comm]

theorem nearest_antitone (a : ℕ) {b c : ℕ} (pos : 0 < b) (le : b ≤ c) : nearest a c ≤ nearest a b := by
  rw [nearest_le_iff (pos.trans_le le)]
  exact ((nearest_le_iff pos _).mp le_rfl).trans_le (Nat.mul_le_mul_left _ le)

end Nearest
