import Mathlib.Tactic

namespace BitField

variable {w : Nat} {a b m n : BitVec w}

/-- All bits of `a` are in the field `m`. -/
def Within (m a : BitVec w) : Prop := a &&& m = a

/-- The words have no bit in common. -/
def Apart (a b : BitVec w) : Prop := a &&& b = 0

instance (m a : BitVec w) : Decidable (Within m a) := inferInstanceAs (Decidable (_ = _))

instance (a b : BitVec w) : Decidable (Apart a b) := inferInstanceAs (Decidable (_ = _))

theorem Within.mono (within : Within m a) (wider : Within n m) : Within n a := by
  unfold Within at within wider ⊢
  rw [← within, BitVec.and_assoc, wider]

theorem Within.or (left : Within m a) (right : Within m b) : Within m (a ||| b) := by
  unfold Within at left right ⊢
  rw [BitVec.and_or_distrib_right, left, right]

theorem Within.and (within : Within m a) (b : BitVec w) : Within m (a &&& b) := by
  unfold Within at within ⊢
  rw [BitVec.and_assoc, BitVec.and_comm b m, ← BitVec.and_assoc, within]

theorem within_and (a m : BitVec w) : Within m (a &&& m) := by
  unfold Within
  rw [BitVec.and_assoc, BitVec.and_self]

/-- Words in fields that do not overlap have no bit in common. -/
theorem Apart.of_within (fields : Apart m n) (left : Within m a) (right : Within n b) : Apart a b := by
  unfold Apart at fields ⊢
  have both : a &&& b = (a &&& b) &&& (m &&& n) := by
    conv_lhs => rw [← left, ← right]
    ac_rfl
  rw [both, fields]
  exact BitVec.and_zero

/-- Nothing is carried between them. -/
theorem Apart.add_eq_or (apart : Apart a b) : a + b = a ||| b := BitVec.add_eq_or_of_and_eq_zero a b apart

/-- A field that is replaced is what it was replaced with. -/
theorem replace_and (a : BitVec w) (within : Within m b) : (a &&& ~~~m ||| b) &&& m = b := by
  unfold Within at within
  rw [BitVec.and_or_distrib_right, within, BitVec.and_assoc, BitVec.and_comm _ m, BitVec.and_not_self]
  simp

/-- The bits outside it are left alone. -/
theorem replace_and_not (a : BitVec w) (within : Within m b) : (a &&& ~~~m ||| b) &&& ~~~m = a &&& ~~~m := by
  unfold Within at within
  rw [← within, BitVec.and_or_distrib_right, BitVec.and_assoc, BitVec.and_self, BitVec.and_assoc b,
    BitVec.and_not_self]
  simp

end BitField
