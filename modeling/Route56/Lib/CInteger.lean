import Mathlib.Tactic

namespace CInteger

/-- An integer type: its signedness and its width. -/
structure CType where
  signed : Bool
  bits : Nat

def ushort : CType := ⟨false, 16⟩
def int : CType := ⟨true, 32⟩
def uint : CType := ⟨false, 32⟩

/-- `x` lies in the range of `t`. -/
def CType.fits (t : CType) (x : Int) : Prop :=
  if t.signed then -2 ^ (t.bits - 1) ≤ x ∧ x < 2 ^ (t.bits - 1) else 0 ≤ x ∧ x < 2 ^ t.bits

instance (t : CType) (x : Int) : Decidable (t.fits x) :=
  inferInstanceAs (Decidable (if t.signed then _ else _))

/-- The value `x`, provided the type `t` has it. -/
def CType.exact (t : CType) (x : Int) : Option Int := if t.fits x then some x else none

theorem exact_of_fits {t : CType} {x : Int} (fits : t.fits x) : t.exact x = some x := if_pos fits

/-- A computation goes on exactly when the value it starts with is exact. -/
theorem exact_bind_eq_some {α : Type*} {t : CType} {x : Int} {f : Int → Option α} {a : α} :
    (t.exact x).bind f = some a ↔ t.fits x ∧ f x = some a := by
  by_cases fits : t.fits x
  · simp [exact_of_fits fits, fits]
  · have stuck : t.exact x = none := if_neg fits
    simp [stuck, fits]

@[simp] theorem ushort_fits {x : Int} : ushort.fits x ↔ 0 ≤ x ∧ x < 65536 := Iff.rfl

@[simp] theorem int_fits {x : Int} : int.fits x ↔ -2147483648 ≤ x ∧ x < 2147483648 := Iff.rfl

@[simp] theorem uint_fits {x : Int} : uint.fits x ↔ 0 ≤ x ∧ x < 4294967296 := Iff.rfl

end CInteger
