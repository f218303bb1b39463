import Mathlib.Tactic
import Mathlib.Algebra.BigOperators.Group.Finset.Basic
import Mathlib.Data.Multiset.AddSub

universe u

/-- The resources held and the number of releases of something not held. -/
structure Ledger (α : Type u) where
  held : Multiset α := 0
  faults : Nat := 0

namespace Ledger

variable {α : Type u}

/-- What a pointer holds. -/
def pointee : Option α → Multiset α
  | none => 0
  | some r => {r}

/-- What the first `n` pointers hold. -/
def pointees (ps : Nat → Option α) (n : Nat) : Multiset α := ∑ i ∈ Finset.range n, pointee (ps i)

@[simp] theorem pointee_none : pointee (none : Option α) = 0 := rfl

@[simp] theorem pointee_some (r : α) : pointee (some r) = {r} := rfl

@[simp] theorem pointees_zero (ps : Nat → Option α) : pointees ps 0 = 0 := rfl

theorem pointees_succ (ps : Nat → Option α) (n : Nat) : pointees ps (n + 1) = pointees ps n + pointee (ps n) :=
  Finset.sum_range_succ _ _

theorem pointees_congr {ps qs : Nat → Option α} {n : Nat} (same : ∀ i < n, qs i = ps i) :
    pointees qs n = pointees ps n :=
  Finset.sum_congr rfl fun i member => by rw [same i (Finset.mem_range.mp member)]

theorem pointees_none {ps : Nat → Option α} {n : Nat} (none : ∀ i < n, ps i = none) : pointees ps n = 0 :=
  Finset.sum_eq_zero fun i member => by rw [none i (Finset.mem_range.mp member), pointee_none]

def acquire (l : Ledger α) (r : α) : Ledger α := { l with held := {r} + l.held }

/-- Acquire the resources `name 0`, `name 1` and so on below `n` until one is not granted: the
ledger, the pointers to what was acquired, and whether it was everything. -/
def acquireAll (l : Ledger α) (grant : Nat → Bool) (name : Nat → α) : Nat → Ledger α × (Nat → Option α) × Bool
  | 0 => (l, fun _ => none, true)
  | n + 1 =>
    let before := acquireAll l grant name n
    if before.2.2 ∧ grant n then
      (before.1.acquire (name n), Function.update before.2.1 n (some (name n)), true)
    else (before.1, before.2.1, false)

theorem acquireAll_spec (l : Ledger α) (grant : Nat → Bool) (name : Nat → α) (n : Nat) :
    (l.acquireAll grant name n).1 =
        ⟨pointees (l.acquireAll grant name n).2.1 n + l.held, l.faults⟩ ∧
      ∀ i, n ≤ i → (l.acquireAll grant name n).2.1 i = none := by
  induction n with
  | zero => exact ⟨by rw [pointees_zero, zero_add]; rfl, fun _ _ => rfl⟩
  | succ n ih =>
    obtain ⟨ledger, above⟩ := ih
    unfold acquireAll
    dsimp only
    split
    · generalize l.acquireAll grant name n = before at ledger above ⊢
      refine ⟨?_, ?_⟩
      · dsimp only
        have same : pointees (Function.update before.2.1 n (some (name n))) n = pointees before.2.1 n :=
          pointees_congr fun i below => Function.update_of_ne (by omega) _ _
        rw [pointees_succ, Function.update_self, same, ledger]
        simp only [acquire, pointee_some, mk.injEq, and_true]
        abel
      · intro i above'
        dsimp only
        rw [Function.update_of_ne (by omega)]
        exact above i (by omega)
    · refine ⟨?_, fun i above' => above i (by omega)⟩
      dsimp only
      rw [pointees_succ, above n (Nat.le_refl n), pointee_none, add_zero]
      exact ledger

variable [DecidableEq α]

def release (l : Ledger α) (r : α) : Ledger α :=
  if r ∈ l.held then { l with held := l.held.erase r } else { l with faults := l.faults + 1 }

/-- Release what a pointer holds. -/
def free (l : Ledger α) : Option α → Ledger α
  | none => l
  | some r => l.release r

/-- Release what the pointers below `n` hold, first to last. -/
def freeAll (l : Ledger α) (ps : Nat → Option α) : Nat → Ledger α
  | 0 => l
  | n + 1 => (freeAll l ps n).free (ps n)

/-- Release what the pointers below `n` hold, last to first. -/
def freeBack (l : Ledger α) (ps : Nat → Option α) : Nat → Ledger α
  | 0 => l
  | n + 1 => freeBack (l.free (ps n)) ps n

theorem release_held {l : Ledger α} {r : α} {rest : Multiset α} (held : l.held = {r} + rest) :
    l.release r = ⟨rest, l.faults⟩ := by
  have member : r ∈ l.held := by
    rw [held]
    exact Multiset.mem_add.mpr (.inl (Multiset.mem_singleton_self r))
  unfold release
  rw [if_pos member, held, Multiset.singleton_add, Multiset.erase_cons_head]

theorem free_held {l : Ledger α} {p : Option α} {rest : Multiset α} (held : l.held = pointee p + rest) :
    l.free p = ⟨rest, l.faults⟩ := by
  cases p with
  | none =>
    have same : l.held = rest := held.trans (zero_add rest)
    rw [← same]
    rfl
  | some r => exact release_held held

theorem freeAll_held {l : Ledger α} {ps : Nat → Option α} {n : Nat} {rest : Multiset α}
    (held : l.held = pointees ps n + rest) : l.freeAll ps n = ⟨rest, l.faults⟩ := by
  induction n generalizing rest with
  | zero =>
    have same : l.held = rest := held.trans (zero_add rest)
    rw [← same]
    rfl
  | succ n ih =>
    have before := @ih (pointee (ps n) + rest) (by rw [held, pointees_succ, add_assoc])
    unfold freeAll
    rw [before]
    exact free_held rfl

theorem freeBack_held {l : Ledger α} {ps : Nat → Option α} {n : Nat} {rest : Multiset α}
    (held : l.held = pointees ps n + rest) : l.freeBack ps n = ⟨rest, l.faults⟩ := by
  induction n generalizing l with
  | zero =>
    have same : l.held = rest := held.trans (zero_add rest)
    rw [← same]
    rfl
  | succ n ih =>
    have last := @free_held _ _ l (ps n) (pointees ps n + rest) (by rw [held, pointees_succ]; abel)
    unfold freeBack
    rw [last]
    exact ih rfl

end Ledger
