import Mathlib.Tactic

namespace Transition

universe u v
variable {σ : Type u} {ε : Type v}

/-- `p` is a run of `step` from `s`. -/
def Run (step : σ → ε → σ → Prop) : σ → List (ε × σ) → Prop
  | _, [] => True
  | s, (e, t) :: rest => step s e t ∧ Run step t rest

instance decidableRun {step : σ → ε → σ → Prop} [∀ s e t, Decidable (step s e t)] :
    (s : σ) → (p : List (ε × σ)) → Decidable (Run step s p)
  | _, [] => .isTrue trivial
  | s, (e, t) :: rest =>
    have : Decidable (Run step t rest) := decidableRun t rest
    inferInstanceAs (Decidable (step s e t ∧ Run step t rest))

/-- The state in which a run ends. -/
def last : σ → List (ε × σ) → σ
  | s, [] => s
  | _, (_, t) :: rest => last t rest

variable {step other : σ → ε → σ → Prop}

@[simp] theorem run_nil (s : σ) : Run step s [] := trivial

@[simp] theorem run_cons {s t : σ} {e : ε} {rest : List (ε × σ)} :
    Run step s ((e, t) :: rest) ↔ step s e t ∧ Run step t rest := Iff.rfl

@[simp] theorem last_nil (s : σ) : last s ([] : List (ε × σ)) = s := rfl

@[simp] theorem last_cons (s t : σ) (e : ε) (rest : List (ε × σ)) :
    last s ((e, t) :: rest) = last t rest := rfl

theorem run_append {s : σ} {p q : List (ε × σ)} :
    Run step s (p ++ q) ↔ Run step s p ∧ Run step (last s p) q := by
  induction p generalizing s with
  | nil => simp
  | cons head rest ih =>
    obtain ⟨e, t⟩ := head
    simp only [List.cons_append, run_cons, last_cons, ih, and_assoc]

theorem last_append (s : σ) (p q : List (ε × σ)) : last s (p ++ q) = last (last s p) q := by
  induction p generalizing s with
  | nil => rfl
  | cons head rest ih => exact ih head.2

theorem run_and {s : σ} {p : List (ε × σ)} :
    Run (fun s e t => step s e t ∧ other s e t) s p ↔ Run step s p ∧ Run other s p := by
  induction p generalizing s with
  | nil => simp
  | cons head rest ih =>
    obtain ⟨e, t⟩ := head
    simp only [run_cons, ih]
    tauto

/-- The run that a partial function makes of a list of labels. -/
def trail (f : σ → ε → Option σ) : σ → List ε → List (ε × σ)
  | _, [] => []
  | s, e :: rest =>
    match f s e with
    | none => []
    | some t => (e, t) :: trail f t rest

theorem run_trail {f : σ → ε → Option σ} (s : σ) (es : List ε)
    (sound : ∀ s, ∀ e ∈ es, ∀ t, f s e = some t → step s e t) : Run step s (trail f s es) := by
  induction es generalizing s with
  | nil => trivial
  | cons e rest ih =>
    rw [trail]
    split
    · trivial
    · rename_i t here
      exact ⟨sound s e List.mem_cons_self t here, ih t fun s' e' member => sound s' e' (List.mem_cons_of_mem e member)⟩

/-- What every step preserves holds in every state of a run. -/
theorem Run.invariant {P : σ → Prop} (preserved : ∀ s e t, P s → step s e t → P t)
    {s : σ} {p : List (ε × σ)} (run : Run step s p) (init : P s) : ∀ x ∈ p, P x.2 := by
  induction p generalizing s with
  | nil => simp
  | cons head rest ih =>
    obtain ⟨e, t⟩ := head
    have here := preserved _ _ _ init run.1
    intro x member
    rcases List.mem_cons.mp member with rfl | later
    · exact here
    · exact ih run.2 here x later

theorem Run.last_invariant {P : σ → Prop} (preserved : ∀ s e t, P s → step s e t → P t)
    {s : σ} {p : List (ε × σ)} (run : Run step s p) (init : P s) : P (last s p) := by
  induction p generalizing s with
  | nil => exact init
  | cons head rest ih => exact ih run.2 (preserved _ _ _ init run.1)

/-- If a step leads to a good state exactly when it starts from one and meets its condition, a run
ends well exactly when it starts well and all its steps meet it. -/
theorem Run.last_iff {P Inv : σ → Prop} {cond : σ → ε → Prop} (preserved : ∀ s e t, Inv s → step s e t → Inv t)
    (exact_step : ∀ s e t, Inv s → step s e t → (P t ↔ P s ∧ cond s e))
    {s : σ} {p : List (ε × σ)} (run : Run step s p) (init : Inv s) :
    P (last s p) ↔ P s ∧ Run (fun s e _ => cond s e) s p := by
  induction p generalizing s with
  | nil => simp
  | cons head rest ih =>
    obtain ⟨e, t⟩ := head
    simp only [last_cons, run_cons]
    rw [ih run.2 (preserved _ _ _ init run.1), exact_step _ _ _ init run.1, and_assoc]

/-- What every step does from a state that meets an invariant, every step of a run does. -/
theorem Run.steps_of_invariant {Inv : σ → Prop}
    (preserved : ∀ s e t, Inv s → step s e t → Inv t ∧ other s e t)
    {s : σ} {p : List (ε × σ)} (run : Run step s p) (init : Inv s) : Run other s p := by
  induction p generalizing s with
  | nil => trivial
  | cons head rest ih =>
    obtain ⟨e, t⟩ := head
    have here := preserved _ _ _ init run.1
    exact ⟨here.2, ih run.2 here.1⟩

/-- If a property of steps amounts to a condition wherever an invariant holds, the runs
whose steps all have it are the runs whose steps all meet the condition. -/
theorem Run.iff_of_invariant {Inv : σ → Prop} {cond : σ → ε → σ → Prop}
    (preserved : ∀ s e t, Inv s → step s e t → Inv t)
    (exact_step : ∀ s e t, Inv s → step s e t → (other s e t ↔ cond s e t))
    {s : σ} {p : List (ε × σ)} (run : Run step s p) (init : Inv s) : Run other s p ↔ Run cond s p := by
  induction p generalizing s with
  | nil => exact Iff.rfl
  | cons head rest ih =>
    obtain ⟨e, t⟩ := head
    exact and_congr (exact_step _ _ _ init run.1) (ih run.2 (preserved _ _ _ init run.1))

/-- If a step from a good state is good and leads to a good state exactly when it meets its
condition, the good runs are the runs whose steps all meet it. -/
theorem Run.good_steps_iff {P Inv : σ → Prop} {cond : σ → ε → Prop}
    (exact_step : ∀ s e t, P s → Inv s → step s e t → (P t ∧ other s e t ↔ cond s e))
    (preserved : ∀ s e t, Inv s → step s e t → Inv t)
    {s : σ} {p : List (ε × σ)} (run : Run step s p) (init : P s) (inv : Inv s) :
    Run (fun s e t => P t ∧ other s e t) s p ↔ Run (fun s e _ => cond s e) s p := by
  induction p generalizing s with
  | nil => exact Iff.rfl
  | cons head rest ih =>
    obtain ⟨e, t⟩ := head
    have here := exact_step _ _ _ init inv run.1
    have next := preserved _ _ _ inv run.1
    constructor
    · rintro ⟨good, later⟩
      exact ⟨here.mp good, (ih run.2 good.1 next).mp later⟩
    · rintro ⟨met, later⟩
      have good := here.mpr met
      exact ⟨good, (ih run.2 good.1 next).mpr later⟩

/-- If the next state is good exactly when the step meets its condition, the
good runs are the runs whose steps all meet it. -/
theorem Run.good_iff {P Inv : σ → Prop} {cond : σ → ε → Prop}
    (exact_step : ∀ s e t, P s → Inv s → step s e t → (P t ↔ cond s e))
    (preserved : ∀ s e t, Inv s → step s e t → Inv t)
    {s : σ} {p : List (ε × σ)} (run : Run step s p) (init : P s) (inv : Inv s) :
    (∀ x ∈ p, P x.2) ↔ Run (fun s e _ => cond s e) s p := by
  induction p generalizing s with
  | nil => simp
  | cons head rest ih =>
    obtain ⟨e, t⟩ := head
    have here := exact_step _ _ _ init inv run.1
    have next := preserved _ _ _ inv run.1
    simp only [List.forall_mem_cons, run_cons]
    constructor
    · rintro ⟨good, later⟩
      exact ⟨here.mp good, (ih run.2 good next).mp later⟩
    · rintro ⟨met, later⟩
      have good := here.mpr met
      exact ⟨good, (ih run.2 good next).mpr later⟩

/-- The same, where the invariant is kept only by the steps that meet their condition. -/
theorem Run.good_iff_while {P Inv : σ → Prop} {cond : σ → ε → Prop}
    (exact_step : ∀ s e t, Inv s → step s e t → (P t ↔ cond s e))
    (preserved : ∀ s e t, Inv s → step s e t → cond s e → Inv t)
    {s : σ} {p : List (ε × σ)} (run : Run step s p) (inv : Inv s) :
    (∀ x ∈ p, P x.2) ↔ Run (fun s e _ => cond s e) s p := by
  induction p generalizing s with
  | nil => simp
  | cons head rest ih =>
    obtain ⟨e, t⟩ := head
    have here := exact_step _ _ _ inv run.1
    simp only [List.forall_mem_cons, run_cons]
    constructor
    · rintro ⟨good, later⟩
      have met := here.mp good
      exact ⟨met, (ih run.2 (preserved _ _ _ inv run.1 met)).mp later⟩
    · rintro ⟨met, later⟩
      exact ⟨here.mpr met, (ih run.2 (preserved _ _ _ inv run.1 met)).mpr later⟩

end Transition
