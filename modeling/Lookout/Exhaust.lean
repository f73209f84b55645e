set_option autoImplicit false

/-! # Running a machine until it has nothing left to do

A machine is a partial step: `some` of the next state while there is work, `none` when
there is none. `exhaust` repeats the step within a budget. What one step keeps, the
whole run keeps (`exhaust_induction`), and a run that stops before its budget is spent
stops for want of work (`exhaust_of_none`). A view that every step goes with is one that the
whole run goes with (`exhaust_map`). If every step brings down a number that the budget is not
less than, the budget is not spent before the work is done (`exhaust_ends`).
-/

namespace Lookout

variable {σ : Type}

/-- Repeats `step` until it has no work, at most `budget` times. -/
def exhaust (step : σ → Option σ) : Nat → σ → σ
  | 0, s => s
  | budget + 1, s =>
    match step s with
    | some next => exhaust step budget next
    | none => s

/-- A state with no work is where every run from it ends. -/
theorem exhaust_of_none {step : σ → Option σ} {s : σ} (h : step s = none) (budget : Nat) :
    exhaust step budget s = s := by
  cases budget with
  | zero => rfl
  | succ n => simp [exhaust, h]

/-- One piece of work, then the rest of the run. -/
theorem exhaust_of_some {step : σ → Option σ} {s next : σ} (h : step s = some next)
    (budget : Nat) : exhaust step (budget + 1) s = exhaust step budget next := by
  simp [exhaust, h]

/-- What every step keeps, a run keeps. -/
theorem exhaust_induction {step : σ → Option σ} {P : σ → Prop}
    (keep : ∀ s next, P s → step s = some next → P next) (budget : Nat) :
    ∀ s, P s → P (exhaust step budget s) := by
  induction budget with
  | zero => exact fun s h => h
  | succ n ih =>
    intro s h
    cases hs : step s with
    | none => rw [exhaust_of_none hs]; exact h
    | some next => rw [exhaust_of_some hs]; exact ih next (keep s next h hs)

/-- Seen through a view that every step goes with, a run is the run of what is seen. -/
theorem exhaust_map {τ : Type} {step : σ → Option σ} {seen : τ → Option τ} {view : σ → τ}
    (h : ∀ s, seen (view s) = (step s).map view) (budget : Nat) :
    ∀ s, exhaust seen budget (view s) = view (exhaust step budget s) := by
  induction budget with
  | zero => exact fun s => rfl
  | succ n ih =>
    intro s
    have hView := h s
    cases hs : step s with
    | none =>
      rw [hs] at hView
      rw [exhaust_of_none hView, exhaust_of_none hs]
    | some next =>
      rw [hs] at hView
      rw [exhaust_of_some hView, exhaust_of_some hs]
      exact ih next

/-- A budget no less than a number that every step brings down is enough to do all work. -/
theorem exhaust_ends {step : σ → Option σ} {P : σ → Prop} {left : σ → Nat}
    (keep : ∀ s next, P s → step s = some next → P next ∧ left next < left s) (budget : Nat) :
    ∀ s, P s → left s ≤ budget →
      P (exhaust step budget s) ∧ step (exhaust step budget s) = none := by
  induction budget with
  | zero =>
    intro s h hLeft
    refine ⟨h, ?_⟩
    cases hs : step s with
    | none => exact hs
    | some next => exact absurd (keep s next h hs).2 (by omega)
  | succ n ih =>
    intro s h hLeft
    cases hs : step s with
    | none => rw [exhaust_of_none hs]; exact ⟨h, hs⟩
    | some next =>
      obtain ⟨hNext, hLess⟩ := keep s next h hs
      rw [exhaust_of_some hs]
      exact ih next hNext (by omega)

end Lookout
