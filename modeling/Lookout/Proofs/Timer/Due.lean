import Mathlib.Algebra.BigOperators.Group.List.Lemmas
import Mathlib.Algebra.Order.BigOperators.Group.List
import Mathlib.Algebra.Order.Group.Nat
import Mathlib.Algebra.Ring.Nat
import Mathlib.Data.List.MinMax
import Lookout.Timer.Basic

set_option autoImplicit false

/-! # What is due of a table of timers

A timer is ripe once its deadline has come. What is done to a table of timers never makes one
ripe that was not: timers are cancelled, and new ones are made with their deadlines ahead
(`Timers.Eases`). A timer that fires is not ripe any more, for if it is armed again its deadline
is a period away. `Timers.weight` adds up what the ripe timers weigh, whatever each of them is
taken to weigh; so it only goes down, and with each firing by what the timer weighs
(`weight_afterFiring`).
-/

namespace Lookout.Timers

variable {α : Type}

/-! ## The timer that fires next -/

/-- The timer that fires next has the least deadline, and is the first that has it. -/
theorem earliest_eq_argmin (l : List (Timer α)) : earliest l = l.argmin Timer.deadline := by
  induction l with
  | nil => rfl
  | cons x rest ih =>
      rw [earliest, List.argmin_cons, ih]
      cases rest.argmin Timer.deadline <;> rfl

/-- No live timer has a deadline before `t`. -/
def NotBefore (t : Nat) (timers : Timers α) : Prop := ∀ x ∈ timers.live, t ≤ x.deadline

/-- That is so if the next firing is not due before. -/
theorem notBefore_iff {t : Nat} {timers : Timers α} :
    timers.NotBefore t ↔ ∀ d, timers.due? = some d → t ≤ d := by
  have hNext : timers.next? = timers.live.argmin Timer.deadline := earliest_eq_argmin _
  rw [due?, hNext]
  constructor
  · intro h d hd
    obtain ⟨x, hFirst, rfl⟩ := Option.map_eq_some_iff.mp hd
    exact h x (List.argmin_mem hFirst)
  · intro h x hx
    cases hFirst : timers.live.argmin Timer.deadline with
    | none => simp [List.argmin_eq_none.mp hFirst] at hx
    | some y =>
        calc t ≤ y.deadline := h y.deadline (by rw [hFirst, Option.map_some])
          _ ≤ x.deadline := List.le_of_mem_argmin hx hFirst

/-- Once the next firing is due, the timer fires. -/
theorem fire?_of_due? {timers : Timers α} {d now : Nat} (hd : timers.due? = some d)
    (hDue : d ≤ now) :
    ∃ x ∈ timers.live, x.deadline = d ∧
      timers.fire? now = some (x.action, timers.afterFiring x now) := by
  obtain ⟨x, hNext, rfl⟩ := Option.map_eq_some_iff.mp hd
  refine ⟨x, List.argmin_mem ((earliest_eq_argmin _).symm.trans hNext), rfl, ?_⟩
  rw [fire?, hNext]
  exact if_pos hDue

/-! ## Ripe timers -/

/-- The live timers whose deadlines have come. -/
def ripe (now : Nat) (timers : Timers α) : List (Timer α) :=
  timers.live.filter (·.deadline ≤ now)

/-- A timer of `t'` that is ripe was so in `t`. -/
def Eases (now : Nat) (t t' : Timers α) : Prop := (t'.ripe now).Sublist (t.ripe now)

variable {now : Nat} {t t' t'' : Timers α}

theorem Eases.refl (t : Timers α) : t.Eases now t := List.Sublist.refl _

theorem Eases.trans (h : t.Eases now t') (h' : t'.Eases now t'') : t.Eases now t'' :=
  List.Sublist.trans h' h

theorem eases_cancel? (t : Timers α) (handle : Option Nat) : t.Eases now (t.cancel? handle) := by
  cases handle with
  | none => exact .refl t
  | some h => exact List.Sublist.filter _ List.filter_sublist

theorem eases_clear (t : Timers α) : t.Eases now t.clear := List.nil_sublist _

/-- A timer is made with its deadline ahead. -/
theorem eases_add (t : Timers α) {deadline : Nat} (h : now < deadline) (period : Option Nat)
    (action : α) : t.Eases now (t.add deadline period action) := by
  have hSame : (t.add deadline period action).ripe now = t.ripe now := by
    have hAhead : ¬ deadline ≤ now := Nat.not_le_of_lt h
    simp [ripe, add, hAhead]
  rw [Eases, hSame]

/-- What had no deadline before a time that has come, or comes next, has none. -/
theorem Eases.keeps (h : t.Eases now t') {time : Nat} (hTime : time ≤ now + 1)
    (ht : t.NotBefore time) : t'.NotBefore time := by
  intro x hx
  by_cases hRipe : x.deadline ≤ now
  · have hMem : x ∈ t'.ripe now := List.mem_filter.mpr ⟨hx, decide_eq_true hRipe⟩
    exact ht x (List.mem_filter.mp (h.subset hMem)).1
  · omega

theorem Eases.notBefore (h : t.Eases now t') (ht : t.NotBefore now) : t'.NotBefore now :=
  h.keeps (Nat.le_succ now) ht

/-- The periods of the live timers are positive. -/
def Steady (t : Timers α) : Prop := ∀ x ∈ t.live, ∀ p, x.period = some p → 0 < p

/-- A timer that fires on time is armed again for later, or not at all. -/
theorem ripe_afterFiring (hTimely : t.NotBefore now) (hSteady : t.Steady) (x : Timer α) :
    (t.afterFiring x now).ripe now = (t.ripe now).filter (·.handle ≠ x.handle) := by
  show (t.live.filterMap _).filter _ = (t.live.filter _).filter _
  have hRearmed : ∀ y ∈ t.live, ∀ z, y.rearmed now = some z → now < z.deadline := by
    intro y hy z hz
    obtain ⟨p, hp, rfl⟩ := Option.map_eq_some_iff.mp hz
    have hPos := hSteady y hy p hp
    have hBy := hTimely y hy
    show now < Timer.following p y.deadline now
    unfold Timer.following
    split <;> omega
  generalize t.live = l at hRearmed
  induction l with
  | nil => rfl
  | cons y rest ih =>
      have hRest := ih fun z hz => hRearmed z (List.mem_cons_of_mem y hz)
      by_cases hSame : y.handle = x.handle
      · -- It is taken out, or its deadline is ahead.
        cases hz : y.rearmed now with
        | none => simpa [hSame, hz] using hRest
        | some z =>
            have hAhead : ¬ z.deadline ≤ now :=
              Nat.not_le_of_lt (hRearmed y List.mem_cons_self z hz)
            simpa [hSame, hz, hAhead] using hRest
      · by_cases hRipe : y.deadline ≤ now
        · simpa [hSame, hRipe] using hRest
        · simpa [hSame, hRipe] using hRest

theorem eases_afterFiring (hTimely : t.NotBefore now) (hSteady : t.Steady) (x : Timer α) :
    t.Eases now (t.afterFiring x now) := by
  rw [Eases, ripe_afterFiring hTimely hSteady]
  exact List.filter_sublist

/-! ## Weights -/

/-- What the ripe timers weigh together. -/
def weight (w : α → Nat) (now : Nat) (t : Timers α) : Nat :=
  ((t.ripe now).map fun x => w x.action).sum

theorem Eases.weight_le (h : t.Eases now t') (w : α → Nat) : t'.weight w now ≤ t.weight w now :=
  (h.map _).sum_le_sum fun _ _ => Nat.zero_le _

/-- The ripe timers weigh no more than all that are live. -/
theorem weight_le_live (w : α → Nat) :
    t.weight w now ≤ (t.live.map fun x => w x.action).sum :=
  (List.filter_sublist.map _).sum_le_sum fun _ _ => Nat.zero_le _

/-- With a timer that fires goes what it weighs. -/
theorem weight_afterFiring [DecidableEq α] (hTimely : t.NotBefore now) (hSteady : t.Steady)
    {x : Timer α} (hx : x ∈ t.live) (hDue : x.deadline ≤ now) (w : α → Nat) :
    (t.afterFiring x now).weight w now + w x.action ≤ t.weight w now := by
  have hRipe : x ∈ t.ripe now := List.mem_filter.mpr ⟨hx, decide_eq_true hDue⟩
  have hGone : x ∉ (t.ripe now).filter (·.handle ≠ x.handle) := by simp
  have hLess : ((t.ripe now).filter (·.handle ≠ x.handle)).Sublist ((t.ripe now).erase x) := by
    have hErased := (List.filter_sublist (l := t.ripe now) (p := (·.handle ≠ x.handle))).erase x
    rwa [List.erase_of_not_mem hGone] at hErased
  have hSum := (hLess.map fun y => w y.action).sum_le_sum fun _ _ => Nat.zero_le _
  have hWhole := List.sum_map_erase (fun y : Timer α => w y.action) hRipe
  rw [weight, weight, ripe_afterFiring hTimely hSteady]
  omega

end Lookout.Timers
