import Mathlib.Algebra.Group.Action.Defs
import Lookout.Exhaust
import Lookout.Proofs.Timer.Single
import Lookout.Timer.Session

set_option autoImplicit false

/-! # A desk makes a run of its bench

`Bench.after` takes moves in any order. A desk takes them in one: it lets time pass until the next
timer is due, which then fires, and does its commands in between. If its clock never jumps, all of
this makes a run in which time passes continuously, and once a command is done nothing is left to
fire (`session_comes`). So what holds of the firings in every such run holds of those that a desk
notes.

The budget that a desk is given is enough for that: a live timer can fire no more often than there
are milliseconds left from its deadline on (`Timers.left`).
-/

namespace Lookout

namespace Timers

variable {α : Type}

namespace Bench

/-- The timer that fires with a move. -/
def rung? (b : Bench α) : Move α → Option (Timer α)
  | .ring k => b.timers.live[k]?.filter fun t => decide (t.deadline ≤ b.now)
  | .after .. | .every .. | .cancel _ | .pass _ => none

/-- All firings of a run, newest first: when, and of which timer. -/
def log (b₀ : Bench α) : List (Move α) → List (Nat × Timer α)
  | [] => []
  | m :: past =>
    match (b₀.after past).rung? m with
    | none => b₀.log past
    | some t => ((b₀.after past).now, t) :: b₀.log past

theorem fires_eq_rung? (b : Bench α) (h : Nat) (m : Move α) :
    b.fires h m = (b.rung? m).any fun t => t.handle == h := by
  cases m with
  | ring k =>
      rw [fires, rung?]
      cases b.timers.live[k]? with
      | none => rfl
      | some t => by_cases hDue : t.deadline ≤ b.now <;> simp [Option.filter, hDue]
  | after | every | cancel | pass => rfl

/-- The firings of one timer, among all of them. -/
theorem firings_eq_log (b₀ : Bench α) (h : Nat) (past : List (Move α)) :
    b₀.firings h past = ((b₀.log past).filter fun x => x.2.handle = h).map Prod.fst := by
  induction past with
  | nil => rfl
  | cons m past ih =>
      rw [firings, log, fires_eq_rung?, ih]
      cases (b₀.after past).rung? m with
      | none => rfl
      | some t => by_cases hMine : t.handle = h <;> simp [hMine]

/-- Periods stay positive if only such timers are made. -/
theorem steady_move {b : Bench α} (hSteady : b.timers.Steady) {m : Move α}
    (hPeriod : ∀ period action, m = .every period action → 0 < period) :
    (b.move m).timers.Steady := by
  intro x hx p hp
  cases m with
  | after delay action =>
      rcases List.mem_append.mp hx with hOld | hNew
      · exact hSteady x hOld p hp
      · rw [List.mem_singleton.mp hNew] at hp
        exact nomatch hp
  | every period action =>
      rcases List.mem_append.mp hx with hOld | hNew
      · exact hSteady x hOld p hp
      · rw [List.mem_singleton.mp hNew] at hp
        obtain rfl := Option.some.inj hp
        exact hPeriod period action rfl
  | cancel handle => exact hSteady x (List.mem_filter.mp hx).1 p hp
  | pass ms => exact hSteady x hx p hp
  | ring k =>
      rcases move_ring_cases b k with ⟨hSame, -⟩ | ⟨t, -, -, hRung, -⟩
      · rw [hSame] at hx
        exact hSteady x hx p hp
      · rw [hRung] at hx
        rcases mem_afterFiring.mp hx with ⟨y, hy, -, hRearmed⟩ | ⟨hOld, -⟩
        · obtain ⟨p', hp', rfl⟩ := Option.map_eq_some_iff.mp hRearmed
          exact hSteady y hy p hp
        · exact hSteady x hOld p hp

theorem steady_after {past : List (Move α)}
    (hPeriods : ∀ period action, .every period action ∈ past → 0 < period) :
    (({} : Bench α).after past).timers.Steady := by
  induction past with
  | nil => exact nofun
  | cons m past ih =>
      exact steady_move (ih fun period action hMem => hPeriods period action (.tail _ hMem))
        fun period action hSame => hPeriods period action (hSame ▸ .head _)

end Bench

end Timers

/-! ## How much is left to fire -/

/-- How often a timer can fire by `target`, at most: once a millisecond. -/
def Timer.left {α : Type} (target : Nat) (x : Timer α) : Nat := target + 1 - x.deadline

/-- A timer that is armed again waits for longer than before. -/
theorem Timer.left_rearmed {α : Type} {x y : Timer α} (hPeriod : ∀ p, x.period = some p → 0 < p)
    {now target : Nat} (h : x.rearmed now = some y) :
    y.left target ≤ x.left target ∧ (x.deadline ≤ target → y.left target < x.left target) := by
  obtain ⟨p, hp, rfl⟩ := Option.map_eq_some_iff.mp h
  have hPos := hPeriod p hp
  have hLater : x.deadline < following p x.deadline now := by
    rw [following]
    split <;> omega
  show target + 1 - following p x.deadline now ≤ target + 1 - x.deadline ∧ (_ →
    target + 1 - following p x.deadline now < target + 1 - x.deadline)
  omega

namespace Timers

variable {α : Type}

/-- How often the live timers can fire by `target`, at most. -/
def left (target : Nat) (t : Timers α) : Nat := (t.live.map (·.left target)).sum

/-- What is left of a timer when that of a handle fires. -/
theorem sum_left_filterMap (l : List (Timer α)) (handle now target : Nat) :
    ((l.filterMap fun y => if y.handle = handle then y.rearmed now else some y).map
        (·.left target)).sum
      = (l.map fun y => if y.handle = handle then ((y.rearmed now).map (·.left target)).getD 0
          else y.left target).sum := by
  induction l with
  | nil => rfl
  | cons y rest ih =>
      rw [List.filterMap_cons, List.map_cons, List.sum_cons, ← ih]
      by_cases hSame : y.handle = handle
      · cases y.rearmed now with
        | none => simp [hSame]
        | some z => simp [hSame]
      · simp [hSame]

/-- **With a timer that fires** by `target`, less is left. -/
theorem left_afterFiring {t : Timers α} (hSteady : t.Steady) {x : Timer α} (hx : x ∈ t.live)
    {target : Nat} (hBy : x.deadline ≤ target) (now : Nat) :
    (t.afterFiring x now).left target < t.left target := by
  rw [left, afterFiring, sum_left_filterMap]
  refine List.sum_lt_sum _ _ (fun y hy => ?_) ⟨x, hx, ?_⟩
  · split
    next =>
      cases hz : y.rearmed now with
      | none => exact Nat.zero_le _
      | some z => exact (Timer.left_rearmed (hSteady y hy) hz).1
    next => exact Nat.le_refl _
  · rw [if_pos rfl]
    cases hz : x.rearmed now with
    | none => exact Nat.sub_pos_of_lt (Nat.lt_succ_of_le hBy)
    | some z => exact (Timer.left_rearmed (hSteady x hx) hz).2 hBy

/-- Timers that are not overdue can fire once in each millisecond that is left. -/
theorem left_le {t : Timers α} {target ms : Nat} (h : ∀ x ∈ t.live, target ≤ x.deadline + ms) :
    t.left target ≤ (ms + 1) * t.live.length := by
  have hBound := List.sum_le_card_nsmul (t.live.map (·.left target)) (ms + 1)
    (List.forall_mem_map.mpr fun x hx => by
      have hBy := h x hx
      rw [Timer.left]
      omega)
  rw [List.length_map, smul_eq_mul, Nat.mul_comm] at hBound
  exact hBound

namespace Desk

/-- The clock of a desk and its timers. -/
def bench (d : Desk) : Bench String := ⟨d.now, d.timers⟩

/-- **A desk comes of a run** in which time passes continuously, and has noted all its firings. -/
structure Comes (d : Desk) (past : List (Move String)) : Prop where
  bench : d.bench = ({} : Bench String).after past
  fired : d.fired = (({} : Bench String).log past).map fun x => (x.1, x.2.action)
  periods : ∀ period action, .every period action ∈ past → 0 < period
  continuous : ({} : Bench String).Continuous past

variable {d d' : Desk} {past : List (Move String)} {target ms : Nat}

theorem Comes.onTime (h : d.Comes past) : d.bench.OnTime := by
  rw [h.bench]
  exact h.continuous.onTime rfl

theorem Comes.steady (h : d.Comes past) : d.timers.Steady := by
  show d.bench.timers.Steady
  rw [h.bench]
  exact Bench.steady_after h.periods

/-- One move more, with which nothing fires. -/
theorem Comes.move (h : d.Comes past) {m : Move String} (hBench : d'.bench = d.bench.move m)
    (hFired : d'.fired = d.fired) (hSilent : d.bench.rung? m = none)
    (hPeriod : ∀ period action, m = .every period action → 0 < period)
    (hOnTime : d'.bench.OnTime) : d'.Comes (m :: past) where
  bench := by rw [hBench, h.bench, Bench.after]
  fired := by rw [hFired, h.fired, Bench.log, ← h.bench, hSilent]
  periods := by
    intro period action hMem
    rcases List.mem_cons.mp hMem with hSame | hOlder
    · exact hPeriod period action hSame.symm
    · exact h.periods period action hOlder
  continuous := ⟨h.continuous, by rwa [Bench.after, ← h.bench, ← hBench]⟩

/-- A timer that is due fires. -/
theorem Comes.fire (h : d.Comes past) {x : Timer String} (hx : x ∈ d.timers.live)
    (hDue : x.deadline ≤ d.now) :
    ∃ k, Comes { d with
        timers := d.timers.afterFiring x d.now
        fired := (d.now, x.action) :: d.fired } (.ring k :: past) := by
  obtain ⟨k, hk⟩ := List.mem_iff_getElem?.mp hx
  have hMove := Bench.move_ring (b := d.bench) hk hDue
  have hRung : d.bench.rung? (.ring k) = some x := by
    show d.timers.live[k]?.filter _ = _
    rw [hk]
    exact if_pos (decide_eq_true hDue)
  refine ⟨k, ?_, ?_, ?_, h.continuous, ?_⟩
  · rw [Bench.after, ← h.bench, hMove]
    rfl
  · rw [Bench.log, ← h.bench, hRung, List.map_cons, ← h.fired]
    rfl
  · intro period action hMem
    rcases List.mem_cons.mp hMem with hSame | hOlder
    · cases hSame
    · exact h.periods period action hOlder
  · rw [Bench.after, ← h.bench, hMove]
    exact (eases_afterFiring h.onTime h.steady x).notBefore h.onTime

/-- The clock goes on until something is due. -/
theorem Comes.pass (h : d.Comes past) (hNow : d.now ≤ target) (hNext : d.timers.NotBefore target) :
    Comes { d with now := target } (.pass (target - d.now) :: past) := by
  refine h.move ?_ rfl rfl nofun hNext
  show Bench.mk target d.timers = Bench.mk (d.now + (target - d.now)) d.timers
  rw [Nat.add_sub_cancel' hNow]

/-- What a step is, once something is due. -/
theorem step?_of_due? {due : Nat} (hFirst : d.timers.due? = some due) (hBy : due ≤ target) :
    ∃ x ∈ d.timers.live, x.deadline = due ∧
      d.step? target = some { d with
        now := max d.now due
        timers := d.timers.afterFiring x (max d.now due)
        fired := (max d.now due, x.action) :: d.fired } := by
  obtain ⟨x, hx, hDeadline, hFire⟩ := fire?_of_due? hFirst (Nat.le_max_right d.now due)
  refine ⟨x, hx, hDeadline, ?_⟩
  simp only [step?, hFirst, if_pos hBy, hFire, Option.map_some]

/-- Without anything to do, nothing is due. -/
theorem notBefore_of_step? (h : d.step? target = none) : d.timers.NotBefore (target + 1) := by
  refine notBefore_iff.mpr fun due hFirst => ?_
  by_contra hBefore
  have hBy : due ≤ target := by omega
  obtain ⟨x, -, -, hStep⟩ := step?_of_due? hFirst hBy
  exact nomatch h.symm.trans hStep

/-- **The timer that is due first** fires at its time. -/
theorem Comes.step (h : d.Comes past) (hStep : d.step? target = some d') :
    (∃ past', d'.Comes past') ∧ d'.now ≤ target ∧ d'.timers.left target < d.timers.left target := by
  cases hFirst : d.timers.due? with
  | none => simp [step?, hFirst] at hStep
  | some due =>
      by_cases hBy : due ≤ target
      · obtain ⟨x, hx, rfl, hDone⟩ := step?_of_due? hFirst hBy
        have hAhead : d.now ≤ x.deadline := h.onTime x hx
        rw [hDone, Nat.max_eq_right hAhead] at hStep
        obtain rfl := Option.some.inj hStep
        have hPassed := h.pass hAhead
          (notBefore_iff.mpr fun e he => (Option.some.inj (hFirst.symm.trans he)).le)
        obtain ⟨k, hFired⟩ := hPassed.fire hx (Nat.le_refl _)
        exact ⟨⟨_, hFired⟩, hBy, left_afterFiring h.steady hx hBy _⟩
      · simp [step?, hFirst, hBy] at hStep

/-- **Everything due by a time** fires, and nothing is left to fire then. -/
theorem Comes.runTo (h : d.Comes past) (hNow : d.now ≤ target) (hMs : target ≤ d.now + ms) :
    (∃ past', (d.runTo target ms).Comes past') ∧ (d.runTo target ms).bench.Settled := by
  have hBudget : d.timers.left target ≤ d.budget ms := by
    have hLeft : d.timers.left target ≤ (ms + 1) * d.timers.live.length :=
      left_le fun x hx => by
        have hAhead : d.now ≤ x.deadline := h.onTime x hx
        omega
    exact hLeft.trans (Nat.mul_le_mul_right _ (by omega))
  have hKeep : ∀ s next : Desk, ((∃ past, s.Comes past) ∧ s.now ≤ target) →
      s.step? target = some next → ((∃ past, next.Comes past) ∧ next.now ≤ target) ∧
        next.timers.left target < s.timers.left target := by
    rintro s next ⟨⟨past, hComes⟩, -⟩ hStep
    obtain ⟨hNext, hTime, hLess⟩ := hComes.step hStep
    exact ⟨⟨hNext, hTime⟩, hLess⟩
  obtain ⟨⟨⟨past', hComes⟩, hBy⟩, hDone⟩ :=
    exhaust_ends hKeep (d.budget ms) d ⟨⟨past, h⟩, hNow⟩ hBudget
  have hSettled := notBefore_of_step? hDone
  exact ⟨⟨_, hComes.pass hBy fun x hx => Nat.le_of_succ_le (hSettled x hx)⟩, hSettled⟩

/-- A handle that is dropped cancels its timer. -/
theorem Comes.drop (h : d.Comes past) (name : String) : ∃ past', (d.drop name).Comes past' := by
  rw [Desk.drop]
  cases d.kept.lookup name with
  | none => exact ⟨past, h.bench, h.fired, h.periods, h.continuous⟩
  | some handle =>
      refine ⟨.cancel handle :: past, h.move rfl rfl rfl nofun fun x hx => ?_⟩
      exact h.onTime x (List.mem_filter.mp hx).1

/-- A timer that is made takes the place of the one of its name. -/
theorem Comes.keep (h : d.Comes past) (name : String) {m : Move String} {timers : Timers String}
    (hMove : d.bench.move m = ⟨d.now, timers⟩) (hSilent : d.bench.rung? m = none)
    (hPeriod : ∀ period action, m = .every period action → 0 < period)
    (hAhead : timers.NotBefore d.now) : ∃ past', (d.keep name timers).Comes past' := by
  have hMade : Comes { d with timers := timers } (m :: past) :=
    h.move hMove.symm rfl hSilent hPeriod hAhead
  obtain ⟨past', hDropped⟩ := hMade.drop name
  exact ⟨past', hDropped.bench, hDropped.fired, hDropped.periods, hDropped.continuous⟩

/-- A timer is made with its deadline ahead. -/
theorem notBefore_add {t : Timers α} {now deadline : Nat} (ht : t.NotBefore now)
    (hAhead : now ≤ deadline) (period : Option Nat) (action : α) :
    (t.add deadline period action).NotBefore now := by
  intro x hx
  rcases List.mem_append.mp hx with hOld | hNew
  · exact ht x hOld
  · rw [List.mem_singleton.mp hNew]
    exact hAhead

/-- **Every command** but a jump of the clock makes moves, and what falls due with it is done. -/
theorem Comes.perform (h : d.Comes past) (hSettled : d.bench.Settled) {c : Command}
    (hJump : ∀ ms, c ≠ .jump ms) (hPeriod : ∀ name ms, c = .every name ms → 0 < ms) :
    (∃ past', (d.perform c).Comes past') ∧ (d.perform c).bench.Settled := by
  cases c with
  | after name ms =>
      obtain ⟨past', hKept⟩ := h.keep name (m := .after ms name) rfl rfl nofun
        (notBefore_add h.onTime (Nat.le_add_right _ _) _ _)
      exact hKept.runTo (Nat.le_refl d.now) (Nat.le_refl d.now)
  | every name ms =>
      obtain ⟨past', hKept⟩ := h.keep name (m := .every ms name) rfl rfl
        (fun period action hSame => by cases hSame; exact hPeriod name ms rfl)
        (notBefore_add h.onTime (Nat.le_add_right _ _) _ _)
      exact hKept.runTo (Nat.le_refl d.now) (Nat.le_refl d.now)
  | drop name =>
      refine ⟨h.drop name, fun x hx => hSettled x ?_⟩
      have hOld : x ∈ (d.timers.cancel? (d.kept.lookup name)).live := hx
      cases hHandle : d.kept.lookup name with
      | none => rwa [hHandle] at hOld
      | some handle =>
          rw [hHandle] at hOld
          exact (List.mem_filter.mp hOld).1
  | advance ms => exact h.runTo (Nat.le_add_right _ _) (Nat.le_refl _)
  | jump ms => exact absurd rfl (hJump ms)

/-- **A desk makes runs.** As long as its clock does not jump and periods are positive, a desk comes
after each command of a run in which time passes continuously, and nothing is left to fire. -/
theorem session_comes {commands : List Command} (hJump : ∀ ms, .jump ms ∉ commands)
    (hPeriods : ∀ name ms, .every name ms ∈ commands → 0 < ms) :
    ∀ d ∈ session {} commands, (∃ past, d.Comes past) ∧ d.bench.Settled := by
  have hAll : ∀ d : Desk, (∃ past, d.Comes past) → d.bench.Settled →
      ∀ d' ∈ session d commands, (∃ past, d'.Comes past) ∧ d'.bench.Settled := by
    induction commands with
    | nil => exact fun _ _ _ => nofun
    | cons c rest ih =>
        rintro d ⟨past, hComes⟩ hSettled d' hd'
        have hNext := hComes.perform hSettled
          (fun ms hSame => hJump ms (hSame ▸ .head _))
          (fun name ms hSame => hPeriods name ms (hSame ▸ .head _))
        rcases List.mem_cons.mp hd' with rfl | hLater
        · exact hNext
        · exact ih (fun ms hMem => hJump ms (.tail _ hMem))
            (fun name ms hMem => hPeriods name ms (.tail _ hMem)) _ hNext.1 hNext.2 d' hLater
  exact hAll {} ⟨[], rfl, rfl, nofun, trivial⟩ nofun

end Desk

end Timers

end Lookout
