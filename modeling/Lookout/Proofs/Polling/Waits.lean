import Mathlib.Algebra.Order.BigOperators.Group.List
import Mathlib.Algebra.Order.Group.Nat
import Mathlib.Algebra.Ring.Nat
import Mathlib.Data.List.Perm.Subperm
import Lookout.Proofs.Polling.Rhythm

set_option autoImplicit false

/-! # How long a tick is waited for

Each change between idle and active replaces the tick timer by a new one, which waits for a full
period again. A `Wait` is such a timer, and `Scene.waits` lists those of a poller since it last
attempted a fetch. Every one of them was replaced, if it was, before its time was up
(`Cadence.Cut`). So the last attempt lies back by at most the sum of their periods, and by as much
as that if changes come just in time: asked often enough to be active, a poller never polls.
-/

namespace Lookout.Polling

/-- A tick timer, by when it was armed and the mode it was armed for. -/
structure Wait where
  since : Nat
  mode : Mode
  deriving Repr, DecidableEq

namespace Cadence

/-- **Waits that were cut short**, newest first: the first of them began at `t`, each lasted at most
its period before the next began, and the newest has lasted until `now`. -/
def Cut (c : Cadence) (t : Nat) : Nat → List Wait → Prop
  | now, [] => now = t
  | now, w :: earlier =>
    w.mode.isPolling = true ∧ w.since ≤ now ∧ now ≤ w.since + c.period w.mode ∧
      c.Cut t w.since earlier

variable {c : Cadence} {t now : Nat} {waits : List Wait}

/-- A wait may last longer, until its period is over. -/
theorem Cut.later {w : Wait} (h : c.Cut t now (w :: waits)) {now' : Nat} (hNow : now ≤ now')
    (hNext : now' ≤ w.since + c.period w.mode) : c.Cut t now' (w :: waits) :=
  ⟨h.1, Nat.le_trans h.2.1 hNow, hNext, h.2.2.2⟩

theorem Cut.isPolling (h : c.Cut t now waits) : ∀ w ∈ waits, w.mode.isPolling = true := by
  induction waits generalizing now with
  | nil => exact nofun
  | cons w earlier ih => exact List.forall_mem_cons.mpr ⟨h.1, ih h.2.2.2⟩

/-- **All waits together** last at most the sum of their periods. -/
theorem Cut.le_sum (h : c.Cut t now waits) :
    now ≤ t + (waits.map fun w => c.period w.mode).sum := by
  induction waits generalizing now with
  | nil => exact Nat.le_of_eq h
  | cons w earlier ih =>
      have hEarlier := ih h.2.2.2
      rw [List.map_cons, List.sum_cons]
      calc now ≤ w.since + c.period w.mode := h.2.2.1
        _ ≤ t + (earlier.map fun w => c.period w.mode).sum + c.period w.mode :=
            Nat.add_le_add_right hEarlier _
        _ = t + (c.period w.mode + (earlier.map fun w => c.period w.mode).sum) := by omega

/-- Modes in which a poller polls, each at most once, take one period of each at most. -/
theorem sum_period_le {modes : List Mode} (hPolling : ∀ m ∈ modes, m.isPolling = true)
    (hNodup : modes.Nodup) : (modes.map c.period).sum ≤ c.idle + c.active := by
  have hSubset : modes ⊆ [.idle, .active] := by
    intro m hm
    cases m with
    | stopped => cases hPolling _ hm
    | idle => exact .head _
    | active => exact .tail _ (.head _)
  obtain ⟨modes', hPerm, hSublist⟩ := List.subperm_of_subset hNodup hSubset
  calc (modes.map c.period).sum = (modes'.map c.period).sum := ((hPerm.map _).sum_nat).symm
    _ ≤ ([Mode.idle, .active].map c.period).sum := (hSublist.map _).sum_le_sum fun _ _ => Nat.zero_le _
    _ = c.idle + c.active := rfl

end Cadence

namespace Poller

/-- **What a poller waits for**: while it polls, it has attempted a fetch, it has waited since, and
its tick timer is the newest of the waits. -/
inductive Patient (now : Nat) (p : Poller) (waits : List Wait) (times : List Nat) : Prop
  | stopped (mode : p.mode.isPolling = false)
  | polling (t : Nat) (rest : List Nat) (w : Wait) (earlier : List Wait)
      (attempted : times = t :: rest) (waited : waits = w :: earlier)
      (polling : p.mode.isPolling = true) (mode : w.mode = p.mode)
      (due : p.DueAt (w.since + p.period)) (cut : p.cadence.Cut t now waits)

variable {p q : Poller} {now now' : Nat} {waits : List Wait} {times : List Nat}

/-- A tick ends all waits, and another begins. -/
theorem patient_of_tick (hPolling : q.mode.isPolling = true) (hDue : q.DueAt (now + q.period)) :
    q.Patient now [⟨now, q.mode⟩] (now :: times) :=
  .polling now times ⟨now, q.mode⟩ [] rfl rfl hPolling rfl hDue
    ⟨hPolling, Nat.le_refl now, Nat.le_add_right _ _, rfl⟩

/-- One wait is cut short by the next. -/
theorem Patient.rearmed (h : p.Patient now waits times) (hBefore : p.mode.isPolling = true)
    (hPolling : q.mode.isPolling = true) (hCadence : q.cadence = p.cadence)
    (hDue : q.DueAt (now + q.period)) : q.Patient now (⟨now, q.mode⟩ :: waits) times := by
  cases h with
  | stopped mode => rw [hBefore] at mode; cases mode
  | polling t rest w earlier attempted waited polling mode due cut =>
      refine .polling t rest ⟨now, q.mode⟩ waits attempted rfl hPolling rfl hDue ?_
      rw [hCadence]
      exact ⟨hPolling, Nat.le_refl now, Nat.le_add_right _ _, cut⟩

/-- Nothing happens to the rhythm. -/
theorem Patient.rests (h : p.Patient now waits times) (hStep : p.InStep q)
    (hCadence : q.cadence = p.cadence) : q.Patient now waits times := by
  have hPeriod : q.period = p.period := by rw [period, hCadence, hStep.mode, period]
  cases h with
  | stopped mode => exact .stopped (by rw [hStep.mode]; exact mode)
  | polling t rest w earlier attempted waited polling mode due cut =>
      refine .polling t rest w earlier attempted waited ?_ (mode.trans hStep.mode.symm) ?_ ?_
      · rw [hStep.mode]
        exact polling
      · rw [hPeriod]
        exact hStep.dueAt due
      · rw [hCadence]
        exact cut

/-- Time passes, and the tick timer is not overdue. -/
theorem Patient.later (h : p.Patient now waits times) (hNow : now ≤ now')
    (hOnTime : ∀ t ∈ p.timers.live, now' ≤ t.deadline) : p.Patient now' waits times := by
  cases h with
  | stopped mode => exact .stopped mode
  | polling t rest w earlier attempted waited polling mode due cut =>
      subst waited
      refine .polling t rest w earlier attempted rfl polling mode due (cut.later hNow ?_)
      obtain ⟨x, hx, -, hDeadline⟩ := due
      rw [mode]
      exact hDeadline ▸ hOnTime x hx

end Poller

namespace Scene

variable {ω : Type} [FetchSource ω] {s : Scene ω} {i : Nat} {m : Move ω} {p : Poller}
  {entered : Option Nat}

/-- The waits of poller `i` after a move, newest first. An attempt ends them all, and a new one
begins with it, or whenever an active window is opened, and when the poller goes from active to
idle. A poller that is stopped waits for nothing. -/
def markWaits (s : Scene ω) (i : Nat) (m : Move ω) (waits : List Wait) : List Wait :=
  let before := s.mode i
  let after := (s.move m).mode i
  if 0 < s.attemptsBy i m then [⟨s.fleet.now, after⟩]
  else if after.isPolling then
    if s.opens i m || (before = .active && after = .idle) then ⟨s.fleet.now, after⟩ :: waits
    else waits
  else []

/-- The tick timers that poller `i` has had since its last attempt in a run of moves. -/
def waits (s₀ : Scene ω) (i : Nat) : List (Move ω) → List Wait
  | [] => []
  | m :: past => (s₀.after past).markWaits i m (s₀.waits i past)

theorem markWaits_of_attempt (waits : List Wait) (hAttempt : 0 < s.attemptsBy i m) :
    s.markWaits i m waits = [⟨s.fleet.now, (s.move m).mode i⟩] :=
  if_pos hAttempt

theorem markWaits_of_same {waits : List Wait} (hNone : s.attemptsBy i m = 0)
    (hPolling : (s.mode i).isPolling = true) (hSame : (s.move m).mode i = s.mode i)
    (hOpens : s.opens i m = false) : s.markWaits i m waits = waits := by
  rw [markWaits, hNone, hSame]
  cases hMode : s.mode i with
  | stopped => rw [hMode] at hPolling; cases hPolling
  | idle => simp [Mode.isPolling, hOpens]
  | active => simp [Mode.isPolling, hOpens]

theorem markWaits_of_rearms {waits : List Wait} (hNone : s.attemptsBy i m = 0)
    (hAfter : ((s.move m).mode i).isPolling = true)
    (hCause : s.opens i m = true ∨ s.mode i = .active ∧ (s.move m).mode i = .idle) :
    s.markWaits i m waits = ⟨s.fleet.now, (s.move m).mode i⟩ :: waits := by
  simp [markWaits, hNone, hAfter, hCause]

/-- **Every move** of a run in which no timer is overdue leaves a poller patient. -/
theorem patient_move {waits : List Wait} {times : List Nat}
    (h : p.Patient s.fleet.now waits times) (hp : s.fleet.pollers[i]? = some p)
    (hSound : p.Sound entered) (hAlive : (s.turn m i p).alive = true)
    (hOnTime : ∀ t ∈ p.timers.live, s.fleet.now ≤ t.deadline) :
    (s.turn m i p).Patient s.fleet.now (s.markWaits i m waits)
      (List.replicate (s.attemptsBy i m) s.fleet.now ++ times) := by
  have hBefore : s.mode i = p.mode := mode_of_getElem? hp
  have hAfter : (s.move m).mode i = (s.turn m i p).mode :=
    mode_of_getElem? (by rw [getElem?_move, hp]; rfl)
  have hCadence : (s.turn m i p).cadence = p.cadence := (s.alike_turn m i p).cadence
  have hAttempts := attemptsBy_eq (m := m) hp hSound
  cases beat_turn hp hSound hAlive with
  | rests same hTicks hOpens =>
      have hNone : s.attemptsBy i m = 0 := by rw [hAttempts, hTicks]; rfl
      cases hPolling : p.mode.isPolling with
      | false => exact .stopped (by rw [same.mode, hPolling])
      | true =>
          rw [markWaits_of_same hNone (by rw [hBefore, hPolling])
            (by rw [hAfter, hBefore, same.mode]) hOpens, hNone]
          exact h.rests same hCadence
  | ticks deadline hMode hPolling due late next hTicks hOpens =>
      -- The timer is neither early nor late, so it fires at its time and keeps its rhythm.
      obtain ⟨x, hx, -, rfl⟩ := due
      have hExact : x.deadline = s.fleet.now := Nat.le_antisymm late (hOnTime x hx)
      rw [Timer.following, if_neg (by omega), hExact] at next
      have hOne : s.attemptsBy i m = 1 := by rw [hAttempts, hTicks]; rfl
      rw [markWaits_of_attempt waits (hOne ▸ Nat.one_pos), hOne, hAfter]
      refine Poller.patient_of_tick (by rw [hMode]; exact hPolling) ?_
      rw [Poller.period, hCadence, hMode]
      exact next
  | begins before hPolling next hTicks =>
      have hOne : s.attemptsBy i m = 1 := by rw [hAttempts, hTicks]; rfl
      rw [markWaits_of_attempt waits (hOne ▸ Nat.one_pos), hOne, hAfter]
      rw [← hCadence] at next
      exact Poller.patient_of_tick hPolling next
  | rearms before hPolling cause next hTicks =>
      have hNone : s.attemptsBy i m = 0 := by rw [hAttempts, hTicks]; rfl
      rw [markWaits_of_rearms hNone (by rw [hAfter, hPolling]) (by rw [hBefore, hAfter]; exact cause),
        hNone, hAfter]
      rw [← hCadence] at next
      exact h.rearmed before hPolling hCadence next
  | ends before hPolling hTicks => exact .stopped hPolling

/-- **A poller is patient** in every run in which time passes continuously. -/
theorem Fresh.patient {s₀ : Scene ω} (h : s₀.Fresh) {past : List (Move ω)}
    (hContinuous : s₀.Continuous i past) (hp : (s₀.after past).fleet.pollers[i]? = some p)
    (hAlive : p.alive = true) :
    p.Patient (s₀.after past).fleet.now (s₀.waits i past) (s₀.attempts i past) := by
  induction past generalizing p with
  | nil =>
      obtain ⟨name, cadence, callback, rfl⟩ := h.pollers p (List.mem_of_getElem? hp)
      exact .stopped rfl
  | cons m past ih =>
      have hOnTime := h.onTime hContinuous hp
      obtain ⟨q, hq, rfl⟩ := exists_of_move hp
      have hBefore := alive_of_turn hAlive
      have hMoved := patient_move (ih hContinuous.1 hq hBefore) hq (h.sound past hq hBefore) hAlive
        (h.onTime hContinuous.1 hq)
      refine hMoved.later ?_ hOnTime
      rw [after, now_move]
      exact Nat.le_add_right _ _

/-- **How long ago the last attempt was.** Let time pass continuously in a run, whatever else
happens. Then a poller that polls has attempted a fetch, and since then each of its tick timers but
the newest was replaced within its period. So the last attempt lies back by at most the sum of the
periods of the timers since, which is at most the idle and the active period together, unless the
timer was armed twice for one mode. -/
theorem last_attempt {s₀ : Scene ω} (hFresh : s₀.Fresh) {past : List (Move ω)}
    (hContinuous : s₀.Continuous i past) (hp : (s₀.after past).fleet.pollers[i]? = some p)
    (hAlive : p.alive = true) (hPolling : p.mode.isPolling = true) :
    let now := (s₀.after past).fleet.now
    let waits := s₀.waits i past
    ∃ t rest, s₀.attempts i past = t :: rest ∧ p.cadence.Cut t now waits ∧
      now ≤ t + (waits.map fun w => p.cadence.period w.mode).sum ∧
      ((waits.map Wait.mode).Nodup → now ≤ t + p.cadence.idle + p.cadence.active) := by
  cases hFresh.patient hContinuous hp hAlive with
  | stopped mode => rw [hPolling] at mode; cases mode
  | polling t rest w earlier attempted waited polling mode due cut =>
      refine ⟨t, rest, attempted, cut, cut.le_sum, fun hNodup => ?_⟩
      have hModes := p.cadence.sum_period_le (List.forall_mem_map.mpr cut.isPolling) hNodup
      rw [List.map_map] at hModes
      have hSum := cut.le_sum
      show (s₀.after past).fleet.now ≤ _
      have hSame : ((s₀.waits i past).map (p.cadence.period ∘ Wait.mode)).sum
          = ((s₀.waits i past).map fun w => p.cadence.period w.mode).sum := rfl
      omega

instance decidableContinuous (s₀ : Scene ω) (i : Nat) :
    (past : List (Move ω)) → Decidable (s₀.Continuous i past)
  | [] => .isTrue trivial
  | _ :: past => @instDecidableAnd _ _ (decidableContinuous s₀ i past) inferInstance

/-- A poller that is made active again every second and a half, ten times. -/
def pestered : List (Move Scripts) :=
  (List.replicate 10 [.operate 0 .enterActive, .pass 1500]).flatten ++ [.operate 0 .start]

/-- After one of those calls, it waits its idle and its active period at most. -/
theorem last_attempt_quickened :
    let past : List (Move Scripts) :=
      [.pass 1900, .operate 0 .enterActive, .pass 11900, .operate 0 .start]
    lone.attempts 0 past = [0] ∧ lone.waits 0 past = [⟨11900, .active⟩, ⟨0, .idle⟩] ∧
      13800 ≤ 0 + 12000 + 2000 := by
  intro past
  have hContinuous : lone.Continuous 0 past := by decide
  obtain ⟨p, hp, hAlive, hPolling, hCadence⟩ : ∃ p, (lone.after past).fleet.pollers[0]? = some p ∧
      p.alive = true ∧ p.mode.isPolling = true ∧ p.cadence = .standard :=
    ⟨_, rfl, rfl, rfl, rfl⟩
  obtain ⟨t, rest, hAttempts, -, -, hBound⟩ :=
    last_attempt lone_fresh hContinuous hp hAlive hPolling
  have hOnly : lone.attempts 0 past = [0] := by decide
  have hWaits : lone.waits 0 past = [⟨11900, .active⟩, ⟨0, .idle⟩] := by decide
  obtain ⟨rfl, -⟩ := List.cons.inj (hAttempts.symm.trans hOnly)
  rw [hWaits, hCadence] at hBound
  exact ⟨hOnly, hWaits, hBound (by decide)⟩

/-- It is not so that a poller that polls has attempted a fetch within its idle and active period. -/
theorem pestered_starves :
    ¬ ∀ (past : List (Move Scripts)) (p : Poller), lone.Continuous 0 past →
      (lone.after past).fleet.pollers[0]? = some p → p.alive = true → p.mode.isPolling = true →
        ∃ t ∈ lone.attempts 0 past,
          (lone.after past).fleet.now ≤ t + p.cadence.idle + p.cadence.active := by
  intro hClaim
  have hContinuous : lone.Continuous 0 pestered := by decide
  obtain ⟨t, ht, hBound⟩ := hClaim pestered _ hContinuous rfl (by decide) (by decide)
  have hOnly : lone.attempts 0 pestered = [0] := by decide
  rw [hOnly, List.mem_singleton] at ht
  subst ht
  exact absurd hBound (by decide)

end Scene

end Lookout.Polling
