import Lookout.Proofs.Polling.Parts
import Lookout.Proofs.Polling.Session
import Lookout.Proofs.Polling.Stop

set_option autoImplicit false

/-! # Handles, and what is left without them

A poller is there as long as somebody has a handle of it, or a callback of it is at work: the
completion that runs the callback keeps the poller until it is done. `Scene.Tended` ties the
count of open reports that a poller keeps to the reports that are open, and says that a
poller that is gone has no timer. A handle can only be made from a handle
(`Poller.held_of_perform`).
-/

namespace Lookout.Polling

open Journal (Entry)

/-! ## Reports that a poller keeps count of -/

namespace Poller

variable (p : Poller) (paused : Bool) (now : Nat)

/-- How many reports a deed ends. -/
def ends : Deed → Nat
  | .conclude .. => 1
  | .operate _ | .ask | .ring _ | .accept .. | .fail .. => 0

/-- A poller counts the reports that its deeds open and end. -/
theorem reports_perform (i : Nat) (d : Deed) :
    (p.perform paused now d).owners.reports
      = p.owners.reports - ends d + (p.opens? i d).toList.length := by
  cases d with
  | operate o =>
      rw [perform]
      split
      next => exact p.reports_operate paused now o
      next => rfl
  | ask =>
      rw [perform]
      split <;> rfl
  | ring k =>
      rw [perform, owners_ring]
      rfl
  | accept run seq status =>
      rw [perform, opens?]
      by_cases hCounts : p.Counts run seq
      · rw [report?_of_counts hCounts]
        obtain ⟨hAlive, hRun, hPolling, hNew⟩ := hCounts
        unfold accept
        rw [if_neg (by simp [hAlive, hRun, hPolling]), if_neg (by omega)]
        cases p.change? status <;> rfl
      · rw [report?_of_not_counts hCounts, accept_of_not_counts hCounts]
        rfl
  | fail run error =>
      rw [perform, owners_fail]
      rfl
  | conclude run current previous =>
      rw [perform, owners_conclude]
      rfl

/-! ### Nobody gets a handle from a poller without handles -/

/-- A success opens a report, or changes nothing about the owners. -/
theorem owners_accept (run seq : Nat) (status : Option String) :
    (p.accept run seq status).owners = p.owners ∨
      (p.accept run seq status).owners = p.owners.openReport := by
  unfold accept
  split
  next => exact .inl rfl
  next =>
    split
    next => exact .inl rfl
    next =>
      dsimp only
      split
      next => exact .inl rfl
      next => exact .inr rfl

theorem held_accept (run seq : Nat) (status : Option String) :
    (p.accept run seq status).owners.held = p.owners.held := by
  rcases p.owners_accept run seq status with hSame | hOpened
  · rw [hSame]
  · rw [hOpened]
    rfl

variable {p paused now} in
/-- It takes a handle to make another. -/
theorem held_of_perform {d : Deed} (h : (p.perform paused now d).owners.held = true) :
    p.owners.held = true := by
  cases d with
  | operate o =>
      rw [perform] at h
      split at h
      next hAllowed => exact held_of_allowed hAllowed
      next => exact h
  | ask =>
      rw [perform] at h
      split at h
      next hHeld => exact hHeld
      next => exact h
  | ring k =>
      rw [perform, owners_ring] at h
      exact h
  | accept run seq status =>
      rw [perform, held_accept] at h
      exact h
  | fail run error =>
      rw [perform, owners_fail] at h
      exact h
  | conclude run current previous =>
      rw [perform, owners_conclude] at h
      exact h

/-! ### What is recorded when a handle or a report ends -/

theorem records_release : p.release.fetches = p.fetches ∧ p.release.changes = p.changes ∧
    p.release.events = p.events := by
  unfold release
  split <;> exact ⟨rfl, rfl, rfl⟩

/-- The end of a report publishes its change, and nothing else. -/
theorem records_conclude (run : Nat) (current previous : String) :
    (p.conclude now run current previous).fetches = p.fetches ∧
      (p.conclude now run current previous).changes = p.changes ∧
      (p.conclude now run current previous).events
        = .statusChanged current previous :: p.events := by
  rw [conclude, (records_release _).1, (records_release _).2.1, (records_release _).2.2]
  split <;> exact ⟨rfl, rfl, rfl⟩

/-! ### Pollers that are gone have no timers -/

theorem live_release (h : p.release.alive = false) : p.release.timers.live = [] := by
  rw [alive_release] at h
  unfold release
  rw [h]
  rfl

/-- A deed that leaves a poller to nobody leaves it without timers. -/
theorem live_perform {d : Deed} (hBefore : p.alive = false → p.timers.live = [])
    (h : (p.perform paused now d).alive = false) : (p.perform paused now d).timers.live = [] := by
  -- A deed with which nobody gives up anything does not end the poller.
  have hKept : ∀ q : Poller, p.alive = true → q.owners = p.owners → q.alive = false →
      q.timers.live = [] := by
    intro q hAlive hOwners hGone
    rw [alive, hOwners] at hGone
    rw [alive, hGone] at hAlive
    cases hAlive
  cases d with
  | operate o =>
      rw [perform] at h ⊢
      split at h
      next hAllowed =>
        rw [if_pos hAllowed]
        have hAlive := alive_of_allowed hAllowed
        cases o with
        | start => exact hKept _ hAlive (p.owners_start paused now) h
        | stop => exact hKept _ hAlive p.owners_stop h
        | enterActive => exact hKept _ hAlive (p.owners_start paused now) h
        | exitActive => exact hKept _ hAlive (p.owners_exitActive now) h
        | clone => simp [operate, alive, Owners.any, Owners.held] at h
        | guard => simp [operate, alive, Owners.any, Owners.held] at h
        | dropMain => exact live_release _ h
        | dropClone => exact live_release _ h
        | dropGuard => exact live_release _ h
      next hNot =>
        rw [if_neg hNot]
        exact hBefore h
  | ask =>
      rw [perform] at h ⊢
      split at h
      next hHeld =>
        rw [if_pos hHeld]
        exact hBefore h
      next hNot =>
        rw [if_neg hNot]
        exact hBefore h
  | ring k =>
      have hSame : p.alive = false := by
        rw [perform, alive, owners_ring] at h
        exact h
      have hLive := hBefore hSame
      rw [perform, ring, hLive]
      exact hLive
  | accept run seq status =>
      by_cases hCounts : p.Counts run seq
      · -- What counts is meant for a poller that is there, and takes no handle from it.
        have hReports := p.reports_perform paused now 0 (.accept run seq status)
        have hOwners := p.held_accept run seq status
        have hAlive := hCounts.1
        rw [perform, alive, Owners.any, hOwners, Bool.or_eq_false_iff] at h
        rw [alive, Owners.any, h.1, Bool.false_or, decide_eq_true_iff] at hAlive
        rw [perform] at hReports
        have hNone := of_decide_eq_false h.2
        simp only [ends] at hReports
        omega
      · rw [perform, accept_of_not_counts hCounts] at h ⊢
        exact hBefore h
  | fail run error =>
      have hSame : p.alive = false := by
        rw [perform, alive, owners_fail] at h
        exact h
      rw [perform, fail, hSame, if_neg (by simp)]
      exact hBefore hSame
  | conclude run current previous => exact live_release _ h

end Poller

namespace Scene

variable {ω : Type}

/-- Poller `i`, which is `p`, knows how many reports of it are open; and once it is gone, it
has no timer. -/
structure Tended (s : Scene ω) (i : Nat) (p : Poller) : Prop where
  reports : p.owners.reports = (s.pending i).length
  timers : p.alive = false → p.timers.live = []

/-- The reports that a move opens are of the poller whose deed it is. -/
theorem filter_opened {s : Scene ω} {m : Move ω} {i j : Nat} {d : Deed} {p : Poller}
    (hDeed : s.deed? m = some (j, d)) (hp : s.fleet.pollers[j]? = some p) :
    (s.opened m).filter (·.poller = i) = if j = i then (p.opens? j d).toList else [] := by
  rw [opened_of_deed hDeed hp]
  cases hOpens : p.opens? j d with
  | none =>
      split <;> rfl
  | some r =>
      have hPoller := Poller.opens?_poller hOpens
      by_cases hj : j = i
      · simp [hj, hPoller]
      · simp [hj, hPoller]

/-- The reports of poller `i` that stay open when a move concludes one of another poller, or
none. -/
theorem staying_of_other {s : Scene ω} {m : Move ω} {i : Nat}
    (hOther : ∀ k r, m = .conclude k → s.reports[k]? = some r → r.poller ≠ i) :
    ((s.staying m).filter (·.poller = i)).Perm (s.pending i) := by
  cases m with
  | conclude k =>
      cases hr : s.reports[k]? with
      | none =>
          have hShort : s.reports.length ≤ k := List.getElem?_eq_none_iff.mp hr
          rw [staying, List.eraseIdx_of_length_le hShort]
          exact .refl _
      | some r =>
          have hPending := pending_eraseIdx (i := i) hr
          rw [if_neg (hOther k r rfl hr)] at hPending
          exact hPending.symm
  | _ => exact .refl _

variable [FetchSource ω]

theorem pending_move (s : Scene ω) (m : Move ω) (i : Nat) :
    (s.move m).pending i
      = (s.staying m).filter (·.poller = i) ++ (s.opened m).filter (·.poller = i) := by
  rw [pending, reports_eq, List.filter_append]

/-- What is pending of a poller after a move that is no deed of it. -/
theorem pending_of_other {s : Scene ω} {m : Move ω} {i : Nat}
    (hDeed : ∀ d, s.deed? m ≠ some (i, d)) : ((s.move m).pending i).Perm (s.pending i) := by
  have hStaying : ((s.staying m).filter (·.poller = i)).Perm (s.pending i) := by
    refine staying_of_other fun k r hm hr hPoller => ?_
    refine hDeed (.conclude r.run r.current r.previous) ?_
    rw [hm, deed?, hr, Option.map_some, hPoller]
  have hNone : (s.opened m).filter (·.poller = i) = [] := by
    cases hd : s.deed? m with
    | none =>
        rw [opened_of_none hd]
        rfl
    | some x =>
        obtain ⟨j, d⟩ := x
        cases hp : s.fleet.pollers[j]? with
        | none =>
            rw [opened, hd, Option.bind_some, hp]
            rfl
        | some p =>
            rw [filter_opened hd hp, if_neg]
            rintro rfl
            exact hDeed d hd
  rw [pending_move, hNone, List.append_nil]
  exact hStaying

/-- What is pending of a poller after a deed of it that ends no report. -/
theorem pending_of_deed {s : Scene ω} {m : Move ω} {i : Nat} {d : Deed} {p : Poller}
    (hDeed : s.deed? m = some (i, d)) (hp : s.fleet.pollers[i]? = some p)
    (hEnds : Poller.ends d = 0) :
    (s.move m).pending i = s.pending i ++ (p.opens? i d).toList := by
  rw [pending_move, filter_opened hDeed hp, if_pos rfl]
  refine congrArg (· ++ (p.opens? i d).toList) ?_
  cases meets_of_deed hDeed with
  | conclude => cases hEnds
  | _ => rfl

/-- What is pending of a poller after the end of a report of it. -/
theorem pending_of_conclude {s : Scene ω} {k : Nat} {r : Report} (hr : s.reports[k]? = some r) :
    (s.pending r.poller).Perm (r :: (s.move (.conclude k)).pending r.poller) := by
  have hPending := pending_eraseIdx (i := r.poller) hr
  rw [if_pos rfl] at hPending
  rw [pending_move, opened_of_not_land (by simp), List.filter_nil, List.append_nil]
  exact hPending

theorem Tended.move {s : Scene ω} {i : Nat} {p : Poller} (h : s.Tended i p)
    (hp : s.fleet.pollers[i]? = some p) (m : Move ω) :
    (s.move m).Tended i (s.turn m i p) := by
  by_cases hDeed : ∃ d, s.deed? m = some (i, d)
  · obtain ⟨d, hDeed⟩ := hDeed
    rw [turn_of_deed hDeed]
    refine ⟨?_, p.live_perform _ _ h.timers⟩
    have hCount := p.reports_perform s.fleet.gate.paused s.fleet.now i d
    by_cases hEnds : Poller.ends d = 0
    · rw [pending_of_deed hDeed hp hEnds, List.length_append, ← h.reports]
      omega
    · cases meets_of_deed hDeed with
      | conclude k r report poller =>
          subst poller
          have hPending := (pending_of_conclude report).length_eq
          rw [← h.reports, List.length_cons] at hPending
          simp only [Poller.ends, Poller.opens?, Option.toList_none, List.length_nil] at hCount
          omega
      | _ => exact absurd rfl hEnds
  · have hOther : ∀ d, s.deed? m ≠ some (i, d) := fun d hd => hDeed ⟨d, hd⟩
    have hSame : s.turn m i p = p := by
      rcases s.turn_cases m i p with hSame | ⟨d, hd, -⟩
      · exact hSame
      · exact absurd hd (hOther d)
    rw [hSame]
    exact ⟨h.reports.trans (pending_of_other hOther).length_eq.symm, h.timers⟩

/-- **Every poller keeps count of its open reports**, and has no timer once it is gone. -/
theorem Fresh.tended {s₀ : Scene ω} (h : s₀.Fresh) (past : List (Move ω)) {i : Nat} {p : Poller}
    (hp : (s₀.after past).fleet.pollers[i]? = some p) : (s₀.after past).Tended i p := by
  induction past generalizing p with
  | nil =>
      obtain ⟨name, cadence, callback, rfl⟩ := h.pollers p (List.mem_of_getElem? hp)
      refine ⟨?_, fun _ => rfl⟩
      rw [after, pending, h.reports]
      rfl
  | cons m past ih =>
      obtain ⟨q, hq, rfl⟩ := exists_of_move hp
      exact (ih hq).move hq m

omit [FetchSource ω] in
/-- Nobody gets a handle with a move that has none before it. -/
theorem held_of_turn {s : Scene ω} {m : Move ω} {i : Nat} {p : Poller}
    (h : (s.turn m i p).owners.held = true) : p.owners.held = true := by
  rcases s.turn_cases m i p with hSame | ⟨d, -, hTurn⟩
  · rw [hSame] at h
    exact h
  · rw [hTurn] at h
    exact Poller.held_of_perform h

/-- Whoever has a handle after a run, somebody had one before it. -/
theorem held_before {s : Scene ω} {i : Nat} {p q : Poller} (later : List (Move ω))
    (hp : s.fleet.pollers[i]? = some p) (hq : (s.after later).fleet.pollers[i]? = some q)
    (hHeld : q.owners.held = true) : p.owners.held = true := by
  induction later generalizing q with
  | nil =>
      obtain rfl := Option.some.inj (hp.symm.trans hq)
      exact hHeld
  | cons m later ih =>
      obtain ⟨q₀, hq₀, rfl⟩ := exists_of_move hq
      exact ih hq₀ (held_of_turn hHeld)

end Scene

end Lookout.Polling
