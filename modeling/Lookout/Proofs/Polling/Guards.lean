import Lookout.Proofs.Polling.Handles
import Lookout.Proofs.Polling.Window

set_option autoImplicit false

/-! # Guards

A guard starts its poller when it is taken and stops it when it is given up. It stops it also for the
other guards that are left: the poller is then forsaken (`Scene.forsaken`), and stays so until
somebody starts it again. If nobody stops a poller by hand, this is the only way in which one that
somebody guards comes not to poll.
-/

namespace Lookout.Polling

namespace Poller

/-- Whether a poller is forsaken once something has been done with a handle, if it was before or
not. -/
def forsakenBy (p : Poller) (before : Bool) : Operation → Bool
  | .dropGuard => 1 < p.owners.guards
  | .start | .guard | .enterActive => false
  | .stop | .exitActive | .clone | .dropMain | .dropClone => before

/-- Whether a poller is forsaken after a deed, if it was before or not. -/
def forsakes (p : Poller) (before : Bool) : Deed → Bool
  | .operate o => if o.allowed p.owners then p.forsakenBy before o else before
  | .ask | .ring _ | .accept .. | .fail .. | .conclude .. => before

/-- A poller that somebody guards polls, if it is not forsaken. -/
def Guarded (p : Poller) (forsaken : Bool) : Prop :=
  0 < p.owners.guards → p.mode.isPolling = !forsaken

variable {p q : Poller} {forsaken : Bool}

theorem Guarded.same (h : p.Guarded forsaken) (hGuards : q.owners.guards = p.owners.guards)
    (hPolling : q.mode.isPolling = p.mode.isPolling) : q.Guarded forsaken := by
  intro hHeld
  rw [hPolling]
  exact h (hGuards ▸ hHeld)

theorem guards_conclude (now : Nat) (p : Poller) (run : Nat) (current previous : String) :
    (p.conclude now run current previous).owners.guards = p.owners.guards := by
  rw [owners_conclude]
  rfl

theorem guards_dropGuard (paused : Bool) (now : Nat) (p : Poller) :
    (p.operate paused now .dropGuard).owners.guards = p.owners.guards - 1 := by
  rw [operate, owners_release]
  exact congrArg (fun o : Owners => o.guards - 1) p.owners_stop

theorem mode_dropGuard (paused : Bool) (now : Nat) (p : Poller) :
    (p.operate paused now .dropGuard).mode = .stopped :=
  (mode_release _).trans p.mode_stop

/-- What is done with a handle, other than stopping by hand. -/
theorem Guarded.operate (h : p.Guarded forsaken) (paused : Bool) (now : Nat) {o : Operation}
    (hStop : o ≠ .stop) : (p.operate paused now o).Guarded (p.forsakenBy forsaken o) := by
  cases o with
  | stop => exact absurd rfl hStop
  | start => exact fun _ => p.isPolling_start paused now
  | guard => exact fun _ => p.isPolling_start paused now
  | enterActive => exact fun _ => rfl
  | exitActive =>
      exact h.same (congrArg Owners.guards (p.owners_exitActive now))
        (p.quiet_exitActive now).polling
  | clone => exact h.same rfl rfl
  | dropMain =>
      refine h.same ?_ (congrArg Mode.isPolling (mode_release _))
      rw [Poller.operate, owners_release]
  | dropClone =>
      refine h.same ?_ (congrArg Mode.isPolling (mode_release _))
      rw [Poller.operate, owners_release]
  | dropGuard =>
      intro hHeld
      rw [guards_dropGuard] at hHeld
      have hOthers : 1 < p.owners.guards := by omega
      rw [mode_dropGuard, forsakenBy, decide_eq_true hOthers]
      rfl

/-- **Every deed** keeps a guarded poller polling, unless it forsakes it. -/
theorem Guarded.perform (h : p.Guarded forsaken) (paused : Bool) (now : Nat) {d : Deed}
    (hStop : d ≠ .operate .stop) :
    (p.perform paused now d).Guarded (p.forsakes forsaken d) := by
  cases d with
  | operate o =>
      rw [Poller.perform, forsakes]
      split
      next => exact h.operate paused now fun hSame => hStop (hSame ▸ rfl)
      next => exact h
  | ask =>
      rw [Poller.perform]
      split <;> exact h.same rfl rfl
  | ring k =>
      exact h.same (congrArg Owners.guards (p.owners_ring paused now k))
        (p.quiet_ring paused now k).polling
  | accept run seq status =>
      rw [Poller.perform]
      by_cases hCounts : p.Counts run seq
      · refine h.same ?_ (congrArg Mode.isPolling (accept_of_counts hCounts status).2.1)
        rcases p.owners_accept run seq status with hOwners | hOwners <;> rw [hOwners]
        rfl
      · rw [accept_of_not_counts hCounts]
        exact h
  | fail run error =>
      rw [Poller.perform, Poller.fail]
      split <;> exact h.same rfl rfl
  | conclude run current previous =>
      exact h.same (p.guards_conclude now run current previous)
        (p.quiet_conclude now run current previous).polling

end Poller

namespace Scene

variable {ω : Type}

/-- What a move makes of whether poller `i` is forsaken. -/
def forsakes (s : Scene ω) (i : Nat) (before : Bool) (m : Move ω) : Bool :=
  match s.deed? m, s.fleet.pollers[i]? with
  | some (j, d), some p => if j = i then p.forsakes before d else before
  | _, _ => before

variable [FetchSource ω]

/-- Whether poller `i` is forsaken after a run of moves: a guard of it was given up while there was
another, and it has not been started since. -/
def forsaken (s₀ : Scene ω) (i : Nat) : List (Move ω) → Bool
  | [] => false
  | m :: past => (s₀.after past).forsakes i (s₀.forsaken i past) m

/-- A poller that nobody stops by hand polls while it is guarded and not forsaken. -/
theorem Fresh.guarded {s₀ : Scene ω} (h : s₀.Fresh) {past : List (Move ω)} {i : Nat}
    (hStop : .operate i .stop ∉ past) {p : Poller}
    (hp : (s₀.after past).fleet.pollers[i]? = some p) : p.Guarded (s₀.forsaken i past) := by
  induction past generalizing p with
  | nil =>
      obtain ⟨name, cadence, callback, rfl⟩ := h.pollers p (List.mem_of_getElem? hp)
      exact fun hHeld => absurd hHeld (Nat.lt_irrefl 0)
  | cons m past ih =>
      obtain ⟨q, hq, rfl⟩ := exists_of_move hp
      have hBefore := ih (fun hMem => hStop (.tail _ hMem)) hq
      rw [forsaken, forsakes]
      cases hDeed : (s₀.after past).deed? m with
      | none =>
          rw [turn_of_none hDeed]
          exact hBefore
      | some x =>
          obtain ⟨j, d⟩ := x
          simp only [hq]
          by_cases hj : j = i
          · subst hj
            rw [turn_of_deed hDeed, if_pos rfl]
            refine hBefore.perform _ _ fun hSame => hStop ?_
            subst hSame
            cases meets_of_deed hDeed
            exact .head _
          · rw [turn_of_other hDeed hj, if_neg hj]
            exact hBefore

/-- **A guard keeps its poller polling until another guard is given up.** In every run in which nobody
stops a poller by hand, at every moment at which somebody guards it, it polls exactly if it is not
forsaken. Giving up a guard, the last or any other, stops it at once. -/
theorem guarded_polls {s₀ : Scene ω} (hFresh : s₀.Fresh) {past : List (Move ω)} {i : Nat}
    (hStop : .operate i .stop ∉ past) {p : Poller}
    (hp : (s₀.after past).fleet.pollers[i]? = some p) (hHeld : 0 < p.owners.guards) :
    (p.mode.isPolling = true ↔ s₀.forsaken i past = false) ∧
      ∃ q, ((s₀.after past).move (.operate i .dropGuard)).fleet.pollers[i]? = some q ∧
        q.mode = .stopped ∧ q.owners.guards + 1 = p.owners.guards := by
  refine ⟨?_, _, (getElem?_move _ _ i).trans (congrArg (Option.map _) hp), ?_⟩
  · rw [hFresh.guarded hStop hp hHeld, Bool.not_eq_true']
  · have hAllowed : Operation.dropGuard.allowed p.owners = true := decide_eq_true hHeld
    rw [turn_of_deed rfl, Poller.perform, if_pos hAllowed]
    refine ⟨p.mode_dropGuard _ _, ?_⟩
    rw [Poller.guards_dropGuard]
    omega

/-- Of two guards, one is given up. -/
def twoGuards : List (Move Scripts) :=
  [.operate 0 .dropGuard, .operate 0 .guard, .pass 500, .operate 0 .guard]

theorem guarded_polls_forsaken :
    ∃ p, (lone.after twoGuards).fleet.pollers[0]? = some p ∧ p.owners.guards = 1 ∧
      lone.forsaken 0 twoGuards = true ∧ ¬ p.mode.isPolling = true := by
  obtain ⟨p, hp, hGuards⟩ :
      ∃ p, (lone.after twoGuards).fleet.pollers[0]? = some p ∧ p.owners.guards = 1 :=
    ⟨_, rfl, rfl⟩
  have hStop : Move.operate 0 .stop ∉ twoGuards := by simp [twoGuards]
  refine ⟨p, hp, hGuards, rfl, fun hPolling => ?_⟩
  have hPolls := (guarded_polls lone_fresh hStop hp (hGuards ▸ Nat.one_pos)).1.mp hPolling
  exact nomatch hPolls

/-- It is not so that a guard keeps its poller polling for as long as it is there. -/
theorem guard_left_stopped :
    ¬ ∀ (past : List (Move Scripts)) (p : Poller), .operate 0 .stop ∉ past →
      (lone.after past).fleet.pollers[0]? = some p → 0 < p.owners.guards →
        p.mode.isPolling = true := by
  intro hClaim
  have hStop : Move.operate 0 .stop ∉ twoGuards := by simp [twoGuards]
  exact nomatch hClaim twoGuards _ hStop rfl (by decide)

end Scene

end Lookout.Polling
