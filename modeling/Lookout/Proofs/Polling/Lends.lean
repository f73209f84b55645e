import Lookout.Proofs.Polling.Handles

set_option autoImplicit false

/-! # Fewer handles

Two scenes may differ in nothing but the number of handles that there are of one poller
(`Scene.Lends`). As long as somebody still has a handle in the scene with fewer of them, the
two cannot be told apart: what a deed makes of the poller does not depend on who owns it, and
neither does what takes off with it, what it reports and what it writes. `Lends.move` says so
for one move, part by part, and `Lends.after` for a run.
-/

namespace Lookout.Polling

/-- `b` is what is left of the handles of `a`: some may have been given up, but no guard. -/
structure Owners.Lends (a b : Owners) : Prop where
  main : b.main = true → a.main = true
  clones : b.clones ≤ a.clones
  guards : b.guards = a.guards
  reports : b.reports = a.reports

theorem Owners.Lends.refl (a : Owners) : a.Lends a := ⟨id, Nat.le_refl _, rfl, rfl⟩

theorem Owners.Lends.held {a b : Owners} (h : a.Lends b) (hb : b.held = true) : a.held = true := by
  have hClones := h.clones
  have hGuards := h.guards
  simp only [Owners.held, Bool.or_eq_true, decide_eq_true_eq] at hb ⊢
  rcases hb with (hMain | hClone) | hGuard
  · exact .inl (.inl (h.main hMain))
  · exact .inl (.inr (by omega))
  · exact .inr (by omega)

/-- The owners without a plain handle that is given up, or was not there. -/
def Owners.without (a : Owners) : Operation → Owners
  | .dropMain => { a with main := false }
  | .dropClone => { a with clones := a.clones - 1 }
  | _ => a

theorem Owners.Lends.without {a b : Owners} (h : a.Lends b) (o : Operation) :
    (a.without o).Lends (b.without o) := by
  cases o with
  | dropMain => exact ⟨id, h.clones, h.guards, h.reports⟩
  | dropClone => exact ⟨h.main, Nat.sub_le_sub_right h.clones 1, h.guards, h.reports⟩
  | _ => exact h

theorem Owners.lends_without (a : Owners) (o : Operation) : a.Lends (a.without o) := by
  cases o with
  | dropMain => exact ⟨nofun, Nat.le_refl _, rfl, rfl⟩
  | dropClone => exact ⟨id, Nat.sub_le _ 1, rfl, rfl⟩
  | _ => exact .refl a

/-- Without a handle of the kind, there is none to be missed. -/
theorem Owners.without_of_not_allowed {a : Owners} {o : Operation} (h : o.allowed a = false) :
    a.without o = a := by
  cases o with
  | dropMain =>
      rw [Owners.without, ← h]
      rfl
  | dropClone =>
      have hZero : a.clones = 0 := by simpa [Operation.allowed] using h
      have hSame : a.clones - 1 = a.clones := by omega
      rw [Owners.without, hSame]
  | _ => rfl

namespace Poller

/-! ## What owners have no part in -/

section Own

variable (p : Poller) (o : Owners) (paused : Bool) (now : Nat)

theorem tick_own :
    ({ p with owners := o } : Poller).tick paused now = { p.tick paused now with owners := o } := by
  unfold tick
  split <;> rfl

theorem start_own :
    ({ p with owners := o } : Poller).start paused now
      = { p.start paused now with owners := o } := by
  unfold start
  dsimp only
  split
  next => rfl
  next =>
    have hTick := p.beginRun.tick_own o paused now
    show (Poller.tick paused now { p.beginRun with owners := o }).armTicks now p.cadence.idle = _
    rw [hTick]
    rfl

theorem stop_own : ({ p with owners := o } : Poller).stop = { p.stop with owners := o } := by
  unfold stop
  dsimp only
  split <;> rfl

theorem exitActive_own :
    ({ p with owners := o } : Poller).exitActive now = { p.exitActive now with owners := o } := by
  unfold exitActive
  dsimp only
  split <;> rfl

theorem onAlarm_own (a : Alarm) :
    ({ p with owners := o } : Poller).onAlarm paused now a
      = { p.onAlarm paused now a with owners := o } := by
  cases a with
  | tick generation =>
      rw [onAlarm, onAlarm]
      dsimp only
      split
      next => exact p.tick_own o paused now
      next => rfl
  | expiry generation =>
      rw [onAlarm, onAlarm]
      dsimp only
      split <;> rfl

theorem ring_own (k : Nat) :
    ({ p with owners := o } : Poller).ring paused now k
      = { p.ring paused now k with owners := o } := by
  unfold ring
  dsimp only
  split
  next => rfl
  next t _ =>
    split
    next => exact onAlarm_own { p with timers := p.timers.afterFiring t now } o paused now t.action
    next => rfl

end Own

/-! ## Plain handles -/

section GiveUp

variable (p : Poller) (paused : Bool) (now : Nat) {o : Operation}
  (hPlain : o = .dropMain ∨ o = .dropClone)
include hPlain

theorem operate_plain :
    p.operate paused now o = ({ p with owners := p.owners.without o } : Poller).release := by
  rcases hPlain with rfl | rfl <;> rfl

theorem owners_giveUp : (p.perform paused now (.operate o)).owners = p.owners.without o := by
  rw [perform]
  split
  next => rw [p.operate_plain paused now hPlain, owners_release]
  next hNot => exact (Owners.without_of_not_allowed (Bool.eq_false_iff.mpr hNot)).symm

/-- A plain handle is given up, if there is one of the kind, and the poller is still held. -/
theorem perform_giveUp (hHeld : (p.owners.without o).held = true) :
    p.perform paused now (.operate o) = { p with owners := p.owners.without o } := by
  rw [perform]
  split
  next =>
    rw [p.operate_plain paused now hPlain]
    exact release_of_alive (alive_of_held hHeld)
  next hNot => rw [Owners.without_of_not_allowed (Bool.eq_false_iff.mpr hNot)]

end GiveUp

/-- `q` is `p` with fewer handles. -/
structure Lends (p q : Poller) : Prop where
  same : q = { p with owners := q.owners }
  owners : p.owners.Lends q.owners

namespace Lends

variable {p q : Poller} {paused : Bool} {now : Nat}

/-- Something that owners have no part in. -/
theorem still (h : p.Lends q) {f : Poller → Poller}
    (hOwn : f { p with owners := q.owners } = { f p with owners := q.owners })
    (hOwners : (f p).owners = p.owners) : (f p).Lends (f q) := by
  have hOther : f q = { f p with owners := q.owners } := by
    rw [← hOwn, ← h.same]
  refine ⟨by rw [hOther], ?_⟩
  rw [hOther, hOwners]
  exact h.owners

/-- The owners of both change. -/
theorem own (h : p.Lends q) {a b : Owners} (hOwners : a.Lends b) :
    ({ p with owners := a } : Poller).Lends { q with owners := b } := by
  refine ⟨?_, hOwners⟩
  rw [h.same]

/-- A poller that somebody has a handle of is not released, with more handles or fewer. -/
theorem release (h : p.Lends q) (hHeld : q.owners.held = true) : p.release.Lends q.release := by
  rw [release_of_alive (alive_of_held (h.owners.held hHeld)),
    release_of_alive (alive_of_held hHeld)]
  exact h

/-- A plain handle is given up in both scenes, in which it need not be there. -/
theorem giveUp (h : p.Lends q) {o : Operation} (hPlain : o = .dropMain ∨ o = .dropClone)
    (hAfter : (q.perform paused now (.operate o)).owners.held = true) :
    (p.perform paused now (.operate o)).Lends (q.perform paused now (.operate o)) := by
  have hOwners := h.owners.without o
  rw [q.owners_giveUp paused now hPlain] at hAfter
  rw [p.perform_giveUp paused now hPlain (hOwners.held hAfter),
    q.perform_giveUp paused now hPlain hAfter]
  exact h.own hOwners

/-- Giving up a plain handle, but not the last handle, takes nothing else. -/
theorem ofDrop (p : Poller) (paused : Bool) (now : Nat) {o : Operation}
    (hPlain : o = .dropMain ∨ o = .dropClone)
    (hAfter : (p.perform paused now (.operate o)).owners.held = true) :
    p.Lends (p.perform paused now (.operate o)) := by
  rw [p.owners_giveUp paused now hPlain] at hAfter
  rw [p.perform_giveUp paused now hPlain hAfter]
  exact ⟨rfl, p.owners.lends_without o⟩

/-- What takes a handle of any kind can be done in both scenes. -/
theorem operate_held (h : p.Lends q) (hHeld : q.owners.held = true) {o : Operation}
    (hAllowed : ∀ a : Owners, o.allowed a = a.held)
    (hDone : (p.operate paused now o).Lends (q.operate paused now o)) :
    (p.perform paused now (.operate o)).Lends (q.perform paused now (.operate o)) := by
  have hBelow : o.allowed q.owners = true := (hAllowed _).trans hHeld
  have hAbove : o.allowed p.owners = true := (hAllowed _).trans (h.owners.held hHeld)
  rw [perform, perform, if_pos hBelow, if_pos hAbove]
  exact hDone

/-- What is done with a handle, there or not, that is not the last. -/
theorem operate (h : p.Lends q) (hHeld : q.owners.held = true) (o : Operation)
    (hAfter : (q.perform paused now (.operate o)).owners.held = true) :
    (p.perform paused now (.operate o)).Lends (q.perform paused now (.operate o)) := by
  have hStart := h.still (p.start_own q.owners paused now) (p.owners_start paused now)
  have hStop := h.still (p.stop_own q.owners) p.owners_stop
  have hMain := h.owners.main
  have hClones := h.owners.clones
  have hGuards := h.owners.guards
  have hReports := h.owners.reports
  cases o with
  | start => exact h.operate_held hHeld (fun _ => rfl) hStart
  | stop => exact h.operate_held hHeld (fun _ => rfl) hStop
  | enterActive =>
      have hOpened := hStart.still (f := (·.openWindow now)) rfl rfl
      exact h.operate_held hHeld (fun _ => rfl) hOpened
  | exitActive =>
      have hExit := h.still (p.exitActive_own q.owners now) (p.owners_exitActive now)
      exact h.operate_held hHeld (fun _ => rfl) hExit
  | clone =>
      have hCloned := h.own (a := { p.owners with clones := p.owners.clones + 1 })
        (b := { q.owners with clones := q.owners.clones + 1 })
        ⟨hMain, Nat.succ_le_succ hClones, hGuards, hReports⟩
      exact h.operate_held hHeld (fun _ => rfl) hCloned
  | guard =>
      have hOwners := hStart.owners
      have hGuarded := hStart.own
        (a := { (p.start paused now).owners with guards := (p.start paused now).owners.guards + 1 })
        (b := { (q.start paused now).owners with guards := (q.start paused now).owners.guards + 1 })
        ⟨hOwners.main, hOwners.clones, congrArg (· + 1) hOwners.guards, hOwners.reports⟩
      exact h.operate_held hHeld (fun _ => rfl) hGuarded
  | dropMain => exact h.giveUp (.inl rfl) hAfter
  | dropClone => exact h.giveUp (.inr rfl) hAfter
  | dropGuard =>
      -- There are as many guards in both, so the poller is stopped in both or in none.
      have hSame : Operation.dropGuard.allowed p.owners = Operation.dropGuard.allowed q.owners := by
        rw [Operation.allowed, Operation.allowed, hGuards]
      rw [perform] at hAfter
      rw [perform, perform, hSame]
      split at hAfter
      next hSome =>
        rw [if_pos hSome, if_pos hSome]
        have hOwners := hStop.owners
        have hGone := hStop.own
          (a := { p.stop.owners with guards := p.stop.owners.guards - 1 })
          (b := { q.stop.owners with guards := q.stop.owners.guards - 1 })
          ⟨hOwners.main, hOwners.clones, congrArg (· - 1) hOwners.guards, hOwners.reports⟩
        rw [Poller.operate, owners_release] at hAfter
        exact hGone.release hAfter
      next hNone =>
        rw [if_neg hNone, if_neg hNone]
        exact h

/-- A success is for both alike: both are there. -/
theorem accept (h : p.Lends q) (hHeld : q.owners.held = true) (run seq : Nat)
    (status : Option String) : (p.accept run seq status).Lends (q.accept run seq status) := by
  have hBelow := alive_of_held hHeld
  have hAbove := alive_of_held (h.owners.held hHeld)
  have hReports := h.owners.reports
  have hCounts : q.Counts run seq ↔ p.Counts run seq := by
    rw [Counts, Counts, hBelow, hAbove, h.same]
  by_cases hp : p.Counts run seq
  · have hApplied := h.still (f := fun r => (r.apply seq status).publish (.fetched status)) rfl rfl
    have hChange : q.change? status = p.change? status := by
      rw [h.same]
      rfl
    rw [accept_eq hp, accept_eq (hCounts.mpr hp), hChange]
    cases p.change? status with
    | none => exact hApplied
    | some x =>
        have hTold := hApplied.still (f := fun r => { r with changes := x :: r.changes }) rfl rfl
        exact hTold.own ⟨h.owners.main, h.owners.clones, h.owners.guards, congrArg (· + 1) hReports⟩
  · rw [accept_of_not_counts hp, accept_of_not_counts fun hq => hp (hCounts.mp hq)]
    exact h

/-- A failure is for both alike: both are there. -/
theorem fail (h : p.Lends q) (hHeld : q.owners.held = true) (run : Nat) (error : String) :
    (p.fail run error).Lends (q.fail run error) := by
  have hBelow := alive_of_held hHeld
  have hAbove := alive_of_held (h.owners.held hHeld)
  have hRun : q.run = p.run := by rw [h.same]
  unfold Poller.fail
  rw [hBelow, hAbove, hRun]
  split
  next => exact h.still (f := (·.publish (.failed error))) rfl rfl
  next => exact h

/-- The end of a report ends neither poller. -/
theorem conclude (h : p.Lends q) (hHeld : q.owners.held = true) (run : Nat)
    (current previous : String) :
    (p.conclude now run current previous).Lends (q.conclude now run current previous) := by
  have hTold := h.still (f := (·.publish (.statusChanged current previous))) rfl rfl
  have hReports := h.owners.reports
  have hEnded : ∀ {a b : Poller}, a.Lends b → b.owners = q.owners → a.owners = p.owners →
      a.endReport.release.Lends b.endReport.release := by
    intro a b hab hb ha
    refine release (hab.own ?_) ?_
    · rw [ha, hb]
      exact ⟨h.owners.main, h.owners.clones, h.owners.guards, congrArg (· - 1) hReports⟩
    · show b.owners.held = true
      rw [hb]
      exact hHeld
  have hSame : ((q.publish (.statusChanged current previous)).run = run ∧
        (q.publish (.statusChanged current previous)).mode = .active)
      ↔ ((p.publish (.statusChanged current previous)).run = run ∧
        (p.publish (.statusChanged current previous)).mode = .active) := by
    rw [h.same]
    rfl
  rw [Poller.conclude, Poller.conclude]
  by_cases hMeant : (p.publish (.statusChanged current previous)).run = run ∧
      (p.publish (.statusChanged current previous)).mode = .active
  · rw [if_pos hMeant, if_pos (hSame.mpr hMeant)]
    exact hEnded (hTold.still (f := (·.closeWindow now)) rfl rfl) rfl rfl
  · rw [if_neg hMeant, if_neg fun hOther => hMeant (hSame.mp hOther)]
    exact hEnded hTold rfl rfl

/-- **A deed is to both pollers the same**, as long as somebody has a handle. -/
theorem perform (h : p.Lends q) {d : Deed}
    (hAfter : (q.perform paused now d).owners.held = true) :
    (p.perform paused now d).Lends (q.perform paused now d) := by
  have hHeld := held_of_perform hAfter
  cases d with
  | operate o => exact h.operate hHeld o hAfter
  | ask =>
      rw [Poller.perform, Poller.perform, if_pos hHeld, if_pos (h.owners.held hHeld)]
      exact h.still (f := (·.noteFetch now)) rfl rfl
  | ring k =>
      exact h.still (f := fun r => r.ring paused now k) (p.ring_own q.owners paused now k)
        (p.owners_ring paused now k)
  | accept run seq status => exact h.accept hHeld run seq status
  | fail run error => exact h.fail hHeld run error
  | conclude run current previous => exact h.conclude hHeld run current previous

/-- What can be done with a handle that is not given up can be done in both. -/
theorem allowed (h : p.Lends q) (hHeld : q.owners.held = true) {o : Operation}
    (hMain : o ≠ .dropMain) (hClone : o ≠ .dropClone) :
    o.allowed q.owners = o.allowed p.owners := by
  have hMore := h.owners.held hHeld
  cases o with
  | dropMain => exact absurd rfl hMain
  | dropClone => exact absurd rfl hClone
  | dropGuard => rw [Operation.allowed, Operation.allowed, h.owners.guards]
  | _ => exact hHeld.trans hMore.symm

/-- **The same fetches take off** with a deed. -/
theorem launches (h : p.Lends q) (hHeld : q.owners.held = true) (i : Nat) (d : Deed) :
    q.launches paused now i d = p.launches paused now i d := by
  cases d with
  | operate o =>
      by_cases hDrop : o = .dropMain ∨ o = .dropClone
      · rcases hDrop with rfl | rfl <;> simp [Poller.launches, operateFetches]
      · obtain ⟨hMain, hClone⟩ := not_or.mp hDrop
        rw [Poller.launches, Poller.launches, h.allowed hHeld hMain hClone, h.same]
        rfl
  | ask =>
      rw [Poller.launches, Poller.launches, if_pos hHeld, if_pos (h.owners.held hHeld)]
  | _ =>
      rw [h.same]
      rfl

/-- **The same is written** about a deed. -/
theorem entries (h : p.Lends q) (hHeld : q.owners.held = true) (d : Deed) :
    q.entries paused now d = p.entries paused now d := by
  have hBelow := alive_of_held hHeld
  have hAbove := alive_of_held (h.owners.held hHeld)
  cases d with
  | operate o =>
      by_cases hDrop : o = .dropMain ∨ o = .dropClone
      · rcases hDrop with rfl | rfl <;> simp [Poller.entries, operateEntries]
      · obtain ⟨hMain, hClone⟩ := not_or.mp hDrop
        rw [Poller.entries, Poller.entries, h.allowed hHeld hMain hClone, h.same]
        rfl
  | accept run seq status =>
      rw [Poller.entries, Poller.entries, acceptEntries, acceptEntries, hBelow, hAbove, h.same]
      rfl
  | fail run error =>
      rw [Poller.entries, Poller.entries, failEntries, failEntries, hBelow, hAbove, h.same]
  | _ =>
      rw [h.same]
      rfl

/-- **The same report is opened** by a deed. -/
theorem opens? (h : p.Lends q) (hHeld : q.owners.held = true) (i : Nat) (d : Deed) :
    q.opens? i d = p.opens? i d := by
  have hBelow := alive_of_held hHeld
  have hAbove := alive_of_held (h.owners.held hHeld)
  cases d with
  | accept run seq status =>
      rw [Poller.opens?, Poller.opens?, report?, report?, hBelow, hAbove, h.same]
      rfl
  | _ => rfl

end Lends

end Poller

/-! ## In a scene -/

namespace Scene

variable {ω : Type}

/-- **`t` is `s` with fewer handles of poller `i`**, and agrees with it in everything else. -/
structure Lends (s t : Scene ω) (i : Nat) : Prop where
  now : t.fleet.now = s.fleet.now
  gate : t.fleet.gate = s.fleet.gate
  source : t.fleet.source = s.fleet.source
  flights : t.fleet.flights = s.fleet.flights
  reports : t.reports = s.reports
  journal : t.fleet.journal = s.fleet.journal
  others : ∀ j, j ≠ i → t.fleet.pollers[j]? = s.fleet.pollers[j]?
  poller : ∃ p q, s.fleet.pollers[i]? = some p ∧ t.fleet.pollers[i]? = some q ∧ p.Lends q

namespace Lends

variable {s t : Scene ω} {i : Nat}

/-- A move concerns the same poller in both. -/
theorem deed? (h : s.Lends t i) (m : Move ω) : t.deed? m = s.deed? m := by
  cases m with
  | land k => rw [Scene.deed?, Scene.deed?, h.flights]
  | conclude k => rw [Scene.deed?, Scene.deed?, h.reports]
  | _ => rfl

/-- Whatever pollers with more or fewer handles have in common is the same of every poller in
the two scenes. -/
theorem alike {α : Type} (h : s.Lends t i) {f : Option Poller → α}
    (hSame : ∀ p q, t.fleet.pollers[i]? = some q → p.Lends q → f (some q) = f (some p)) (j : Nat) :
    f t.fleet.pollers[j]? = f s.fleet.pollers[j]? := by
  by_cases hj : j = i
  · subst hj
    obtain ⟨p, q, hp, hq, hLends⟩ := h.poller
    rw [hp, hq]
    exact hSame p q hq hLends
  · rw [h.others j hj]

theorem launchedBy (h : s.Lends t i)
    (hHeld : ∀ q, t.fleet.pollers[i]? = some q → q.owners.held = true) (j : Nat) (d : Deed) :
    t.launchedBy j d = s.launchedBy j d := by
  rw [Scene.launchedBy, Scene.launchedBy, h.gate, h.now]
  refine h.alike
    (f := fun x => (x.map (Poller.launches s.fleet.gate.paused s.fleet.now j · d)).getD [])
    (fun p q hq hLends => ?_) j
  exact hLends.launches (hHeld q hq) j d

theorem writtenBy (h : s.Lends t i)
    (hHeld : ∀ q, t.fleet.pollers[i]? = some q → q.owners.held = true) (j : Nat) (d : Deed) :
    t.writtenBy j d = s.writtenBy j d := by
  rw [Scene.writtenBy, Scene.writtenBy, h.gate, h.now]
  refine h.alike
    (f := fun x => (x.map (Poller.entries s.fleet.gate.paused s.fleet.now · d)).getD [])
    (fun p q hq hLends => ?_) j
  exact hLends.entries (hHeld q hq) d

theorem opened (h : s.Lends t i)
    (hHeld : ∀ q, t.fleet.pollers[i]? = some q → q.owners.held = true) (m : Move ω) :
    t.opened m = s.opened m := by
  have hOpens : ∀ x : Nat × Deed, t.fleet.pollers[x.1]?.bind (fun r => r.opens? x.1 x.2)
      = s.fleet.pollers[x.1]?.bind fun r => r.opens? x.1 x.2 := fun x =>
    h.alike (f := fun y => y.bind fun r => r.opens? x.1 x.2)
      (fun p q hq hLends => hLends.opens? (hHeld q hq) x.1 x.2) x.1
  rw [Scene.opened, Scene.opened, h.deed?]
  simp only [hOpens]

theorem written (h : s.Lends t i)
    (hHeld : ∀ q, t.fleet.pollers[i]? = some q → q.owners.held = true) (m : Move ω) :
    t.written m = s.written m := by
  have hDeed : ((t.deed? m).map fun x => t.writtenBy x.1 x.2)
      = (s.deed? m).map fun x => s.writtenBy x.1 x.2 := by
    rw [h.deed?]
    simp only [h.writtenBy hHeld]
  cases m with
  | signal x => rw [Scene.written, Scene.written, h.gate, h.now]
  | resume => rw [Scene.written, Scene.written, resumeEntries, resumeEntries, h.gate, h.now]
  | land k =>
      have hLanded : t.landEntries = s.landEntries := by
        funext f
        rw [landEntries, landEntries, h.gate, h.now]
      rw [Scene.written, Scene.written, hDeed, h.flights, hLanded]
  | note e => rfl
  | call f source => rfl
  | pass ms => rfl
  | _ => exact congrArg (·.getD []) hDeed

/-- What a move makes of another poller is the same in both. -/
theorem turn_eq (h : s.Lends t i) (m : Move ω) (j : Nat) : t.turn m j = s.turn m j := by
  funext r
  rw [Scene.turn, Scene.turn, h.deed?, h.gate, h.now]

/-- What a move makes of the poller itself is the same but for the handles. -/
theorem turn (h : s.Lends t i) {m : Move ω} {p q : Poller} (hLends : p.Lends q)
    (hAfter : (t.turn m i q).owners.held = true) : (s.turn m i p).Lends (t.turn m i q) := by
  rw [h.turn_eq] at hAfter ⊢
  cases hDeed : s.deed? m with
  | none =>
      rw [turn_of_none hDeed, turn_of_none hDeed]
      exact hLends
  | some x =>
      obtain ⟨j, d⟩ := x
      by_cases hj : j = i
      · subst hj
        rw [turn_of_deed hDeed] at hAfter
        rw [turn_of_deed hDeed, turn_of_deed hDeed]
        exact hLends.perform hAfter
      · rw [turn_of_other hDeed hj, turn_of_other hDeed hj]
        exact hLends

variable [FetchSource ω]

/-- **The two scenes stay alike**, part by part, as long as somebody has a handle. -/
theorem move (h : s.Lends t i) {m : Move ω}
    (hAfter : ∀ q, (t.move m).fleet.pollers[i]? = some q → q.owners.held = true) :
    (s.move m).Lends (t.move m) i := by
  obtain ⟨p, q, hp, hq, hLends⟩ := h.poller
  have hThere : (t.move m).fleet.pollers[i]? = some (t.turn m i q) := by
    rw [getElem?_move, hq]
    rfl
  have hTurn := h.turn hLends (hAfter _ hThere)
  have hHeld : ∀ q', t.fleet.pollers[i]? = some q' → q'.owners.held = true := by
    intro q' hq'
    obtain rfl := Option.some.inj (hq.symm.trans hq')
    exact held_of_turn (hAfter _ hThere)
  have hLaunched := h.launchedBy hHeld
  have hFlight : t.fleet.flight = s.fleet.flight := by
    funext j purpose
    rw [Fleet.flight, Fleet.flight, h.source, h.now]
  refine ⟨?_, ?_, ?_, ?_, ?_, ?_, ?_, ?_⟩
  · rw [now_move, now_move, h.now]
  · by_cases hm : m = .resume
    · subst hm
      rw [gate_resume, gate_resume, h.gate, h.now]
    · have hSignals : t.signals m = s.signals m := by
        cases m with
        | land k => rw [signals, signals, h.flights]
        | _ => rfl
      rw [gate_move t hm, gate_move s hm, h.gate, h.now, hSignals]
  · rw [source_eq, source_eq]
    cases m with
    | call f source => rfl
    | _ => simp only [consulted, h.deed?, hLaunched, h.source]
  · have hTaking : t.takingOff m = s.takingOff m := by
      cases m with
      | call f source => simp only [takingOff, h.now]
      | _ => simp only [takingOff, h.deed?, hLaunched, hFlight]
    rw [flights_eq, flights_eq, h.flights, hTaking]
  · have hStaying : t.staying m = s.staying m := by
      cases m with
      | conclude k => rw [staying, staying, h.reports]
      | _ => exact h.reports
    rw [reports_eq, reports_eq, hStaying, h.opened hHeld]
  · rw [journal_move, journal_move, h.written hHeld, h.journal]
  · intro j hj
    rw [getElem?_move, getElem?_move, h.turn_eq, h.others j hj]
  · refine ⟨_, _, ?_, hThere, hTurn⟩
    rw [getElem?_move, hp]
    rfl

/-- **As long as a handle remains, nobody can tell** that another was given up. -/
theorem after (h : s.Lends t i) {later : List (Move ω)} {q : Poller}
    (hq : (t.after later).fleet.pollers[i]? = some q) (hHeld : q.owners.held = true) :
    (s.after later).Lends (t.after later) i := by
  induction later generalizing q with
  | nil => exact h
  | cons m later ih =>
      obtain ⟨q₀, hq₀, rfl⟩ := exists_of_move hq
      refine (ih hq₀ (held_of_turn hHeld)).move fun q' hq' => ?_
      obtain rfl := Option.some.inj (hq.symm.trans hq')
      exact hHeld

end Lends

end Scene

end Lookout.Polling
