import Mathlib.Data.Multiset.AddSub
import Mathlib.Data.Multiset.Filter
import Lookout.Proofs.Polling.Handles
import Lookout.Proofs.Polling.Order
import Lookout.Proofs.Polling.Statuses

set_option autoImplicit false

/-! # Status changes are reported exactly

`Scene.results` keeps book of a poller from outside: for each of its runs, the statuses it was
given by the results it applied. Nothing is asked of the order in which fetches land, nor of
what callbacks do while they are at work. `changes_reported` says that the callback was called
for each two results of a run that follow each other and differ (`changesOf`), in order, and
that each call belongs to the news of its result and is followed by news of its own
(`Reported`).

All lists are newest first.
-/

namespace Lookout.Polling

/-! ## Changes between results -/

/-- The change that a status is from the one before, as current and previous status, if there
are both and they differ. -/
def statusChange? (current previous : Option String) : Option (String × String) :=
  match current, previous with
  | some after, some before => if before ≠ after then some (after, before) else none
  | _, _ => none

/-- The changes between the results of a run that follow each other. -/
def changesOf (results : List (Option String)) : List (String × String) :=
  (results.zip results.tail).filterMap fun x => statusChange? x.1 x.2

theorem changesOf_cons (status : Option String) (results : List (Option String)) :
    changesOf (status :: results)
      = (statusChange? status results.head?.join).toList ++ changesOf results := by
  cases results with
  | nil =>
      have hNone : statusChange? status none = none := by cases status <;> rfl
      simp [changesOf, hNone]
  | cons previous earlier =>
      rw [changesOf, List.tail_cons, List.zip_cons_cons, List.filterMap_cons, List.head?_cons,
        Option.join_some]
      cases statusChange? status previous <;> rfl

/-- A change is from one result to the next. -/
theorem mem_changesOf {results : List (Option String)} {x : String × String}
    (h : x ∈ changesOf results) : some x.1 ∈ results ∧ some x.2 ∈ results ∧ x.1 ≠ x.2 := by
  induction results with
  | nil => cases h
  | cons status earlier ih =>
      rw [changesOf_cons, List.mem_append] at h
      rcases h with hNew | hOld
      · cases earlier with
        | nil => cases status <;> cases hNew
        | cons previous earlier =>
            rw [List.head?_cons, Option.join_some, Option.mem_toList] at hNew
            unfold statusChange? at hNew
            split at hNew
            next after before =>
              split at hNew
              next hDiffer =>
                obtain rfl := Option.some.inj hNew
                exact ⟨by simp, by simp, Ne.symm hDiffer⟩
              next => cases hNew
            next => cases hNew
      · obtain ⟨hCurrent, hPrevious, hDiffer⟩ := ih hOld
        exact ⟨List.mem_cons_of_mem _ hCurrent, List.mem_cons_of_mem _ hPrevious, hDiffer⟩

/-! ## Reports in the news -/

namespace TickEvent

/-- Whether an event is not about a success. -/
def isAside : TickEvent → Bool
  | .skipped | .failed _ => true
  | .fetched _ | .statusChanged .. => false

/-- The change that an event tells of. -/
def change? : TickEvent → Option (String × String)
  | .statusChanged current previous => some (current, previous)
  | .skipped | .fetched _ | .failed _ => none

end TickEvent

/-- **An account of some events**, of the calls of the callback, and of those calls that are
still at work: each call is made about the success that was published just then, and when it
returns its change is published. -/
inductive Reported :
    List TickEvent → Multiset (String × String) → List (String × String) → Prop
  | nil : Reported [] 0 []
  | aside {events atWork calls} {e : TickEvent} (he : e.isAside = true)
      (h : Reported events atWork calls) : Reported (e :: events) atWork calls
  | fetched {events atWork calls} (status : Option String) (h : Reported events atWork calls) :
      Reported (.fetched status :: events) atWork calls
  | called {events atWork calls} (current previous : String)
      (h : Reported events atWork calls) :
      Reported (.fetched (some current) :: events) ((current, previous) ::ₘ atWork)
        ((current, previous) :: calls)
  | returned {events atWork calls} (current previous : String)
      (h : Reported events ((current, previous) ::ₘ atWork) calls) :
      Reported (.statusChanged current previous :: events) atWork calls

namespace Reported

variable {events : List TickEvent} {atWork : Multiset (String × String)}
  {calls : List (String × String)}

theorem asides (h : Reported events atWork calls) {news : List TickEvent}
    (hNews : ∀ e ∈ news, e.isAside = true) : Reported (news ++ events) atWork calls := by
  induction news with
  | nil => exact h
  | cons e news ih =>
      have hRest := ih fun x hx => hNews x (List.mem_cons_of_mem e hx)
      exact .aside (hNews e List.mem_cons_self) hRest

/-- The changes that were published, and those whose calls are still at work, are those of all
calls. -/
theorem changes_eq (h : Reported events atWork calls) :
    (events.filterMap TickEvent.change? : Multiset (String × String)) + atWork = calls := by
  induction h with
  | nil => rfl
  | aside he _ ih =>
      rw [← ih]
      rename_i e _
      cases e with
      | skipped => rfl
      | failed error => rfl
      | fetched status => cases he
      | statusChanged current previous => cases he
  | fetched status _ ih => exact ih
  | called current previous _ ih =>
      rw [← Multiset.cons_coe, ← ih, Multiset.add_cons]
      rfl
  | returned current previous _ ih =>
      rename_i events _ _ _
      have hOne : (TickEvent.statusChanged current previous :: events).filterMap TickEvent.change?
          = (current, previous) :: events.filterMap TickEvent.change? := rfl
      rw [← ih, hOne, ← Multiset.cons_coe, Multiset.add_cons, Multiset.cons_add]

end Reported

/-! ## What deeds publish -/

namespace Poller

variable (p : Poller) (paused : Bool) (now : Nat)

/-- `q` is what has become of `p`, with nothing published about successes and no call made. -/
def Aside (p q : Poller) : Prop :=
  q.changes = p.changes ∧ ∃ news, q.events = news ++ p.events ∧ ∀ e ∈ news, e.isAside = true

theorem Aside.of_eq {p q : Poller} (hChanges : q.changes = p.changes)
    (hEvents : q.events = p.events) : p.Aside q :=
  ⟨hChanges, [], hEvents, nofun⟩

theorem Aside.of_cons {p q : Poller} {e : TickEvent} (he : e.isAside = true)
    (hChanges : q.changes = p.changes) (hEvents : q.events = e :: p.events) : p.Aside q :=
  ⟨hChanges, [e], hEvents, fun _ hx => List.mem_singleton.mp hx ▸ he⟩

/-- What comes before and after makes no news at all. -/
theorem Aside.frame {p p₁ q₁ q : Poller} (h : p₁.Aside q₁) (hBefore : p₁.changes = p.changes)
    (hBefore' : p₁.events = p.events) (hAfter : q.changes = q₁.changes)
    (hAfter' : q.events = q₁.events) : p.Aside q := by
  obtain ⟨hChanges, news, hEvents, hNews⟩ := h
  refine ⟨hAfter.trans (hChanges.trans hBefore), news, ?_, hNews⟩
  rw [hAfter', hEvents, hBefore']

theorem records_stop : p.stop.changes = p.changes ∧ p.stop.events = p.events := by
  unfold stop
  split <;> exact ⟨rfl, rfl⟩

theorem aside_tick : p.Aside (p.tick paused now) := by
  unfold tick
  split
  next => exact .of_cons (e := .skipped) rfl rfl rfl
  next => exact .of_eq rfl rfl

theorem aside_start : p.Aside (p.start paused now) := by
  unfold start
  split
  next => exact .of_eq rfl rfl
  next => exact (p.beginRun.aside_tick paused now).frame rfl rfl rfl rfl

theorem aside_exitActive : p.Aside (p.exitActive now) := by
  unfold exitActive
  split <;> exact .of_eq rfl rfl

theorem aside_operate (o : Operation) : p.Aside (p.operate paused now o) := by
  have hStart := p.aside_start paused now
  have hDrop : ∀ a : Owners, p.Aside ({ p with owners := a } : Poller).release := fun a =>
    .of_eq (records_release _).2.1 (records_release _).2.2
  cases o with
  | start => exact hStart
  | stop => exact .of_eq p.records_stop.1 p.records_stop.2
  | enterActive => exact hStart.frame rfl rfl rfl rfl
  | exitActive => exact p.aside_exitActive now
  | clone => exact .of_eq rfl rfl
  | guard => exact hStart.frame rfl rfl rfl rfl
  | dropMain => exact hDrop _
  | dropClone => exact hDrop _
  | dropGuard =>
      refine .of_eq ?_ ?_
      · exact (records_release _).2.1.trans p.records_stop.1
      · exact (records_release _).2.2.trans p.records_stop.2

theorem aside_onAlarm (a : Alarm) : p.Aside (p.onAlarm paused now a) := by
  cases a with
  | tick generation =>
      rw [onAlarm]
      split
      next => exact p.aside_tick paused now
      next => exact .of_eq rfl rfl
  | expiry generation =>
      rw [onAlarm]
      split <;> exact .of_eq rfl rfl

theorem aside_ring (k : Nat) : p.Aside (p.ring paused now k) := by
  unfold ring
  split
  next => exact .of_eq rfl rfl
  next t _ =>
    split
    next =>
      have hAlarm :=
        aside_onAlarm { p with timers := p.timers.afterFiring t now } paused now t.action
      exact hAlarm.frame rfl rfl rfl rfl
    next => exact .of_eq rfl rfl

/-- **Only successes and returning callbacks** make news of results. -/
theorem aside_perform {d : Deed} (hAccept : ∀ run seq status, d ≠ .accept run seq status)
    (hEnds : ends d = 0) : p.Aside (p.perform paused now d) := by
  cases d with
  | operate o =>
      rw [perform]
      split
      next => exact p.aside_operate paused now o
      next => exact .of_eq rfl rfl
  | ask =>
      rw [perform]
      split <;> exact .of_eq rfl rfl
  | ring k => exact p.aside_ring paused now k
  | accept run seq status => exact absurd rfl (hAccept run seq status)
  | fail run error =>
      rw [perform, fail]
      split
      next => exact .of_cons (e := .failed error) rfl rfl rfl
      next => exact .of_eq rfl rfl
  | conclude run current previous => cases hEnds

/-! ## The book -/

variable {p} {q : Poller} {runs : List (List (Option String))} {paused now}

theorem change?_eq (hCallback : p.callback.isSome = true) (status : Option String) :
    p.change? status = statusChange? status p.lastStatus := by
  obtain ⟨reactions, hSome⟩ := Option.isSome_iff_exists.mp hCallback
  unfold change? statusChange?
  rw [hSome]
  cases p.lastStatus <;> cases status <;> rfl

theorem change?_of_none (hCallback : p.callback = none) (status : Option String) :
    p.change? status = none := by
  unfold change?
  rw [hCallback]

/-- What a change is to is the status that brings it. -/
theorem eq_some_of_change? {status : Option String} {x : String × String}
    (h : p.change? status = some x) : status = some x.1 := by
  unfold change? at h
  split at h
  next after =>
    split at h
    next =>
      obtain rfl := Option.some.inj h
      rfl
    next => cases h
  next => cases h

/-- The results of each run, after `p` has become `q`: a result was applied if the number of the
newest that was has changed, and a run has begun if the poller has begun to poll. -/
def addResults (p q : Poller) (runs : List (List (Option String))) :
    List (List (Option String)) :=
  if q.applied ≠ p.applied then runs.modifyHead (q.lastStatus :: ·)
  else if p.mode.isPolling = false ∧ q.mode.isPolling = true then [] :: runs
  else runs

theorem addResults_same (hApplied : q.applied = p.applied)
    (hPolls : q.mode.isPolling = true → p.mode.isPolling = true) : p.addResults q runs = runs := by
  unfold addResults
  rw [if_neg fun hNew => hNew hApplied, if_neg fun hBegun => ?_]
  have hPolling := hPolls hBegun.2
  rw [hBegun.1] at hPolling
  cases hPolling

/-- **A poller and the book of its runs**: its news are the results of all runs, its status is
that of the last result of the run that is going on, and its callback, if it has one, was called
for the changes within each run. -/
structure Reckons (p : Poller) (runs : List (List (Option String))) : Prop where
  fetched : p.fetched = runs.flatten
  idle : p.mode.isPolling = false → p.lastStatus = none
  running : p.mode.isPolling = true →
    ∃ results earlier, runs = results :: earlier ∧ p.lastStatus = results.head?.join
  changes : p.changes = if p.callback.isSome then (runs.map changesOf).flatten else []

namespace Reckons

theorem quiet (h : p.Reckons runs) (hQuiet : p.Quiet q) (hAlike : p.Alike q)
    (hChanges : q.changes = p.changes) : q.Reckons (p.addResults q runs) := by
  rw [addResults_same hQuiet.applied fun hPolls => hQuiet.polling.symm.trans hPolls]
  refine ⟨hQuiet.fetched.trans h.fetched, ?_, ?_, ?_⟩
  · rw [hQuiet.polling, hQuiet.lastStatus]
    exact h.idle
  · rw [hQuiet.polling, hQuiet.lastStatus]
    exact h.running
  · rw [hChanges, hAlike.callback]
    exact h.changes

theorem begins (h : p.Reckons runs) (hBegins : p.Begins q) (hAlike : p.Alike q)
    (hChanges : q.changes = p.changes) : q.Reckons (p.addResults q runs) := by
  have hBook : p.addResults q runs = [] :: runs := by
    unfold addResults
    rw [if_neg fun hNew => hNew hBegins.applied, if_pos ⟨hBegins.before, hBegins.polling⟩]
  rw [hBook]
  refine ⟨hBegins.fetched.trans h.fetched, ?_, fun _ => ⟨[], runs, rfl, ?_⟩, ?_⟩
  · intro hStopped
    rw [hBegins.polling] at hStopped
    cases hStopped
  · exact hBegins.lastStatus.trans (h.idle hBegins.before)
  · rw [hChanges, hAlike.callback, h.changes]
    rfl

theorem ends (h : p.Reckons runs) (hEnds : p.Ends q) (hAlike : p.Alike q)
    (hChanges : q.changes = p.changes) : q.Reckons (p.addResults q runs) := by
  rw [addResults_same hEnds.applied fun _ => hEnds.before]
  refine ⟨hEnds.fetched.trans h.fetched, fun _ => hEnds.lastStatus, ?_, ?_⟩
  · intro hPolls
    rw [hEnds.polling] at hPolls
    cases hPolls
  · rw [hChanges, hAlike.callback]
    exact h.changes

/-- A success that counts adds a result to the run that is going on, and the change from the one
before to the calls. -/
theorem accept (h : p.Reckons runs) {run seq : Nat} (hCounts : p.Counts run seq)
    (status : Option String) :
    (p.accept run seq status).Reckons (p.addResults (p.accept run seq status) runs) := by
  obtain ⟨-, hMode, hApplied, hStatus, hFetched⟩ := accept_of_counts hCounts status
  have hAlike := p.alike_accept run seq status
  obtain ⟨results, earlier, hRuns, hLast⟩ := h.running hCounts.2.2.1
  have hBook : p.addResults (p.accept run seq status) runs = (status :: results) :: earlier := by
    have hNew : (p.accept run seq status).applied ≠ p.applied := by
      rw [hApplied]
      exact Nat.ne_of_gt hCounts.2.2.2
    unfold addResults
    rw [if_pos hNew, hStatus, hRuns]
    rfl
  have hCalls : (p.accept run seq status).changes = (p.change? status).toList ++ p.changes := by
    rw [accept_eq hCounts]
    cases p.change? status <;> rfl
  rw [hBook]
  refine ⟨?_, ?_, fun _ => ⟨status :: results, earlier, rfl, hStatus⟩, ?_⟩
  · rw [hFetched, h.fetched, hRuns]
    rfl
  · intro hStopped
    rw [hMode, hCounts.2.2.1] at hStopped
    cases hStopped
  · rw [hCalls, hAlike.callback, h.changes]
    cases hCallback : p.callback with
    | none => rw [change?_of_none hCallback]; rfl
    | some reactions =>
        have hSome : p.callback.isSome = true := by
          rw [hCallback]
          rfl
        rw [change?_eq hSome, hLast, hRuns, List.map_cons, List.map_cons, List.flatten_cons,
          List.flatten_cons, changesOf_cons, Option.isSome_some, if_pos rfl, if_pos rfl,
          List.append_assoc]

/-- **Every deed keeps the book.** -/
theorem perform (h : p.Reckons runs) (d : Deed) :
    (p.perform paused now d).Reckons (p.addResults (p.perform paused now d) runs) := by
  have hAlike := p.alike_perform paused now d
  by_cases hAccept : ∀ run seq status, d ≠ .accept run seq status
  · have hChanges : (p.perform paused now d).changes = p.changes := by
      by_cases hEnds : Poller.ends d = 0
      · exact (p.aside_perform paused now hAccept hEnds).1
      · cases d with
        | conclude run current previous => exact (p.records_conclude now run current previous).2.1
        | _ => exact absurd rfl hEnds
    rcases p.perform_cases paused now d hAccept with hQuiet | hBegins | hEnds
    · exact h.quiet hQuiet hAlike hChanges
    · exact h.begins hBegins hAlike hChanges
    · exact h.ends hEnds hAlike hChanges
  · push Not at hAccept
    obtain ⟨run, seq, status, rfl⟩ := hAccept
    rw [Poller.perform]
    by_cases hCounts : p.Counts run seq
    · exact h.accept hCounts status
    · rw [accept_of_not_counts hCounts]
      exact h.quiet (.refl p) (.refl p) rfl

end Reckons

end Poller

/-! ## In a scene -/

namespace Scene

variable {ω : Type}

/-- The changes whose callback is at work. -/
def atWork (s : Scene ω) (i : Nat) : Multiset (String × String) :=
  ((s.pending i).map fun r => (r.current, r.previous) : List (String × String))

theorem atWork_perm {s t : Scene ω} {i : Nat} (h : (s.pending i).Perm (t.pending i)) :
    s.atWork i = t.atWork i :=
  Multiset.coe_eq_coe.mpr (h.map _)

variable [FetchSource ω]

/-- The results that poller `i` has applied in each of its runs. -/
def results (s₀ : Scene ω) (i : Nat) : List (Move ω) → List (List (Option String))
  | [] => []
  | m :: past =>
    match (s₀.after past).fleet.pollers[i]? with
    | none => []
    | some p => p.addResults ((s₀.after past).turn m i p) (s₀.results i past)

/-- **Every move keeps the account.** -/
theorem reported_move {s : Scene ω} {m : Move ω} {i : Nat} {p : Poller}
    (hp : s.fleet.pollers[i]? = some p) (h : Reported p.events (s.atWork i) p.changes) :
    Reported (s.turn m i p).events ((s.move m).atWork i) (s.turn m i p).changes := by
  by_cases hDeed : ∃ d, s.deed? m = some (i, d)
  · obtain ⟨d, hDeed⟩ := hDeed
    rw [turn_of_deed hDeed]
    by_cases hEnds : Poller.ends d = 0
    · have hPending := pending_of_deed hDeed hp hEnds
      by_cases hAccept : ∀ run seq status, d ≠ .accept run seq status
      · -- Neither a success nor the end of a report.
        obtain ⟨hChanges, news, hEvents, hNews⟩ := p.aside_perform s.fleet.gate.paused s.fleet.now
          hAccept hEnds
        have hNone : p.opens? i d = none := by
          cases d with
          | accept run seq status => exact absurd rfl (hAccept run seq status)
          | _ => rfl
        rw [hNone, Option.toList_none, List.append_nil] at hPending
        rw [hChanges, hEvents, atWork, hPending]
        exact h.asides hNews
      · push Not at hAccept
        obtain ⟨run, seq, status, rfl⟩ := hAccept
        rw [Poller.perform]
        rw [Poller.opens?] at hPending
        by_cases hCounts : p.Counts run seq
        · rw [Poller.report?_of_counts hCounts] at hPending
          rw [Poller.accept_eq hCounts, atWork, hPending]
          cases hChange : p.change? status with
          | none =>
              rw [Option.map_none, Option.toList_none, List.append_nil]
              exact .fetched status h
          | some x =>
              rw [Poller.eq_some_of_change? hChange, Option.map_some, Option.toList_some,
                List.map_append]
              have hMore : ((((s.pending i).map fun r => (r.current, r.previous)) ++ [(x.1, x.2)] :
                  List (String × String)) : Multiset (String × String))
                  = (x.1, x.2) ::ₘ s.atWork i := by
                rw [atWork, Multiset.cons_coe, Multiset.coe_eq_coe]
                exact List.perm_append_singleton _ _
              rw [List.map_singleton, hMore]
              exact .called x.1 x.2 h
        · rw [Poller.report?_of_not_counts hCounts, Option.toList_none, List.append_nil] at hPending
          rw [Poller.accept_of_not_counts hCounts, atWork, hPending]
          exact h
    · cases meets_of_deed hDeed with
      | conclude k r report poller =>
          subst poller
          obtain ⟨-, hChanges, hEvents⟩ := p.records_conclude s.fleet.now r.run r.current r.previous
          rw [Poller.perform, hChanges, hEvents]
          have hMore : s.atWork r.poller
              = (r.current, r.previous) ::ₘ (s.move (.conclude k)).atWork r.poller := by
            rw [atWork, atWork, Multiset.cons_coe, Multiset.coe_eq_coe]
            exact (pending_of_conclude report).map _
          rw [hMore] at h
          exact .returned r.current r.previous h
      | _ => exact absurd rfl hEnds
  · have hOther : ∀ d, s.deed? m ≠ some (i, d) := fun d hd => hDeed ⟨d, hd⟩
    have hSame : s.turn m i p = p := by
      rcases s.turn_cases m i p with hSame | ⟨d, hd, -⟩
      · exact hSame
      · exact absurd hd (hOther d)
    rw [hSame, atWork_perm (pending_of_other hOther)]
    exact h

/-- **Every poller's book is kept**, and the account of its calls. -/
theorem Fresh.reckons {s₀ : Scene ω} (h : s₀.Fresh) (past : List (Move ω)) {i : Nat} {p : Poller}
    (hp : (s₀.after past).fleet.pollers[i]? = some p) :
    p.Reckons (s₀.results i past) ∧ Reported p.events ((s₀.after past).atWork i) p.changes := by
  induction past generalizing p with
  | nil =>
      obtain ⟨name, cadence, callback, rfl⟩ := h.pollers p (List.mem_of_getElem? hp)
      have hNone : s₀.atWork i = 0 := by
        rw [atWork, pending, h.reports]
        rfl
      refine ⟨⟨rfl, fun _ => rfl, fun hPolls => ?_, ?_⟩, ?_⟩
      · cases hPolls
      · exact (ite_self []).symm
      · rw [after, hNone]
        exact .nil
  | cons m past ih =>
      obtain ⟨q, hq, rfl⟩ := exists_of_move hp
      obtain ⟨hReckons, hReported⟩ := ih hq
      refine ⟨?_, reported_move hq hReported⟩
      rw [results, hq]
      dsimp only
      rcases (s₀.after past).turn_cases m i q with hSame | ⟨d, -, hTurn⟩
      · rw [hSame]
        exact hReckons.quiet (.refl q) (.refl q) rfl
      · rw [hTurn]
        exact hReckons.perform d

/-- A run of which there is a record is going on. -/
theorem polls_of_runLog {s₀ : Scene ω} {i : Nat} {past : List (Move ω)} {log : RunLog}
    (h : s₀.runLog i past = some log) : (s₀.after past).polls i = true := by
  cases past with
  | nil => cases h
  | cons m past =>
      simp only [runLog] at h
      split at h
      next hPolls => exact hPolls
      next => cases h

/-- The results in the book from before the run that is going on are those that the record of
that run has from before it. -/
theorem before_of_runLog {s₀ : Scene ω} (hFresh : s₀.Fresh) {past : List (Move ω)} {i : Nat}
    {p : Poller} (hp : (s₀.after past).fleet.pollers[i]? = some p) (hAlive : p.alive = true)
    {log : RunLog} (hLog : s₀.runLog i past = some log) :
    ∃ results earlier, s₀.results i past = results :: earlier ∧ earlier.flatten = log.before := by
  induction past generalizing p log with
  | nil => cases hLog
  | cons m past ih =>
      obtain ⟨q, hq, rfl⟩ := exists_of_move hp
      have hBefore := alive_of_turn hAlive
      have hNow : ((s₀.after past).move m).polls i = true := polls_of_runLog hLog
      have hPolls : ((s₀.after past).turn m i q).mode.isPolling = true := by
        have hThere := hNow
        rw [polls, getElem?_move, hq] at hThere
        exact hThere
      rw [runLog, if_pos hNow] at hLog
      rw [results, hq]
      dsimp only
      cases hPast : s₀.runLog i past with
      | some log' =>
          -- The run was going on before, so the move does not begin one.
          obtain ⟨results, earlier, hResults, hFlatten⟩ := ih hq hBefore hPast
          have hPolling : q.mode.isPolling = true := by
            have hPolls := polls_of_runLog hPast
            rw [polls, hq] at hPolls
            exact hPolls
          have hKept : log.before = log'.before := by
            rw [hPast] at hLog
            obtain rfl := Option.some.inj hLog
            cases (s₀.after past).success? i m with
            | none => rfl
            | some x =>
                rw [Option.map_some, Option.getD_some, RunLog.add]
                split <;> rfl
          rw [hKept, hResults]
          unfold Poller.addResults
          split
          next => exact ⟨_, earlier, rfl, hFlatten⟩
          next =>
            rw [if_neg fun hBegun => ?_]
            · exact ⟨results, earlier, rfl, hFlatten⟩
            · rw [hPolling] at hBegun
              cases hBegun.1
      | none =>
          have hStopped := (hFresh.keeps past hq hBefore).stopped hPast
          have hBegins := begins_of_polls hStopped hPolls
          rw [hPast, hq, Option.map_some, Option.some.injEq] at hLog
          subst hLog
          refine ⟨[], s₀.results i past, ?_, ?_⟩
          · unfold Poller.addResults
            rw [if_neg fun hNew => hNew hBegins.applied, if_pos ⟨hStopped, hPolls⟩]
          · exact (hFresh.reckons past hq).1.fetched.symm

/-- The results of the run that is going on are its successes that were the newest of all when
they landed. -/
theorem results_of_runLog {s₀ : Scene ω} (hFresh : s₀.Fresh) {past : List (Move ω)} {i : Nat}
    {p : Poller} (hp : (s₀.after past).fleet.pollers[i]? = some p) (hAlive : p.alive = true)
    {log : RunLog} (hLog : s₀.runLog i past = some log) :
    (s₀.results i past).head? = some (RunLog.records log.landed) := by
  obtain ⟨results, earlier, hResults, hBefore⟩ := before_of_runLog hFresh hp hAlive hLog
  have hFetched := (hFresh.reckons past hp).1.fetched
  rw [((hFresh.keeps past hp hAlive).kept log hLog).fetched, hResults, List.flatten_cons,
    hBefore, List.append_cancel_right_eq] at hFetched
  rw [hResults, hFetched]
  rfl

omit [FetchSource ω] in
/-- No result ends an active window by itself. -/
theorem mode_land (s : Scene ω) (k i : Nat) (p : Poller) :
    (s.turn (.land k) i p).mode = p.mode := by
  rcases s.turn_cases (.land k) i p with hSame | ⟨d, hDeed, hTurn⟩
  · rw [hSame]
  · rw [hTurn]
    cases meets_of_deed hDeed with
    | accept k f run seq status =>
        by_cases hCounts : p.Counts run seq
        · exact (Poller.accept_of_counts hCounts status).2.1
        · rw [Poller.perform, Poller.accept_of_not_counts hCounts]
    | fail k f run seq error =>
        rw [Poller.perform, Poller.fail]
        split <;> rfl

/-- **Status changes are reported exactly.** Whatever happens to a poller, let `runs` be the
statuses of the results it has applied in each of its runs. They are the news of its successes;
its status is that of the last result of the run that is going on; and these results are its
successes, in whatever order they landed, that were the newest of all when they did.

* Its callback, if it has one, was called with each change from a result to the next of the same
  run, in order, and with nothing else.
* The two statuses of a call differ, and are not empty if those of fetches are not.
* Each call was made just after its result was published, and when it returned its change was
  published, once; so the changes that were published, and those whose calls are still at work,
  are exactly the calls.
* A poller without a callback publishes no change, and neither the landing of a fetch nor anything
  that comes of it changes its mode. -/
theorem changes_reported {s₀ : Scene ω} (hFresh : s₀.Fresh) (past : List (Move ω)) {i : Nat}
    {p : Poller} (hp : (s₀.after past).fleet.pollers[i]? = some p) :
    let s := s₀.after past
    let runs := s₀.results i past
    (p.fetched = runs.flatten ∧
      (p.mode.isPolling = true → p.lastStatus = (runs.head?.bind List.head?).join) ∧
      ∀ log, p.alive = true → s₀.runLog i past = some log →
        runs.head? = some (RunLog.records log.landed)) ∧
    (p.callback.isSome = true → p.changes = (runs.map changesOf).flatten) ∧
    (∀ x ∈ p.changes, x.1 ≠ x.2 ∧ (FetchSource.Candid ω → x.1 ≠ "" ∧ x.2 ≠ "")) ∧
    Reported p.events (s.atWork i) p.changes ∧
    (p.events.filterMap TickEvent.change? : Multiset (String × String)) + s.atWork i = p.changes ∧
    (p.callback = none → p.changes = [] ∧ (∀ e ∈ p.events, e.change? = none) ∧
      ∀ m k, m = .land k ∨ m = .conclude k → (s.turn m i p).mode = p.mode) := by
  intro s runs
  obtain ⟨hReckons, hReported⟩ := hFresh.reckons past hp
  have hChanges := hReckons.changes
  have hExactly := hReported.changes_eq
  refine ⟨⟨hReckons.fetched, fun hPolls => ?_, fun log hAlive hLog =>
    results_of_runLog hFresh hp hAlive hLog⟩, fun hCallback => ?_, fun x hx => ?_, hReported,
    hExactly, fun hNone => ?_⟩
  · obtain ⟨results, earlier, hRuns, hLast⟩ := hReckons.running hPolls
    rw [hLast, show runs = results :: earlier from hRuns]
    rfl
  · rw [hChanges, if_pos hCallback]
  · -- A change is from one of the results to another, and the results were published.
    rw [hChanges] at hx
    split at hx
    next =>
      obtain ⟨l, hl, hMem⟩ := List.mem_flatten.mp hx
      obtain ⟨results, hResults, rfl⟩ := List.mem_map.mp hl
      obtain ⟨hCurrent, hPrevious, hDiffer⟩ := mem_changesOf hMem
      refine ⟨hDiffer, fun hCandid => ?_⟩
      have hEmpty := (hFresh.noneEmpty past).pollers i p hp
      rw [hReckons.fetched] at hEmpty
      have hNot : ∀ text, some text ∈ results → text ≠ "" := by
        rintro text hText rfl
        exact hEmpty (List.mem_flatten.mpr ⟨results, hResults, hText⟩)
      exact ⟨hNot x.1 hCurrent, hNot x.2 hPrevious⟩
    next => cases hx
  · have hNoCall : p.changes = [] := by rw [hChanges, hNone]; rfl
    rw [hNoCall] at hExactly
    have hPublished : p.events.filterMap TickEvent.change? = [] := by
      have hLe := Multiset.le_add_right
        (p.events.filterMap TickEvent.change? : Multiset (String × String)) (s.atWork i)
      rw [hExactly] at hLe
      exact (Multiset.coe_eq_zero _).mp (Multiset.le_zero.mp hLe)
    have hAtWork : s.atWork i = 0 := by
      have hLe := Multiset.le_add_left
        (s.atWork i) (p.events.filterMap TickEvent.change? : Multiset (String × String))
      rw [hExactly] at hLe
      exact Multiset.le_zero.mp hLe
    refine ⟨hNoCall, fun e he => ?_, ?_⟩
    · exact List.filterMap_eq_nil_iff.mp hPublished e he
    · rintro m k (rfl | rfl)
      · exact s.mode_land k i p
      · -- No report of it is open that could be concluded.
        rcases s.turn_cases (.conclude k) i p with hSame | ⟨d, hDeed, -⟩
        · rw [hSame]
        · cases meets_of_deed hDeed with
          | conclude k r report poller =>
              have hMem : (r.current, r.previous) ∈ s.atWork i := by
                rw [atWork, Multiset.mem_coe]
                exact List.mem_map.mpr ⟨r, List.mem_filter.mpr
                  ⟨List.mem_of_getElem? report, decide_eq_true poller⟩, rfl⟩
              rw [hAtWork] at hMem
              exact absurd hMem (Multiset.notMem_zero _)

/-- A run in which the status changes, and the callback returns. -/
def announced : List (Move Scripts) :=
  [.conclude 0, .land 0, .ring 0 0, .pass 12000, .land 0, .operate 0 .start]

theorem changes_reported_announced :
    ∃ p, (lone.after announced).fleet.pollers[0]? = some p ∧
      lone.results 0 announced = [[some "down", some "up"]] ∧ p.changes = [("down", "up")] ∧
      p.events.filterMap TickEvent.change? = [("down", "up")] := by
  obtain ⟨p, hp, hCallback⟩ : ∃ p, (lone.after announced).fleet.pollers[0]? = some p ∧
      p.callback.isSome = true := ⟨_, rfl, rfl⟩
  have hRuns : lone.results 0 announced = [[some "down", some "up"]] := rfl
  have hNone : (lone.after announced).atWork 0 = 0 := rfl
  obtain ⟨-, hChanges, -, -, hExactly, -⟩ := changes_reported lone_fresh announced hp
  have hCalls : p.changes = [("down", "up")] := by
    rw [hChanges hCallback, hRuns]
    rfl
  rw [hNone, Multiset.add_zero, hCalls, Multiset.coe_eq_coe] at hExactly
  exact ⟨p, hp, hRuns, hCalls, List.perm_singleton.mp hExactly⟩

end Scene

end Lookout.Polling
