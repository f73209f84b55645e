import Lookout.Proofs.Polling.Flights
import Lookout.Proofs.Polling.Past

set_option autoImplicit false

/-! # Two fleets that differ in the past of one poller

In one fleet a poller was stopped, in the other a new one has taken its place; the fetches
that the old poller had in flight land for nobody in the other. `Past.Mirrors` says that two
fleets are like this, and that nothing else tells them apart: they have the same clock, gate
and source of fetches, the same other pollers, the same fetches in flight for these, and
journals that differ in numbers of fetches only. Whatever is done to both leaves them so,
one lemma for each operation of a fleet, and so does every move of a scene
(`Past.MirrorsScene.move`).
-/

namespace Lookout

/-- An entry without the number of a result that came too late. -/
def Journal.Entry.unnumbered : Journal.Entry → Journal.Entry
  | .line (.staleResult name _) => .line (.staleResult name 0)
  | e => e

namespace Polling

open Backoff (Signal)
open Journal (Entry)

namespace Past

variable (c : Past)

/-- A poller of the fleet with the past, given what is in its place in the other fleet. -/
def see (j : Nat) (q : Poller) : Poller := if j = c.poller then c.join q else q

/-- What an alarm of a poller is in the fleet with the past. -/
def alarmAt (j : Nat) (a : Alarm) : Alarm := if j = c.poller then c.alarm a else a

/-- What a timer of a poller is in the fleet with the past. -/
def timerAt (j : Nat) (x : Timer Alarm) : Timer Alarm :=
  if j = c.poller then Timers.shiftOne c.old.timers.made c.alarm x else x

/-- What a fetch is for in the fleet without the past: one of an old run is for nobody. -/
def purpose : Purpose → Purpose
  | .direct => .direct
  | .tick j run seq =>
    if j = c.poller then
      if run < c.old.run then .direct else .tick j (run - c.gap) (seq - c.old.issued)
    else .tick j run seq

/-- A fetch in flight in the fleet without the past. -/
def flight (f : Flight) : Flight := { f with purpose := c.purpose f.purpose }

/-- An open report in the scene without the past: one of an old run stays as it is. -/
def report (r : Report) : Report :=
  if r.poller = c.poller ∧ c.old.run ≤ r.run then { r with run := r.run - c.gap } else r

theorem see_here (q : Poller) : c.see c.poller q = c.join q := if_pos rfl

theorem see_there {j : Nat} (hj : j ≠ c.poller) : c.see j = id := by
  funext q
  exact if_neg hj

section See

variable (j : Nat) (q : Poller)

@[simp] theorem see_name : (c.see j q).name = q.name := by unfold see; split <;> rfl

@[simp] theorem see_cadence : (c.see j q).cadence = q.cadence := by unfold see; split <;> rfl

@[simp] theorem see_callback : (c.see j q).callback = q.callback := by unfold see; split <;> rfl

@[simp] theorem see_mode : (c.see j q).mode = q.mode := by unfold see; split <;> rfl

@[simp] theorem see_owners : (c.see j q).owners = q.owners := by unfold see; split <;> rfl

@[simp] theorem see_alive : (c.see j q).alive = q.alive := by unfold see; split <;> rfl

@[simp] theorem see_change? (status : Option String) :
    (c.see j q).change? status = q.change? status := by unfold see; split <;> rfl

theorem see_live : (c.see j q).timers.live = q.timers.live.map (c.timerAt j) := by
  unfold see timerAt
  split
  next => rfl
  next => exact (List.map_id' _).symm

theorem timerAt_deadline (x : Timer Alarm) : (c.timerAt j x).deadline = x.deadline := by
  unfold timerAt
  split <;> rfl

theorem timerAt_action (x : Timer Alarm) : (c.timerAt j x).action = c.alarmAt j x.action := by
  unfold timerAt alarmAt
  split <;> rfl

end See

/-- `s` is `t` but for the past of a poller. -/
structure Mirrors {ω : Type} (s t : Fleet ω) : Prop where
  now : s.now = t.now
  gate : s.gate = t.gate
  source : s.source = t.source
  journal : s.journal.map Entry.unnumbered = t.journal.map Entry.unnumbered
  pollers : s.pollers = t.pollers.modify c.poller c.join
  flights : t.flights = s.flights.map c.flight
  young : ∀ q, t.pollers[c.poller]? = some q → c.Young q
  issued : ∀ run seq, .tick c.poller run seq ∈ s.purposes → c.old.run ≤ run → c.old.issued < seq

variable {c}

namespace Mirrors

variable {ω : Type} {s t : Fleet ω}

theorem getElem? (h : c.Mirrors s t) (j : Nat) :
    s.pollers[j]? = t.pollers[j]?.map (c.see j) := by
  rw [h.pollers, List.getElem?_modify]
  unfold see
  by_cases hj : c.poller = j
  · simp [hj]
  · simp [hj, Ne.symm hj]

/-! ## Small changes -/

/-- Something that is done to poller `j`, if it is there. -/
theorem onPoller (h : c.Mirrors s t) (j : Nat) {F G : Poller → Fleet ω}
    (hSome : ∀ q, t.pollers[j]? = some q → c.Mirrors (F (c.see j q)) (G q)) :
    c.Mirrors (match s.pollers[j]? with | none => s | some p => F p)
      (match t.pollers[j]? with | none => t | some p => G p) := by
  rw [h.getElem? j]
  cases hq : t.pollers[j]? with
  | none => exact h
  | some q => exact hSome q hq

theorem modify (h : c.Mirrors s t) (j : Nat) {f g : Poller → Poller}
    (hHere : j = c.poller → ∀ q, t.pollers[j]? = some q → c.Young q →
      f (c.join q) = c.join (g q) ∧ c.Young (g q))
    (hThere : j ≠ c.poller → f = g) : c.Mirrors (s.modify j f) (t.modify j g) where
  now := h.now
  gate := h.gate
  source := h.source
  journal := h.journal
  pollers := by
    show s.pollers.modify j f = (t.pollers.modify j g).modify c.poller c.join
    rw [h.pollers]
    -- At the poller itself the change has to commute with `join`, elsewhere the two changes
    -- are of different entries.
    by_cases hj : j = c.poller
    · subst hj
      rw [List.modify_modify_eq, List.modify_modify_eq]
      exact modify_congr fun q hq => (hHere rfl q hq (h.young q hq)).1
    · rw [hThere hj, List.modify_modify_ne _ _ _ (Ne.symm hj)]
  flights := h.flights
  young := by
    intro q hq
    have hq' : (t.pollers.modify j g)[c.poller]? = some q := hq
    rw [List.getElem?_modify] at hq'
    by_cases hj : j = c.poller
    · subst hj
      rw [Option.map_eq_map, Option.map_eq_some_iff] at hq'
      obtain ⟨q', hq', rfl⟩ := hq'
      rw [if_pos rfl]
      exact (hHere rfl q' hq' (h.young q' hq')).2
    · simp only [hj, if_false, Option.map_eq_map, Option.map_id'] at hq'
      exact h.young q hq'
  issued := h.issued

/-- A natural change. -/
theorem natural (h : c.Mirrors s t) (j : Nat) {f : Poller → Poller} (hf : c.Natural f) :
    c.Mirrors (s.modify j f) (t.modify j f) :=
  h.modify j (fun _ q _ hq => ⟨hf.join q hq, hf.young q hq⟩) fun _ => rfl

theorem record (h : c.Mirrors s t) {e e' : Entry} (he : e.unnumbered = e'.unnumbered) :
    c.Mirrors (s.record e) (t.record e') :=
  { h with journal := by simp only [Fleet.record, List.map_cons, he, h.journal] }

theorem emit (h : c.Mirrors s t) (j : Nat) (name : String) (e : TickEvent) :
    c.Mirrors (s.emit j name e) (t.emit j name e) :=
  (h.record rfl).natural j (c.natural_publish e)

theorem putGate (h : c.Mirrors s t) (result : Backoff.Gate × List Entry) :
    c.Mirrors (s.putGate result) (t.putGate result) :=
  { h with
    gate := rfl
    journal := by simp only [Fleet.putGate, List.map_append, h.journal] }

theorem tell (h : c.Mirrors s t) (x : Signal) : c.Mirrors (s.tell x) (t.tell x) := by
  have hTold := h.putGate (t.gate.tell t.now x)
  rw [← h.gate, ← h.now] at hTold
  unfold Fleet.tell
  rw [← h.gate, ← h.now]
  exact hTold

theorem effects (h : c.Mirrors s t) (effects : List Effect) :
    c.Mirrors (effects.foldl Fleet.effect s) (effects.foldl Fleet.effect t) := by
  induction effects generalizing s t with
  | nil => exact h
  | cons e rest ih =>
      refine ih ?_
      cases e with
      | signal x => exact h.tell x
      | report e => exact h.record rfl

/-- A fetch takes off in both fleets. -/
theorem launch (h : c.Mirrors s t) {a b : Purpose} (hPurpose : c.purpose a = b)
    (hIssued : ∀ run seq, a = .tick c.poller run seq → c.old.run ≤ run → c.old.issued < seq)
    (f : Fetch) : c.Mirrors (s.launch a f) (t.launch b f) :=
  { h with
    flights := by
      simp only [Fleet.launch, List.map_append, h.flights, h.now, List.map_cons, List.map_nil,
        flight, hPurpose]
    issued := by
      intro run seq hMem
      rw [Fleet.purposes, Fleet.launch, List.map_append, List.mem_append] at hMem
      rcases hMem with hOld | hNew
      · exact h.issued run seq hOld
      · exact hIssued run seq (List.mem_singleton.mp hNew).symm }

/-! ## Ends of runs and windows -/

theorem stop (h : c.Mirrors s t) (j : Nat) : c.Mirrors (s.stop j) (t.stop j) := by
  refine h.onPoller j fun q hq => ?_
  rw [see_mode, see_name]
  split
  next => exact (h.natural j c.natural_endRun).record rfl
  next => exact h

theorem leaveActive (h : c.Mirrors s t) (j : Nat) :
    c.Mirrors (s.leaveActive j) (t.leaveActive j) := by
  refine h.onPoller j fun q hq => ?_
  rw [see_name, h.now]
  exact (h.natural j (c.natural_closeWindow t.now)).record rfl

theorem exitActive (h : c.Mirrors s t) (j : Nat) :
    c.Mirrors (s.exitActive j) (t.exitActive j) := by
  refine h.onPoller j fun q hq => ?_
  rw [see_mode]
  split
  next => exact h.leaveActive j
  next => exact h

/-! ## Ticks and handles -/

theorem allows_eq (h : c.Mirrors s t) (j : Nat) (o : Operation) :
    s.allows j o = t.allows j o := by
  unfold Fleet.allows
  rw [h.getElem? j, Option.any_map]
  congr 1
  funext q
  simp

section Operations

variable [FetchSource ω]

theorem callFetch (h : c.Mirrors s t) (j : Nat) :
    (s.callFetch j).1 = (t.callFetch j).1 ∧
      c.Mirrors (s.callFetch j).2 (t.callFetch j).2 := by
  have hAsked : c.Mirrors { s with source := (FetchSource.fetch s.source j).2 }
      { t with source := (FetchSource.fetch t.source j).2 } :=
    { h with source := by rw [h.source] }
  refine ⟨?_, hAsked.modify j (fun _ q _ hq => ?_) fun _ => by rw [h.now]⟩
  · simp only [Fleet.callFetch, h.source]
  · rw [h.now]
    exact ⟨(c.natural_noteFetch t.now).join q hq, (c.natural_noteFetch t.now).young q hq⟩

/-- A tick: the fetch it starts has the newest run and number in both fleets. -/
theorem tick (h : c.Mirrors s t) (j : Nat) : c.Mirrors (s.tick j) (t.tick j) := by
  refine h.onPoller j fun q hq => ?_
  rw [see_name, h.gate]
  split
  next => exact (h.record rfl).emit j q.name .skipped
  next =>
    obtain ⟨hFetch, hCalled⟩ := (h.natural j c.natural_issue).callFetch j
    generalize (s.modify j Poller.issue).callFetch j = x at hFetch hCalled ⊢
    generalize (t.modify j Poller.issue).callFetch j = y at hFetch hCalled ⊢
    obtain ⟨fetch, s'⟩ := x
    obtain ⟨fetch', t'⟩ := y
    obtain rfl : fetch = fetch' := hFetch
    -- The mark of the fetch is above the old run and the old numbers, so it is not taken for
    -- one of an old run.
    have hGap : c.gap + c.first = c.old.run := Nat.sub_add_cancel c.first_le
    refine hCalled.launch ?_ ?_ _
    · unfold see
      by_cases hj : j = c.poller
      · subst hj
        have hFirst := (h.young q hq).first_le
        have hRun : (c.join q).run = c.gap + q.run := rfl
        have hIssued : (c.join q).issued = c.old.issued + q.issued := rfl
        rw [if_pos rfl, purpose, if_pos rfl, hRun, hIssued, if_neg (by omega)]
        congr 1 <;> omega
      · rw [if_neg hj, purpose, if_neg hj]
    · intro run seq hTick _
      simp only [Purpose.tick.injEq] at hTick
      obtain ⟨rfl, -, rfl⟩ := hTick
      simp only [see, if_true, join]
      omega

theorem start (h : c.Mirrors s t) (j : Nat) : c.Mirrors (s.start j) (t.start j) := by
  refine h.onPoller j fun q hq => ?_
  rw [see_mode]
  split
  next => exact h
  next =>
    refine h.onPoller j fun q hq => ?_
    rw [see_name, see_cadence, h.now]
    have hBegun := ((h.natural j c.natural_beginRun).record
      (e := .line (.pollingStarted q.name q.cadence.idle)) rfl).tick j
    exact hBegun.natural j (c.natural_armTicks t.now fun _ => q.cadence.idle)

theorem enterActive (h : c.Mirrors s t) (j : Nat) :
    c.Mirrors (s.enterActive j) (t.enterActive j) := by
  refine h.onPoller j fun q hq => ?_
  rw [see_name, see_cadence, h.now]
  exact ((h.start j).natural j (c.natural_openWindow t.now)).record rfl

/-- Whatever is done with a handle. -/
theorem carryOut (h : c.Mirrors s t) (j : Nat) (o : Operation) :
    c.Mirrors (s.carryOut j o) (t.carryOut j o) := by
  cases o with
  | start => exact h.start j
  | stop => exact h.stop j
  | enterActive => exact h.enterActive j
  | exitActive => exact h.exitActive j
  | clone =>
      exact h.natural j (c.natural_own fun o => { o with clones := o.clones + 1 })
  | guard =>
      exact (h.start j).natural j (c.natural_own fun o => { o with guards := o.guards + 1 })
  | dropMain =>
      exact (h.natural j (c.natural_own fun o => { o with main := false })).natural j
        c.natural_release
  | dropClone =>
      exact (h.natural j (c.natural_own fun o => { o with clones := o.clones - 1 })).natural j
        c.natural_release
  | dropGuard =>
      exact ((h.stop j).natural j (c.natural_own fun o => { o with guards := o.guards - 1 })).natural
        j c.natural_release

theorem operate (h : c.Mirrors s t) (j : Nat) (o : Operation) :
    c.Mirrors (s.operate j o) (t.operate j o) := by
  unfold Fleet.operate
  rw [h.allows_eq j o]
  split
  next => exact h.carryOut j o
  next => exact h

theorem ask (h : c.Mirrors s t) (j : Nat) : c.Mirrors (s.ask j) (t.ask j) := by
  unfold Fleet.ask
  rw [h.allows_eq j .clone]
  split
  next =>
    obtain ⟨hFetch, hCalled⟩ := h.callFetch j
    generalize s.callFetch j = x at hFetch hCalled ⊢
    generalize t.callFetch j = y at hFetch hCalled ⊢
    obtain ⟨fetch, s'⟩ := x
    obtain ⟨fetch', t'⟩ := y
    obtain rfl : fetch = fetch' := hFetch
    exact hCalled.launch rfl (fun _ _ hTick => by cases hTick) fetch
  next => exact h

/-! ## Timers -/

theorem onAlarm (h : c.Mirrors s t) (j : Nat) (a : Alarm) :
    c.Mirrors (s.onAlarm j (c.alarmAt j a)) (t.onAlarm j a) := by
  cases a with
  | tick generation =>
      obtain ⟨generation', hAlarm, hGeneration⟩ : ∃ n, c.alarmAt j (.tick generation) = .tick n ∧
          ∀ q, (c.see j q).tickGeneration = n ↔ q.tickGeneration = generation := by
        unfold alarmAt see
        split
        next => exact ⟨_, rfl, fun q => Nat.add_left_cancel_iff⟩
        next => exact ⟨_, rfl, fun q => Iff.rfl⟩
      rw [hAlarm]
      refine h.onPoller j fun q hq => ?_
      simp only [see_mode, hGeneration]
      split
      next => exact h.tick j
      next => exact h
  | expiry generation =>
      obtain ⟨generation', hAlarm, hGeneration⟩ : ∃ n, c.alarmAt j (.expiry generation) = .expiry n ∧
          ∀ q, (c.see j q).expiryGeneration = n ↔ q.expiryGeneration = generation := by
        unfold alarmAt see
        split
        next => exact ⟨_, rfl, fun q => Nat.add_left_cancel_iff⟩
        next => exact ⟨_, rfl, fun q => Iff.rfl⟩
      rw [hAlarm]
      refine h.onPoller j fun q hq => ?_
      simp only [see_mode, see_name, hGeneration]
      split
      next => exact (h.record rfl).leaveActive j
      next => exact h

theorem ring (h : c.Mirrors s t) (j k : Nat) : c.Mirrors (s.ring j k) (t.ring j k) := by
  refine h.onPoller j fun q hq => ?_
  rw [see_live, List.getElem?_map]
  cases q.timers.live[k]? with
  | none => exact h
  | some x =>
      show c.Mirrors (if (c.timerAt j x).deadline ≤ s.now then _ else _) _
      rw [timerAt_deadline, h.now]
      dsimp only
      split
      next =>
        rw [timerAt_action]
        have hFired : c.Mirrors
            (s.modify j fun p => { p with timers := p.timers.afterFiring (c.timerAt j x) t.now })
            (t.modify j fun p => { p with timers := p.timers.afterFiring x t.now }) := by
          refine h.modify j (fun hj q' _ hYoung => ⟨?_, hYoung.first_le, hYoung.initial⟩) fun hj => ?_
          · rw [timerAt, if_pos hj]
            exact c.join_afterFiring q' x t.now
          · rw [timerAt, if_neg hj]
        exact hFired.onAlarm j x.action
      next => exact h

end Operations

/-! ## Completions -/

/-- A run is the same in both fleets if it is the one going on in both or in neither. -/
def SameRun (c : Past) (j run run' : Nat) : Prop :=
  ∀ q, (j = c.poller → c.Young q) → ((c.see j q).run = run ↔ q.run = run')

theorem young_at (h : c.Mirrors s t) {j : Nat} {q : Poller} (hq : t.pollers[j]? = some q) :
    j = c.poller → c.Young q := by
  rintro rfl
  exact h.young q hq

theorem endWindow (h : c.Mirrors s t) {j run run' : Nat} (hRun : SameRun c j run run') :
    c.Mirrors (s.endWindow j run) (t.endWindow j run') := by
  refine h.onPoller j fun q hq => ?_
  simp only [see_mode, hRun q (h.young_at hq)]
  split
  next => exact h.leaveActive j
  next => exact h

theorem fail (h : c.Mirrors s t) {j run run' : Nat} (hRun : SameRun c j run run')
    (error : String) : c.Mirrors (s.fail j run error) (t.fail j run' error) := by
  refine h.onPoller j fun q hq => ?_
  simp only [see_alive, see_name, hRun q (h.young_at hq)]
  split
  next => exact (h.record rfl).emit j q.name (.failed error)
  next => exact h

/-- A success that is not of an old run comes to the same in both fleets, the report of a
change included. -/
theorem accept (h : c.Mirrors s t) {j run run' seq seq' : Nat} (hRun : SameRun c j run run')
    (hHere : j = c.poller → seq = c.old.issued + seq' ∧ 0 < seq')
    (hThere : j ≠ c.poller → seq = seq')
    (hReport : ∀ current previous, c.report ⟨j, run, current, previous⟩
      = ⟨j, run', current, previous⟩) (status : Option String) :
    c.Mirrors (s.accept j run seq status).1 (t.accept j run' seq' status).1 ∧
      (t.accept j run' seq' status).2 = (s.accept j run seq status).2.map c.report := by
  -- A result is too late in both fleets or in neither: if nothing was applied yet, it is
  -- compared with a number of the old poller, which is below all new ones.
  have hStale : ∀ q, seq ≤ (c.see j q).applied ↔ seq' ≤ q.applied := by
    intro q
    unfold see
    split
    next hj =>
      obtain ⟨rfl, hPos⟩ := hHere hj
      have hApplied := c.applied_le
      simp only [join]
      split <;> omega
    next hj => rw [hThere hj]
  unfold Fleet.accept
  rw [h.getElem? j]
  cases hq : t.pollers[j]? with
  | none => exact ⟨h, rfl⟩
  | some q =>
      simp only [Option.map_some, see_alive, see_mode, see_name, see_change?, hStale, ne_eq,
        hRun q (h.young_at hq)]
      split
      next => exact ⟨h, rfl⟩
      next =>
        split
        next => exact ⟨h.record rfl, rfl⟩
        next =>
          have hApplied : c.Mirrors (s.modify j (·.apply seq status))
              (t.modify j (·.apply seq' status)) := by
            refine h.modify j (fun hj q' _ hYoung => ⟨?_, hYoung.first_le, hYoung.initial⟩) fun hj => ?_
            · obtain ⟨rfl, hPos⟩ := hHere hj
              exact c.join_apply q' hPos status
            · rw [hThere hj]
          have hFetched := hApplied.emit j q.name (.fetched status)
          cases q.change? status with
          | none => exact ⟨hFetched, rfl⟩
          | some change =>
              obtain ⟨current, previous⟩ := change
              refine ⟨(hFetched.record rfl).natural j (c.natural_beginReport current previous), ?_⟩
              exact congrArg some (hReport current previous).symm

theorem sameRun_there {j : Nat} (hj : j ≠ c.poller) (run : Nat) : SameRun c j run run := by
  intro q _
  rw [c.see_there hj, id]

theorem sameRun_new {run : Nat} (hNew : c.old.run ≤ run) :
    SameRun c c.poller run (run - c.gap) := by
  intro q _
  have hGap : c.gap ≤ c.old.run := Nat.sub_le _ _
  rw [see_here]
  show c.gap + q.run = run ↔ q.run = run - c.gap
  omega

/-- A poller with a past has a run that is later than all before. -/
theorem run_lt_join {q : Poller} (hq : c.Young q) {run : Nat} (hOld : run < c.old.run) :
    run < (c.join q).run := by
  have hGap : c.gap + c.first = c.old.run := Nat.sub_add_cancel c.first_le
  have hFirst := hq.first_le
  show run < c.gap + q.run
  omega

theorem sameRun_old {run : Nat} (hOld : run < c.old.run) (hFirst : run < c.first) :
    SameRun c c.poller run run := by
  intro q hq
  have hJoin := run_lt_join (hq rfl) hOld
  have hYoung := (hq rfl).first_le
  rw [see_here]
  omega

/-- The end of a report comes to the same in both fleets. -/
theorem conclude (h : c.Mirrors s t) (r : Report)
    (hOld : r.poller = c.poller → r.run < c.old.run → r.run < c.first) :
    c.Mirrors (s.conclude r) (t.conclude (c.report r)) := by
  obtain ⟨j, run, current, previous⟩ := r
  obtain ⟨run', hReport, hRun⟩ : ∃ run', c.report ⟨j, run, current, previous⟩
      = ⟨j, run', current, previous⟩ ∧ SameRun c j run run' := by
    unfold report
    dsimp only at hOld ⊢
    -- A report of an old run is of no run that the new poller can be in.
    by_cases hj : j = c.poller
    · subst hj
      by_cases hNew : c.old.run ≤ run
      · exact ⟨_, if_pos ⟨rfl, hNew⟩, sameRun_new hNew⟩
      · have hLt := Nat.lt_of_not_le hNew
        exact ⟨_, if_neg fun hBoth => hNew hBoth.2, sameRun_old hLt (hOld rfl hLt)⟩
    · exact ⟨_, if_neg fun hBoth => hj hBoth.1, sameRun_there hj run⟩
  rw [hReport]
  refine h.onPoller j fun q hq => ?_
  rw [see_name]
  have hTold := (h.record (e := .bump (.statusChange q.name)) rfl).emit j q.name
    (.statusChanged current previous)
  exact ((hTold.endWindow hRun).natural j c.natural_endReport).natural j c.natural_release

/-- A result of an old run is nothing to the poller. -/
theorem accept_of_old (h : c.Mirrors s t) {run : Nat} (hOld : run < c.old.run) (seq : Nat)
    (status : Option String) : s.accept c.poller run seq status = (s, none) := by
  unfold Fleet.accept
  rw [h.getElem? c.poller]
  cases hq : t.pollers[c.poller]? with
  | none => rfl
  | some q =>
      have hRun := run_lt_join (h.young q hq) hOld
      rw [Option.map_some, see_here]
      exact if_pos (.inr (.inl (Nat.ne_of_gt hRun)))

theorem fail_of_old (h : c.Mirrors s t) {run : Nat} (hOld : run < c.old.run) (error : String) :
    s.fail c.poller run error = s := by
  unfold Fleet.fail
  rw [h.getElem? c.poller]
  cases hq : t.pollers[c.poller]? with
  | none => rfl
  | some q =>
      have hRun := run_lt_join (h.young q hq) hOld
      rw [Option.map_some, see_here]
      exact if_neg fun hBoth => Nat.ne_of_gt hRun hBoth.2

/-- A fetch of an old run reaches the gate and the journal when it lands, and nothing else. -/
theorem deliver_of_old (h : c.Mirrors s t) {f : Flight} {run seq : Nat}
    (hPurpose : f.purpose = .tick c.poller run seq) (hOld : run < c.old.run) :
    s.deliver f = (f.effects.foldl Fleet.effect s, none) := by
  obtain ⟨due, p, effects, result⟩ := f
  obtain rfl : p = .tick c.poller run seq := hPurpose
  have hEffects := h.effects effects
  cases result with
  | ok status => exact hEffects.accept_of_old hOld seq status
  | error text => exact congrArg (·, none) (hEffects.fail_of_old hOld text)

/-- A fetch that lands comes to the same in both fleets, the report of a change included. -/
theorem deliver (h : c.Mirrors s t) (f : Flight)
    (hIssued : ∀ run seq, f.purpose = .tick c.poller run seq → c.old.run ≤ run →
      c.old.issued < seq) :
    c.Mirrors (s.deliver f).1 (t.deliver (c.flight f)).1 ∧
      (t.deliver (c.flight f)).2 = (s.deliver f).2.map c.report := by
  obtain ⟨due, p, effects, result⟩ := f
  have hEffects := h.effects effects
  cases p with
  | direct => exact ⟨hEffects, rfl⟩
  | tick j run seq =>
      by_cases hj : j = c.poller
      · subst hj
        by_cases hOld : run < c.old.run
        · -- The old poller drops it, and nobody waits for it in the other fleet.
          have hPurpose : c.purpose (.tick c.poller run seq) = .direct := by
            rw [purpose, if_pos rfl, if_pos hOld]
          rw [h.deliver_of_old rfl hOld]
          simp only [Fleet.deliver, flight, hPurpose]
          exact ⟨hEffects, rfl⟩
        · -- A fetch of a new run: both pollers wait for it.
          have hNew := Nat.le_of_not_lt hOld
          have hSeq := hIssued run seq rfl hNew
          have hPurpose : c.purpose (.tick c.poller run seq)
              = .tick c.poller (run - c.gap) (seq - c.old.issued) := by
            rw [purpose, if_pos rfl, if_neg hOld]
          simp only [Fleet.deliver, flight, hPurpose]
          cases result with
          | ok status =>
              refine hEffects.accept (sameRun_new hNew) (fun _ => by omega) (absurd rfl) ?_ status
              exact fun _ _ => if_pos ⟨rfl, hNew⟩
          | error text => exact ⟨hEffects.fail (sameRun_new hNew) text, rfl⟩
      · have hPurpose : c.purpose (.tick j run seq) = .tick j run seq := by
          rw [purpose, if_neg hj]
        simp only [Fleet.deliver, flight, hPurpose]
        cases result with
        | ok status =>
            refine hEffects.accept (sameRun_there hj run) (absurd · hj) (fun _ => rfl) ?_ status
            exact fun _ _ => if_neg fun hBoth => hj hBoth.1
        | error text => exact ⟨hEffects.fail (sameRun_there hj run) text, rfl⟩

end Mirrors

/-! ## Scenes -/

variable (c) in
/-- The scene `s` is `t` but for the past of a poller. Of the reports of the old poller that
are open, those that the new one might take for its own are excluded. -/
structure MirrorsScene {ω : Type} (s t : Scene ω) : Prop where
  fleet : c.Mirrors s.fleet t.fleet
  reports : t.reports = s.reports.map c.report
  old : ∀ r ∈ s.reports, r.poller = c.poller → r.run < c.old.run → r.run < c.first

namespace MirrorsScene

variable {ω : Type} {s t : Scene ω}

/-- The fetch that lands in one scene, and what is left in flight. -/
theorem erase (h : c.MirrorsScene s t) (k : Nat) :
    c.Mirrors { s.fleet with flights := s.fleet.flights.eraseIdx k }
      { t.fleet with flights := t.fleet.flights.eraseIdx k } :=
  { h.fleet with
    flights := by
      show t.fleet.flights.eraseIdx k = (s.fleet.flights.eraseIdx k).map c.flight
      rw [h.fleet.flights, List.eraseIdx_map]
    issued := by
      intro run seq hMem
      obtain ⟨f, hf, hPurpose⟩ := List.mem_map.mp hMem
      exact h.fleet.issued run seq
        (List.mem_map.mpr ⟨f, List.mem_of_mem_eraseIdx hf, hPurpose⟩) }

variable [FetchSource ω]

/-- No report of an old run is opened any more. -/
theorem old_move (h : c.MirrorsScene s t) (m : Move ω) :
    ∀ r ∈ (s.move m).reports, r.poller = c.poller → r.run < c.old.run → r.run < c.first := by
  intro r hr hPoller hOld
  rcases Scene.mem_reports_move hr with hBefore | ⟨p, seq, hp, hCounts⟩
  · exact h.old r hBefore hPoller hOld
  · rw [hPoller, h.fleet.getElem? c.poller, Option.map_eq_some_iff] at hp
    obtain ⟨q, hq, rfl⟩ := hp
    have hRun := Mirrors.run_lt_join (h.fleet.young q hq) hOld
    rw [see_here] at hCounts
    exact absurd hCounts.2.1 (Nat.ne_of_gt hRun)

/-- **Every move leaves the two scenes as they are to each other.** -/
theorem move (h : c.MirrorsScene s t) (m : Move ω) :
    c.MirrorsScene (s.move m) (t.move m) := by
  have hOld := h.old_move m
  cases m with
  | operate j o => exact ⟨h.fleet.operate j o, h.reports, hOld⟩
  | ask j => exact ⟨h.fleet.ask j, h.reports, hOld⟩
  | ring j k => exact ⟨h.fleet.ring j k, h.reports, hOld⟩
  | call f source =>
      have hAsked : c.Mirrors { s.fleet with source := source } { t.fleet with source := source } :=
        { h.fleet with source := rfl }
      exact ⟨hAsked.launch rfl (fun _ _ hTick => by cases hTick) f, h.reports, hOld⟩
  | signal x => exact ⟨h.fleet.tell x, h.reports, hOld⟩
  | note e => exact ⟨h.fleet.record rfl, h.reports, hOld⟩
  | pass ms =>
      refine ⟨{ h.fleet with now := ?_ }, h.reports, hOld⟩
      show s.fleet.now + ms = t.fleet.now + ms
      rw [h.fleet.now]
  | resume =>
      refine ⟨?_, h.reports, hOld⟩
      simp only [Scene.move, Fleet.work]
      rw [h.fleet.gate, h.fleet.now]
      cases t.fleet.gate.fire? t.fleet.now with
      | none => exact h.fleet
      | some result => exact h.fleet.putGate result
  | land k =>
      have hFlight : t.fleet.flights[k]? = s.fleet.flights[k]?.map c.flight := by
        rw [h.fleet.flights, List.getElem?_map]
      simp only [Scene.move] at hOld ⊢
      rw [hFlight]
      cases hf : s.fleet.flights[k]? with
      | none => exact h
      | some f =>
          rw [hf] at hOld
          obtain ⟨hFleet, hReport⟩ := (h.erase k).deliver f fun run seq hPurpose =>
            h.fleet.issued run seq (List.mem_map.mpr ⟨f, List.mem_of_getElem? hf, hPurpose⟩)
          refine ⟨hFleet, ?_, hOld⟩
          show t.reports ++ Option.toList _ = (s.reports ++ Option.toList _).map c.report
          rw [hReport, h.reports, List.map_append, Option.toList_map]
  | conclude k =>
      have hReport : t.reports[k]? = s.reports[k]?.map c.report := by
        rw [h.reports, List.getElem?_map]
      simp only [Scene.move] at hOld ⊢
      rw [hReport]
      cases hr : s.reports[k]? with
      | none => exact h
      | some r =>
          rw [hr] at hOld
          refine ⟨h.fleet.conclude r (h.old r (List.mem_of_getElem? hr)), ?_, hOld⟩
          show t.reports.eraseIdx k = (s.reports.eraseIdx k).map c.report
          rw [h.reports, List.eraseIdx_map]

theorem after (h : c.MirrorsScene s t) (later : List (Move ω)) :
    c.MirrorsScene (s.after later) (t.after later) := by
  induction later with
  | nil => exact h
  | cons m later ih => exact ih.move m

end MirrorsScene

end Past

end Polling

end Lookout
