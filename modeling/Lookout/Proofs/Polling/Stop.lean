import Mathlib.Data.List.Perm.Basic
import Lookout.Proofs.Polling.Armed
import Lookout.Proofs.Polling.Mirror

set_option autoImplicit false

/-! # A stop erases the run

What is left of a run when a poller has been stopped? `Scene.renewed` puts a poller in its
place that has just been built, and lets the fetches that the old one has in flight land for
nobody. `stop_erases_run` says that whatever happens from then on, nobody can tell
(`Scene.Resumes`). Until the next start the poller rests (`Poller.Rests`): it starts no
fetch and publishes nothing but the end of reports whose callback was at work when it was
stopped.
-/

namespace Lookout.Polling

/-! ## A stopped poller rests -/

namespace Deed

/-- Whether a deed begins a run of a poller that is stopped. -/
def starts : Deed → Bool
  | .operate .start | .operate .enterActive | .operate .guard => true
  | _ => false

/-- What a deed publishes of a poller that is stopped: the end of a report. -/
def news : Deed → List TickEvent
  | .conclude _ current previous => [.statusChanged current previous]
  | _ => []

end Deed

namespace Poller

/-- A stopped poller with no timer. -/
structure Asleep (p : Poller) : Prop where
  mode : p.mode = .stopped
  live : p.timers.live = []

/-- `q` is what has become of `p`, which was asleep, with `news` published; its fetch
operation was called at most if somebody `asked`. -/
structure Rests (p q : Poller) (news : List TickEvent) (asked : Prop) : Prop where
  asleep : q.Asleep
  lastStatus : q.lastStatus = p.lastStatus
  run : q.run = p.run
  issued : q.issued = p.issued
  changes : q.changes = p.changes
  events : q.events = news ++ p.events
  fetches : ¬ asked → q.fetches = p.fetches

variable {p q : Poller} {news : List TickEvent} {asked : Prop}

theorem Asleep.rests (h : p.Asleep) : p.Rests p [] asked := ⟨h, rfl, rfl, rfl, rfl, rfl, fun _ => rfl⟩

theorem Rests.own (h : p.Rests q news asked) (o : Owners) :
    p.Rests { q with owners := o } news asked :=
  ⟨⟨h.asleep.mode, h.asleep.live⟩, h.lastStatus, h.run, h.issued, h.changes, h.events, h.fetches⟩

theorem Rests.release (h : p.Rests q news asked) : p.Rests q.release news asked := by
  unfold Poller.release
  split
  next => exact h
  next =>
    exact ⟨⟨h.asleep.mode, rfl⟩, h.lastStatus, h.run, h.issued, h.changes, h.events, h.fetches⟩

theorem Rests.trans {r : Poller} {news' : List TickEvent} {asked' : Prop}
    (h : p.Rests q news asked) (h' : q.Rests r news' asked') :
    p.Rests r (news' ++ news) (asked' ∨ asked) where
  asleep := h'.asleep
  lastStatus := h'.lastStatus.trans h.lastStatus
  run := h'.run.trans h.run
  issued := h'.issued.trans h.issued
  changes := h'.changes.trans h.changes
  events := by rw [h'.events, h.events, List.append_assoc]
  fetches hNot := (h'.fetches (hNot ∘ .inl)).trans (h.fetches (hNot ∘ .inr))

/-- **What a deed is to a poller that is asleep**, if it does not begin a run and is not the
failure of a fetch of a run to come. -/
theorem Asleep.perform (h : p.Asleep) (paused : Bool) (now : Nat) {d : Deed}
    (hStarts : d.starts = false) (hFail : ∀ run error, d = .fail run error → p.run ≠ run) :
    p.Rests (p.perform paused now d) d.news (d = .ask) := by
  have hStopped : ¬ p.mode.isPolling = true := by
    rw [h.mode]
    exact Bool.false_ne_true
  have hIdle : p.mode ≠ .active := by
    rw [h.mode]
    exact nofun
  cases d with
  | operate o =>
      rw [Poller.perform]
      split
      next =>
        cases o with
        | start => cases hStarts
        | enterActive => cases hStarts
        | guard => cases hStarts
        | stop =>
            rw [operate, stop, if_neg hStopped]
            exact h.rests
        | exitActive =>
            rw [operate, exitActive, if_neg hIdle]
            exact h.rests
        | clone => exact h.rests.own _
        | dropMain => exact (h.rests.own _).release
        | dropClone => exact (h.rests.own _).release
        | dropGuard =>
            rw [operate, stop, if_neg hStopped]
            exact (h.rests.own _).release
      next => exact h.rests
  | ask =>
      rw [Poller.perform]
      split
      next => exact ⟨⟨h.mode, h.live⟩, rfl, rfl, rfl, rfl, rfl, absurd rfl⟩
      next => exact h.rests
  | ring k =>
      rw [Poller.perform, ring, h.live]
      exact h.rests
  | accept run seq status =>
      rw [Poller.perform, accept_of_not_counts fun hCounts => hStopped hCounts.2.2.1]
      exact h.rests
  | fail run error =>
      rw [Poller.perform, fail, if_neg fun hBoth => hFail run error rfl hBoth.2]
      exact h.rests
  | conclude run current previous =>
      have hTold : p.Rests (p.publish (.statusChanged current previous))
          [.statusChanged current previous] (Deed.conclude run current previous = .ask) :=
        ⟨⟨h.mode, h.live⟩, rfl, rfl, rfl, rfl, rfl, fun _ => rfl⟩
      rw [Poller.perform, conclude, if_neg fun hBoth => hIdle hBoth.2]
      exact (hTold.own _).release

/-! ## A new poller in its place -/

/-- A poller that has just been built like `p`, for those who have handles of `p`. It counts
its runs from `first`. -/
def renewed (p : Poller) (first : Nat) : Poller :=
  { name := p.name, cadence := p.cadence, callback := p.callback, owners := p.owners, run := first }

end Poller

/-- What a fetch is for once nobody waits for those of poller `i`. -/
def Purpose.without (i : Nat) : Purpose → Purpose
  | .direct => .direct
  | .tick j run seq => if j = i then .direct else .tick j run seq

namespace Scene

variable {ω : Type}

/-- The scene with a new poller in place of poller `i`, for which no fetch is in flight. -/
def renewed (s : Scene ω) (i first : Nat) : Scene ω where
  fleet :=
    { s.fleet with
      pollers := s.fleet.pollers.modify i (·.renewed first)
      flights := s.fleet.flights.map fun f => { f with purpose := f.purpose.without i } }
  reports := s.reports

/-- **What can be seen of `s` is what can be seen of `t`**, in which poller `i` was new when it
was `old` in `s`: everything outside the poller is the same, down to the journal (but for the
numbers of results that came too late); so are what is in flight, the reports at work, and the
poller's mode, status and handles; and it adds the same to its records. -/
structure Resumes (i : Nat) (old : Poller) (s t : Scene ω) : Prop where
  now : s.fleet.now = t.fleet.now
  gate : s.fleet.gate = t.fleet.gate
  source : s.fleet.source = t.fleet.source
  journal : s.fleet.journal.map Journal.Entry.unnumbered
    = t.fleet.journal.map Journal.Entry.unnumbered
  others : ∀ j, j ≠ i → s.fleet.pollers[j]? = t.fleet.pollers[j]?
  flights : s.fleet.flights.map (fun f => (f.due, f.effects, f.result))
    = t.fleet.flights.map fun f => (f.due, f.effects, f.result)
  reports : s.reports.map (fun r => (r.poller, r.current, r.previous))
    = t.reports.map fun r => (r.poller, r.current, r.previous)
  poller : ∃ p q, s.fleet.pollers[i]? = some p ∧ t.fleet.pollers[i]? = some q ∧
    p.mode = q.mode ∧ p.board.value = q.board.value ∧ p.lastStatus = q.lastStatus ∧
    p.owners = q.owners ∧ p.board.sent = q.board.sent ++ old.board.sent ∧
    p.fetches = q.fetches ++ old.fetches ∧ p.changes = q.changes ++ old.changes ∧
    p.events = q.events ++ old.events

/-- Poller `i` is `old`, which is stopped. -/
structure Stopped (u : Scene ω) (i : Nat) (old : Poller) : Prop where
  here : u.fleet.pollers[i]? = some old
  asleep : old.Asleep
  tickTimer : old.tickTimer = none
  expiryTimer : old.expiryTimer = none
  lastStatus : old.lastStatus = none
  applied_le : old.applied ≤ old.issued
  shown : old.board.value = .stopped
  marked : u.Marked i old

namespace Stopped

variable {u : Scene ω} {i : Nat} {old : Poller}

/-- No run of a stopped poller is going on. -/
theorem run_lt (h : u.Stopped i old) {run : Nat} (hBegan : old.Began run) : run < old.run := by
  refine Nat.lt_of_le_of_ne hBegan.le fun hSame => ?_
  have hPolling := hBegan.polling hSame
  rw [h.asleep.mode] at hPolling
  cases hPolling

theorem flights (h : u.Stopped i old) {run seq : Nat}
    (hMem : .tick i run seq ∈ u.fleet.purposes) : run < old.run :=
  h.run_lt (h.marked.flights run seq hMem).began

theorem reports (h : u.Stopped i old) : ∀ r ∈ u.reports, r.poller = i → r.run < old.run :=
  fun r hr hPoller => h.run_lt (h.marked.reports r hr hPoller)

/-- What the poller has behind it. -/
def past (h : u.Stopped i old) {first : Nat} (hFirst : first ≤ old.run) : Past :=
  ⟨i, old, first, hFirst, h.applied_le, h.shown⟩

theorem join_renewed (h : u.Stopped i old) {first : Nat} (hFirst : first ≤ old.run) :
    (h.past hFirst).join (old.renewed first) = old := by
  have hRun : old.run - first + first = old.run := Nat.sub_add_cancel hFirst
  have hMode := h.asleep.mode
  have hLive := h.asleep.live
  have hTick := h.tickTimer
  have hExpiry := h.expiryTimer
  have hStatus := h.lastStatus
  obtain ⟨name, cadence, callback, mode, lastStatus, tickTimer, expiryTimer, run, issued, applied,
    tickGeneration, expiryGeneration, ⟨live, made⟩, board, events, fetches, changes, owners⟩ := old
  simp only at hRun hMode hLive hTick hExpiry hStatus
  subst hMode hLive hTick hExpiry hStatus
  simp [Past.join, past, Poller.renewed, Past.gap, Timers.shift, hRun]

/-- Before anything else has happened, the two scenes differ in the past of the poller. -/
theorem mirrors (h : u.Stopped i old) {first : Nat} (hFirst : first ≤ old.run)
    (hReports : ∀ r ∈ u.reports, r.poller = i → r.run < first) :
    (h.past hFirst).MirrorsScene u (u.renewed i first) := by
  refine ⟨⟨rfl, rfl, rfl, rfl, ?_, ?_, ?_, ?_⟩, ?_, fun r hr hPoller _ => hReports r hr hPoller⟩
  · show u.fleet.pollers
      = (u.fleet.pollers.modify i (·.renewed first)).modify i (h.past hFirst).join
    -- The old poller is the new one with the past of the old one.
    rw [List.modify_modify_eq]
    exact (modify_of_fixed h.here (h.join_renewed hFirst)).symm
  · refine List.map_congr_left fun f hf => ?_
    have hPurpose : f.purpose.without i = (h.past hFirst).purpose f.purpose := by
      cases hp : f.purpose with
      | direct => rfl
      | tick j run seq =>
          rw [Purpose.without, Past.purpose]
          by_cases hj : j = i
          · -- All that the stopped poller has in flight is of runs that are over.
            subst hj
            have hOver := h.flights (List.mem_map.mpr ⟨f, hf, hp⟩)
            exact (if_pos rfl).trans ((if_pos rfl).trans (if_pos hOver)).symm
          · exact (if_neg hj).trans (if_neg hj).symm
    rw [hPurpose]
    rfl
  · intro q hq
    have hRenewed : (u.fleet.pollers.modify i (·.renewed first))[i]? = some q := hq
    rw [List.getElem?_modify_eq, h.here] at hRenewed
    obtain rfl := Option.some.inj hRenewed
    exact ⟨Nat.le_refl _, rfl⟩
  · intro run seq hMem hRun
    exact absurd (h.flights hMem) (Nat.not_lt_of_le hRun)
  · -- So are all its reports, and they stay as they are.
    have hSame : ∀ r ∈ u.reports, (h.past hFirst).report r = id r := fun r hr =>
      if_neg fun hBoth => Nat.not_lt_of_le hBoth.2 (h.reports r hr hBoth.1)
    show u.reports = u.reports.map (h.past hFirst).report
    rw [List.map_congr_left hSame, List.map_id]

variable [FetchSource ω]

/-- **Nobody can tell the old poller from a new one.** -/
theorem resumes (h : u.Stopped i old) {first : Nat} (hFirst : first ≤ old.run)
    (hReports : ∀ r ∈ u.reports, r.poller = i → r.run < first) (later : List (Move ω)) :
    (u.after later).Resumes i old ((u.renewed i first).after later) := by
  have hAfter := (h.mirrors hFirst hReports).after later
  have hFleet := hAfter.fleet
  obtain ⟨p, hp⟩ := exists_after h.here later
  have hSee := hFleet.getElem? i
  rw [hp, eq_comm, Option.map_eq_some_iff] at hSee
  obtain ⟨q, hq, rfl⟩ := hSee
  have hValue := Past.value_join (hFleet.young q hq)
  have hHere : (h.past hFirst).see i q = (h.past hFirst).join q := Past.see_here _ q
  rw [hHere] at hp
  exact {
    now := hFleet.now
    gate := hFleet.gate
    source := hFleet.source
    journal := hFleet.journal
    others := by
      intro j hj
      rw [hFleet.getElem? j, Past.see_there _ hj, Option.map_id]
      rfl
    flights := by
      rw [hFleet.flights, List.map_map]
      rfl
    reports := by
      rw [hAfter.reports, List.map_map]
      refine List.map_congr_left fun r _ => ?_
      simp only [Function.comp_apply, Past.report]
      split <;> rfl
    poller := ⟨_, q, hp, hq, rfl, hValue, rfl, rfl, rfl, rfl, rfl, rfl⟩ }

/-- Whatever happens, the runs of the poller are later than those before it was stopped. -/
theorem run_lt_after (h : u.Stopped i old) (later : List (Move ω)) {p : Poller}
    (hp : (u.after later).fleet.pollers[i]? = some p) {run : Nat} (hOld : run < old.run) :
    run < p.run := by
  have hFleet := ((h.mirrors (Nat.le_refl _) h.reports).after later).fleet
  have hSee := hFleet.getElem? i
  rw [hp, eq_comm, Option.map_eq_some_iff] at hSee
  obtain ⟨q, hq, rfl⟩ := hSee
  calc run
      < ((h.past (Nat.le_refl _)).join q).run := Past.Mirrors.run_lt_join (hFleet.young q hq) hOld
    _ = ((h.past (Nat.le_refl _)).see i q).run :=
        (congrArg Poller.run (Past.see_here (h.past (Nat.le_refl _)) q)).symm

/-- A fetch from before the stop does nothing to the poller when it lands. -/
theorem land (h : u.Stopped i old) (later : List (Move ω)) {k run seq : Nat}
    (hFlight : (u.after later).fleet.purposes[k]? = some (.tick i run seq))
    (hSeq : seq ≤ old.issued) :
    ((u.after later).move (.land k)).fleet.pollers = (u.after later).fleet.pollers ∧
      ((u.after later).move (.land k)).reports = (u.after later).reports := by
  have hAfter := (h.mirrors (Nat.le_refl _) h.reports).after later
  -- A fetch of a later run would have a later number.
  have hOld : run < old.run := by
    by_contra hNew
    have hLate := hAfter.fleet.issued run seq (List.mem_of_getElem? hFlight)
      (Nat.le_of_not_lt hNew)
    exact absurd hSeq (Nat.not_le_of_lt hLate)
  rw [Fleet.purposes, List.getElem?_map, Option.map_eq_some_iff] at hFlight
  obtain ⟨f, hf, hPurpose⟩ := hFlight
  rw [move, hf]
  dsimp only
  rw [(hAfter.erase k).deliver_of_old hPurpose hOld]
  exact ⟨(Fleet.effects_frame f.effects _).1, List.append_nil _⟩

/-- The end of a report from before the stop is published, and ends no window. -/
theorem conclude (h : u.Stopped i old) (later : List (Move ω)) {k : Nat} {r : Report} {p : Poller}
    (hr : (u.after later).reports[k]? = some r) (hPoller : r.poller = i)
    (hOld : r.run < old.run) (hp : (u.after later).fleet.pollers[i]? = some p) :
    ((u.after later).move (.conclude k)).fleet.pollers[i]?
      = some (p.publish (.statusChanged r.current r.previous)).endReport.release := by
  have hDeed : (u.after later).deed? (.conclude k)
      = some (i, .conclude r.run r.current r.previous) := by
    rw [deed?, hr, Option.map_some, hPoller]
  have hRun : p.run ≠ r.run := Nat.ne_of_gt (h.run_lt_after later hp hOld)
  rw [getElem?_move, hp, Option.map_some, turn_of_deed hDeed, Poller.perform, Poller.conclude,
    if_neg fun hBoth => hRun hBoth.1]

end Stopped

/-- The open reports of poller `i`. -/
def pending (s : Scene ω) (i : Nat) : List Report := s.reports.filter (·.poller = i)

end Scene

/-- The event at the end of a report. -/
def Report.event (r : Report) : TickEvent := .statusChanged r.current r.previous

/-- Whether a move begins a run of poller `i`, if it is stopped. -/
def Move.starts {ω : Type} (i : Nat) : Move ω → Bool
  | .operate j .start | .operate j .enterActive | .operate j .guard => j == i
  | _ => false

namespace Scene

variable {ω : Type}

theorem pending_append (s : Scene ω) (i : Nat) (opened : List Report)
    (h : ∀ r ∈ opened, r.poller ≠ i) :
    (s.reports ++ opened).filter (·.poller = i) = s.pending i := by
  have hNone : opened.filter (·.poller = i) = [] :=
    List.filter_eq_nil_iff.mpr fun r hr => by simpa using h r hr
  rw [List.filter_append, hNone, List.append_nil]
  rfl

theorem pending_eraseIdx {s : Scene ω} {i k : Nat} {r : Report} (hr : s.reports[k]? = some r) :
    (s.pending i).Perm
      (if r.poller = i then r :: (s.reports.eraseIdx k).filter (·.poller = i)
        else (s.reports.eraseIdx k).filter (·.poller = i)) := by
  obtain ⟨hk, rfl⟩ := List.getElem?_eq_some_iff.mp hr
  have hPerm := (List.getElem_cons_eraseIdx_perm hk).symm.filter (·.poller = i)
  rw [List.filter_cons] at hPerm
  simpa [pending] using hPerm

/-- Only a call of `start`, `enterActive` or `guard` begins a run. -/
theorem Meets.starts {s : Scene ω} {m : Move ω} {i : Nat} {d : Deed} (h : s.Meets i m d) :
    d.starts = m.starts i := by
  cases h with
  | operate o => cases o <;> simp [Deed.starts, Move.starts]
  | _ => rfl

/-- Only the end of a report is news of a poller that is asleep. -/
theorem Meets.news {s : Scene ω} {m : Move ω} {i : Nat} {d : Deed} (h : s.Meets i m d)
    (hConclude : ∀ k r, m = .conclude k → s.reports[k]? ≠ some r) : d.news = [] := by
  cases h with
  | conclude k r report => exact absurd report (hConclude k r rfl)
  | _ => rfl

variable [FetchSource ω]

/-- One move of a poller that is asleep: it rests, and each report that is no longer pending
is published. -/
theorem rests_move {s : Scene ω} {m : Move ω} {i : Nat} {p : Poller} (hp : p.Asleep)
    (hHere : s.fleet.pollers[i]? = some p) (hMarked : s.Marked i p) (hStarts : m.starts i = false) :
    ∃ done, p.Rests (s.turn m i p) (done.map Report.event) (m = .ask i) ∧
      (done ++ (s.move m).pending i).Perm (s.pending i) := by
  have hPerform : ∀ d, s.deed? m = some (i, d) →
      p.Rests (s.turn m i p) d.news (m = .ask i) := by
    intro d hDeed
    have hMeets := meets_of_deed hDeed
    -- A fetch in flight of the present run would mean that the poller polls.
    have hFail : ∀ run error, d = .fail run error → p.run ≠ run := by
      rintro run error rfl hRun
      cases hMeets with
      | fail k f run seq error flight purpose =>
          have hMem := List.mem_of_getElem? (getElem?_purposes flight)
          rw [purpose] at hMem
          have hPolling := (hMarked.flights run seq hMem).began.polling hRun.symm
          rw [hp.mode] at hPolling
          cases hPolling
    have hRests := hp.perform s.fleet.gate.paused s.fleet.now (hMeets.starts.trans hStarts) hFail
    rw [turn_of_deed hDeed]
    refine { hRests with fetches := fun hAsk => hRests.fetches ?_ }
    rintro rfl
    cases hMeets
    exact hAsk rfl
  -- Only the end of a report takes from those that are pending; no other move adds to them,
  -- since a stopped poller applies no result.
  by_cases hConclude : ∃ k r, m = .conclude k ∧ s.reports[k]? = some r
  · obtain ⟨k, r, rfl, hr⟩ := hConclude
    have hDeed : s.deed? (.conclude k)
        = some (r.poller, .conclude r.run r.current r.previous) := by
      rw [deed?, hr]
      rfl
    have hPending := pending_eraseIdx (i := i) hr
    rw [pending, reports_conclude hr]
    by_cases hPoller : r.poller = i
    · rw [if_pos hPoller] at hPending
      rw [hPoller] at hDeed
      exact ⟨[r], hPerform _ hDeed, hPending.symm⟩
    · rw [if_neg hPoller] at hPending
      refine ⟨[], ?_, hPending.symm⟩
      rw [turn_of_other hDeed hPoller]
      exact hp.rests
  · have hNot : ∀ k r, m = .conclude k → s.reports[k]? ≠ some r :=
      fun k r hm hr => hConclude ⟨k, r, hm, hr⟩
    obtain ⟨opened, hReports, hOpened⟩ := reports_move hNot
    refine ⟨[], ?_, ?_⟩
    · rcases s.turn_cases m i p with hSame | ⟨d, hDeed, -⟩
      · rw [hSame]
        exact hp.rests
      · have hRests := hPerform d hDeed
        rw [(meets_of_deed hDeed).news hNot] at hRests
        exact hRests
    · rw [pending, hReports, pending_append s i opened]
      · exact .refl _
      · rintro r hr rfl
        obtain ⟨q, seq, hq, hCounts⟩ := hOpened r hr
        obtain rfl := Option.some.inj (hHere.symm.trans hq)
        have hPolling := hCounts.2.2.1
        rw [hp.mode] at hPolling
        cases hPolling

/-- **Until the next start** a stopped poller rests, and each report of it that is no longer
pending is published. -/
theorem Stopped.rests {u : Scene ω} {i : Nat} {old : Poller} (h : u.Stopped i old)
    {later : List (Move ω)} (hStarts : ∀ m ∈ later, m.starts i = false) :
    ∃ p done, (u.after later).fleet.pollers[i]? = some p ∧
      old.Rests p (done.map Report.event) (.ask i ∈ later) ∧
      (done ++ (u.after later).pending i).Perm (u.pending i) := by
  induction later with
  | nil => exact ⟨old, [], h.here, h.asleep.rests, .refl _⟩
  | cons m later ih =>
      obtain ⟨p, done, hp, hRests, hPerm⟩ := ih fun x hx => hStarts x (List.mem_cons_of_mem m hx)
      have hMarked := h.marked.after h.here later hp
      obtain ⟨done', hRests', hPerm'⟩ := rests_move hRests.asleep hp hMarked
        (hStarts m List.mem_cons_self)
      refine ⟨_, done' ++ done, (getElem?_move _ m i).trans (congrArg (Option.map _) hp), ?_, ?_⟩
      · have hBoth := hRests.trans hRests'
        rw [← List.map_append] at hBoth
        refine { hBoth with fetches := fun hAsk => hBoth.fetches fun hAsked => hAsk ?_ }
        rcases hAsked with rfl | hEarlier
        · exact List.mem_cons_self
        · exact List.mem_cons_of_mem m hEarlier
      · calc (done' ++ done ++ (u.after (m :: later)).pending i).Perm
              (done ++ done' ++ (u.after (m :: later)).pending i) :=
            List.perm_append_comm.append_right _
          List.Perm _ (done ++ (done' ++ (u.after (m :: later)).pending i)) :=
            .of_eq (List.append_assoc _ _ _)
          List.Perm _ (done ++ (u.after later).pending i) := hPerm'.append_left done
          List.Perm _ (u.pending i) := hPerm

/-! ## What a stop leaves -/

theorem Fresh.stopped {s₀ : Scene ω} (hFresh : s₀.Fresh) (past : List (Move ω)) {i : Nat}
    {old : Poller} (hHandle : (s₀.after past).fleet.allows i .stop = true)
    (hOld : ((s₀.after past).move (.operate i .stop)).fleet.pollers[i]? = some old) :
    ((s₀.after past).move (.operate i .stop)).Stopped i old := by
  obtain ⟨p, hp, hTurn⟩ := exists_of_move hOld
  rw [Fleet.allows_eq hp] at hHandle
  have hStop : old = p.stop := by
    rw [hTurn, turn_of_deed rfl, Poller.perform, if_pos hHandle]
    rfl
  have hAlive : old.alive = true := by
    have hKept : p.stop.alive = p.alive := by
      unfold Poller.stop
      split <;> rfl
    rw [hStop, hKept]
    exact Poller.alive_of_allowed hHandle
  have hMode : old.mode = .stopped := Mode.eq_stopped (hStop ▸ p.isPolling_stop)
  -- It is sound, and of the three modes only one is left.
  have hSound := hFresh.sound (.operate i .stop :: past) hOld hAlive
  have hMarked := hFresh.marked (.operate i .stop :: past) hOld
  cases hSound.armed with
  | stopped mode live tick expiry =>
      exact ⟨hOld, ⟨mode, live⟩, tick, expiry, hSound.forgotten mode, hSound.applied_le,
        hSound.shown.trans mode, hMarked⟩
  | idle handle deadline mode => cases hMode.symm.trans mode
  | active opened handle deadline handle' mode => cases hMode.symm.trans mode

/-- **A stop erases the run.** Let poller `i` be stopped by somebody who has a handle of it,
whatever has happened before, and be `old` afterwards. Then, whatever `later` brings:

* nobody can tell it from a poller built in its place, which counts its runs from 0 (or, as
  long as callbacks of it are at work, from a number above their runs);
* a fetch that it had in flight does nothing to it when it lands, nor to any poller: it only
  reaches the gate and the journal;
* until the next start it stays stopped, starts no fetch, calls no callback and publishes
  nothing, except that each report whose callback was at work is published once;
* such a report never ends a window of a run that was begun since. -/
theorem stop_erases_run {s₀ : Scene ω} (hFresh : s₀.Fresh) (past : List (Move ω)) {i : Nat}
    {old : Poller} (hHandle : (s₀.after past).fleet.allows i .stop = true)
    (hOld : ((s₀.after past).move (.operate i .stop)).fleet.pollers[i]? = some old)
    (later : List (Move ω)) :
    let u := (s₀.after past).move (.operate i .stop)
    (∀ first, first ≤ old.run → (∀ r ∈ u.reports, r.poller = i → r.run < first) →
      (u.after later).Resumes i old ((u.renewed i first).after later)) ∧
    (∀ r ∈ u.reports, r.poller = i → r.run < old.run) ∧
    (∀ k run seq, (u.after later).fleet.purposes[k]? = some (.tick i run seq) →
      seq ≤ old.issued →
        ((u.after later).move (.land k)).fleet.pollers = (u.after later).fleet.pollers ∧
          ((u.after later).move (.land k)).reports = (u.after later).reports) ∧
    ((∀ m ∈ later, m.starts i = false) →
      ∃ p done, (u.after later).fleet.pollers[i]? = some p ∧ p.mode = .stopped ∧
        p.timers.live = [] ∧ p.lastStatus = none ∧ p.issued = old.issued ∧
        (.ask i ∉ later → p.fetches = old.fetches) ∧ p.changes = old.changes ∧
        p.events = done.map Report.event ++ old.events ∧
        (done ++ (u.after later).pending i).Perm (u.pending i)) ∧
    (∀ k r p, (u.after later).reports[k]? = some r → r.poller = i → r.run < old.run →
      (u.after later).fleet.pollers[i]? = some p →
        ((u.after later).move (.conclude k)).fleet.pollers[i]?
          = some (p.publish r.event).endReport.release) := by
  intro u
  have h : u.Stopped i old := hFresh.stopped past hHandle hOld
  refine ⟨fun first hFirst hReports => h.resumes hFirst hReports later, h.reports,
    fun k run seq hFlight hSeq => h.land later hFlight hSeq, fun hStarts => ?_,
    fun k r p hr hPoller hRun hp => h.conclude later hr hPoller hRun hp⟩
  obtain ⟨p, done, hp, hRests, hPerm⟩ := h.rests hStarts
  exact ⟨p, done, hp, hRests.asleep.mode, hRests.asleep.live,
    hRests.lastStatus.trans h.lastStatus, hRests.issued, hRests.fetches, hRests.changes,
    hRests.events, hPerm⟩

/-- A run whose second fetch is still in flight. -/
def underway : List (Move Scripts) :=
  [.ring 0 0, .pass 12000, .land 0, .operate 0 .start]

/-- That fetch lands after the next start, and finds a change from the status of before. -/
theorem stop_erases_run_underway :
    ∃ old, ((lone.after underway).move (.operate 0 .stop)).fleet.pollers[0]? = some old ∧
      old.issued = 2 ∧
      (((lone.after underway).move (.operate 0 .stop)).after [.land 0, .operate 0 .start]).Resumes
        0 old ((((lone.after underway).move (.operate 0 .stop)).renewed 0 0).after
          [.land 0, .operate 0 .start]) := by
  obtain ⟨old, hOld, hIssued⟩ : ∃ old,
      ((lone.after underway).move (.operate 0 .stop)).fleet.pollers[0]? = some old ∧
        old.issued = 2 := ⟨_, rfl, rfl⟩
  have hHandle : (lone.after underway).fleet.allows 0 .stop = true := by decide
  have hReports : ((lone.after underway).move (.operate 0 .stop)).reports = [] := rfl
  have hErased := stop_erases_run lone_fresh underway hHandle hOld [.land 0, .operate 0 .start]
  refine ⟨old, hOld, hIssued, hErased.1 0 (Nat.zero_le _) fun r hr => ?_⟩
  rw [hReports] at hr
  cases hr

end Scene

end Lookout.Polling
