import Lookout.Proofs.Polling.Lends

set_option autoImplicit false

/-! # When the last handle is given up

Timers, fetches in flight and callbacks at work all refer to their poller, but only handles
keep it, and callbacks while they are at work. `last_handle_ends_poller` says what is left once
nobody has a handle. If no callback is at work, no move is anything to the poller any more, and
the landing of a fetch that it had in flight is only what the fetch itself does
(`Scene.unheeded`). A callback that is at work keeps the poller going until it returns, so while
it takes its time the next tick may come, though nobody has a handle (`callback_keeps_polling`).
Nothing but its report comes of it if it is done before a timer of the poller fires or a fetch of
it lands (`Scene.Undisturbed`). The callbacks of a fleet at work take no time, so its runs are all
of this kind (`Prompt.undisturbed`).
-/

namespace Lookout.Polling

/-- Whether a deed is something that falls due by itself. -/
def Deed.fallsDue : Deed → Bool
  | .ring _ | .accept .. | .fail .. => true
  | .operate _ | .ask | .conclude .. => false

namespace Poller

/-- Nobody keeps the poller, and it has no timer. -/
structure Gone (p : Poller) : Prop where
  alive : p.alive = false
  live : p.timers.live = []

/-- `q` is what has become of `p`, of which nobody has a handle, with `news` published. -/
structure Left (p q : Poller) (news : List TickEvent) : Prop where
  held : q.owners.held = false
  fetches : q.fetches = p.fetches
  changes : q.changes = p.changes
  events : q.events = news ++ p.events

variable {p q : Poller} {news : List TickEvent} (paused : Bool) (now : Nat)

theorem Left.refl (h : p.owners.held = false) : p.Left p [] := ⟨h, rfl, rfl, rfl⟩

theorem Left.trans {r : Poller} {news' : List TickEvent} (h : p.Left q news) (h' : q.Left r news') :
    p.Left r (news' ++ news) where
  held := h'.held
  fetches := h'.fetches.trans h.fetches
  changes := h'.changes.trans h.changes
  events := by rw [h'.events, h.events, List.append_assoc]

theorem not_allowed (h : p.owners.held = false) (o : Operation) : o.allowed p.owners = false := by
  refine Bool.eq_false_iff.mpr fun hAllowed => ?_
  rw [held_of_allowed hAllowed] at h
  cases h

theorem Gone.held (h : p.Gone) : p.owners.held = false := by
  refine Bool.eq_false_iff.mpr fun hHeld => ?_
  have hGone := h.alive
  rw [alive_of_held hHeld] at hGone
  cases hGone

/-- Without a handle nothing can be done to a poller. -/
theorem perform_of_unheld (h : p.owners.held = false) {d : Deed} (hDue : d.fallsDue = false)
    (hEnds : ends d = 0) : p.perform paused now d = p := by
  cases d with
  | operate o => rw [perform, if_neg (Bool.eq_false_iff.mp (not_allowed h o))]
  | ask => rw [perform, if_neg (Bool.eq_false_iff.mp h)]
  | ring k => cases hDue
  | accept run seq status => cases hDue
  | fail run error => cases hDue
  | conclude run current previous => cases hEnds

/-- Only a report of it is still something to a poller that is gone. -/
theorem Gone.perform (h : p.Gone) {d : Deed} (hEnds : ends d = 0) :
    p.perform paused now d = p := by
  cases d with
  | operate o => exact perform_of_unheld paused now h.held rfl rfl
  | ask => exact perform_of_unheld paused now h.held rfl rfl
  | ring k => rw [Poller.perform, ring, h.live]; rfl
  | accept run seq status =>
      refine accept_of_not_counts (fun hCounts => ?_) status
      have hAlive := hCounts.1
      rw [h.alive] at hAlive
      cases hAlive
  | fail run error => rw [Poller.perform, fail, h.alive, if_neg (by simp)]
  | conclude run current previous => cases hEnds

theorem Gone.opens? (h : p.Gone) (i : Nat) (d : Deed) : p.opens? i d = none := by
  cases d with
  | accept run seq status =>
      refine report?_of_not_counts (fun hCounts => ?_) i status
      have hAlive := hCounts.1
      rw [h.alive] at hAlive
      cases hAlive
  | _ => rfl

/-- The end of a report publishes it. -/
theorem left_conclude (h : p.owners.held = false) (run : Nat) (current previous : String) :
    p.Left (p.conclude now run current previous) [.statusChanged current previous] := by
  obtain ⟨hFetches, hChanges, hEvents⟩ := p.records_conclude now run current previous
  refine ⟨?_, hFetches, hChanges, hEvents⟩
  rw [p.owners_conclude now run current previous]
  exact h

end Poller

/-- A fetch that lands for a poller that is gone has its own effects, and no others. -/
theorem Fleet.deliver_of_gone {ω : Type} {s : Fleet ω} {f : Flight} {i : Nat} {d : Deed}
    {p : Poller} (hDeed : f.deed? = some (i, d)) (hp : s.pollers[i]? = some p) (hGone : p.Gone) :
    s.deliver f = (f.effects.foldl effect s, none) := by
  have hThere : (f.effects.foldl effect s).pollers[i]? = some p := by
    rw [(effects_frame f.effects s).1]
    exact hp
  obtain ⟨due, purpose, effects, result⟩ := f
  cases purpose with
  | direct => cases hDeed
  | tick j run seq =>
      cases result with
      | ok status =>
          obtain ⟨rfl, -⟩ := Prod.mk.inj (Option.some.inj hDeed)
          show Fleet.accept _ j run seq status = _
          rw [accept, hThere]
          exact if_pos (.inl (by rw [hGone.alive]; exact Bool.false_ne_true))
      | error text =>
          obtain ⟨rfl, -⟩ := Prod.mk.inj (Option.some.inj hDeed)
          show (Fleet.fail _ j run text, none) = _
          rw [fail, hThere]
          refine congrArg (·, none) (if_neg fun hMeant => ?_)
          rw [hGone.alive] at hMeant
          cases hMeant.1

namespace Scene

variable {ω : Type}

/-- A move that nobody heeds: if it is that a fetch lands, the fetch has its own effects. -/
def unheeded (s : Scene ω) : Move ω → Scene ω
  | .land k =>
    match s.fleet.flights[k]? with
    | none => s
    | some f =>
      { s with
        fleet := f.effects.foldl Fleet.effect
          { s.fleet with flights := s.fleet.flights.eraseIdx k } }
  | _ => s

/-- The poller of no open report is gone, if nobody has a handle of it. -/
theorem Tended.gone {s : Scene ω} {i : Nat} {p : Poller} (h : s.Tended i p)
    (hHeld : p.owners.held = false) (hNone : s.pending i = []) : p.Gone := by
  have hReports := h.reports
  rw [hNone] at hReports
  have hAlive : p.alive = false := by
    rw [Poller.alive, Owners.any, hHeld, hReports]
    rfl
  exact ⟨hAlive, h.timers hAlive⟩

variable [FetchSource ω]

/-- Whenever a callback of poller `i` is at work, no timer of the poller fires and no fetch of
its ticks lands. -/
def Undisturbed (s : Scene ω) (i : Nat) : List (Move ω) → Prop
  | [] => True
  | m :: later => s.Undisturbed i later ∧
    ((s.after later).pending i ≠ [] →
      ∀ d, (s.after later).deed? m = some (i, d) → d.fallsDue = false)

variable {s : Scene ω} {m : Move ω} {i : Nat} {d : Deed} {p : Poller}

omit [FetchSource ω] in
theorem Meets.fallsDue (h : s.Meets i m d) : d.fallsDue = m.fallsDue := by
  cases h <;> rfl

/-- Callbacks that take no time are undisturbed. -/
theorem Prompt.undisturbed {later : List (Move ω)} (h : s.Prompt later) (i : Nat) :
    s.Undisturbed i later := by
  induction later with
  | nil => trivial
  | cons m later ih =>
      refine ⟨ih h.1, fun hPending d hDeed => ?_⟩
      rw [(meets_of_deed hDeed).fallsDue]
      refine Bool.eq_false_iff.mpr fun hDue => hPending ?_
      rw [pending, h.2 hDue]
      rfl

/-- A move that would be a deed of a poller of which nobody has a handle. -/
theorem move_of_unheld (hp : s.fleet.pollers[i]? = some p) (hHeld : p.owners.held = false)
    (hMeets : s.Meets i m d) (hDue : d.fallsDue = false) (hEnds : Poller.ends d = 0) :
    s.move m = s.unheeded m := by
  cases hMeets with
  | operate o =>
      show ({ s with fleet := s.fleet.operate i o } : Scene ω) = s
      rw [Fleet.operate, Fleet.allows_eq hp, Poller.not_allowed hHeld]
      rfl
  | ask =>
      show ({ s with fleet := s.fleet.ask i } : Scene ω) = s
      rw [Fleet.ask, Fleet.allows_eq hp, Poller.not_allowed hHeld]
      rfl
  | ring k => cases hDue
  | accept k => cases hDue
  | fail k => cases hDue
  | conclude k => cases hEnds

/-- A move that would be a deed of a poller that is gone. -/
theorem move_of_gone (hp : s.fleet.pollers[i]? = some p) (hGone : p.Gone)
    (hMeets : s.Meets i m d) (hEnds : Poller.ends d = 0) : s.move m = s.unheeded m := by
  have hLand : ∀ {k f}, s.fleet.flights[k]? = some f → f.deed? = some (i, d) →
      s.move (.land k) = s.unheeded (.land k) := by
    intro k f hf hDeed
    rw [move, unheeded, hf]
    have hNone := Fleet.deliver_of_gone
      (s := { s.fleet with flights := s.fleet.flights.eraseIdx k }) hDeed hp hGone
    simp only [hNone, Option.toList_none, List.append_nil]
  cases hMeets with
  | operate o => exact move_of_unheld hp hGone.held (.operate o) rfl rfl
  | ask => exact move_of_unheld hp hGone.held .ask rfl rfl
  | ring k =>
      show ({ s with fleet := s.fleet.ring i k } : Scene ω) = s
      rw [Fleet.ring, hp]
      simp only [hGone.live, List.getElem?_nil]
  | accept k f run seq status flight purpose result =>
      refine hLand flight ?_
      rw [Flight.deed?, purpose, result]
  | fail k f run seq error flight purpose result =>
      refine hLand flight ?_
      rw [Flight.deed?, purpose, result]
  | conclude k => cases hEnds

/-- **One move of a scene in which nobody has a handle of poller `i`**: the poller stays as it
is, except that each report that is no longer pending is published. -/
theorem left_move (hp : s.fleet.pollers[i]? = some p) (hTended : s.Tended i p)
    (hHeld : p.owners.held = false)
    (hDue : s.pending i ≠ [] → ∀ d, s.deed? m = some (i, d) → d.fallsDue = false) :
    ∃ done, p.Left (s.turn m i p) (done.map Report.event) ∧
      (done ++ (s.move m).pending i).Perm (s.pending i) := by
  by_cases hDeed : ∃ d, s.deed? m = some (i, d)
  · obtain ⟨d, hDeed⟩ := hDeed
    rw [turn_of_deed hDeed]
    by_cases hEnds : Poller.ends d = 0
    · -- Nothing is done to the poller, and no report is opened or ended.
      have hSame : p.perform s.fleet.gate.paused s.fleet.now d = p ∧ p.opens? i d = none := by
        by_cases hNone : s.pending i = []
        · have hGone := hTended.gone hHeld hNone
          exact ⟨hGone.perform _ _ hEnds, hGone.opens? i d⟩
        · have hIdle := hDue hNone d hDeed
          refine ⟨Poller.perform_of_unheld _ _ hHeld hIdle hEnds, ?_⟩
          cases d with
          | accept run seq status => cases hIdle
          | _ => rfl
      refine ⟨[], ?_, ?_⟩
      · rw [hSame.1]
        exact .refl hHeld
      · rw [pending_of_deed hDeed hp hEnds, hSame.2]
        exact .of_eq (List.append_nil _)
    · cases meets_of_deed hDeed with
      | conclude k r report poller =>
          subst poller
          exact ⟨[r], Poller.left_conclude _ hHeld _ _ _, (pending_of_conclude report).symm⟩
      | _ => exact absurd rfl hEnds
  · have hOther : ∀ d, s.deed? m ≠ some (i, d) := fun d hd => hDeed ⟨d, hd⟩
    refine ⟨[], ?_, pending_of_other hOther⟩
    rcases s.turn_cases m i p with hSame | ⟨d, hd, -⟩
    · rw [hSame]
      exact .refl hHeld
    · exact absurd hd (hOther d)

/-- **Any number of moves** of a scene in which nobody has a handle of poller `i`. -/
theorem left_after (hp : s.fleet.pollers[i]? = some p)
    (hTended : ∀ later q, (s.after later).fleet.pollers[i]? = some q → (s.after later).Tended i q)
    (hHeld : p.owners.held = false) {later : List (Move ω)} (hLater : s.Undisturbed i later) :
    ∃ q done, (s.after later).fleet.pollers[i]? = some q ∧
      p.Left q (done.map Report.event) ∧
      (done ++ (s.after later).pending i).Perm (s.pending i) := by
  induction later with
  | nil => exact ⟨p, [], hp, .refl hHeld, .refl _⟩
  | cons m later ih =>
      obtain ⟨hBefore, hNow⟩ := hLater
      obtain ⟨q, done, hq, hLeft, hPerm⟩ := ih hBefore
      obtain ⟨done', hLeft', hPerm'⟩ := left_move hq (hTended later q hq) hLeft.held hNow
      refine ⟨_, done' ++ done, (getElem?_move _ m i).trans (congrArg (Option.map _) hq), ?_, ?_⟩
      · rw [List.map_append]
        exact hLeft.trans hLeft'
      · calc (done' ++ done ++ (s.after (m :: later)).pending i).Perm
              (done ++ done' ++ (s.after (m :: later)).pending i) :=
            List.perm_append_comm.append_right _
          List.Perm _ (done ++ (done' ++ (s.after (m :: later)).pending i)) :=
            .of_eq (List.append_assoc _ _ _)
          List.Perm _ (done ++ (s.after later).pending i) := hPerm'.append_left done
          List.Perm _ (s.pending i) := hPerm

/-! ## Once nothing is pending -/

omit [FetchSource ω] in
/-- A poller with no open report concludes none. -/
theorem ends_of_not_pending (hNone : s.pending i = []) (hDeed : s.deed? m = some (i, d)) :
    Poller.ends d = 0 := by
  cases meets_of_deed hDeed with
  | conclude k r report poller =>
      have hMem : r ∈ s.pending i :=
        List.mem_filter.mpr ⟨List.mem_of_getElem? report, decide_eq_true poller⟩
      rw [hNone] at hMem
      cases hMem
  | _ => rfl

theorem gone_move (hp : s.fleet.pollers[i]? = some p) (hGone : p.Gone) (hNone : s.pending i = [])
    (m : Move ω) : s.turn m i p = p ∧ (s.move m).pending i = [] := by
  by_cases hDeed : ∃ d, s.deed? m = some (i, d)
  · obtain ⟨d, hDeed⟩ := hDeed
    have hEnds := ends_of_not_pending hNone hDeed
    rw [turn_of_deed hDeed, pending_of_deed hDeed hp hEnds, hNone, hGone.opens?]
    exact ⟨hGone.perform _ _ hEnds, rfl⟩
  · have hOther : ∀ d, s.deed? m ≠ some (i, d) := fun d hd => hDeed ⟨d, hd⟩
    refine ⟨?_, ?_⟩
    · rcases s.turn_cases m i p with hSame | ⟨d, hd, -⟩
      · exact hSame
      · exact absurd hd (hOther d)
    · have hPerm := pending_of_other hOther
      rw [hNone] at hPerm
      exact hPerm.eq_nil

/-- **Nothing brings back a poller that is gone.** -/
theorem gone_after (hp : s.fleet.pollers[i]? = some p) (hGone : p.Gone) (hNone : s.pending i = [])
    (later : List (Move ω)) :
    (s.after later).fleet.pollers[i]? = some p ∧ (s.after later).pending i = [] := by
  induction later with
  | nil => exact ⟨hp, hNone⟩
  | cons m later ih =>
      obtain ⟨hTurn, hPending⟩ := gone_move ih.1 hGone ih.2 m
      refine ⟨?_, hPending⟩
      rw [after, getElem?_move, ih.1, Option.map_some, hTurn]

/-! ## While somebody has a handle -/

/-- A plain handle is given up, and another is left. -/
theorem lends_drop {o : Operation} (hp : s.fleet.pollers[i]? = some p)
    (hPlain : o = .dropMain ∨ o = .dropClone)
    (hHeld : (p.perform s.fleet.gate.paused s.fleet.now (.operate o)).owners.held = true) :
    s.Lends (s.move (.operate i o)) i := by
  have hNoFetch : s.launchedBy i (.operate o) = [] := by
    rw [launchedBy, hp]
    rcases hPlain with rfl | rfl <;> simp [Poller.launches, Poller.operateFetches]
  have hNoEntry : s.writtenBy i (.operate o) = [] := by
    rw [writtenBy_of_some hp]
    rcases hPlain with rfl | rfl <;> simp [Poller.entries, Poller.operateEntries]
  have hCalls := calls_eq (s := s) (m := .operate i o) rfl (by simp)
  rw [hNoFetch] at hCalls
  refine ⟨now_move s _, gate_move s (by simp), ?_, ?_, rfl, ?_, ?_, ?_⟩
  · exact hCalls.2.trans (if_pos rfl)
  · exact hCalls.1.trans (List.append_nil _)
  · rw [journal_move]
    simp only [written, deed?, Option.map_some, Option.getD_some, hNoEntry, List.nil_append]
  · intro j hj
    have hSame : s.turn (.operate i o) j = id := funext fun q =>
      turn_of_other (d := .operate o) rfl (Ne.symm hj) q
    rw [getElem?_move, hSame, Option.map_id, id]
  · refine ⟨p, _, hp, (getElem?_move _ _ i).trans (congrArg (Option.map _) hp), ?_⟩
    rw [turn_of_deed rfl]
    exact .ofDrop p _ _ hPlain hHeld

/-! ## Reachable scenes -/

omit [FetchSource ω] in
/-- What the end of a report of poller `i` writes. -/
theorem written_conclude {k : Nat} {r : Report} (hr : s.reports[k]? = some r)
    (hp : s.fleet.pollers[r.poller]? = some p) :
    s.written (.conclude k) = p.concludeEntries r.run := by
  simp only [written, deed?, hr, Option.map_some, Option.getD_some]
  rw [writtenBy_of_some hp]
  rfl

/-- A move that concerns a poller of which nobody has a handle: nobody heeds it, or a callback
returns, or a timer fires or a fetch lands while a callback is at work. -/
theorem left_cases (hp : s.fleet.pollers[i]? = some p) (hTended : s.Tended i p)
    (hHeld : p.owners.held = false) (hDeed : s.deed? m = some (i, d)) :
    s.move m = s.unheeded m ∨
      (∃ k r, m = .conclude k ∧ s.reports[k]? = some r ∧ r.poller = i ∧
        s.written m = p.concludeEntries r.run) ∨
      (s.pending i ≠ [] ∧ d.fallsDue = true) := by
  have hMeets := meets_of_deed hDeed
  by_cases hEnds : Poller.ends d = 0
  · by_cases hNone : s.pending i = []
    · exact .inl (move_of_gone hp (hTended.gone hHeld hNone) hMeets hEnds)
    · cases hDue : d.fallsDue with
      | false => exact .inl (move_of_unheld hp hHeld hMeets hDue hEnds)
      | true => exact .inr (.inr ⟨hNone, rfl⟩)
  · cases hMeets with
    | conclude k r report poller =>
        subst poller
        exact .inr (.inl ⟨k, r, rfl, report, rfl, written_conclude report hp⟩)
    | _ => exact absurd rfl hEnds

/-- **What is left of a poller once its last handle is given up.** Take any scene that can be
reached, in which poller `i` is `p`, with any timers, fetches in flight and callbacks at work.

* If nobody has a handle and no callback is at work, the poller is gone: it is the same forever,
  so it starts no fetch, calls no callback and publishes nothing, and every move that would
  concern it, such as the landing of a fetch that it had in flight, is `unheeded`, so nothing is
  written about it either.
* If nobody has a handle, as when a callback has dropped the last, nobody ever has one again, and
  once all callbacks have returned that are at work, the poller is gone. Until then a move that
  concerns it is `unheeded`, or is that a callback returns, with which the end of the report is
  written; but a callback keeps its poller while it is at work, so a timer may also fire and a
  fetch land meanwhile. If the callbacks are undisturbed by that, the poller starts no fetch and
  calls no callback, and publishes of each report that was pending its end, once, and nothing
  else.
* As long as somebody has another handle, nobody can tell that a plain one was dropped: two runs
  that differ in this are alike in everything but the number of handles. -/
theorem last_handle_ends_poller {s₀ : Scene ω} (hFresh : s₀.Fresh) (past : List (Move ω)) {i : Nat}
    {p : Poller} (hp : (s₀.after past).fleet.pollers[i]? = some p) :
    let s := s₀.after past
    (p.owners.held = false → s.pending i = [] → ∀ later,
      p.Gone ∧ (s.after later).fleet.pollers[i]? = some p ∧ (s.after later).pending i = [] ∧
        ∀ m d, (s.after later).deed? m = some (i, d) →
          (s.after later).move m = (s.after later).unheeded m) ∧
    (p.owners.held = false → ∀ later,
      ∃ q, (s.after later).fleet.pollers[i]? = some q ∧ q.owners.held = false ∧
        ((s.after later).pending i = [] → q.Gone) ∧
        (∀ m d, (s.after later).deed? m = some (i, d) →
          (s.after later).move m = (s.after later).unheeded m ∨
            (∃ k r, m = .conclude k ∧ (s.after later).reports[k]? = some r ∧ r.poller = i ∧
              (s.after later).written m = q.concludeEntries r.run) ∨
            ((s.after later).pending i ≠ [] ∧ d.fallsDue = true)) ∧
        (s.Undisturbed i later → ∃ done,
          q.fetches = p.fetches ∧ q.changes = p.changes ∧
            q.events = done.map Report.event ++ p.events ∧
            (done ++ (s.after later).pending i).Perm (s.pending i))) ∧
    (∀ o, o = .dropMain ∨ o = .dropClone → ∀ later q,
      ((s.move (.operate i o)).after later).fleet.pollers[i]? = some q → q.owners.held = true →
        (s.after later).Lends ((s.move (.operate i o)).after later) i) := by
  intro s
  have hTended : ∀ later q, (s.after later).fleet.pollers[i]? = some q →
      (s.after later).Tended i q := by
    intro later q hq
    have hAll : s.after later = s₀.after (later ++ past) := (after_append s₀ later past).symm
    rw [hAll] at hq ⊢
    exact hFresh.tended (later ++ past) hq
  refine ⟨fun hHeld hNone later => ?_, fun hHeld later => ?_, fun o hPlain later q hq hHeld => ?_⟩
  · have hGone := (hTended [] p hp).gone hHeld hNone
    obtain ⟨hSame, hStill⟩ := gone_after hp hGone hNone later
    refine ⟨hGone, hSame, hStill, fun m d hDeed => ?_⟩
    exact move_of_gone hSame hGone (meets_of_deed hDeed) (ends_of_not_pending hStill hDeed)
  · obtain ⟨q, hq⟩ := exists_after hp later
    have hLeft : q.owners.held = false := by
      refine Bool.eq_false_iff.mpr fun hStill => ?_
      rw [held_before later hp hq hStill] at hHeld
      cases hHeld
    refine ⟨q, hq, hLeft, (hTended later q hq).gone hLeft, fun m d hDeed => ?_, fun hLater => ?_⟩
    · exact left_cases hq (hTended later q hq) hLeft hDeed
    · obtain ⟨q', done, hq', hSince, hPerm⟩ := left_after hp hTended hHeld hLater
      obtain rfl := Option.some.inj (hq.symm.trans hq')
      exact ⟨done, hSince.fetches, hSince.changes, hSince.events, hPerm⟩
  · have hDropped : (s.move (.operate i o)).fleet.pollers[i]?
        = some (p.perform s.fleet.gate.paused s.fleet.now (.operate o)) := by
      rw [getElem?_move, hp, Option.map_some, turn_of_deed rfl]
    exact (lends_drop hp hPlain (held_before later hDropped hq hHeld)).after hq hHeld

/-- A callback that is told of a change drops the only handle of its poller, whose next fetch
is in flight. -/
def farewell : List (Move Scripts) :=
  [.operate 0 .dropMain, .land 0, .ring 0 0, .pass 12000, .land 0, .ring 0 0, .pass 12000,
    .operate 0 .start]

/-- The callback returns, and the report is published; then the fetch in flight lands. -/
theorem last_handle_ends_poller_farewell :
    ∃ p q, (lone.after farewell).fleet.pollers[0]? = some p ∧ p.owners.held = false ∧
      p.timers.live.length = 1 ∧
      ((lone.after farewell).after [.land 0, .conclude 0]).fleet.pollers[0]? = some q ∧
      q.Gone ∧ q.events = .statusChanged "down" "up" :: p.events := by
  obtain ⟨p, hp, hHeld, hLive⟩ : ∃ p, (lone.after farewell).fleet.pollers[0]? = some p ∧
      p.owners.held = false ∧ p.timers.live.length = 1 := ⟨_, rfl, rfl, rfl⟩
  have hPending : (lone.after farewell).pending 0 = [⟨0, 1, "down", "up"⟩] := rfl
  have hNone : ((lone.after farewell).after [.land 0, .conclude 0]).pending 0 = [] := rfl
  have hUndisturbed : (lone.after farewell).Undisturbed 0 [.land 0, .conclude 0] := by
    refine ⟨⟨trivial, fun _ d hDeed => ?_⟩, fun hSome => absurd rfl hSome⟩
    cases meets_of_deed hDeed with
    | conclude => rfl
  obtain ⟨q, hq, -, hGone, -, hSince⟩ :=
    (last_handle_ends_poller lone_fresh farewell hp).2.1 hHeld [.land 0, .conclude 0]
  obtain ⟨done, -, -, hEvents, hPerm⟩ := hSince hUndisturbed
  rw [hNone, List.append_nil, hPending] at hPerm
  have hDone := List.perm_singleton.mp hPerm
  subst hDone
  exact ⟨p, q, hp, hHeld, hLive, hq, hGone hNone, hEvents⟩

/-- The same while the poller is active. -/
def activeFarewell : List (Move Scripts) :=
  [.operate 0 .dropMain, .land 0, .ring 0 0, .pass 2000, .land 0, .operate 0 .enterActive,
    .operate 0 .start]

/-- **A callback keeps its poller at work.** It is not so that a poller starts no fetch any more
once its last handle is given up, nor that the callback that gave it up has only the change to
report: if it takes longer than the period, the next tick comes in the meantime, and an active
poller returns to idle polling. -/
theorem callback_keeps_polling :
    (¬ ∀ (past later : List (Move Scripts)) (p q : Poller),
      (lone.after past).fleet.pollers[0]? = some p → p.owners.held = false →
        ((lone.after past).after later).fleet.pollers[0]? = some q → q.fetches = p.fetches) ∧
    (¬ ∀ (past : List (Move Scripts)) (p : Poller) (k : Nat) (l : Journal.Line),
      (lone.after past).fleet.pollers[0]? = some p → p.owners.held = false →
        .line l ∉ (lone.after past).written (.conclude k)) := by
  refine ⟨fun hClaim => ?_, fun hClaim => ?_⟩
  · -- The timer fires at 36000, while the callback that has dropped the handle is at work.
    have hSame := hClaim farewell [.ring 0 0, .pass 12000] _ _ rfl rfl rfl
    exact absurd hSame (by decide)
  · exact hClaim activeFarewell _ 0 (.returnedToIdle "lone") rfl rfl (by decide)

end Scene

/-- **A poller that commands are given to** is gone after the command with which the last handle
was given up, be it by the command or by a callback. -/
theorem Fleet.session_gone (delays : List Nat) {pollers : List (Poller × List Reply)}
    (h : ∀ x ∈ pollers, x.1.Fresh) (commands : List Command) :
    ∀ x ∈ (ofScripts delays pollers).session commands, ∀ p ∈ x.1.pollers,
      p.owners.held = false → p.Gone := by
  intro x hx p hp hHeld
  obtain ⟨hFresh, hCalm⟩ := ofScripts_fresh delays h
  obtain ⟨moves, -, -, hMoves⟩ := session_reaches hCalm commands x hx
  obtain ⟨i, hi⟩ := List.getElem?_of_mem hp
  have hAfter : ((Scene.mk (ofScripts delays pollers) []).after moves).fleet.pollers[i]?
      = some p := by
    rw [hMoves]
    exact hi
  refine (hFresh.tended moves hAfter).gone hHeld ?_
  rw [hMoves]
  rfl

end Lookout.Polling
