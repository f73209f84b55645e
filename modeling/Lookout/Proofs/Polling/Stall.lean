import Lookout.Proofs.Polling.Rhythm
import Lookout.Proofs.Timer.Stall

set_option autoImplicit false

/-! # A stall causes one tick

However the clock goes, the ticks of each era are `Spaced`, one after the other (`Unhurried`). So when
the clock has stood still and all that is due is done, a poller has had one tick and not one for each
period that went by (`no_burst`). Only if its period fits into the tolerance of timers can ticks of
several periods come at one instant (`quick_ticks_catch_up`).
-/

namespace Lookout.Polling

open Timer (tolerance)
open Timers (OnBeat Spaced onBeat_new)

/-- **Ticks that do not come in a burst**, newest first, with the eras they belong to: after the tick
at once that an era may begin with, those of its timer are spaced, and they lie within the era. -/
inductive Unhurried : List Era → List Nat → Prop
  | nil : Unhurried [] []
  | cons (e : Era) (fired : List Nat) {eras : List Era} {times : List Nat}
      (spaced : Spaced e.since e.period fired) (ended : ∀ t ∈ e.ended, ∀ x ∈ fired, x ≤ t)
      (since : ∀ x ∈ times, x ≤ e.since) (earlier : Unhurried eras times) :
      Unhurried (e :: eras) (fired ++ (e.ticks 0 ++ times))

/-- **What a poller keeps however the clock goes**: the tick timer of its newest era is on its beat. -/
inductive Poller.Paces (now : Nat) (p : Poller) : List Era → List Nat → Prop
  | stopped {eras : List Era} {times : List Nat} (mode : p.mode.isPolling = false)
      (past : ∀ x ∈ times, x ≤ now) (unhurried : Unhurried eras times) : Poller.Paces now p eras times
  | polling (e : Era) (fired : List Nat) (deadline : Nat) {eras : List Era} {times : List Nat}
      (mode : p.mode.isPolling = true) (goesOn : e.ended = none) (period : e.period = p.period)
      (due : p.DueAt deadline) (onBeat : OnBeat e.since e.period now deadline fired)
      (begun : e.since ≤ now) (since : ∀ x ∈ times, x ≤ e.since) (earlier : Unhurried eras times) :
      Poller.Paces now p (e :: eras) (fired ++ (e.ticks 0 ++ times))

theorem Cadence.period_pos (c : Cadence) (m : Mode) : 0 < c.period m := by
  cases m with
  | active => exact c.active_pos
  | idle => exact c.idle_pos
  | stopped => exact c.idle_pos

/-- An era begins with a tick at once or with none. -/
theorem Era.mem_ticks_zero {e : Era} {x : Nat} (h : x ∈ e.ticks 0) : x = e.since := by
  unfold Era.ticks at h
  split at h
  · exact List.mem_singleton.mp h
  · cases h

namespace Poller

variable {p q : Poller} {entered : Option Nat} {now now' : Nat} {eras : List Era}
  {times : List Nat}

theorem Paces.past (h : p.Paces now eras times) : ∀ x ∈ times, x ≤ now := by
  cases h with
  | stopped _ past => exact past
  | polling e fired deadline mode goesOn period due onBeat begun since earlier =>
      intro x hx
      rcases List.mem_append.mp hx with hFired | hOlder
      · exact onBeat.past x hFired
      · rcases List.mem_append.mp hOlder with hFirst | hEarlier
        · rw [Era.mem_ticks_zero hFirst]
          exact begun
        · exact (since x hEarlier).trans begun

theorem Paces.unhurried (h : p.Paces now eras times) : Unhurried eras times := by
  cases h with
  | stopped _ _ unhurried => exact unhurried
  | polling e fired deadline mode goesOn period due onBeat begun since earlier =>
      refine .cons e fired onBeat.spaced (fun t ht => ?_) since earlier
      rw [goesOn] at ht
      cases ht

/-- Nothing happens to the rhythm, and time passes. -/
theorem Paces.rests (h : p.Paces now eras times) (hStep : p.InStep q) (hPeriod : q.period = p.period)
    (hNow : now ≤ now') : q.Paces now' eras times := by
  cases h with
  | stopped mode past unhurried =>
      refine .stopped (by rw [hStep.mode]; exact mode) (fun x hx => ?_) unhurried
      exact (past x hx).trans hNow
  | polling e fired deadline mode goesOn period due onBeat begun since earlier =>
      exact .polling e fired deadline (by rw [hStep.mode]; exact mode) goesOn
        (period.trans hPeriod.symm) (hStep.dueAt due) (onBeat.later hNow) (begun.trans hNow) since
        earlier

/-- The tick timer fires, on time or late. -/
theorem Paces.ticks (h : p.Paces now eras times) (hSound : p.Sound entered) (hMode : q.mode = p.mode)
    (hPeriod : q.period = p.period) (hPolling : p.mode.isPolling = true) {deadline : Nat}
    (hDue : p.DueAt deadline) (hLate : deadline ≤ now)
    (hNext : q.DueAt (Timer.following p.period deadline now)) : q.Paces now eras (now :: times) := by
  cases h with
  | stopped mode => rw [hPolling] at mode; cases mode
  | polling e fired deadline' mode goesOn period due onBeat begun since earlier =>
      obtain rfl : deadline' = deadline := by
        obtain ⟨t, ht, hHandle, hDeadline⟩ := due
        exact hDeadline.symm.trans (hSound.eq_of_dueAt ht hHandle hDue)
      rw [← period] at hNext
      rw [← List.cons_append]
      exact .polling e (now :: fired) _ (by rw [hMode]; exact mode) goesOn
        (period.trans hPeriod.symm) hNext (onBeat.fires hLate) begun since earlier

/-- An era begins now. -/
theorem paces_of_new (hPolling : q.mode.isPolling = true) (hNext : q.DueAt (now + q.period))
    (first : Bool) (hPast : ∀ x ∈ times, x ≤ now) (hUnhurried : Unhurried eras times) :
    q.Paces now (⟨now, q.period, first, none⟩ :: eras) ((if first then [now] else []) ++ times) :=
  .polling ⟨now, q.period, first, none⟩ [] (now + q.period) hPolling rfl rfl hNext
    (onBeat_new now q.period) (Nat.le_refl now) hPast hUnhurried

/-- What has come so far lies within the newest era if that ends now. -/
theorem Paces.finish (h : p.Paces now eras times) (hPolling : p.mode.isPolling = true) :
    Unhurried (eras.modifyHead (·.finish now)) times := by
  cases h with
  | stopped mode => rw [hPolling] at mode; cases mode
  | polling e fired deadline mode goesOn period due onBeat begun since earlier =>
      refine .cons (e.finish now) fired onBeat.spaced (fun t ht x hx => ?_) since earlier
      obtain rfl := Option.some.inj ht
      exact onBeat.past x hx

/-- **After a stall** of a period and more, a poller that has nothing left to do has had one tick, and
more only if those ticks fit into the tolerance. -/
theorem Paces.after_stall (h : p.Paces now eras times) (hPolling : p.mode.isPolling = true)
    (hDone : ∀ t ∈ p.timers.live, now < t.deadline) {e : Era} (he : e ∈ eras.head?)
    (hSince : e.since + e.period ≤ now) {n : Nat} {earlier : List Nat}
    (hTimes : times = List.replicate n now ++ earlier)
    (hBefore : ∀ x ∈ earlier.head?, x + e.period ≤ now) :
    0 < n ∧ (n - 1) * e.period ≤ tolerance := by
  cases h with
  | stopped mode => rw [hPolling] at mode; cases mode
  | polling e' fired deadline mode goesOn period due onBeat begun since earlier =>
      obtain rfl : e' = e := Option.some.inj he
      obtain ⟨t, ht, -, rfl⟩ := due
      have hPos : 0 < e'.period := period ▸ p.cadence.period_pos p.mode
      refine onBeat.after_stall (hDone t ht) hTimes ?_ hSince hBefore
      -- All that is older came before the era, or with it, and so before now.
      intro hNow
      have hOld : now ≤ e'.since := by
        rcases List.mem_append.mp hNow with hFirst | hEarlier
        · exact Nat.le_of_eq (Era.mem_ticks_zero hFirst)
        · exact since now hEarlier
      omega

end Poller

namespace Scene

variable {ω : Type} [FetchSource ω] {s : Scene ω} {i : Nat} {m : Move ω} {p : Poller}
  {entered : Option Nat}

/-- **Every move** keeps the pace, even if the clock jumps. -/
theorem paces_move {eras : List Era} {times : List Nat} (h : p.Paces s.fleet.now eras times)
    (hp : s.fleet.pollers[i]? = some p) (hSound : p.Sound entered)
    (hAlive : (s.turn m i p).alive = true) :
    (s.turn m i p).Paces (s.move m).fleet.now (s.markEra i m eras)
      (List.replicate (s.attemptsBy i m) s.fleet.now ++ times) := by
  have hNow : s.fleet.now ≤ (s.move m).fleet.now := by
    rw [now_move]
    omega
  have hTurns := turns_move eras hp hSound hAlive
  -- What the move makes of the poller; afterwards time passes, if that is what the move is.
  suffices hDone : (s.turn m i p).Paces s.fleet.now (s.markEra i m eras)
      (List.replicate (s.attemptsBy i m) s.fleet.now ++ times) from
    hDone.rests (.refl _) rfl hNow
  generalize s.markEra i m eras = eras', List.replicate (s.attemptsBy i m) s.fleet.now = new
    at hTurns ⊢
  cases hTurns with
  | rests same hPeriod => exact h.rests same hPeriod (Nat.le_refl _)
  | ticks deadline hMode hPeriod hPolling due late next =>
      exact h.ticks hSound hMode hPeriod hPolling due late next
  | begins before hPolling next => exact Poller.paces_of_new hPolling next true h.past h.unhurried
  | rearms before hPolling next =>
      exact Poller.paces_of_new hPolling next false h.past (h.finish before)
  | ends before hPolling => exact .stopped hPolling h.past (h.finish before)

/-- A poller keeps its pace in every run. -/
theorem Fresh.paces {s₀ : Scene ω} (h : s₀.Fresh) {past : List (Move ω)}
    (hp : (s₀.after past).fleet.pollers[i]? = some p) (hAlive : p.alive = true) :
    p.Paces (s₀.after past).fleet.now (s₀.eras i past) (s₀.attempts i past) := by
  induction past generalizing p with
  | nil =>
      obtain ⟨name, cadence, callback, rfl⟩ := h.pollers p (List.mem_of_getElem? hp)
      exact .stopped rfl nofun .nil
  | cons m past ih =>
      obtain ⟨q, hq, rfl⟩ := exists_of_move hp
      have hBefore := alive_of_turn hAlive
      exact paces_move (ih hq hBefore) hq (h.sound past hq hBefore) hAlive

/-! ## While no time passes -/

/-- As long as no time passes, all attempts come at one instant. -/
theorem attempts_of_still (s₀ : Scene ω) (i : Nat) {later : List (Move ω)}
    (hStill : ∀ ms, .pass ms ∉ later) (earlier : List (Move ω)) :
    (s₀.after (later ++ earlier)).fleet.now = (s₀.after earlier).fleet.now
      ∧ ∃ n, s₀.attempts i (later ++ earlier)
        = List.replicate n (s₀.after earlier).fleet.now ++ s₀.attempts i earlier := by
  induction later with
  | nil => exact ⟨rfl, 0, rfl⟩
  | cons m later ih =>
      obtain ⟨hNow, n, hAttempts⟩ := ih fun ms hMem => hStill ms (List.mem_cons_of_mem m hMem)
      constructor
      · rw [List.cons_append, after, now_move, hNow]
        cases m with
        | pass ms => exact absurd List.mem_cons_self (hStill ms)
        | _ => rfl
      · refine ⟨(s₀.after (later ++ earlier)).attemptsBy i m + n, ?_⟩
        rw [List.cons_append, attempts, hAttempts, hNow, List.replicate_add, List.append_assoc]

/-! ## After a stall -/

/-- **There is no burst after a stall.** Whatever happens and however the clock goes, the firings of
every recurring timer are spaced, and so are the ticks of a poller in each of its eras. Let a poller
poll on after the clock has jumped, with a period and more gone by since the newest era began and since
the last tick. When all that is due is done, it has had one tick more, or some if they fit into the
tolerance of timers. -/
theorem no_burst {s₀ : Scene ω} (hFresh : s₀.Fresh) {later earlier : List (Move ω)}
    (hp : (s₀.after (later ++ earlier)).fleet.pollers[i]? = some p) (hAlive : p.alive = true) :
    let past := later ++ earlier
    let now := (s₀.after past).fleet.now
    (∀ (α : Type) (b₀ : Timers.Bench α) (run : List (Timers.Move α)) (h : Nat) (l : Timers.Life),
        b₀.timers.live = [] → b₀.life h run = some l → l.recurs = true →
          Spaced l.since l.wait (b₀.firings h run)) ∧
      Unhurried (s₀.eras i past) (s₀.attempts i past) ∧
      ∀ e ∈ (s₀.eras i past).head?, p.mode.isPolling = true → (∀ ms, .pass ms ∉ later) →
        (∀ t ∈ p.timers.live, now < t.deadline) → e.since + e.period ≤ now →
        (∀ x ∈ (s₀.attempts i earlier).head?, x + e.period ≤ now) →
        ∃ n, 0 < n ∧ (n - 1) * e.period ≤ tolerance ∧ (tolerance < e.period → n = 1) ∧
          s₀.attempts i past = List.replicate n now ++ s₀.attempts i earlier := by
  intro past now
  have hPaces := hFresh.paces hp hAlive
  refine ⟨fun α b₀ run h l hEmpty => Timers.Bench.spaced_firings hEmpty, hPaces.unhurried, ?_⟩
  intro e he hPolling hStill hDone hSince hBefore
  obtain ⟨hNow, n, hAttempts⟩ := attempts_of_still s₀ i hStill earlier
  rw [← hNow] at hAttempts
  obtain ⟨hSome, hFew⟩ := hPaces.after_stall hPolling hDone he hSince hAttempts hBefore
  refine ⟨n, hSome, hFew, fun hLong => ?_, hAttempts⟩
  -- Two ticks at once would take up a whole period.
  by_contra hMore
  have hTwo : 1 * e.period ≤ (n - 1) * e.period := Nat.mul_le_mul_right e.period (by omega)
  omega

/-- A poller is made active, ticks three milliseconds late, and then its clock stands still for ten
periods. -/
theorem no_burst_late :
    let earlier : List (Move Scripts) :=
      [.pass 20000, .ring 0 0, .pass 2003, .operate 0 .enterActive, .pass 500, .operate 0 .start]
    let past := [.ring 0 0] ++ earlier
    lone.attempts 0 earlier = [2503, 0] ∧ lone.attempts 0 past = 22503 :: [2503, 0] ∧
      Unhurried [⟨500, 2000, false, none⟩, ⟨0, 12000, true, some 500⟩] (lone.attempts 0 past) ∧
      Spaced 0 10 (({} : Timers.Bench String).firings 0
        [.ring 0, .pass 70, .ring 0, .pass 13, .every 10 "again"]) := by
  intro earlier past
  obtain ⟨p, hp, hAlive, hPolling, hDone⟩ : ∃ p, (lone.after past).fleet.pollers[0]? = some p ∧
      p.alive = true ∧ p.mode.isPolling = true ∧
      ∀ t ∈ p.timers.live, (lone.after past).fleet.now < t.deadline :=
    ⟨_, rfl, rfl, rfl, by decide⟩
  have hEras : lone.eras 0 past = [⟨500, 2000, false, none⟩, ⟨0, 12000, true, some 500⟩] := by decide
  have hEarlier : lone.attempts 0 earlier = [2503, 0] := by decide
  have hNow : (lone.after past).fleet.now = 22503 := rfl
  obtain ⟨hSpaced, hUnhurried, hStall⟩ := no_burst lone_fresh hp hAlive
  obtain ⟨n, -, -, hOne, hAttempts⟩ :=
    hStall ⟨500, 2000, false, none⟩ (congrArg List.head? hEras) hPolling (by simp) hDone
      (by decide) (by decide)
  rw [hOne (by decide), hEarlier] at hAttempts
  rw [hEras] at hUnhurried
  exact ⟨hEarlier, hAttempts, hUnhurried, hSpaced String {} _ 0 ⟨0, 10, true, none⟩ rfl rfl rfl⟩

/-- A scene of one poller that ticks every millisecond. -/
def brisk : Scene Scripts where
  fleet :=
    { gate := { delays := .standard }
      pollers := [{ name := "brisk", cadence := .ofMillis 1 0 0 }]
      source := ⟨[[]]⟩ }

/-- It is not so that a stall causes one tick, whatever the period: after one of six milliseconds, a
poller that ticks every millisecond has six ticks at once, one for each period that went by. -/
theorem quick_ticks_catch_up :
    ¬ ∀ (later earlier : List (Move Scripts)) (p : Poller) (e : Era),
      (brisk.after (later ++ earlier)).fleet.pollers[0]? = some p → p.alive = true →
      e ∈ (brisk.eras 0 (later ++ earlier)).head? → p.mode.isPolling = true →
      (∀ ms, .pass ms ∉ later) →
      (∀ t ∈ p.timers.live, (brisk.after (later ++ earlier)).fleet.now < t.deadline) →
      e.since + e.period ≤ (brisk.after (later ++ earlier)).fleet.now →
      (∀ x ∈ (brisk.attempts 0 earlier).head?,
        x + e.period ≤ (brisk.after (later ++ earlier)).fleet.now) →
      brisk.attempts 0 (later ++ earlier)
        = (brisk.after (later ++ earlier)).fleet.now :: brisk.attempts 0 earlier := by
  intro hClaim
  have hOne := hClaim (List.replicate 6 (.ring 0 0)) [.pass 6, .operate 0 .start] _
    ⟨0, 1, true, none⟩ rfl (by decide) (by decide) (by decide) (by simp) (by decide) (by decide)
    (by decide)
  have hSix : brisk.attempts 0 (List.replicate 6 (.ring 0 0) ++ [.pass 6, .operate 0 .start])
      = [6, 6, 6, 6, 6, 6, 0] := by decide
  rw [hSix] at hOne
  exact absurd hOne (by decide)

end Scene

end Lookout.Polling
