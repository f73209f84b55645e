import Lookout.Proofs.Polling.Calls
import Lookout.Proofs.Polling.Signals
import Lookout.Proofs.Polling.Ticks

set_option autoImplicit false

/-! # No tick fetches during a pause

Each tick of each poller asks the gate first, and there is no other way to a fetch than by a
tick or out of turn. So during a pause the world that answers fetches is called upon by calls
out of turn only (`source_of_paused`), whatever the pollers are up to. `Scene.tickLog` and
`Scene.invocations` keep book of the ticks in a run of moves, and `Fresh.accounts` compares
what the pollers have done with it. `pause_holds_ticks` puts this together with what the gate
is told.
-/

namespace Lookout.Polling

open Backoff (Gate)

/-- During a pause nothing but a call out of turn makes a fetch take off. -/
theorem Poller.launches_of_paused (p : Poller) (now i : Nat) {d : Deed} (hd : d ≠ .ask) :
    p.launches true now i d = [] := by
  have hStart : p.startFetches true i = [] := by
    unfold startFetches
    split <;> rfl
  cases d with
  | operate o =>
      rw [launches]
      split
      next =>
        cases o with
        | start => exact hStart
        | enterActive => exact hStart
        | guard => exact hStart
        | _ => rfl
      next => rfl
  | ask => exact absurd rfl hd
  | ring k =>
      rw [launches]
      unfold ringFetches
      split
      next => rfl
      next t _ =>
        split
        next =>
          cases t.action with
          | tick generation =>
              rw [alarmFetches]
              split <;> rfl
          | expiry generation => rfl
        next => rfl
  | _ => rfl

/-- Whether a move is a call for a fetch out of turn, of a poller's fetch operation or of
somebody outside. -/
def Move.outOfTurn {ω : Type} : Move ω → Bool
  | .ask _ | .call .. => true
  | .operate .. | .signal _ | .note _ | .pass _ | .resume => false
  | .ring .. | .land _ | .conclude _ => false

namespace Scene

variable {ω : Type} [FetchSource ω]

/-- **During a pause** the world that answers fetches is called upon only out of turn. -/
theorem source_of_paused {s : Scene ω} (hPaused : s.fleet.gate.paused = true) {m : Move ω}
    (hm : m.outOfTurn = false) : (s.move m).fleet.source = s.fleet.source := by
  cases m with
  | operate i o =>
      cases hp : s.fleet.pollers[i]? with
      | none =>
          show (s.fleet.operate i o).source = _
          rw [Fleet.operate, Fleet.allows, hp, Option.any_none]
          rfl
      | some p =>
          have hCalls := Fleet.calls_operate hp o
          rw [hPaused, p.launches_of_paused _ _ (d := .operate o) (by simp)] at hCalls
          exact hCalls.source_eq
  | ring i k =>
      cases hp : s.fleet.pollers[i]? with
      | none =>
          show (s.fleet.ring i k).source = _
          rw [Fleet.ring, hp]
      | some p =>
          have hCalls := Fleet.calls_ring hp k
          rw [hPaused, p.launches_of_paused _ _ (d := .ring k) (by simp)] at hCalls
          exact hCalls.source_eq
  | land k => exact s.source_land k
  | conclude k =>
      rw [move]
      cases s.reports[k]? with
      | none => rfl
      | some r => exact (s.fleet.calls_conclude r).source_eq
  | resume =>
      rw [move, Fleet.work]
      cases s.fleet.gate.fire? s.fleet.now <;> rfl
  | signal x => rfl
  | note e => rfl
  | pass ms => rfl
  | ask i => cases hm
  | call f source => cases hm

/-- **During a pause** fetches take off only out of turn. -/
theorem purposes_of_paused {s : Scene ω} (hPaused : s.fleet.gate.paused = true) {m : Move ω}
    (hm : m.outOfTurn = false) : (s.move m).fleet.purposes = s.remaining m := by
  have hNone : s.launched m = [] := by
    cases hDeed : s.deed? m with
    | none =>
        cases m with
        | call => cases hm
        | operate => cases hDeed
        | ask => cases hDeed
        | ring => cases hDeed
        | _ => rfl
    | some x =>
        obtain ⟨j, d⟩ := x
        have hd : d ≠ .ask := by
          rintro rfl
          cases meets_of_deed hDeed with
          | ask => cases hm
        rw [launched_of_deed hDeed, launchedBy, hPaused]
        cases s.fleet.pollers[j]? with
        | none => rfl
        | some p => exact p.launches_of_paused _ _ hd
  rw [purposes_move, hNone, List.append_nil]

/-- What a tick calls for. -/
theorem calls_of_ticks {s : Scene ω} {i : Nat} {m : Move ω} {d : Deed} {p : Poller}
    {entered : Option Nat} (hp : s.fleet.pollers[i]? = some p) (hSound : p.Sound entered)
    (hDeed : s.deed? m = some (i, d)) (hTicks : p.ticks s.fleet.now d = true) :
    s.fleet.Calls (s.move m).fleet i
      ((p.poised s.fleet.now d).tickFetches s.fleet.gate.paused i) := by
  rw [← hSound.launches_of_ticks _ _ _ hTicks]
  refine calls_of_deed hp (meets_of_deed hDeed) fun k hLand => ?_
  -- A fetch that lands has no tick in it.
  subst hLand
  cases meets_of_deed hDeed <;> cases hTicks

end Scene

/-! ## Every run -/

namespace Scene

variable {ω : Type}

/-- Whether a move calls the fetch operation of poller `i` out of turn. -/
def asks (s : Scene ω) (i : Nat) : Move ω → Bool
  | .ask j => j == i && s.fleet.allows i .clone
  | _ => false

theorem asks_of_not_ask {s : Scene ω} {i : Nat} {m : Move ω}
    (h : s.deed? m ≠ some (i, .ask)) : s.asks i m = false := by
  cases m with
  | ask j =>
      have hj : j ≠ i := fun hSame => h (hSame ▸ rfl)
      simp [asks, hj]
  | _ => rfl

/-- What a poller has to show for its ticks. -/
structure Accounts (p : Poller) (log : List (Nat × Bool)) (invocations : List Nat) : Prop where
  skips : p.skips = log.countP (·.2)
  issued : p.issued = log.countP (!·.2)
  fetches : p.fetches = invocations

/-- Each move keeps the accounts of a poller that exists. -/
theorem Accounts.move {s : Scene ω} {i : Nat} {m : Move ω} {p : Poller} {entered : Option Nat}
    {log : List (Nat × Bool)} {times : List Nat} (h : Accounts p log times)
    (hp : s.fleet.pollers[i]? = some p) (hSound : p.Sound entered) :
    Accounts (s.turn m i p)
      (if s.ticks i m then (s.fleet.now, s.fleet.gate.paused) :: log else log)
      (if s.ticks i m && !s.fleet.gate.paused || s.asks i m then s.fleet.now :: times
        else times) := by
  obtain ⟨hSkips, hIssued, hFetches⟩ := h
  cases hTicks : s.ticks i m with
  | true =>
      obtain ⟨d, hDeed, hTick⟩ := exists_of_ticks hp hTicks
      have hPoised := p.silent_poised s.fleet.now d
      have hAsks : s.asks i m = false := by
        refine asks_of_not_ask fun hAsk => ?_
        obtain ⟨-, rfl⟩ := Prod.mk.inj (Option.some.inj (hDeed.symm.trans hAsk))
        cases hTick
      rw [turn_of_deed hDeed, hSound.perform_of_ticks _ _ hTick, Poller.tick]
      simp only [hAsks, Bool.true_and, Bool.or_false, if_true]
      -- A skip more and no call in a pause, a fetch more otherwise.
      cases s.fleet.gate.paused with
      | true =>
          refine ⟨?_, ?_, hPoised.fetches.trans hFetches⟩
          · have hMore : ((p.poised s.fleet.now d).publish .skipped).skips = p.skips + 1 := by
              rw [← hPoised.skips]
              exact List.count_cons_self
            simpa [hSkips] using hMore
          · exact (hPoised.issued.trans hIssued).trans (by simp)
      | false =>
          refine ⟨?_, ?_, ?_⟩
          · exact (hPoised.skips.trans hSkips).trans (by simp)
          · exact (congrArg (· + 1) (hPoised.issued.trans hIssued)).trans (by simp)
          · exact congrArg (s.fleet.now :: ·) (hPoised.fetches.trans hFetches)
  | false =>
      simp only [Bool.false_and, Bool.false_or, Bool.false_eq_true, if_false]
      by_cases hAsk : s.deed? m = some (i, .ask)
      · obtain rfl : m = .ask i := by
          cases meets_of_deed hAsk with
          | ask => rfl
        have hAsks : s.asks i (.ask i) = p.owners.held := by
          rw [asks, beq_self_eq_true, Bool.true_and, Fleet.allows_eq hp, Operation.allowed]
        rw [turn_of_deed hAsk, Poller.perform, hAsks]
        split
        next => exact ⟨hSkips, hIssued, congrArg _ hFetches⟩
        next => exact ⟨hSkips, hIssued, hFetches⟩
      · have hSilent := silent_turn hp hTicks hAsk
        simp only [asks_of_not_ask hAsk, Bool.false_eq_true, if_false]
        exact ⟨hSilent.skips.trans hSkips, hSilent.issued.trans hIssued,
          hSilent.fetches.trans hFetches⟩

variable [FetchSource ω]

/-- When poller `i` had ticks in a run of moves, each with whether the gate was paused. -/
def tickLog (s₀ : Scene ω) (i : Nat) : List (Move ω) → List (Nat × Bool)
  | [] => []
  | m :: past =>
    if (s₀.after past).ticks i m then
      ((s₀.after past).fleet.now, (s₀.after past).fleet.gate.paused) :: s₀.tickLog i past
    else s₀.tickLog i past

/-- When the fetch operation of poller `i` was to be called in a run of moves: at each tick
that came outside of a pause, and whenever it was called out of turn. -/
def invocations (s₀ : Scene ω) (i : Nat) : List (Move ω) → List Nat
  | [] => []
  | m :: past =>
    let s := s₀.after past
    if s.ticks i m && !s.fleet.gate.paused || s.asks i m then s.fleet.now :: s₀.invocations i past
    else s₀.invocations i past

/-- **The accounts of a poller** add up, whatever has happened: a skip for each tick in a
pause, a fetch issued for each other tick, and no call of the fetch operation but those. -/
theorem Fresh.accounts {s₀ : Scene ω} (h : s₀.Fresh) (past : List (Move ω)) {i : Nat} {p : Poller}
    (hp : (s₀.after past).fleet.pollers[i]? = some p) (hAlive : p.alive = true) :
    Accounts p (s₀.tickLog i past) (s₀.invocations i past) := by
  induction past generalizing p with
  | nil =>
      obtain ⟨name, cadence, callback, rfl⟩ := h.pollers p (List.mem_of_getElem? hp)
      exact ⟨rfl, rfl, rfl⟩
  | cons m past ih =>
      obtain ⟨q, hq, rfl⟩ := exists_of_move hp
      have hBefore := alive_of_turn hAlive
      exact (ih hq hBefore).move hq (h.sound past hq hBefore)

/-- **A pause holds for every poller.** Suppose the pollers of a fleet are new, and so is the
gate they share. After any run of moves:

* the gate is paused at least until the time that the signals told so far ask for, whoever
  told them, and only if they ask for it;
* while it is paused, no move but a call out of turn calls upon the world that answers
  fetches or makes a fetch take off;
* of each poller that exists, the fetch operation has been called once at each tick outside
  of a pause and whenever it was called out of turn, and never else; and it has published
  one skip for each tick in a pause;
* a tick that comes next, from a timer or from the beginning of a run, publishes one skip
  during a pause and does nothing else to the poller that is poised for it; otherwise it
  issues one fetch, by one call of the fetch operation; and a call out of turn has its fetch
  either way. -/
theorem pause_holds_ticks {s₀ : Scene ω} (hFresh : s₀.Fresh) (delays : List Nat)
    (hGate : s₀.fleet.gate = (Gate.make delays).1) (past : List (Move ω)) :
    let s := s₀.after past
    let asked := (s₀.told past).resume? (Backoff.Delays.ofList delays)
    (∀ r, asked = some r → s.fleet.now < r → s.fleet.gate.resumeAt = some r) ∧
    (∀ r, s.fleet.gate.resumeAt = some r → asked = some r) ∧
    (s.fleet.gate.paused = true → ∀ m : Move ω, m.outOfTurn = false →
      (s.move m).fleet.source = s.fleet.source ∧ (s.move m).fleet.purposes = s.remaining m) ∧
    ∀ i p, s.fleet.pollers[i]? = some p → p.alive = true →
      p.fetches = s₀.invocations i past ∧
      p.skips = (s₀.tickLog i past).countP (·.2) ∧
      p.issued = (s₀.tickLog i past).countP (!·.2) ∧
      (p.owners.held = true → s.fleet.Calls (s.move (.ask i)).fleet i [.direct]) ∧
      ∀ m d, s.deed? m = some (i, d) → p.ticks s.fleet.now d = true →
        let q := p.poised s.fleet.now d
        if s.fleet.gate.paused then
          (s.move m).fleet.pollers[i]? = some (q.publish .skipped)
        else
          (s.move m).fleet.pollers[i]? = some (q.issue.noteFetch s.fleet.now) ∧
            s.fleet.Calls (s.move m).fleet i [.tick i q.run (p.issued + 1)] := by
  intro s asked
  obtain ⟨hHeeds, hDelays⟩ := heeds_after hGate past
  obtain ⟨-, -, hPaused, hOnly⟩ := hHeeds
  rw [hDelays] at hPaused hOnly
  refine ⟨hPaused, hOnly,
    fun hHeld m hm => ⟨source_of_paused hHeld hm, purposes_of_paused hHeld hm⟩,
    fun i p hp hAlive => ?_⟩
  have hSound := hFresh.sound past hp hAlive
  obtain ⟨hSkips, hIssued, hFetches⟩ := hFresh.accounts past hp hAlive
  refine ⟨hFetches, hSkips, hIssued, fun hHeld => ?_, fun m d hDeed hTick => ?_⟩
  · have hAsked := calls_of_deed (s := s) hp .ask nofun
    rw [Poller.launches, if_pos hHeld] at hAsked
    exact hAsked
  have hCalls := calls_of_ticks hp hSound hDeed hTick
  have hTurn : (s.move m).fleet.pollers[i]?
      = some ((p.poised s.fleet.now d).tick s.fleet.gate.paused s.fleet.now) := by
    rw [getElem?_move, hp, Option.map_some, turn_of_deed hDeed, hSound.perform_of_ticks _ _ hTick]
  rw [Poller.tick] at hTurn
  rw [Poller.tickFetches, (p.silent_poised s.fleet.now d).issued] at hCalls
  split
  next hHeld =>
    rw [if_pos hHeld] at hTurn
    exact hTurn
  next hRunning =>
    rw [if_neg hRunning] at hTurn hCalls
    exact ⟨hTurn, hCalls⟩

/-- A tick in a pause that began before it was due. -/
theorem pause_holds_ticks_overloaded :
    let s := lone.after [.pass 500, .signal .trigger, .pass 11500, .operate 0 .start]
    s.fleet.gate.resumeAt = some 13500 ∧ ∃ q, (s.move (.ring 0 0)).fleet.pollers[0]? = some q ∧
      q.events = [.skipped] ∧ q.fetches = [0] := by
  intro s
  obtain ⟨hPaused, -, -, hTicks⟩ := pause_holds_ticks lone_fresh [] rfl
    [.pass 500, .signal .trigger, .pass 11500, .operate 0 .start]
  have hHeld : s.fleet.gate.resumeAt = some 13500 := hPaused 13500 (by decide) (by decide)
  obtain ⟨p, hp, hAlive, hTick, hEvents, hFetches⟩ : ∃ p, s.fleet.pollers[0]? = some p ∧
      p.alive = true ∧ p.ticks s.fleet.now (.ring 0) = true ∧
      (p.poised s.fleet.now (.ring 0)).events = [] ∧
      (p.poised s.fleet.now (.ring 0)).fetches = [0] := ⟨_, rfl, rfl, rfl, rfl, rfl⟩
  obtain ⟨-, -, -, -, hNext⟩ := hTicks 0 p hp hAlive
  have hSkipped := hNext (.ring 0 0) (.ring 0) rfl hTick
  rw [if_pos (by rw [Gate.paused, hHeld]; rfl)] at hSkipped
  exact ⟨hHeld, _, hSkipped, congrArg (TickEvent.skipped :: ·) hEvents, hFetches⟩

end Scene

end Lookout.Polling
