import Lookout.Proofs.Backoff.History
import Lookout.Proofs.Polling.Turn

set_option autoImplicit false

/-! # What the gate of a fleet is told

The gate of a fleet is told signals by everybody: from outside, by callbacks, by fetches as
they land. `Scene.told` is the history of all of them in a run of moves. The resume timer
may fire late in such a run, so the gate need not be paused for exactly as long as the
history asks: `Heeds` says that it is paused for no less, and only if the history asks for
it. Every move keeps a gate so (`heeds_move`), and `heeds_after` is what this comes to.
-/

namespace Lookout.Polling

open Backoff (Gate History Signal)

/-- The signal that an effect of a fetch is, if it is one. -/
def Effect.signal? : Effect → Option Signal
  | .signal x => some x
  | .report _ => none

namespace Scene

variable {ω : Type}

/-- The signals that a move tells the gate, in order. -/
def signals (s : Scene ω) : Move ω → List Signal
  | .signal x => [x]
  | .land k => ((s.fleet.flights[k]?.map Flight.effects).getD []).filterMap Effect.signal?
  | .operate .. | .ask _ | .call .. | .note _ | .pass _ | .resume | .ring .. | .conclude _ => []

variable [FetchSource ω]

/-- Everything the gate was told in a run of moves. -/
def told (s₀ : Scene ω) : List (Move ω) → History
  | [] => []
  | m :: past =>
    (((s₀.after past).signals m).map fun x => ((s₀.after past).fleet.now, x)).reverse
      ++ s₀.told past

end Scene

/-- A gate after it was told some signals. -/
def hear (now : Nat) (g : Gate) (signals : List Signal) : Gate :=
  signals.foldl (fun g x => (g.tell now x).1) g

/-- The effects of a fetch tell the gate their signals. -/
theorem Fleet.gate_effects {ω : Type} (effects : List Effect) (s : Fleet ω) :
    (effects.foldl Fleet.effect s).gate
      = hear s.now s.gate (effects.filterMap Effect.signal?) := by
  induction effects generalizing s with
  | nil => rfl
  | cons e rest ih =>
      rw [List.foldl_cons, ih]
      cases e <;> rfl

namespace Scene

variable {ω : Type} [FetchSource ω]

/-- **What a move is to the gate**: it tells the gate its signals, unless it is that the
resume timer fires. -/
theorem gate_move (s : Scene ω) {m : Move ω} (hm : m ≠ .resume) :
    (s.move m).fleet.gate = hear s.fleet.now s.fleet.gate (s.signals m) := by
  cases m with
  | operate i o => exact (s.fleet.does_operate i o).gate
  | ask i => exact (s.fleet.does_ask i).gate
  | ring i k => exact (s.fleet.does_ring i k).gate
  | land k =>
      cases hf : s.fleet.flights[k]? with
      | none => simp only [move, signals, hf]; rfl
      | some f =>
          simp only [move, signals, hf, Option.map_some, Option.getD_some]
          have hEffects := Fleet.gate_effects f.effects
            { s.fleet with flights := s.fleet.flights.eraseIdx k }
          obtain ⟨due, purpose, effects, result⟩ := f
          cases purpose with
          | direct => exact hEffects
          | tick j run seq =>
              cases result with
              | ok status => exact (Fleet.does_accept _ j run seq status).gate.trans hEffects
              | error text => exact (Fleet.does_fail _ j run text).gate.trans hEffects
  | conclude k =>
      cases hr : s.reports[k]? with
      | none => simp only [move, hr]; rfl
      | some r => simp only [move, hr]; exact (s.fleet.does_conclude r).gate
  | resume => exact absurd rfl hm
  | call f source => rfl
  | signal x => rfl
  | note e => rfl
  | pass ms => rfl

end Scene

/-! ## Heeding them -/

/-- **A gate heeds what it was told**: it is paused as the history asks, or the time at which
the pause was to end has come. -/
structure Heeds (g : Gate) (h : History) (now : Nat) : Prop where
  sound : g.Sound
  level : g.level = h.level
  paused : ∀ r, h.resume? g.delays = some r → now < r → g.resumeAt = some r
  only : ∀ r, g.resumeAt = some r → h.resume? g.delays = some r

theorem heeds_make (delays : List Nat) (now : Nat) : Heeds (Gate.make delays).1 [] now where
  sound := Gate.sound_make delays
  level := rfl
  paused := nofun
  only := nofun

theorem Heeds.later {g : Gate} {h : History} {now : Nat} (hg : Heeds g h now) (ms : Nat) :
    Heeds g h (now + ms) where
  sound := hg.sound
  level := hg.level
  paused r hr hBefore := hg.paused r hr (by omega)
  only := hg.only

theorem Heeds.tell {g : Gate} {h : History} {now : Nat} (hg : Heeds g h now) (x : Signal) :
    Heeds (g.tell now x).1 ((now, x) :: h) now := by
  obtain ⟨hSound, hLevel, hPaused, hOnly⟩ := hg
  have hDelays := g.tell_delays now x
  refine ⟨hSound.tell now x, ?_, ?_, ?_⟩
  · cases x <;> simp [Gate.tell, hLevel]
  · rw [hDelays]
    cases x with
    | trigger =>
        intro r hr _
        rw [History.resume?_trigger, ← hLevel] at hr
        exact hr
    | reset => exact fun r hr hBefore => g.reset_resumeAt.trans (hPaused r hr hBefore)
    | forceResume =>
        intro r hr
        cases hr
  · rw [hDelays]
    cases x with
    | trigger =>
        intro r hr
        rw [History.resume?_trigger, ← hLevel]
        exact hr
    | reset => exact fun r hr => hOnly r (g.reset_resumeAt.symm.trans hr)
    | forceResume =>
        intro r hr
        cases hr

theorem Heeds.hear {g : Gate} {h : History} {now : Nat} (hg : Heeds g h now)
    (signals : List Signal) :
    Heeds (hear now g signals) ((signals.map fun x => (now, x)).reverse ++ h) now := by
  induction signals generalizing g h with
  | nil => exact hg
  | cons x rest ih =>
      have hRest := ih (hg.tell x)
      rw [List.map_cons, List.reverse_cons, List.append_assoc]
      exact hRest

/-- A gate that nothing is due of does not fire. -/
theorem fire?_of_not_due {g : Gate} (hg : g.Sound) {now : Nat}
    (hNot : ∀ r, g.resumeAt = some r → now < r) : g.fire? now = none := by
  cases hg with
  | running hAt hHandle hLive =>
      simp [Gate.fire?, Timers.fire?, Timers.next?, hLive, Timers.earliest]
  | paused t h hAt hHandle hLive =>
      have hEarly : ¬ t ≤ now := by
        have := hNot t hAt
        omega
      simp [Gate.fire?, Timers.fire?, Timers.next?, hLive, Timers.earliest, hEarly]

/-- The resume timer fires, if it is due. -/
theorem Heeds.fired {g : Gate} {h : History} {now : Nat} (hg : Heeds g h now) :
    g.fire? now = none ∨ ∃ g' entries, g.fire? now = some (g', entries) ∧
      g'.delays = g.delays ∧ Heeds g' h now := by
  by_cases hDue : ∃ r, g.resumeAt = some r ∧ r ≤ now
  · right
    obtain ⟨r, hAt, hDue⟩ := hDue
    obtain ⟨g', entries, hFire, hSound, hNone, hLevel, hDelays, -⟩ := hg.sound.fire?_of_due hAt hDue
    refine ⟨g', entries, hFire, hDelays, hSound, hLevel.trans hg.level, ?_, ?_⟩
    · -- The pause that the history asks for is the one that has just ended.
      intro r' hr' hBefore
      rw [hDelays, hg.only r hAt] at hr'
      obtain rfl := Option.some.inj hr'
      omega
    · intro r' hr'
      rw [hNone] at hr'
      cases hr'
  · left
    refine fire?_of_not_due hg.sound fun r hAt => ?_
    by_contra hOver
    exact hDue ⟨r, hAt, by omega⟩

theorem hear_delays (now : Nat) (g : Gate) (signals : List Signal) :
    (hear now g signals).delays = g.delays := by
  induction signals generalizing g with
  | nil => rfl
  | cons x rest ih => exact (ih _).trans (g.tell_delays now x)

namespace Scene

variable {ω : Type} [FetchSource ω]

/-- A move keeps a gate heedful, of all it was told and of what the move tells it. -/
theorem heeds_move {s : Scene ω} {h : History} (hs : Heeds s.fleet.gate h s.fleet.now)
    (m : Move ω) :
    Heeds (s.move m).fleet.gate
        (((s.signals m).map fun x => (s.fleet.now, x)).reverse ++ h) (s.move m).fleet.now ∧
      (s.move m).fleet.gate.delays = s.fleet.gate.delays := by
  rw [now_move]
  by_cases hm : m = .resume
  · subst hm
    show Heeds (s.fleet.work .gate).gate h s.fleet.now ∧ (s.fleet.work .gate).gate.delays = _
    rw [Fleet.work]
    rcases hs.fired with hNone | ⟨g', entries, hFire, hDelays, hg'⟩
    · rw [hNone]
      exact ⟨hs, rfl⟩
    · rw [hFire]
      exact ⟨hg', hDelays⟩
  · rw [gate_move s hm]
    exact ⟨(hs.hear _).later _, hear_delays _ _ _⟩

/-- **The gate of a fleet heeds everything it was told**, by whomever. -/
theorem heeds_after {s₀ : Scene ω} {delays : List Nat}
    (hGate : s₀.fleet.gate = (Gate.make delays).1) (past : List (Move ω)) :
    Heeds (s₀.after past).fleet.gate (s₀.told past) (s₀.after past).fleet.now ∧
      (s₀.after past).fleet.gate.delays = Backoff.Delays.ofList delays := by
  induction past with
  | nil =>
      rw [after, hGate]
      exact ⟨heeds_make delays _, rfl⟩
  | cons m past ih =>
      obtain ⟨hHeeds, hDelays⟩ := heeds_move ih.1 m
      exact ⟨hHeeds, hDelays.trans ih.2⟩

end Scene

end Lookout.Polling
