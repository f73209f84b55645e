import Mathlib.Data.List.InsertIdx
import Lookout.Proofs.Polling.Machine

set_option autoImplicit false

/-! # Moves, as seen by one poller

A move is a deed of at most one poller (`Scene.deed?`). It changes that poller as
`Poller.perform` says, the others not at all (`getElem?_move`), and starts the fetches that
`Poller.launches` says (`purposes_move`). So what one poller keeps through every deed, it
keeps through every run, and proofs about runs are inductions on the moves with one case for
each deed.
-/

namespace Lookout.Polling

/-- What the landing of a fetch is to the poller that waits for it. -/
def Flight.deed? (f : Flight) : Option (Nat × Deed) :=
  match f.purpose, f.result with
  | .direct, _ => none
  | .tick i run seq, .ok status => some (i, .accept run seq status)
  | .tick i run _, .error text => some (i, .fail run text)

/-- How much time a move takes: none, unless it is that the clock goes on. -/
def Move.duration {ω : Type} : Move ω → Nat
  | .pass ms => ms
  | .operate .. | .ask _ | .call .. | .signal _ | .note _ | .resume | .ring .. | .land _
  | .conclude _ => 0

namespace Scene

variable {ω : Type}

/-- The poller that a move concerns, and what the move is to it. -/
def deed? (s : Scene ω) : Move ω → Option (Nat × Deed)
  | .operate i o => some (i, .operate o)
  | .ask i => some (i, .ask)
  | .ring i k => some (i, .ring k)
  | .land k => s.fleet.flights[k]?.bind Flight.deed?
  | .conclude k => s.reports[k]?.map fun r => (r.poller, .conclude r.run r.current r.previous)
  | .call .. | .signal _ | .note _ | .pass _ | .resume => none

/-- What a move makes of poller `i`. -/
def turn (s : Scene ω) (m : Move ω) (i : Nat) (p : Poller) : Poller :=
  match s.deed? m with
  | none => p
  | some (j, d) => if j = i then p.perform s.fleet.gate.paused s.fleet.now d else p

/-- The fetches that take off with a deed of poller `i`, if it is there. -/
def launchedBy (s : Scene ω) (i : Nat) (d : Deed) : List Purpose :=
  (s.fleet.pollers[i]?.map (·.launches s.fleet.gate.paused s.fleet.now i d)).getD []

/-- The fetches that take off with a move. -/
def launched (s : Scene ω) : Move ω → List Purpose
  | .operate i o => s.launchedBy i (.operate o)
  | .ask i => s.launchedBy i .ask
  | .ring i k => s.launchedBy i (.ring k)
  | .call .. => [.direct]
  | .land _ | .conclude _ | .signal _ | .note _ | .pass _ | .resume => []

/-- The fetches in flight without the one that lands with a move. -/
def remaining (s : Scene ω) : Move ω → List Purpose
  | .land k => s.fleet.purposes.eraseIdx k
  | _ => s.fleet.purposes

/-- A move that is a deed of poller `j` leaves the other pollers as they are. -/
theorem getElem?_of_does {s : Scene ω} {m : Move ω} {s₁ s' : Fleet ω} {j : Nat} {d : Deed}
    {g : Poller → List Purpose} (hDeed : s.deed? m = some (j, d))
    (hPollers : s₁.pollers = s.fleet.pollers)
    (h : s₁.Does s' j (·.perform s.fleet.gate.paused s.fleet.now d) g) (i : Nat) :
    s'.pollers[i]? = s.fleet.pollers[i]?.map (s.turn m i) := by
  rw [h.getElem? i, hPollers]
  unfold turn
  rw [hDeed]

/-- A move that is no deed of any poller leaves all as they are. -/
theorem map_turn_of_none {s : Scene ω} {m : Move ω} (hDeed : s.deed? m = none) (i : Nat) :
    s.fleet.pollers[i]?.map (s.turn m i) = s.fleet.pollers[i]? := by
  have hTurn : s.turn m i = id := by
    funext p
    simp only [turn, hDeed, id]
  rw [hTurn, Option.map_id, id]

/-- What the landing of a fetch makes of the pollers, and that no fetch takes off. -/
theorem deliver_spec {s : Scene ω} {k : Nat} {f : Flight} (hf : s.fleet.flights[k]? = some f) :
    let s' := ({ s.fleet with flights := s.fleet.flights.eraseIdx k }.deliver f).1
    (∀ i, s'.pollers[i]? = s.fleet.pollers[i]?.map (s.turn (.land k) i)) ∧
      s'.purposes = s.fleet.purposes.eraseIdx k := by
  obtain ⟨hPollers, hFlights, -, -⟩ := Fleet.effects_frame f.effects
    { s.fleet with flights := s.fleet.flights.eraseIdx k }
  have hPurposes : (f.effects.foldl Fleet.effect
      { s.fleet with flights := s.fleet.flights.eraseIdx k }).purposes
        = s.fleet.purposes.eraseIdx k := by
    rw [Fleet.purposes, hFlights, Fleet.purposes, List.eraseIdx_map]
  have hDeed : s.deed? (.land k) = f.deed? := by simp only [deed?, hf, Option.bind_some]
  -- The effects come first, and they leave the pollers alone; so the deed finds them as
  -- they were.
  obtain ⟨due, purpose, effects, result⟩ := f
  cases purpose with
  | direct =>
      refine ⟨fun i => ?_, hPurposes⟩
      rw [map_turn_of_none hDeed]
      exact congrArg (·[i]?) hPollers
  | tick j run seq =>
      cases result with
      | ok status =>
          have hDoes := Fleet.does_accept (effects.foldl Fleet.effect
            { s.fleet with flights := s.fleet.flights.eraseIdx k }) j run seq status
          exact ⟨getElem?_of_does hDeed hPollers hDoes, hDoes.purposes_eq.trans hPurposes⟩
      | error text =>
          have hDoes := Fleet.does_fail (effects.foldl Fleet.effect
            { s.fleet with flights := s.fleet.flights.eraseIdx k }) j run text
          exact ⟨getElem?_of_does hDeed hPollers hDoes, hDoes.purposes_eq.trans hPurposes⟩

variable [FetchSource ω]

/-- **What a move makes of poller `i`** is what the deed makes of it, if it is one of that
poller, and nothing else. -/
theorem getElem?_move (s : Scene ω) (m : Move ω) (i : Nat) :
    (s.move m).fleet.pollers[i]? = s.fleet.pollers[i]?.map (s.turn m i) := by
  cases m with
  | operate j o => exact getElem?_of_does rfl rfl (s.fleet.does_operate j o) i
  | ask j => exact getElem?_of_does rfl rfl (s.fleet.does_ask j) i
  | ring j k => exact getElem?_of_does rfl rfl (s.fleet.does_ring j k) i
  | land k =>
      cases hf : s.fleet.flights[k]? with
      | none =>
          have hDeed : s.deed? (.land k) = none := by simp [deed?, hf]
          rw [map_turn_of_none hDeed, move, hf]
      | some f =>
          rw [move, hf]
          exact (deliver_spec hf).1 i
  | conclude k =>
      cases hr : s.reports[k]? with
      | none =>
          have hDeed : s.deed? (.conclude k) = none := by simp [deed?, hr]
          rw [map_turn_of_none hDeed, move, hr]
      | some r =>
          have hDeed : s.deed? (.conclude k)
              = some (r.poller, .conclude r.run r.current r.previous) := by simp [deed?, hr]
          rw [move, hr]
          exact getElem?_of_does hDeed rfl (s.fleet.does_conclude r) i
  | resume =>
      rw [map_turn_of_none rfl, move, Fleet.work]
      cases s.fleet.gate.fire? s.fleet.now <;> rfl
  | call f source => rw [map_turn_of_none rfl]; rfl
  | signal x => rw [map_turn_of_none rfl]; rfl
  | note e => rw [map_turn_of_none rfl]; rfl
  | pass ms => rw [map_turn_of_none rfl]; rfl

/-- **The fetches in flight after a move** are those before it, except for one that lands,
and those that take off with it. -/
theorem purposes_move (s : Scene ω) (m : Move ω) :
    (s.move m).fleet.purposes = s.remaining m ++ s.launched m := by
  cases m with
  | operate i o => exact (s.fleet.does_operate i o).flights
  | ask i => exact (s.fleet.does_ask i).flights
  | ring i k => exact (s.fleet.does_ring i k).flights
  | land k =>
      rw [launched, List.append_nil, remaining, move]
      cases hf : s.fleet.flights[k]? with
      | none =>
          have hLong : s.fleet.purposes.length ≤ k := by
            simpa [Fleet.purposes] using hf
          exact (List.eraseIdx_of_length_le hLong).symm
      | some f => exact (deliver_spec hf).2
  | conclude k =>
      rw [launched, List.append_nil, remaining, move]
      · cases hr : s.reports[k]? with
        | none => rfl
        | some r => exact (s.fleet.does_conclude r).purposes_eq
      · simp
  | resume =>
      rw [launched, List.append_nil, remaining, move, Fleet.work]
      · cases s.fleet.gate.fire? s.fleet.now <;> rfl
      · simp
  | call f source => simp [launched, remaining, move, Fleet.purposes, Fleet.launch]
  | signal x => exact (List.append_nil _).symm
  | note e => exact (List.append_nil _).symm
  | pass ms => exact (List.append_nil _).symm

/-- The clock after a move. -/
theorem now_move (s : Scene ω) (m : Move ω) :
    (s.move m).fleet.now = s.fleet.now + m.duration := by
  cases m with
  | operate i o => exact (s.fleet.does_operate i o).now
  | ask i => exact (s.fleet.does_ask i).now
  | ring i k => exact (s.fleet.does_ring i k).now
  | land k =>
      rw [move]
      cases s.fleet.flights[k]? with
      | none => rfl
      | some f => exact Fleet.now_deliver _ f
  | conclude k =>
      rw [move]
      cases s.reports[k]? with
      | none => rfl
      | some r => exact (s.fleet.does_conclude r).now
  | resume =>
      rw [move, Fleet.work]
      cases s.fleet.gate.fire? s.fleet.now <;> rfl
  | call f source => rfl
  | signal x => rfl
  | note e => rfl
  | pass ms => rfl

end Scene

end Lookout.Polling
