import Mathlib.Data.List.Perm.Basic
import Lookout.Proofs.Polling.Calls
import Lookout.Proofs.Polling.Entries
import Lookout.Proofs.Polling.Signals

set_option autoImplicit false

/-! # A move, part by part

`getElem?_move` says what a move makes of the pollers, `gate_move` what it makes of the gate,
`now_move` of the clock and `journal_move` of the journal. Here are the parts that are left:
the fetches in flight (`flights_eq`), the world that answers them (`source_eq`), and the open
reports (`reports_eq`). Each says that the part after the move is a function of the parts
before it. So scenes that agree in some respect can be compared part by part, without a look
at the operations of a fleet.
-/

namespace Lookout.Polling

open Journal (Entry)

/-! ## Reports -/

/-- The report that a success opens: that of a change, if it counts and is one. -/
def Poller.report? (p : Poller) (i run seq : Nat) (status : Option String) : Option Report :=
  if ¬ p.alive ∨ p.run ≠ run ∨ ¬ p.mode.isPolling then none
  else if seq ≤ p.applied then none
  else (p.change? status).map fun x => ⟨i, run, x.1, x.2⟩

/-- The report that a deed of poller `i` opens, if it opens one. -/
def Poller.opens? (p : Poller) (i : Nat) : Deed → Option Report
  | .accept run seq status => p.report? i run seq status
  | .operate _ | .ask | .ring _ | .fail .. | .conclude .. => none

/-- What a success that counts makes of a poller. -/
theorem Poller.accept_eq {p : Poller} {run seq : Nat} (h : p.Counts run seq)
    (status : Option String) :
    p.accept run seq status = match p.change? status with
      | none => (p.apply seq status).publish (.fetched status)
      | some x => ((p.apply seq status).publish (.fetched status)).beginReport x.1 x.2 := by
  obtain ⟨hAlive, hRun, hPolling, hNew⟩ := h
  unfold accept
  rw [if_neg (by simp [hAlive, hRun, hPolling]), if_neg (by omega)]
  cases p.change? status <;> rfl

/-- A success opens a report only if it counts. -/
theorem Poller.report?_of_counts {p : Poller} {run seq : Nat} (h : p.Counts run seq) (i : Nat)
    (status : Option String) :
    p.report? i run seq status = (p.change? status).map fun x => ⟨i, run, x.1, x.2⟩ := by
  obtain ⟨hAlive, hRun, hPolling, hNew⟩ := h
  unfold report?
  rw [if_neg (by simp [hAlive, hRun, hPolling]), if_neg (by omega)]

theorem Poller.report?_of_not_counts {p : Poller} {run seq : Nat} (h : ¬ p.Counts run seq)
    (i : Nat) (status : Option String) : p.report? i run seq status = none := by
  unfold report?
  split
  next => rfl
  next hMeant =>
    simp only [not_or, Decidable.not_not] at hMeant
    have hOld : ¬ p.applied < seq := fun hNew => h ⟨hMeant.1, hMeant.2.1, hMeant.2.2, hNew⟩
    rw [if_pos (Nat.le_of_not_lt hOld)]

/-- A report that a deed opens is of the poller whose deed it is. -/
theorem Poller.opens?_poller {p : Poller} {i : Nat} {d : Deed} {r : Report}
    (h : p.opens? i d = some r) : r.poller = i := by
  cases d with
  | accept run seq status =>
      rw [Poller.opens?, Poller.report?] at h
      split at h
      next => cases h
      next =>
        split at h
        next => cases h
        next =>
          obtain ⟨x, -, rfl⟩ := Option.map_eq_some_iff.mp h
          rfl
  | _ => cases h

namespace Fleet

variable {ω : Type}

theorem report_accept {s : Fleet ω} {i : Nat} {p : Poller} (hp : s.pollers[i]? = some p)
    (run seq : Nat) (status : Option String) :
    (s.accept i run seq status).2 = p.report? i run seq status := by
  unfold accept Poller.report?
  rw [hp]
  dsimp only
  split
  next => rfl
  next =>
    split
    next => rfl
    next => cases p.change? status <;> rfl

theorem flights_accept (s : Fleet ω) (i run seq : Nat) (status : Option String) :
    (s.accept i run seq status).1.flights = s.flights := by
  unfold accept
  split
  next => rfl
  next =>
    split
    next => rfl
    next =>
      split
      next => rfl
      next =>
        dsimp only
        split <;> rfl

theorem flights_fail (s : Fleet ω) (i run : Nat) (error : String) :
    (s.fail i run error).flights = s.flights := by
  unfold fail
  split
  next => rfl
  next => split <;> rfl

/-- A fetch that lands leaves the others in flight. -/
theorem flights_deliver (s : Fleet ω) (f : Flight) : (s.deliver f).1.flights = s.flights := by
  have hEffects := (effects_frame f.effects s).2.1
  unfold deliver
  cases f.purpose with
  | direct => exact hEffects
  | tick i run seq =>
      cases f.result with
      | ok status => exact (flights_accept _ i run seq status).trans hEffects
      | error text => exact (flights_fail _ i run text).trans hEffects

end Fleet

/-! ## What is in flight -/

section Load

variable {ω α β : Type}

/-- A list of what is in flight, without what lands with a move. -/
def Move.unload (l : List α) : Move ω → List α
  | .land k => l.eraseIdx k
  | _ => l

/-- What lands with a move, of a list of what is in flight. -/
def Move.landing (l : List α) : Move ω → List α
  | .land k => l[k]?.toList
  | _ => []

theorem Move.map_unload (f : α → β) (l : List α) (m : Move ω) :
    (m.unload l).map f = m.unload (l.map f) := by
  cases m with
  | land k => rw [unload, unload, List.eraseIdx_map]
  | _ => rfl

/-- What was in flight has landed, or is in flight still. -/
theorem Move.perm_landing (l : List α) (m : Move ω) : l.Perm (m.landing l ++ m.unload l) := by
  cases m with
  | land k =>
      rw [landing, unload]
      by_cases hk : k < l.length
      · rw [List.getElem?_eq_getElem hk]
        exact (List.getElem_cons_eraseIdx_perm hk).symm
      · rw [List.getElem?_eq_none (Nat.le_of_not_lt hk),
          List.eraseIdx_of_length_le (Nat.le_of_not_lt hk)]
        exact .refl _
  | _ => exact .refl _

end Load

namespace Scene

variable {ω : Type}

/-- The open reports without the one that a move concludes. -/
def staying (s : Scene ω) : Move ω → List Report
  | .conclude k => s.reports.eraseIdx k
  | _ => s.reports

/-- The report that a move opens. -/
def opened (s : Scene ω) (m : Move ω) : List Report :=
  ((s.deed? m).bind fun x => s.fleet.pollers[x.1]?.bind (·.opens? x.1 x.2)).toList

theorem opened_of_deed {s : Scene ω} {m : Move ω} {i : Nat} {d : Deed} {p : Poller}
    (hDeed : s.deed? m = some (i, d)) (hp : s.fleet.pollers[i]? = some p) :
    s.opened m = (p.opens? i d).toList := by
  rw [opened, hDeed, Option.bind_some, hp, Option.bind_some]

theorem opened_of_none {s : Scene ω} {m : Move ω} (hDeed : s.deed? m = none) :
    s.opened m = [] := by
  rw [opened, hDeed]
  rfl

/-- Only a fetch that lands opens a report. -/
theorem opened_of_not_land {s : Scene ω} {m : Move ω} (hLand : ∀ k, m ≠ .land k) :
    s.opened m = [] := by
  cases hDeed : s.deed? m with
  | none => exact opened_of_none hDeed
  | some x =>
      obtain ⟨i, d⟩ := x
      rw [opened, hDeed, Option.bind_some]
      dsimp only
      cases s.fleet.pollers[i]? with
      | none => rfl
      | some p =>
          cases meets_of_deed hDeed with
          | accept k => exact absurd rfl (hLand k)
          | fail k => exact absurd rfl (hLand k)
          | _ => rfl

/-- The fetches that take off with a move. -/
def takingOff [FetchSource ω] (s : Scene ω) (m : Move ω) : List Flight :=
  match m with
  | .call f _ => [⟨s.fleet.now + f.duration, .direct, f.effects, f.result⟩]
  | _ => ((s.deed? m).map fun x => (s.launchedBy x.1 x.2).map (s.fleet.flight x.1)).getD []

/-- What takes off is a call from outside, or the answer to a call of the poller whose deed the
move is. -/
theorem mem_takingOff [FetchSource ω] {s : Scene ω} {m : Move ω} {f : Flight}
    (hf : f ∈ s.takingOff m) :
    (f.purpose = .direct ∧ s.deed? m = none) ∨ ∃ i d purpose, s.deed? m = some (i, d) ∧
      purpose ∈ s.launchedBy i d ∧ f = s.fleet.flight i purpose := by
  by_cases hCall : ∃ g source, m = .call g source
  · obtain ⟨g, source, rfl⟩ := hCall
    rw [List.mem_singleton.mp hf]
    exact .inl ⟨rfl, rfl⟩
  · have hDeed : s.takingOff m
        = ((s.deed? m).map fun x => (s.launchedBy x.1 x.2).map (s.fleet.flight x.1)).getD [] := by
      cases m with
      | call g source => exact absurd ⟨g, source, rfl⟩ hCall
      | _ => rfl
    rw [hDeed] at hf
    cases hx : s.deed? m with
    | none =>
        rw [hx] at hf
        cases hf
    | some x =>
        rw [hx, Option.map_some, Option.getD_some] at hf
        obtain ⟨purpose, hPurpose, rfl⟩ := List.mem_map.mp hf
        exact .inr ⟨x.1, x.2, purpose, rfl, hPurpose, rfl⟩

/-- The world that answers fetches, after a move has called upon it. -/
def consulted [FetchSource ω] (s : Scene ω) (m : Move ω) : ω :=
  match m with
  | .call _ source => source
  | _ => ((s.deed? m).map fun x =>
      if s.launchedBy x.1 x.2 = [] then s.fleet.source
      else (FetchSource.fetch s.fleet.source x.1).2).getD s.fleet.source

variable [FetchSource ω]

/-- A deed of a poller that is not there, unless a fetch lands with it, does nothing. -/
theorem fleet_of_missing {s : Scene ω} {m : Move ω} {i : Nat} {d : Deed}
    (hp : s.fleet.pollers[i]? = none) (hMeets : s.Meets i m d) (hLand : ∀ k, m ≠ .land k) :
    (s.move m).fleet = s.fleet := by
  cases hMeets with
  | operate o =>
      show s.fleet.operate i o = _
      rw [Fleet.operate, Fleet.allows, hp]
      rfl
  | ask =>
      show s.fleet.ask i = _
      rw [Fleet.ask, Fleet.allows, hp]
      rfl
  | ring k =>
      show s.fleet.ring i k = _
      rw [Fleet.ring, hp]
  | accept k => exact absurd rfl (hLand k)
  | fail k => exact absurd rfl (hLand k)
  | conclude k r report poller =>
      rw [move, report]
      show s.fleet.conclude r = _
      rw [Fleet.conclude, poller, hp]

/-- **The reports that are open after a move** are those before it, except for one that is
concluded, and the one it opens. -/
theorem reports_eq (s : Scene ω) (m : Move ω) : (s.move m).reports = s.staying m ++ s.opened m := by
  cases m with
  | land k =>
      rw [staying]
      · cases hf : s.fleet.flights[k]? with
        | none => simp [move, opened, deed?, hf]
        | some f =>
            have hDeed : s.deed? (.land k) = f.deed? := by simp only [deed?, hf, Option.bind_some]
            obtain ⟨hPollers, -, -, -⟩ := Fleet.effects_frame f.effects
              { s.fleet with flights := s.fleet.flights.eraseIdx k }
            rw [move, hf, opened, hDeed]
            refine congrArg (fun r : Option Report => s.reports ++ r.toList) ?_
            obtain ⟨due, purpose, effects, result⟩ := f
            cases purpose with
            | direct => rfl
            | tick i run seq =>
                cases result with
                | error text => cases hp : s.fleet.pollers[i]? <;> simp [Fleet.deliver,
                    Flight.deed?, hp, Poller.opens?]
                | ok status =>
                    show (Fleet.accept _ i run seq status).2 = _
                    cases hp : s.fleet.pollers[i]? with
                    | none =>
                        rw [Fleet.accept, hPollers, hp]
                        simp [Flight.deed?, hp]
                    | some p =>
                        rw [Fleet.report_accept (hPollers ▸ hp)]
                        simp [Flight.deed?, hp, Poller.opens?]
      · simp
  | conclude k =>
      rw [opened_of_not_land (by simp), List.append_nil, staying, move]
      cases hr : s.reports[k]? with
      | none =>
          have hShort : s.reports.length ≤ k := List.getElem?_eq_none_iff.mp hr
          exact (List.eraseIdx_of_length_le hShort).symm
      | some r => rfl
  | _ =>
      rw [opened_of_not_land (by simp), List.append_nil]
      rfl

/-- What a deed that is no landing makes of the fetches in flight and of the world that answers
them. -/
theorem calls_eq {s : Scene ω} {m : Move ω} {i : Nat} {d : Deed} (hDeed : s.deed? m = some (i, d))
    (hLand : ∀ k, m ≠ .land k) :
    (s.move m).fleet.flights
        = s.fleet.flights ++ (s.launchedBy i d).map (s.fleet.flight i) ∧
      (s.move m).fleet.source = if s.launchedBy i d = [] then s.fleet.source
        else (FetchSource.fetch s.fleet.source i).2 := by
  have hMeets := meets_of_deed hDeed
  cases hp : s.fleet.pollers[i]? with
  | none =>
      have hNone : s.launchedBy i d = [] := by
        rw [launchedBy, hp]
        rfl
      rw [fleet_of_missing hp hMeets hLand, hNone]
      exact ⟨(List.append_nil _).symm, (if_pos rfl).symm⟩
  | some p =>
      have hCalls := calls_of_deed hp hMeets hLand
      rw [launchedBy, hp, Option.map_some, Option.getD_some]
      generalize p.launches s.fleet.gate.paused s.fleet.now i d = l at hCalls ⊢
      cases hCalls with
      | none source flights => exact ⟨by rw [flights]; simp, by rw [source, if_pos rfl]⟩
      | once purpose source flights =>
          exact ⟨by rw [flights]; rfl, by rw [source, if_neg (List.cons_ne_nil _ _)]⟩

omit [FetchSource ω] in
/-- A deed with which a fetch lands calls for none. -/
theorem launchedBy_of_land {s : Scene ω} {k i : Nat} {d : Deed}
    (hDeed : s.deed? (.land k) = some (i, d)) : s.launchedBy i d = [] := by
  unfold launchedBy
  cases s.fleet.pollers[i]? with
  | none => rfl
  | some p => cases meets_of_deed hDeed <;> rfl

/-- **The fetches in flight after a move** are those before it, except for one that lands, and
those that take off. -/
theorem flights_eq (s : Scene ω) (m : Move ω) :
    (s.move m).fleet.flights = m.unload s.fleet.flights ++ s.takingOff m := by
  cases m with
  | operate i o => exact (calls_eq rfl (by simp)).1
  | ask i => exact (calls_eq rfl (by simp)).1
  | ring i k => exact (calls_eq rfl (by simp)).1
  | land k =>
      have hNone : s.takingOff (.land k) = [] := by
        rw [takingOff]
        · cases hDeed : s.deed? (.land k) with
          | none => rfl
          | some x => simp [launchedBy_of_land hDeed]
        · simp
      rw [hNone, List.append_nil, Move.unload, move]
      cases hf : s.fleet.flights[k]? with
      | none =>
          have hShort : s.fleet.flights.length ≤ k := List.getElem?_eq_none_iff.mp hf
          exact (List.eraseIdx_of_length_le hShort).symm
      | some f => exact Fleet.flights_deliver _ f
  | conclude k =>
      cases hDeed : s.deed? (.conclude k) with
      | some x =>
          have hCalls := (calls_eq hDeed (by simp)).1
          rw [takingOff, hDeed]
          · exact hCalls
          · simp
      | none =>
          rw [deed?, Option.map_eq_none_iff] at hDeed
          simp [move, takingOff, Move.unload, deed?, hDeed]
  | call f source => rfl
  | signal x => exact (List.append_nil _).symm
  | note e => exact (List.append_nil _).symm
  | pass ms => exact (List.append_nil _).symm
  | resume =>
      show (s.fleet.work .gate).flights = s.fleet.flights ++ []
      rw [List.append_nil, Fleet.work]
      cases s.fleet.gate.fire? s.fleet.now <;> rfl

/-- **The world that answers fetches** changes only as it is called upon. -/
theorem source_eq (s : Scene ω) (m : Move ω) : (s.move m).fleet.source = s.consulted m := by
  cases m with
  | operate i o => exact (calls_eq rfl (by simp)).2
  | ask i => exact (calls_eq rfl (by simp)).2
  | ring i k => exact (calls_eq rfl (by simp)).2
  | land k =>
      rw [source_land, consulted]
      · cases hDeed : s.deed? (.land k) with
        | none => rfl
        | some x => simp [launchedBy_of_land hDeed]
      · simp
  | conclude k =>
      cases hDeed : s.deed? (.conclude k) with
      | some x =>
          have hCalls := (calls_eq hDeed (by simp)).2
          rw [consulted, hDeed]
          · exact hCalls
          · simp
      | none =>
          rw [deed?, Option.map_eq_none_iff] at hDeed
          simp [move, consulted, deed?, hDeed]
  | call f source => rfl
  | signal x => rfl
  | note e => rfl
  | pass ms => rfl
  | resume =>
      show (s.fleet.work .gate).source = s.fleet.source
      rw [Fleet.work]
      cases s.fleet.gate.fire? s.fleet.now <;> rfl

/-- What is made of the gate when its timer fires, if it is due. -/
theorem gate_resume (s : Scene ω) :
    (s.move .resume).fleet.gate
      = ((s.fleet.gate.fire? s.fleet.now).map Prod.fst).getD s.fleet.gate := by
  show (s.fleet.work .gate).gate = _
  rw [Fleet.work]
  cases s.fleet.gate.fire? s.fleet.now <;> rfl

end Scene

end Lookout.Polling
