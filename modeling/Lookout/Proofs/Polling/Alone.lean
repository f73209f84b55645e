import Lookout.Proofs.Polling.Rest

set_option autoImplicit false

/-! # A poller that works alone

Something is done with a handle of one poller of a fleet at rest. Until the fleet is at rest again,
only the timers of that poller fire, and of the fetches that anybody waits for only its own land;
what they tell the gate stops no other poller. So the other pollers stay as they are
(`AtRest.carryOut_apart`), although all share a gate and a source of fetches.
-/

namespace Lookout.Polling.Fleet

variable {ω : Type} {s t t' : Fleet ω} {i j : Nat}

/-- A purpose of poller `i`, or of somebody outside. -/
def OwnPurpose (i : Nat) (x : Purpose) : Prop := ∀ j run seq, x = .tick j run seq → j = i

/-- `t` differs from `s` at most in poller `i`, the gate, the source, the journal, and in fetches
that are due later or that no other poller waits for. -/
structure Alone (s : Fleet ω) (i : Nat) (t : Fleet ω) : Prop where
  now : t.now = s.now
  others : ∀ j ≠ i, t.pollers[j]? = s.pollers[j]?
  flights : ∀ f ∈ t.flights, f.due ≤ s.now → OwnPurpose i f.purpose

/-- At rest, no fetch is due. -/
theorem AtRest.alone (h : s.AtRest) (i : Nat) : s.Alone i s where
  now := rfl
  others _ _ := rfl
  flights f hf hDue := absurd hDue (Nat.not_le_of_lt ((atRest_iff.mp h).flights f hf))

/-! ## Deeds -/

/-- Only the clock, the pollers and the flights count. -/
theorem Alone.congr (h : s.Alone i t) (hNow : t'.now = t.now) (hPollers : t'.pollers = t.pollers)
    (hFlights : t'.flights = t.flights) : s.Alone i t' where
  now := hNow.trans h.now
  others := by rw [hPollers]; exact h.others
  flights := by rw [hFlights]; exact h.flights

/-- What is done to poller `i`, with no fetch that another poller waits for. -/
theorem Alone.does (h : s.Alone i t) {f : Poller → Poller} {g : Poller → List Purpose}
    (hDoes : t.Does t' i f g) (hFlights : ∀ x ∈ t'.flights, x ∈ t.flights ∨ OwnPurpose i x.purpose) :
    s.Alone i t' where
  now := hDoes.now.trans h.now
  others j hj := by
    rw [hDoes.getElem? j, ← h.others j hj]
    simp [hj.symm]
  flights x hx hDue := by
    rcases hFlights x hx with hBefore | hOwn
    · exact h.flights x hBefore hDue
    · exact hOwn

section Calls

variable [FetchSource ω] {l : List Purpose}

/-- The fetches that are called for are added to those in flight. -/
theorem Calls.mem_flights (h : t.Calls t' i l) (hOwn : ∀ x ∈ l, OwnPurpose i x) :
    ∀ x ∈ t'.flights, x ∈ t.flights ∨ OwnPurpose i x.purpose := by
  intro x hx
  cases h with
  | none source flights => exact .inl (flights ▸ hx)
  | once purpose source flights =>
      rw [flights, List.mem_append, List.mem_singleton] at hx
      rcases hx with hBefore | rfl
      · exact .inl hBefore
      · exact .inr (hOwn purpose List.mem_cons_self)

/-- A poller ticks for itself. -/
theorem ownPurpose_of_launches {p : Poller} {paused : Bool} {now : Nat} {d : Deed} {x : Purpose}
    (hx : x ∈ p.launches paused now i d) : OwnPurpose i x := by
  rintro j run seq rfl
  exact p.eq_of_launches _ _ hx

theorem ownPurpose_of_operateFetches {p : Poller} {paused : Bool} {o : Operation} {x : Purpose}
    (hx : x ∈ p.operateFetches paused i o) : OwnPurpose i x := by
  have hStart : x ∈ p.startFetches paused i → OwnPurpose i x := by
    intro hx
    unfold Poller.startFetches Poller.tickFetches at hx
    rintro j run seq rfl
    split at hx
    next => cases hx
    next =>
      split at hx
      next => cases hx
      next => exact (Purpose.tick.inj (List.mem_singleton.mp hx)).1
  cases o with
  | start | enterActive | guard => exact hStart hx
  | stop | exitActive | clone | dropMain | dropClone | dropGuard => cases hx

/-- What is done with a handle of poller `i`. -/
theorem Alone.carryOut (h : s.Alone i t) (o : Operation) : s.Alone i (t.carryOut i o) := by
  cases hp : t.pollers[i]? with
  | none =>
      rw [carryOut_of_none hp]
      exact h
  | some p =>
      exact h.does (t.does_carryOut i o)
        ((calls_carryOut hp o).mem_flights fun _ hx => ownPurpose_of_operateFetches hx)

end Calls

/-! ## Landings -/

/-- Only a poller that waits for a fetch has something to report. -/
theorem exists_of_report {f : Flight} {r : Report} (h : (t.deliver f).2 = some r) :
    ∃ run seq, f.purpose = .tick r.poller run seq := by
  unfold deliver at h
  cases hPurpose : f.purpose with
  | direct => simp [hPurpose] at h
  | tick i run seq =>
      cases hResult : f.result with
      | error text => simp [hPurpose, hResult] at h
      | ok status =>
          simp only [hPurpose, hResult, accept] at h
          refine ⟨run, seq, ?_⟩
          split at h
          next => cases h
          next =>
            split at h
            next => cases h
            next =>
              split at h
              next => cases h
              next =>
                split at h
                next => cases h
                next => rw [← Option.some.inj h]

/-- A fetch that no other poller waits for lands. -/
theorem Alone.deliver (h : s.Alone i t) {f : Flight} (hOwn : OwnPurpose i f.purpose) :
    s.Alone i (t.deliver f).1 := by
  obtain ⟨hPollers, hFlights, hNow, -⟩ := effects_frame f.effects t
  have hEffects : s.Alone i (f.effects.foldl effect t) := h.congr hNow hPollers hFlights
  unfold Fleet.deliver
  cases hPurpose : f.purpose with
  | direct => exact hEffects
  | tick j run seq =>
      obtain rfl := hOwn j run seq hPurpose
      cases hResult : f.result with
      | ok status =>
          refine hEffects.does (does_accept _ j run seq status) fun x hx => .inl ?_
          rwa [flights_accept] at hx
      | error text =>
          refine hEffects.does (does_fail _ j run text) fun x hx => .inl ?_
          rwa [flights_fail] at hx

section Work

variable [FetchSource ω]

/-- The change that it brings is reported. -/
theorem Alone.land (h : s.Alone i t) (hPlain : ∀ p ∈ t.pollers, p.Plain) {f : Flight}
    (hOwn : OwnPurpose i f.purpose) : s.Alone i (t.land f) := by
  have hDelivered := h.deliver hOwn
  have hStill := plain_deliver hPlain f
  have hReporter : ∀ r, (t.deliver f).2 = some r → r.poller = i := fun r hr => by
    obtain ⟨run, seq, hPurpose⟩ := exists_of_report hr
    exact hOwn _ run seq hPurpose
  unfold Fleet.land
  split
  next t₁ hLanded =>
    rw [hLanded] at hDelivered
    exact hDelivered
  next t₁ r hLanded =>
    rw [hLanded] at hDelivered hStill hReporter
    obtain ⟨journal, hConsulted⟩ := consult_of_plain hStill r
    obtain rfl := hReporter r rfl
    have hTold : s.Alone r.poller { t₁ with journal := journal } := hDelivered.congr rfl rfl rfl
    rw [hConsulted]
    exact hTold.does (does_conclude _ r) ((calls_conclude _ r).mem_flights nofun)

/-! ## Work -/

/-- **Work that is due** is that of poller `i`, if the fleet was at rest. -/
theorem Alone.work (h : s.Alone i t) (hRest : s.AtRest) (hPlain : ∀ p ∈ t.pollers, p.Plain)
    {w : Work} {due : Nat} (hd : w.due? t = some due) (hDue : due ≤ s.now) :
    s.Alone i (t.work w) := by
  cases w with
  | gate =>
      rw [Fleet.work]
      split
      next => exact h
      next => exact h.congr rfl rfl rfl
  | timer j =>
      by_cases hj : j = i
      · subst hj
        rcases t.work_timer j with hSame | ⟨k, hRing⟩
        · rw [hSame]
          exact h
        · obtain ⟨p, hp, -⟩ := Option.bind_eq_some_iff.mp hd
          rw [hRing]
          exact h.does (t.does_ring j k)
            ((calls_ring hp k).mem_flights fun _ hx => ownPurpose_of_launches hx)
      · -- The timers of another poller are those of the fleet at rest.
        have hBefore : (Work.timer j).due? s = some due := by
          rw [Work.due?, h.others j hj] at hd
          exact hd
        exact absurd hDue (Nat.not_le_of_lt (hRest _ (mem_agenda.mpr hBefore)))
  | flight k =>
      obtain ⟨f, hf, rfl⟩ := Option.map_eq_some_iff.mp hd
      have hOwn := h.flights f (List.mem_of_getElem? hf) hDue
      have hOthers : s.Alone i { t with flights := t.flights.eraseIdx k } :=
        ⟨h.now, h.others, fun g hg => h.flights g (List.mem_of_mem_eraseIdx hg)⟩
      rw [Fleet.work, hf]
      exact hOthers.land hPlain hOwn

/-- A step that takes no time. -/
theorem Alone.step (h : s.Alone i t) (hRest : s.AtRest) (hPlain : ∀ p ∈ t.pollers, p.Plain)
    (hStep : step? s.now t = some t') : s.Alone i t' := by
  rw [step?, earliest_eq_argmin] at hStep
  split at hStep
  next => cases hStep
  next due w hFirst =>
    split at hStep
    next hDue =>
      obtain rfl := Option.some.inj hStep
      have hNow : max t.now due = t.now := Nat.max_eq_left (h.now ▸ hDue)
      rw [hNow]
      exact h.work hRest hPlain (mem_agenda.mp (List.argmin_mem hFirst)) hDue
    next => cases hStep

/-- **All that is due** is done without the other pollers. -/
theorem Alone.settle (h : s.Alone i t) (hRest : s.AtRest) (hService : t.InService) :
    s.Alone i t.settle := by
  have hRun : (exhaust (step? t.now) (t.budget 0) t).InService ∧
      s.Alone i (exhaust (step? t.now) (t.budget 0) t) := by
    refine exhaust_induction (P := fun x => x.InService ∧ s.Alone i x) (fun x y hx hStep => ?_) _ t
      ⟨hService, h⟩
    obtain ⟨hWorks, hAlone⟩ := hx
    have hTime : x.now = t.now := hAlone.now.trans h.now.symm
    refine ⟨(hWorks.step (Nat.le_of_eq hTime) hStep).1, ?_⟩
    rw [h.now] at hStep
    exact hAlone.step hRest hWorks.orderly.plain hStep
  exact ⟨h.now, hRun.2.others, hRun.2.flights⟩

/-- **What is done with a handle of poller `i`** of a fleet at rest, and all that is due after it,
leaves the other pollers as they are. -/
theorem AtRest.carryOut_apart (h : s.AtRest) {o : Operation} (hService : (s.carryOut i o).InService)
    (hj : j ≠ i) : (s.carryOut i o).settle.pollers[j]? = s.pollers[j]? :=
  (((h.alone i).carryOut o).settle h hService).others j hj

end Work

end Lookout.Polling.Fleet
