import Lookout.Proofs.Polling.Handles

set_option autoImplicit false

/-! # Pollers whose main handle stays

A poller is manned if its main handle is there and its callback does not give it up. Nothing but
giving up that handle changes this, so a fleet of such pollers stays one while it works
(`Manned.runTo`), and everything that takes a handle can be done with its pollers at any time
(`Manned.allows`).
-/

namespace Lookout.Polling

/-- Any handle is enough to do it. -/
def Operation.Common (o : Operation) : Prop := ∀ a : Owners, o.allowed a = a.held

/-- A further handle is not enough to give up the main one. -/
theorem Operation.Common.keeps {o : Operation} (ho : o.Common) : o ≠ .dropMain := by
  rintro rfl
  have hFurther := ho { main := false, clones := 1 }
  cases hFurther

namespace Poller

variable {p : Poller}

/-- Whether the main handle is there, and not for the callback to give up. -/
structure Manned (p : Poller) : Prop where
  main : p.owners.main = true
  callback : .drop ∉ p.callback.getD []

/-- Only giving up the main handle takes it. -/
theorem main_operate (p : Poller) (paused : Bool) (now : Nat) {o : Operation}
    (ho : o ≠ .dropMain) : (p.operate paused now o).owners.main = p.owners.main := by
  cases o with
  | start => rw [operate, owners_start]
  | stop => rw [operate, owners_stop]
  | enterActive =>
      show (p.start paused now).owners.main = _
      rw [owners_start]
  | exitActive => rw [operate, owners_exitActive]
  | clone => rfl
  | guard =>
      show (p.start paused now).owners.main = _
      rw [owners_start]
  | dropMain => exact absurd rfl ho
  | dropClone => rw [operate, owners_release]
  | dropGuard =>
      rw [operate, owners_release]
      show p.stop.owners.main = _
      rw [owners_stop]

theorem main_perform (p : Poller) (paused : Bool) (now : Nat) {d : Deed}
    (hd : d ≠ .operate .dropMain) : (p.perform paused now d).owners.main = p.owners.main := by
  cases d with
  | operate o =>
      rw [perform]
      split
      next => exact p.main_operate paused now fun ho => hd (congrArg Deed.operate ho)
      next => rfl
  | ask =>
      rw [perform]
      split <;> rfl
  | ring k => rw [perform, owners_ring]
  | accept run seq status =>
      rcases p.owners_accept run seq status with hSame | hOpened
      · rw [perform, hSame]
      · rw [perform, hOpened]
        rfl
  | fail run error => rw [perform, owners_fail]
  | conclude run current previous =>
      rw [perform, owners_conclude]
      rfl

theorem Manned.perform (h : p.Manned) (paused : Bool) (now : Nat) {d : Deed}
    (hd : d ≠ .operate .dropMain) : (p.perform paused now d).Manned where
  main := (p.main_perform paused now hd).trans h.main
  callback := by
    rw [(p.alike_perform paused now d).callback]
    exact h.callback

/-- What can be done with any handle can be done. -/
theorem Manned.held (h : p.Manned) : p.owners.held = true := by
  rw [Owners.held, h.main]
  rfl

end Poller

namespace Fleet

variable {ω : Type} {s s' : Fleet ω} {i : Nat}

/-- All pollers are manned. -/
def Manned (s : Fleet ω) : Prop := ∀ p ∈ s.pollers, p.Manned

theorem Manned.congr (h : s.Manned) (hSame : s'.pollers = s.pollers) : s'.Manned := by
  rw [Manned, hSame]
  exact h

theorem Manned.does (h : s.Manned) {f : Poller → Poller} {g : Poller → List Purpose}
    (hDoes : s.Does s' i f g) (hf : ∀ p : Poller, p.Manned → (f p).Manned) : s'.Manned := by
  intro q hq
  obtain ⟨j, hj⟩ := List.getElem?_of_mem hq
  rw [hDoes.getElem? j, Option.map_eq_some_iff] at hj
  obtain ⟨p, hp, rfl⟩ := hj
  have hManned := h p (List.mem_of_getElem? hp)
  split
  next => exact hf p hManned
  next => exact hManned

/-- Everything that takes any handle can be done with a poller that is there. -/
theorem Manned.allows (h : s.Manned) {o : Operation} (ho : o.Common)
    (hi : i < s.pollers.length) : s.allows i o = true := by
  have hp := List.getElem?_eq_getElem hi
  rw [allows_eq hp, ho]
  exact (h _ (List.getElem_mem hi)).held

section Work

variable [FetchSource ω]

/-- A poller that is there can be asked to fetch out of turn. -/
theorem Manned.ask_eq (h : s.Manned) (hi : i < s.pollers.length) :
    s.ask i = (s.callFetch i).2.launch .direct (s.callFetch i).1 := by
  rw [ask, if_pos (h.allows (fun _ => rfl) hi)]

/-- Nothing can be done to a poller that is not there. -/
theorem carryOut_of_none (hNone : s.pollers[i]? = none) (o : Operation) : s.carryOut i o = s := by
  have hModify : ∀ f : Poller → Poller, s.modify i f = s := fun f => by
    rw [modify, Polling.modify_of_none hNone]
  have hStart : s.start i = s := by rw [start, hNone]
  have hStop : s.stop i = s := by rw [stop, hNone]
  cases o with
  | start => exact hStart
  | stop => exact hStop
  | enterActive => rw [Fleet.carryOut, enterActive, hNone]
  | exitActive => rw [Fleet.carryOut, exitActive, hNone]
  | clone => exact hModify _
  | guard => rw [Fleet.carryOut, guard, hStart, hModify]
  | dropMain => rw [Fleet.carryOut, dropMain, hModify, release, hModify]
  | dropClone => rw [Fleet.carryOut, dropClone, hModify, release, hModify]
  | dropGuard => rw [Fleet.carryOut, dropGuard, hStop, hModify, release, hModify]

theorem Manned.ask (h : s.Manned) (i : Nat) : (s.ask i).Manned :=
  h.does (s.does_ask i) fun _ hp => hp.perform _ _ (d := .ask) nofun

theorem Manned.carryOut (h : s.Manned) {o : Operation} (ho : o.Common) (i : Nat) :
    (s.carryOut i o).Manned := by
  refine h.does (s.does_carryOut i o) fun p hp => ?_
  have hPerform := hp.perform s.gate.paused s.now (d := .operate o)
    fun hSame => ho.keeps (Deed.operate.inj hSame)
  rw [Poller.perform, ho, if_pos hp.held] at hPerform
  exact hPerform

theorem Manned.whileOwned (h : s.Manned) {o : Operation} (ho : o.Common) (i : Nat) :
    (react.whileOwned s i fun s i => s.carryOut i o).Manned := by
  unfold react.whileOwned
  split
  next => exact h.carryOut ho i
  next => exact h

theorem Manned.react (h : s.Manned) (i : Nat) (current previous : String) {x : Reaction}
    (hx : x ≠ .drop) : (s.react i current previous x).Manned := by
  cases x with
  | start => exact h.whileOwned (o := .start) (fun _ => rfl) i
  | stop => exact h.whileOwned (o := .stop) (fun _ => rfl) i
  | enterActive => exact h.whileOwned (o := .enterActive) (fun _ => rfl) i
  | exitActive => exact h.whileOwned (o := .exitActive) (fun _ => rfl) i
  | drop => exact absurd rfl hx
  | signal x => exact h.congr rfl
  | announce server => exact h.congr rfl

theorem Manned.consult (h : s.Manned) (r : Report) : (s.consult r).Manned := by
  have hNoDrop : .drop ∉ (s.pollers[r.poller]?.bind Poller.callback).getD [] := by
    cases hp : s.pollers[r.poller]? with
    | none => exact nofun
    | some p => exact (h p (List.mem_of_getElem? hp)).callback
  unfold Fleet.consult
  generalize (s.pollers[r.poller]?.bind Poller.callback).getD [] = reactions at hNoDrop
  induction reactions generalizing s with
  | nil => exact h
  | cons x rest ih =>
      rw [List.mem_cons, not_or] at hNoDrop
      exact ih (h.react r.poller r.current r.previous (Ne.symm hNoDrop.1)) hNoDrop.2

omit [FetchSource ω] in
theorem Manned.deliver (h : s.Manned) (f : Flight) : (s.deliver f).1.Manned := by
  have hEffects : (f.effects.foldl effect s).Manned := h.congr (effects_frame f.effects s).1
  unfold Fleet.deliver
  cases f.purpose with
  | direct => exact hEffects
  | tick i run seq =>
      cases f.result with
      | ok status =>
          exact hEffects.does (does_accept _ i run seq status)
            fun p hp => hp.perform true 0 (d := .accept run seq status) nofun
      | error text =>
          exact hEffects.does (does_fail _ i run text)
            fun p hp => hp.perform true 0 (d := .fail run text) nofun

theorem Manned.land (h : s.Manned) (f : Flight) : (s.land f).Manned := by
  have hDelivered := h.deliver f
  unfold Fleet.land
  split
  next s₁ hLanded =>
    rw [hLanded] at hDelivered
    exact hDelivered
  next s₁ r hLanded =>
    rw [hLanded] at hDelivered
    exact (hDelivered.consult r).does (does_conclude _ r) fun p hp =>
      hp.perform true _ (d := .conclude r.run r.current r.previous) nofun

/-- **Work that falls due** leaves all pollers manned. -/
theorem Manned.work (h : s.Manned) (w : Work) : (s.work w).Manned := by
  cases w with
  | gate =>
      refine h.congr ?_
      rw [Fleet.work]
      cases s.gate.fire? s.now <;> rfl
  | timer i =>
      rcases s.work_timer i with hSame | ⟨k, hRing⟩
      · rw [hSame]
        exact h
      · rw [hRing]
        exact h.does (s.does_ring i k) fun p hp =>
          hp.perform _ _ (d := .ring k) fun hSame => by cases hSame
  | flight k =>
      rw [Fleet.work]
      split
      next => exact h
      next f _ =>
        have hOthers : ({ s with flights := s.flights.eraseIdx k } : Fleet ω).Manned := h.congr rfl
        exact hOthers.land f

theorem Manned.runTo (h : s.Manned) (target ms : Nat) : (s.runTo target ms).Manned := by
  have hRun : (exhaust (step? target) (s.budget ms) s).Manned := by
    refine exhaust_induction (P := Manned) (fun s' s'' hManned hStep => ?_) _ s h
    unfold step? at hStep
    split at hStep
    next => cases hStep
    next due w _ =>
      split at hStep
      next =>
        obtain rfl := Option.some.inj hStep
        have hLater : ({ s' with now := max s'.now due } : Fleet ω).Manned := hManned.congr rfl
        exact hLater.work w
      next => cases hStep
  exact hRun.congr rfl

end Work

end Fleet

/-- Nothing but giving up a main handle takes it. -/
theorem Scene.manned_move {ω : Type} [FetchSource ω] {s : Scene ω} (h : s.fleet.Manned)
    {m : Move ω} (hKept : ∀ i, m ≠ .operate i .dropMain) : (s.move m).fleet.Manned := by
  intro q hq
  obtain ⟨j, hj⟩ := List.getElem?_of_mem hq
  rw [getElem?_move, Option.map_eq_some_iff] at hj
  obtain ⟨p, hp, rfl⟩ := hj
  have hManned := h p (List.mem_of_getElem? hp)
  rcases s.turn_cases m j p with hSame | ⟨d, hDeed, hTurn⟩
  · rw [hSame]
    exact hManned
  · rw [hTurn]
    refine hManned.perform _ _ ?_
    rintro rfl
    cases meets_of_deed hDeed with
    | operate o => exact hKept j rfl

end Lookout.Polling
