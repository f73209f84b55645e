import Lookout.Polling.Session
import Lookout.Proofs.Polling.Armed

set_option autoImplicit false

/-! # A fleet at work makes a run

`Scene.after` takes moves in any order. A fleet at work takes them in one: it does what
falls due at its time, lets callbacks do what they do as soon as they are told, and does the
commands it is given in between. `session_reaches` says that all of this is made of moves,
so what holds after every list of moves holds of every fleet that a session goes through.

Such runs are prompt (`Scene.Prompt`): nothing falls due while a callback is at work. And nobody
from outside calls in (`Move.isTraffic`): all fetches are those of pollers.

A callback acts through the main handle, and can give up no other. So the rest of those who
own a poller (`Poller.others`) are the same before and after the work that falls due, which
is why the handle that `pollNow` takes is still there when it is given back.
-/

namespace Lookout

namespace Polling

/-- Whether a move is something that falls due with time, and not something that is done. -/
def Move.fallsDue {ω : Type} : Move ω → Bool
  | .pass _ | .resume | .ring .. | .land _ => true
  | .operate .. | .ask _ | .call .. | .signal _ | .note _ | .conclude _ => false

/-- Whether a move is one of those outside who fetch for themselves: a call of theirs, or an entry
that counts an answer to one. -/
def Move.isTraffic {ω : Type} : Move ω → Bool
  | .call .. | .note (.bump (.response _)) => true
  | _ => false

namespace Scene

variable {ω : Type} [FetchSource ω]

/-- Callbacks take no time: nothing falls due while a report is open. -/
def Prompt (s : Scene ω) : List (Move ω) → Prop
  | [] => True
  | m :: past => s.Prompt past ∧ (m.fallsDue = true → (s.after past).reports = [])

theorem Prompt.append {s : Scene ω} {later past : List (Move ω)}
    (hLater : (s.after past).Prompt later) (hPast : s.Prompt past) : s.Prompt (later ++ past) := by
  induction later with
  | nil => exact hPast
  | cons m later ih =>
      refine ⟨ih hLater.1, fun hDue => ?_⟩
      show (s.after (later ++ past)).reports = []
      rw [after_append]
      exact hLater.2 hDue

/-- Some list of moves leads from `s` to `t`, promptly and without any traffic. -/
def Reaches (s t : Scene ω) : Prop :=
  ∃ moves, s.Prompt moves ∧ (∀ m ∈ moves, m.isTraffic = false) ∧ s.after moves = t

theorem Reaches.refl (s : Scene ω) : s.Reaches s := ⟨[], trivial, nofun, rfl⟩

theorem Reaches.move (s : Scene ω) (m : Move ω) (hDue : m.fallsDue = false ∨ s.reports = [])
    (hPlain : m.isTraffic = false) : s.Reaches (s.move m) := by
  refine ⟨[m], ⟨trivial, fun hFalls => ?_⟩, fun m' hm' => ?_, rfl⟩
  · exact hDue.resolve_left (ne_true_of_eq_false · hFalls)
  · rw [List.mem_singleton.mp hm']
    exact hPlain

theorem Reaches.trans {s t u : Scene ω} (h : s.Reaches t) (h' : t.Reaches u) : s.Reaches u := by
  obtain ⟨past, hPast, hPlain, rfl⟩ := h
  obtain ⟨later, hLater, hPlain', rfl⟩ := h'
  refine ⟨later ++ past, hLater.append hPast, fun m hm => ?_, after_append s later past⟩
  rcases List.mem_append.mp hm with hm | hm
  · exact hPlain' m hm
  · exact hPlain m hm

end Scene

/-! ## Who owns a poller besides the holder of its main handle -/

/-- One more report of changes is open. -/
def Owners.openReport (o : Owners) : Owners := { o with reports := o.reports + 1 }

/-- One report of changes less is open. -/
def Owners.closeReport (o : Owners) : Owners := { o with reports := o.reports - 1 }

namespace Poller

/-- All owners of a poller but the holder of its main handle. -/
def others (p : Poller) : Owners := { p.owners with main := true }

theorem others_congr {p q : Poller} (h : q.owners = p.owners) : q.others = p.others :=
  congrArg (fun o : Owners => { o with main := true }) h

variable (p : Poller) (paused : Bool) (now : Nat)

theorem owners_release : p.release.owners = p.owners := by
  unfold release
  split <;> rfl

theorem owners_start : (p.start paused now).owners = p.owners := by
  unfold start
  split
  next => rfl
  next => exact p.beginRun.owners_tick paused now

theorem owners_stop : p.stop.owners = p.owners := by
  unfold stop
  split <;> rfl

theorem owners_exitActive : (p.exitActive now).owners = p.owners := by
  unfold exitActive
  split <;> rfl

theorem owners_fail (run : Nat) (error : String) : (p.fail run error).owners = p.owners := by
  unfold fail
  split <;> rfl

theorem owners_conclude (run : Nat) (current previous : String) :
    (p.conclude now run current previous).owners = p.owners.closeReport := by
  rw [conclude, owners_release]
  split <;> rfl

/-- What is done with a handle leaves the reports open that are. -/
theorem reports_operate (o : Operation) :
    (p.operate paused now o).owners.reports = p.owners.reports := by
  cases o with
  | start => rw [operate, owners_start]
  | stop => rw [operate, owners_stop]
  | enterActive =>
      show (p.start paused now).owners.reports = _
      rw [owners_start]
  | exitActive => rw [operate, owners_exitActive]
  | clone => rfl
  | guard =>
      show (p.start paused now).owners.reports = _
      rw [owners_start]
  | dropMain => rw [operate, owners_release]
  | dropClone => rw [operate, owners_release]
  | dropGuard =>
      rw [operate, owners_release]
      show p.stop.owners.reports = _
      rw [owners_stop]

end Poller

namespace Fleet

variable {ω : Type}

/-- The owners of all pollers, but for the holders of main handles. -/
def others (s : Fleet ω) : List Owners := s.pollers.map Poller.others

/-- What is done to one poller changes the others of that poller at most. -/
theorem Does.others_eq {s s' : Fleet ω} {i : Nat} {f : Poller → Poller}
    {g : Poller → List Purpose} (h : s.Does s' i f g) (change : Owners → Owners)
    (hChange : ∀ p, s.pollers[i]? = some p → (f p).others = change p.others) :
    s'.others = s.others.modify i change := by
  apply List.ext_getElem?
  intro j
  rw [others, List.getElem?_map, h.getElem? j, List.getElem?_modify, others, List.getElem?_map]
  cases hp : s.pollers[j]? with
  | none => rfl
  | some p =>
      by_cases hj : i = j
      · subst hj
        simp [hChange p hp]
      · simp [hj]

/-- If the owners of the poller are the same, so are all. -/
theorem Does.others_same {s s' : Fleet ω} {i : Nat} {f : Poller → Poller}
    {g : Poller → List Purpose} (h : s.Does s' i f g) (hSame : ∀ p, (f p).others = p.others) :
    s'.others = s.others :=
  (h.others_eq id fun p _ => hSame p).trans (List.modify_id i s.others)

/-- No report is open. -/
def Calm (s : Fleet ω) : Prop := ∀ o ∈ s.others, o.reports = 0

/-- While no report is open, a poller exists as long as somebody has a handle of it. -/
theorem Calm.held {s : Fleet ω} (h : s.Calm) {i : Nat} {p : Poller} (hp : s.pollers[i]? = some p)
    (hAlive : p.alive = true) : p.owners.held = true := by
  have hNone : p.owners.reports = 0 := h p.others (List.mem_map_of_mem (List.mem_of_getElem? hp))
  rw [Poller.alive, Owners.any, hNone] at hAlive
  simpa using hAlive

/-- A success leaves a report open exactly if it hands one over. -/
theorem others_accept (s : Fleet ω) (i run seq : Nat) (status : Option String) :
    (s.accept i run seq status).1.others
      = ((s.accept i run seq status).2.map fun r =>
          s.others.modify r.poller Owners.openReport).getD s.others := by
  have hDoes := s.does_accept i run seq status
  unfold accept at hDoes ⊢
  split
  next => rfl
  next p hp =>
    simp only [hp] at hDoes
    split
    next => rfl
    next hMeant =>
      split
      next => rfl
      next hNew =>
        dsimp only
        simp only [if_neg hMeant, if_neg hNew] at hDoes
        split
        next hSame =>
          rw [hSame] at hDoes
          refine (hDoes.others_eq id fun q hq => ?_).trans (List.modify_id _ _)
          obtain rfl := Option.some.inj (hp.symm.trans hq)
          simp only [Poller.accept, if_neg hMeant, if_neg hNew, hSame]
          rfl
        next current previous hChange =>
          rw [hChange] at hDoes
          refine hDoes.others_eq Owners.openReport fun q hq => ?_
          obtain rfl := Option.some.inj (hp.symm.trans hq)
          simp only [Poller.accept, if_neg hMeant, if_neg hNew, hChange]
          rfl

/-- The landing of a fetch leaves a report open exactly if it hands one over. -/
theorem others_deliver (s : Fleet ω) (f : Flight) :
    (s.deliver f).1.others
      = ((s.deliver f).2.map fun r =>
          s.others.modify r.poller Owners.openReport).getD s.others := by
  have hEffects : (f.effects.foldl effect s).others = s.others :=
    congrArg (List.map Poller.others) (effects_frame f.effects s).1
  unfold deliver
  cases f.purpose with
  | direct => exact hEffects
  | tick i run seq =>
      cases f.result with
      | ok status =>
          dsimp only
          rw [others_accept, hEffects]
      | error text =>
          have hFail := (does_fail (f.effects.foldl effect s) i run text).others_same fun p =>
            Poller.others_congr (p.owners_fail run text)
          exact hFail.trans hEffects

/-- The end of a report closes it. -/
theorem others_conclude (s : Fleet ω) (r : Report) :
    (s.conclude r).others = s.others.modify r.poller Owners.closeReport := by
  refine (s.does_conclude r).others_eq Owners.closeReport fun p _ => ?_
  rw [Poller.others, Poller.owners_conclude]
  rfl

end Fleet

/-! ## Callbacks -/

namespace Fleet

variable {ω : Type} [FetchSource ω]

/-- A run leads from `s` to `s'`, with the same `reports` open at both ends, and leaves all
owners but the holders of main handles as they are. -/
structure Leads (reports : List Report) (s s' : Fleet ω) : Prop where
  run : (Scene.mk s reports).Reaches ⟨s', reports⟩
  others : s'.others = s.others

/-- A run leads from `s` to `s'` that takes no time. -/
structure AtOnce (reports : List Report) (s s' : Fleet ω) : Prop extends s.Leads reports s' where
  now : s'.now = s.now

variable {reports : List Report}

theorem Leads.refl (s : Fleet ω) : s.Leads reports s := ⟨.refl _, rfl⟩

theorem Leads.trans {s₁ s₂ s₃ : Fleet ω} (h : s₁.Leads reports s₂) (h' : s₂.Leads reports s₃) :
    s₁.Leads reports s₃ :=
  ⟨h.run.trans h'.run, h'.others.trans h.others⟩

theorem AtOnce.refl (s : Fleet ω) : s.AtOnce reports s := ⟨.refl s, rfl⟩

theorem AtOnce.trans {s₁ s₂ s₃ : Fleet ω} (h : s₁.AtOnce reports s₂)
    (h' : s₂.AtOnce reports s₃) : s₁.AtOnce reports s₃ :=
  ⟨h.toLeads.trans h'.toLeads, h'.now.trans h.now⟩

/-- A move that does something to one poller, and leaves its owners but for that of the main
handle as they are. -/
theorem Does.atOnce {s s' : Fleet ω} {i : Nat} {f : Poller → Poller} {g : Poller → List Purpose}
    (h : s.Does s' i f g) (hOthers : ∀ p, (f p).others = p.others) (m : Move ω)
    (hMove : (Scene.mk s reports).move m = ⟨s', reports⟩)
    (hDue : m.fallsDue = false ∨ reports = []) (hPlain : m.isTraffic = false) :
    s.AtOnce reports s' where
  run := hMove ▸ .move _ m hDue hPlain
  others := h.others_same hOthers
  now := h.now

theorem Leads.calm {s s' : Fleet ω} (h : s.Leads reports s') (hCalm : s.Calm) : s'.Calm := by
  rw [Calm, h.others]
  exact hCalm

/-- Something that is done with the main handle while that is there, and leaves the owners as
they are. -/
theorem atOnce_whileOwned (s : Fleet ω) (i : Nat) (o : Operation)
    (hAllowed : ∀ owners : Owners, o.allowed owners = owners.held)
    (hOwners : ∀ p : Poller, (p.operate s.gate.paused s.now o).owners = p.owners) :
    s.AtOnce reports (react.whileOwned s i fun s i => s.carryOut i o) := by
  unfold react.whileOwned
  split
  next hMain =>
    have hAllows : s.allows i o = true := by
      cases hp : s.pollers[i]? with
      | none => simp [hp] at hMain
      | some p =>
          have hHeld : p.owners.main = true := by simpa [hp] using hMain
          rw [allows_eq hp, hAllowed, Owners.held, hHeld]
          rfl
    refine (s.does_carryOut i o).atOnce (fun p => Poller.others_congr (hOwners p))
      (.operate i o) ?_ (.inl rfl) rfl
    rw [Scene.move, operate, if_pos hAllows]
  next => exact .refl s

/-- The main handle is given up while a report is open, which keeps the poller alive. -/
theorem atOnce_dropMain {s : Fleet ω} {i : Nat}
    (hOpen : ∀ o, s.others[i]? = some o → 0 < o.reports) : s.AtOnce reports (s.dropMain i) := by
  cases hp : s.pollers[i]? with
  | none =>
      have hSame : s.dropMain i = s := by
        rw [dropMain, modify, modify_of_none hp]
      rw [hSame]
      exact .refl s
  | some p =>
      have hReports : 0 < p.owners.reports := by
        refine hOpen p.others ?_
        rw [others, List.getElem?_map, hp]
        rfl
      -- Given up a second time, nothing happens; and the poller is not gone, since its report
      -- is open.
      cases hMain : p.owners.main with
      | false =>
          have hFixed : { p with owners := { p.owners with main := false } } = p := by
            rw [← hMain]
          have hSame : s.dropMain i = s := by
            rw [dropMain, modify, modify_of_fixed hp hFixed]
          rw [hSame]
          exact .refl s
      | true =>
          have hAllows : s.allows i .dropMain = true := (allows_eq hp _).trans hMain
          have hAlive : ({ p with owners := { p.owners with main := false } } : Poller).alive
              = true :=
            Bool.or_eq_true_iff.mpr (.inr (decide_eq_true hReports))
          have hDropped : (s.dropMain i).pollers[i]?
              = some { p with owners := { p.owners with main := false } } := by
            rw [dropMain, modify, List.getElem?_modify_eq, hp]
            rfl
          have hKept : (s.dropMain i).release i = s.dropMain i := by
            have hStays := modify_of_fixed hDropped (Poller.release_of_alive hAlive)
            rw [release, modify, hStays]
          refine (s.does_modify i _).atOnce (fun _ => rfl) (.operate i .dropMain) ?_ (.inl rfl) rfl
          rw [Scene.move, operate, if_pos hAllows, carryOut, hKept]
          rfl

/-- **One thing a callback does** is a move, or nothing. -/
theorem atOnce_react {s : Fleet ω} {i : Nat}
    (hOpen : ∀ o, s.others[i]? = some o → 0 < o.reports) (current previous : String)
    (x : Reaction) : s.AtOnce reports (s.react i current previous x) := by
  cases x with
  | start => exact s.atOnce_whileOwned i .start (fun _ => rfl) fun p => p.owners_start _ _
  | stop => exact s.atOnce_whileOwned i .stop (fun _ => rfl) fun p => p.owners_stop
  | enterActive =>
      exact s.atOnce_whileOwned i .enterActive (fun _ => rfl) fun p => p.owners_start _ _
  | exitActive =>
      exact s.atOnce_whileOwned i .exitActive (fun _ => rfl) fun p => p.owners_exitActive _
  | drop => exact atOnce_dropMain hOpen
  | signal x => exact ⟨⟨.move _ (.signal x) (.inl rfl) rfl, rfl⟩, rfl⟩
  | announce server =>
      let line := Journal.Line.serverChanged server previous current
      exact ⟨⟨.move _ (.note (.line line)) (.inl rfl) rfl, rfl⟩, rfl⟩

/-- **What a callback does** is made of moves. -/
theorem atOnce_consult {s : Fleet ω} {r : Report}
    (hOpen : ∀ o, s.others[r.poller]? = some o → 0 < o.reports) :
    s.AtOnce reports (s.consult r) := by
  unfold consult
  generalize ((s.pollers[r.poller]?.bind Poller.callback).getD []) = reactions
  induction reactions generalizing s with
  | nil => exact .refl s
  | cons x rest ih =>
      -- The report stays open whatever the callback does, which is what `hOpen` says.
      have hOne : s.AtOnce reports (s.react r.poller r.current r.previous x) :=
        atOnce_react hOpen r.current r.previous x
      refine hOne.trans (ih ?_)
      rw [hOne.others]
      exact hOpen

/-- **The landing of a fetch with all that comes of it**: its effects, its result, and what the
callback does while the change is reported. -/
theorem atOnce_land (s : Fleet ω) {k : Nat} {f : Flight} (hf : s.flights[k]? = some f) :
    s.AtOnce [] (({ s with flights := s.flights.eraseIdx k }).land f) := by
  have hOthers := others_deliver { s with flights := s.flights.eraseIdx k } f
  have hNow := now_deliver { s with flights := s.flights.eraseIdx k } f
  have hMove : (Scene.mk s []).move (.land k)
      = ⟨({ s with flights := s.flights.eraseIdx k }.deliver f).1,
        ({ s with flights := s.flights.eraseIdx k }.deliver f).2.toList⟩ := by
    rw [Scene.move, hf]
    rfl
  have hLands := Scene.Reaches.move (Scene.mk s []) (.land k) (.inr rfl) rfl
  rw [hMove] at hLands
  rw [land]
  cases hDeliver : ({ s with flights := s.flights.eraseIdx k }).deliver f with
  | mk s₁ report =>
      rw [hDeliver] at hLands hOthers hNow
      cases report with
      | none => exact ⟨⟨hLands, hOthers⟩, hNow⟩
      | some r =>
          have hOpened : s₁.others = s.others.modify r.poller Owners.openReport := hOthers
          have hConsult : s₁.AtOnce [r] (s₁.consult r) := by
            refine atOnce_consult fun o ho => ?_
            rw [hOpened, List.getElem?_modify_eq] at ho
            obtain ⟨o', -, rfl⟩ := Option.map_eq_some_iff.mp ho
            exact Nat.succ_pos _
          have hConclude := Scene.Reaches.move (Scene.mk (s₁.consult r) [r]) (.conclude 0)
            (.inl rfl) rfl
          refine ⟨⟨(hLands.trans hConsult.run).trans hConclude, ?_⟩, ?_⟩
          · dsimp only
            rw [others_conclude, hConsult.others, hOpened, List.modify_modify_eq]
            exact List.modify_id r.poller s.others
          · calc ((s₁.consult r).conclude r).now
                = (s₁.consult r).now := (does_conclude _ r).now
              _ = s₁.now := hConsult.now
              _ = s.now := hNow

end Fleet

/-! ## Time -/

end Polling

namespace Timers

variable {α : Type}

theorem mem_of_earliest {l : List (Timer α)} {x : Timer α} (h : earliest l = some x) : x ∈ l := by
  induction l generalizing x with
  | nil => cases h
  | cons y rest ih =>
      rw [earliest] at h
      split at h
      next =>
        obtain rfl := Option.some.inj h
        exact List.mem_cons_self
      next z hz =>
        split at h
        next =>
          obtain rfl := Option.some.inj h
          exact List.mem_cons_of_mem y (ih hz)
        next =>
          obtain rfl := Option.some.inj h
          exact List.mem_cons_self

/-- What fires is one of the live timers, and it is due. -/
theorem exists_of_fire? {t t' : Timers α} {now : Nat} {a : α} (h : t.fire? now = some (a, t')) :
    ∃ (k : Nat) (x : Timer α), t.live[k]? = some x ∧ x.deadline ≤ now ∧ a = x.action ∧
      t' = t.afterFiring x now := by
  unfold fire? at h
  split at h
  next => cases h
  next x hNext =>
    split at h
    next hDue =>
      obtain ⟨rfl, rfl⟩ := Prod.mk.inj (Option.some.inj h)
      obtain ⟨k, hk⟩ := List.getElem?_of_mem (mem_of_earliest hNext)
      exact ⟨k, x, hk, hDue, rfl, rfl⟩
    next => cases h

end Timers

namespace Polling

namespace Fleet

variable {ω : Type} [FetchSource ω]

/-- The timer of a poller that is due first fires like any other that is due. -/
theorem work_timer (s : Fleet ω) (i : Nat) :
    s.work (.timer i) = s ∨ ∃ k, s.work (.timer i) = s.ring i k := by
  unfold work
  dsimp only
  cases hp : s.pollers[i]? with
  | none => exact .inl rfl
  | some p =>
      rw [Option.bind_some]
      cases hFire : p.timers.fire? s.now with
      | none => exact .inl rfl
      | some fired =>
          obtain ⟨alarm, timers⟩ := fired
          obtain ⟨k, t, hLive, hDue, rfl, rfl⟩ := Timers.exists_of_fire? hFire
          refine .inr ⟨k, ?_⟩
          simp only [ring, hp, hLive, if_pos hDue]
          have hSame : (s.modify i fun q => { q with timers := p.timers.afterFiring t s.now })
              = s.modify i fun q => { q with timers := q.timers.afterFiring t s.now } := by
            rw [modify, modify_congr fun q hq => ?_, ← modify]
            obtain rfl := Option.some.inj (hp.symm.trans hq)
            rfl
          rw [hSame]

/-- **A piece of work** is made of moves. -/
theorem atOnce_work (s : Fleet ω) (w : Work) : s.AtOnce [] (s.work w) := by
  cases w with
  | gate =>
      refine ⟨⟨.move _ .resume (.inr rfl) rfl, ?_⟩, ?_⟩
      · rw [work]
        cases s.gate.fire? s.now <;> rfl
      · rw [work]
        cases s.gate.fire? s.now <;> rfl
  | timer i =>
      rcases s.work_timer i with hSame | ⟨k, hRing⟩
      · rw [hSame]
        exact .refl s
      · rw [hRing]
        exact (s.does_ring i k).atOnce (fun p => Poller.others_congr (p.owners_ring _ _ k))
          (.ring i k) rfl (.inr rfl) rfl
  | flight k =>
      rw [work]
      split
      next => exact .refl s
      next f hf => exact s.atOnce_land hf

/-- The clock goes on. -/
theorem leads_pass (s : Fleet ω) {target : Nat} (h : s.now ≤ target) :
    s.Leads [] { s with now := target } := by
  have hRun := Scene.Reaches.move (Scene.mk s []) (.pass (target - s.now)) (.inr rfl) rfl
  rw [Scene.move, Nat.add_sub_cancel' h] at hRun
  exact ⟨hRun, rfl⟩

/-- **The work that is due first**, at its time. It is not done after `target`. -/
theorem leads_step {s s' : Fleet ω} {target : Nat} (hNow : s.now ≤ target)
    (h : s.step? target = some s') : s.Leads [] s' ∧ s'.now ≤ target := by
  unfold step? at h
  split at h
  next => cases h
  next due w _ =>
    split at h
    next hDue =>
      obtain rfl := Option.some.inj h
      have hLate : max s.now due ≤ target := Nat.max_le.mpr ⟨hNow, hDue⟩
      have hWork := atOnce_work { s with now := max s.now due } w
      refine ⟨(s.leads_pass (Nat.le_max_left s.now due)).trans hWork.toLeads, ?_⟩
      calc (work { s with now := max s.now due } w).now
          = max s.now due := hWork.now
        _ ≤ target := hLate
    next => cases h

/-- Some of the work due by a time. -/
theorem leads_exhaust (s : Fleet ω) {target : Nat} (hNow : s.now ≤ target) (budget : Nat) :
    s.Leads [] (exhaust (step? target) budget s) ∧
      (exhaust (step? target) budget s).now ≤ target :=
  exhaust_induction (P := fun s' => s.Leads [] s' ∧ s'.now ≤ target)
    (fun s' s'' h hStep => by
      obtain ⟨hNext, hBy⟩ := leads_step h.2 hStep
      exact ⟨h.1.trans hNext, hBy⟩)
    budget s ⟨.refl s, hNow⟩

/-- **All work due by a time** is made of moves. -/
theorem leads_runTo (s : Fleet ω) {target : Nat} (hNow : s.now ≤ target) (ms : Nat) :
    s.Leads [] (s.runTo target ms) := by
  obtain ⟨hRun, hBy⟩ := s.leads_exhaust hNow (s.budget ms)
  exact hRun.trans (leads_pass _ hBy)

theorem leads_settle (s : Fleet ω) : s.Leads [] s.settle := s.leads_runTo (Nat.le_refl _) 0

theorem leads_advance (s : Fleet ω) (ms : Nat) : s.Leads [] (s.advance ms) :=
  s.leads_runTo (Nat.le_add_right _ _) ms

theorem leads_jump (s : Fleet ω) (ms : Nat) : s.Leads [] (s.jump ms) :=
  (s.leads_pass (Nat.le_add_right _ _)).trans (leads_runTo _ (Nat.le_refl _) ms)

/-! ### Fetches that take no time -/

/-- Nothing is due. -/
def AtRest (s : Fleet ω) : Prop := ∀ x ∈ s.agenda, s.now < x.1

omit [FetchSource ω] in
/-- Without a timer or a fetch in flight, nothing is due. -/
theorem atRest_of_nothing {s : Fleet ω} (hGate : s.gate.due? = none)
    (hTimers : ∀ p ∈ s.pollers, p.timers.due? = none) (hFlights : s.flights = []) :
    s.AtRest := by
  have hPollers : s.pollers.zipIdx.filterMap
      (fun x => x.1.timers.due?.map fun t => (t, Work.timer x.2)) = [] := by
    refine List.filterMap_eq_nil_iff.mpr fun x hx => ?_
    exact Option.map_eq_none_iff.mpr (hTimers x.1 (List.fst_mem_of_mem_zipIdx hx))
  have hNothing : s.agenda = [] := by
    show _ ++ s.pollers.zipIdx.filterMap
      (fun x => x.1.timers.due?.map fun t => (t, Work.timer x.2)) ++ _ = []
    rw [hGate, hPollers, hFlights]
    rfl
  intro x hx
  rw [hNothing] at hx
  cases hx

/-- What is due before everything else comes first. -/
theorem earliest_append {l : List (Nat × Work)} {x : Nat × Work} (h : ∀ y ∈ l, x.1 < y.1) :
    earliest (l ++ [x]) = some x := by
  induction l with
  | nil => rfl
  | cons y l ih =>
      rw [List.cons_append, earliest, ih fun z hz => h z (List.mem_cons_of_mem y hz)]
      exact if_pos (h y List.mem_cons_self)

/-- What changes no timers of a poller changes nothing that will fall due. -/
theorem agenda_modify {ω : Type} (s : Fleet ω) (i : Nat) {f : Poller → Poller}
    (hTimers : ∀ p, (f p).timers = p.timers) : (s.modify i f).agenda = s.agenda := by
  have hByTimers : ∀ l : List Poller,
      l.zipIdx.filterMap (fun x => x.1.timers.due?.map fun t => (t, Work.timer x.2))
        = (l.map Poller.timers).zipIdx.filterMap
          fun x => x.1.due?.map fun t => (t, Work.timer x.2) := by
    intro l
    rw [List.zipIdx_map, List.filterMap_map]
    rfl
  have hSame : (s.pollers.modify i f).map Poller.timers = s.pollers.map Poller.timers := by
    refine List.ext_getElem? fun j => ?_
    rw [List.getElem?_map, List.getElem?_map, List.getElem?_modify]
    cases s.pollers[j]? with
    | none => rfl
    | some p => by_cases hj : i = j <;> simp [hj, hTimers]
  show _ ++ (s.pollers.modify i f).zipIdx.filterMap
    (fun x => x.1.timers.due?.map fun t => (t, Work.timer x.2)) ++ _ = _
  rw [hByTimers, hSame, ← hByTimers]
  rfl

theorem callFetch_fst (s : Fleet ω) (i : Nat) :
    (s.callFetch i).1 = (FetchSource.fetch s.source i).1 := rfl

theorem AtRest.callFetch {s : Fleet ω} (h : s.AtRest) (i : Nat) : (s.callFetch i).2.AtRest := by
  have hSame := agenda_modify { s with source := (FetchSource.fetch s.source i).2 } i
    (f := (·.noteFetch s.now)) fun _ => rfl
  intro x hx
  exact h x (hSame ▸ hx)

/-- A fetch from outside that takes no time lands first if nothing else is due. -/
theorem exists_await {s : Fleet ω} (h : s.AtRest) {f : Fetch} (hf : f.duration = 0) :
    ∃ n, s.await f = { exhaust (step? s.now) n
      ((s.launch .direct f).work (.flight s.flights.length)) with now := s.now } := by
  have hFirst : earliest (s.launch .direct f).agenda = some (s.now, .flight s.flights.length) := by
    have hAgenda : (s.launch .direct f).agenda
        = s.agenda ++ [(s.now, .flight s.flights.length)] := by
      simp [agenda, launch, List.zipIdx_append, hf]
    rw [hAgenda]
    exact earliest_append h
  have hStep : step? s.now (s.launch .direct f)
      = some ((s.launch .direct f).work (.flight s.flights.length)) := by
    have hSame : ({ s.launch .direct f with now := max s.now s.now } : Fleet ω)
        = s.launch .direct f := by
      rw [Nat.max_self]
      rfl
    rw [step?, hFirst]
    dsimp only
    rw [if_pos (Nat.le_refl _)]
    exact congrArg (fun fleet => some (fleet.work (.flight s.flights.length))) hSame
  obtain ⟨n, hBudget⟩ : ∃ n, (s.launch .direct f).budget 0 = n + 1 := by
    refine Nat.exists_eq_succ_of_ne_zero ?_
    simp [budget, launch]
  refine ⟨n, ?_⟩
  rw [await, hf, advance, runTo, hBudget]
  exact congrArg (fun fleet : Fleet ω => { fleet with now := s.now }) (exhaust_of_some hStep n)

/-- **A fetch from outside that takes no time** lands at once if nothing else is due; whatever
falls due with it comes after. -/
theorem leads_await {s : Fleet ω} (h : s.AtRest) {f : Fetch} (hf : f.duration = 0) :
    ∃ landed : Fleet ω,
      (Scene.mk (s.launch .direct f) []).move (.land s.flights.length) = ⟨landed, []⟩ ∧
        landed.Leads [] (s.await f) := by
  have hThere : (s.launch .direct f).flights[s.flights.length]?
      = some ⟨s.now + f.duration, .direct, f.effects, f.result⟩ := by
    rw [launch, List.getElem?_concat_length]
  have hLanded : (Scene.mk (s.launch .direct f) []).move (.land s.flights.length)
      = ⟨(s.launch .direct f).work (.flight s.flights.length), []⟩ := by
    rw [Scene.move, work, hThere]
    rfl
  obtain ⟨n, hAwait⟩ := exists_await h hf
  have hNow := (atOnce_work (s.launch .direct f) (.flight s.flights.length)).now
  obtain ⟨hRest, hBy⟩ := leads_exhaust _ (Nat.le_of_eq hNow) n
  refine ⟨_, hLanded, ?_⟩
  rw [hAwait]
  exact hRest.trans (leads_pass _ hBy)

/-! ## Commands -/

/-- Something done with a handle opens no report. -/
theorem Calm.carryOut {s : Fleet ω} (h : s.Calm) (i : Nat) (o : Operation) :
    (s.carryOut i o).Calm := by
  intro x hx
  rw [others, List.mem_map] at hx
  obtain ⟨q, hq, rfl⟩ := hx
  obtain ⟨j, hj⟩ := List.getElem?_of_mem hq
  rw [(s.does_carryOut i o).getElem? j, Option.map_eq_some_iff] at hj
  obtain ⟨p, hp, rfl⟩ := hj
  have hNone : p.owners.reports = 0 := h p.others (List.mem_map_of_mem (List.mem_of_getElem? hp))
  show (if i = j then p.operate s.gate.paused s.now o else p).owners.reports = 0
  split
  next => rw [Poller.reports_operate, hNone]
  next => exact hNone

/-- Something done with a handle, and all work due after it. -/
theorem reaches_operate {s : Fleet ω} (hCalm : s.Calm) {i : Nat} {o : Operation}
    (hAllows : s.allows i o = true) :
    (Scene.mk s []).Reaches ⟨(s.carryOut i o).settle, []⟩ ∧ (s.carryOut i o).settle.Calm := by
  have hRun := Scene.Reaches.move (Scene.mk s []) (.operate i o) (.inl rfl) rfl
  rw [Scene.move, operate, if_pos hAllows] at hRun
  have hSettle := (s.carryOut i o).leads_settle
  exact ⟨hRun.trans hSettle.run, hSettle.calm (hCalm.carryOut i o)⟩

end Fleet

namespace Fleet

variable {s : Fleet Scripts}

/-- A command that changes a poller which is there. -/
theorem reaches_change (hCalm : s.Calm) (i : Nat) (o : Operation)
    (hAllowed : ∀ owners : Owners, o.allowed owners = owners.held) :
    (Scene.mk s []).Reaches ⟨(s.change i fun s i => s.carryOut i o).1, []⟩ ∧
      (s.change i fun s i => s.carryOut i o).1.Calm := by
  unfold change onOwned
  split
  next => exact ⟨.refl _, hCalm⟩
  next p hp =>
    split
    next hAlive =>
      refine reaches_operate hCalm ?_
      rw [allows_eq hp, hAllowed]
      exact hCalm.held hp hAlive
    next => exact ⟨.refl _, hCalm⟩

/-- A command that gives up a handle. -/
theorem reaches_giveUp (hCalm : s.Calm) (i : Nat) (o : Operation)
    (op : Fleet Scripts → Nat → Fleet Scripts) (hOp : s.carryOut i o = (op s i).release i) :
    (Scene.mk s []).Reaches ⟨(s.giveUp i o.allowed op).1, []⟩ ∧
      (s.giveUp i o.allowed op).1.Calm := by
  unfold giveUp
  split
  next => exact ⟨.refl _, hCalm⟩
  next p hp =>
    split
    next hHas =>
      rw [← hOp]
      exact reaches_operate hCalm ((allows_eq hp o).trans hHas)
    next => exact ⟨.refl _, hCalm⟩

/-- Who has a further handle can use it. -/
theorem allows_of_others {s : Fleet Scripts} {i : Nat} {o : Owners} (h : s.others[i]? = some o)
    (hClones : 0 < o.clones) : s.allows i .clone = true ∧ s.allows i .dropClone = true := by
  rw [others, List.getElem?_map, Option.map_eq_some_iff] at h
  obtain ⟨p, hp, rfl⟩ := h
  have hHas : 0 < p.owners.clones := hClones
  rw [allows_eq hp, allows_eq hp]
  simp [Operation.allowed, Owners.held, hHas]

/-- A call out of turn, with all that falls due until its result is there. The handle that is
taken for it is still there then, since nothing but commands gives up such a handle. -/
theorem reaches_pollNow (hCalm : s.Calm) (i : Nat) :
    (Scene.mk s []).Reaches ⟨(s.pollNow i).1, []⟩ ∧ (s.pollNow i).1.Calm := by
  unfold pollNow onOwned
  split
  next => exact ⟨.refl _, hCalm⟩
  next p hp =>
    split
    next hAlive =>
      have hClone : (Scene.mk s []).Reaches ⟨s.clone i, []⟩ := by
        have hHeld : s.allows i .clone = true :=
          (allows_eq hp .clone).trans (hCalm.held hp hAlive)
        have hRun := Scene.Reaches.move (Scene.mk s []) (.operate i .clone) (.inl rfl) rfl
        rw [Scene.move, operate, if_pos hHeld] at hRun
        exact hRun
      -- The handle that is taken: it can be used to ask, and it is still there at the end.
      have hOne : (s.clone i).others[i]?
          = some { p.others with clones := p.owners.clones + 1 } := by
        rw [others, clone, modify, List.getElem?_map, List.getElem?_modify_eq, hp]
        rfl
      have hAsk : (s.clone i).ask i
          = ((s.clone i).callFetch i).2.launch .direct ((s.clone i).callFetch i).1 := by
        rw [ask, if_pos (allows_of_others hOne (Nat.succ_pos _)).1]
      have hAsked : (s.clone i).Leads [] ((s.clone i).ask i) :=
        (((s.clone i).does_ask i).atOnce (fun q => by
          rw [Poller.perform]
          split <;> rfl) (.ask i) rfl (.inl rfl) rfl).toLeads
      have hWaited := hAsked.trans
        (((s.clone i).ask i).leads_advance ((s.clone i).callFetch i).1.duration)
      have hGivenUp := (allows_of_others (hWaited.others ▸ hOne) (Nat.succ_pos _)).2
      have hRun := Scene.Reaches.move
        (Scene.mk (((s.clone i).ask i).advance ((s.clone i).callFetch i).1.duration) [])
        (.operate i .dropClone) (.inl rfl) rfl
      rw [Scene.move, operate, if_pos hGivenUp] at hRun
      have hEnd := (hWaited.calm (hCalm.carryOut i .clone)).carryOut i .dropClone
      rw [hAsk] at hRun hWaited hEnd
      exact ⟨(hClone.trans hWaited.run).trans hRun, hEnd⟩
    next => exact ⟨.refl _, hCalm⟩

/-- **A command** is made of moves, with all work that is due after it. -/
theorem reaches_perform (hCalm : s.Calm) (c : Command) :
    (Scene.mk s []).Reaches ⟨(s.perform c).1, []⟩ ∧ (s.perform c).1.Calm := by
  have hTime : ∀ {s' : Fleet Scripts}, s.Leads [] s' →
      (Scene.mk s []).Reaches ⟨s', []⟩ ∧ s'.Calm := fun h => ⟨h.run, h.calm hCalm⟩
  have hLook : ∀ i (op : Poller → Answer),
      (Scene.mk s []).Reaches ⟨(s.onOwned i fun p => (s, op p)).1, []⟩ ∧
        (s.onOwned i fun p => (s, op p)).1.Calm := by
    intro i op
    have hSame : (s.onOwned i fun p => (s, op p)).1 = s := by
      unfold onOwned
      split
      next => rfl
      next => split <;> rfl
    rw [hSame]
    exact ⟨.refl _, hCalm⟩
  cases c with
  | advance ms => exact hTime (s.leads_advance ms)
  | jump ms => exact hTime (s.leads_jump ms)
  | signal x =>
      have hTold : s.Leads [] (s.tell x) := ⟨.move _ (.signal x) (.inl rfl) rfl, rfl⟩
      exact hTime (hTold.trans (s.tell x).leads_settle)
  | start i => exact reaches_change hCalm i .start fun _ => rfl
  | stop i => exact reaches_change hCalm i .stop fun _ => rfl
  | enterActive i => exact reaches_change hCalm i .enterActive fun _ => rfl
  | exitActive i => exact reaches_change hCalm i .exitActive fun _ => rfl
  | pollNow i => exact reaches_pollNow hCalm i
  | clone i => exact reaches_change hCalm i .clone fun _ => rfl
  | guard i => exact reaches_change hCalm i .guard fun _ => rfl
  | drop i => exact reaches_giveUp hCalm i .dropMain dropMain rfl
  | dropClone i => exact reaches_giveUp hCalm i .dropClone dropClone rfl
  | dropGuard i => exact reaches_giveUp hCalm i .dropGuard dropGuard rfl
  | describe i => exact hLook i _
  | info i => exact hLook i _

/-- **Every fleet that a session goes through** is where a run of moves leads. -/
theorem session_reaches (hCalm : s.Calm) (commands : List Command) :
    ∀ x ∈ s.session commands, (Scene.mk s []).Reaches ⟨x.1, []⟩ := by
  induction commands generalizing s with
  | nil => exact nofun
  | cons c rest ih =>
      obtain ⟨hRun, hKept⟩ := reaches_perform hCalm c
      intro x hx
      rcases List.mem_cons.mp hx with rfl | hRest
      · exact hRun
      · exact hRun.trans (ih hKept x hRest)

/-- New pollers that follow their scripts are a fresh scene in which no report is open. -/
theorem ofScripts_fresh (delays : List Nat) {pollers : List (Poller × List Reply)}
    (h : ∀ x ∈ pollers, x.1.Fresh) :
    (Scene.mk (ofScripts delays pollers) []).Fresh ∧ (ofScripts delays pollers).Calm := by
  refine ⟨⟨?_, nofun, rfl⟩, ?_⟩
  · intro p hp
    obtain ⟨x, hx, rfl⟩ := List.mem_map.mp hp
    exact h x hx
  · intro o ho
    obtain ⟨p, hp, rfl⟩ := List.mem_map.mp ho
    obtain ⟨x, hx, rfl⟩ := List.mem_map.mp hp
    obtain ⟨name, cadence, callback, hNew⟩ := h x hx
    rw [hNew]
    rfl

/-- **A poller that commands are given to** has the timers of its mode, from new pollers on,
after each command. -/
theorem session_sound (delays : List Nat) {pollers : List (Poller × List Reply)}
    (h : ∀ x ∈ pollers, x.1.Fresh) (commands : List Command) :
    ∀ x ∈ (ofScripts delays pollers).session commands, ∀ p ∈ x.1.pollers, p.alive = true →
      ∃ entered, p.Sound entered := by
  intro x hx p hp hAlive
  obtain ⟨hFresh, hCalm⟩ := ofScripts_fresh delays h
  obtain ⟨moves, -, -, hMoves⟩ := session_reaches hCalm commands x hx
  obtain ⟨i, hi⟩ := List.getElem?_of_mem hp
  have hAfter : ((Scene.mk (ofScripts delays pollers) []).after moves).fleet.pollers[i]?
      = some p := by
    rw [hMoves]
    exact hi
  exact ⟨_, hFresh.sound moves hAfter hAlive⟩

end Fleet

end Polling

end Lookout
