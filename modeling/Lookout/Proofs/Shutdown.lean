import Mathlib.Data.List.Nodup
import Lookout.Shutdown

set_option autoImplicit false

/-! # A shutdown reaches every listener

What a listener has seen decides when it looks, and it must not make it sleep through the
announcement. `Alert` is what prevents it: a listener that sleeps, and has seen the latest
publication, has seen that nothing was announced. Every command keeps this (`Alert.perform`), so
whoever is asked about a wait answers the same (`Alert.answer`): whether the announcement was made or
its owner is gone. That is never taken back (`resolved_perform`).

Listeners are counted by what was done: `made` and `lost` say how many of them a command makes, and
how many it drops.
-/

namespace Lookout.Shutdown

/-- Where a list of commands leads. -/
def after (s : Shutdown) : List Command → Shutdown
  | [] => s
  | c :: rest => (s.perform c).1.after rest

variable {s : Shutdown} {c : Command} {l : Listener} {name : String}

/-! ## What is announced -/

@[simp] theorem announcement_keep (s : Shutdown) (l : Listener) :
    (s.keep l).announcement = s.announcement := rfl

@[simp] theorem owned_keep (s : Shutdown) (l : Listener) : (s.keep l).owned = s.owned := rfl

/-- Only the owner announces, and only the owner can go. -/
theorem announced_perform (s : Shutdown) (c : Command) :
    (s.perform c).1.announcement =
        (if c = .trigger ∧ s.owned = true then s.announcement.publish true else s.announcement) ∧
      (s.perform c).1.owned = (s.owned && c ≠ .disown) := by
  cases c with
  | subscribe name =>
      rw [perform]
      split <;> simp
  | clone name source =>
      rw [perform]
      split <;> simp
  | wait name =>
      rw [perform]
      split <;> simp [look]
  | poll name =>
      rw [perform]
      split
      next => simp
      next =>
        split
        next => split <;> simp [look]
        next => simp
  | trigger =>
      rw [perform]
      split <;> simp_all
  | drop name => simp [perform]
  | disown => simp [perform]

/-- What a command makes of whether the shutdown is announced. -/
theorem triggered_perform (s : Shutdown) (c : Command) :
    (s.perform c).1.triggered = (s.triggered || decide (c = .trigger) && s.owned) := by
  rw [triggered, (s.announced_perform c).1]
  by_cases hMade : c = .trigger ∧ s.owned = true
  · rw [if_pos hMade, Watch.value_publish, hMade.2, decide_eq_true hMade.1, Bool.and_self, Bool.or_true]
  · rw [if_neg hMade, triggered]
    by_cases hTrigger : c = .trigger
    · have hGone : s.owned = false := by simpa [hTrigger] using hMade
      simp [hGone]
    · simp [hTrigger]

/-- **What ends all waits** is the announcement, and the going of the owner. -/
theorem resolved_perform (s : Shutdown) (c : Command) :
    (s.perform c).1.resolved = (s.resolved || decide (c = .trigger ∨ c = .disown)) := by
  rw [resolved, resolved, triggered_perform, (s.announced_perform c).2]
  cases s.owned with
  | false => simp
  | true => by_cases hTrigger : c = .trigger <;> by_cases hGone : c = .disown <;> simp [hTrigger, hGone]

theorem resolved_after (s : Shutdown) (commands : List Command) :
    (s.after commands).resolved =
      (s.resolved || decide (.trigger ∈ commands ∨ .disown ∈ commands)) := by
  induction commands generalizing s with
  | nil => simp [after]
  | cons c rest ih =>
      rw [after, ih, resolved_perform, Bool.or_assoc]
      congr 1
      rw [← Bool.decide_or]
      simp only [List.mem_cons, eq_comm (b := c), decide_eq_decide]
      tauto

theorem owned_after (s : Shutdown) (commands : List Command) :
    (s.after commands).owned = (s.owned && decide (.disown ∉ commands)) := by
  induction commands generalizing s with
  | nil => simp [after]
  | cons c rest ih =>
      rw [after, ih, (s.announced_perform c).2, Bool.and_assoc]
      congr 1
      rw [← Bool.decide_and]
      simp only [List.mem_cons, not_or, ne_eq, eq_comm (b := c)]

/-- A trigger announces the shutdown if it comes before the owner goes. -/
theorem triggered_after (s : Shutdown) (commands : List Command) :
    (s.after commands).triggered = true ↔ s.triggered = true ∨ s.owned = true ∧
      ∃ before after, commands = before ++ .trigger :: after ∧ .disown ∉ before := by
  induction commands generalizing s with
  | nil => simp [after]
  | cons c rest ih =>
      have hSplit : (∃ before after, c :: rest = before ++ .trigger :: after ∧ .disown ∉ before) ↔
          c = .trigger ∨ c ≠ .disown ∧
            ∃ before after, rest = before ++ .trigger :: after ∧ .disown ∉ before := by
        constructor
        · rintro ⟨_ | ⟨first, before⟩, after, hSame, hOwned⟩
          · exact .inl (List.cons.inj hSame).1
          · obtain ⟨rfl, rfl⟩ := List.cons.inj hSame
            exact .inr ⟨fun hSame => hOwned (hSame ▸ .head _), before, after, rfl,
              fun hMem => hOwned (.tail _ hMem)⟩
        · rintro (rfl | ⟨hFirst, before, after, rfl, hBefore⟩)
          · exact ⟨[], rest, rfl, nofun⟩
          · refine ⟨c :: before, after, rfl, fun hMem => ?_⟩
            exact (List.mem_cons.mp hMem).elim (fun hSame => hFirst hSame.symm) hBefore
      rw [after, ih, triggered_perform, (s.announced_perform c).2, hSplit]
      cases s.owned with
      | false => simp
      | true => by_cases hTrigger : c = .trigger <;> simp [hTrigger]

/-- What was announced stays so. -/
theorem triggered_of_triggered (h : s.triggered = true) (commands : List Command) :
    (s.after commands).triggered = true := by
  induction commands generalizing s with
  | nil => exact h
  | cons c rest ih => exact ih (by rw [triggered_perform, h, Bool.true_or])

/-- What ended all waits has ended all later ones. -/
theorem resolved_of_resolved (h : s.resolved = true) (commands : List Command) :
    (s.after commands).resolved = true := by
  rw [resolved_after, h, Bool.true_or]

/-! ## Listeners -/

theorem mem_of_listener? (h : s.listener? name = some l) : l ∈ s.listeners ∧ l.name = name :=
  ⟨List.mem_of_find?_eq_some h, by simpa using List.find?_some h⟩

theorem isSome_listener? :
    (s.listener? name).isSome = decide (name ∈ s.listeners.map Listener.name) := by
  rw [Bool.eq_iff_iff, listener?, List.find?_isSome]
  simp

/-- **Nobody sleeps through the announcement**: a listener that sleeps, and has seen the latest
publication, has seen that nothing is announced. -/
structure Alert (s : Shutdown) : Prop where
  names : (s.listeners.map Listener.name).Nodup
  seen : ∀ l ∈ s.listeners, l.seen ≤ s.announcement.version
  sleeps : ∀ l ∈ s.listeners, l.asleep = true → l.seen = s.announcement.version → s.triggered = false

theorem alert_new : Alert {} := ⟨.nil, nofun, nofun⟩

theorem Alert.filter (h : s.Alert) (p : Listener → Bool) :
    Alert { s with listeners := s.listeners.filter p } where
  names := (List.filter_sublist.map _).nodup h.names
  seen := fun l hl => h.seen l (List.mem_filter.mp hl).1
  sleeps := fun l hl => h.sleeps l (List.mem_filter.mp hl).1

theorem Alert.keep (h : s.Alert) (hSeen : l.seen ≤ s.announcement.version)
    (hSleeps : l.asleep = true → l.seen = s.announcement.version → s.triggered = false) :
    (s.keep l).Alert := by
  have hOthers := h.filter fun x => x.name != l.name
  refine ⟨List.nodup_cons.mpr ⟨?_, hOthers.names⟩, List.forall_mem_cons.mpr ⟨hSeen, hOthers.seen⟩,
    List.forall_mem_cons.mpr ⟨hSleeps, hOthers.sleeps⟩⟩
  intro hMem
  obtain ⟨x, hx, hSame⟩ := List.mem_map.mp hMem
  simpa [hSame] using (List.mem_filter.mp hx).2

/-- A listener that looks sleeps only if nothing is announced. -/
theorem Alert.look (h : s.Alert) (l : Listener) : (s.look l).1.Alert := by
  refine h.keep (Nat.le_refl _) fun hAsleep _ => ?_
  have hGoesOn : s.resolved = false := by simpa using hAsleep
  exact (Bool.or_eq_false_iff.mp hGoesOn).1

/-- A publication wakes every listener. -/
theorem Alert.publish (h : s.Alert) :
    Alert { s with announcement := s.announcement.publish true } where
  names := h.names
  seen := fun l hl => Nat.le_succ_of_le (h.seen l hl)
  sleeps := by
    intro l hl _ hLatest
    have hOlder := h.seen l hl
    rw [hLatest, Watch.version_publish] at hOlder
    omega

/-- **Every command** leaves all listeners alert. -/
theorem Alert.perform (h : s.Alert) (c : Command) : (s.perform c).1.Alert := by
  cases c with
  | subscribe name =>
      rw [Shutdown.perform]
      split
      next => exact h.keep (Nat.le_refl _) nofun
      next => exact h
  | clone name source =>
      rw [Shutdown.perform]
      split
      next => exact h
      next l hSource => exact h.keep (h.seen l (mem_of_listener? hSource).1) nofun
  | drop name => exact h.filter _
  | wait name =>
      rw [Shutdown.perform]
      split
      next => exact h
      next l _ => exact h.look l
  | poll name =>
      rw [Shutdown.perform]
      split
      next => exact h
      next l _ =>
        split
        next =>
          split
          next => exact h.look l
          next => exact h
        next => exact h
  | trigger =>
      rw [Shutdown.perform]
      split
      next => exact h.publish
      next => exact h
  | disown => exact ⟨h.names, h.seen, h.sleeps⟩

theorem Alert.after (h : s.Alert) (commands : List Command) : (s.after commands).Alert := by
  induction commands generalizing s with
  | nil => exact h
  | cons c rest ih => exact ih (h.perform c)

/-! ## Answers -/

theorem answer_wait (h : s.listener? name = some l) :
    (s.perform (.wait name)).2 = some s.resolved := by
  simp only [perform, h, look]

/-- **A listener that sleeps on** would learn nothing if it looked. -/
theorem Alert.answer_poll (hAlert : s.Alert) (h : s.listener? name = some l)
    (hAsleep : l.asleep = true) : (s.perform (.poll name)).2 = some s.resolved := by
  simp only [Shutdown.perform, h, hAsleep, if_true]
  split
  next => rfl
  next hSleepsOn =>
    have hSame : l.seen = s.announcement.version ∧ s.owned = true := by simpa [wakes] using hSleepsOn
    have hNothing := hAlert.sleeps l (mem_of_listener? h).1 hAsleep hSame.1
    rw [resolved, hNothing, hSame.2]
    rfl

/-- Whoever is answered is answered the same. -/
theorem Alert.answer (hAlert : s.Alert) {r : Bool} (h : (s.perform c).2 = some r) :
    r = s.resolved := by
  cases c with
  | wait name =>
      cases hl : s.listener? name with
      | none => simp [Shutdown.perform, hl] at h
      | some l => exact Option.some.inj (h.symm.trans (answer_wait hl))
  | poll name =>
      cases hl : s.listener? name with
      | none => simp [Shutdown.perform, hl] at h
      | some l =>
          cases hAsleep : l.asleep with
          | false => simp [Shutdown.perform, hl, hAsleep] at h
          | true => exact Option.some.inj (h.symm.trans (hAlert.answer_poll hl hAsleep))
  | clone name source =>
      rw [Shutdown.perform] at h
      split at h <;> cases h
  | subscribe | drop | trigger | disown => cases h

/-! ## A wait that is not over -/

/-- The listener that a command is about. -/
def Command.name? : Command → Option String
  | subscribe name | clone name _ | drop name | wait name | poll name => some name
  | trigger | disown => none

theorem listener?_keep (s : Shutdown) (l : Listener) : (s.keep l).listener? l.name = some l := by
  simp [listener?, keep]

theorem listener?_filter {other : String} (hOther : other ≠ name) :
    (s.listeners.filter fun x => x.name != other).find? (fun x => x.name == name)
      = s.listener? name := by
  rw [List.find?_filter, listener?]
  congr 1
  funext x
  by_cases hMine : x.name = name
  · simp [hMine, hOther.symm]
  · simp [hMine]

theorem listener?_keep_other (hOther : l.name ≠ name) : (s.keep l).listener? name = s.listener? name := by
  rw [listener?, keep, List.find?_cons_of_neg (by simpa using hOther)]
  exact listener?_filter hOther

/-- What is about others leaves a listener as it is. -/
theorem listener?_perform (h : c.name? ≠ some name) :
    (s.perform c).1.listener? name = s.listener? name := by
  have hLook : ∀ l, l.name ≠ name → (s.look l).1.listener? name = s.listener? name :=
    fun l hOther => listener?_keep_other hOther
  cases c with
  | subscribe other =>
      have hOther : other ≠ name := fun hSame => h (congrArg some hSame)
      rw [perform]
      split
      next => exact listener?_keep_other hOther
      next => rfl
  | clone other source =>
      have hOther : other ≠ name := fun hSame => h (congrArg some hSame)
      rw [perform]
      split
      next => rfl
      next => exact listener?_keep_other hOther
  | drop other => exact listener?_filter fun hSame => h (congrArg some hSame)
  | wait other =>
      have hOther : other ≠ name := fun hSame => h (congrArg some hSame)
      rw [perform]
      split
      next => rfl
      next l hl => exact hLook l ((mem_of_listener? hl).2 ▸ hOther)
  | poll other =>
      have hOther : other ≠ name := fun hSame => h (congrArg some hSame)
      rw [perform]
      split
      next => rfl
      next l hl =>
        split
        next =>
          split
          next => exact hLook l ((mem_of_listener? hl).2 ▸ hOther)
          next => rfl
        next => rfl
  | trigger =>
      rw [perform]
      split <;> rfl
  | disown => rfl

theorem listener?_after {commands : List Command} (h : ∀ c ∈ commands, c.name? ≠ some name) :
    (s.after commands).listener? name = s.listener? name := by
  induction commands generalizing s with
  | nil => rfl
  | cons c rest ih =>
      obtain ⟨hFirst, hRest⟩ := List.forall_mem_cons.mp h
      rw [after, ih hRest, listener?_perform hFirst]

/-- **A wait that is not over** is slept on, and is over once the shutdown is announced or the owner
is gone, whatever happened to the other listeners. -/
theorem Alert.poll_after_wait (hAlert : s.Alert) (hl : s.listener? name = some l)
    (hGoesOn : s.resolved = false) {later : List Command} (hOthers : ∀ c ∈ later, c.name? ≠ some name) :
    (((s.perform (.wait name)).1.after later).perform (.poll name)).2
      = some (decide (.trigger ∈ later ∨ .disown ∈ later)) := by
  have hName := (mem_of_listener? hl).2
  have hWaited : (s.perform (.wait name)).1 = (s.look l).1 := by simp only [Shutdown.perform, hl]
  have hSleeps : (s.perform (.wait name)).1.listener? name
      = some { l with seen := s.announcement.version, asleep := true } := by
    rw [hWaited, ← hName, Shutdown.look, hGoesOn]
    exact listener?_keep s _
  have hLater := hAlert.perform (.wait name) |>.after later
  rw [hLater.answer_poll ((listener?_after hOthers).trans hSleeps) rfl, resolved_after,
    resolved_perform, hGoesOn]
  simp

/-! ## How many listeners there are -/

/-- Whether a command makes a listener by subscribing. -/
def subscribes (s : Shutdown) : Command → Bool
  | .subscribe _ => s.owned
  | .clone .. | .drop _ | .wait _ | .poll _ | .trigger | .disown => false

/-- Whether a command makes a listener by cloning one. -/
def clones (s : Shutdown) : Command → Bool
  | .clone _ source => (s.listener? source).isSome
  | .subscribe _ | .drop _ | .wait _ | .poll _ | .trigger | .disown => false

/-- Whether a listener is dropped with a command: by name, or because another takes its place. -/
def drops (s : Shutdown) : Command → Bool
  | .drop name => (s.listener? name).isSome
  | .subscribe name => s.owned && (s.listener? name).isSome
  | .clone name source => (s.listener? source).isSome && (s.listener? name).isSome
  | .wait _ | .poll _ | .trigger | .disown => false

/-- How many commands of a list are of a kind, each judged by the state that it finds. -/
def count (kind : Shutdown → Command → Bool) (s : Shutdown) : List Command → Nat
  | [] => 0
  | c :: rest => (kind s c).toNat + count kind (s.perform c).1 rest

/-- Without the listener of a name there is one less, if there was one. -/
theorem Alert.length_filter (h : s.Alert) (name : String) :
    (s.listeners.filter fun x => x.name != name).length + (s.listener? name).isSome.toNat
      = s.listeners.length := by
  have hMine : (s.listeners.map Listener.name).count name = (s.listener? name).isSome.toNat := by
    rw [isSome_listener?, h.names.count]
    by_cases hMem : name ∈ s.listeners.map Listener.name <;> simp [hMem]
  have hSplit := List.length_eq_countP_add_countP (fun x : Listener => x.name == name)
    (l := s.listeners)
  rw [List.count, List.countP_map] at hMine
  rw [← List.countP_eq_length_filter, ← hMine, hSplit, Nat.add_comm]
  congr 1
  exact List.countP_congr fun x _ => by simp

theorem Alert.length_keep (h : s.Alert) (l : Listener) :
    (s.keep l).listeners.length + (s.listener? l.name).isSome.toNat = s.listeners.length + 1 := by
  have hRest := h.length_filter l.name
  show (l :: s.listeners.filter fun x => x.name != l.name).length + _ = _
  rw [List.length_cons]
  omega

/-- A listener that looks stays one listener. -/
theorem Alert.length_look (h : s.Alert) (hl : s.listener? name = some l) :
    (s.look l).1.listeners.length = s.listeners.length := by
  have hKept := h.length_keep { l with seen := s.announcement.version, asleep := !s.resolved }
  have hThere : (s.listener? l.name).isSome.toNat = 1 := by
    rw [(mem_of_listener? hl).2, hl]
    rfl
  rw [hThere] at hKept
  exact Nat.succ.inj hKept

/-- **What a command does to the number of listeners.** -/
theorem Alert.length_perform (h : s.Alert) (c : Command) :
    (s.perform c).1.listeners.length + (s.drops c).toNat
      = s.listeners.length + (s.subscribes c).toNat + (s.clones c).toNat := by
  cases c with
  | subscribe name =>
      rw [Shutdown.perform, drops, subscribes, clones]
      cases s.owned with
      | true => exact h.length_keep _
      | false => rfl
  | clone name source =>
      rw [Shutdown.perform, drops, subscribes, clones]
      cases s.listener? source with
      | none => rfl
      | some l => exact h.length_keep _
  | drop name => exact h.length_filter name
  | wait name =>
      rw [Shutdown.perform]
      split
      next => rfl
      next l hl => exact h.length_look hl
  | poll name =>
      rw [Shutdown.perform]
      split
      next => rfl
      next l hl =>
        split
        next =>
          split
          next => exact h.length_look hl
          next => rfl
        next => rfl
  | trigger =>
      rw [Shutdown.perform]
      split <;> rfl
  | disown => rfl

theorem Alert.length_after (h : s.Alert) (commands : List Command) :
    (s.after commands).listeners.length + count drops s commands
      = s.listeners.length + count subscribes s commands + count clones s commands := by
  induction commands generalizing s with
  | nil => rfl
  | cons c rest ih =>
      have hFirst := h.length_perform c
      have hRest := ih (h.perform c)
      rw [Shutdown.after, count, count, count]
      omega

/-! ## The whole run -/

/-- **A shutdown reaches every listener, and nothing else does.** After any commands, a wait that any
listener begins is over exactly if the shutdown was announced or its owner has gone, and so is a wait
that it sleeps on; one that is not over is slept on, and is over as soon as that has happened,
whatever became of the others meanwhile. Once somebody's wait is over, so is every later one of
anybody. The announcement is never taken back; it was made if the owner made it before going. And
there are as many listeners as subscribed or were cloned, less those that were dropped. -/
theorem reaches_every_listener (past : List Command) :
    let s := ({} : Shutdown).after past
    let came := decide (.trigger ∈ past ∨ .disown ∈ past)
    (∀ name l, s.listener? name = some l →
        (s.perform (.wait name)).2 = some came ∧
        (l.asleep = true → (s.perform (.poll name)).2 = some came) ∧
        (came = false → ∀ later, (∀ c ∈ later, c.name? ≠ some name) →
          (((s.perform (.wait name)).1.after later).perform (.poll name)).2
            = some (decide (.trigger ∈ later ∨ .disown ∈ later)))) ∧
      (∀ c, (s.perform c).2 = some true → ∀ later c' r,
        (((s.perform c).1.after later).perform c').2 = some r → r = true) ∧
      (s.triggered = true → ∀ later, (s.after later).triggered = true) ∧
      (s.triggered = true ↔ ∃ before after, past = before ++ .trigger :: after ∧ .disown ∉ before) ∧
      (s.owned = true ↔ .disown ∉ past) ∧
      s.listeners.length + count drops {} past = count subscribes {} past + count clones {} past := by
  intro s came
  have hAlert : s.Alert := alert_new.after past
  have hResolved : s.resolved = came := (resolved_after {} past).trans (Bool.false_or _)
  refine ⟨fun name l hl => ⟨?_, fun hAsleep => ?_, fun hNot later hOthers => ?_⟩, ?_,
    fun h => triggered_of_triggered h, ?_, ?_, ?_⟩
  · rw [← hResolved]
    exact answer_wait hl
  · rw [← hResolved]
    exact hAlert.answer_poll hl hAsleep
  · exact hAlert.poll_after_wait hl (hResolved.trans hNot) hOthers
  · intro c hOver later c' r hAnswer
    have hNow : (s.perform c).1.resolved = true := by
      rw [resolved_perform, ← hAlert.answer hOver, Bool.true_or]
    rw [((hAlert.perform c).after later).answer hAnswer]
    exact resolved_of_resolved hNow later
  · have hNew : ¬ ({} : Shutdown).triggered = true := Bool.false_ne_true
    rw [triggered_after, or_iff_right hNew, and_iff_right rfl]
  · simp [s, owned_after]
  · simpa using alert_new.length_after past

/-- One listener sleeps when the shutdown is announced, one is cloned from it before, and one comes
afterwards. -/
example :
    (session {} [.subscribe "early", .wait "early", .poll "early", .clone "copy" "early", .trigger,
        .poll "early", .subscribe "late", .wait "late", .wait "copy", .disown, .wait "early"]).map
      Prod.snd = [none, some false, some false, none, none, some true, none, some true, some true,
        none, some true] := by
  decide

end Lookout.Shutdown
