import Lookout.Proofs.Polling.Handles
import Lookout.Proofs.Polling.Load
import Lookout.Proofs.Polling.Signals
import Lookout.Proofs.Program.Start
import Lookout.Proofs.Service.Settled

set_option autoImplicit false

/-! # Settings are repaired in two places, to the same effect

A configuration is repaired when it is loaded, and reports what it replaces. Whoever builds a cadence
or a gate replaces what cannot be used as well, without a report. The two agree: what is built of a
configuration is what is built of the repaired one (`cadence_repair`, `make_repair`), and of a
repaired one nothing more is replaced (`cadence_of_fit`, `make_of_fit`). So a daemon runs with what
its repaired configuration says, and what that differs in from the given one was reported.
-/

namespace Lookout

open Backoff (Delays Gate Usable)
open Polling (Cadence FetchSource Fleet Scene orDefault)

/-! ## Cadences -/

namespace Polling

theorem orDefault_of_pos {ms default : Nat} (h : 0 < ms) : orDefault ms default = ms :=
  if_neg (Nat.pos_iff_ne_zero.mp h)

/-- The cadence that is built once more of the numbers of another. -/
def Cadence.rebuilt (k : Cadence) : Cadence := .ofMillis k.idle k.active k.window

theorem Cadence.rebuilt_eq (k : Cadence) : k.rebuilt = k := by
  obtain ⟨idle, active, window, hIdle, hActive, hWindow⟩ := k
  simp only [rebuilt, ofMillis, orDefault_of_pos hIdle, orDefault_of_pos hActive,
    orDefault_of_pos hWindow]

end Polling

namespace Config

/-- A value that was repaired is taken for what the given one is taken for. -/
theorem orDefault_positive (value default : Nat) (correction : Correction) :
    orDefault (positive value default correction).1 default = orDefault value default := by
  unfold positive
  split
  next hZero =>
    rw [hZero, orDefault, orDefault, if_pos rfl]
    exact ite_self default
  next => rfl

/-- **A repair makes no difference to the cadence.** -/
theorem cadence_repair (c : Config) : c.repair.1.polling.cadence = c.polling.cadence := by
  have hIdle := orDefault_positive c.polling.idle Cadence.standard.idle .zeroIdle
  have hActive := orDefault_positive c.polling.active Cadence.standard.active .zeroActive
  have hWindow := orDefault_positive c.polling.window Cadence.standard.window .zeroWindow
  simp only [PollingSettings.cadence, Cadence.ofMillis, Cadence.mk.injEq]
  exact ⟨hIdle, hActive, hWindow⟩

/-- The cadence of a fit configuration is what it says. -/
theorem cadence_of_fit {c : Config} (h : Fit c) :
    c.polling.cadence.idle = c.polling.idle ∧ c.polling.cadence.active = c.polling.active ∧
      c.polling.cadence.window = c.polling.window :=
  ⟨Polling.orDefault_of_pos h.idle, Polling.orDefault_of_pos h.active,
    Polling.orDefault_of_pos h.window⟩

/-! ## What is given -/

/-- What the contents of a file say, before anything is repaired. -/
def given? (contents : Except FileError ByteArray) : Option Config :=
  contents.toOption.bind fun bytes => (String.fromUTF8? bytes).bind fun text =>
    (Toml.read? text).bind fun t => ofNode? (.table (Node.ofTomlEntries t))

/-- What is loaded is the repaired form of what is given. -/
theorem given_of_load {path : String} {contents : Except FileError ByteArray} {c : Config}
    {corrections : List Correction} (h : load path contents = .ok (c, corrections)) :
    ∃ given, given? contents = some given ∧ given.repair = (c, corrections) := by
  cases contents with
  | error e => cases h
  | ok bytes =>
      unfold load at h
      dsimp only at h
      split at h
      case h_1 => cases h
      case h_2 text hText =>
        unfold parse at h
        split at h
        case h_1 => cases h
        case h_2 given hRead =>
          refine ⟨given, ?_, ?_⟩
          · show (String.fromUTF8? bytes).bind _ = _
            rw [hText, Option.bind_some, hRead]
          · dsimp only at h
            split at h
            case h_1 => exact Except.ok.inj h
            case h_2 => cases h

/-! ## Delays -/

/-- **A repair makes no difference to the gate.** -/
theorem make_repair (c : Config) : (Gate.make c.repair.1.delays).1 = (Gate.make c.delays).1 := by
  have hDelays : Delays.ofList (repairDelays c.delays).1 = Delays.ofList c.delays := by
    by_cases hUsable : Usable c.delays
    · rw [repairDelays_of_usable hUsable]
    · rw [Delays.ofList_of_not_usable hUsable, repairDelays, if_neg hUsable]
      exact Delays.ofList_toList .standard
  exact congrArg (fun delays => ({ delays := delays } : Gate)) hDelays

/-- The gate of a fit configuration has its delays, and does not complain of them. -/
theorem make_of_fit {c : Config} (h : Fit c) :
    (Gate.make c.delays).1.delays.toList = c.delays ∧ (Gate.make c.delays).2 = [] := by
  refine ⟨?_, if_pos h.delays⟩
  rw [Gate.make, Delays.ofList_eq, if_pos h.delays]

/-! ## Fleets -/

/-- The pollers and the gate of a fleet are set as a configuration says, to the millisecond. -/
structure Sets (c : Config) {ω : Type} (s : Fleet ω) : Prop where
  idle : ∀ p ∈ s.pollers, p.cadence.idle = c.polling.idle
  active : ∀ p ∈ s.pollers, p.cadence.active = c.polling.active
  window : ∀ p ∈ s.pollers, p.cadence.window = c.polling.window
  delays : s.gate.delays.toList = c.delays

end Config

namespace Polling.Fleet

variable {ω : Type} [FetchSource ω]

/-- Pollers that are started are built as they were, and the gate takes no notice. -/
theorem foldl_start (s : Fleet ω) (pollers : List Nat) :
    (pollers.foldl start s).gate = s.gate ∧
      ∀ p ∈ (pollers.foldl start s).pollers, ∃ q ∈ s.pollers, q.Alike p := by
  induction pollers generalizing s with
  | nil => exact ⟨rfl, fun p hp => ⟨p, hp, .refl p⟩⟩
  | cons i rest ih =>
      obtain ⟨hGate, hPollers⟩ := ih (s.start i)
      have hDoes := s.does_start i
      refine ⟨hGate.trans hDoes.gate, fun p hp => ?_⟩
      obtain ⟨q, hq, hAlike⟩ := hPollers p hp
      obtain ⟨j, hj⟩ := List.mem_iff_getElem?.mp hq
      rw [hDoes.getElem?, Option.map_eq_some_iff] at hj
      obtain ⟨r, hr, rfl⟩ := hj
      refine ⟨r, List.mem_of_getElem? hr, .trans ?_ hAlike⟩
      split
      next => exact r.alike_start _ _
      next => exact .refl r

end Polling.Fleet

namespace Polling.Scene

variable {ω : Type} [FetchSource ω]

/-- **A fleet of a fit configuration stays set** as the configuration says, whatever happens. -/
theorem sets_after {c : Config} (hFit : Config.Fit c) {s : Scene ω}
    (hGate : s.fleet.gate = (Gate.make c.delays).1)
    (hPollers : ∀ p ∈ s.fleet.pollers, p.cadence = c.polling.cadence) (past : List (Move ω)) :
    c.Sets (s.after past).fleet := by
  obtain ⟨hIdle, hActive, hWindow⟩ := Config.cadence_of_fit hFit
  have hCadence : ∀ p ∈ (s.after past).fleet.pollers, p.cadence = c.polling.cadence := by
    intro p hp
    obtain ⟨i, hi⟩ := List.mem_iff_getElem?.mp hp
    obtain ⟨q, hq, hAlike⟩ := exists_alike_before past hi
    exact hAlike.cadence.trans (hPollers q (List.mem_of_getElem? hq))
  refine ⟨fun p hp => ?_, fun p hp => ?_, fun p hp => ?_, ?_⟩
  · rw [hCadence p hp, hIdle]
  · rw [hCadence p hp, hActive]
  · rw [hCadence p hp, hWindow]
  · rw [(heeds_after hGate past).2]
    exact (Config.make_of_fit hFit).1

/-- **No recurring timer has the period zero**, in any run. -/
theorem Fresh.steady {s₀ : Scene ω} (h : s₀.Fresh) (past : List (Move ω)) {p : Poller}
    (hp : p ∈ (s₀.after past).fleet.pollers) : p.timers.Steady := by
  obtain ⟨i, hi⟩ := List.mem_iff_getElem?.mp hp
  cases hAlive : p.alive with
  | true => exact (h.sound past hi hAlive).armed.steady
  | false =>
      intro t ht
      rw [(h.tended past hi).timers hAlive] at ht
      exact nomatch ht

end Polling.Scene

/-! ## The daemon -/

namespace Program.Daemon

/-- The configuration that the daemon is given, before anything is repaired. -/
def given? (m : Machine) : Option String → Option Config
  | none => some {}
  | some path => Config.given? (m.contents path)

/-- What the daemon works with is the repaired form of what it is given. -/
theorem given_of_configure {m : Machine} {path : Option String} {c : Config}
    {corrections : List Config.Correction} (h : configure m path = .ok (c, corrections)) :
    ∃ given, given? m path = some given ∧ given.repair = (c, corrections) := by
  cases path with
  | none =>
      obtain ⟨rfl, rfl⟩ := Prod.mk.inj (Except.ok.inj h)
      exact ⟨{}, rfl, by decide +kernel⟩
  | some path => exact Config.given_of_load h

variable {ν : Type} [Backend.Network ν]

/-- A daemon that runs has a service of its configuration, whose pollers were started, and has said
what was corrected. -/
theorem exists_of_start {m : Machine} {path : Option String} {network : ν} {s : Service ν}
    (h : (start m path network).outcome = .ok s) :
    ∃ c corrections s₀, configure m path = .ok (c, corrections) ∧
      Service.make c network = .ok s₀ ∧
      s.fleet = (List.range c.servers.length).foldl Fleet.start s₀.fleet ∧
      ∀ k ∈ corrections, .corrected k ∈ (start m path network).notices := by
  unfold start at h ⊢
  cases hConfigured : configure m path with
  | error e => rw [hConfigured] at h; cases h
  | ok x =>
      obtain ⟨c, corrections⟩ := x
      rw [hConfigured] at h
      dsimp only at h ⊢
      cases hMade : Service.make c network with
      | error e =>
          rw [(startService_of_error m corrections hMade).1] at h
          cases h
      | ok s₀ =>
          obtain ⟨-, rest, hSaid, -⟩ := startService_of_ok m corrections hMade
          refine ⟨c, corrections, s₀, rfl, hMade, ?_, fun k hk => ?_⟩
          · unfold startService at h
            rw [hMade] at h
            dsimp only at h
            split at h
            next => cases h
            next =>
              obtain rfl := Except.ok.inj h
              rfl
          · rw [hSaid]
            simp [greeting, hk]

/-- **A daemon runs as its repaired configuration says**, for good, and has said what it repaired. -/
theorem sets_of_start {m : Machine} {path : Option String} {network : ν} {s : Service ν}
    (h : (start m path network).outcome = .ok s) :
    ∃ given, given? m path = some given ∧
      (∀ past, given.repair.1.Sets ((Scene.mk s.fleet []).after past).fleet) ∧
      ∀ k ∈ given.repair.2, .corrected k ∈ (start m path network).notices := by
  obtain ⟨c, corrections, s₀, hConfigured, hMade, hFleet, hSaid⟩ := exists_of_start h
  obtain ⟨given, hGiven, hRepair⟩ := given_of_configure hConfigured
  have hRepaired : given.repair.1 = c := congrArg Prod.fst hRepair
  have hReported : given.repair.2 = corrections := congrArg Prod.snd hRepair
  obtain ⟨hGate, hPollers⟩ := Service.parts_make hMade
  obtain ⟨hStarted, hAlike⟩ := s₀.fleet.foldl_start (List.range c.servers.length)
  rw [← hFleet] at hStarted hAlike
  refine ⟨given, hGiven, ?_, fun k hk => hSaid k (hReported ▸ hk)⟩
  refine Scene.sets_after (Config.fit_repair given) ?_ fun p hp => ?_
  · rw [hRepaired, ← hGate]
    exact hStarted
  · obtain ⟨q, hq, hBuilt⟩ := hAlike p hp
    rw [hPollers] at hq
    obtain ⟨server, -, rfl⟩ := List.mem_map.mp hq
    rw [hBuilt.cadence, hRepaired]
    rfl

/-- **The two repairs agree.**

* What is built of a configuration, a cadence (once or twice) or a gate, is what is built of the
  repaired configuration.
* Of a configuration in which there is nothing to repair nothing is replaced, and the gate does not
  complain.
* So a daemon that runs has pollers and a gate that are set as its repaired configuration says, for
  good, and what this differs in from the given one was said as a correction.
* However pollers are built, their periods are positive, and so are those of all recurring timers
  in every run. However a gate is built, its schedule is usable, and every level has an entry. -/
theorem settings_agree :
    (∀ c : Config, c.repair.1.polling.cadence = c.polling.cadence ∧
      c.polling.cadence.rebuilt = c.polling.cadence ∧
      (Gate.make c.repair.1.delays).1 = (Gate.make c.delays).1) ∧
    (∀ c : Config, c.repair.1 = c →
      (c.polling.cadence.idle = c.polling.idle ∧ c.polling.cadence.active = c.polling.active ∧
        c.polling.cadence.window = c.polling.window) ∧
      (Gate.make c.delays).1.delays.toList = c.delays ∧ (Gate.make c.delays).2 = []) ∧
    (∀ (ν : Type) [Backend.Network ν] (m : Machine) (path : Option String) (network : ν)
      (s : Service ν), (start m path network).outcome = .ok s →
      ∃ given, given? m path = some given ∧
        (∀ past, given.repair.1.Sets ((Scene.mk s.fleet []).after past).fleet) ∧
        ∀ f ∈ [Config.Field.idle, .active, .window, .delays], f.Same given given.repair.1 ∨
          ∃ k ∈ given.repair.2, k.field ∈ f.names ∧
            .corrected k ∈ (start m path network).notices) ∧
    (∀ (ω : Type) [FetchSource ω] (s₀ : Scene ω), s₀.Fresh → ∀ past,
      ∀ p ∈ (s₀.after past).fleet.pollers,
        (0 < p.cadence.idle ∧ 0 < p.cadence.active ∧ 0 < p.cadence.window) ∧
        ∀ t ∈ p.timers.live, ∀ period, t.period = some period → 0 < period) ∧
    (∀ g : Gate, Usable g.delays.toList ∧ ∀ level,
      g.delays.toList[min level (g.delays.toList.length - 1)]? = some (g.delays.delay level)) := by
  refine ⟨fun c => ⟨c.cadence_repair, Cadence.rebuilt_eq _, c.make_repair⟩, fun c hSame => ?_, ?_,
    ?_, fun g => ⟨g.delays.usable, g.delays.getElem?_eq_delay⟩⟩
  · have hFit : Config.Fit c := hSame ▸ Config.fit_repair c
    exact ⟨Config.cadence_of_fit hFit, Config.make_of_fit hFit⟩
  · intro ν _ m path network s hRuns
    obtain ⟨given, hGiven, hSets, hSaid⟩ := sets_of_start hRuns
    refine ⟨given, hGiven, hSets, fun f _ => ?_⟩
    by_cases hNamed : ∃ k ∈ given.repair.2, k.field ∈ f.names
    · obtain ⟨k, hk, hField⟩ := hNamed
      exact .inr ⟨k, hk, hField, hSaid k hk⟩
    · exact .inl (Config.same_of_unnamed fun k hk hField => hNamed ⟨k, hk, hField⟩)
  · intro ω _ s₀ hFresh past p hp
    exact ⟨⟨p.cadence.idle_pos, p.cadence.active_pos, p.cadence.window_pos⟩, hFresh.steady past hp⟩

/-- A machine on which every file says that a poller is never to wait, and the gate ever less. -/
def hasty : Machine where
  contents _ := .ok ("[polling]\nidle_interval_ms=0\n[backoff]\ndelays_ms=[2,1]\n"
    ++ "[[servers]]\nname=\"a\"\nid=\"1\"").toUTF8

/-- What they are read as. -/
def hastyGiven : Config where
  polling := { idle := 0 }
  delays := [2, 1]
  servers := [⟨"a", "1"⟩]

/-- A daemon that is given this polls at the default period, and holds off as the default schedule
says; and it has said so. -/
theorem settings_agree_hasty :
    ∃ s : Service Backend.Site,
      (start hasty (some "lookout.toml") Service.panel).outcome = .ok s ∧
      given? hasty (some "lookout.toml") = some hastyGiven ∧
      (∀ past, Config.Sets { servers := [⟨"a", "1"⟩] } ((Scene.mk s.fleet []).after past).fleet) ∧
      .corrected .zeroIdle ∈ (start hasty (some "lookout.toml") Service.panel).notices ∧
      .corrected (.unusableDelays [2, 1]) ∈
        (start hasty (some "lookout.toml") Service.panel).notices := by
  have hGiven : given? hasty (some "lookout.toml") = some hastyGiven := by decide +kernel
  have hRepair : hastyGiven.repair
      = ({ servers := [⟨"a", "1"⟩] }, [.zeroIdle, .unusableDelays [2, 1]]) := by decide +kernel
  have hConfigured : configure hasty (some "lookout.toml") = .ok hastyGiven.repair := by
    decide +kernel
  obtain ⟨s, hRuns⟩ : ∃ s : Service Backend.Site,
      (start hasty (some "lookout.toml") Service.panel).outcome = .ok s := by
    obtain ⟨base, hBase⟩ : ∃ base, Url.parse "http://localhost:8080" = .ok base :=
      ⟨{ scheme := "http", host := some (.name "localhost"), port := some 8080,
         path := .segments [""] }, by decide +kernel⟩
    unfold start startService Service.make Backend.Client.make
    rw [hConfigured, hRepair]
    dsimp only
    rw [hBase]
    exact ⟨_, rfl⟩
  obtain ⟨given, hSame, hSets, hSaid⟩ :=
    settings_agree.2.2.1 Backend.Site hasty (some "lookout.toml") Service.panel s hRuns
  obtain rfl := Option.some.inj (hSame.symm.trans hGiven)
  rw [hRepair] at hSets hSaid
  refine ⟨s, hRuns, hGiven, hSets, ?_, ?_⟩
  · obtain ⟨k, hk, hField, hMem⟩ := (hSaid .idle (by simp)).resolve_left (by decide)
    rcases List.mem_cons.mp hk with rfl | hOther
    · exact hMem
    · rw [List.mem_singleton.mp hOther] at hField
      exact absurd hField (by decide)
  · obtain ⟨k, hk, hField, hMem⟩ := (hSaid .delays (by simp)).resolve_left (by decide)
    rcases List.mem_cons.mp hk with rfl | hOther
    · exact absurd hField (by decide)
    · rw [List.mem_singleton.mp hOther] at hMem
      exact hMem

end Program.Daemon

end Lookout
