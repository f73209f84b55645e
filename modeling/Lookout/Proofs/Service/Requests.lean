import Lookout.Proofs.Service.Settled

set_option autoImplicit false

/-! # Requests stand for commands

The admin interface can do nothing that the library cannot. `Request.calls` says which commands a
request stands for: one operation at most, none if it only looks or if nothing comes of it. What an
admitted request does by itself can be read off its route (`handle_of_resume` and the like), and
between two commands it makes of a service what the commands make of it that it stands for
(`perform_admitted`). `Proofs/Service/Live.lean` is about requests in the midst of work.

A fetch out of turn is made of two moves, that the poller asks and that the fetch lands. Neither
changes anything of a poller but the record of its fetches, and the gate is told only what the
client makes of the answer (`FetchesAside`). What else happens in between is what would happen to a
service at that time anyway; if the fetch takes no time and nothing is due, there is nothing else
(`FetchesOnly`).
-/

namespace Lookout

namespace Admin

open Service (Command)

/-- The poller that a segment of a path names. -/
def named? (directory : List (String × Nat)) (segment : List Char) : Option Nat :=
  (Text.percentDecode? segment).bind fun name => directory.lookup name

/-- The commands that a route stands for. -/
def Route.calls (directory : List (String × Nat)) : Route → List Command
  | .backoff | .pollers => []
  | .resume => [.signal .forceResume]
  | .activate segment => ((named? directory segment).map fun i => .enterActive [i]).toList
  | .poll segment => ((named? directory segment).map fun i => .pollNow [i]).toList

/-- Where a request leads, if there is a route that knows its method. -/
def Request.route? (r : Request) : Option Route :=
  (Route.ofPath? r.path).filter (·.allows r.method)

/-- The commands that an admitted request stands for. -/
def Request.calls (directory : List (String × Nat)) (r : Request) : List Command :=
  (r.route?.map (Route.calls directory)).getD []

example : Request.calls [("one", 0)] ⟨.post, "/admin/pollers/one/poll", none⟩ = [.pollNow [0]] := by
  decide +kernel

/-- The answers to requests that cannot be met: there is no such poller or place, the place does not
know the method, or the name of the poller is no text. -/
def Answer.Unmet (a : Answer) : Prop := a.status = 400 ∨ a.status = 404 ∨ a.status = 405

/-- Only a `POST` stands for a command. -/
theorem Request.calls_of_not_post {r : Request} (h : r.method ≠ .post)
    (directory : List (String × Nat)) : r.calls directory = [] := by
  unfold calls
  cases hRoute : r.route? with
  | none => rfl
  | some route =>
      have hAllows : route.allows r.method = true := (Option.filter_eq_some_iff.mp hRoute).2
      cases route with
      | backoff => rfl
      | pollers => rfl
      | _ => cases hMethod : r.method <;> simp_all [Route.allows]

end Admin

open Backend (CallError FinalAnswer Network Uplink)
open Polling (Effect Fleet FetchSource Flight Poller Scene)

/-! ## What a fetch out of turn does -/

namespace Polling.Fleet

variable {ω : Type} [FetchSource ω] {s : Fleet ω}

/-- **Poller `i` does nothing but fetch**, whatever else is going on, and the fetch tells the gate
these signals.

* When it is asked, its fetches are recorded, the fetch operation is called, and the fetch is in
  flight; nothing else changes.
* Whenever the fetch lands, and whatever has happened until then, no poller takes notice of it and
  no change is reported, and the gate is told the signals. -/
structure FetchesAside (s : Fleet ω) (i : Nat) (signals : List Backoff.Signal) : Prop where
  asked : s.asked i = { s with
    pollers := s.pollers.modify i (·.noteFetch s.now)
    source := (FetchSource.fetch s.source i).2
    flights := s.flights ++ [s.flight i .direct] }
  lands : ∀ (t : Scene ω) k, t.fleet.flights[k]? = some (s.flight i .direct) →
    (t.move (.land k)).fleet.pollers = t.fleet.pollers ∧ (t.move (.land k)).reports = t.reports ∧
      (t.move (.land k)).fleet.gate = hear t.fleet.now t.fleet.gate signals

/-- **Poller `i` does nothing but fetch**, and if the fetch takes no time, this is all that happens
until it has landed. -/
structure FetchesOnly (s : Fleet ω) (i : Nat) (signals : List Backoff.Signal) : Prop
    extends s.FetchesAside i signals where
  atOnce : (FetchSource.fetch s.source i).1.duration = 0 →
    ((s.asked i).advance 0).pollers = s.pollers.modify i (·.noteFetch s.now) ∧
      ((s.asked i).advance 0).gate = hear s.now s.gate signals ∧
      ((s.asked i).advance 0).flights = s.flights ∧ ((s.asked i).advance 0).now = s.now

omit [FetchSource ω] in
/-- A fetch that nobody's run waits for is no deed of a poller. -/
theorem deed?_of_direct {f : Flight} (h : f.purpose = .direct) : f.deed? = none := by
  rw [Flight.deed?, h]

/-- **A fetch out of turn** is that, at any time. -/
theorem fetchesAside (s : Fleet ω) (i : Nat) :
    s.FetchesAside i ((FetchSource.fetch s.source i).1.effects.filterMap Effect.signal?) where
  asked := s.asked_frame i
  lands t k hFlight := by
    have hDeed : t.deed? (.land k) = none := by
      rw [Scene.deed?, hFlight, Option.bind_some]
      exact deed?_of_direct rfl
    refine ⟨List.ext_getElem? fun j => ?_, ?_, ?_⟩
    · rw [Scene.getElem?_move, Scene.map_turn_of_none hDeed]
    · rw [Scene.reports_eq, Scene.opened_of_none hDeed, List.append_nil]
      rfl
    · rw [Scene.gate_move t (by simp), Scene.signals, hFlight, Option.map_some, Option.getD_some]
      rfl

/-- **A fetch out of turn** while nothing is due is that, and nothing else. -/
theorem AtRest.fetchesOnly (h : s.AtRest) (i : Nat) :
    s.FetchesOnly i ((FetchSource.fetch s.source i).1.effects.filterMap Effect.signal?) where
  toFetchesAside := s.fetchesAside i
  atOnce hNow := by
    have hLanded : (s.asked i).advance 0
        = (FetchSource.fetch s.source i).1.effects.foldl effect (s.callFetch i).2 := by
      have hWaited := (h.callFetch i).await (f := (s.callFetch i).1) hNow
      have hDuration : (s.callFetch i).1.duration = 0 := hNow
      rw [Fleet.await, hDuration] at hWaited
      exact hWaited
    obtain ⟨hPollers, hFlights, hTime, -⟩ :=
      effects_frame (FetchSource.fetch s.source i).1.effects (s.callFetch i).2
    rw [hLanded, hPollers, gate_effects, hFlights, hTime]
    exact ⟨rfl, rfl, rfl, rfl⟩

end Polling.Fleet

namespace Service

open Admin (Request Route named?)

variable {ν : Type} {s : Service ν}

/-! ## What a request makes of a service -/

theorem onNamed_of_some {segment : List Char} {i : Nat} (h : named? s.directory segment = some i)
    (act : Nat → Service ν × Admin.Answer) : s.onNamed segment act = act i := by
  obtain ⟨name, hName, hFound⟩ := Option.bind_eq_some_iff.mp h
  have hPoller : s.poller? name = some i := hFound
  rw [onNamed, hName]
  dsimp only
  rw [hPoller]

theorem onNamed_of_none {segment : List Char} (h : named? s.directory segment = none)
    (act : Nat → Service ν × Admin.Answer) :
    (s.onNamed segment act).1 = s ∧ (s.onNamed segment act).2.Unmet := by
  unfold onNamed
  split
  next => exact ⟨rfl, .inl rfl⟩
  next name hName =>
    rw [named?, hName, Option.bind_some] at h
    have hPoller : s.poller? name = none := h
    rw [hPoller]
    exact ⟨rfl, .inr (.inl rfl)⟩

theorem lt_of_named? {segment : List Char} {i : Nat} (h : named? s.directory segment = some i) :
    i < s.fleet.pollers.length := by
  obtain ⟨name, -, hFound⟩ := Option.bind_eq_some_iff.mp h
  exact lt_of_poller? hFound

variable [Network ν]

/-- A request that leads nowhere. -/
theorem serve_of_none {r : Request} (h : r.route? = none) :
    (s.serve r).1 = s ∧ (s.serve r).2.Unmet := by
  unfold serve
  split
  next => exact ⟨rfl, .inr (.inl rfl)⟩
  next route hRoute =>
    split
    next hAllows =>
      rw [Request.route?, hRoute, Option.filter_some, if_pos hAllows] at h
      cases h
    next => exact ⟨rfl, .inr (.inr rfl)⟩

/-- A request that leads somewhere. -/
theorem serve_of_some {r : Request} {route : Route} (h : r.route? = some route) :
    (s.serve r).1 = (s.visit route).1 ∧ (s.serve r).2.status = (s.visit route).2.status ∧
      (r.method ≠ .head → (s.serve r).2 = (s.visit route).2) := by
  obtain ⟨hRoute, hAllows⟩ := Option.filter_eq_some_iff.mp h
  rw [serve, hRoute]
  dsimp only
  rw [if_pos hAllows]
  refine ⟨rfl, ?_, fun hMethod => if_neg hMethod⟩
  dsimp only
  split <;> rfl

/-- A service at rest that is told a signal is at rest. -/
theorem Settled.perform_signal (h : s.Settled) (x : Backoff.Signal) :
    (s.perform (.signal x)).1 = s.onFleet (·.tell x) := by
  have hTold : (s.fleet.tell x).AtRest := h.atRest.effects [.signal x]
  show { s with fleet := (s.fleet.tell x).settle } = _
  rw [hTold.settle]
  rfl

/-- **What a route is for** is what its commands do. -/
theorem Settled.settle_visit (h : s.Settled) (route : Route) :
    (s.visit route).1.settle = s.after (route.calls s.directory) := by
  cases route with
  | backoff => exact h.settle
  | pollers => exact h.settle
  | resume => rfl
  | activate segment =>
      rw [visit, Route.calls]
      cases hNamed : named? s.directory segment with
      | none =>
          rw [(onNamed_of_none hNamed _).1]
          exact h.settle
      | some i =>
          rw [onNamed_of_some hNamed]
          rfl
  | poll segment =>
      rw [visit, Route.calls]
      cases hNamed : named? s.directory segment with
      | none =>
          rw [(onNamed_of_none hNamed _).1]
          exact h.settle
      | some i =>
          have hi := lt_of_named? hNamed
          have hShown : (s.showPoll i).1 = (s.pollNow i).1 := by
            unfold showPoll
            generalize s.pollNow i = polled
            obtain ⟨s', result⟩ := polled
            cases result <;> rfl
          -- The fetch was waited for, so nothing is due when the request is done.
          rw [onNamed_of_some hNamed, hShown, (h.onTime.pollNow hi).settle]
          exact (perform_pollNow hi).symm

/-- **An admitted request** does what the commands do that it stands for. -/
theorem Settled.perform_admitted (h : s.Settled) {r : Request}
    (hAdmitted : Admin.admits s.apiKey r.authorization = true) :
    (s.perform (.admin (some r))).1 = s.after (r.calls s.directory) := by
  have hServed : (s.perform (.admin (some r))).1 = (s.serve r).1.settle := by
    rw [Service.perform, handle, if_pos hAdmitted]
  rw [hServed, Request.calls]
  cases hRoute : r.route? with
  | none =>
      rw [(serve_of_none hRoute).1]
      exact h.settle
  | some route =>
      rw [(serve_of_some hRoute).1]
      exact h.settle_visit route

/-- A request that cannot be met stands for no command. -/
theorem calls_of_unmet {r : Request} (h : (s.serve r).2.Unmet) : r.calls s.directory = [] := by
  rw [Request.calls]
  cases hRoute : r.route? with
  | none => rfl
  | some route =>
      rw [Admin.Answer.Unmet, (serve_of_some hRoute).2.1] at h
      rw [Option.map_some, Option.getD_some]
      cases route with
      | backoff => rfl
      | pollers => rfl
      | resume => simp [visit, Admin.Answer.ok] at h
      | activate segment =>
          rw [Route.calls]
          cases hNamed : named? s.directory segment with
          | none => rfl
          | some i =>
              rw [visit, onNamed_of_some hNamed] at h
              simp [activate, showPoller] at h
      | poll segment =>
          rw [Route.calls]
          cases hNamed : named? s.directory segment with
          | none => rfl
          | some i =>
              rw [visit, onNamed_of_some hNamed, showPoll] at h
              generalize s.pollNow i = polled at h
              obtain ⟨s', result⟩ := polled
              cases result with
              | ok status => simp [Admin.Answer.ok] at h
              | error e => by_cases hLimited : e = .rateLimited <;>
                  simp [Admin.Answer.failedPoll, hLimited] at h

/-- What a fetch out of turn tells the gate is what the client makes of the answer. -/
theorem signals_fetch (u : Uplink ν) (i : Nat) :
    (FetchSource.fetch u i).1.effects.filterMap Effect.signal?
      = ((u.answerTo? i).map FinalAnswer.signal).toList := by
  rw [u.effects_fetch, (Backend.reports_effectsOf _).told]

theorem fetchesAside (s : Service ν) (i : Nat) :
    s.fleet.FetchesAside i ((s.fleet.source.answerTo? i).map FinalAnswer.signal).toList :=
  signals_fetch s.fleet.source i ▸ s.fleet.fetchesAside i

theorem Settled.fetchesOnly (h : s.Settled) (i : Nat) :
    s.fleet.FetchesOnly i ((s.fleet.source.answerTo? i).map FinalAnswer.signal).toList :=
  signals_fetch s.fleet.source i ▸ h.atRest.fetchesOnly i

/-! ## Every request -/

/-- The answer to a request for a fetch out of turn. -/
def polled : Except CallError Backend.ServerStatus → Admin.Answer
  | .ok status => .ok status.toJson
  | .error e => .failedPoll e

theorem showPoll_eq (s : Service ν) (i : Nat) :
    s.showPoll i = ((s.pollNow i).1, polled (s.fleet.source.status i).1.result) := by
  have hResult : (s.pollNow i).2 = (s.fleet.source.status i).1.result := by
    unfold pollNow
    generalize s.fleet.callFetch i = called
    obtain ⟨f, fleet⟩ := called
    dsimp only
  rw [← hResult, showPoll]
  generalize s.pollNow i = made
  obtain ⟨s', result⟩ := made
  cases result <;> rfl

theorem method_of_route? {r : Request} {route : Route} (hRoute : r.route? = some route)
    (hGet : route.allows .get = false) : r.method = .post := by
  have hAllows := (Option.filter_eq_some_iff.mp hRoute).2
  cases route <;> cases hMethod : r.method <;> simp_all [Route.allows]

/-- A route that stands for no command changes nothing. -/
theorem visit_of_calls_nil {route : Route} (h : route.calls s.directory = []) :
    (s.visit route).1 = s := by
  cases route with
  | backoff => rfl
  | pollers => rfl
  | resume => cases h
  | activate segment =>
      rw [Route.calls, Option.toList_eq_nil_iff, Option.map_eq_none_iff] at h
      exact (onNamed_of_none h _).1
  | poll segment =>
      rw [Route.calls, Option.toList_eq_nil_iff, Option.map_eq_none_iff] at h
      exact (onNamed_of_none h _).1

section Admitted

variable {r : Request} (hAdmitted : Admin.admits s.apiKey r.authorization = true)

include hAdmitted

/-- What an admitted request leads to is done, and answered. -/
theorem handle_of_route {route : Route} (hRoute : r.route? = some route)
    (hMethod : r.method ≠ .head) : s.handle r = s.visit route := by
  obtain ⟨hState, -, hAnswer⟩ := serve_of_some (s := s) hRoute
  rw [handle, if_pos hAdmitted]
  exact Prod.ext hState (hAnswer hMethod)

/-- An admitted `POST`. -/
theorem handle_of_post {route : Route} (hRoute : r.route? = some route)
    (hGet : route.allows .get = false) : s.handle r = s.visit route := by
  refine handle_of_route hAdmitted hRoute ?_
  rw [method_of_route? hRoute hGet]
  nofun

/-- A request that stands for no command changes nothing. -/
theorem handle_of_calls_nil (hNone : r.calls s.directory = []) : (s.handle r).1 = s := by
  rw [handle, if_pos hAdmitted]
  cases hRoute : r.route? with
  | none => exact (serve_of_none hRoute).1
  | some route =>
      rw [Request.calls, hRoute, Option.map_some, Option.getD_some] at hNone
      rw [(serve_of_some hRoute).1, visit_of_calls_nil hNone]

/-- A request to look, or one that cannot be met. -/
theorem calls_of_nothing (hNothing : r.method ≠ .post ∨ (s.handle r).2.Unmet) :
    r.calls s.directory = [] := by
  rcases hNothing with hMethod | hUnmet
  · exact Request.calls_of_not_post hMethod _
  · rw [handle, if_pos hAdmitted] at hUnmet
    exact calls_of_unmet hUnmet

/-- A request to resume. -/
theorem handle_of_resume (hRoute : r.route? = some .resume) :
    s.handle r = (s.onFleet (·.tell .forceResume), .ok (.obj [("paused", .bool false),
      ("level", .nat 0), ("remaining_seconds", .nat 0),
      ("schedule_ms", .arr (s.fleet.gate.delays.toList.map .nat))])) := by
  rw [handle_of_post hAdmitted hRoute rfl]
  rfl

/-- A request for a poller to be active. -/
theorem handle_of_activate {segment : List Char} {i : Nat}
    (hRoute : r.route? = some (.activate segment)) (hNamed : named? s.directory segment = some i) :
    s.handle r = (s.onFleet (·.enterActive i), (s.onFleet (·.enterActive i)).showPoller i) := by
  rw [handle_of_post hAdmitted hRoute rfl, visit, onNamed_of_some hNamed]
  rfl

/-- A request for a fetch out of turn. -/
theorem handle_of_poll {segment : List Char} {i : Nat}
    (hRoute : r.route? = some (.poll segment)) (hNamed : named? s.directory segment = some i) :
    s.handle r = ((s.onFleet (·.asked i)).onFleet
        (·.advance (FetchSource.fetch s.fleet.source i).1.duration),
      polled (s.fleet.source.status i).1.result) := by
  rw [handle_of_post hAdmitted hRoute rfl, visit, onNamed_of_some hNamed, showPoll_eq,
    s.pollNow_fst i]

end Admitted

/-- A request is handled, and all is done that is due then. -/
theorem perform_request (s : Service ν) (r : Request) :
    s.perform (.admin (some r)) = ((s.handle r).1.settle, .admin (s.handle r).2) := by
  rw [perform]

/-- A request for a poller to be active. -/
theorem perform_activate {r : Request} (hAdmitted : Admin.admits s.apiKey r.authorization = true)
    {segment : List Char} {i : Nat}
    (hRoute : r.route? = some (.activate segment)) (hNamed : named? s.directory segment = some i) :
    (s.perform (.admin (some r))).1 = (s.onFleet (·.enterActive i)).settle ∧
      (s.perform (.admin (some r))).2 = .admin ((s.onFleet (·.enterActive i)).showPoller i) := by
  rw [perform_request, handle_of_activate hAdmitted hRoute hNamed]
  exact ⟨rfl, rfl⟩

namespace Settled

variable {r : Request} (h : s.Settled)
  (hAdmitted : Admin.admits s.apiKey r.authorization = true)

include h hAdmitted

/-- A request to resume. -/
theorem perform_resume (hRoute : r.route? = some .resume) :
    (s.perform (.admin (some r))).1 = s.onFleet (·.tell .forceResume) ∧
      (s.perform (.admin (some r))).2 = .admin (.ok (.obj [("paused", .bool false),
        ("level", .nat 0), ("remaining_seconds", .nat 0),
        ("schedule_ms", .arr (s.fleet.gate.delays.toList.map .nat))])) := by
  rw [perform_request, handle_of_resume hAdmitted hRoute]
  exact ⟨h.perform_signal .forceResume, rfl⟩

/-- A request for a fetch out of turn. -/
theorem perform_poll {segment : List Char} {i : Nat}
    (hRoute : r.route? = some (.poll segment)) (hNamed : named? s.directory segment = some i) :
    (s.perform (.admin (some r))).1 = (s.onFleet (·.asked i)).onFleet
        (·.advance (FetchSource.fetch s.fleet.source i).1.duration) ∧
      (s.perform (.admin (some r))).2 = .admin (polled (s.fleet.source.status i).1.result) := by
  have hPolled := (h.onTime.pollNow (lt_of_named? hNamed)).settle
  rw [s.pollNow_fst i] at hPolled
  rw [perform_request, handle_of_poll hAdmitted hRoute hNamed]
  dsimp only
  exact ⟨hPolled, rfl⟩

end Settled

/-- Making a poller active changes no other, and the gate not at all. -/
theorem enterActive_apart (s : Service ν) (i : Nat) :
    (∀ j, j ≠ i → (s.fleet.enterActive i).pollers[j]? = s.fleet.pollers[j]?) ∧
      (s.fleet.enterActive i).gate = s.fleet.gate := by
  have hDoes := s.fleet.does_carryOut i .enterActive
  refine ⟨fun j hj => ?_, hDoes.gate⟩
  show (s.fleet.carryOut i .enterActive).pollers[j]? = _
  rw [hDoes.getElem? j]
  simp [Ne.symm hj]

/-- The settings of one server that is overloaded at first, and a key. -/
def guarded : Config where
  transport := { baseUrl := "http://panel" }
  servers := [⟨"one", "a"⟩]
  admin := { apiKey := some "key" }

/-- Their service. -/
def guardedService : Service Backend.Site where
  fleet :=
    { gate := { delays := .ofList Backoff.defaultDelays }
      pollers := [pollerOf guarded.polling.cadence ⟨"one", "a"⟩]
      source :=
        { client :=
            { base := { scheme := "http", host := some (.name "panel"), path := .segments [""] }
              settings := guarded.transport }
          servers := guarded.servers
          network := panel } }
  apiKey := some "key"

theorem make_guarded : make guarded panel = .ok guardedService := by
  have hBase : Url.parse guarded.transport.baseUrl
      = .ok { scheme := "http", host := some (.name "panel"), path := .segments [""] } := by
    show Url.parse "http://panel" = _
    decide +kernel
  have hEntries : Backoff.Gate.make guarded.delays
      = ({ delays := .ofList Backoff.defaultDelays }, []) := by
    rw [Backoff.Gate.make, if_pos (by decide +kernel)]
    rfl
  unfold make Backend.Client.make
  rw [hBase, hEntries]
  rfl

end Service

end Lookout
