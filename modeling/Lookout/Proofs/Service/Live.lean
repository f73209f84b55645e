import Lookout.Proofs.Service.Admission
import Lookout.Proofs.Service.Directory

set_option autoImplicit false

/-! # Requests in the midst of work

A request comes when it comes: fetches may be in flight, callbacks at work, timers due. Handling it
has two parts. When it is taken up (`takeUp`), all is done about it at once that is done at all, but
if it is for a fetch out of turn, the fetch is then waited for. Whatever falls due meanwhile is
somebody else's doing (`handle_waits`).

A `Moment` is a service with the callbacks that are at work, an `Event` an act of somebody or a
request that is taken up. A request makes of a moment what the acts make of it that it stands for
(`meet_request`), so a run with requests is a run of acts (`through_eq`), and the acts can be given
in place of a request wherever it comes. What a request does by itself is said by `Honours`, and
`requests_are_commands` sums up.
-/

namespace Lookout

/-! ## Callbacks that have been at work before -/

namespace Polling

/-- The same move when `n` more callbacks have been at work before all others. -/
def Move.behind {ω : Type} (n : Nat) : Move ω → Move ω
  | .conclude k => .conclude (n + k)
  | m => m

theorem Move.isTraffic_behind {ω : Type} (n : Nat) (m : Move ω) :
    (m.behind n).isTraffic = m.isTraffic := by
  cases m <;> rfl

theorem Scene.move_behind {ω : Type} [FetchSource ω] (s : Scene ω) (before : List Report)
    (m : Move ω) : (Scene.mk s.fleet (before ++ s.reports)).move (m.behind before.length)
      = ⟨(s.move m).fleet, before ++ (s.move m).reports⟩ := by
  cases m with
  | land k =>
      show (Scene.mk s.fleet (before ++ s.reports)).move (.land k) = _
      rw [move, move]
      dsimp only
      cases s.fleet.flights[k]? with
      | none => rfl
      | some f =>
          dsimp only
          rw [List.append_assoc]
  | conclude k =>
      rw [Move.behind, move, move]
      dsimp only
      rw [List.getElem?_append_right (Nat.le_add_right _ _), Nat.add_sub_cancel_left]
      cases s.reports[k]? with
      | none => rfl
      | some r =>
          dsimp only
          rw [List.eraseIdx_append_of_length_le (Nat.le_add_right _ _), Nat.add_sub_cancel_left]
  | _ => rfl

end Polling

namespace Backend

open Polling (Scene)

variable {ν : Type} [Network ν]

/-- The same act when `n` more callbacks have been at work before all others. -/
def Act.behind (n : Nat) : Act ν → Act ν
  | .call e id => .call e id
  | .other m plain => .other (m.behind n) ((m.isTraffic_behind n).trans plain)

theorem Act.move_behind (n : Nat) (u : Uplink ν) (a : Act ν) :
    (a.behind n).move u = (a.move u).behind n := by
  cases a <;> rfl

end Backend

namespace Polling.Scene

open Backend

variable {ν : Type} [Network ν]

theorem through_cons (s : Scene (Uplink ν)) (a : Act ν) (past : List (Act ν)) :
    s.through (a :: past)
      = (s.through past).move (a.move (s.through past).fleet.source) := rfl

theorem through_behind (s : Scene (Uplink ν)) (before : List Report) (acts : List (Act ν)) :
    (Scene.mk s.fleet (before ++ s.reports)).through (acts.map (·.behind before.length))
      = ⟨(s.through acts).fleet, before ++ (s.through acts).reports⟩ := by
  induction acts with
  | nil => rfl
  | cons a past ih => rw [List.map_cons, through_cons, ih, Act.move_behind, move_behind, through_cons]

/-- What works from a scene without callbacks at work does so behind any that are. -/
theorem Works.behind {f g : Fleet (Uplink ν)} (h : (Scene.mk f []).Works ⟨g, []⟩)
    (before : List Report) : (Scene.mk f before).Works ⟨g, before⟩ := by
  obtain ⟨acts, hActs⟩ := h
  have hBehind := (Scene.mk f []).through_behind before acts
  rw [hActs, List.append_nil] at hBehind
  exact ⟨_, hBehind⟩

end Polling.Scene

/-! ## Acts that requests stand for -/

namespace Admin

open Backend (Act)

variable {ν : Type} (directory : List (String × Nat))

/-- The acts that a route stands for. -/
def Route.acts : Route → List (Act ν)
  | .backoff | .pollers => []
  | .resume => [.other (.signal .forceResume) (Eq.refl false)]
  | .activate segment =>
    ((named? directory segment).map fun i => .other (.operate i .enterActive) (Eq.refl false)).toList
  | .poll segment => ((named? directory segment).map fun i => .other (.ask i) (Eq.refl false)).toList

/-- The acts that an admitted request stands for. -/
def Request.acts (r : Request) : List (Act ν) := (r.route?.map (Route.acts directory)).getD []

variable {directory} {r : Request}

theorem Request.acts_of_route {route : Route} (h : r.route? = some route) :
    r.acts (ν := ν) directory = route.acts directory := by
  rw [Request.acts, h, Option.map_some, Option.getD_some]

theorem Request.calls_of_route {route : Route} (h : r.route? = some route) :
    r.calls directory = route.calls directory := by
  rw [Request.calls, h, Option.map_some, Option.getD_some]

/-- Whether a request stands for anything, and for what. -/
theorem Request.stands_for (directory : List (String × Nat)) (r : Request) :
    (r.calls directory = [] ∧ r.acts (ν := ν) directory = []) ∨
    r.route? = some .resume ∨
    (∃ segment i, r.route? = some (.activate segment) ∧ named? directory segment = some i) ∨
    ∃ segment i, r.route? = some (.poll segment) ∧ named? directory segment = some i := by
  cases hRoute : r.route? with
  | none =>
      left
      rw [Request.calls, Request.acts, hRoute]
      exact ⟨rfl, rfl⟩
  | some route =>
      rw [calls_of_route hRoute, acts_of_route hRoute]
      cases route with
      | backoff => exact .inl ⟨rfl, rfl⟩
      | pollers => exact .inl ⟨rfl, rfl⟩
      | resume => exact .inr (.inl rfl)
      | activate segment =>
          cases hNamed : named? directory segment with
          | none =>
              left
              rw [Route.calls, Route.acts, hNamed]
              exact ⟨rfl, rfl⟩
          | some i => exact .inr (.inr (.inl ⟨segment, i, rfl, hNamed⟩))
      | poll segment =>
          cases hNamed : named? directory segment with
          | none =>
              left
              rw [Route.calls, Route.acts, hNamed]
              exact ⟨rfl, rfl⟩
          | some i => exact .inr (.inr (.inr ⟨segment, i, rfl, hNamed⟩))

/-- A request that stands for no command stands for no act. -/
theorem Request.acts_of_calls_nil (h : r.calls directory = []) :
    r.acts (ν := ν) directory = [] := by
  rcases r.stands_for (ν := ν) directory with
    ⟨-, hActs⟩ | hRoute | ⟨segment, i, hRoute, hNamed⟩ | ⟨segment, i, hRoute, hNamed⟩
  · exact hActs
  · rw [calls_of_route hRoute] at h
    cases h
  · rw [calls_of_route hRoute, Route.calls, hNamed] at h
    cases h
  · rw [calls_of_route hRoute, Route.calls, hNamed] at h
    cases h

variable (directory)

/-- The poller whose fetch is waited for, if a route leads to one. -/
def Route.awaited? : Route → Option Nat
  | .poll segment => named? directory segment
  | .backoff | .pollers | .resume | .activate _ => none

end Admin

namespace Service

open Admin (Request Route named?)
open Backend (Act FinalAnswer Network Uplink)
open Polling (FetchSource Fleet Report Scene)

variable {ν : Type} [Network ν] {s s₀ : Service ν} {r : Request}

/-- The poller whose fetch a request waits for, if it is admitted and leads to one. -/
def awaited? (s : Service ν) (r : Request) : Option Nat :=
  if Admin.admits s.apiKey r.authorization then r.route?.bind (Route.awaited? s.directory) else none

/-- A request is taken up: a fetch out of turn takes off, or else it is handled. -/
def takeUp (s : Service ν) (r : Request) : Service ν :=
  match s.awaited? r with
  | none => (s.handle r).1
  | some i => s.onFleet (·.asked i)

omit [Network ν] in
/-- A fetch is waited for only if an admitted request leads to it. -/
theorem route_of_awaited? {i : Nat} (h : s.awaited? r = some i) :
    Admin.admits s.apiKey r.authorization = true ∧ ∃ segment,
      r.route? = some (.poll segment) ∧ named? s.directory segment = some i := by
  unfold awaited? at h
  split at h
  next hAdmitted =>
    obtain ⟨route, hRoute, hAwaited⟩ := Option.bind_eq_some_iff.mp h
    cases route with
    | poll segment => exact ⟨hAdmitted, segment, hRoute, hAwaited⟩
    | _ => cases hAwaited
  next => cases h

omit [Network ν] in
/-- A request that stands for no command waits for no fetch. -/
theorem awaited?_of_calls_nil (h : r.calls s.directory = []) : s.awaited? r = none := by
  refine Option.eq_none_iff_forall_ne_some.mpr fun i hAwaited => ?_
  obtain ⟨-, segment, hRoute, hNamed⟩ := route_of_awaited? hAwaited
  rw [Request.calls, hRoute, Option.map_some, Option.getD_some, Route.calls, hNamed] at h
  cases h

/-- **Handling a request** is to take it up, and to wait for the fetch if there is one. -/
theorem handle_waits (s : Service ν) (r : Request) : (s.handle r).1
    = match s.awaited? r with
      | none => s.takeUp r
      | some i => (s.takeUp r).onFleet
          (·.advance (FetchSource.fetch s.fleet.source i).1.duration) := by
  cases hAwaited : s.awaited? r with
  | none => rw [takeUp, hAwaited]
  | some i =>
      obtain ⟨hAdmitted, segment, hRoute, hNamed⟩ := route_of_awaited? hAwaited
      rw [takeUp, hAwaited, handle_of_poll hAdmitted hRoute hNamed]

section Admitted

variable (hAdmitted : Admin.admits s.apiKey r.authorization = true)

include hAdmitted

omit [Network ν] in
theorem awaited?_of_route {route : Route} (hRoute : r.route? = some route) :
    s.awaited? r = route.awaited? s.directory := by
  rw [awaited?, if_pos hAdmitted, hRoute, Option.bind_some]

theorem takeUp_of_calls_nil (h : r.calls s.directory = []) : s.takeUp r = s := by
  rw [takeUp, awaited?_of_calls_nil h]
  exact handle_of_calls_nil hAdmitted h

theorem takeUp_of_resume (hRoute : r.route? = some .resume) :
    s.takeUp r = s.onFleet (·.tell .forceResume) := by
  rw [takeUp, awaited?_of_route hAdmitted hRoute, Route.awaited?]
  exact congrArg Prod.fst (handle_of_resume hAdmitted hRoute)

variable {segment : List Char} {i : Nat}

theorem takeUp_of_activate (hRoute : r.route? = some (.activate segment))
    (hNamed : named? s.directory segment = some i) :
    s.takeUp r = s.onFleet (·.enterActive i) := by
  rw [takeUp, awaited?_of_route hAdmitted hRoute, Route.awaited?]
  exact congrArg Prod.fst (handle_of_activate hAdmitted hRoute hNamed)

theorem takeUp_of_poll (hRoute : r.route? = some (.poll segment))
    (hNamed : named? s.directory segment = some i) : s.takeUp r = s.onFleet (·.asked i) := by
  rw [takeUp, awaited?_of_route hAdmitted hRoute, Route.awaited?, hNamed]

end Admitted

theorem manned_takeUp (h : s.fleet.Manned) (r : Request) : (s.takeUp r).fleet.Manned := by
  cases hAwaited : s.awaited? r with
  | none =>
      rw [takeUp, hAwaited]
      exact (leads_handle h r).manned
  | some i =>
      rw [takeUp, hAwaited]
      show (s.fleet.asked i).Manned
      obtain ⟨-, segment, -, hNamed⟩ := route_of_awaited? hAwaited
      rw [h.asked_eq (lt_of_named? hNamed)]
      exact h.ask i

/-- A service at any moment of its work, with the changes whose callbacks are at work. -/
structure Moment (ν : Type) where
  service : Service ν
  reports : List Report := []

/-- What can happen to a service: an act of somebody, or a request that is taken up. -/
inductive Event (ν : Type)
  | act (a : Act ν)
  | request (r : Request)

/-- Nobody gives up the main handle of a poller. -/
def Event.Keeps (e : Event ν) : Prop := ∀ i, e ≠ .act (.other (.operate i .dropMain) rfl)

/-- The acts that an event stands for. -/
def Event.acts (s : Service ν) : Event ν → List (Act ν)
  | .act a => [a]
  | .request r =>
    if Admin.admits s.apiKey r.authorization then r.acts s.directory
    else [.other (.note (.line (.adminRejected r.path))) rfl]

namespace Moment

variable {t : Moment ν}

/-- The fleet of a moment, with the callbacks that are at work. -/
def scene (t : Moment ν) : Scene (Uplink ν) := ⟨t.service.fleet, t.reports⟩

/-- The moment to which acts lead. -/
def work (t : Moment ν) (acts : List (Act ν)) : Moment ν where
  service := { t.service with fleet := (t.scene.through acts).fleet }
  reports := (t.scene.through acts).reports

theorem work_append (t : Moment ν) (later past : List (Act ν)) :
    t.work (later ++ past) = (t.work past).work later := by
  rw [work, Scene.through_append]
  rfl

/-- What an event makes of a moment. -/
def meet (t : Moment ν) : Event ν → Moment ν
  | .act a => t.work [a]
  | .request r => { t with service := t.service.takeUp r }

/-- Where a list of events leads, the newest of them first. -/
def through (t : Moment ν) : List (Event ν) → Moment ν
  | [] => t
  | e :: past => (t.through past).meet e

theorem through_append (t : Moment ν) (later past : List (Event ν)) :
    t.through (later ++ past) = (t.through past).through later := by
  induction later with
  | nil => rfl
  | cons e later ih => rw [List.cons_append, through, through, ih]

theorem through_map_act (t : Moment ν) (acts : List (Act ν)) :
    t.through (acts.map .act) = t.work acts := by
  induction acts with
  | nil => rfl
  | cons a past ih =>
      rw [List.map_cons, through, ih, meet]
      exact (t.work_append [a] past).symm

/-- All that is waited for while a request is handled is made of acts. -/
theorem exists_wait (h : s.fleet.Manned) (r : Request) (reports : List Report) :
    ∃ wait : List (Act ν), (Moment.mk (s.takeUp r) reports).work wait
      = ⟨(s.handle r).1, reports⟩ := by
  rw [handle_waits s r]
  cases hAwaited : s.awaited? r with
  | none => exact ⟨[], rfl⟩
  | some i =>
      obtain ⟨wait, hWait⟩ := (leads_advance (manned_takeUp h r)
        (FetchSource.fetch s.fleet.source i).1.duration).works.behind reports
      refine ⟨wait, ?_⟩
      -- What falls due meanwhile does so behind the callbacks that are at work.
      have hScene : (Moment.mk (s.takeUp r) reports).scene.through wait = _ := hWait
      rw [work, hScene]
      rfl

/-- **An admitted request** makes of a moment what the acts make of it that it stands for. -/
theorem meet_request (h : t.service.fleet.Manned)
    (hAdmitted : Admin.admits t.service.apiKey r.authorization = true) :
    t.meet (.request r) = t.work (r.acts t.service.directory) := by
  rcases r.stands_for (ν := ν) t.service.directory with
    ⟨hCalls, hActs⟩ | hRoute | ⟨segment, i, hRoute, hNamed⟩ | ⟨segment, i, hRoute, hNamed⟩
  · rw [meet, takeUp_of_calls_nil hAdmitted hCalls, hActs]
    rfl
  · rw [meet, takeUp_of_resume hAdmitted hRoute, Request.acts_of_route hRoute]
    rfl
  · -- The poller is manned, so whoever operates it has a handle, as the service has.
    have hMove : t.service.fleet.operate i .enterActive = t.service.fleet.enterActive i :=
      if_pos (h.allows (fun _ => rfl) (lt_of_named? hNamed))
    rw [meet, takeUp_of_activate hAdmitted hRoute hNamed, Request.acts_of_route hRoute, Route.acts,
      hNamed, onFleet, ← hMove]
    rfl
  · rw [meet, takeUp_of_poll hAdmitted hRoute hNamed, Request.acts_of_route hRoute, Route.acts,
      hNamed, onFleet, h.asked_eq (lt_of_named? hNamed)]
    rfl

/-- **An event** makes of a moment what the acts make of it that it stands for. -/
theorem meet_eq (h : t.service.fleet.Manned) (e : Event ν) :
    t.meet e = t.work (e.acts t.service) := by
  cases e with
  | act a => rfl
  | request r =>
      cases hAdmitted : Admin.admits t.service.apiKey r.authorization with
      | true =>
          rw [meet_request h hAdmitted, Event.acts, if_pos hAdmitted]
      | false =>
          have hAwaited : t.service.awaited? r = none :=
            if_neg (Bool.eq_false_iff.mp hAdmitted)
          rw [meet, takeUp, hAwaited, Event.acts, if_neg (Bool.eq_false_iff.mp hAdmitted),
            handle_of_refused hAdmitted]
          rfl

theorem manned_meet (h : t.service.fleet.Manned) {e : Event ν} (hKept : e.Keeps) :
    (t.meet e).service.fleet.Manned := by
  cases e with
  | request r => exact manned_takeUp h r
  | act a =>
      refine Scene.manned_move (s := t.scene) h (m := a.move _) fun i hDrop => ?_
      cases a with
      | call e id => cases hDrop
      | other m plain =>
          cases hDrop
          exact hKept i rfl

/-- The acts that a run of events stands for. -/
def acts (t : Moment ν) : List (Event ν) → List (Act ν)
  | [] => []
  | e :: past => e.acts (t.through past).service ++ t.acts past

/-- **A run with requests** is a run of acts. -/
theorem through_eq (h : t.service.fleet.Manned) {events : List (Event ν)}
    (hKept : ∀ e ∈ events, e.Keeps) :
    t.through events = t.work (t.acts events) ∧ (t.through events).service.fleet.Manned := by
  induction events with
  | nil => exact ⟨rfl, h⟩
  | cons e past ih =>
      obtain ⟨hPast, hManned⟩ := ih fun e' he' => hKept e' (List.mem_cons_of_mem e he')
      refine ⟨?_, manned_meet hManned (hKept e List.mem_cons_self)⟩
      rw [through, meet_eq hManned e, acts, work_append, ← hPast]

end Moment

/-! ## Every request -/

/-- Handling a request is something that becomes of a service. -/
theorem Reaches.handle (h : s₀.Reaches s) (r : Request) : s₀.Reaches (s.handle r).1 := by
  obtain ⟨reports, hWorks⟩ := h.works
  have hLeads := leads_handle h.manned r
  have hKey := s.apiKey_perform (.admin (some r))
  rw [perform_request] at hKey
  exact ⟨⟨reports, hWorks.trans (hLeads.works.behind reports)⟩, hLeads.manned, hKey.trans h.key⟩

/-- So is what a run of events leads to, if nobody gives up a main handle. -/
theorem reaches_through (h : s₀.fleet.Manned) {events : List (Event ν)}
    (hKept : ∀ e ∈ events, e.Keeps) :
    s₀.Reaches ((Moment.mk s₀ []).through events).service := by
  obtain ⟨hActs, hManned⟩ := Moment.through_eq (t := ⟨s₀, []⟩) h hKept
  rw [hActs] at hManned ⊢
  exact ⟨⟨_, _, rfl⟩, hManned, rfl⟩

/-- **What a service makes of a request** that it admits, whatever is under way.

* Nothing changes by a request that is no `POST`, or that is answered that it cannot be met.
* A request to resume lifts the pause by force, once, and shows the gate as it is then: no pause,
  level 0, no time remaining.
* A request for a poller to be active makes it so, once. It changes no other poller, and the gate
  not at all, and shows the poller as it is then.
* A request for a fetch out of turn has the poller fetch, once, and waits for the fetch; the answer
  is what the client gives. Nobody takes notice of the fetch but the gate, which is told the signal
  of the answer when the fetch lands. -/
structure Honours (s : Service ν) (r : Request) : Prop where
  nothing : r.method ≠ .post ∨ (s.handle r).2.Unmet →
    (s.handle r).1 = s ∧ r.acts s.directory = ([] : List (Act ν))
  resume : r.route? = some .resume →
    let t := s.onFleet (·.tell .forceResume)
    s.handle r = (t, .ok (.obj [("paused", .bool false), ("level", .nat 0),
      ("remaining_seconds", .nat 0),
      ("schedule_ms", .arr (s.fleet.gate.delays.toList.map .nat))])) ∧
    t.fleet.gate.paused = false ∧ t.fleet.gate.level = 0 ∧
      t.fleet.gate.remainingSeconds t.fleet.now = 0
  activate : ∀ segment i, r.route? = some (.activate segment) →
    named? s.directory segment = some i →
      let t := s.onFleet (·.enterActive i)
      s.handle r = (t, t.showPoller i) ∧
        (∀ j, j ≠ i → t.fleet.pollers[j]? = s.fleet.pollers[j]?) ∧ t.fleet.gate = s.fleet.gate
  poll : ∀ segment i, r.route? = some (.poll segment) → named? s.directory segment = some i →
    s.handle r = ((s.onFleet (·.asked i)).onFleet
        (·.advance (FetchSource.fetch s.fleet.source i).1.duration),
      polled (s.fleet.source.status i).1.result) ∧
    s.fleet.FetchesAside i ((s.fleet.source.answerTo? i).map FinalAnswer.signal).toList

theorem honours (hAdmitted : Admin.admits s.apiKey r.authorization = true) : s.Honours r where
  nothing hNothing := by
    have hCalls := calls_of_nothing hAdmitted hNothing
    exact ⟨handle_of_calls_nil hAdmitted hCalls, Request.acts_of_calls_nil hCalls⟩
  resume hRoute := ⟨handle_of_resume hAdmitted hRoute, rfl, rfl, rfl⟩
  activate _ i hRoute hNamed := ⟨handle_of_activate hAdmitted hRoute hNamed, s.enterActive_apart i⟩
  poll _ i hRoute hNamed := ⟨handle_of_poll hAdmitted hRoute hNamed, s.fetchesAside i⟩

/-- **Between two commands** a request does what the commands do that it stands for, and the rest of
the run, states and answers, is the same if they are given in its place. -/
theorem session_request {c : Config} {network : ν} (hMade : make c network = .ok s₀)
    (past : List Command) (hAdmitted : Admin.admits (s₀.after past).apiKey r.authorization = true) :
    let s := s₀.after past
    let request : Command := .admin (some r)
    (s.perform request).1 = s.after (r.calls s.directory) ∧
      ∀ later, (s₀.session (past ++ (request :: later))).drop (past.length + 1)
        = (s₀.session (past ++ (r.calls s.directory ++ later))).drop
            (past.length + (r.calls s.directory).length) := by
  intro s request
  have hCalls : (s.perform request).1 = s.after (r.calls s.directory) :=
    ((settled_make hMade).after past).perform_admitted hAdmitted
  refine ⟨hCalls, fun later => ?_⟩
  -- The service is the same after the request and after its commands, so the rest is too.
  have hRequest := s₀.drop_session (past ++ [request]) later
  have hInstead := s₀.drop_session (past ++ r.calls s.directory) later
  rw [List.append_assoc, List.length_append, after_append] at hRequest hInstead
  have hSame : s.after [request] = s.after (r.calls s.directory) := hCalls
  exact hRequest.trans ((congrArg (·.session later) hSame).trans hInstead.symm)

/-- **The admin interface is the calls that its requests stand for.** Take a service, and any request
that shows its key.

* At any time, whatever has happened and is under way, the service makes of the request what
  `Honours` says. It is handled by taking it up and waiting for the fetch, if there is one. Whichever
  callbacks are at work, and whatever comes later, the run is the same if the acts are done, in the
  place of the request, that it stands for.
* So every run with requests, as many as there may be, is the run of the acts that they stand for.
* After any run of commands, the request makes of the service what the commands make of it that it
  stands for, and the rest of the run, states and answers, is the same if these commands are given in
  its place. A fetch that takes no time is then all that happens until it has landed. -/
theorem requests_are_commands {c : Config} {network : ν} (hMade : make c network = .ok s₀)
    (hAdmitted : Admin.admits c.admin.apiKey r.authorization = true) :
    (∀ s, s₀.Reaches s → s.Honours r ∧ s₀.Reaches (s.handle r).1 ∧ ∀ reports,
      (∃ wait : List (Act ν), (Moment.mk s reports).through (wait.map .act ++ [.request r])
        = ⟨(s.handle r).1, reports⟩) ∧
      ∀ later, (Moment.mk s reports).through (later ++ [.request r])
        = (Moment.mk s reports).through (later ++ (r.acts s.directory).map .act)) ∧
    (∀ events : List (Event ν), (∀ e ∈ events, e.Keeps) →
      let t := Moment.mk s₀ []
      s₀.Reaches (t.through events).service ∧
        t.through events = t.through ((t.acts events).map .act)) ∧
    (∀ past,
      let s := s₀.after past
      let request : Command := .admin (some r)
      ((s.perform request).1 = s.after (r.calls s.directory) ∧
        ∀ later, (s₀.session (past ++ (request :: later))).drop (past.length + 1)
          = (s₀.session (past ++ (r.calls s.directory ++ later))).drop
              (past.length + (r.calls s.directory).length)) ∧
      ∀ segment i, r.route? = some (.poll segment) → named? s.directory segment = some i →
        s.fleet.FetchesOnly i ((s.fleet.source.answerTo? i).map FinalAnswer.signal).toList) := by
  have hKey : s₀.apiKey = c.admin.apiKey := (settings_make hMade).2
  have hManned : s₀.fleet.Manned := (manned_make hMade).1
  refine ⟨fun s hReaches => ?_, fun events hKept => ?_, fun past => ?_⟩
  · have hHere : Admin.admits s.apiKey r.authorization = true := by
      rw [hReaches.key, hKey]
      exact hAdmitted
    refine ⟨honours hHere, hReaches.handle r, fun reports => ⟨?_, fun later => ?_⟩⟩
    · obtain ⟨wait, hWait⟩ := Moment.exists_wait hReaches.manned r reports
      refine ⟨wait, ?_⟩
      rw [Moment.through_append, Moment.through_map_act]
      exact hWait
    · rw [Moment.through_append, Moment.through_append, Moment.through_map_act]
      exact congrArg (·.through later) (Moment.meet_request (t := ⟨s, reports⟩) hReaches.manned hHere)
  · refine ⟨reaches_through hManned hKept, ?_⟩
    rw [Moment.through_map_act]
    exact (Moment.through_eq (t := ⟨s₀, []⟩) hManned hKept).1
  · have hHere : Admin.admits (s₀.after past).apiKey r.authorization = true := by
      rw [s₀.apiKey_after past, hKey]
      exact hAdmitted
    refine ⟨session_request hMade past hHere, fun _ i _ _ => ?_⟩
    exact ((settled_make hMade).after past).fetchesOnly i

/-- A request for a fetch out of turn is taken up, and then one to resume, before the fetch has
landed, which it does with a refusal. -/
theorem requests_are_commands_under_way :
    let t := (Moment.mk guardedService []).through
      [.request ⟨.post, "/admin/pollers/one/poll", some "Bearer key"⟩]
    t.service.fleet.flights.length = 1 ∧
      (t.service.handle ⟨.post, "/admin/backoff/resume", some "Bearer key"⟩).1
        = t.service.onFleet (·.tell .forceResume) ∧
      ∀ later, t.through (later ++ [.request ⟨.post, "/admin/backoff/resume", some "Bearer key"⟩])
        = t.through (later ++ [.act (.other (.signal .forceResume) rfl)]) := by
  have hAdmitted : Admin.admits guarded.admin.apiKey (some "Bearer key") = true := by
    decide +kernel
  have hRoute : Request.route? ⟨.post, "/admin/backoff/resume", some "Bearer key"⟩
      = some .resume := by
    decide +kernel
  obtain ⟨hAlways, hRuns, -⟩ := requests_are_commands make_guarded
    (r := ⟨.post, "/admin/backoff/resume", some "Bearer key"⟩) hAdmitted
  obtain ⟨hReaches, -⟩ := hRuns [.request ⟨.post, "/admin/pollers/one/poll", some "Bearer key"⟩]
    (fun e he i hDrop => by
      rw [List.mem_singleton.mp he] at hDrop
      cases hDrop)
  obtain ⟨hHonours, -, hSame⟩ := hAlways _ hReaches
  refine ⟨by decide +kernel, congrArg Prod.fst (hHonours.resume hRoute).1, fun later => ?_⟩
  have hLater := (hSame []).2 later
  rw [Request.acts_of_route hRoute] at hLater
  exact hLater

end Service

end Lookout
