import Lookout.Backend.Site
import Lookout.Proofs.Backend.Traffic
import Lookout.Proofs.Polling.Manned
import Lookout.Service.Session

set_option autoImplicit false

/-! # A service at work makes a run of acts

Whatever a service is told to do, by a command or by a request to its admin interface, is made of
acts (`session_works`): the client is called, pollers are operated or asked to fetch, the gate is
told a signal, and all work that falls due is done. So what holds after every list of acts holds of
every service that a session goes through.

The pollers of a service are manned, and stay so: nobody gives up the handles that the service has
of them. A call that obtains an answer, made while nothing is due, has come back before anything
else happens (`returnsFirst_perform`); what an answer comes to, and that each is reported once, is
summed up in `answers_reported`.
-/

namespace Lookout

namespace Polling.Scene

open Backend

variable {ν : Type} [Network ν]

theorem moves_append (s : Scene (Uplink ν)) (later past : List (Act ν)) :
    s.moves (later ++ past) = (s.through past).moves later ++ s.moves past := by
  induction later with
  | nil => rfl
  | cons a later ih =>
      rw [List.cons_append, moves, moves, ih, after_append]
      rfl

theorem through_append (s : Scene (Uplink ν)) (later past : List (Act ν)) :
    s.through (later ++ past) = (s.through past).through later := by
  rw [through, moves_append, after_append]
  rfl

/-- Some list of acts leads from `s` to `t`. -/
def Works (s t : Scene (Uplink ν)) : Prop := ∃ acts, s.through acts = t

theorem Works.refl (s : Scene (Uplink ν)) : s.Works s := ⟨[], rfl⟩

theorem Works.trans {s t u : Scene (Uplink ν)} (h : s.Works t) (h' : t.Works u) : s.Works u := by
  obtain ⟨past, rfl⟩ := h
  obtain ⟨later, rfl⟩ := h'
  exact ⟨later ++ past, through_append s later past⟩

theorem Works.call (s : Scene (Uplink ν)) (e : Config.Endpoint) (id : String) :
    s.Works (s.move (.call (s.fleet.source.errand e id).1 (s.fleet.source.errand e id).2)) :=
  ⟨[.call e id], rfl⟩

theorem Works.other (s : Scene (Uplink ν)) {m : Move (Uplink ν)} (plain : m.isTraffic = false) :
    s.Works (s.move m) :=
  ⟨[.other m plain], rfl⟩

/-- Moves without any traffic are acts. -/
theorem Reaches.works {s t : Scene (Uplink ν)} (h : s.Reaches t) : s.Works t := by
  obtain ⟨moves, -, hPlain, rfl⟩ := h
  induction moves with
  | nil => exact .refl s
  | cons m past ih =>
      have hPast := ih fun m' hm' => hPlain m' (List.mem_cons_of_mem m hm')
      exact hPast.trans (.other _ (hPlain m List.mem_cons_self))

end Polling.Scene

namespace Service

open Backend (Act ActionOutcome Call CallError Ends FinalAnswer Network Payload ServerStatus Uplink
  maxHops)
open Polling (Fleet Flight Move Operation Scene hear)

variable {ν : Type} [Network ν]

/-- Acts lead from `s` to `s'`, which has as many pollers, all of them manned. -/
structure Leads (s s' : Service ν) : Prop where
  works : (Scene.mk s.fleet []).Works ⟨s'.fleet, []⟩
  manned : s'.fleet.Manned
  size : s'.fleet.pollers.length = s.fleet.pollers.length

variable {s : Service ν}

theorem Leads.refl (h : s.fleet.Manned) : s.Leads s := ⟨.refl _, h, rfl⟩

theorem Leads.trans {s₁ s₂ : Service ν} (h : s.Leads s₁) (h' : s₁.Leads s₂) : s.Leads s₂ :=
  ⟨h.works.trans h'.works, h'.manned, h'.size.trans h.size⟩

/-- Something that is told to the gate or put in the journal. -/
theorem leads_aside (h : s.fleet.Manned) {m : Move (Uplink ν)} (plain : m.isTraffic = false)
    {fleet : Fleet (Uplink ν)} (hMove : (Scene.mk s.fleet []).move m = ⟨fleet, []⟩)
    (hPollers : fleet.pollers = s.fleet.pollers) : s.Leads { s with fleet := fleet } where
  works := hMove ▸ .other _ plain
  manned := h.congr hPollers
  size := congrArg List.length hPollers

/-- All work that is due by a time. -/
theorem leads_runTo (h : s.fleet.Manned) {target : Nat} (hNow : s.fleet.now ≤ target) (ms : Nat) :
    s.Leads (s.onFleet (·.runTo target ms)) := by
  have hRun := s.fleet.leads_runTo hNow ms
  refine ⟨hRun.run.works, h.runTo target ms, ?_⟩
  have hOthers := congrArg List.length hRun.others
  rw [Fleet.others, Fleet.others, List.length_map, List.length_map] at hOthers
  exact hOthers

theorem leads_settle (h : s.fleet.Manned) : s.Leads s.settle := leads_runTo h (Nat.le_refl _) 0

theorem leads_advance (h : s.fleet.Manned) (ms : Nat) : s.Leads (s.onFleet (·.advance ms)) :=
  leads_runTo h (Nat.le_add_right _ ms) ms

/-! ## Operations on pollers -/

/-- An operation on a poller. -/
theorem leads_carryOut (h : s.fleet.Manned) {o : Operation} (ho : o.Common) (i : Nat) :
    s.Leads (s.onFleet (·.carryOut i o)) := by
  refine ⟨?_, h.carryOut ho i, ?_⟩
  · by_cases hi : i < s.fleet.pollers.length
    · have hMove := Scene.Works.other (Scene.mk s.fleet []) (m := .operate i o) rfl
      rw [Scene.move, Fleet.operate, if_pos (h.allows ho hi)] at hMove
      exact hMove
    · have hSame := Fleet.carryOut_of_none (List.getElem?_eq_none (Nat.le_of_not_lt hi)) o
      show (Scene.mk s.fleet []).Works ⟨s.fleet.carryOut i o, []⟩
      rw [hSame]
      exact .refl _
  · show (s.fleet.carryOut i o).pollers.length = _
    rw [(s.fleet.does_carryOut i o).pollers, List.length_modify]

/-- An operation on several pollers, and all work that is due after it. -/
theorem leads_onEach (h : s.fleet.Manned) {o : Operation} (ho : o.Common)
    (pollers : List Nat) : s.Leads (s.onEach pollers fun fleet i => fleet.carryOut i o) := by
  have hEach : s.Leads (s.onFleet fun fleet =>
      pollers.foldl (fun fleet i => fleet.carryOut i o) fleet) := by
    induction pollers generalizing s with
    | nil => exact .refl h
    | cons i rest ih =>
        have hOne := leads_carryOut h ho i
        exact hOne.trans (ih hOne.manned)
  exact hEach.trans (leads_settle hEach.manned)

/-! ## Calls -/

/-- A poller fetches out of turn, and time passes until it has its result. -/
theorem leads_pollNow (h : s.fleet.Manned) {i : Nat} (hi : i < s.fleet.pollers.length) :
    s.Leads (s.pollNow i).1 := by
  have hAsk := Scene.Works.other (Scene.mk s.fleet []) (m := .ask i) rfl
  rw [Scene.move] at hAsk
  have hManned : (s.fleet.ask i).Manned := h.ask i
  have hSize : (s.fleet.ask i).pollers.length = s.fleet.pollers.length := by
    rw [(s.fleet.does_ask i).pollers, List.length_modify]
  have hWaited := leads_advance (s := { s with fleet := s.fleet.ask i }) hManned
    (s.fleet.callFetch i).1.duration
  have hAsked : s.Leads { s with fleet := s.fleet.ask i } := ⟨hAsk, hManned, hSize⟩
  refine hAsked.trans ?_
  rw [h.ask_eq hi] at hWaited ⊢
  exact hWaited

/-- Pollers fetch out of turn, one after the other. -/
theorem leads_pollEach (h : s.fleet.Manned) (pollers : List Nat) :
    s.Leads (s.pollEach pollers).1 := by
  have hThere : ∀ i ∈ pollers.filter (· < s.fleet.pollers.length), i < s.fleet.pollers.length :=
    fun i hi => of_decide_eq_true (List.mem_filter.mp hi).2
  unfold pollEach
  dsimp only
  generalize pollers.filter (· < s.fleet.pollers.length) = called at hThere ⊢
  generalize Answer.nothing = answer
  induction called generalizing s answer with
  | nil => exact .refl h
  | cons i rest ih =>
      have hOne := leads_pollNow h (hThere i List.mem_cons_self)
      rw [List.foldl_cons]
      refine hOne.trans (ih hOne.manned (fun j hj => ?_) _)
      rw [hOne.size]
      exact hThere j (List.mem_cons_of_mem i hj)

/-- What becomes of a service that makes a call from outside, once the result is there. -/
def afterErrand (s : Service ν) (e : Config.Endpoint) (id : String) : Service ν :=
  let (f, source) := s.fleet.source.errand e id
  { s with fleet := Fleet.await { s.fleet with source := source } f }

/-- The endpoint that a command asks, and the server that it asks about. -/
def Command.errand? : Command → Option (Config.Endpoint × String)
  | .status id => some (.status, id)
  | .startServer id => some (.start, id)
  | .stopServer id => some (.stop, id)
  | _ => none

theorem call_fst {α : Type} [Payload α] (s : Service ν) (e : Config.Endpoint) (id : String)
    (hErrand : s.fleet.source.errand e id
      = ((s.fleet.source.call e id : Backend.Call α × Uplink ν).1.errand,
        (s.fleet.source.call e id : Backend.Call α × Uplink ν).2)) :
    (s.call e id : Service ν × Except CallError α).1 = s.afterErrand e id := by
  rw [afterErrand, hErrand]
  unfold call
  generalize (s.fleet.source.call e id : Backend.Call α × Uplink ν) = made
  rfl

theorem perform_errand {c : Command} {e : Config.Endpoint} {id : String}
    (h : c.errand? = some (e, id)) : (s.perform c).1 = s.afterErrand e id := by
  cases c with
  | status id =>
      obtain ⟨rfl, rfl⟩ := Prod.mk.inj (Option.some.inj h)
      have hCalled := call_fst (α := ServerStatus) s .status id rfl
      rw [perform, ← hCalled]
  | startServer id =>
      obtain ⟨rfl, rfl⟩ := Prod.mk.inj (Option.some.inj h)
      have hCalled := call_fst (α := ActionOutcome) s .start id rfl
      rw [perform, ← hCalled]
  | stopServer id =>
      obtain ⟨rfl, rfl⟩ := Prod.mk.inj (Option.some.inj h)
      have hCalled := call_fst (α := ActionOutcome) s .stop id rfl
      rw [perform, ← hCalled]
  | _ => cases h

/-- A call from outside, and all that falls due until its result is there. -/
theorem leads_afterErrand (h : s.fleet.Manned) (e : Config.Endpoint) (id : String) :
    s.Leads (s.afterErrand e id) := by
  have hCall := Scene.Works.call (Scene.mk s.fleet []) e id
  rw [Scene.move] at hCall
  rw [afterErrand]
  generalize s.fleet.source.errand e id = made at hCall ⊢
  obtain ⟨f, source⟩ := made
  let asked : Service ν :=
    { s with fleet := { s.fleet with source := source }.launch .direct f }
  have hManned : asked.fleet.Manned := h.congr rfl
  have hAsked : s.Leads asked := ⟨hCall, hManned, rfl⟩
  exact hAsked.trans (leads_advance hManned f.duration)

/-! ### Calls that obtain an answer -/

/-- The first things that happen between `s` and `s'` are an act and the landing of its fetch. -/
def ReturnsFirst (s : Service ν) (act : Act ν) (s' : Service ν) : Prop :=
  ∃ later, (Scene.mk s.fleet []).through
    (later ++ [.other (.land s.fleet.flights.length) rfl, act]) = ⟨s'.fleet, []⟩

/-- An act that launches a fetch of no duration, while nothing is due, and all that falls due until
the result is there. -/
theorem returnsFirst_await {act : Act ν} (asked : Fleet (Uplink ν)) {f : Polling.Fetch}
    (hMove : (Scene.mk s.fleet []).move (act.move s.fleet.source) = ⟨asked.launch .direct f, []⟩)
    (hFlights : asked.flights = s.fleet.flights) (hRest : asked.AtRest) (hf : f.duration = 0) :
    s.ReturnsFirst act { s with fleet := asked.await f } := by
  obtain ⟨landed, hLanded, hLeads⟩ := Fleet.leads_await hRest hf
  obtain ⟨later, hLater⟩ := hLeads.run.works
  refine ⟨later, ?_⟩
  have hFirst : (Scene.mk s.fleet []).through [.other (.land s.fleet.flights.length) rfl, act]
      = ⟨landed, []⟩ := by
    calc ((Scene.mk s.fleet []).move (act.move s.fleet.source)).move (.land s.fleet.flights.length)
        = (Scene.mk (asked.launch .direct f) []).move (.land asked.flights.length) := by
          rw [hMove, hFlights]
      _ = ⟨landed, []⟩ := hLanded
  rw [Scene.through_append, hFirst, hLater]

theorem returnsFirst_afterErrand (hRest : s.fleet.AtRest) {e : Config.Endpoint} {id : String}
    {a : FinalAnswer} (hAnswer : s.fleet.source.answer? e id = some a) :
    s.ReturnsFirst (.call e id) (s.afterErrand e id) := by
  have hf := s.fleet.source.duration_errand hAnswer
  exact returnsFirst_await { s.fleet with source := (s.fleet.source.errand e id).2 } rfl rfl hRest
    hf

theorem returnsFirst_pollNow (h : s.fleet.Manned) (hRest : s.fleet.AtRest) {i : Nat}
    (hi : i < s.fleet.pollers.length) {a : FinalAnswer}
    (hAnswer : s.fleet.source.answerTo? i = some a) :
    s.ReturnsFirst (.other (.ask i) rfl) (s.pollNow i).1 := by
  have hf : (s.fleet.callFetch i).1.duration = 0 := by
    rw [Fleet.callFetch_fst]
    exact s.fleet.source.duration_fetch hAnswer
  have hMove : (Scene.mk s.fleet []).move (.ask i)
      = ⟨(s.fleet.callFetch i).2.launch .direct (s.fleet.callFetch i).1, []⟩ := by
    rw [Scene.move, h.ask_eq hi]
  have hCalled := hRest.callFetch i
  have hSame : (s.fleet.callFetch i).2.flights = s.fleet.flights := rfl
  rw [pollNow]
  generalize s.fleet.callFetch i = called at hf hMove hCalled hSame ⊢
  exact returnsFirst_await _ hMove hSame hCalled hf

/-- The act that a command is, if it is a single call. -/
def Command.act? : Command → Option (Act ν)
  | .pollNow [i] => some (.other (.ask i) rfl)
  | c => c.errand?.map fun x => .call x.1 x.2

/-- A fetch out of turn that obtains an answer is one of a poller that is there. -/
theorem of_obtained_ask {i : Nat} {a : FinalAnswer}
    (h : (Scene.mk s.fleet []).obtained (.other (.ask i) rfl) = [some a]) :
    i < s.fleet.pollers.length ∧ s.fleet.source.answerTo? i = some a := by
  have hAsked : ((Scene.mk s.fleet []).launchedBy i .ask).map
      (fun _ => s.fleet.source.answerTo? i) = [some a] := h
  obtain ⟨purpose, hLaunched, hAnswer⟩ := List.map_eq_singleton_iff.mp hAsked
  refine ⟨?_, hAnswer⟩
  by_contra hMissing
  rw [Scene.launchedBy, List.getElem?_eq_none (Nat.le_of_not_lt hMissing)] at hLaunched
  cases hLaunched

theorem perform_pollNow {i : Nat} (hi : i < s.fleet.pollers.length) :
    (s.perform (.pollNow [i])).1 = (s.pollNow i).1 := by
  have hThere : [i].filter (· < s.fleet.pollers.length) = [i] :=
    List.filter_cons_of_pos (decide_eq_true hi)
  rw [perform, pollEach, hThere, List.foldl_cons, List.foldl_nil]

/-- **A call that obtains an answer**, made while nothing is due, has come back before anything else
happens. -/
theorem returnsFirst_perform (h : s.fleet.Manned) (hRest : s.fleet.AtRest) {c : Command}
    {act : Act ν} (hAct : c.act? = some act) {a : FinalAnswer}
    (hAnswer : (Scene.mk s.fleet []).obtained act = [some a]) :
    s.ReturnsFirst act (s.perform c).1 := by
  unfold Command.act? at hAct
  split at hAct
  next i =>
    obtain rfl := Option.some.inj hAct
    obtain ⟨hi, hAsked⟩ := of_obtained_ask hAnswer
    rw [perform_pollNow hi]
    exact returnsFirst_pollNow h hRest hi hAsked
  next =>
    obtain ⟨⟨e, id⟩, hErrand, rfl⟩ := Option.map_eq_some_iff.mp hAct
    rw [perform_errand hErrand]
    exact returnsFirst_afterErrand hRest (List.singleton_injective hAnswer)

/-! ## Requests and commands -/

theorem mem_of_mem_lastOfName {α : Type} {l : List (String × α)} {x : String × α}
    (h : x ∈ Admin.lastOfName l) : x ∈ l := by
  induction l with
  | nil => exact h
  | cons y rest ih =>
      rw [Admin.lastOfName] at h
      split at h
      next => exact List.mem_cons_of_mem y (ih h)
      next =>
        rcases List.mem_cons.mp h with rfl | hRest
        · exact List.mem_cons_self
        · exact List.mem_cons_of_mem y (ih hRest)

omit [Network ν] in
/-- A name is that of a poller that is there. -/
theorem lt_of_poller? {name : String} {i : Nat} (h : s.poller? name = some i) :
    i < s.fleet.pollers.length := by
  rw [poller?] at h
  obtain ⟨before, after, hListed, -⟩ := List.lookup_eq_some_iff.mp h
  have hNamed : (name, i) ∈ s.directory := by
    rw [hListed]
    simp
  obtain ⟨x, hx, hSame⟩ := List.mem_map.mp (mem_of_mem_lastOfName hNamed)
  obtain ⟨rfl, rfl⟩ := Prod.mk.inj hSame
  have hThere := (List.mem_zipIdx hx).2.1
  omega

/-- Something that a request does with a poller that it names. -/
theorem leads_onNamed (h : s.fleet.Manned) {segment : List Char}
    {act : Nat → Service ν × Admin.Answer}
    (hAct : ∀ i < s.fleet.pollers.length, s.Leads (act i).1) :
    s.Leads (s.onNamed segment act).1 := by
  unfold onNamed
  split
  next => exact .refl h
  next =>
    split
    next => exact .refl h
    next i hi => exact hAct i (lt_of_poller? hi)

/-- What a route is for. -/
theorem leads_visit (h : s.fleet.Manned) (route : Admin.Route) : s.Leads (s.visit route).1 := by
  cases route with
  | backoff => exact .refl h
  | resume => exact leads_aside h (m := .signal .forceResume) rfl rfl rfl
  | pollers => exact .refl h
  | activate segment => exact leads_onNamed h fun i _ => leads_carryOut h (o := .enterActive) (fun _ => rfl) i
  | poll segment =>
      refine leads_onNamed h fun i hi => ?_
      have hPolled := leads_pollNow h hi
      unfold showPoll
      generalize s.pollNow i = polled at hPolled ⊢
      obtain ⟨s', result⟩ := polled
      cases result <;> exact hPolled

/-- **A request to the admin interface** is made of acts. -/
theorem leads_handle (h : s.fleet.Manned) (r : Admin.Request) : s.Leads (s.handle r).1 := by
  unfold handle
  split
  next =>
    unfold serve
    split
    next => exact .refl h
    next route _ =>
      split
      next =>
        have hVisit := leads_visit h route
        generalize s.visit route = visited at hVisit ⊢
        exact hVisit
      next => exact .refl h
  next => exact leads_aside h (m := .note (.line (.adminRejected r.path))) rfl rfl rfl

/-- **A command** is made of acts, with all work that is due after it. -/
theorem leads_perform (h : s.fleet.Manned) (c : Command) : s.Leads (s.perform c).1 := by
  cases c with
  | advance ms => exact leads_advance h ms
  | signal x =>
      have hTold : s.Leads (s.onFleet (·.tell x)) := leads_aside h (m := .signal x) rfl rfl rfl
      exact hTold.trans (leads_settle hTold.manned)
  | start pollers => exact leads_onEach h (o := .start) (fun _ => rfl) pollers
  | stop pollers => exact leads_onEach h (o := .stop) (fun _ => rfl) pollers
  | enterActive pollers => exact leads_onEach h (o := .enterActive) (fun _ => rfl) pollers
  | exitActive pollers => exact leads_onEach h (o := .exitActive) (fun _ => rfl) pollers
  | pollNow pollers => exact leads_pollEach h pollers
  | status id =>
      rw [perform_errand rfl]
      exact leads_afterErrand h .status id
  | startServer id =>
      rw [perform_errand rfl]
      exact leads_afterErrand h .start id
  | stopServer id =>
      rw [perform_errand rfl]
      exact leads_afterErrand h .stop id
  | describe => exact .refl h
  | admin request =>
      cases request with
      | none => exact .refl h
      | some r =>
          have hHandled := leads_handle h r
          rw [perform]
          generalize s.handle r = handled at hHandled ⊢
          obtain ⟨s', answer⟩ := handled
          exact hHandled.trans (leads_settle hHandled.manned)

/-- **Every service that a session goes through** is where acts lead. -/
theorem session_works (h : s.fleet.Manned) (commands : List Command) :
    ∀ x ∈ s.session commands, (Scene.mk s.fleet []).Works ⟨x.1.fleet, []⟩ := by
  induction commands generalizing s with
  | nil =>
      intro x hx
      cases hx
  | cons c rest ih =>
      have hOne := leads_perform h c
      intro x hx
      rw [session, List.mem_cons] at hx
      rcases hx with hFirst | hRest
      · rw [hFirst]
        exact hOne.works
      · exact hOne.works.trans (ih hOne.manned x hRest)

/-! ## New services -/

section New

variable {c : Config} {network : ν}

/-- The service of a configuration, with a client for its backend. -/
def wired (c : Config) (client : Backend.Client) (network : ν) : Service ν where
  fleet :=
    { gate := (Backoff.Gate.make c.delays).1
      pollers := c.servers.map (pollerOf c.polling.cadence)
      source := { client := client, servers := c.servers, network := network }
      journal := (Backoff.Gate.make c.delays).2 }
  apiKey := c.admin.apiKey

omit [Network ν]

/-- Whether there is a service is up to the client. -/
theorem make_eq_ok_iff : make c network = .ok s ↔
    ∃ client, Backend.Client.make c.transport = .ok client ∧ s = wired c client network := by
  rw [make]
  cases Backend.Client.make c.transport with
  | error e =>
      constructor
      · nofun
      · rintro ⟨client, hClient, -⟩
        cases hClient
  | ok client =>
      constructor
      · intro h
        exact ⟨client, rfl, (Except.ok.inj h).symm⟩
      · rintro ⟨client', hClient, rfl⟩
        obtain rfl := Except.ok.inj hClient
        rfl

/-- The pollers of a new service are manned, no fetch is in flight, and nothing is due. -/
theorem manned_make (h : make c network = .ok s) :
    s.fleet.Manned ∧ s.fleet.flights = [] ∧ s.fleet.AtRest := by
  obtain ⟨client, -, rfl⟩ := make_eq_ok_iff.mp h
  refine ⟨fun p hp => ?_, rfl, Fleet.atRest_of_nothing rfl (fun p hp => ?_) rfl⟩
  · obtain ⟨server, -, rfl⟩ := List.mem_map.mp hp
    exact ⟨rfl, by simp [pollerOf]⟩
  · obtain ⟨server, -, rfl⟩ := List.mem_map.mp hp
    rfl

end New

/-! ## Answers -/

/-- **Every answer of the backend is reported exactly once, and nothing else is.** Take any run of
acts that begins with no call under way, over any network.

* After the run every answer that was brought has been counted once, under its status, and nothing
  else has been counted. The gate was told what others told it and one signal for each answer that
  was brought: a trigger if its status was 429, a reset otherwise. Every call that was made has
  come back, or is under way still.
* Of a call that is under way nothing has been reported yet; when it comes back, its answer is
  reported first and its result is handed over after that.
* A call obtains the answer that its exchange ends with, and comes to what that answer makes of it,
  whatever it is a call for. Without an answer it does nothing.
* Whatever a service is told to do, by a command or by a request to its admin interface, is such a
  run. A command that is a single call and obtains an answer, given while nothing is due, has its
  answer back, and so reported, before anything else happens. -/
theorem answers_reported {s₀ : Scene (Uplink ν)} (hNone : s₀.fleet.flights = [])
    (acts : List (Act ν)) :
    ((∀ code, Journal.count (s₀.through acts).fleet.journal (.response code)
        = Journal.count s₀.fleet.journal (.response code)
          + (s₀.brought acts).countP (·.any (·.hasCode code))) ∧
      s₀.told (s₀.moves acts) = s₀.heard acts ∧
      (s₀.calls acts).Perm (s₀.brought acts ++ s₀.carried acts)) ∧
    (∀ k answer, (s₀.carried acts)[k]? = some answer →
      ∃ (f : Flight) (reported : Fleet (Uplink ν)), (s₀.through acts).fleet.flights[k]? = some f ∧
        reported.gate = hear (s₀.through acts).fleet.now (s₀.through acts).fleet.gate
          (answer.map FinalAnswer.signal).toList ∧
        (∀ code, Journal.count reported.journal (.response code)
          = Journal.count (s₀.through acts).fleet.journal (.response code)
            + if answer.any (·.hasCode code) then 1 else 0) ∧
        ((s₀.through acts).move (.land k)).fleet = (reported.deliver f.spent).1) ∧
    (∀ (u : Uplink ν) (e : Config.Endpoint) (id : String),
      (∀ a, u.answer? e id = some a ↔ ∃ url, u.client.endpoint e id = .ok url ∧
        0 < u.client.settings.timeoutSecs ∧
        Ends maxHops (u.client.request e url) u.network (.answered a.status a.body)) ∧
      ∀ (α : Type) [Payload α], (u.call e id : Call α × Uplink ν).1.ComesTo (u.answer? e id)) ∧
    ∀ s : Service ν, s.fleet.Manned →
      (∀ commands, ∀ x ∈ s.session commands, (Scene.mk s.fleet []).Works ⟨x.1.fleet, []⟩) ∧
        (s.fleet.AtRest → ∀ (c : Command) (act : Act ν) (a : FinalAnswer), c.act? = some act →
          (Scene.mk s.fleet []).obtained act = [some a] → s.ReturnsFirst act (s.perform c).1) := by
  refine ⟨⟨?_, ?_, ?_⟩, ?_, fun u e id => ⟨?_, ?_⟩, ?_⟩
  · exact Scene.count_through hNone acts
  · exact Scene.told_eq hNone acts
  · exact s₀.perm_calls acts
  · exact fun k answer hAnswer => Scene.land_reports hNone hAnswer
  · exact u.answer?_eq_some_iff e id
  · intro α _
    exact u.call_comesTo e id
  · intro s hManned
    refine ⟨fun commands => session_works hManned commands, ?_⟩
    exact fun hRest c act a hAct hAnswer => returnsFirst_perform hManned hRest hAct hAnswer

/-- A backend that is overloaded at first, does not speak of starting in a way that can be
understood, and does not speak of stopping at all. -/
def panel : Backend.Site where
  host := .name "panel"
  port := 80
  responses := [
    ("/api/servers/a/status", [.answer 429 "" none, .answer 200 "\x7b\"status\":\"Up\"\x7d" none]),
    ("/api/servers/a/start", [.answer 200 "soon" none]),
    ("/api/servers/a/stop", [.broken])]

/-- One poller, and nothing under way. -/
def watch : Scene (Uplink Backend.Site) where
  fleet :=
    { gate := { delays := .standard }
      pollers := [{ name := "one" }]
      source :=
        { client :=
            { base := { scheme := "http", host := some (.name "panel"), path := .segments [""] }
              settings := {} }
          servers := [⟨"one", "a"⟩]
          network := panel } }

/-- The poller is started, its server is started and stopped, and the poller is asked again; all
but the last call come back, that of the poller after the start of the server. -/
def busy : List (Act Backend.Site) :=
  [.other (.ask 0) rfl, .other (.land 0) rfl, .other (.land 0) rfl, .other (.land 2) rfl,
    .call .start "a", .call .stop "a", .other (.operate 0 .start) rfl]

theorem answers_reported_busy :
    Journal.count (watch.through busy).fleet.journal (.response 429) = 1 ∧
      Journal.count (watch.through busy).fleet.journal (.response 200) = 1 ∧
      watch.told (watch.moves busy) = [(0, .trigger), (0, .reset)] := by
  have hBrought : watch.brought busy = [none, some ⟨429, ""⟩, some ⟨200, "soon"⟩] := by
    decide +kernel
  have hHeard : watch.heard busy = [(0, .trigger), (0, .reset)] := by decide +kernel
  have hNone : watch.fleet.flights = [] := rfl
  obtain ⟨⟨hCounted, hTold, -⟩, -⟩ := answers_reported hNone busy
  rw [hBrought] at hCounted
  rw [hHeard] at hTold
  exact ⟨hCounted 429, hCounted 200, hTold⟩

end Service

end Lookout
