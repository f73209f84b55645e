import Lookout.Proofs.Polling.Rest
import Lookout.Proofs.Service.Session

set_option autoImplicit false

/-! # A service between two commands

The pollers of a service are in service from the time it is made, and all work that is due is done
after each command. So between two commands nothing is due (`settled_after`), whatever the commands
were: what a command leaves behind never waits for the next one.
-/

namespace Lookout

namespace Polling.Fleet

variable {ω : Type} {s : Fleet ω}

theorem Timely.launch (h : s.Timely) (purpose : Purpose) (f : Fetch) :
    (s.launch purpose f).Timely := by
  refine ⟨h.gate, h.pollers, fun x hx => ?_⟩
  rw [Fleet.launch, List.mem_append, List.mem_singleton] at hx
  rcases hx with hx | rfl
  · exact h.flights x hx
  · exact Nat.le_add_right _ _

theorem Timely.tell (h : s.Timely) (x : Backoff.Signal) : (s.tell x).Timely := by
  have hGate : (s.tell x).gate = hear s.now s.gate [x] := rfl
  have hTold : s.Eases (s.tell x) := eases_hear rfl hGate rfl rfl
  exact hTold.timely h

variable [FetchSource ω]

/-- What is done with a handle leaves nothing overdue. -/
theorem Timely.carryOut (h : s.Timely) (i : Nat) (o : Operation) : (s.carryOut i o).Timely := by
  cases hp : s.pollers[i]? with
  | none =>
      rw [carryOut_of_none hp]
      exact h
  | some p =>
      refine (s.does_carryOut i o).timely h (fun q hq => ?_) ((calls_carryOut hp o).due h.flights)
      exact (q.eases_operate s.gate.paused s.now o).notBefore
        (h.pollers q (List.mem_of_getElem? hq))

/-- Poller `i` is asked to fetch out of turn. -/
def asked (s : Fleet ω) (i : Nat) : Fleet ω := (s.callFetch i).2.launch .direct (s.callFetch i).1

/-- The call is noted, and the fetch is in flight. -/
theorem asked_frame (s : Fleet ω) (i : Nat) : s.asked i = { s with
    pollers := s.pollers.modify i (·.noteFetch s.now)
    source := (FetchSource.fetch s.source i).2
    flights := s.flights ++ [s.flight i .direct] } := rfl

theorem Manned.asked_eq (h : s.Manned) {i : Nat} (hi : i < s.pollers.length) :
    s.asked i = s.ask i := by
  rw [asked, h.ask_eq hi]

/-- So does a fetch out of turn. -/
theorem Timely.ask (h : s.Timely) (i : Nat) : (s.ask i).Timely := by
  cases hp : s.pollers[i]? with
  | none =>
      have hSame : s.ask i = s := by
        rw [Fleet.ask, Fleet.allows, hp, Option.any_none]
        rfl
      rw [hSame]
      exact h
  | some p =>
      refine (s.does_ask i).timely h (fun q hq => ?_) ((calls_ask hp).due h.flights)
      have hBefore := h.pollers q (List.mem_of_getElem? hq)
      show (ite _ _ _ : Poller).timers.NotBefore s.now
      split <;> exact hBefore

end Polling.Fleet

namespace Service

open Backend (ActionOutcome CallError Network ServerStatus Uplink)
open Polling (FetchSource Fleet Operation Scene)

variable {ν : Type} [Network ν] {s s' : Service ν}

/-- The service after a list of commands. -/
def after (s : Service ν) : List Command → Service ν
  | [] => s
  | c :: rest => (s.perform c).1.after rest

theorem after_append (s : Service ν) (past later : List Command) :
    s.after (past ++ later) = (s.after past).after later := by
  induction past generalizing s with
  | nil => rfl
  | cons c past ih => exact ih _

theorem session_append (s : Service ν) (past later : List Command) :
    s.session (past ++ later) = s.session past ++ (s.after past).session later := by
  induction past generalizing s with
  | nil => rfl
  | cons c past ih =>
      rw [List.cons_append, session, session, List.cons_append, ih]
      rfl

theorem length_session (s : Service ν) (commands : List Command) :
    (s.session commands).length = commands.length := by
  induction commands generalizing s with
  | nil => rfl
  | cons c rest ih => rw [session, List.length_cons, List.length_cons, ih]

/-- The later part of a run. -/
theorem drop_session (s : Service ν) (past later : List Command) :
    (s.session (past ++ later)).drop past.length = (s.after past).session later := by
  rw [session_append, ← length_session s past, List.drop_left]

/-- The pollers are in service, and nothing is overdue. -/
structure OnTime (s : Service ν) : Prop where
  inService : s.fleet.InService
  timely : s.fleet.Timely

/-- The pollers are in service, and nothing is due. -/
structure Settled (s : Service ν) : Prop where
  inService : s.fleet.InService
  atRest : s.fleet.AtRest

theorem Settled.onTime (h : s.Settled) : s.OnTime := ⟨h.inService, h.atRest.timely⟩

theorem OnTime.leads (h : s.OnTime) (hLeads : s.Leads s') (hTimely : s'.fleet.Timely) :
    s'.OnTime := by
  obtain ⟨acts, hActs⟩ := hLeads.works
  exact ⟨h.inService.after hActs hLeads.manned, hTimely⟩

theorem OnTime.advance (h : s.OnTime) (ms : Nat) : (s.onFleet (·.advance ms)).Settled := by
  obtain ⟨hService, hRest⟩ := h.inService.runTo h.timely ms
  exact ⟨hService, hRest⟩

theorem OnTime.settle (h : s.OnTime) : s.settle.Settled := h.advance 0

/-- Nothing is waited for when nothing is due. -/
theorem Settled.settle (h : s.Settled) : s.settle = s := by
  rw [Service.settle, onFleet, h.atRest.settle]

/-! ## Every command -/

/-- An operation on a poller. -/
theorem OnTime.carryOut (h : s.OnTime) {o : Operation} (ho : o.Common) (i : Nat) :
    (s.onFleet (·.carryOut i o)).OnTime :=
  h.leads (leads_carryOut h.inService.manned ho i) (h.timely.carryOut i o)

/-- An operation on several pollers, and all work that is due after it. -/
theorem OnTime.onEach (h : s.OnTime) {o : Operation} (ho : o.Common) (pollers : List Nat) :
    (s.onEach pollers fun fleet i => fleet.carryOut i o).Settled := by
  have hEach : (s.onFleet fun fleet =>
      pollers.foldl (fun fleet i => fleet.carryOut i o) fleet).OnTime := by
    induction pollers generalizing s with
    | nil => exact h
    | cons i rest ih => exact ih (h.carryOut ho i)
  exact hEach.settle

/-- A fetch out of turn is asked for, and waited for. -/
theorem pollNow_fst (s : Service ν) (i : Nat) :
    (s.pollNow i).1 = (s.onFleet (·.asked i)).onFleet
      (·.advance (FetchSource.fetch s.fleet.source i).1.duration) := rfl

theorem OnTime.asked (h : s.OnTime) {i : Nat} (hi : i < s.fleet.pollers.length) :
    (s.onFleet (·.asked i)).OnTime := by
  obtain ⟨acts, hActs⟩ := Scene.Works.other (Scene.mk s.fleet []) (m := .ask i) rfl
  have hManned : (s.fleet.ask i).Manned := h.inService.manned.ask i
  rw [onFleet, h.inService.manned.asked_eq hi]
  exact ⟨h.inService.after hActs hManned, h.timely.ask i⟩

theorem OnTime.pollNow (h : s.OnTime) {i : Nat} (hi : i < s.fleet.pollers.length) :
    (s.pollNow i).1.Settled :=
  (h.asked hi).advance _

theorem Settled.pollEach (h : s.Settled) (pollers : List Nat) :
    (s.pollEach pollers).1.Settled := by
  have hThere : ∀ i ∈ pollers.filter (· < s.fleet.pollers.length), i < s.fleet.pollers.length :=
    fun i hi => of_decide_eq_true (List.mem_filter.mp hi).2
  unfold Service.pollEach
  dsimp only
  generalize pollers.filter (· < s.fleet.pollers.length) = called at hThere ⊢
  generalize Answer.nothing = answer
  induction called generalizing s answer with
  | nil => exact h
  | cons i rest ih =>
      have hi := hThere i List.mem_cons_self
      have hSize := (leads_pollNow h.inService.manned hi).size
      rw [List.foldl_cons]
      refine ih (h.onTime.pollNow hi) (fun j hj => ?_) _
      rw [hSize]
      exact hThere j (List.mem_cons_of_mem i hj)

theorem OnTime.afterErrand (h : s.OnTime) (e : Config.Endpoint) (id : String) :
    (s.afterErrand e id).Settled := by
  obtain ⟨acts, hActs⟩ := Scene.Works.call (Scene.mk s.fleet []) e id
  rw [Service.afterErrand]
  rw [Scene.move] at hActs
  generalize s.fleet.source.errand e id = made at hActs ⊢
  obtain ⟨f, source⟩ := made
  let asked : Service ν :=
    { s with fleet := { s.fleet with source := source }.launch .direct f }
  have hCalled : ({ s.fleet with source := source } : Fleet (Uplink ν)).Timely :=
    ⟨h.timely.gate, h.timely.pollers, h.timely.flights⟩
  have hAsked : asked.OnTime :=
    ⟨h.inService.after hActs (h.inService.manned.congr rfl), hCalled.launch .direct f⟩
  exact hAsked.advance f.duration

/-- Something that a request does with a poller that it names. -/
theorem OnTime.onNamed (h : s.OnTime) {segment : List Char} {act : Nat → Service ν × Admin.Answer}
    (hAct : ∀ i < s.fleet.pollers.length, (act i).1.OnTime) : (s.onNamed segment act).1.OnTime := by
  unfold Service.onNamed
  split
  next => exact h
  next =>
    split
    next => exact h
    next i hi => exact hAct i (lt_of_poller? hi)

/-- **A request to the admin interface** leaves nothing overdue. -/
theorem OnTime.handle (h : s.OnTime) (r : Admin.Request) : (s.handle r).1.OnTime := by
  have hVisit : ∀ route, (s.visit route).1.OnTime := by
    intro route
    cases route with
    | backoff => exact h
    | resume =>
        exact h.leads (leads_visit h.inService.manned .resume) (h.timely.tell .forceResume)
    | pollers => exact h
    | activate segment => exact h.onNamed fun i _ => h.carryOut (o := .enterActive) (fun _ => rfl) i
    | poll segment =>
        refine h.onNamed fun i hi => ?_
        have hPolled := (h.pollNow hi).onTime
        unfold showPoll
        generalize s.pollNow i = polled at hPolled ⊢
        obtain ⟨s', result⟩ := polled
        cases result <;> exact hPolled
  have hLeads := leads_handle h.inService.manned r
  unfold Service.handle Service.serve at hLeads ⊢
  split
  next =>
    split
    next => exact h
    next route _ =>
      split
      next =>
        have hVisited := hVisit route
        generalize s.visit route = visited at hVisited ⊢
        exact hVisited
      next => exact h
  next hRefused =>
    rw [if_neg hRefused] at hLeads
    exact h.leads hLeads ((s.fleet.eases_record _).timely h.timely)

/-- **A command** leaves nothing due. -/
theorem Settled.perform (h : s.Settled) (c : Command) : (s.perform c).1.Settled := by
  have hTime := h.onTime
  cases c with
  | advance ms => exact hTime.advance ms
  | signal x =>
      have hTold : (s.onFleet (·.tell x)).OnTime :=
        hTime.leads (leads_aside h.inService.manned (m := .signal x) rfl rfl rfl)
          (hTime.timely.tell x)
      exact hTold.settle
  | start pollers => exact hTime.onEach (o := .start) (fun _ => rfl) pollers
  | stop pollers => exact hTime.onEach (o := .stop) (fun _ => rfl) pollers
  | enterActive pollers => exact hTime.onEach (o := .enterActive) (fun _ => rfl) pollers
  | exitActive pollers => exact hTime.onEach (o := .exitActive) (fun _ => rfl) pollers
  | pollNow pollers => exact h.pollEach pollers
  | status id =>
      rw [perform_errand rfl]
      exact hTime.afterErrand .status id
  | startServer id =>
      rw [perform_errand rfl]
      exact hTime.afterErrand .start id
  | stopServer id =>
      rw [perform_errand rfl]
      exact hTime.afterErrand .stop id
  | describe => exact h
  | admin request =>
      cases request with
      | none => exact h
      | some r =>
          have hHandled := hTime.handle r
          rw [Service.perform]
          generalize s.handle r = handled at hHandled ⊢
          obtain ⟨s', answer⟩ := handled
          exact hHandled.settle

/-- **Every service that a run of commands leads to** has nothing left to do. -/
theorem Settled.after (h : s.Settled) (commands : List Command) : (s.after commands).Settled := by
  induction commands generalizing s with
  | nil => exact h
  | cons c rest ih => exact ih (h.perform c)

omit [Network ν] in
/-- The gate and the pollers of a new service are new. -/
theorem parts_make {c : Config} {network : ν} (h : make c network = .ok s) :
    s.fleet.gate = (Backoff.Gate.make c.delays).1 ∧
      s.fleet.pollers = c.servers.map (pollerOf c.polling.cadence) := by
  obtain ⟨client, -, rfl⟩ := make_eq_ok_iff.mp h
  exact ⟨rfl, rfl⟩

/-- A new service has nothing to do. -/
theorem settled_make {c : Config} {network : ν} (h : make c network = .ok s) : s.Settled := by
  obtain ⟨hManned, hFlights, hRest⟩ := manned_make h
  obtain ⟨hGate, hPollers⟩ := parts_make h
  have hFresh : (Scene.mk s.fleet []).Fresh := by
    refine ⟨fun p hp => ?_, fun f hf => ?_, rfl⟩
    · rw [hPollers] at hp
      obtain ⟨server, -, rfl⟩ := List.mem_map.mp hp
      exact ⟨_, _, _, rfl⟩
    · rw [hFlights] at hf
      cases hf
  have hPlain : ∀ p ∈ s.fleet.pollers, p.Plain := by
    intro p hp
    rw [hPollers] at hp
    obtain ⟨server, -, rfl⟩ := List.mem_map.mp hp
    exact fun x hx => ⟨server.name, List.mem_singleton.mp hx⟩
  exact ⟨⟨⟨⟨s.fleet, []⟩, c.delays, [], hFresh, hGate, hPlain, rfl⟩, hManned⟩, hRest⟩

end Service

end Lookout
