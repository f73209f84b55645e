import Mathlib.Data.String.Basic
import Lookout.Proofs.Service.Remaining

set_option autoImplicit false

/-! # Who can be addressed

A service has a poller for each of its servers, in their order and called like them, and nothing
that it does changes this (`Staffed.works`): pollers keep their names, and a call of the client
leaves the servers alone. So if no two servers are called alike, the directory is the list of their
names, each with its place, and a name is found in it just where it stands
(`Staffed.poller?_eq_some_iff`).
-/

namespace Lookout

/-! ## Names -/

namespace Polling.Scene

variable {ω : Type} [FetchSource ω]

/-- Pollers keep their names, and their places. -/
theorem names_after (s : Scene ω) (past : List (Move ω)) :
    (s.after past).fleet.pollers.map Poller.name = s.fleet.pollers.map Poller.name := by
  induction past with
  | nil => rfl
  | cons m past ih =>
      refine Eq.trans (List.ext_getElem? fun i => ?_) ih
      rw [after, List.getElem?_map, getElem?_move, List.getElem?_map]
      cases (s.after past).fleet.pollers[i]? with
      | none => rfl
      | some p => exact congrArg some (alike_turn _ m i p).name

end Polling.Scene

/-! ## Servers -/

namespace Backend.Uplink

open Polling (FetchSource)

variable {ν : Type} [Network ν] (u : Uplink ν)

theorem servers_call {α : Type} [Payload α] (e : Config.Endpoint) (id : String) :
    (u.call e id : Call α × Uplink ν).2.servers = u.servers := by
  rw [call]

theorem servers_errand (e : Config.Endpoint) (id : String) :
    (u.errand e id).2.servers = u.servers := by
  cases e with
  | status => simp only [errand, u.servers_call]
  | start => simp only [errand, u.servers_call]
  | stop => simp only [errand, u.servers_call]

theorem fetch_eq (i : Nat) : FetchSource.fetch u i = ((u.status i).1.fetch, (u.status i).2) := rfl

theorem servers_fetch (i : Nat) : (FetchSource.fetch u i).2.servers = u.servers := by
  rw [fetch_eq]
  dsimp only
  rw [status, servers_call]

end Backend.Uplink

namespace Polling.Scene

open Backend

variable {ν : Type} [Network ν]

/-- An act asks about servers, and changes none. -/
theorem servers_act (s : Scene (Uplink ν)) (a : Act ν) :
    (s.move (a.move s.fleet.source)).fleet.source.servers = s.fleet.source.servers := by
  rw [source_eq]
  cases a with
  | call e id => exact s.fleet.source.servers_errand e id
  | other m plain =>
      have hDeed : s.consulted m = ((s.deed? m).map fun x =>
          if s.launchedBy x.1 x.2 = [] then s.fleet.source
          else (FetchSource.fetch s.fleet.source x.1).2).getD s.fleet.source := by
        cases m with
        | call f source => cases plain
        | _ => rfl
      rw [Act.move, hDeed]
      cases s.deed? m with
      | none => rfl
      | some x =>
          rw [Option.map_some, Option.getD_some]
          split
          next => rfl
          next => exact s.fleet.source.servers_fetch x.1

theorem servers_through (s : Scene (Uplink ν)) (acts : List (Act ν)) :
    (s.through acts).fleet.source.servers = s.fleet.source.servers := by
  induction acts with
  | nil => rfl
  | cons a past ih => exact (servers_act _ a).trans ih

end Polling.Scene

namespace Service

open Backend (Network Uplink)
open Polling (FetchSource Poller Scene)

variable {ν : Type} {s s' : Service ν} {servers : List Config.Server}

/-- Each server has a poller that is called like it, in the order of the servers, and no two are
called alike. -/
structure Staffed (s : Service ν) (servers : List Config.Server) : Prop where
  asked : s.fleet.source.servers = servers
  names : s.fleet.pollers.map Poller.name = servers.map Config.Server.name
  distinct : (servers.map Config.Server.name).Nodup

section Runs

variable [Network ν]

/-- What can become of a service at any time, also while callbacks are at work and fetches are waited
for, as long as nobody gives up the handles of its pollers. -/
structure Reaches (s s' : Service ν) : Prop where
  works : ∃ reports, (Scene.mk s.fleet []).Works ⟨s'.fleet, reports⟩
  manned : s'.fleet.Manned
  key : s'.apiKey = s.apiKey

theorem Leads.reaches (h : s.Leads s') (hKey : s'.apiKey = s.apiKey) : s.Reaches s' :=
  ⟨⟨[], h.works⟩, h.manned, hKey⟩

/-- The pollers of what becomes of a service are sound. -/
theorem Reaches.sound (h : s.Reaches s') (hService : s.fleet.InService) {p : Poller}
    (hp : p ∈ s'.fleet.pollers) : ∃ entered, p.Sound entered := by
  obtain ⟨s₀, delays, past, hFresh, -, -, hPast⟩ := hService.begun
  obtain ⟨reports, acts, hActs⟩ := h.works
  have hThere : s₀.after ((Scene.mk s.fleet []).moves acts ++ past) = ⟨s'.fleet, reports⟩ := by
    rw [Scene.after_append, hPast]
    exact hActs
  obtain ⟨i, hi⟩ := List.getElem?_of_mem hp
  have hThen : (s₀.after ((Scene.mk s.fleet []).moves acts ++ past)).fleet.pollers[i]? = some p := by
    rw [hThere]
    exact hi
  exact ⟨_, hFresh.sound _ hThen (Poller.alive_of_held (h.manned p hp).held)⟩

/-- Acts keep the pollers of a service for its servers. -/
theorem Staffed.works (h : s.Staffed servers) {reports : List Polling.Report}
    (hWorks : (Scene.mk s.fleet []).Works ⟨s'.fleet, reports⟩) : s'.Staffed servers := by
  obtain ⟨acts, hActs⟩ := hWorks
  have hServers := (Scene.mk s.fleet []).servers_through acts
  have hNames := (Scene.mk s.fleet []).names_after ((Scene.mk s.fleet []).moves acts)
  have hThere : ((Scene.mk s.fleet []).after ((Scene.mk s.fleet []).moves acts)).fleet = s'.fleet :=
    congrArg Scene.fleet hActs
  rw [hActs] at hServers
  rw [hThere] at hNames
  exact ⟨hServers.trans h.asked, hNames.trans h.names, h.distinct⟩

omit [Network ν] in
/-- A new service asks about the servers of its configuration, and asks for its key. -/
theorem settings_make {c : Config} {network : ν} (h : make c network = .ok s) :
    s.fleet.source.servers = c.servers ∧ s.apiKey = c.admin.apiKey := by
  obtain ⟨client, -, rfl⟩ := make_eq_ok_iff.mp h
  exact ⟨rfl, rfl⟩

omit [Network ν] in
/-- A new service has a poller for each server of its configuration. -/
theorem staffed_make {c : Config} {network : ν} (h : make c network = .ok s)
    (hDistinct : (c.servers.map Config.Server.name).Nodup) : s.Staffed c.servers where
  asked := (settings_make h).1
  names := by
    rw [(parts_make h).2, List.map_map]
    rfl
  distinct := hDistinct

/-- **Every service that becomes of it** has one. -/
theorem Reaches.staffed {c : Config} {network : ν} {s₀ : Service ν} (h : s₀.Reaches s)
    (hMade : make c network = .ok s₀) (hDistinct : (c.servers.map Config.Server.name).Nodup) :
    s.Staffed c.servers := by
  obtain ⟨reports, hWorks⟩ := h.works
  exact (staffed_make hMade hDistinct).works hWorks

end Runs

/-! ## The directory -/

namespace Staffed

theorem length_eq (h : s.Staffed servers) : s.fleet.pollers.length = servers.length := by
  have hLengths := congrArg List.length h.names
  rwa [List.length_map, List.length_map] at hLengths

/-- The poller of a server is called like it. -/
theorem name_eq (h : s.Staffed servers) {i : Nat} {server : Config.Server} {p : Poller}
    (hServer : servers[i]? = some server) (hp : s.fleet.pollers[i]? = some p) :
    p.name = server.name := by
  have hSame : (s.fleet.pollers.map Poller.name)[i]? = (servers.map Config.Server.name)[i]? := by
    rw [h.names]
  rw [List.getElem?_map, List.getElem?_map, hServer, hp] at hSame
  exact Option.some.inj hSame

/-- Each server has its poller. -/
theorem exists_poller (h : s.Staffed servers) {i : Nat} {server : Config.Server}
    (hServer : servers[i]? = some server) : ∃ p, s.fleet.pollers[i]? = some p := by
  obtain ⟨hBound, -⟩ := List.getElem?_eq_some_iff.mp hServer
  exact ⟨_, List.getElem?_eq_getElem (h.length_eq ▸ hBound)⟩

end Staffed

/-- If no two entries have one name, none is passed over. -/
theorem lastOfName_of_nodup {l : List (String × Nat)} (h : (l.map Prod.fst).Nodup) :
    Admin.lastOfName l = l := by
  induction l with
  | nil => rfl
  | cons x rest ih =>
      obtain ⟨hNew, hRest⟩ := List.nodup_cons.mp h
      have hAlone : ¬ (rest.any fun y => decide (y.1 = x.1)) = true := by
        intro hAny
        obtain ⟨y, hy, hSame⟩ := List.any_eq_true.mp hAny
        exact hNew (List.mem_map.mpr ⟨y, hy, of_decide_eq_true hSame⟩)
      rw [Admin.lastOfName, if_neg hAlone, ih hRest]

/-- If no two entries have one name, a name is found wherever it stands. -/
theorem lookup_eq_some_iff_mem {l : List (String × Nat)} (h : (l.map Prod.fst).Nodup) {name : String}
    {i : Nat} : l.lookup name = some i ↔ (name, i) ∈ l := by
  constructor
  · intro hFound
    obtain ⟨before, rest, rfl, -⟩ := List.lookup_eq_some_iff.mp hFound
    exact List.mem_append_right _ List.mem_cons_self
  · intro hMem
    obtain ⟨before, rest, rfl⟩ := List.append_of_mem hMem
    rw [List.map_append, List.map_cons] at h
    have hNew : name ∉ before.map Prod.fst := fun hBefore =>
      List.disjoint_of_nodup_append h hBefore List.mem_cons_self
    refine List.lookup_eq_some_iff.mpr ⟨before, rest, rfl, fun x hx => bne_iff_ne.mpr ?_⟩
    rintro rfl
    exact hNew (List.mem_map_of_mem hx)

/-- **The directory** is the list of the names of the servers, each with its place. -/
theorem Staffed.directory_eq (h : s.Staffed servers) :
    s.directory = (servers.map Config.Server.name).zipIdx := by
  have hEntries : (s.fleet.pollers.zipIdx.map fun x => (x.1.name, x.2))
      = (servers.map Config.Server.name).zipIdx := by
    rw [← h.names, List.zipIdx_map]
    rfl
  have hKeys : ((servers.map Config.Server.name).zipIdx.map Prod.fst).Nodup := by
    rw [List.zipIdx_map_fst]
    exact h.distinct
  exact (congrArg Admin.lastOfName hEntries).trans (lastOfName_of_nodup hKeys)

/-- **A name stands for the poller of the server of that name**, and for no other. -/
theorem Staffed.poller?_eq_some_iff (h : s.Staffed servers) {name : String} {i : Nat} :
    s.poller? name = some i ↔ ∃ server, servers[i]? = some server ∧ server.name = name := by
  rw [poller?, h.directory_eq, lookup_eq_some_iff_mem, List.mem_zipIdx_iff_getElem?, List.getElem?_map,
    Option.map_eq_some_iff]
  rw [List.zipIdx_map_fst]
  exact h.distinct

/-- A name that no server has stands for none. -/
theorem Staffed.poller?_of_not_mem (h : s.Staffed servers) {name : String}
    (hName : name ∉ servers.map Config.Server.name) : s.poller? name = none := by
  refine Option.eq_none_iff_forall_ne_some.mpr fun i hi => hName ?_
  obtain ⟨server, hServer, rfl⟩ := h.poller?_eq_some_iff.mp hi
  exact List.mem_map_of_mem (List.mem_of_getElem? hServer)

end Service

end Lookout
