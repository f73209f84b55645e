import Lookout.Proofs.Admin.Names
import Lookout.Proofs.Config.Repair
import Lookout.Proofs.Polling.Alone
import Lookout.Proofs.Service.Admission
import Lookout.Proofs.Service.Directory

set_option autoImplicit false

/-! # Every poller is listed and can be addressed

What the admin interface shows of the pollers goes through the directory, which is a map from names
to places; what is asked of one of them goes through a path, in which its name is encoded. The
directory leaves nobody out (`Staffed.listings_eq`) and every spelling of a name leads to the poller
of that name alone (`Staffed.named?_of_spells`), so both are about the servers of the configuration,
whatever they are called. `pollers_listed_and_addressed` sums this up.
-/

namespace Lookout

namespace Service

open Admin (Errand Listing Request Route Spells named? spelling)
open Backend (FinalAnswer Network)
open Config (Server)
open Polling (FetchSource Poller)

variable {ν : Type} {s : Service ν} {servers : List Server}

/-! ## What is shown of a poller -/

/-- What the listing tells of a server and its poller. -/
def listingOf (row : Server × Poller) : Listing where
  name := row.1.name
  serverId := row.1.id
  mode := row.2.mode
  lastStatus := row.2.lastStatus

/-- What is shown of a server and its poller: the state, and what follows from it. -/
def entry (row : Server × Poller) : Json :=
  .obj [("name", .str row.1.name), ("server_id", .str row.1.id), ("state", .str row.2.mode.name),
    ("polling", .bool (decide (row.2.mode ≠ .stopped))),
    ("active", .bool (decide (row.2.mode = .active))),
    ("last_status", .optStr (if row.2.mode = .stopped then none else row.2.lastStatus))]

/-- The listing is consistent, if a stopped poller has forgotten its status. -/
theorem toJson_listingOf {row : Server × Poller}
    (hForgotten : row.2.mode = .stopped → row.2.lastStatus = none) :
    (listingOf row).toJson = entry row := by
  rw [Listing.toJson, entry, listingOf]
  cases hMode : row.2.mode with
  | stopped =>
      rw [hForgotten hMode]
      rfl
  | idle => rfl
  | active => rfl

/-- The servers of a service, each with its poller. -/
def rows (s : Service ν) : List (Server × Poller) := s.fleet.source.servers.zip s.fleet.pollers

theorem listing?_eq (h : s.Staffed servers) {i : Nat} {row : Server × Poller}
    (hRow : s.rows[i]? = some row) : s.listing? i = some (listingOf row) := by
  obtain ⟨hServer, hp⟩ := List.getElem?_zip_eq_some.mp hRow
  have hName : row.2.name = row.1.name := h.name_eq (h.asked ▸ hServer) hp
  rw [listing?, hp, hServer]
  show some _ = some _
  rw [hName]
  rfl

/-! ## All of them -/

namespace Staffed

theorem map_rows (h : s.Staffed servers) : s.rows.map Prod.fst = servers := by
  rw [rows, h.asked, List.map_fst_zip (Nat.le_of_eq h.length_eq.symm)]

/-- The directory has the rows, each by its name and place. -/
theorem directory_eq_rows (h : s.Staffed servers) :
    s.directory = s.rows.zipIdx.map fun x => (x.1.1.name, x.2) := by
  rw [h.directory_eq, ← h.map_rows, List.map_map, List.zipIdx_map]
  rfl

/-- **The listings** are those of all rows, in the order of their names. -/
theorem listings_eq (h : s.Staffed servers) :
    s.listings = (s.rows.mergeSort fun x y => x.1.name ≤ y.1.name).map listingOf := by
  let byName (x y : (Server × Poller) × Nat) : Bool := decide (x.1.1.name ≤ y.1.1.name)
  have hDirectory : (s.directory.mergeSort fun x y => x.1 ≤ y.1)
      = (s.rows.zipIdx.mergeSort byName).map fun x => (x.1.1.name, x.2) := by
    rw [h.directory_eq_rows]
    refine (List.map_mergeSort fun x _ y _ => ?_).symm
    rfl
  have hRows : (s.rows.mergeSort fun x y => x.1.name ≤ y.1.name)
      = (s.rows.zipIdx.mergeSort byName).map Prod.fst := by
    calc (s.rows.mergeSort fun x y => x.1.name ≤ y.1.name)
        = (s.rows.zipIdx.map Prod.fst).mergeSort fun x y => x.1.name ≤ y.1.name := by
          rw [List.zipIdx_map_fst]
      _ = (s.rows.zipIdx.mergeSort byName).map Prod.fst := by
          refine (List.map_mergeSort fun x _ y _ => ?_).symm
          rfl
  have hEach : ∀ x ∈ s.rows.zipIdx.mergeSort byName, s.listing? x.2 = some (listingOf x.1) := by
    intro x hx
    have hMem := (List.mergeSort_perm _ byName).mem_iff.mp hx
    exact listing?_eq h (List.mem_zipIdx_iff_getElem?.mp hMem)
  rw [listings, hDirectory, hRows, List.filterMap_map, List.map_map, ← List.filterMap_eq_map]
  exact List.filterMap_congr hEach

/-- No two rows have one name, so their order is strict. -/
theorem pairwise_rows (h : s.Staffed servers) :
    (s.rows.mergeSort fun x y => x.1.name ≤ y.1.name).Pairwise fun x y => x.1.name < y.1.name := by
  have hSorted : (s.rows.mergeSort fun x y => x.1.name ≤ y.1.name).Pairwise
      fun x y => x.1.name ≤ y.1.name := by
    refine (List.pairwise_mergeSort (fun x y z hxy hyz => ?_) (fun x y => ?_) s.rows).imp
      of_decide_eq_true
    · exact decide_eq_true (String.le_trans (of_decide_eq_true hxy) (of_decide_eq_true hyz))
    · simpa using String.le_total x.1.name y.1.name
  have hDistinct : (s.rows.mergeSort fun x y => x.1.name ≤ y.1.name).Pairwise
      fun x y => x.1.name ≠ y.1.name := by
    have hNames : (s.rows.map fun x => x.1.name).Nodup := by
      have hSame : s.rows.map (fun x => x.1.name) = servers.map Server.name := by
        rw [← h.map_rows, List.map_map]
        rfl
      exact hSame ▸ h.distinct
    exact List.pairwise_map.mp (((List.mergeSort_perm _ _).map _).nodup_iff.mpr hNames)
  exact (hSorted.and hDistinct).imp fun hxy => lt_of_le_of_ne hxy.1 hxy.2

end Staffed

/-! ## One of them -/

/-- **Every spelling of the name of a server** leads to its poller. -/
theorem Staffed.named?_of_spells (h : s.Staffed servers) {i : Nat} {server : Server}
    (hServer : servers[i]? = some server) {segment : List Char}
    (hSpells : Spells segment server.name) : named? s.directory segment = some i := by
  rw [named?, hSpells.2, Option.bind_some]
  exact h.poller?_eq_some_iff.mpr ⟨server, hServer, rfl⟩

/-- The poller of a server asks for its status. -/
theorem Staffed.status_eq [Network ν] (h : s.Staffed servers) {i : Nat} {server : Server}
    (hServer : servers[i]? = some server) :
    s.fleet.source.status i = s.fleet.source.call .status server.id := by
  rw [Backend.Uplink.status, h.asked, hServer]
  rfl

theorem Staffed.answerTo?_eq [Network ν] (h : s.Staffed servers) {i : Nat} {server : Server}
    (hServer : servers[i]? = some server) :
    s.fleet.source.answerTo? i = s.fleet.source.answer? .status server.id := by
  rw [Backend.Uplink.answerTo?, h.asked, hServer]
  rfl

/-- A spelling of a name that no server has leads nowhere. -/
theorem Staffed.onNamed_of_unknown (h : s.Staffed servers) {name : String}
    (hName : name ∉ servers.map Server.name) {segment : List Char} (hSpells : Spells segment name)
    (act : Nat → Service ν × Admin.Answer) :
    s.onNamed segment act = (s, .unknownPoller name) := by
  rw [onNamed, hSpells.2]
  dsimp only
  rw [h.poller?_of_not_mem hName]

/-- A request on an errand leads to the route of the errand. -/
theorem route?_path (e : Errand) {segment : List Char} (h : '/' ∉ segment)
    (authorization : Option String) :
    Request.route? ⟨.post, e.path segment, authorization⟩ = some (e.route segment) := by
  rw [Request.route?]
  dsimp only
  rw [e.ofPath?_path h]
  cases e <;> rfl

/-! ## Requests -/

theorem post_ne_head : Admin.Method.post ≠ .head := by decide

variable [Network ν]

/-- **What a service makes of requests about its pollers**, if they show the key.

* It has a poller for each server. Asked for all of them, it shows each server once with its own
  poller, in the order of their names by code points.
* Asked by any spelling of the name of a server to have it polled actively, it makes the poller of
  that server active, changes no other poller, and shows that one.
* Asked by such a spelling to fetch, it has that poller fetch and waits for it; when it is asked,
  only the call is noted. The answer is that to a call for the status of that server.
* Asked for a poller of another name, it answers that there is none, and nothing changes. -/
structure Addresses (s : Service ν) (servers : List Server) (authorization : Option String) :
    Prop where
  pollers : s.fleet.pollers.length = servers.length
  listing : ∃ listed : List (Server × Poller), listed.Perm (servers.zip s.fleet.pollers) ∧
    listed.Pairwise (fun x y => x.1.name < y.1.name) ∧
    s.handle ⟨.get, "/admin/pollers", authorization⟩ = (s, .ok (.arr (listed.map entry)))
  activate : ∀ i server, servers[i]? = some server → ∀ segment, Spells segment server.name →
    ∃ p : Poller, p.mode = .active ∧ (s.fleet.enterActive i).pollers = s.fleet.pollers.set i p ∧
      s.handle ⟨.post, Errand.activate.path segment, authorization⟩
        = (s.onFleet (·.enterActive i), .ok (entry (server, p)))
  poll : ∀ i server, servers[i]? = some server → ∀ segment, Spells segment server.name →
    s.fleet.asked i = { s.fleet with
      pollers := s.fleet.pollers.modify i (·.noteFetch s.fleet.now)
      source := (FetchSource.fetch s.fleet.source i).2
      flights := s.fleet.flights ++ [s.fleet.flight i .direct] } ∧
    s.handle ⟨.post, Errand.poll.path segment, authorization⟩
      = ((s.onFleet (·.asked i)).onFleet
          (·.advance (FetchSource.fetch s.fleet.source i).1.duration),
        polled (s.fleet.source.call .status server.id).1.result)
  unknown : ∀ name, name ∉ servers.map Server.name → ∀ segment, Spells segment name →
    ∀ e : Errand, s.handle ⟨.post, e.path segment, authorization⟩ = (s, .unknownPoller name)

section Admitted

variable {authorization : Option String}
  (hAdmitted : Admin.admits s.apiKey authorization = true) (h : s.Staffed servers)

include hAdmitted h

/-- A request for the listing. -/
theorem handle_pollers
    (hForgotten : ∀ p ∈ s.fleet.pollers, p.mode = .stopped → p.lastStatus = none) :
    s.handle ⟨.get, "/admin/pollers", authorization⟩
      = (s, .ok (.arr ((s.rows.mergeSort fun x y => x.1.name ≤ y.1.name).map entry))) := by
  have hRoute : Request.route? ⟨.get, "/admin/pollers", authorization⟩ = some .pollers := by
    have hPath : Route.ofPath? "/admin/pollers" = some .pollers := by decide +kernel
    rw [Request.route?]
    dsimp only
    rw [hPath]
    rfl
  have hShown : s.listings.map Listing.toJson
      = (s.rows.mergeSort fun x y => x.1.name ≤ y.1.name).map entry := by
    rw [h.listings_eq, List.map_map]
    refine List.map_congr_left fun row hRow => toJson_listingOf ?_
    have hMem := (List.mergeSort_perm _ _).mem_iff.mp hRow
    exact hForgotten row.2 (List.of_mem_zip hMem).2
  have hMethod : Admin.Method.get ≠ .head := by decide
  rw [handle_of_route hAdmitted hRoute hMethod, visit, hShown]

/-- A request for the poller of a server to be active. -/
theorem handle_activate (hManned : s.fleet.Manned) {i : Nat} {server : Server}
    (hServer : servers[i]? = some server) {segment : List Char}
    (hSpells : Spells segment server.name) :
    ∃ p : Poller, p.mode = .active ∧ (s.fleet.enterActive i).pollers = s.fleet.pollers.set i p ∧
      s.handle ⟨.post, Errand.activate.path segment, authorization⟩
        = (s.onFleet (·.enterActive i), .ok (entry (server, p))) := by
  let active : Service ν := s.onFleet (·.carryOut i .enterActive)
  have hActive : active.Staffed servers :=
    h.works (leads_carryOut hManned (o := .enterActive) (fun _ => rfl) i).works
  obtain ⟨p, hp⟩ := h.exists_poller hServer
  let q := p.operate s.fleet.gate.paused s.fleet.now .enterActive
  have hMode : q.mode = .active := rfl
  have hPollers : active.fleet.pollers = s.fleet.pollers.set i q := by
    have hDoes := (s.fleet.does_carryOut i .enterActive).pollers
    rw [List.modify_eq_set_getElem?, hp] at hDoes
    exact hDoes
  have hThere : active.fleet.pollers[i]? = some q := by
    rw [hPollers, List.getElem?_set_self (List.getElem?_eq_some_iff.mp hp).1]
  have hRow : active.rows[i]? = some (server, q) :=
    List.getElem?_zip_eq_some.mpr ⟨hActive.asked ▸ hServer, hThere⟩
  have hShown : (listingOf (server, q)).toJson = entry (server, q) :=
    toJson_listingOf fun hStopped => absurd (hMode.symm.trans hStopped) (by decide)
  have hAnswer : active.showPoller i = .ok (entry (server, q)) := by
    rw [showPoller, listing?_eq hActive hRow, Option.map_some, hShown]
    rfl
  refine ⟨q, hMode, hPollers, ?_⟩
  rw [handle_of_route hAdmitted (route?_path .activate hSpells.1 authorization) post_ne_head]
  show s.onNamed segment s.activate = _
  rw [onNamed_of_some (h.named?_of_spells hServer hSpells)]
  exact congrArg (Prod.mk active) hAnswer

/-- A request for the poller of a server to fetch. -/
theorem handle_poll {i : Nat} {server : Server} (hServer : servers[i]? = some server)
    {segment : List Char} (hSpells : Spells segment server.name) :
    s.handle ⟨.post, Errand.poll.path segment, authorization⟩
      = ((s.onFleet (·.asked i)).onFleet
          (·.advance (FetchSource.fetch s.fleet.source i).1.duration),
        polled (s.fleet.source.call .status server.id).1.result) := by
  rw [handle_of_route hAdmitted (route?_path .poll hSpells.1 authorization) post_ne_head]
  show s.onNamed segment s.showPoll = _
  rw [onNamed_of_some (h.named?_of_spells hServer hSpells), showPoll_eq, s.pollNow_fst i,
    h.status_eq hServer]

/-- A request for a poller that is not there. -/
theorem handle_unknown {name : String} (hName : name ∉ servers.map Server.name)
    {segment : List Char} (hSpells : Spells segment name) (e : Errand) :
    s.handle ⟨.post, e.path segment, authorization⟩ = (s, .unknownPoller name) := by
  rw [handle_of_route hAdmitted (route?_path e hSpells.1 authorization) post_ne_head]
  cases e with
  | activate => exact h.onNamed_of_unknown hName hSpells s.activate
  | poll => exact h.onNamed_of_unknown hName hSpells s.showPoll

/-- **All requests about pollers.** -/
theorem Staffed.addresses (hManned : s.fleet.Manned)
    (hForgotten : ∀ p ∈ s.fleet.pollers, p.mode = .stopped → p.lastStatus = none) :
    s.Addresses servers authorization where
  pollers := h.length_eq
  listing := by
    refine ⟨_, ?_, h.pairwise_rows, handle_pollers hAdmitted h hForgotten⟩
    rw [← h.asked]
    exact List.mergeSort_perm _ _
  activate i server hServer segment hSpells := handle_activate hAdmitted h hManned hServer hSpells
  poll i server hServer segment hSpells :=
    ⟨s.fleet.asked_frame i, handle_poll hAdmitted h hServer hSpells⟩
  unknown name hName segment hSpells e := handle_unknown hAdmitted h hName hSpells e

end Admitted

/-! ## Every name -/

/-- **Between two commands**, a request on an errand does what the command for the poller of the
server does, and no other poller has changed when all that is due is done. -/
theorem Settled.perform_named (h : s.Settled) {authorization : Option String}
    (hAdmitted : Admin.admits s.apiKey authorization = true) (hStaffed : s.Staffed servers) {i : Nat}
    {server : Server} (hServer : servers[i]? = some server) {segment : List Char}
    (hSpells : Spells segment server.name) :
    let post (e : Errand) : Command := .admin (some ⟨.post, e.path segment, authorization⟩)
    ((s.perform (post .activate)).1 = (s.perform (.enterActive [i])).1 ∧
      ∀ j, j ≠ i → (s.perform (post .activate)).1.fleet.pollers[j]? = s.fleet.pollers[j]?) ∧
    ((s.perform (post .poll)).1 = (s.perform (.pollNow [i])).1 ∧
      s.fleet.FetchesOnly i
        ((s.fleet.source.answer? .status server.id).map FinalAnswer.signal).toList) := by
  intro post
  have hNamed := hStaffed.named?_of_spells hServer hSpells
  have hActivate : (s.perform (post .activate)).1 = (s.onFleet (·.carryOut i .enterActive)).settle :=
    (perform_activate hAdmitted (route?_path .activate hSpells.1 authorization) hNamed).1
  have hPoll := (h.perform_poll hAdmitted (route?_path .poll hSpells.1 authorization) hNamed).1
  have hOnTime := h.onTime.carryOut (o := .enterActive) (fun _ => rfl) i
  have hOnly := h.fetchesOnly i
  rw [hStaffed.answerTo?_eq hServer] at hOnly
  refine ⟨⟨hActivate, fun j hj => ?_⟩,
    hPoll.trans (perform_pollNow (lt_of_named? hNamed)).symm, hOnly⟩
  rw [hActivate]
  exact h.atRest.carryOut_apart hOnTime.inService hj

/-- What a run of commands leads to is something that becomes of the service. -/
theorem reaches_after {c : Config} {network : ν} {s₀ : Service ν} (hMade : make c network = .ok s₀)
    (past : List Command) : s₀.Reaches (s₀.after past) :=
  (leads_after (manned_make hMade).1 past).reaches (s₀.apiKey_after past)

/-- **Every server of the configuration is listed once, and can be addressed.** Take a service whose
servers were repaired, whatever they are called, and requests that show its key.

* At any time, whatever has happened and is under way, all servers are listed, each once, and each
  can be addressed by its name and by no other (`Addresses`).
* After any run of commands, a request by the name of a server does what the command for its poller
  alone does. Once the poller is active and all is done that was due, no other poller has changed;
  of a fetch nobody takes notice but the gate.
* Every name has a spelling, and a request with it can be sent if the target is not too long. -/
theorem pollers_listed_and_addressed {c given : Config}
    (hServers : c.servers = given.repair.1.servers) {network : ν} {s₀ : Service ν}
    (hMade : make c network = .ok s₀) {authorization : Option String}
    (hAdmitted : Admin.admits c.admin.apiKey authorization = true) :
    (∀ s, s₀.Reaches s → s.Addresses c.servers authorization) ∧
    (∀ past, s₀.Reaches (s₀.after past) ∧
      ∀ i server, c.servers[i]? = some server → ∀ segment, Spells segment server.name →
        let s := s₀.after past
        let post (e : Errand) : Command := .admin (some ⟨.post, e.path segment, authorization⟩)
        ((s.perform (post .activate)).1 = (s.perform (.enterActive [i])).1 ∧
          ∀ j, j ≠ i → (s.perform (post .activate)).1.fleet.pollers[j]? = s.fleet.pollers[j]?) ∧
        ((s.perform (post .poll)).1 = (s.perform (.pollNow [i])).1 ∧
          s.fleet.FetchesOnly i
            ((s.fleet.source.answer? .status server.id).map FinalAnswer.signal).toList)) ∧
    (∀ name, Spells (spelling name) name ∧ ∀ e : Errand,
      (e.path (spelling name)).utf8ByteSize ≤ Net.Target.maxLength →
      authorization.all Net.isHeaderValue = true →
        Request.make? "POST" (e.path (spelling name)) authorization
          = some ⟨.post, e.path (spelling name), authorization⟩) := by
  have hDistinct : (c.servers.map Server.name).Nodup := hServers ▸ (Config.fit_repair given).names
  have hKey : ∀ s, s₀.Reaches s → Admin.admits s.apiKey authorization = true := by
    intro s hReaches
    rw [hReaches.key, (settings_make hMade).2]
    exact hAdmitted
  have hSettled := settled_make hMade
  refine ⟨?_, ?_, ?_⟩
  · intro s hReaches
    refine (hReaches.staffed hMade hDistinct).addresses (hKey s hReaches) hReaches.manned ?_
    intro p hp
    obtain ⟨entered, hSound⟩ := hReaches.sound hSettled.inService hp
    exact hSound.forgotten
  · intro past
    have hReaches := reaches_after hMade past
    refine ⟨hReaches, fun i server hServer segment hSpells => ?_⟩
    exact (hSettled.after past).perform_named (hKey _ hReaches) (hReaches.staffed hMade hDistinct)
      hServer hSpells
  · intro name
    exact ⟨Admin.spells_spelling name, fun e => Admin.make?_spelling e name⟩

/-- Servers with names that do not look like it, and a key. -/
def oddlyNamed : Config where
  transport := { baseUrl := "http://panel" }
  servers := [⟨"a/b", "1"⟩, ⟨"%2F", "2"⟩, ⟨"", "3"⟩, ⟨"é", "4"⟩]
  admin := { apiKey := some "key" }

/-- The settings that they come from, with a name that is there already. -/
def oddlyGiven : Config := { oddlyNamed with servers := oddlyNamed.servers ++ [⟨"a/b", "5"⟩] }

/-- The client of their panel. -/
def oddClient : Backend.Client where
  base := { scheme := "http", host := some (.name "panel"), path := .segments [""] }
  settings := oddlyNamed.transport

theorem make_oddClient : Backend.Client.make oddlyNamed.transport = .ok oddClient := by
  have hBase : Url.parse oddlyNamed.transport.baseUrl = .ok oddClient.base := by
    show Url.parse "http://panel" = _
    decide +kernel
  rw [Backend.Client.make, hBase]
  rfl

/-- The server `a/b` is addressed by a path in which its slash is encoded, and nobody is addressed
by a part of its name. -/
theorem pollers_listed_and_addressed_odd :
    oddlyNamed.servers = oddlyGiven.repair.1.servers ∧
    let s := (wired oddlyNamed oddClient panel).after [.start [0, 1, 2, 3]]
    s.Addresses oddlyNamed.servers (some "Bearer key") ∧
    (s.perform (.admin (some
        ⟨.post, Errand.activate.path "a%2Fb".toList, some "Bearer key"⟩))).1
      = (s.perform (.enterActive [0])).1 ∧
    s.handle ⟨.post, Errand.poll.path "a".toList, some "Bearer key"⟩ = (s, .unknownPoller "a") := by
  have hKept : oddlyNamed.servers = oddlyGiven.repair.1.servers := by decide +kernel
  have hMade : make oddlyNamed panel = .ok (wired oddlyNamed oddClient panel) :=
    make_eq_ok_iff.mpr ⟨oddClient, make_oddClient, rfl⟩
  have hAdmitted : Admin.admits oddlyNamed.admin.apiKey (some "Bearer key") = true := by
    decide +kernel
  have hSpells : Spells "a%2Fb".toList "a/b" := ⟨by decide, by decide +kernel⟩
  have hPart : Spells "a".toList "a" := ⟨by decide, by decide +kernel⟩
  obtain ⟨hAlways, hCommands, -⟩ := pollers_listed_and_addressed hKept hMade hAdmitted
  obtain ⟨hReaches, hNamed⟩ := hCommands [.start [0, 1, 2, 3]]
  have hAddresses := hAlways _ hReaches
  exact ⟨hKept, hAddresses, (hNamed 0 ⟨"a/b", "1"⟩ rfl _ hSpells).1.1,
    hAddresses.unknown "a" (by decide) _ hPart .poll⟩

end Service

end Lookout
