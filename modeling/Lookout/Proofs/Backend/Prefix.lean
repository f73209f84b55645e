import Lookout.Proofs.Backend.Endpoint
import Lookout.Proofs.Url.Seat

set_option autoImplicit false

/-! # The path of the base URL

The path of an endpoint is a reference, and a reference that begins with a slash takes the place
of the path of the base. So the requests of a client go to the seat of the base URL, and a path
that the base URL has of its own is not kept in front of that of the endpoint.
-/

namespace Lookout.Backend

open Config (Endpoint)

variable {ν : Type} [Network ν]

/-- An exchange begins with its request. -/
theorem heard_exchange (hops : Nat) {r : Request} (t : Tapped ν) (hWeb : Url.IsWeb r.url.scheme) :
    ∃ sent, (exchange hops r t).2.heard = sent ++ r :: t.heard := by
  have hMore : ∀ (hops : Nat) (q : Request) (t : Tapped ν),
      ∃ sent, (exchange hops q t).2.heard = sent ++ t.heard := fun hops q t =>
    (confined_exchange hops t (.inr ⟨rfl, rfl⟩ : q.Confined q.url)).imp fun _ h => h.1
  unfold exchange
  rw [if_neg (by rcases hWeb with h | h <;> simp [h])]
  cases hSend : Network.send t r with
  | mk response net =>
      have hHeard := (send_tapped hSend).2
      dsimp only
      split
      · exact ⟨[], hHeard⟩
      · exact ⟨[], hHeard⟩
      · split
        · exact ⟨[], hHeard⟩
        · split
          · exact ⟨[], hHeard⟩
          · rw [← hHeard]
            exact hMore _ _ net

namespace Client

theorem base_of_make {settings : Config.TransportSettings} {client : Client}
    (h : make settings = .ok client) :
    Url.parse settings.baseUrl = .ok client.base ∧ client.settings = settings := by
  unfold make at h
  split at h
  case h_1 => cases h
  case h_2 base hBase =>
    split at h
    case isTrue =>
      obtain rfl := Except.ok.inj h
      exact ⟨hBase, rfl⟩
    case isFalse => cases h

/-- **The requests of a client go to the seat of its base URL.** For settings that are accepted,
with a base URL that is written as a scheme, a seat and a path, and for every endpoint whose path
with the id put in is plain: there is a URL for it, which is read from the scheme, the seat and the
path of the endpoint alone, and this is what the first request of a call asks for. It is the base
URL, less a slash at its end, with the path of the endpoint behind it exactly if the base URL has
no path of its own. -/
theorem requests_at_seat {c : Config} {client : Client} (hAccepted : c.problems = [])
    (hMade : make c.transport = .ok client) {scheme seat place : String}
    (hWeb : Url.IsWeb scheme) (hSeat : Url.IsSeat seat.toList) (hPlace : Url.IsPlace place.toList)
    (hText : c.transport.baseUrl = Url.written scheme seat place) (e : Endpoint) (id : String)
    (hPlain : Url.IsPlainPath (client.reference e id).toList) :
    ∃ url, client.endpoint e id = .ok url ∧
      Url.parse (Url.written scheme seat (client.reference e id)) = .ok url ∧
      url.origin = client.base.origin ∧ url.target = client.reference e id ∧
      (∀ (ν α : Type) [Network ν] [Payload α] (t : Tapped ν), client.settings.timeoutSecs ≠ 0 →
        ∃ sent, (client.call e id t : Call α × Tapped ν).2.heard =
          sent ++ client.request e url :: t.heard) ∧
      (Url.parse (String.ofList (Url.withoutSlash c.transport.baseUrl.toList) ++
          client.reference e id) = .ok url ↔ client.base.path = .segments [""]) := by
  obtain ⟨segments, hNonempty, hSegments, hReference⟩ := hPlain
  have hSlashed : client.reference e id = String.ofList (Url.slashed segments) := by
    rw [← hReference, String.ofList_toList]
  have hBase : Url.parse (Url.written scheme seat place) = .ok client.base := by
    rw [← hText]
    exact (base_of_make hMade).1
  have hClient := accepted_of_make hAccepted hMade
  obtain ⟨hJoin, hSeated, hBehind⟩ :=
    Url.join_written hWeb hSeat hPlace hBase hNonempty hSegments
  rw [← hSlashed] at hJoin hSeated
  have hUrl := endpoint_of_join hJoin
  refine ⟨_, hUrl, hSeated, rfl, ?_, ?_, ?_⟩
  · rw [hSlashed, ← Url.text_slashed]
    simp [Url.target, Url.atPath]
  · intro ν α _ _ t hTime
    rw [client.call_of_ok e id t hUrl hTime]
    exact heard_exchange maxHops t hClient.web
  · rw [hText, hSlashed, ← String.ofList_append]
    exact hBehind

/-- A base with a path of its own. -/
def panel : Url :=
  { home with path := .segments ["panel", "v1", ""] }

/-- A configuration with such a base. -/
def panelConfig : Config := { transport := { baseUrl := "http://localhost:8080/panel/./v1/" } }

/-- The client of that configuration. -/
def panelClient : Client := ⟨panel, panelConfig.transport⟩

theorem make_panelClient : make panelConfig.transport = .ok panelClient := by
  have hBase : Url.parse panelConfig.transport.baseUrl = .ok panel := by decide +kernel
  have hCookie : panelConfig.transport.sessionCookie.all Net.isHeaderValue = true := rfl
  unfold make
  rw [hBase]
  exact if_pos hCookie

theorem requests_at_seat_panel :
    panelConfig.problems = [] ∧ Url.IsPlainPath (panelClient.reference .start "a-1").toList ∧
      ∃ url, panelClient.endpoint .start "a-1" = .ok url ∧
        Url.parse "http://localhost:8080/api/servers/a-1/start" = .ok url ∧
        url.target = "/api/servers/a-1/start" ∧
        Url.parse "http://localhost:8080/panel/./v1/api/servers/a-1/start" ≠ .ok url := by
  have hAccepted : panelConfig.problems = [] := by decide +kernel
  have hReference : panelClient.reference .start "a-1" = "/api/servers/a-1/start" := by
    decide +kernel
  have hPlain : Url.IsPlainPath (panelClient.reference .start "a-1").toList :=
    ⟨["api".toList, "servers".toList, "a-1".toList, "start".toList], by decide, by decide,
      by rw [hReference]; decide⟩
  have hSeat : Url.IsSeat "localhost:8080".toList :=
    ⟨by decide, List.all_iff_forall_prop.mp (by decide)⟩
  have hPlace : Url.IsPlace "/panel/./v1/".toList :=
    ⟨by decide, List.all_iff_forall_prop.mp (by decide)⟩
  obtain ⟨url, hUrl, hSeated, -, hTarget, -, hBehind⟩ := requests_at_seat hAccepted
    make_panelClient (.inl rfl) hSeat hPlace rfl .start "a-1" hPlain
  rw [hReference] at hSeated hTarget hBehind
  exact ⟨hAccepted, hPlain, url, hUrl, hSeated, hTarget, fun h => absurd (hBehind.mp h) (by decide)⟩

/-- **A path of the base URL is lost.** The configuration is accepted, and its requests go
elsewhere than to the base URL with the path of the endpoint behind it. -/
theorem path_of_base_lost :
    panelConfig.problems = [] ∧ make panelConfig.transport = .ok panelClient ∧
      ∃ url behind, panelClient.endpoint .status "1" = .ok url ∧
        Url.parse (String.ofList (Url.withoutSlash panelConfig.transport.baseUrl.toList) ++
          panelClient.reference .status "1") = .ok behind ∧
        url.text = "http://localhost:8080/api/servers/1/status" ∧
        behind.text = "http://localhost:8080/panel/v1/api/servers/1/status" := by
  refine ⟨by decide +kernel, make_panelClient,
    { home with path := .segments ["api", "servers", "1", "status"] },
    { home with path := .segments ["panel", "v1", "api", "servers", "1", "status"] }, ?_, ?_, ?_, ?_⟩
  all_goals decide +kernel

end Client

end Lookout.Backend
