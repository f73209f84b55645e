import Lookout.Proofs.Backend.Answers
import Lookout.Proofs.Url.Join

set_option autoImplicit false

/-! # Where the requests of a client go

The path of an endpoint, with an id put in, is joined to the base URL. As long as it does not
begin with two slashes, it leads to the backend, whatever the id is; and the cookie goes
nowhere else, also when the backend points elsewhere. A path that does begin with two slashes
is accepted by the check of the configuration all the same. It names a host, and the base
has no say in where the request goes.
-/

namespace Lookout.Backend

open Config (Endpoint)

/-! ## Who is sent the cookie -/

/-- A network, with the requests that were sent into it, newest first. -/
structure Tapped (ν : Type) where
  net : ν
  heard : List Request := []

instance {ν : Type} [Network ν] : Network (Tapped ν) where
  send t r :=
    let (response, net) := Network.send t.net r
    (response, ⟨net, r :: t.heard⟩)

/-- Without a cookie, or for the host and the port that `base` leads to. -/
def Request.Confined (base : Url) (r : Request) : Prop :=
  r.cookie = none ∨ (r.url.host = base.host ∧ r.url.portOrDefault = base.portOrDefault)

/-- Following an answer, the cookie goes along to the same place only. -/
theorem confined_next {base : Url} {r next : Request} {status : Nat} {location : Option String}
    (h : r.Confined base) (hNext : r.next? status location = some next) : next.Confined base := by
  unfold Request.next? at hNext
  simp only [Option.bind_eq_bind, Option.bind_eq_some_iff, Option.some.injEq] at hNext
  obtain ⟨method, -, target, -, url, -, rfl⟩ := hNext
  unfold Request.Confined
  dsimp only
  split
  next hSame =>
    simp only [samePlace, Bool.and_eq_true, decide_eq_true_eq] at hSame
    exact h.imp_right fun hPlace => ⟨hSame.1.symm.trans hPlace.1, hSame.2.symm.trans hPlace.2⟩
  next => exact .inl rfl

variable {ν : Type} [Network ν]

theorem send_tapped {t t' : Tapped ν} {r : Request} {response : Response}
    (h : Network.send t r = (response, t')) :
    Network.send t.net r = (response, t'.net) ∧ t'.heard = r :: t.heard := by
  obtain ⟨rfl, rfl⟩ := Prod.mk.inj h
  exact ⟨rfl, rfl⟩

/-- Listening changes nothing about the end of an exchange. -/
theorem ends_tapped {hops : Nat} {r : Request} {t : Tapped ν} {ending : Ending}
    (h : Ends hops r t ending) : Ends hops r t.net ending := by
  induction h with
  | foreign hPlace => exact .foreign hPlace
  | broken hPlace hSend hReceived => exact .broken hPlace (send_tapped hSend).1 hReceived
  | silent hPlace hSend hReceived => exact .silent hPlace (send_tapped hSend).1 hReceived
  | final hPlace hSend hReceived hStays =>
      exact .final hPlace (send_tapped hSend).1 hReceived hStays
  | lost hPlace hSend hReceived hPoints =>
      exact .lost hPlace (send_tapped hSend).1 hReceived hPoints
  | redirected hPlace hSend hReceived hPoints _ ih =>
      exact .redirected hPlace (send_tapped hSend).1 hReceived hPoints ih

/-- **An exchange that begins confined stays so**, through all its redirects. -/
theorem confined_exchange {base : Url} (hops : Nat) {r : Request} (t : Tapped ν)
    (h : r.Confined base) :
    ∃ sent, (exchange hops r t).2.heard = sent ++ t.heard ∧ ∀ q ∈ sent, q.Confined base := by
  fun_induction exchange hops r t with
  | case1 => exact ⟨[], rfl, List.forall_mem_nil _⟩
  | case2 _ _ _ _ _ _ hSend | case3 _ _ _ _ _ _ hSend =>
      exact ⟨[_], (send_tapped hSend).2, List.forall_mem_singleton.mpr h⟩
  | case4 _ _ _ _ _ _ hSend | case5 _ _ _ _ _ hSend =>
      exact ⟨[_], (send_tapped hSend).2, List.forall_mem_singleton.mpr h⟩
  | case6 r _ _ _ _ hSend _ _ _ _ _ hPoints _ ih =>
      obtain ⟨sent, hHeard, hSent⟩ := ih (confined_next h hPoints)
      refine ⟨sent ++ [r], ?_, List.forall_mem_append.mpr ⟨hSent, List.forall_mem_singleton.mpr h⟩⟩
      rw [hHeard, (send_tapped hSend).2, List.append_assoc, List.singleton_append]

/-! ## Endpoints -/

namespace Client

/-- The path of an endpoint, with an id put in. -/
def reference (c : Client) (e : Endpoint) (id : String) : String :=
  String.ofList (fill id.toList (c.settings.path e).toList)

theorem endpoint_of_join {c : Client} {e : Endpoint} {id : String} {url : Url}
    (h : c.base.join (c.reference e id) = .ok url) : c.endpoint e id = .ok url := by
  unfold reference at h
  rw [endpoint, h]

/-- A client of settings that were accepted. -/
structure Accepted (c : Client) : Prop where
  web : Url.IsWeb c.base.scheme
  hierarchical : c.base.Hierarchical
  slash : ∀ e, (c.settings.path e).toList.head? = some '/'

theorem accepted_of_make {c : Config} {client : Client} (hAccepted : c.problems = [])
    (hMade : make c.transport = .ok client) : client.Accepted := by
  simp only [Config.problems, List.append_eq_nil_iff, List.flatMap_eq_nil_iff] at hAccepted
  obtain ⟨⟨⟨hUrl, hPaths⟩, -⟩, -⟩ := hAccepted
  unfold make at hMade
  split at hMade
  case h_1 => cases hMade
  case h_2 base hBase =>
    split at hMade
    case isFalse => cases hMade
    case isTrue =>
      obtain rfl := Except.ok.inj hMade
      have hWeb : Url.IsWeb base.scheme := by
        simp only [Config.urlProblems, hBase, ite_eq_left_iff] at hUrl
        by_contra hNot
        cases hUrl hNot
      refine ⟨hWeb, Url.hierarchical_of_parse hBase hWeb, fun e => ?_⟩
      have hPath : Config.pathProblems c.transport e = [] :=
        hPaths e (by cases e <;> decide)
      unfold Config.pathProblems at hPath
      by_contra hNot
      rw [if_neg hNot] at hPath
      cases hPath

theorem fill_cons {c : Char} (hPlain : c ≠ '{') (id rest : List Char) :
    fill id (c :: rest) = c :: fill id rest := by
  rw [fill]
  rintro _ rfl
  exact absurd rfl hPlain

theorem slash_reference {c : Client} (h : c.Accepted) (e : Endpoint) (id : String) :
    (c.reference e id).toList.head? = some '/' := by
  obtain ⟨rest, hPath⟩ := List.head?_eq_some_iff.mp (h.slash e)
  rw [reference, hPath, fill_cons (by decide), String.toList_ofList]
  rfl

/-- No id makes a network path of a template that goes on with an ordinary character. -/
theorem not_isNetworkPath_reference {c : Client} {e : Endpoint} {d : Char} {rest : List Char}
    (hPath : (c.settings.path e).toList = '/' :: d :: rest) (hVisible : 32 < d.toNat)
    (hPlain : ¬ Url.IsStroke d) (hBrace : d ≠ '{') (id : String) :
    ¬ Url.IsNetworkPath (c.reference e id) := by
  have hText : (c.reference e id).toList = '/' :: d :: fill id.toList rest := by
    rw [reference, hPath, fill_cons (by decide), fill_cons hBrace, String.toList_ofList]
  exact Url.not_isNetworkPath hText hVisible hPlain

/-- Whoever listens to a call hears only requests that are confined to the place of the base,
if the URL of the endpoint leads there. -/
theorem confined_call {ν α : Type} [Network ν] [Payload α] {c : Client} {e : Endpoint}
    {id : String} {url : Url} (hUrl : c.endpoint e id = .ok url)
    (hOrigin : url.origin = c.base.origin) (t : Tapped ν) :
    (c.call e id t : Call α × Tapped ν).1 = (c.call e id t.net).1 ∧
      ∃ sent, (c.call e id t : Call α × Tapped ν).2.heard = sent ++ t.heard
        ∧ ∀ q ∈ sent, q.Confined c.base := by
  simp only [Url.origin, Prod.mk.injEq] at hOrigin
  obtain ⟨hScheme, hHost, hPort⟩ := hOrigin
  by_cases hTime : c.settings.timeoutSecs = 0
  · unfold call
    rw [hUrl]
    dsimp only
    rw [if_pos hTime, if_pos hTime]
    exact ⟨rfl, [], rfl, List.forall_mem_nil _⟩
  · have hFirst : (c.request e url).Confined c.base :=
      .inr ⟨hHost, by rw [request, Url.portOrDefault, hPort, hScheme]; rfl⟩
    have hEnding := (ends_tapped (ends_exchange maxHops (c.request e url) t)).eq_exchange
    rw [c.call_of_ok e id t hUrl hTime, c.call_of_ok e id t.net hUrl hTime, hEnding]
    exact ⟨rfl, confined_exchange maxHops t hFirst⟩

/-- **A client stays at its backend unless a path names a host.** For settings that are
accepted, and whatever the id is: if the path with the id put in does not begin with two
slashes, it is a URL with scheme, host and port of the base, and the cookie is sent to that
host and that port only, however the network responds. If it does begin with two slashes, it
makes no difference which host the base is at. Which of the two it is, is up to the id only if
the template leaves it open right after its first slash. -/
theorem stays_at_backend {c : Config} {client : Client} (hAccepted : c.problems = [])
    (hMade : make c.transport = .ok client) (e : Endpoint) (id : String) :
    (¬ Url.IsNetworkPath (client.reference e id) →
      (∃ url, client.endpoint e id = .ok url ∧ url.origin = client.base.origin) ∧
        ∀ (ν α : Type) [Network ν] [Payload α] (t : Tapped ν),
          (client.call e id t : Call α × Tapped ν).1 = (client.call e id t.net).1 ∧
            ∃ sent, (client.call e id t : Call α × Tapped ν).2.heard = sent ++ t.heard ∧
              ∀ q ∈ sent, q.Confined client.base) ∧
      (Url.IsNetworkPath (client.reference e id) →
        ∀ other : Client, other.Accepted → other.settings = client.settings →
          other.base.scheme = client.base.scheme → other.endpoint e id = client.endpoint e id) ∧
      ∀ d rest, (client.settings.path e).toList = '/' :: d :: rest → 32 < d.toNat →
        ¬ Url.IsStroke d → d ≠ '{' → ¬ Url.IsNetworkPath (client.reference e id) := by
  have hClient := accepted_of_make hAccepted hMade
  have hSlash := slash_reference hClient e id
  refine ⟨fun hHere => ?_, fun hAway other hOther hSettings hScheme => ?_, fun d rest hPath => ?_⟩
  · obtain ⟨url, hJoin, hSame⟩ :=
      Url.sameOrigin_of_join hClient.web hClient.hierarchical hSlash hHere
    have hUrl := endpoint_of_join hJoin
    exact ⟨⟨url, hUrl, hSame.origin⟩, fun ν α _ _ t => confined_call hUrl hSame.origin t⟩
  · have hJoin := Url.join_eq_of_isNetworkPath hClient.web hClient.hierarchical
      hOther.hierarchical hScheme hSlash hAway
    unfold reference at hJoin
    rw [endpoint, endpoint, hSettings, hJoin]
  · exact fun hVisible hPlain hBrace => not_isNetworkPath_reference hPath hVisible hPlain hBrace id

/-- The base of the default settings. -/
def home : Url :=
  { scheme := "http", host := some (.name "localhost"), port := some 8080,
    path := .segments [""] }

/-- A client with a cookie, and a template of its own for the status. -/
def visitor (template : String) : Client :=
  ⟨home, { statusPath := template, sessionCookie := some "session=1" }⟩

/-- The settings of such a client. -/
def visitorConfig (template : String) : Config := { transport := (visitor template).settings }

theorem make_visitor (template : String) :
    make (visitorConfig template).transport = .ok (visitor template) := by
  have hBase : Url.parse (visitorConfig template).transport.baseUrl = .ok home := by
    show Url.parse "http://localhost:8080" = .ok home
    decide +kernel
  have hCookie : (visitorConfig template).transport.sessionCookie.all Net.isHeaderValue = true := by
    show (some "session=1").all Net.isHeaderValue = true
    decide +kernel
  unfold make
  rw [hBase]
  exact if_pos hCookie

theorem stays_at_backend_climbing :
    ∃ url, (visitor "/api/\x7bid\x7d").endpoint .status "../\\elsewhere" = .ok url ∧
      url.origin = home.origin := by
  have hAccepted : (visitorConfig "/api/\x7bid\x7d").problems = [] := by decide +kernel
  obtain ⟨hHere, -, hTemplate⟩ := stays_at_backend hAccepted (make_visitor _) .status
    "../\\elsewhere"
  have hPlain := hTemplate 'a' "pi/\x7bid\x7d".toList (by decide +kernel) (by decide) (by decide)
    (by decide)
  exact (hHere hPlain).1

/-- **Where the path names a host, the client does not stay.** Settings that are accepted can
leave an endpoint without a URL, and an id can send the cookie to another host. -/
theorem leaves_backend :
    ((visitorConfig "//").problems = [] ∧
        make (visitorConfig "//").transport = .ok (visitor "//") ∧
        (visitor "//").endpoint .status "1" = .error (.invalidEndpoint "//: empty host")) ∧
      (visitorConfig "/\x7bid\x7d").problems = [] ∧
        make (visitorConfig "/\x7bid\x7d").transport = .ok (visitor "/\x7bid\x7d") ∧
        ∃ url, (visitor "/\x7bid\x7d").endpoint .status "/elsewhere" = .ok url ∧
          url.origin ≠ (visitor "/\x7bid\x7d").base.origin := by
  have hUrl : (visitor "/\x7bid\x7d").endpoint .status "/elsewhere" = .ok
      { scheme := "http", host := some (.name "elsewhere"), path := .segments [""] } := by
    decide +kernel
  exact ⟨⟨by decide +kernel, make_visitor _, by decide +kernel⟩, by decide +kernel,
    make_visitor _, _, hUrl, by decide⟩

end Client

end Lookout.Backend
