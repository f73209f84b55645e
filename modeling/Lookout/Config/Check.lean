import Lookout.Config.Schema
import Lookout.Net.SocketAddress
import Lookout.Text.Quoted
import Lookout.Url.Reader

set_option autoImplicit false

/-! # Checking a configuration

Values that cannot be used and have no sensible replacement: a base URL that is none or
whose scheme is not that of the web, a path that does not begin with a slash, and the
address of a server that is enabled but cannot be bound. All of them are reported.
-/

namespace Lookout.Config

/-- The paths of the backend. -/
inductive Endpoint
  | status | start | stop
  deriving Repr, DecidableEq

/-- A value that cannot be used. -/
inductive Problem
  | badUrl (error : Url.Error)
  | badScheme (scheme : String)
  | badPath (endpoint : Endpoint) (path : String)
  | badMetricsAddress (address : String)
  | badAdminAddress (address : String)
  deriving Repr, DecidableEq

namespace Problem

/-- The field a problem is in. -/
def field : Problem → String
  | badUrl _ | badScheme _ => "transport.base_url"
  | badPath .status _ => "transport.status_path"
  | badPath .start _ => "transport.start_path"
  | badPath .stop _ => "transport.stop_path"
  | badMetricsAddress _ => "observability.metrics_address"
  | badAdminAddress _ => "admin.bind_address"

/-- What is wrong with it. -/
def message : Problem → String
  | badUrl e => e.text
  | badScheme scheme => "unsupported scheme " ++ Text.quoted scheme
  | badPath _ path => Text.quoted path ++ " must start with '/'"
  | badMetricsAddress a | badAdminAddress a => Text.quoted a ++ " is not a socket address"

/-- A problem as text. -/
def text (p : Problem) : String := p.field ++ ": " ++ p.message

/-- The text that describes a problem. -/
def describe (p : Problem) : String :=
  "ValidationError \x7b field: " ++ Text.quoted p.field ++ ", message: "
    ++ Text.quoted p.message ++ " \x7d"

end Problem

/-- The path template of an endpoint. -/
def TransportSettings.path (t : TransportSettings) : Endpoint → String
  | .status => t.statusPath
  | .start => t.startPath
  | .stop => t.stopPath

/-- What is wrong with a base URL. -/
def urlProblems (url : String) : List Problem :=
  match Url.parse url with
  | .error e => [.badUrl e]
  | .ok u => if u.scheme = "http" ∨ u.scheme = "https" then [] else [.badScheme u.scheme]

/-- What is wrong with the path of an endpoint. -/
def pathProblems (t : TransportSettings) (e : Endpoint) : List Problem :=
  if (t.path e).toList.head? = some '/' then [] else [.badPath e (t.path e)]

/-- What is wrong with the address of a server, if it is enabled. -/
def addressProblems (enabled : Bool) (address : String) (problem : Problem) : List Problem :=
  if enabled ∧ (Net.SocketAddress.parse? address).isNone then [problem] else []

/-- Everything that is wrong with a configuration. -/
def problems (c : Config) : List Problem :=
  urlProblems c.transport.baseUrl
    ++ [Endpoint.status, .start, .stop].flatMap (pathProblems c.transport)
    ++ addressProblems c.observability.metricsEnabled c.observability.metricsAddress
        (.badMetricsAddress c.observability.metricsAddress)
    ++ addressProblems c.admin.enabled c.admin.bindAddress (.badAdminAddress c.admin.bindAddress)

end Lookout.Config
