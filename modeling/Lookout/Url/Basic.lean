import Lookout.Text.Percent

set_option autoImplicit false

/-! # URLs

The parts of a URL, why a text may fail to be one, and how a URL is written. Some schemes
are special: their URLs always have a host and a path that begins with a slash, know a
default port, and take a backslash for a slash.
-/

namespace Lookout

namespace Url

/-- Why a text is no URL. -/
inductive Error
  | relativeWithoutBase
  | emptyHost
  | invalidPort
  | invalidIpv4
  | invalidIpv6
  | invalidDomain
  | invalidHostCharacter
  | relativeToOpaque
  deriving Repr, DecidableEq

/-- The wording of an error. -/
def Error.text : Error → String
  | relativeWithoutBase => "relative URL without a base"
  | emptyHost => "empty host"
  | invalidPort => "invalid port number"
  | invalidIpv4 => "invalid IPv4 address"
  | invalidIpv6 => "invalid IPv6 address"
  | invalidDomain => "invalid international domain name"
  | invalidHostCharacter => "invalid domain character"
  | relativeToOpaque => "relative URL with a cannot-be-a-base base"

/-- What a scheme is to the reader. -/
inductive SchemeKind
  | file | special | other
  deriving Repr, DecidableEq

/-- The kind of a scheme. -/
def schemeKind (scheme : String) : SchemeKind :=
  if scheme = "file" then .file
  else if ["http", "https", "ws", "wss", "ftp"].contains scheme then .special
  else .other

/-- The port that need not be written. -/
def defaultPort? (scheme : String) : Option Nat :=
  if scheme = "http" ∨ scheme = "ws" then some 80
  else if scheme = "https" ∨ scheme = "wss" then some 443
  else if scheme = "ftp" then some 21
  else none

/-- A host. -/
inductive Host
  /-- A name, or for a scheme that is not special any text. -/
  | name (s : String)
  | ipv4 (address : Nat)
  | ipv6 (pieces : List Nat)
  deriving Repr, DecidableEq

/-- The path of a URL. -/
inductive Path
  /-- The segments, each after a slash. -/
  | segments (segments : List String)
  /-- A text of no further structure, as in `mailto:` URLs. -/
  | opaquely (text : String)
  deriving Repr, DecidableEq

end Url

/-- A URL. -/
structure Url where
  scheme : String
  username : String := ""
  password : String := ""
  host : Option Url.Host := none
  /-- The port, if it is not the scheme's default. -/
  port : Option Nat := none
  path : Url.Path
  query : Option String := none
  fragment : Option String := none
  deriving Repr, DecidableEq

namespace Url

/-! ## Writing -/

/-- The four bytes of an address, separated by points. -/
def ipv4Text (address : Nat) : String :=
  ".".intercalate ([16777216, 65536, 256, 1].map fun unit => toString (address / unit % 256))

/-- The length of the run of zeros at the front. -/
def zeroRun (pieces : List Nat) : Nat := (pieces.takeWhile (· == 0)).length

/-- Where the longest run of zeros begins and how long it is, the first of several. -/
def longestZeros : List Nat → Nat × Nat
  | [] => (0, 0)
  | p :: rest =>
    let here := zeroRun (p :: rest)
    let (start, length) := longestZeros rest
    if length ≤ here then (0, here) else (start + 1, length)

/-- Pieces in hexadecimal, separated by colons. -/
def piecesText (pieces : List Nat) : String :=
  ":".intercalate (pieces.map fun p => String.ofList (Nat.toDigits 16 p))

/-- An address of eight pieces, with its longest run of at least two zeros left out. -/
def ipv6Text (pieces : List Nat) : String :=
  let (start, length) := longestZeros pieces
  if length < 2 then piecesText pieces
  else piecesText (pieces.take start) ++ "::" ++ piecesText (pieces.drop (start + length))

/-- A host as written. -/
def Host.text : Host → String
  | name s => s
  | ipv4 a => ipv4Text a
  | ipv6 ps => "[" ++ ipv6Text ps ++ "]"

/-- A path as written. -/
def Path.text : Path → String
  | segments ss => String.join (ss.map ("/" ++ ·))
  | opaquely s => s

/-- The user name and the password with an at sign, if there are any. -/
def credentials (u : Url) : String :=
  if u.username = "" ∧ u.password = "" then ""
  else u.username ++ (if u.password = "" then "" else ":" ++ u.password) ++ "@"

/-- Host and port as written. -/
def authority (u : Url) : String :=
  (u.host.map Host.text).getD "" ++ (u.port.map fun p => ":" ++ toString p).getD ""

/-- The path and the query, as they are sent to a server. -/
def target (u : Url) : String :=
  u.path.text ++ (u.query.map fun q => "?" ++ q).getD ""

/-- A URL as text. -/
def text (u : Url) : String :=
  let front := match u.host with
    | some _ => "//" ++ u.credentials ++ u.authority
    | none =>
      match u.path with
      | .segments ("" :: _ :: _) => "/."
      | _ => ""
  u.scheme ++ ":" ++ front ++ u.target ++ (u.fragment.map fun f => "#" ++ f).getD ""

/-- Scheme, host and port: where a URL leads to. -/
def origin (u : Url) : String × Option Host × Option Nat := (u.scheme, u.host, u.port)

/-- The port a connection is made to. -/
def portOrDefault (u : Url) : Option Nat := u.port.or (defaultPort? u.scheme)

end Url

end Lookout
