import Lookout.Url.Path

set_option autoImplicit false

/-! # Reading URLs

A text is read as a URL on its own or relative to a base. Blanks and controls around it
do not count. With a base, a text without a scheme takes from the base what it does not
give itself: the scheme if it begins with two slashes, the host too if it begins with one,
and the path up to its last slash otherwise.
-/

namespace Lookout.Url

open Text (percentEncode)

/-! ## Path, query and fragment -/

/-- A URL with the query and the fragment at the front of a text. -/
def withTail (u : Url) (cs : List Char) : Url :=
  let kind := schemeKind u.scheme
  match cs with
  | '?' :: rest =>
    let query := rest.takeWhile (· != '#')
    let u := { u with query := some (percentEncode (inQuery kind) query) }
    match rest.drop query.length with
    | '#' :: rest => { u with fragment := some (percentEncode inFragment rest) }
    | _ => { u with fragment := none }
  | '#' :: rest => { u with query := none, fragment := some (percentEncode inFragment rest) }
  | _ => { u with query := none, fragment := none }

/-- A URL with path, query and fragment; the path goes on where a walk has led. -/
def withPath (u : Url) (w : Walk) (cs : List Char) : Url :=
  let kind := schemeKind u.scheme
  ({ u with path := (w.along kind cs).path kind }).withTail
    (solid (cs.dropWhile fun c => !endsPath c))

/-- A URL with path, query and fragment right after the host. -/
def startPath (u : Url) (cs : List Char) : Url :=
  let kind := schemeKind u.scheme
  match cs with
  | [] => if kind = .other then { u with path := .segments [] } else u.withPath {} []
  | c :: rest =>
    if isSlash kind c then u.withPath {} rest
    else if kind = .other ∧ endsPath c then
      ({ u with path := .segments [] }).withTail (c :: rest)
    else u.withPath {} (c :: rest)

/-! ## Authority -/

/-- The user name and the password of the text before the last at sign of an authority. -/
def readUserinfo (cs : List Char) : String × String :=
  let name := cs.takeWhile (· != ':')
  (percentEncode inUserinfo name, percentEncode inUserinfo (cs.drop (name.length + 1)))

/-- The text before a host ends, at a colon outside brackets; with the rest. -/
def hostText : Bool → List Char → List Char × List Char
  | _, [] => ([], [])
  | inBrackets, c :: rest =>
    if c = ':' ∧ ¬ inBrackets then ([], c :: rest)
    else
      let inBrackets := if c = '[' then true else if c = ']' then false else inBrackets
      let (host, rest) := hostText inBrackets rest
      (c :: host, rest)

/-- A port, if it is not the default one; digits only. -/
def readPort (scheme : String) (cs : List Char) : Except Error (Option Nat) :=
  if ¬ cs.all Char.isDigit then .error .invalidPort
  else
    let n := Json.natOfDigits cs
    if 65535 < n then .error .invalidPort
    else if cs.isEmpty ∨ some n = defaultPort? scheme then .ok none
    else .ok (some n)

/-- Host and port of an authority without its user. A port ends at a backslash; what
follows from there on belongs to the path. -/
def readHost (scheme : String) (cs : List Char) :
    Except Error (Host × Option Nat × List Char) := do
  let kind := schemeKind scheme
  let (name, rest) := hostText false cs
  if kind = .special ∧ name.isEmpty then .error .emptyHost
  else
    let host ← if kind = .other then Host.other? name else Host.special? name
    match rest with
    | _ :: rest =>
      if host = .name "" then .error .emptyHost
      else
        let port := rest.takeWhile (· != '\\')
        return (host, ← readPort scheme port, rest.drop port.length)
    | [] => return (host, none, [])

/-- A URL from what follows its scheme and two slashes. -/
def afterSlashes (scheme : String) (cs : List Char) : Except Error Url := do
  let kind := schemeKind scheme
  let front := cs.takeWhile fun c => !(isSlash kind c || endsPath c)
  let rest := cs.drop front.length
  let back := front.reverse.takeWhile (· != '@')
  let hasUser := back.length < front.length
  let user := front.take (front.length - back.length - 1)
  if hasUser ∧ user.isEmpty ∧ back.isEmpty ∧ ¬ rest.isEmpty then .error .emptyHost
  else
    let (username, password) := if hasUser then readUserinfo user else ("", "")
    let (host, port, surplus) ← readHost scheme back.reverse
    if host = .name "" ∧ (username ≠ "" ∨ password ≠ "") then .error .emptyHost
    else
      let u : Url :=
        { scheme := scheme, username := username, password := password, host := some host,
          port := port, path := .segments [] }
      return u.startPath (surplus ++ rest)

/-! ## Files

The text of a file URL still has its gaps, because one after a drive letter counts. -/

/-- The first character that is no gap, and what follows it. -/
def next? (cs : List Char) : Option (Char × List Char) :=
  match cs.dropWhile isGap with
  | [] => none
  | c :: rest => some (c, rest)

/-- Whether a text begins with a segment that is a drive letter. -/
def beginsWithDrive (cs : List Char) : Bool :=
  (drive? ((solid cs).takeWhile fun c => !(isSlash .file c || endsPath c))).isSome

/-- A file URL without a host. -/
def localFile : Url where
  scheme := "file"
  host := some (.name "")
  path := .segments []

/-- A file URL from what follows two slashes. The host of this machine is not written,
and no host is where the path begins with a drive letter. -/
def fileAtHost (cs : List Char) : Except Error Url := do
  let front := cs.takeWhile fun c => !(isSlash .file c || endsPath c)
  let name := solid front
  if (drive? name).isSome then return localFile.withPath {} cs
  else
    let host ← if name.isEmpty then pure (.name "") else Host.special? name
    let rest := cs.drop front.length
    if host = .name "" ∨ host = .name "localhost" then return localFile.withPath {} rest
    else
      let path := (rest.takeWhile fun c => !endsPath c).drop 1
      let host := if (Walk.along .file {} path).drive then localFile.host else some host
      return ({ localFile with host := host }).startPath rest

/-- A file URL from what follows one slash: the host or the drive letter is that of the
base. -/
def fileAtRoot (base : Option Url) (cs : List Char) : Url :=
  if beginsWithDrive cs then localFile.withPath {} cs
  else
    match base with
    | none => localFile.withPath {} cs
    | some b =>
      match b.path with
      | .segments (first :: _) =>
        if isWrittenDrive first then localFile.withPath { done := [first] } cs
        else ({ localFile with host := b.host }).withPath {} cs
      | _ => ({ localFile with host := b.host }).withPath {} cs

/-- A file URL from a text that begins with no slash. -/
def fileBeside (base : Option Url) (cs : List Char) : Url :=
  match base with
  | none => localFile.withPath {} cs
  | some b =>
    match solid cs with
    | [] => { b with fragment := none }
    | '?' :: rest => b.withTail ('?' :: rest)
    | '#' :: rest => { b with fragment := some (percentEncode inFragment rest) }
    | _ =>
      if beginsWithDrive cs then localFile.withPath {} cs
      else
        match b.path with
        | .segments ss =>
          let done := if (ss.getLast?.map isWrittenDrive).getD false then ss else ss.dropLast
          b.withPath { done := done.reverse } cs
        | .opaquely _ => b.withPath {} cs

/-- A file URL from what follows its scheme, relative to a base of the same scheme. -/
def readFile (base : Option Url) (cs : List Char) : Except Error Url :=
  match next? cs with
  | none => .ok (fileBeside base [])
  | some (a, rest) =>
    if isSlash .file a then
      match next? rest with
      | none => .ok (fileAtRoot base rest)
      | some (b, more) => if isSlash .file b then fileAtHost more else .ok (fileAtRoot base rest)
    else .ok (fileBeside base cs)

/-! ## The whole -/

/-- A URL from what follows its scheme and colon, if the scheme is neither special nor
that of files. -/
def readOther (scheme : String) (cs : List Char) : Except Error Url :=
  match cs with
  | '/' :: '/' :: rest => afterSlashes scheme rest
  | '/' :: rest => .ok (({ scheme := scheme, path := .segments [] } : Url).withPath {} rest)
  | cs =>
    let text := cs.takeWhile fun c => !endsPath c
    .ok (({ scheme := scheme, path := .opaquely (percentEncode isControl text) } : Url).withTail
      (cs.drop text.length))

/-- A URL from a text without a scheme, relative to a base that is no file. -/
def readRelative (base : Url) (cs : List Char) : Except Error Url :=
  match cs with
  | [] => .ok { base with fragment := none }
  | '?' :: _ => .ok (base.withTail cs)
  | '#' :: rest => .ok { base with fragment := some (percentEncode inFragment rest) }
  | c :: rest =>
    if c = '/' ∨ c = '\\' then
      match rest with
      | d :: more =>
        if d = '/' ∨ d = '\\' then
          let after := if c = '/' ∧ d = '/' then more
            else more.dropWhile fun x => x == '/' || x == '\\'
          afterSlashes base.scheme after
        else .ok (base.withPath {} rest)
      | [] => .ok (base.withPath {} rest)
    else
      let done := match base.path with
        | .segments ss => ss.reverse.drop 1
        | .opaquely _ => []
      .ok (base.withPath { done := done } (c :: rest))

/-- The scheme at the front of a text, in small letters, and what follows its colon. -/
def scheme? (cs : List Char) : Option (String × List Char) :=
  let name := cs.takeWhile fun c => c.isAlphanum || "+-.".toList.contains c
  match cs.drop name.length with
  | ':' :: rest =>
    if (name.head?.map Char.isAlpha).getD false then some ((String.ofList name).toLower, rest)
    else none
  | _ => none

/-- A text without the blanks and controls around it. -/
def trimmed (s : String) : List Char :=
  let isAround (c : Char) : Bool := c.toNat ≤ 32
  ((s.toList.dropWhile isAround).reverse.dropWhile isAround).reverse

/-- Reads a URL, relative to a base if there is one. -/
def read (base : Option Url) (s : String) : Except Error Url :=
  let raw := trimmed s
  let cs := solid raw
  match scheme? cs with
  | some (scheme, rest) =>
    match schemeKind scheme with
    | .file =>
      readFile (base.filter fun b => b.scheme == "file") ((raw.dropWhile (· != ':')).drop 1)
    | .special =>
      let slashes := (rest.takeWhile fun c => c == '/' || c == '\\').length
      match base with
      | some b =>
        if slashes < 2 ∧ b.scheme = scheme then readRelative b rest
        else afterSlashes scheme (rest.drop slashes)
      | none => afterSlashes scheme (rest.drop slashes)
    | .other => readOther scheme rest
  | none =>
    match base with
    | none => .error .relativeWithoutBase
    | some b =>
      match cs, b.path with
      | '#' :: rest, _ => .ok { b with fragment := some (percentEncode inFragment rest) }
      | _, .opaquely _ => .error .relativeToOpaque
      | _, .segments _ => if b.scheme = "file" then readFile (some b) raw else readRelative b cs

/-- Reads a URL on its own. -/
def parse (s : String) : Except Error Url := read none s

/-- Reads a URL relative to a base. -/
def join (base : Url) (s : String) : Except Error Url := read (some base) s

end Lookout.Url
