import Lookout.Url.Basic
import Lookout.Url.Domain

set_option autoImplicit false

/-! # Hosts

How the host of a URL is read. In brackets stands an IPv6 address. The host of a special
scheme is a domain name, and an IPv4 address if its last label is a number; numbers may be
decimal, octal or hexadecimal, and the last one fills all bytes that are left.
-/

namespace Lookout.Url

open Json (hexDigit?)

/-! ## IPv4 -/

/-- A number of an IPv4 address: `none` if it is none, `some none` if it is too large. -/
def ipv4Number? (cs : List Char) : Option (Option Nat) :=
  let read (base : Nat) (ds : List Char) : Option (Option Nat) :=
    if ds.all fun c => ((hexDigit? c).map (decide <| · < base)).getD false then
      let n := ds.foldl (fun n c => n * base + (hexDigit? c).getD 0) 0
      some (if n < Nat.pow 2 32 then some n else none)
    else none
  match cs with
  | [] => none
  | '0' :: 'x' :: ds => read 16 ds
  | '0' :: 'X' :: ds => read 16 ds
  | '0' :: d :: ds => read 8 (d :: ds)
  | ds => read 10 ds

/-- The labels without an empty one at the end. -/
def withoutRoot (labels : List (List Char)) : List (List Char) :=
  if labels.getLast? = some [] then labels.dropLast else labels

/-- Whether the last label of a name is a number. -/
def endsInNumber (labels : List (List Char)) : Bool :=
  match (if labels.length ≤ 1 then labels else withoutRoot labels).getLast? with
  | none => false
  | some last => (!last.isEmpty && last.all Char.isDigit) || (ipv4Number? last).isSome

/-- The address of up to four numbers. -/
def ipv4? (labels : List (List Char)) : Option Nat := do
  let parts := withoutRoot labels
  if 4 < parts.length then none
  else
    let numbers ← parts.mapM fun p => (ipv4Number? p).bind id
    let last ← numbers.getLast?
    let front := numbers.dropLast
    if front.any (255 < ·) ∨ Nat.pow 256 (4 - front.length) ≤ last then none
    else some ((front.zipIdx.map fun (n, i) => n * Nat.pow 256 (3 - i)).foldr (· + ·) last)

/-! ## IPv6 -/

/-- Up to four hexadecimal digits: how many, their value, and what follows. -/
def piece : Nat → List Char → Nat × Nat × List Char
  | 0, cs => (0, 0, cs)
  | fuel + 1, c :: rest =>
    match hexDigit? c with
    | none => (0, 0, c :: rest)
    | some d =>
      let (count, n, rest) := piece fuel rest
      (count + 1, d * Nat.pow 16 count + n, rest)
  | _ + 1, [] => (0, 0, [])

/-- A byte in decimal, without leading zeros. -/
def byte? (cs : List Char) : Option (Nat × List Char) :=
  let ds := cs.takeWhile Char.isDigit
  let n := Json.natOfDigits ds
  if ds.isEmpty ∨ (1 < ds.length ∧ ds.head? = some '0') ∨ 255 < n then none
  else some (n, cs.drop ds.length)

/-- Four bytes in decimal with points between them and nothing after them, as two pieces. -/
def embedded? (cs : List Char) : Option (List Nat) := do
  let (a, rest) ← byte? cs
  let (b, rest) ← match rest with
    | '.' :: r => byte? r
    | _ => none
  let (c, rest) ← match rest with
    | '.' :: r => byte? r
    | _ => none
  let (d, rest) ← match rest with
    | '.' :: r => byte? r
    | _ => none
  if rest.isEmpty then some [a * 256 + b, c * 256 + d] else none

/-- The pieces of an address, given those before, in reverse, and the place of the gap;
`fuel` bounds their number. -/
def pieces? : Nat → List Nat → Option Nat → List Char → Option (List Nat × Option Nat)
  | 0, _, _, _ => none
  | _ + 1, acc, gap, [] => some (acc.reverse, gap)
  | fuel + 1, acc, gap, ':' :: rest =>
    if gap.isSome then none else pieces? fuel acc (some acc.length) rest
  | fuel + 1, acc, gap, c :: rest =>
    let (count, n, after) := piece 4 (c :: rest)
    match after with
    | '.' :: _ =>
      if count = 0 then none
      else (embedded? (c :: rest)).map fun ps => (acc.reverse ++ ps, gap)
    | ':' :: more =>
      if count = 0 ∨ more.isEmpty then none else pieces? fuel (n :: acc) gap more
    | [] => if count = 0 then none else some ((n :: acc).reverse, gap)
    | _ => none

/-- An IPv6 address. -/
def ipv6? (cs : List Char) : Option (List Nat) := do
  let start ← match cs with
    | ':' :: ':' :: _ => some (cs.drop 1)
    | ':' :: _ => none
    | _ => some cs
  let (ps, gap) ← pieces? (cs.length + 1) [] none start
  match gap with
  | some place =>
    if 8 ≤ ps.length then none
    else some (ps.take place ++ List.replicate (8 - ps.length) 0 ++ ps.drop place)
  | none => if ps.length = 8 then some ps else none

/-! ## Hosts -/

/-- Whether a character may not stand in the host of a scheme that is not special. -/
def isForbiddenHost (c : Char) : Bool :=
  c.toNat == 0 || "\t\n\r #/:<>?@[\\]^|".toList.contains c

/-- Whether a character is a control. -/
def isControl (c : Char) : Bool := c.toNat < 32 || c.toNat == 127

/-- An address in brackets, after the opening one. -/
def bracketed? (cs : List Char) : Except Error Host :=
  if cs.getLast? = some ']' then
    match ipv6? cs.dropLast with
    | some ps => .ok (.ipv6 ps)
    | none => .error .invalidIpv6
  else .error .invalidIpv6

/-- The host of a special scheme. -/
def Host.special? (cs : List Char) : Except Error Host :=
  match cs with
  | '[' :: rest => bracketed? rest
  | _ =>
    match (Text.percentDecode? cs).bind Domain.ascii? with
    | none => .error .invalidDomain
    | some domain =>
      let labels := Domain.labels domain.toList
      if domain = "" then .error .emptyHost
      else if endsInNumber labels then
        match ipv4? labels with
        | some a => .ok (.ipv4 a)
        | none => .error .invalidIpv4
      else .ok (.name domain)

/-- The host of any other scheme. -/
def Host.other? (cs : List Char) : Except Error Host :=
  match cs with
  | '[' :: rest => bracketed? rest
  | _ =>
    if cs.any isForbiddenHost then .error .invalidHostCharacter
    else .ok (.name (Text.percentEncode isControl cs))

end Lookout.Url
