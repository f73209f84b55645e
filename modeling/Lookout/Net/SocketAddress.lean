import Lookout.Json.Reader

set_option autoImplicit false

/-! # Socket addresses

An IP address with a port, as text: `1.2.3.4:80` or `[1:2::3]:80`. A byte of an IPv4
address has no leading zeros, a piece of an IPv6 address has at most four digits, and a
port may have leading zeros. An IPv6 address may end in an IPv4 address, and a number may
follow it that names its scope. Host names are no addresses.
-/

namespace Lookout.Net

open Json (natOfDigits hexDigit?)

/-- An address a server can be bound to. -/
inductive SocketAddress
  | v4 (bytes : List Nat) (port : Nat)
  | v6 (pieces : List Nat) (scope port : Nat)
  deriving Repr, DecidableEq

namespace SocketAddress

/-- A decimal number of any length that is at most `limit`. -/
def number? (limit : Nat) (cs : List Char) : Option (Nat × List Char) :=
  let ds := cs.takeWhile Char.isDigit
  let n := natOfDigits ds
  if ds.isEmpty ∨ limit < n then none else some (n, cs.drop ds.length)

/-- A byte of an IPv4 address: up to three digits, read greedily. -/
def byte? (cs : List Char) : Option (Nat × List Char) :=
  let ds := cs.takeWhile Char.isDigit
  let n := natOfDigits ds
  if ds.isEmpty ∨ 3 < ds.length ∨ (1 < ds.length ∧ ds.head? = some '0') ∨ 255 < n then none
  else some (n, cs.drop ds.length)

/-- What follows a wanted character. -/
def expect? (c : Char) : List Char → Option (List Char)
  | x :: rest => if x = c then some rest else none
  | [] => none

/-- The four bytes of an IPv4 address. -/
def ipv4? (cs : List Char) : Option (List Nat × List Char) := do
  let (a, cs) ← byte? cs
  let (b, cs) ← byte? (← expect? '.' cs)
  let (c, cs) ← byte? (← expect? '.' cs)
  let (d, cs) ← byte? (← expect? '.' cs)
  some ([a, b, c, d], cs)

/-- A piece of an IPv6 address: one to four hexadecimal digits, read greedily. -/
def piece? (cs : List Char) : Option (Nat × List Char) :=
  let ds := cs.takeWhile fun c => (hexDigit? c).isSome
  if ds.isEmpty ∨ 4 < ds.length then none
  else some (ds.foldl (fun n c => n * 16 + (hexDigit? c).getD 0) 0, cs.drop ds.length)

/-- As many pieces as there are, at most `limit`, with a colon before each but the first;
an IPv4 address counts for two and ends them, which is told too. -/
def pieces (first : Bool) : Nat → List Char → List Nat × Bool × List Char
  | 0, cs => ([], false, cs)
  | limit + 1, cs =>
    match if first then some cs else expect? ':' cs with
    | none => ([], false, cs)
    | some after =>
      match if 0 < limit then ipv4? after else none with
      | some ([a, b, c, d], rest) => ([a * 256 + b, c * 256 + d], true, rest)
      | _ =>
        match piece? after with
        | none => ([], false, cs)
        | some (p, rest) =>
          let (ps, ended, rest) := pieces false limit rest
          (p :: ps, ended, rest)

/-- The eight pieces of an IPv6 address. -/
def ipv6? (cs : List Char) : Option (List Nat × List Char) :=
  let (head, ended, rest) := pieces true 8 cs
  if head.length = 8 then some (head, rest)
  else if ended then none
  else
    match rest with
    | ':' :: ':' :: rest =>
      let (tail, _, rest) := pieces true (7 - head.length) rest
      some (head ++ List.replicate (8 - head.length - tail.length) 0 ++ tail, rest)
    | _ => none

/-- A colon and a port, with nothing after it. -/
def port? (cs : List Char) : Option Nat := do
  let (port, rest) ← number? 65535 (← expect? ':' cs)
  if rest.isEmpty then some port else none

/-- The scope of an IPv6 address, zero if there is none. -/
def scope? : List Char → Option (Nat × List Char)
  | '%' :: rest => number? 4294967295 rest
  | cs => some (0, cs)

/-- The address a text gives. -/
def parse? (s : String) : Option SocketAddress :=
  match s.toList with
  | '[' :: rest => do
    let (pieces, rest) ← ipv6? rest
    let (scope, rest) ← scope? rest
    let port ← port? (← expect? ']' rest)
    some (.v6 pieces scope port)
  | cs => do
    let (bytes, rest) ← ipv4? cs
    some (.v4 bytes (← port? rest))

end SocketAddress

end Lookout.Net
