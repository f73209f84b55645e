import Lookout.Net.SocketAddress

set_option autoImplicit false

/-! # Listening

Whether a server can be bound to an address. An address is in use when a server listens at
its port at an address of the same host, or at the address that stands for all hosts; port
zero is always free, because it stands for any port that is. An address of another machine
is not available.
-/

namespace Lookout.Net

namespace SocketAddress

/-- The port of an address. -/
def port : SocketAddress → Nat
  | v4 _ port => port
  | v6 _ _ port => port

/-- Whether a server at the first address also listens at the host of the second. -/
def covers : SocketAddress → SocketAddress → Bool
  | v4 a _, v4 b _ => a = b || a.all (· = 0)
  | v4 _ _, v6 _ _ _ => false
  | v6 a _ _, v4 _ _ => a.all (· = 0)
  | v6 a _ _, v6 b _ _ => a = b || a.all (· = 0)

/-- Whether two servers cannot listen at both of two addresses. -/
def clashes (a b : SocketAddress) : Bool :=
  a.port = b.port && a.port ≠ 0 && (a.covers b || b.covers a)

/-- Whether an address belongs to the machine itself on every machine: it is a loopback
address or stands for all hosts. -/
def isOwn : SocketAddress → Bool
  | v4 a _ => a.head? = some 127 || a.all (· = 0)
  | v6 a _ _ => a = [0, 0, 0, 0, 0, 0, 0, 1] || a.all (· = 0)

end SocketAddress

/-- Why a server cannot be bound to an address. -/
inductive BindError
  | inUse | notAvailable
  deriving Repr, DecidableEq

namespace BindError

/-- The number of an error. -/
def code : BindError → Nat
  | inUse => 98
  | notAvailable => 99

/-- The kind of an error. -/
def kind : BindError → String
  | inUse => "AddrInUse"
  | notAvailable => "AddrNotAvailable"

/-- What an error says. -/
def message : BindError → String
  | inUse => "Address already in use"
  | notAvailable => "Cannot assign requested address"

/-- The wording of an error. -/
def text (e : BindError) : String := e.message ++ " (os error " ++ toString e.code ++ ")"

/-- The text that describes an error. -/
def describe (e : BindError) : String :=
  "Os \x7b code: " ++ toString e.code ++ ", kind: " ++ e.kind
    ++ ", message: \"" ++ e.message ++ "\" \x7d"

end BindError

/-- Whether a server can be bound to an address while others listen at those in `taken`. -/
def bind? (taken : List SocketAddress) (a : SocketAddress) : Option BindError :=
  if taken.any a.clashes then some .inUse
  else if a.isOwn then none
  else some .notAvailable

end Lookout.Net
