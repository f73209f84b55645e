import Lookout.Net.Message

set_option autoImplicit false

/-! # Requests to the admin interface

What the interface takes notice of in a request, and whom it admits. With a key
configured, a request has to show it in its `Authorization` header, after the word
`Bearer` and one blank, to the letter.
-/

namespace Lookout.Admin

/-- What a request asks for. -/
inductive Method
  | get | head | post | other
  deriving Repr, DecidableEq

/-- The method of a name. Names are told apart by case. -/
def Method.ofName (s : String) : Method :=
  if s = "GET" then .get else if s = "HEAD" then .head else if s = "POST" then .post else .other

/-- A request. -/
structure Request where
  method : Method
  path : String
  /-- The `Authorization` header, as it was sent. -/
  authorization : Option String := none
  deriving Repr, DecidableEq

/-- The request of a method, a target and a header, or `none` if one of them cannot be
sent. -/
def Request.make? (method target : String) (authorization : Option String) : Option Request :=
  match Net.Target.path? target with
  | none => none
  | some path =>
    if Net.isMethodName method && authorization.all Net.isHeaderValue then
      some { method := Method.ofName method, path := path, authorization := authorization }
    else none

/-- Whether a header shows a key. -/
def shows (authorization : Option String) (key : String) : Bool :=
  match authorization with
  | none => false
  | some value => Net.isPlainHeader value && value = "Bearer " ++ key

/-- Whether a request with this header is admitted. Without a key everybody is. -/
def admits (key authorization : Option String) : Bool := key.all (shows authorization)

@[simp] theorem admits_none (authorization : Option String) : admits none authorization = true :=
  rfl

/-- A key is shown by one header only. -/
theorem admits_some_iff {key : String} {authorization : Option String} :
    admits (some key) authorization = true ↔
      authorization = some ("Bearer " ++ key) ∧ Net.isPlainHeader ("Bearer " ++ key) = true := by
  cases authorization with
  | none => simp [admits, shows]
  | some value =>
    constructor
    · intro h
      simp only [admits, shows, Option.all_some, Bool.and_eq_true, decide_eq_true_eq] at h
      exact ⟨congrArg some h.2, h.2 ▸ h.1⟩
    · rintro ⟨h, plain⟩
      cases h
      simp [admits, shows, plain]

end Lookout.Admin
