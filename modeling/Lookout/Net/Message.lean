set_option autoImplicit false

/-! # The head of a message

What stands before the body of a request or of an answer: the method and the target, or the status
code, and the headers.
-/

namespace Lookout.Net

/-! ## Headers and methods

Which texts can stand in the head of a request. The value of a header holds no control
character but the tab. It is plain if it is ASCII besides; others are passed on, but
nobody reads them as text. The name of a method is made of letters, digits and a few
marks.
-/

/-- Whether a character may stand in the value of a header. -/
def isHeaderChar (c : Char) : Bool := c = '\t' || (32 ≤ c.toNat && c.toNat ≠ 127)

/-- Whether a text can be the value of a header. -/
def isHeaderValue (s : String) : Bool := s.toList.all isHeaderChar

/-- Whether a header's value can be read as text. -/
def isPlainHeader (s : String) : Bool := s.toList.all fun c => isHeaderChar c && c.toNat < 127

/-- Whether a text can be the name of a method. -/
def isMethodName (s : String) : Bool :=
  !s.isEmpty && s.toList.all fun c => c.isAlphanum || "!#$%&'*+-.^_|~\x60".toList.contains c

end Lookout.Net

/-! ## Request targets

The text in the head of a request that says what it is about: a path with or without a
query, a whole URI, an authority alone, or an asterisk. `path?` gives the path it holds.
What follows a number sign is left out. Anything but ASCII passes, controls do not.
-/

namespace Lookout.Net.Target

/-- The longest target, in bytes. -/
def maxLength : Nat := 65534

/-- Whether a character may stand in a path. -/
def isPathChar (c : Char) : Bool :=
  32 < c.toNat && c.toNat != 127 && !"<>\x60".toList.contains c

/-- Whether a character may stand in a query. -/
def isQueryChar (c : Char) : Bool :=
  32 < c.toNat && c.toNat != 127 && !"<>\"".toList.contains c

/-- The path of a text that may go on with a query; an empty one is a single slash. -/
def pathOf? (cs : List Char) : Option String :=
  let cs := cs.takeWhile (· ≠ '#')
  let path := cs.takeWhile (· ≠ '?')
  let query := (cs.drop path.length).drop 1
  if path.all isPathChar && query.all isQueryChar then
    some (if path.isEmpty then "/" else String.ofList path)
  else none

/-! ### Authorities -/

/-- What was met so far in an authority: colons of the part at hand, the brackets of an
address, and whether there is a percent sign in a host. -/
structure Marks where
  colons : Nat := 0
  opened : Bool := false
  closed : Bool := false
  percent : Bool := false

/-- How many colons there may be before a bracket or an at sign. -/
def maxColons : Nat := 8

/-- Whether a character may stand in an authority without further meaning. -/
def isAuthorityChar (c : Char) : Bool := c.isAlphanum || "!$&'()*+,-.;=_~".toList.contains c

/-- The marks after one more character, unless it may not stand there. -/
def Marks.next? (m : Marks) (c : Char) : Option Marks :=
  if c = ':' then if m.colons < maxColons then some { m with colons := m.colons + 1 } else none
  else if c = '[' then if m.percent || m.opened then none else some { m with opened := true }
  else if c = ']' then
    if m.opened && !m.closed then
      some { m with closed := true, colons := 0, percent := false }
    else none
  else if c = '@' then some { m with colons := 0, percent := false }
  else if c = '%' then some { m with percent := true }
  else if isAuthorityChar c then some m
  else none

/-- Whether a text is an authority. -/
def isAuthority (cs : List Char) : Bool :=
  match cs.foldlM Marks.next? {} with
  | none => false
  | some m => m.opened == m.closed && m.colons ≤ 1 && !m.percent && cs.getLast? ≠ some '@'

/-- The part of a text that can only be an authority. -/
def authorityPart (cs : List Char) : List Char := cs.takeWhile fun c => !"/?#".toList.contains c

/-! ### Targets -/

/-- Whether a character may stand in the name of a scheme. -/
def isSchemeChar (c : Char) : Bool := c.isAlphanum || "+-.~".toList.contains c

/-- The longest name of a scheme. -/
def maxScheme : Nat := 64

/-- What follows a scheme and its slashes, with the length of the scheme. -/
def afterScheme? (cs : List Char) : Option (Nat × List Char) :=
  let scheme := cs.takeWhile isSchemeChar
  match cs.drop scheme.length with
  | ':' :: '/' :: '/' :: rest => some (scheme.length, rest)
  | _ => none

/-- The path of a target, or `none` if the text is no target. -/
def path? (s : String) : Option String :=
  if maxLength < s.utf8ByteSize then none
  else
    match s.toList with
    | [] => none
    | ['*'] => some "*"
    | '/' :: rest => pathOf? ('/' :: rest)
    | cs =>
      match afterScheme? cs with
      | none => if authorityPart cs = cs && isAuthority cs then some "" else none
      | some (length, rest) =>
        let authority := authorityPart rest
        if length ≤ maxScheme && !authority.isEmpty && isAuthority authority then
          pathOf? (rest.drop authority.length)
        else none

example : path? "/admin/backoff?x=1#y" = some "/admin/backoff" := by decide +kernel

example : path? "/a b" = none := by decide +kernel

example : path? "http://h:80?q" = some "/" := by decide +kernel

example : path? "admin/backoff" = none := by decide +kernel

end Lookout.Net.Target

/-! ## Status codes

The codes an HTTP server answers with, their classes, and the reason that goes with each
registered code.
-/

namespace Lookout.Net.StatusCode

/-- The request was not let through. -/
def unauthorized : Nat := 401

/-- The server is overloaded. -/
def tooManyRequests : Nat := 429

/-- Whether a code tells of success. -/
def isSuccess (code : Nat) : Bool := 200 ≤ code && code < 300

/-- Whether a code only announces a later answer. A switch of protocols is an answer. -/
def isInterim (code : Nat) : Bool := 100 ≤ code && code < 200 && code ≠ 101

/-- Whether an answer with a code has a body. -/
def hasBody (code : Nat) : Bool := ¬ [101, 204, 304].contains code

/-- Every registered code with its reason. -/
def reasons : List (Nat × String) := [
  (100, "Continue"), (101, "Switching Protocols"), (102, "Processing"),
  (200, "OK"), (201, "Created"), (202, "Accepted"), (203, "Non Authoritative Information"),
  (204, "No Content"), (205, "Reset Content"), (206, "Partial Content"), (207, "Multi-Status"),
  (208, "Already Reported"), (226, "IM Used"),
  (300, "Multiple Choices"), (301, "Moved Permanently"), (302, "Found"), (303, "See Other"),
  (304, "Not Modified"), (305, "Use Proxy"), (307, "Temporary Redirect"),
  (308, "Permanent Redirect"),
  (400, "Bad Request"), (401, "Unauthorized"), (402, "Payment Required"), (403, "Forbidden"),
  (404, "Not Found"), (405, "Method Not Allowed"), (406, "Not Acceptable"),
  (407, "Proxy Authentication Required"), (408, "Request Timeout"), (409, "Conflict"),
  (410, "Gone"), (411, "Length Required"), (412, "Precondition Failed"),
  (413, "Payload Too Large"), (414, "URI Too Long"), (415, "Unsupported Media Type"),
  (416, "Range Not Satisfiable"), (417, "Expectation Failed"), (418, "I'm a teapot"),
  (421, "Misdirected Request"), (422, "Unprocessable Entity"), (423, "Locked"),
  (424, "Failed Dependency"), (425, "Too Early"), (426, "Upgrade Required"),
  (428, "Precondition Required"), (429, "Too Many Requests"),
  (431, "Request Header Fields Too Large"), (451, "Unavailable For Legal Reasons"),
  (500, "Internal Server Error"), (501, "Not Implemented"), (502, "Bad Gateway"),
  (503, "Service Unavailable"), (504, "Gateway Timeout"), (505, "HTTP Version Not Supported"),
  (506, "Variant Also Negotiates"), (507, "Insufficient Storage"), (508, "Loop Detected"),
  (510, "Not Extended"), (511, "Network Authentication Required")]

/-- The reason that goes with a code. -/
def reason? (code : Nat) : Option String := reasons.lookup code

end Lookout.Net.StatusCode
