import Lookout.Json.Reader

set_option autoImplicit false

/-! # Reading JSON records

Whoever reads a record knows the names of its fields. The value of any other field is
passed over: it has to be written as a JSON value, but nothing is made of it, so a number
may be out of range, an escape may stand for half a character, and the nesting may be of
any depth. What is read of a known field follows the rules of any value.
-/

namespace Lookout.Json

/-- The text after the end of a string, given the text after its opening quote. -/
def skipString? : List Char → Option (List Char)
  | [] => none
  | '"' :: rest => some rest
  | '\\' :: 'u' :: a :: b :: c :: d :: rest =>
    if [a, b, c, d].all fun x => (hexDigit? x).isSome then skipString? rest else none
  | '\\' :: c :: rest => if (shortEscape? c).isSome then skipString? rest else none
  | c :: rest => if c.toNat < 32 ∨ c = '\\' then none else skipString? rest

/-- Passes over a string with its opening quote. -/
def skippedString? : List Char → Option (Unit × List Char)
  | '"' :: rest => (skipString? rest).map ((), ·)
  | _ => none

/-- Passes over a value that is neither an array nor an object. -/
def skippedScalar? : List Char → Option (Unit × List Char)
  | '"' :: rest => skippedString? ('"' :: rest)
  | '-' :: rest => (literal? rest).map fun (_, rest) => ((), rest)
  | 'n' :: 'u' :: 'l' :: 'l' :: rest => some ((), rest)
  | 't' :: 'r' :: 'u' :: 'e' :: rest => some ((), rest)
  | 'f' :: 'a' :: 'l' :: 's' :: 'e' :: rest => some ((), rest)
  | cs => (literal? cs).map fun (_, rest) => ((), rest)

/-- Passes over a value, in which arrays and objects nest at most `depth` deep. -/
def skipped? : Nat → List Char → Option (Unit × List Char)
  | 0, cs => skippedScalar? (skipGap cs)
  | depth + 1, cs =>
    match skipGap cs with
    | '[' :: rest => (items? ']' (skipped? depth) rest).map fun (_, rest) => ((), rest)
    | '\x7b' :: rest =>
      (items? '\x7d' (member? skippedString? fun _ => skipped? depth) rest).map
        fun (_, rest) => ((), rest)
    | cs => skippedScalar? cs

/-- The value of a field, or nothing if its name is none of `names`. No value nests deeper
than its text is long. -/
def fieldValue? (names : List String) (name : String) (cs : List Char) :
    Option (Option Json × List Char) :=
  if names.contains name then
    (value? (maxDepth - 1) cs).map fun (v, rest) => (some v, rest)
  else
    (skipped? cs.length cs).map fun (_, rest) => (none, rest)

/-- The fields of a record whose names are among `names`, repeated ones included, given the
text after its opening brace. -/
def knownFields? (names : List String) (cs : List Char) :
    Option (List (String × Json) × List Char) :=
  (items? '\x7d' (member? string? (fieldValue? names)) cs).map fun (fields, rest) =>
    (fields.filterMap fun f => f.2.map (f.1, ·), rest)

/-- The record of a text: an object with the fields whose names are among `names`. A text
that is no object is read like any value. -/
def readRecord? (names : List String) (s : String) : Option Json :=
  match skipGap s.toList with
  | '\x7b' :: rest => alone? ((knownFields? names rest).map fun (fs, rest) => (.obj fs, rest))
  | cs => alone? (value? maxDepth cs)

/-- A field that nobody asks for may hold a number out of range and half a character. -/
example :
    (readRecord? ["a"] "\x7b\"b\": [1e999, \"\\ud800\"]\x7d").isSome
      ∧ (readRecord? ["b"] "\x7b\"b\": [1e999, \"\\ud800\"]\x7d").isNone := by
  decide +kernel

end Lookout.Json
