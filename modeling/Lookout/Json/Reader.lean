import Lookout.Json.Basic

set_option autoImplicit false

/-! # Reading JSON

A reader for JSON text. Nothing may follow the value but blanks, strings hold no raw
control characters and no lone surrogates, and arrays and objects nest at most
`maxDepth` deep. Fields are kept as they are written, repeated names included.
-/

namespace Lookout.Json

/-- How deep arrays and objects may nest. -/
def maxDepth : Nat := 127

/-- Whether a character may stand between tokens. -/
def isGap (c : Char) : Bool := c = ' ' || c = '\n' || c = '\r' || c = '\t'

/-- The text after its leading blanks. -/
def skipGap (cs : List Char) : List Char := cs.dropWhile isGap

/-- The value of a hexadecimal digit. -/
def hexDigit? (c : Char) : Option Nat :=
  if '0' ≤ c ∧ c ≤ '9' then some (c.toNat - '0'.toNat)
  else if 'a' ≤ c ∧ c ≤ 'f' then some (c.toNat - 'a'.toNat + 10)
  else if 'A' ≤ c ∧ c ≤ 'F' then some (c.toNat - 'A'.toNat + 10)
  else none

/-- Four hexadecimal digits and what follows. -/
def unit? : List Char → Option (Nat × List Char)
  | a :: b :: c :: d :: rest => do
    let a ← hexDigit? a
    let b ← hexDigit? b
    let c ← hexDigit? c
    let d ← hexDigit? d
    some (((a * 16 + b) * 16 + c) * 16 + d, rest)
  | _ => none

/-- The character of an escape after its `u`, a surrogate pair being one character. -/
def unicodeEscape? (cs : List Char) : Option (Char × List Char) := do
  let (u, rest) ← unit? cs
  if 0xd800 ≤ u ∧ u ≤ 0xdbff then
    match rest with
    | '\\' :: 'u' :: more =>
      let (v, rest) ← unit? more
      if 0xdc00 ≤ v ∧ v ≤ 0xdfff then
        some (Char.ofNat (0x10000 + (u - 0xd800) * 0x400 + (v - 0xdc00)), rest)
      else none
    | _ => none
  else if 0xdc00 ≤ u ∧ u ≤ 0xdfff then none
  else some (Char.ofNat u, rest)

/-- The character of a one-letter escape. -/
def shortEscape? : Char → Option Char
  | '"' => some '"'
  | '\\' => some '\\'
  | '/' => some '/'
  | 'b' => some (Char.ofNat 8)
  | 'f' => some (Char.ofNat 12)
  | 'n' => some '\n'
  | 'r' => some '\r'
  | 't' => some '\t'
  | _ => none

/-- The rest of a string after its opening quote, read into a reversed list; `fuel` bounds
the number of characters. -/
def stringTail? : Nat → List Char → List Char → Option (String × List Char)
  | 0, _, _ => none
  | _ + 1, _, [] => none
  | _ + 1, acc, '"' :: rest => some (String.ofList acc.reverse, rest)
  | fuel + 1, acc, '\\' :: 'u' :: rest => do
    let (c, rest) ← unicodeEscape? rest
    stringTail? fuel (c :: acc) rest
  | fuel + 1, acc, '\\' :: c :: rest => do
    let c ← shortEscape? c
    stringTail? fuel (c :: acc) rest
  | fuel + 1, acc, c :: rest =>
    if c.toNat < 32 ∨ c = '\\' then none else stringTail? fuel (c :: acc) rest

/-- A string with its opening quote. -/
def string? : List Char → Option (String × List Char)
  | '"' :: rest => stringTail? (rest.length + 1) [] rest
  | _ => none

/-- The longest run of digits at the front. -/
def digitRun (cs : List Char) : List Char × List Char :=
  (cs.takeWhile Char.isDigit, cs.dropWhile Char.isDigit)

/-- The number a run of digits stands for. -/
def natOfDigits (ds : List Char) : Nat :=
  ds.foldl (fun n c => n * 10 + (c.toNat - '0'.toNat)) 0

/-- The fraction of a number literal, if it has one; a point needs digits. -/
def fraction? : List Char → Option (Option (List Char) × List Char)
  | '.' :: rest =>
    let (ds, rest) := digitRun rest
    if ds.isEmpty then none else some (some ds, rest)
  | cs => some (none, cs)

/-- The digits of an exponent with its sign. -/
def signedExponent? (negative : Bool) (cs : List Char) : Option (Option Int × List Char) :=
  let (ds, rest) := digitRun cs
  if ds.isEmpty then none
  else
    let n : Int := natOfDigits ds
    some (some (if negative then -n else n), rest)

/-- The exponent of a number literal, if it has one. -/
def exponent? : List Char → Option (Option Int × List Char)
  | 'e' :: '+' :: rest => signedExponent? false rest
  | 'E' :: '+' :: rest => signedExponent? false rest
  | 'e' :: '-' :: rest => signedExponent? true rest
  | 'E' :: '-' :: rest => signedExponent? true rest
  | 'e' :: rest => signedExponent? false rest
  | 'E' :: rest => signedExponent? false rest
  | cs => some (none, cs)

/-- The parts of a number literal after its sign. -/
structure Literal where
  /-- The digits of the whole part, without a leading zero unless it is the only digit. -/
  whole : List Char
  fraction : Option (List Char)
  exponent : Option Int

/-- A number literal after its sign, in parts. -/
def literal? (cs : List Char) : Option (Literal × List Char) := do
  let (whole, rest) := digitRun cs
  if whole.isEmpty ∨ (whole.head? = some '0' ∧ 1 < whole.length) then none
  else
    let (fraction, rest) ← fraction? rest
    let (exponent, rest) ← exponent? rest
    some (⟨whole, fraction, exponent⟩, rest)

/-- A number after its sign. -/
def unsigned? (negative : Bool) (cs : List Char) : Option (Json × List Char) := do
  let (l, rest) ← literal? cs
  let n ← Number.ofLiteral? negative l.whole l.fraction l.exponent
  some (.num n, rest)

/-- A value that is neither an array nor an object. -/
def scalar? : List Char → Option (Json × List Char)
  | 'n' :: 'u' :: 'l' :: 'l' :: rest => some (.null, rest)
  | 't' :: 'r' :: 'u' :: 'e' :: rest => some (.bool true, rest)
  | 'f' :: 'a' :: 'l' :: 's' :: 'e' :: rest => some (.bool false, rest)
  | '"' :: rest => (string? ('"' :: rest)).map fun (s, rest) => (.str s, rest)
  | '-' :: rest => unsigned? true rest
  | cs => unsigned? false cs

/-- The items after the first of a sequence closed by `close`, each read by `item`; `fuel`
bounds their number. -/
def moreItems? {α : Type} (close : Char) (item : List Char → Option (α × List Char)) :
    Nat → List Char → Option (List α × List Char)
  | 0, _ => none
  | fuel + 1, cs =>
    match skipGap cs with
    | [] => none
    | c :: rest =>
      if c = close then some ([], rest)
      else if c = ',' then do
        let (x, rest) ← item rest
        let (xs, rest) ← moreItems? close item fuel rest
        some (x :: xs, rest)
      else none

/-- A sequence after its opening bracket. -/
def items? {α : Type} (close : Char) (item : List Char → Option (α × List Char))
    (cs : List Char) : Option (List α × List Char) :=
  match skipGap cs with
  | [] => none
  | c :: rest =>
    if c = close then some ([], rest)
    else do
      let (x, rest) ← item (c :: rest)
      let (xs, rest) ← moreItems? close item (rest.length + 1) rest
      some (x :: xs, rest)

/-- A member of an object: a name, a colon and a value, which may be read in a way that depends on the
name. -/
def member? {α β : Type} (name : List Char → Option (α × List Char))
    (value : α → List Char → Option (β × List Char)) (cs : List Char) :
    Option ((α × β) × List Char) := do
  let (n, rest) ← name (skipGap cs)
  match skipGap rest with
  | ':' :: rest =>
    let (v, rest) ← value n rest
    some ((n, v), rest)
  | _ => none

/-- A value, in which arrays and objects nest at most `depth` deep. -/
def value? : Nat → List Char → Option (Json × List Char)
  | 0, cs => scalar? (skipGap cs)
  | depth + 1, cs =>
    match skipGap cs with
    | '[' :: rest => (items? ']' (value? depth) rest).map fun (xs, rest) => (.arr xs, rest)
    | '\x7b' :: rest =>
      (items? '\x7d' (member? string? fun _ => value? depth) rest).map fun (fs, rest) =>
        (.obj fs, rest)
    | cs => scalar? cs

/-- What was read, if only blanks follow it. -/
def alone? {α : Type} : Option (α × List Char) → Option α
  | some (x, rest) => if (skipGap rest).isEmpty then some x else none
  | none => none

/-- The value of a text. -/
def read? (s : String) : Option Json := alone? (value? maxDepth s.toList)

end Lookout.Json
