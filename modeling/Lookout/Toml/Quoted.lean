import Lookout.Json.Reader

set_option autoImplicit false

/-! # TOML strings

Basic strings, with escapes, and literal strings, without; each on one line or, between
triple quotes, on several. A line end right after opening triple quotes is dropped, every
other line end counts as a line feed, and up to two quotes may stand before closing ones.
-/

namespace Lookout.Toml

/-- Whether a character may stand in a comment or, quotes and escapes apart, in a string. -/
def isContent (c : Char) : Bool := c = '\t' || (32 ≤ c.toNat && c.toNat != 127)

/-- Whether a character is a blank inside a line. -/
def isSpace (c : Char) : Bool := c = ' ' || c = '\t'

/-- What follows a line end at the front of a text. -/
def afterNewline? : List Char → Option (List Char)
  | '\n' :: rest => some rest
  | '\r' :: '\n' :: rest => some rest
  | _ => none

/-- The character of some hexadecimal digits. -/
def charOfHex? (digits : List Char) : Option Char := do
  let n ← digits.foldlM (fun n c => (Json.hexDigit? c).map (n * 16 + ·)) 0
  if h : n.isValidChar then some (Char.ofNatAux n h) else none

/-- The character of an escape after its backslash. -/
def escape? : List Char → Option (Char × List Char)
  | 'b' :: rest => some (Char.ofNat 8, rest)
  | 't' :: rest => some ('\t', rest)
  | 'n' :: rest => some ('\n', rest)
  | 'f' :: rest => some (Char.ofNat 12, rest)
  | 'r' :: rest => some ('\r', rest)
  | '"' :: rest => some ('"', rest)
  | '\\' :: rest => some ('\\', rest)
  | 'u' :: rest =>
    if rest.length < 4 then none else (charOfHex? (rest.take 4)).map fun c => (c, rest.drop 4)
  | 'U' :: rest =>
    if rest.length < 8 then none else (charOfHex? (rest.take 8)).map fun c => (c, rest.drop 8)
  | _ => none

/-- The blanks and line ends at the front of a text dropped. -/
def skipLines : Nat → List Char → List Char
  | 0, cs => cs
  | fuel + 1, cs =>
    match cs with
    | [] => []
    | c :: rest =>
      if isSpace c then skipLines fuel rest
      else match afterNewline? (c :: rest) with
        | some rest => skipLines fuel rest
        | none => c :: rest

/-- The rest of a one-line string closed by `quote`, read into a reversed list. -/
def lineTail? (quote : Char) : Nat → List Char → List Char → Option (String × List Char)
  | 0, _, _ => none
  | _ + 1, _, [] => none
  | fuel + 1, acc, c :: rest =>
    if c = quote then some (String.ofList acc.reverse, rest)
    else if c = '\\' ∧ quote = '"' then do
      let (e, rest) ← escape? rest
      lineTail? quote fuel (e :: acc) rest
    else if isContent c then lineTail? quote fuel (c :: acc) rest
    else none

/-- The rest of a string of several lines closed by three times `quote`, read into a
reversed list. -/
def blockTail? (quote : Char) : Nat → List Char → List Char → Option (String × List Char)
  | 0, _, _ => none
  | _ + 1, _, [] => none
  | fuel + 1, acc, c :: rest =>
    if c = quote then
      let run := ((c :: rest).takeWhile (· == quote)).length
      let after := (c :: rest).drop run
      if run < 3 then blockTail? quote fuel (List.replicate run quote ++ acc) after
      else if run ≤ 5 then
        some (String.ofList (List.replicate (run - 3) quote ++ acc).reverse, after)
      else none
    else if c = '\\' ∧ quote = '"' then
      match afterNewline? (rest.dropWhile isSpace) with
      | some more => blockTail? quote fuel acc (skipLines more.length more)
      | none => do
        let (e, rest) ← escape? rest
        blockTail? quote fuel (e :: acc) rest
    else match afterNewline? (c :: rest) with
      | some rest => blockTail? quote fuel ('\n' :: acc) rest
      | none => if isContent c then blockTail? quote fuel (c :: acc) rest else none

/-- A string on one line. -/
def lineString? : List Char → Option (String × List Char)
  | '"' :: rest => lineTail? '"' (rest.length + 1) [] rest
  | '\'' :: rest => lineTail? '\'' (rest.length + 1) [] rest
  | _ => none

/-- A string on several lines after its opening quotes. -/
def blockString? (quote : Char) (cs : List Char) : Option (String × List Char) :=
  let body := (afterNewline? cs).getD cs
  blockTail? quote (body.length + 1) [] body

/-- A string. -/
def string? : List Char → Option (String × List Char)
  | '"' :: '"' :: '"' :: rest => blockString? '"' rest
  | '\'' :: '\'' :: '\'' :: rest => blockString? '\'' rest
  | cs => lineString? cs

end Lookout.Toml
