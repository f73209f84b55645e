import Lookout.Toml.Item
import Lookout.Toml.Number
import Lookout.Toml.Quoted

set_option autoImplicit false

/-! # Reading TOML

A reader for TOML documents: lines that are blank, hold a header, or hold a key and a
value. Arrays and inline tables nest less than `maxDepth` deep, and a key has fewer than
`maxDepth` parts. The answer is the table at the root, or `none` if the text is not a
valid document.
-/

namespace Lookout.Toml

/-- The bound on nesting and on the parts of a key. -/
def maxDepth : Nat := 80

/-- The text after its leading blanks. -/
def skipSpace (cs : List Char) : List Char := cs.dropWhile isSpace

/-- The text after a comment at its front, if there is one. -/
def skipComment : List Char → List Char
  | '#' :: rest => rest.dropWhile isContent
  | cs => cs

/-- Whether a character may stand in a bare key. -/
def isBare (c : Char) : Bool := c.isAlphanum || c = '-' || c = '_'

/-- One part of a key. -/
def keyPart? (cs : List Char) : Option (String × List Char) :=
  match cs with
  | [] => none
  | c :: _ =>
    if c = '"' ∨ c = '\'' then lineString? cs
    else
      let bare := cs.takeWhile isBare
      if bare.isEmpty then none else some (String.ofList bare, cs.drop bare.length)

/-- The parts of a key, separated by points with blanks around them; `fuel` bounds their
number. -/
def keyParts? : Nat → List Char → Option (List String × List Char)
  | 0, _ => none
  | fuel + 1, cs => do
    let (part, rest) ← keyPart? (skipSpace cs)
    match skipSpace rest with
    | '.' :: rest =>
      let (parts, rest) ← keyParts? fuel rest
      some (part :: parts, rest)
    | rest => some ([part], rest)

/-- A key: the path in front of its last part, and that part. -/
def key? (cs : List Char) : Option ((List String × String) × List Char) := do
  let (parts, rest) ← keyParts? (cs.length + 1) cs
  let last ← parts.getLast?
  if parts.length < maxDepth then some ((parts.dropLast, last), rest) else none

/-- The text after blanks, line ends and comments, as they stand between the items of an
array; a comment needs a line end. -/
def skipBetween? : Nat → List Char → Option (List Char)
  | 0, cs => some cs
  | fuel + 1, cs =>
    let cs := skipSpace cs
    match cs with
    | '#' :: _ => (afterNewline? (skipComment cs)).bind (skipBetween? fuel)
    | '\r' :: _ => (afterNewline? cs).bind (skipBetween? fuel)
    | '\n' :: rest => skipBetween? fuel rest
    | _ => some cs

/-- The items of an array after its opening bracket; a comma may follow the last one. -/
def arrayItems? (value : List Char → Option (Item × List Char)) :
    Nat → List Char → Option (List Item × List Char)
  | 0, _ => none
  | fuel + 1, cs => do
    let cs ← skipBetween? cs.length cs
    match cs with
    | ']' :: rest => some ([], rest)
    | _ =>
      let (item, rest) ← value cs
      let rest ← skipBetween? rest.length rest
      match rest with
      | ']' :: rest => some ([item], rest)
      | ',' :: rest =>
        let (items, rest) ← arrayItems? value fuel rest
        some (item :: items, rest)
      | _ => none

/-- A key, an equals sign and a value. -/
def keyValue? (value : List Char → Option (Item × List Char)) (cs : List Char) :
    Option ((List String × String × Item) × List Char) := do
  let ((path, key), rest) ← key? cs
  match rest with
  | '=' :: rest =>
    let (item, rest) ← value (skipSpace rest)
    some ((path, key, item), skipSpace rest)
  | _ => none

/-- The entries of an inline table from its first key on. -/
def inlineEntries? (value : List Char → Option (Item × List Char)) :
    Nat → Entries → List Char → Option (Entries × List Char)
  | 0, _, _ => none
  | fuel + 1, t, cs => do
    let ((path, key, item), rest) ← keyValue? value cs
    let t ← t.insertKey? path key item
    match rest with
    | '\x7d' :: rest => some (t, rest)
    | ',' :: rest => inlineEntries? value fuel t rest
    | _ => none

/-- A value that is neither an array nor an inline table. -/
def plain? (cs : List Char) : Option (Item × List Char) :=
  match cs with
  | 't' :: 'r' :: 'u' :: 'e' :: rest => some (.boolean true, rest)
  | 'f' :: 'a' :: 'l' :: 's' :: 'e' :: rest => some (.boolean false, rest)
  | '"' :: _ => (string? cs).map fun (s, rest) => (.text s, rest)
  | '\'' :: _ => (string? cs).map fun (s, rest) => (.text s, rest)
  | _ => numeric? cs

/-- A value, in which arrays and inline tables nest at most `depth` deep. -/
def value? : Nat → List Char → Option (Item × List Char)
  | 0, cs => plain? cs
  | depth + 1, cs =>
    match cs with
    | '[' :: rest =>
      (arrayItems? (value? depth) (rest.length + 1) rest).map fun (xs, rest) => (.array xs, rest)
    | '\x7b' :: rest =>
      match skipSpace rest with
      | '\x7d' :: rest => some (.inline [], rest)
      | rest =>
        (inlineEntries? (value? depth) (rest.length + 1) [] rest).map fun (t, rest) =>
          (.inline t, rest)
    | _ => plain? cs

/-- What follows the end of a line that may carry a comment. -/
def lineEnd? (cs : List Char) : Option (List Char) :=
  match skipComment (skipSpace cs) with
  | [] => some []
  | cs => afterNewline? cs

/-- A header after its opening bracket: whether it opens an element of an array of
tables, its path and its last part. -/
def header? (cs : List Char) : Option ((Bool × List String × String) × List Char) :=
  match cs with
  | '[' :: rest => do
    let ((path, key), rest) ← key? rest
    match rest with
    | ']' :: ']' :: rest => some ((true, path, key), rest)
    | _ => none
  | _ => do
    let ((path, key), rest) ← key? cs
    match rest with
    | ']' :: rest => some ((false, path, key), rest)
    | _ => none

/-- The lines of a document, added to the table `root` while the header of `table` is the
last one seen; `fuel` bounds their number. -/
def lines? : Nat → List String → Entries → List Char → Option Entries
  | 0, _, _, _ => none
  | fuel + 1, table, root, cs =>
    match skipSpace cs with
    | [] => some root
    | '#' :: rest => (lineEnd? ('#' :: rest)).bind (lines? fuel table root)
    | '[' :: rest => do
      let ((element, path, key), rest) ← header? rest
      let rest ← lineEnd? rest
      let root ← root.header? element path key
      lines? fuel (path ++ [key]) root rest
    | c :: rest =>
      match afterNewline? (c :: rest) with
      | some rest => lines? fuel table root rest
      | none => do
        let ((path, key, item), rest) ← keyValue? (value? (maxDepth - 1)) (c :: rest)
        let rest ← lineEnd? rest
        let root ← root.insertUnder? table path key item
        lines? fuel table root rest

/-- The table at the root of a document. A byte order mark may stand in front. -/
def read? (s : String) : Option Entries :=
  let cs := match s.toList with
    | c :: rest => if c.toNat = 0xfeff then rest else c :: rest
    | [] => []
  lines? (cs.length + 1) [] [] cs

end Lookout.Toml
