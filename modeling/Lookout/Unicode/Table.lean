import Lookout.Text.Basic

set_option autoImplicit false

/-! # Tables of characters

What is known of characters stands in tables, and a table is given by a text. Its words
are blocks of code points in increasing order, the code points in hexadecimal: `41` is a
block of one, and `41-5a` one from the first to the last. A number after a colon belongs to
the block: `300-314:e6`. In a table of spellings, `fb00:66.66,66.69` spells two code points
out in others, the first `fb00` and the second the one after it.
-/

namespace Lookout.Unicode

/-- Code points from the first to the last, and what belongs to them. -/
structure Block (α : Type) where
  first : Nat
  last : Nat
  data : α

/-- Blocks in increasing order, no two of which overlap. -/
abbrev Table (α : Type) := Array (Block α)

/-- A number in lower-case hexadecimal. -/
def ofHex (cs : List Char) : Nat :=
  cs.foldl (fun n c => n * 16 + (if c.isDigit then c.toNat - 48 else c.toNat - 87)) 0

/-- The pieces of a word at a separator. -/
def cut (separator : Char) (cs : List Char) : List (List Char) := Text.split (· == separator) cs

/-- A block with a number; there is none where none is written. -/
def Block.ofWord? (word : List Char) : Option (Block Nat) :=
  let block (range : List Char) (data : Nat) : Option (Block Nat) :=
    match cut '-' range with
    | [first] => some ⟨ofHex first, ofHex first, data⟩
    | [first, last] => some ⟨ofHex first, ofHex last, data⟩
    | _ => none
  match cut ':' word with
  | [range] => block range 0
  | [range, data] => block range (ofHex data)
  | _ => none

/-- A block of spellings. -/
def Block.ofSpellings? (word : List Char) : Option (Block (List (List Nat))) :=
  match cut ':' word with
  | [first, spellings] =>
    let spellings := (cut ',' spellings).map fun s => (cut '.' s).map ofHex
    some ⟨ofHex first, ofHex first + spellings.length - 1, spellings⟩
  | _ => none

namespace Table

/-- A table of ranges, with numbers or without. -/
def ofRanges (text : String) : Table Nat := ((Text.words text).filterMap Block.ofWord?).toArray

/-- A table of spellings. -/
def ofSpellings (text : String) : Table (List (List Nat)) :=
  ((Text.words text).filterMap Block.ofSpellings?).toArray

variable {α : Type}

/-- The block that holds `n`, among those from index `lo` to below index `hi`, by halving;
`fuel` bounds the number of halvings. -/
def search? (t : Table α) (n : Nat) : Nat → Nat → Nat → Option (Block α)
  | 0, _, _ => none
  | fuel + 1, lo, hi =>
    if lo < hi then
      let mid := (lo + hi) / 2
      match t[mid]? with
      | none => none
      | some block =>
        if n < block.first then search? t n fuel lo mid
        else if block.last < n then search? t n fuel (mid + 1) hi
        else some block
    else none

/-- The block that holds a character. -/
def find? (t : Table α) (c : Char) : Option (Block α) := t.search? c.toNat 32 0 t.size

/-- Whether a table holds a character. -/
def holds (t : Table α) (c : Char) : Bool := (t.find? c).isSome

/-- The characters that a character is spelled out in. -/
def spelling? (t : Table (List (List Nat))) (c : Char) : Option (List Char) := do
  let block ← t.find? c
  let spelling ← block.data[c.toNat - block.first]?
  some (spelling.map Char.ofNat)

end Table

end Lookout.Unicode
