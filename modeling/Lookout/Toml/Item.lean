set_option autoImplicit false

/-! # TOML tables

What a TOML document holds, and the rules by which its keys and headers build tables. A
table remembers how it came to be, because that decides who may still add to it:

* a table made by its own header is *explicit*; a second header for it is refused, and so
  is a dotted key that reaches into it;
* a table that only the path of a longer header names is *implicit*; its own header may
  still follow;
* a table made by a dotted key is *dotted*; further dotted keys may add to it, but no
  header may name it.

Inline tables and arrays are values, and values are never added to.
-/

namespace Lookout.Toml

/-- How a table came to be. -/
inductive Kind
  | explicit | implicit | dotted
  deriving Repr, DecidableEq

/-- What stands under a key. -/
inductive Item
  | text (s : String)
  | integer (n : Int)
  | float
  | boolean (b : Bool)
  /-- A date, a time, or both. -/
  | moment
  | array (items : List Item)
  | inline (entries : List (String × Item))
  | table (kind : Kind) (entries : List (String × Item))
  /-- An array of tables, each made by a header of its own. -/
  | tables (elements : List (List (String × Item)))

/-- The entries of a table. -/
abbrev Entries := List (String × Item)

namespace Entries

/-- The item under a key. -/
def get? (t : Entries) (key : String) : Option Item := t.lookup key

/-- The entries with the item under a key replaced, or added if there is none. -/
def put (t : Entries) (key : String) (item : Item) : Entries :=
  match t with
  | [] => [(key, item)]
  | (k, x) :: rest => if k = key then (key, item) :: rest else (k, x) :: put rest key item

/-- Adds an item under a key that is not taken. -/
def insertNew? (t : Entries) (key : String) (item : Item) : Option Entries :=
  match t.get? key with
  | none => some (t.put key item)
  | some _ => none

/-- Changes the last element of a list of tables. -/
def onLast? (f : Entries → Option Entries) : List Entries → Option (List Entries)
  | [] => none
  | [t] => (f t).map fun t => [t]
  | t :: u :: rest => (onLast? f (u :: rest)).map (t :: ·)

/-- Changes the table at a path of keys, the last one of an array of tables standing for
the array. Tables that are missing on the way are made, of the given kind. On the way of a
dotted key no table may be explicit. -/
def descend? (kind : Kind) (f : Kind → Entries → Option Entries) :
    Kind → List String → Entries → Option Entries
  | here, [], t => f here t
  | _, key :: path, t =>
    match t.get? key with
    | none => (descend? kind f kind path []).map fun u => t.put key (.table kind u)
    | some (.table found u) =>
      if kind = .dotted ∧ found = .explicit then none
      else (descend? kind f found path u).map fun u => t.put key (.table found u)
    | some (.tables us) =>
      (onLast? (descend? kind f .explicit path) us).map fun us => t.put key (.tables us)
    | some _ => none

/-- The entry that a header `[key]` makes in a table. -/
def openTable? (key : String) (t : Entries) : Option Entries :=
  match t.get? key with
  | none => some (t.put key (.table .explicit []))
  | some (.table .implicit u) => some (t.put key (.table .explicit u))
  | some _ => none

/-- The entry that a header `[[key]]` makes in a table. -/
def openElement? (key : String) (t : Entries) : Option Entries :=
  match t.get? key with
  | none => some (t.put key (.tables [[]]))
  | some (.tables us) => some (t.put key (.tables (us ++ [[]])))
  | some _ => none

/-- A header with the path of a table; `element` for an array of tables. -/
def header? (element : Bool) (path : List String) (key : String) (root : Entries) :
    Option Entries :=
  descend? .implicit (fun _ t => if element then openElement? key t else openTable? key t)
    .explicit path root

/-- A key with a value in a table: its path first, which makes dotted tables. -/
def insertKey? (path : List String) (key : String) (value : Item) (t : Entries) :
    Option Entries :=
  descend? .dotted
    (fun here u => if here = .dotted ∨ path.isEmpty then u.insertNew? key value else none)
    .explicit path t

/-- A key with a value in the table that a header has opened. -/
def insertUnder? (table : List String) (path : List String) (key : String) (value : Item)
    (root : Entries) : Option Entries :=
  descend? .implicit (fun _ t => insertKey? path key value t) .explicit table root

end Entries

end Lookout.Toml
