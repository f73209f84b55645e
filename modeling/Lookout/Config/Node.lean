import Lookout.Json.Basic
import Lookout.Toml.Item

set_option autoImplicit false

/-! # Configuration trees

The form in which a configuration is read, whether it was written in JSON or in TOML, and
the rules for reading records out of it. A record is a table of its fields, in which
unknown fields are ignored, or a list of its fields in order, in which missing ones stand
at the end. JSON lists are strict: they hold no more items than the record has fields. In
TOML, items after the last field are ignored.
-/

namespace Lookout.Config

/-- A node of a configuration tree. -/
inductive Node
  | null
  | boolean (b : Bool)
  | integer (n : Int)
  | float
  | text (s : String)
  /-- A list; in a strict one, every item of a record has a field. -/
  | list (strict : Bool) (items : List Node)
  | table (fields : List (String × Node))

namespace Node

mutual

/-- The tree of a JSON value. -/
def ofJson : Json → Node
  | .null => .null
  | .bool b => .boolean b
  | .num (.int n) => .integer n
  | .num (.double _) => .float
  | .str s => .text s
  | .arr items => .list true (ofJsonItems items)
  | .obj fields => .table (ofJsonFields fields)

/-- The trees of the items of an array. -/
def ofJsonItems : List Json → List Node
  | [] => []
  | x :: rest => ofJson x :: ofJsonItems rest

/-- The trees of the fields of an object. -/
def ofJsonFields : List (String × Json) → List (String × Node)
  | [] => []
  | (k, v) :: rest => (k, ofJson v) :: ofJsonFields rest

end

/-- The field that stands for a date or a time when it is read as a record. -/
def momentField : String × Node := ("date-time", .text "")

mutual

/-- The tree of a TOML item. -/
def ofToml : Toml.Item → Node
  | .text s => .text s
  | .integer n => .integer n
  | .float => .float
  | .boolean b => .boolean b
  | .moment => .table [momentField]
  | .array items => .list false (ofTomlItems items)
  | .inline entries => .table (ofTomlEntries entries)
  | .table _ entries => .table (ofTomlEntries entries)
  | .tables elements => .list false (ofTomlElements elements)

/-- The trees of the items of an array. -/
def ofTomlItems : List Toml.Item → List Node
  | [] => []
  | x :: rest => ofToml x :: ofTomlItems rest

/-- The trees of the entries of a table. -/
def ofTomlEntries : List (String × Toml.Item) → List (String × Node)
  | [] => []
  | (k, v) :: rest => (k, ofToml v) :: ofTomlEntries rest

/-- The trees of the elements of an array of tables. -/
def ofTomlElements : List (List (String × Toml.Item)) → List Node
  | [] => []
  | t :: rest => .table (ofTomlEntries t) :: ofTomlElements rest

end

/-! ## Reading records -/

/-- The nodes of a record's fields, in the order of `names`, each missing or present. -/
def fields? (names : List String) : Node → Option (List (Option Node))
  | .table fields => some (names.map fun name => fields.lookup name)
  | .list strict items =>
    if strict ∧ names.length < items.length then none
    else some (names.mapIdx fun i _ => items[i]?)
  | _ => none

/-- A number that is not negative. -/
def nat? : Node → Option Nat
  | .integer n => if 0 ≤ n then some n.toNat else none
  | _ => none

/-- A text. -/
def text? : Node → Option String
  | .text s => some s
  | _ => none

/-- A truth value. -/
def boolean? : Node → Option Bool
  | .boolean b => some b
  | _ => none

/-- A text or nothing. -/
def optional? : Node → Option (Option String)
  | .null => some none
  | .text s => some (some s)
  | _ => none

/-- A list whose items are read by `item`. -/
def listOf? {α : Type} (item : Node → Option α) : Node → Option (List α)
  | .list _ items => items.mapM item
  | _ => none

/-- The value of a field, or the default if the field is missing. -/
def or? {α : Type} (default : α) (read : Node → Option α) : Option Node → Option α
  | none => some default
  | some n => read n

end Node

end Lookout.Config
