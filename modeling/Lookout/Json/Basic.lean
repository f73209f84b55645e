import Lookout.Json.Number

set_option autoImplicit false

/-! # JSON values

A JSON value keeps the fields of an object as a list. As a value, an object is a map: the
order of its fields does not matter, and of several fields with one name the last counts.
`normal` gives the representative with sorted and distinct names.
-/

namespace Lookout

/-- A JSON value. -/
inductive Json
  | null
  | bool (b : Bool)
  | num (n : Json.Number)
  | str (s : String)
  | arr (items : List Json)
  | obj (fields : List (String × Json))

namespace Json

instance : Inhabited Json := ⟨.null⟩

/-- An integer. -/
def int (n : Int) : Json := .num (.int n)

/-- A natural number. -/
def nat (n : Nat) : Json := .num (.int n)

/-- A text, or null. -/
def optStr : Option String → Json
  | none => .null
  | some s => .str s

/-- The fields of an object in which the names are sorted and distinct, with one field
added in front: a field of the same name stays, because it comes later. -/
def insertField (name : String) (value : Json) : List (String × Json) → List (String × Json)
  | [] => [(name, value)]
  | (k, v) :: rest =>
    if name < k then (name, value) :: (k, v) :: rest
    else if name = k then (k, v) :: rest
    else (k, v) :: insertField name value rest

mutual

/-- The value with all objects sorted by name, the last of several fields of one name. -/
def normal : Json → Json
  | .arr items => .arr (normalItems items)
  | .obj fields => .obj (normalFields fields)
  | .null => .null
  | .bool b => .bool b
  | .num n => .num n
  | .str s => .str s

/-- The items of an array, each in normal form. -/
def normalItems : List Json → List Json
  | [] => []
  | x :: rest => normal x :: normalItems rest

/-- The fields of an object in normal form. -/
def normalFields : List (String × Json) → List (String × Json)
  | [] => []
  | (k, v) :: rest => insertField k (normal v) (normalFields rest)

end

/-- The last field of a name. -/
def lastField? (name : String) : List (String × Json) → Option Json
  | [] => none
  | (k, v) :: rest =>
    match lastField? name rest with
    | some later => some later
    | none => if k = name then some v else none

/-- The field of an object, the last one of that name. -/
def field? (j : Json) (name : String) : Option Json :=
  match j with
  | .obj fields => lastField? name fields
  | _ => none

/-! ## Compact text -/

/-- Four hexadecimal digits. -/
def fourHex (n : Nat) : String :=
  let digits := Nat.toDigits 16 n
  String.ofList (List.replicate (4 - digits.length) '0' ++ digits)

/-- A character as written in a JSON string. -/
def escaped (c : Char) : String :=
  if c = '"' then "\\\""
  else if c = '\\' then "\\\\"
  else if c = '\n' then "\\n"
  else if c = '\r' then "\\r"
  else if c = '\t' then "\\t"
  else if c.toNat = 8 then "\\b"
  else if c.toNat = 12 then "\\f"
  else if c.toNat < 32 then "\\u" ++ fourHex c.toNat
  else String.singleton c

/-- A JSON string. -/
def string (s : String) : String :=
  "\"" ++ s.toList.foldl (fun text c => text ++ escaped c) "" ++ "\""

mutual

/-- A value written without any blank, its fields in their order. -/
def compact : Json → String
  | .null => "null"
  | .bool b => if b then "true" else "false"
  | .num n => n.text
  | .str s => string s
  | .arr items => "[" ++ compactItems items ++ "]"
  | .obj fields => "\x7b" ++ compactFields fields ++ "\x7d"

/-- Items, separated by commas. -/
def compactItems : List Json → String
  | [] => ""
  | [x] => compact x
  | x :: y :: rest => compact x ++ "," ++ compactItems (y :: rest)

/-- Fields, separated by commas. -/
def compactFields : List (String × Json) → String
  | [] => ""
  | [(k, v)] => string k ++ ":" ++ compact v
  | (k, v) :: f :: rest => string k ++ ":" ++ compact v ++ "," ++ compactFields (f :: rest)

end

end Json

end Lookout
