import Lookout.Json.Reader

set_option autoImplicit false

/-! # Percent-encoding

Bytes of a text as `%` and two hexadecimal digits. Encoding is by a set of characters
that have to be encoded; whatever is not ASCII is encoded always, byte by byte. Decoding
leaves a `%` alone that no two hexadecimal digits follow.
-/

namespace Lookout.Text

/-- The bytes of a character. -/
def bytesOf (c : Char) : List UInt8 := (String.singleton c).toUTF8.toList

/-- A byte as a percent sign and two digits. -/
def percentByte (b : UInt8) : String :=
  let digit (n : Nat) : Char := (Nat.digitChar n).toUpper
  String.ofList ['%', digit (b.toNat / 16), digit (b.toNat % 16)]

/-- A character, encoded if it is in the set or no ASCII character. -/
def percentChar (inSet : Char → Bool) (c : Char) : String :=
  if c.toNat < 128 ∧ ¬ inSet c then String.singleton c
  else String.join ((bytesOf c).map percentByte)

/-- A text with the characters of a set encoded. -/
def percentEncode (inSet : Char → Bool) (cs : List Char) : String :=
  String.join (cs.map (percentChar inSet))

/-- The bytes of a text with its escapes decoded. -/
def percentBytes : List Char → List UInt8
  | [] => []
  | '%' :: a :: b :: rest =>
    match Json.hexDigit? a, Json.hexDigit? b with
    | some x, some y => (UInt8.ofNat (x * 16 + y)) :: percentBytes rest
    | _, _ => bytesOf '%' ++ percentBytes (a :: b :: rest)
  | c :: rest => bytesOf c ++ percentBytes rest

/-- A text with its escapes decoded, if that gives a text. -/
def percentDecode? (cs : List Char) : Option String :=
  String.fromUTF8? ⟨(percentBytes cs).toArray⟩

end Lookout.Text
