import Lookout.Decimal.Shortest

set_option autoImplicit false

/-! # JSON numbers

A number is an integer in the range of 64-bit integers, signed or unsigned, or a double.
A literal without fraction and exponent that is in range is an integer; any other one is
the double made from its first digits and a power of ten, and minus zero is a double too.
A double is written with the fewest digits that read back, in positional notation from
`1e-5` up to below `1e16` and with an exponent, which has a sign, otherwise.
-/

namespace Lookout.Json

/-- A JSON number. -/
inductive Number
  | int (n : Int)
  /-- The encoding of a finite double. -/
  | double (bits : UInt64)
  deriving Repr, DecidableEq

namespace Number

/-- The largest integer a literal can stand for. -/
def maxWord : Nat := 18446744073709551615

/-- The smallest integer a literal can stand for. -/
def minWord : Int := -9223372036854775808

/-- Zeros. -/
def zeros (n : Nat) : String := String.ofList (List.replicate n '0')

/-- The text of a positive decimal. -/
def decimalText (d : Decimal.Digits) : String :=
  let d := d.trimmed 20
  let digits := Nat.toDigits 10 d.digits
  let point : Int := digits.length + d.exponent
  if 0 ≤ d.exponent ∧ point ≤ 16 then
    String.ofList digits ++ zeros d.exponent.toNat ++ ".0"
  else if 0 < point ∧ point ≤ 16 then
    String.ofList (digits.take point.toNat) ++ "." ++ String.ofList (digits.drop point.toNat)
  else if -5 < point ∧ point ≤ 0 then
    "0." ++ zeros (-point).toNat ++ String.ofList digits
  else
    let mantissa := match digits with
      | [] => ""
      | [c] => String.singleton c
      | c :: rest => String.singleton c ++ "." ++ String.ofList rest
    mantissa ++ "e" ++ (if 0 < point then "+" else "") ++ toString (point - 1)

/-- The text of a finite double. -/
def doubleText (bits : UInt64) : String :=
  let size := bits.toNat % Nat.pow 2 63
  let sign := if bits.toNat < Nat.pow 2 63 then "" else "-"
  if size = 0 then sign ++ "0.0"
  else sign ++ decimalText (Decimal.Binary.ofBits size).shortest

/-- The text of a number. -/
def text : Number → String
  | int n => toString n
  | double bits => doubleText bits

/-! ## Literals -/

/-- The double `significand * 10 ^ exponent`, scaled in steps of at most `10 ^ 308`, or
`none` if it is too large; `fuel` bounds the steps. -/
def scaled? : Nat → Float → Int → Option Float
  | 0, x, _ => some x
  | fuel + 1, x, e =>
    if e.natAbs ≤ 308 then
      let power := Float.ofScientific 1 false e.natAbs
      if 0 ≤ e then
        let y := x * power
        if y.isInf then none else some y
      else some (x / power)
    else if x == 0 then some x
    else if 0 ≤ e then none
    else scaled? fuel (x / Float.ofScientific 1 false 308) (e + 308)

/-- The double of a literal. -/
def ofParts? (negative : Bool) (significand : Nat) (exponent : Int) : Option Number :=
  (scaled? 4 (significand.toUInt64.toFloat) exponent).map fun x =>
    .double (if negative then -x else x).toBits

/-- The leading digits that fit a 64-bit word, and the digits after them. -/
def wordDigits : Nat → List Char → Nat × List Char
  | acc, [] => (acc, [])
  | acc, c :: rest =>
    let next := acc * 10 + (c.toNat - '0'.toNat)
    if next ≤ maxWord then wordDigits next rest else (acc, c :: rest)

/-- The number of a literal, given its sign, the digits of its whole part, the digits of
its fraction and its exponent, the last two if it has them. -/
def ofLiteral? (negative : Bool) (whole : List Char) (fraction : Option (List Char))
    (exponent : Option Int) : Option Number :=
  let (front, dropped) := wordDigits 0 whole
  match fraction, exponent with
  | none, none =>
    if dropped.isEmpty then
      if ¬ negative then some (.int front)
      else if front = 0 then ofParts? true 0 0
      else if minWord ≤ -(front : Int) then some (.int (-front))
      else ofParts? true front 0
    else ofParts? negative front dropped.length
  | _, _ =>
    let digits := fraction.getD []
    let (significand, rest) := wordDigits front digits
    let places : Int := (dropped.length + rest.length : Nat) - (digits.length : Int)
    ofParts? negative significand (places + exponent.getD 0)

end Number

end Lookout.Json
