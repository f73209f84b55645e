set_option autoImplicit false

/-! # The shortest decimal of a binary fraction

A positive number `m * 2 ^ q` that stands for all reals that round to it is written with
the fewest decimal digits that read back as the same number, and among those with the
digits nearest to it. On the grid of `n`-digit decimals the two neighbours of the number
are tried, for `n` from one up to seventeen; the first grid with a neighbour inside the
interval of reals that round to the number wins.
-/

namespace Lookout.Decimal

/-- A positive decimal fraction: the value `digits * 10 ^ exponent`. -/
structure Digits where
  digits : Nat
  exponent : Int
  deriving Repr, DecidableEq

/-- A positive binary fraction in units of a quarter: its value is
`value * 2 ^ scale`, and it stands for the reals between `low` and `high` times the same
power, the ends included if `closed`. -/
structure Binary where
  low : Nat
  value : Nat
  high : Nat
  scale : Int
  closed : Bool

/-- The finite positive number with a sign-free IEEE double encoding. -/
def Binary.ofBits (bits : Nat) : Binary :=
  let field := bits / Nat.pow 2 52
  let fraction := bits % Nat.pow 2 52
  let m := if field = 0 then fraction else fraction + Nat.pow 2 52
  let q : Int := (if field = 0 then 1 else field : Nat) - 1077
  { low := if fraction = 0 ∧ 1 < field then 4 * m - 1 else 4 * m - 2
    value := 4 * m
    high := 4 * m + 2
    scale := q
    closed := m % 2 == 0 }

/-- The quotient `a * 2 ^ scale / 10 ^ k` as a numerator and a denominator. -/
def ratio (a : Nat) (scale k : Int) : Nat × Nat :=
  (a * Nat.pow 2 scale.toNat * Nat.pow 10 (-k).toNat,
    Nat.pow 2 (-scale).toNat * Nat.pow 10 k.toNat)

/-- The place of the decimal point: the `e` with `10 ^ (e - 1) ≤ x < 10 ^ e`. -/
def Binary.magnitude (b : Binary) : Int :=
  let (num, den) := ratio b.value b.scale 0
  if den ≤ num then (Nat.toDigits 10 (num / den)).length
  else 1 - ((Nat.toDigits 10 ((den - 1) / num)).length : Int)

/-- Whether `d * 10 ^ k` is one of the reals that round to the number. -/
def Binary.holds (b : Binary) (d : Nat) (k : Int) : Bool :=
  let (lowNum, lowDen) := ratio b.low b.scale k
  let (highNum, highDen) := ratio b.high b.scale k
  if b.closed then lowNum ≤ d * lowDen && d * highDen ≤ highNum
  else lowNum < d * lowDen && d * highDen < highNum

/-- The decimal on the grid of step `10 ^ k` that is nearest to the number and reads back
as it, if there is one; of two equally near ones the even one. -/
def Binary.onGrid? (b : Binary) (k : Int) : Option Digits :=
  let (num, den) := ratio b.value b.scale k
  let below := num / den
  let rest := num % den
  let lowFirst := 2 * rest < den || (2 * rest == den && below % 2 == 0)
  let order := if lowFirst then [below, below + 1] else [below + 1, below]
  (order.find? fun d => 0 < d && b.holds d k).map fun d => ⟨d, k⟩

/-- The shortest decimal of a number; seventeen digits are always enough. -/
def Binary.shortest (b : Binary) : Digits :=
  let e := b.magnitude
  ((List.range 17).findSome? fun (n : Nat) => b.onGrid? (e - (n + 1))).getD ⟨0, 0⟩

/-- Digits without trailing zeros; `fuel` bounds how many are taken off. -/
def Digits.trimmed : Nat → Digits → Digits
  | 0, d => d
  | fuel + 1, d =>
    if d.digits % 10 = 0 ∧ d.digits ≠ 0 then
      Digits.trimmed fuel ⟨d.digits / 10, d.exponent + 1⟩
    else d

end Lookout.Decimal
