set_option autoImplicit false

/-! # The bootstring code

A label that is not ASCII is written in ASCII: its ASCII characters first, then the others
in increasing order, each as the difference from the one before it. A difference counts the
places that are passed over while the code points are gone through from one to the next; it
is written in base 36 with digits whose weights adapt to the differences before.
-/

namespace Lookout.Url.Domain.Bootstring

/-- A digit in base 36. -/
def digit (n : Nat) : Char := if n < 26 then Char.ofNat (n + 97) else Char.ofNat (n - 26 + 48)

/-- The value of a digit in base 36. -/
def value? (c : Char) : Option Nat :=
  if 'a' ≤ c ∧ c ≤ 'z' then some (c.toNat - 97)
  else if 'A' ≤ c ∧ c ≤ 'Z' then some (c.toNat - 65)
  else if '0' ≤ c ∧ c ≤ '9' then some (c.toNat - 48 + 26)
  else none

/-- The part of a bias that comes from a large difference. -/
def biasLoop : Nat → Nat → Nat → Nat
  | 0, delta, k => k + 36 * delta / (delta + 38)
  | fuel + 1, delta, k =>
    if 455 < delta then biasLoop fuel (delta / 35) (k + 36) else k + 36 * delta / (delta + 38)

/-- The bias after a difference. -/
def bias (delta points : Nat) (first : Bool) : Nat :=
  let delta := if first then delta / 700 else delta / 2
  biasLoop 64 (delta + delta / points) 0

/-- The threshold of a digit. -/
def threshold (k bias : Nat) : Nat :=
  if k ≤ bias then 1 else if bias + 26 ≤ k then 26 else k - bias

/-! ## Encoding -/

/-- A difference in digits of decreasing weight. -/
def differenceDigits : Nat → Nat → Nat → Nat → List Char
  | 0, _, _, _ => []
  | fuel + 1, q, k, b =>
    let t := threshold k b
    if q < t then [digit q]
    else digit (t + (q - t) % (36 - t)) :: differenceDigits fuel ((q - t) / (36 - t)) (k + 36) b

/-- The state of the encoder. -/
structure Coder where
  delta : Nat := 0
  bias : Nat := 72
  handled : Nat
  first : Bool := true
  /-- The pieces of the code, the last one first. -/
  out : List (List Char) := []

/-- One character of the label while code point `n` is inserted. -/
def Coder.pass (n : Nat) (s : Coder) (c : Char) : Coder :=
  if c.toNat < n then { s with delta := s.delta + 1 }
  else if c.toNat = n then
    { delta := 0
      bias := Bootstring.bias s.delta (s.handled + 1) s.first
      handled := s.handled + 1
      first := false
      out := differenceDigits 64 s.delta 36 s.bias :: s.out }
  else s

/-- All occurrences of the code points of an increasing list are inserted. -/
def Coder.run (label : List Char) : Nat → List Nat → Coder → Coder
  | _, [], s => s
  | n, m :: rest, s =>
    let s := { s with delta := s.delta + (m - n) * (s.handled + 1) }
    let s := label.foldl (Coder.pass m) s
    Coder.run label (m + 1) rest { s with delta := s.delta + 1 }

/-- A label in the bootstring code. -/
def encode (label : List Char) : List Char :=
  let plain := label.filter fun c => c.toNat < 128
  let points := ((label.map Char.toNat).filter (128 ≤ ·)).mergeSort.eraseDups
  let front := if plain.isEmpty then [] else plain ++ ['-']
  front ++ (Coder.run label 128 points { handled := plain.length }).out.reverse.flatten

/-! ## Decoding -/

/-- The bound on all numbers that are met while a label is decoded. -/
def limit : Nat := Nat.pow 2 32

/-- Reads a difference: its value added to `i`, and the digits after it. -/
def difference? (b : Nat) : Nat → Nat → Nat → List Char → Option (Nat × List Char)
  | _, _, _, [] => none
  | i, w, k, c :: rest => do
    let d ← value? c
    let t := threshold k b
    let i := i + d * w
    if limit ≤ i then none
    else if d < t then some (i, rest)
    else if limit ≤ w * (36 - t) then none
    else difference? b i (w * (36 - t)) (k + 36) rest

/-- A difference takes at least one digit. -/
theorem length_lt_of_difference? {b i w k j : Nat} {code rest : List Char}
    (h : difference? b i w k code = some (j, rest)) : rest.length < code.length := by
  induction code generalizing i w k with
  | nil => simp [difference?] at h
  | cons c code ih =>
    rw [difference?] at h
    cases hd : value? c with
    | none => simp [hd] at h
    | some d =>
      simp only [hd, Option.bind_eq_bind, Option.bind_some] at h
      split at h
      · simp at h
      · split at h
        · simp only [Option.some.injEq, Prod.mk.injEq] at h
          simp [h.2]
        · split at h
          · simp at h
          · exact Nat.lt_succ_of_lt (ih h)

/-- Inserts the characters of the differences that are left into a label. -/
def insertAll? (n i b : Nat) (label code : List Char) : Option (List Char) :=
  match code with
  | [] => some label
  | c :: code =>
    match _h : difference? b i 1 36 (c :: code) with
    | none => none
    | some (j, rest) =>
      let length := label.length + 1
      let n := n + j / length
      let spot := j % length
      if n.isValidChar then
        insertAll? n (spot + 1) (bias (j - i) length (i == 0))
          (label.take spot ++ Char.ofNat n :: label.drop spot) rest
      else none
  termination_by code.length
  decreasing_by exact length_lt_of_difference? (by assumption)

/-- The label of a bootstring code. What stands before its last hyphen, if anything does,
is taken as it is. -/
def decode? (code : List Char) : Option (List Char) :=
  let tail := (code.reverse.takeWhile (· != '-')).reverse
  let front := code.take (code.length - tail.length - 1)
  if ¬ front.all (·.toNat < 128) then none
  else if front.isEmpty then insertAll? 128 0 72 [] code
  else insertAll? 128 0 72 front tail

example : encode "bücher".toList = "bcher-kva".toList := by decide +kernel

example : decode? "bcher-kva".toList = some "bücher".toList := by decide +kernel

example : decode? "-kva".toList = none := by decide +kernel

end Lookout.Url.Domain.Bootstring
