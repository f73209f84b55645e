import Lookout.Json.Reader
import Lookout.Toml.Item

set_option autoImplicit false

/-! # TOML numbers, dates and times

Integers in four bases, floats, and dates and times, told apart by trying a date or time
first, then a float, then an integer. Underscores may stand between digits. An integer
must fit 64 bits with sign; a float that is too large is refused, one that is too small
is not.
-/

namespace Lookout.Toml

open Json (natOfDigits hexDigit?)

/-- Digits of a base with single underscores between them, without these: the digits and
the rest. An underscore that no digit follows is an error. -/
def digitsWith? (isDigit : Char → Bool) : List Char → Option (List Char × List Char)
  | [] => some ([], [])
  | '_' :: c :: rest =>
    if isDigit c then (digitsWith? isDigit rest).map fun (ds, rest) => (c :: ds, rest) else none
  | '_' :: [] => none
  | c :: rest =>
    if isDigit c then (digitsWith? isDigit rest).map fun (ds, rest) => (c :: ds, rest)
    else some ([], c :: rest)

/-- At least one digit, as `digitsWith?` reads them. -/
def someDigits? (isDigit : Char → Bool) : List Char → Option (List Char × List Char)
  | [] => none
  | c :: rest =>
    if isDigit c then (digitsWith? isDigit rest).map fun (ds, rest) => (c :: ds, rest) else none

/-- The digits of a whole decimal number: a zero, or digits that do not begin with one. -/
def wholeDigits? : List Char → Option (List Char × List Char)
  | '0' :: rest => some (['0'], rest)
  | cs => someDigits? Char.isDigit cs

/-- A sign and what follows. -/
def sign : List Char → Bool × List Char
  | '-' :: rest => (true, rest)
  | '+' :: rest => (false, rest)
  | cs => (false, cs)

/-- The value of digits in a base. -/
def valueOf (base : Nat) (ds : List Char) : Nat :=
  ds.foldl (fun n c => n * base + (hexDigit? c).getD 0) 0

/-- Whether a number fits 64 bits with sign. -/
def fits (n : Int) : Bool := -9223372036854775808 ≤ n && n ≤ 9223372036854775807

/-- An integer, if it fits. -/
def integer? (n : Int) (rest : List Char) : Option (Item × List Char) :=
  if fits n then some (.integer n, rest) else none

/-- An integer in another base. -/
def based? (base : Nat) (isDigit : Char → Bool) (cs : List Char) :
    Option (Item × List Char) := do
  let (ds, rest) ← someDigits? isDigit cs
  integer? (valueOf base ds) rest

/-- Whether `significand * 10 ^ exponent` is too large for a double. -/
def tooLarge (significand : Nat) (exponent : Int) : Bool :=
  let limit := Nat.pow 2 1024 - Nat.pow 2 970
  if significand = 0 then false
  else if 400 < (Nat.toDigits 10 significand).length + exponent then true
  else if (Nat.toDigits 10 significand).length + exponent < 0 then false
  else limit * Nat.pow 10 (-exponent).toNat ≤ significand * Nat.pow 10 exponent.toNat

/-- A decimal integer or float. -/
def decimal? (cs : List Char) : Option (Item × List Char) := do
  let (negative, cs) := sign cs
  let (whole, rest) ← wholeDigits? cs
  let fraction ← match rest with
    | '.' :: rest => (someDigits? Char.isDigit rest).map some
    | _ => some none
  let rest := (fraction.map Prod.snd).getD rest
  let exponent ← match rest with
    | e :: more =>
      if e = 'e' ∨ e = 'E' then
        let (down, more) := sign more
        (someDigits? Char.isDigit more).map fun (ds, rest) =>
          some ((if down then -(natOfDigits ds : Int) else natOfDigits ds), rest)
      else some none
    | [] => some none
  match fraction, exponent with
  | none, none =>
    let n : Int := natOfDigits whole
    integer? (if negative then -n else n) rest
  | _, _ =>
    let digits := (fraction.map Prod.fst).getD []
    let places : Int := (exponent.map Prod.fst).getD 0 - digits.length
    if ¬ negative ∧ tooLarge (natOfDigits (whole ++ digits)) places then none
    else some (.float, (exponent.map Prod.snd).getD rest)

/-- A number. -/
def number? : List Char → Option (Item × List Char)
  | '0' :: 'x' :: rest => based? 16 (fun c => (hexDigit? c).isSome) rest
  | '0' :: 'o' :: rest => based? 8 (fun c => '0' ≤ c ∧ c ≤ '7') rest
  | '0' :: 'b' :: rest => based? 2 (fun c => c = '0' ∨ c = '1') rest
  | cs =>
    match (sign cs).2 with
    | 'i' :: 'n' :: 'f' :: rest => some (.float, rest)
    | 'n' :: 'a' :: 'n' :: rest => some (.float, rest)
    | _ => decimal? cs

/-! ## Dates and times -/

/-- A number of exactly `width` digits that lies in a range. -/
def field? (width low high : Nat) (cs : List Char) : Option (Nat × List Char) :=
  let ds := cs.take width
  if ds.length = width ∧ ds.all Char.isDigit then
    let n := natOfDigits ds
    if low ≤ n ∧ n ≤ high then some (n, cs.drop width) else none
  else none

/-- What follows a wanted character. -/
def expect? (c : Char) : List Char → Option (List Char)
  | x :: rest => if x = c then some rest else none
  | [] => none

/-- The number of days of a month. -/
def daysIn (year month : Nat) : Nat :=
  if month = 2 then
    if year % 4 = 0 ∧ (year % 100 ≠ 0 ∨ year % 400 = 0) then 29 else 28
  else if month = 4 ∨ month = 6 ∨ month = 9 ∨ month = 11 then 30
  else 31

/-- What follows a time of the day. -/
def time? (cs : List Char) : Option (List Char) := do
  let (_, cs) ← field? 2 0 23 cs
  let cs ← expect? ':' cs
  let (_, cs) ← field? 2 0 59 cs
  let cs ← expect? ':' cs
  let (_, cs) ← field? 2 0 60 cs
  match cs with
  | '.' :: rest =>
    if (rest.takeWhile Char.isDigit).isEmpty then some cs else some (rest.dropWhile Char.isDigit)
  | _ => some cs

/-- What follows an offset from universal time, or the text itself if there is none. -/
def offset? : List Char → Option (List Char)
  | 'Z' :: rest => some rest
  | 'z' :: rest => some rest
  | c :: rest =>
    if c = '+' ∨ c = '-' then do
      let (_, rest) ← field? 2 0 23 rest
      let rest ← expect? ':' rest
      let (_, rest) ← field? 2 0 59 rest
      some rest
    else some (c :: rest)
  | [] => some []

/-- Whether a text begins like a time: two digits and a colon. -/
def beginsTime (cs : List Char) : Bool := ((field? 2 0 23 cs).bind fun r => expect? ':' r.2).isSome

/-- Whether a text begins like a date: four digits and a hyphen. -/
def beginsDate (cs : List Char) : Bool :=
  ((field? 4 0 9999 cs).bind fun r => expect? '-' r.2).isSome

/-- What follows a date, with a time and an offset if they are there. -/
def date? (cs : List Char) : Option (List Char) := do
  let (year, cs) ← field? 4 0 9999 cs
  let cs ← expect? '-' cs
  let (month, cs) ← field? 2 1 12 cs
  let cs ← expect? '-' cs
  let (_, cs) ← field? 2 1 (daysIn year month) cs
  match cs with
  | c :: rest =>
    if (c = 'T' ∨ c = 't' ∨ c = ' ') ∧ beginsTime rest then (time? rest).bind offset?
    else some cs
  | [] => some []

/-- A date, a time or a number. -/
def numeric? (cs : List Char) : Option (Item × List Char) :=
  if beginsDate cs then (date? cs).map fun rest => (.moment, rest)
  else if beginsTime cs then (time? cs).map fun rest => (.moment, rest)
  else number? cs

end Lookout.Toml
