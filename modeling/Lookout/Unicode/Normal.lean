import Lookout.Unicode.Composite

set_option autoImplicit false

/-! # The normal form of a text

Texts that look the same may be written with other characters: a letter with a mark as one
character or as two, and several marks in any order. In the normal form everything that can
be composed is composed, and marks of different classes stand in the order of their classes.
-/

namespace Lookout.Unicode

/-- Puts a character in front of marks that are in order. -/
def place (c : Char) : List Char → List Char
  | [] => [c]
  | d :: rest =>
    if 0 < markClass d ∧ markClass d < markClass c then d :: place c rest else c :: d :: rest

/-- A text with its marks in the order of their classes; marks of one class keep theirs. -/
def ordered (cs : List Char) : List Char := cs.foldr place []

theorem place_perm (c : Char) (cs : List Char) : (place c cs).Perm (c :: cs) := by
  induction cs with
  | nil => exact .refl _
  | cons d rest ih =>
    rw [place]
    split
    · exact (ih.cons d).trans (.swap c d rest)
    · exact .refl _

/-- Ordering neither drops nor adds a character. -/
theorem ordered_perm (cs : List Char) : (ordered cs).Perm cs := by
  induction cs with
  | nil => exact .refl _
  | cons c rest ih => exact (place_perm c (ordered rest)).trans (ih.cons c)

/-- Composes a text. `base` is the last character that is no mark, and `marks` are those
after it that do not compose with it, the last one first. A mark composes with the base
unless one of its own or of a higher class stands between. -/
def composed (base : Option Char) (marks : List Char) : List Char → List Char
  | [] => base.toList ++ marks.reverse
  | c :: rest =>
    let free := match marks with
      | [] => true
      | m :: _ => decide (markClass m < markClass c)
    match base.bind fun b => if free then compose? b c else none with
    | some whole => composed (some whole) marks rest
    | none =>
      if markClass c = 0 then base.toList ++ marks.reverse ++ composed (some c) [] rest
      else composed base (c :: marks) rest

/-- The normal form of a text. Below the first mark nothing has to be done. -/
def normal (cs : List Char) : List Char :=
  if cs.all fun c => c.toNat < 0x300 then cs
  else composed none [] (ordered (cs.flatMap (partsOf 3)))

end Lookout.Unicode
