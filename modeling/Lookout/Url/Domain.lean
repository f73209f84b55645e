import Lookout.Unicode.Direction
import Lookout.Unicode.Joining
import Lookout.Unicode.Normal
import Lookout.Url.Domain.Bootstring
import Lookout.Url.Domain.Character

set_option autoImplicit false

/-! # Domain names

International domain names in ASCII. All labels have to be allowed, and what a reader sees
of them has to be readable in one direction each.

A name is brought to its usual form, which is its normal form after each character was
replaced by what it stands for. Then it is cut into labels at its points. A label that
begins with `xn--` is the code of another label, and that one has to be in usual form.

A label must not begin with a mark, and an invisible joiner may only stand where it makes a
difference: after a mark that kills a vowel, or, if it keeps letters apart, between letters
that would be joined.
-/

namespace Lookout.Url.Domain

open Unicode

/-- Whether a character may not stand in a domain name. -/
def isForbidden (c : Char) : Bool :=
  c.toNat ≤ 0x20 || c.toNat == 0x7f || "%#/:<>?@[\\]^|".toList.contains c

/-- The usual form of a text, or `none` if a character in it is not allowed. -/
def usual? (cs : List Char) : Option (List Char) := do
  let meanings ← cs.mapM meaning?
  let usual := normal meanings.flatten
  if usual.any isForbidden then none else some usual

/-- Whether a character is a mark that kills a vowel. -/
def killsVowel (c : Char) : Bool := markClass c == 9

/-- The character that keeps letters apart, and the one that joins them. -/
def nonJoiner : Nat := 0x200c
@[inherit_doc nonJoiner] def joiner : Nat := 0x200d

/-- Whether the joiners of a text may stand there, given the text before it in reverse. -/
def joinersFit : List Char → List Char → Bool
  | _, [] => true
  | before, c :: after =>
    let afterKiller := (before.head?.map killsVowel).getD false
    let fits :=
      if c.toNat = joiner then afterKiller
      else if c.toNat = nonJoiner then afterKiller || joinedBetween before after
      else true
    fits && joinersFit (c :: before) after

/-- The longest label that is not ASCII, and the longest code of one. -/
def maxLabel : Nat := 1000
@[inherit_doc maxLabel] def maxCode : Nat := 2000

/-- Whether a text in usual form that is not ASCII is a label. -/
def isLabel (cs : List Char) : Bool :=
  !((cs.head?.map isMark).getD false) && joinersFit [] cs && cs.length ≤ maxLabel

/-- Whether a text is ASCII. -/
def isPlain (cs : List Char) : Bool := cs.all fun c => c.toNat < 128

/-- What stands before the code of a label. -/
def codeMark : List Char := "xn--".toList

/-- The label that a code stands for. -/
def decoded? (code : List Char) : Option (List Char) := do
  if code.isEmpty ∨ code.getLast? = some '-' ∨ maxCode < code.length then none
  else
    let label ← Bootstring.decode? code
    if isPlain label ∨ usual? label ≠ some label ∨ ¬ isLabel label then none else some label

/-- The label that is shown for one in usual form, or `none` if it is not allowed. -/
def shown? (label : List Char) : Option (List Char) :=
  if codeMark.isPrefixOf label then decoded? (label.drop codeMark.length)
  else if isPlain label ∨ isLabel label then some label
  else none

/-- A label in ASCII. -/
def plain (label : List Char) : List Char :=
  if isPlain label then label else codeMark ++ Bootstring.encode label

/-- Whether a character is written from right to left. -/
def isRightToLeft (c : Char) : Bool := 0x590 ≤ c.toNat && (direction c).isRightToLeft

/-- Whether each label has a direction throughout, which matters once a character of the
name is written from right to left. -/
def isReadable (labels : List (List Char)) : Bool :=
  !(labels.any fun l => l.any isRightToLeft) ||
    labels.all fun l => Direction.isUniform (l.map direction)

/-! ## Names -/

/-- The labels of a name. -/
def labels (cs : List Char) : List (List Char) := Text.split (· == '.') cs

/-- A domain name in ASCII, or `none` if it is not allowed. -/
def ascii? (name : String) : Option String := do
  let labels := labels (← usual? name.toList)
  if isReadable (← labels.mapM shown?) then
    some (".".intercalate (labels.map fun l => String.ofList (plain l)))
  else none

example : ascii? "Example.COM." = some "example.com." := by decide +kernel

example : ascii? "a b" = none := by decide +kernel

end Lookout.Url.Domain
