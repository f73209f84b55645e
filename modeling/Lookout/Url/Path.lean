import Lookout.Url.Host

set_option autoImplicit false

/-! # The path of a URL

A path is read segment by segment. A segment `.` is dropped, and a segment `..` takes the
one before it away, unless that is a drive letter. Where one of the two ends the path, it
leaves an empty segment behind.

The first segment of a file path may be a drive letter, which is written with a colon
also where a bar was read. Empty segments in front of a file path are left out. Tabs and
line ends are gaps in the text of a URL and do not count; only in a file path a gap right
after the drive letter ends the segment.
-/

namespace Lookout.Url

open Text (percentEncode)

/-- Whether a character is a gap. -/
def isGap (c : Char) : Bool := c == '\t' || c == '\n' || c == '\r'

/-- A text without gaps. -/
def solid (cs : List Char) : List Char := cs.filter fun c => !isGap c

/-! ## Which characters are encoded where -/

/-- Encoded in a fragment. -/
def inFragment (c : Char) : Bool := isControl c || " \"<>\u0060".toList.contains c

/-- Encoded in a query. -/
def inQuery (kind : SchemeKind) (c : Char) : Bool :=
  isControl c || " \"#<>".toList.contains c || (kind != .other && c == '\'')

/-- Encoded in a path. -/
def inPath (c : Char) : Bool := inFragment c || "#?\x7b\x7d".toList.contains c

/-- Encoded in a user name or a password. -/
def inUserinfo (c : Char) : Bool := inPath c || "/:;=@[\\]^|".toList.contains c

/-! ## Segments -/

/-- Whether a segment stands for the present place. -/
def isDot (segment : String) : Bool := segment == "." || segment.toLower == "%2e"

/-- Whether a segment stands for the place above. -/
def isDoubleDot (segment : String) : Bool :=
  segment == ".." || segment.toLower == ".%2e" || segment.toLower == "%2e." ||
    segment.toLower == "%2e%2e"

/-- The drive letter a text is, with its colon or bar. -/
def drive? : List Char → Option Char
  | [c, d] => if c.isAlpha ∧ (d = ':' ∨ d = '|') then some c else none
  | _ => none

/-- Whether no step up takes a segment away: it is a drive letter up to its end or up to a
backslash. -/
def isHeld (segment : String) : Bool :=
  (drive? (segment.toList.takeWhile (· != '\\'))).isSome

/-- A drive letter as it is written. -/
def driveText (letter : Char) : String := String.ofList [letter, ':']

/-- Whether a segment is a drive letter as it is written. -/
def isWrittenDrive (segment : String) : Bool :=
  ((drive? segment.toList).map fun c => segment == driveText c).getD false

/-- What follows a drive letter and a gap, if it is more than gaps. -/
def afterDriveGap? (raw : List Char) : Option (Char × List Char) :=
  match raw.dropWhile isGap with
  | [] => none
  | c :: rest =>
    match rest.dropWhile isGap with
    | ':' :: d :: rest =>
      if c.isAlpha ∧ isGap d ∧ ¬ (solid rest).isEmpty then some (c, solid rest) else none
    | _ => none

/-! ## Walking along a path -/

/-- Where a path has led so far. -/
structure Walk where
  /-- The segments, the last one first. -/
  done : List String := []
  /-- Whether the path was found to begin with a drive letter. -/
  drive : Bool := false

/-- The segments, in reverse, after a step up. -/
def stepUp : List String → List String
  | [] => []
  | s :: rest => if isHeld s then s :: rest else rest

/-- One more segment, which has gaps in it; `last` if the path ends with it. -/
def Walk.step (kind : SchemeKind) (last : Bool) (w : Walk) (raw : List Char) : Walk :=
  let text := solid raw
  let segment := percentEncode inPath text
  let landing (done : List String) : List String := if last then "" :: done else done
  if isDoubleDot segment then { w with done := landing (stepUp w.done) }
  else if isDot segment then { w with done := landing w.done }
  else if kind = .file ∧ w.done.isEmpty then
    match afterDriveGap? raw, drive? text with
    | some (c, rest), _ => { w with done := [percentEncode inPath rest, driveText c] }
    | none, some c => { done := [driveText c], drive := true }
    | none, none => { w with done := [segment] }
  else { w with done := segment :: w.done }

/-- The segments of a path, one after the other. -/
def Walk.steps (kind : SchemeKind) : Walk → List (List Char) → Walk
  | w, [] => w
  | w, [s] => w.step kind true s
  | w, s :: t :: rest => (w.step kind false s).steps kind (t :: rest)

/-- Whether a character separates segments. -/
def isSlash (kind : SchemeKind) (c : Char) : Bool := c == '/' || (kind != .other && c == '\\')

/-- Whether a path ends here. -/
def endsPath (c : Char) : Bool := c == '?' || c == '#'

/-- The path a walk has led along. -/
def Walk.path (kind : SchemeKind) (w : Walk) : Path :=
  let segments := w.done.reverse
  if kind = .file then
    match segments.dropWhile String.isEmpty with
    | [] => .segments [""]
    | segments => .segments segments
  else .segments segments

/-- Goes on along the path at the front of a text. -/
def Walk.along (kind : SchemeKind) (w : Walk) (cs : List Char) : Walk :=
  w.steps kind (Text.split (isSlash kind) (cs.takeWhile fun c => !endsPath c))

example : (Walk.along .special {} "a/./b/../c d".toList).path .special =
    .segments ["a", "c%20d"] := by decide +kernel

example : (Walk.along .file {} "/c|/..".toList).path .file = .segments ["c|", ""] := by
  decide +kernel

example : (Walk.along .file {} "c|/..".toList).path .file = .segments ["c:", ""] := by
  decide +kernel

end Lookout.Url
