import Lookout.Admin.Request
import Lookout.Admin.Route
import Lookout.Proofs.Text.Percent
import Lookout.Proofs.Url.Plain
import Mathlib.Data.List.TakeWhile

set_option autoImplicit false

/-! # Names in paths

A poller is named by a segment of a path, which is cut out first and decoded then. So a segment
spells a name if it holds no slash and is decoded to the name (`Spells`), and such a segment leads
to the poller's route whatever the name is. Every name can be spelled, with all that is not
unreserved encoded (`spelling`), and a request can be sent for it.
-/

namespace Lookout.Admin

open Url (IsUnreserved)

/-! ## Segments of a path -/

theorem segments_eq_split (cs : List Char) : segments cs = Text.split (· == '/') cs := by
  induction cs with
  | nil => rfl
  | cons c rest ih =>
      rw [segments, Text.split_cons, ih]
      exact if_congr beq_iff_eq.symm rfl rfl

theorem segments_slash {segment : List Char} (h : '/' ∉ segment) (rest : List Char) :
    segments (segment ++ '/' :: rest) = segment :: segments rest := by
  simp only [segments_eq_split]
  rw [Text.split_append_cons rfl, Text.split_of_no_separator, List.singleton_append]
  intro c hc
  rw [beq_eq_false_iff_ne]
  rintro rfl
  exact h hc

/-- What can be done with a poller that is named. -/
inductive Errand
  | activate
  | poll
  deriving Repr, DecidableEq

/-- The last segment of its path. -/
def Errand.word : Errand → String
  | activate => "active"
  | poll => "poll"

/-- The route of an errand to the poller that a segment names. -/
def Errand.route (segment : List Char) : Errand → Route
  | activate => .activate segment
  | poll => .poll segment

/-- The path of an errand. -/
def Errand.path (e : Errand) (segment : List Char) : String :=
  "/admin/pollers/" ++ String.ofList segment ++ "/" ++ e.word

theorem Errand.toList_path (e : Errand) (segment : List Char) :
    (e.path segment).toList = "/admin/pollers/".toList ++ (segment ++ '/' :: e.word.toList) := by
  unfold path
  -- A long literal is slow to take apart.
  generalize "/admin/pollers/" = root
  simp

/-- **The path of an errand leads to its route**, if the segment is one. -/
theorem Errand.ofPath?_path (e : Errand) {segment : List Char} (h : '/' ∉ segment) :
    Route.ofPath? (e.path segment) = some (e.route segment) := by
  have hText : (e.path segment).toList =
      [] ++ '/' :: ("admin".toList ++ '/' :: ("pollers".toList ++ '/' ::
        (segment ++ '/' :: e.word.toList))) := e.toList_path segment
  have hWord : segments e.word.toList = [e.word.toList] := by cases e <;> decide
  rw [Route.ofPath?, hText, segments_slash (by decide), segments_slash (by decide),
    segments_slash (by decide), segments_slash h, hWord]
  cases e <;> rfl

/-! ## Spelling -/

/-- A segment names a poller: it is one segment, and is decoded to the name. -/
def Spells (segment : List Char) (name : String) : Prop :=
  '/' ∉ segment ∧ Text.percentDecode? segment = some name

/-- Encoded in a segment that names a poller: everything that is not unreserved. -/
def inSegment (c : Char) : Bool := !decide (IsUnreserved c)

/-- A name with everything encoded that is not unreserved. -/
def spelling (name : String) : List Char := (Text.percentEncode inSegment name.toList).toList

theorem mem_percentByte {b : UInt8} {c : Char} (h : c ∈ (Text.percentByte b).toList) :
    IsUnreserved c ∨ c = '%' := by
  have hDigit : ∀ n < 16, IsUnreserved (Nat.digitChar n).toUpper := by decide
  have hByte : b.toNat < 256 := b.toNat_lt
  simp only [Text.percentByte, String.toList_ofList, List.mem_cons, List.not_mem_nil, or_false] at h
  rcases h with rfl | rfl | rfl
  · exact .inr rfl
  · exact .inl (hDigit _ (by omega))
  · exact .inl (hDigit _ (by omega))

/-- A spelled name is made of unreserved characters and percent signs. -/
theorem mem_spelling {name : String} {c : Char} (h : c ∈ spelling name) :
    IsUnreserved c ∨ c = '%' := by
  rw [spelling, Text.percentEncode, String.toList_join, List.mem_flatMap] at h
  obtain ⟨part, hPart, hc⟩ := h
  obtain ⟨d, -, rfl⟩ := List.mem_map.mp hPart
  unfold Text.percentChar at hc
  split at hc
  next hPlain =>
    obtain rfl : c = d := by simpa using hc
    exact .inl (by simpa [inSegment] using hPlain.2)
  next =>
    rw [String.toList_join, List.mem_flatMap] at hc
    obtain ⟨piece, hPiece, hc⟩ := hc
    obtain ⟨b, -, rfl⟩ := List.mem_map.mp hPiece
    exact mem_percentByte hc

/-- **Every name can be spelled.** -/
theorem spells_spelling (name : String) : Spells (spelling name) name := by
  refine ⟨fun hSlash => ?_, Text.percentDecode?_percentEncode (by decide) name⟩
  rcases mem_spelling hSlash with h | h
  · exact absurd h (by decide)
  · exact absurd h (by decide)

/-! ## Sending -/

/-- A character that may stand in a path and ends none. -/
def InPlainPath (c : Char) : Prop := Net.Target.isPathChar c = true ∧ c ≠ '#' ∧ c ≠ '?'

instance : DecidablePred InPlainPath := fun _ => inferInstanceAs (Decidable (_ ∧ _))

theorem path?_of_slash {target : String} (hSize : target.utf8ByteSize ≤ Net.Target.maxLength)
    (hSlash : target.toList.head? = some '/') :
    Net.Target.path? target = Net.Target.pathOf? target.toList := by
  obtain ⟨rest, hText⟩ := List.head?_eq_some_iff.mp hSlash
  rw [Net.Target.path?, if_neg (Nat.not_lt.mpr hSize), hText]
  rfl

/-- A path that nothing follows is the path of its text. -/
theorem pathOf?_plain {cs : List Char} (hSome : cs ≠ []) (h : ∀ c ∈ cs, InPlainPath c) :
    Net.Target.pathOf? cs = some (String.ofList cs) := by
  have hNoFragment : cs.takeWhile (· ≠ '#') = cs :=
    List.takeWhile_eq_self_iff.mpr fun c hc => by simpa using (h c hc).2.1
  have hNoQuery : cs.takeWhile (· ≠ '?') = cs :=
    List.takeWhile_eq_self_iff.mpr fun c hc => by simpa using (h c hc).2.2
  have hChars : cs.all Net.Target.isPathChar = true := List.all_eq_true.mpr fun c hc => (h c hc).1
  unfold Net.Target.pathOf?
  dsimp only
  rw [hNoFragment, hNoQuery, hChars]
  simp [hSome]

/-- **A request for a poller whose name is spelled can be sent**, unless it is too long or its
header is none. -/
theorem make?_spelling (e : Errand) (name : String) {authorization : Option String}
    (hSize : (e.path (spelling name)).utf8ByteSize ≤ Net.Target.maxLength)
    (hHeader : authorization.all Net.isHeaderValue = true) :
    Request.make? "POST" (e.path (spelling name)) authorization =
      some ⟨.post, e.path (spelling name), authorization⟩ := by
  have hFixed : ∀ c ∈ "/admin/pollers/".toList ++ '/' :: e.word.toList, InPlainPath c := by
    cases e <;> exact List.all_iff_forall_prop.mp (by decide)
  have hChars : ∀ c ∈ (e.path (spelling name)).toList, InPlainPath c := by
    rw [e.toList_path]
    refine List.forall_mem_append.mpr ⟨fun c hc => hFixed c (List.mem_append_left _ hc),
      List.forall_mem_append.mpr ⟨fun c hc => ?_, fun c hc => hFixed c (List.mem_append_right _ hc)⟩⟩
    rcases mem_spelling hc with hPlain | rfl
    · exact Url.forall_isUnreserved (by decide +kernel) hPlain
    · decide
  have hPath : Net.Target.path? (e.path (spelling name)) = some (e.path (spelling name)) := by
    have hSlash : (e.path (spelling name)).toList.head? = some '/' := by
      rw [e.toList_path]
      rfl
    have hSome : (e.path (spelling name)).toList ≠ [] := by
      intro hNone
      rw [hNone] at hSlash
      cases hSlash
    rw [path?_of_slash hSize hSlash, pathOf?_plain hSome hChars, String.ofList_toList]
  have hMethod : Net.isMethodName "POST" = true := by decide
  have hName : Method.ofName "POST" = .post := by decide
  rw [Request.make?, hPath]
  simp [hMethod, hHeader, hName]

end Lookout.Admin
