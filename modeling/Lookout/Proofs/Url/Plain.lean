import Mathlib.Data.Bool.AllAny
import Lookout.Proofs.Url.Join

set_option autoImplicit false

/-! # Plain paths

A plain path consists of segments, each after a slash, that are read as they are written: of
unreserved characters only, and none of them empty or a step. A walk along a plain path adds
just these segments to what it has come by, wherever it begins.
-/

namespace Lookout.Url

/-! ## Texts that are read as they are written -/

theorem solid_of_visible {cs : List Char} (hVisible : ∀ c ∈ cs, 32 < c.toNat) : solid cs = cs := by
  induction cs with
  | nil => rfl
  | cons c rest ih =>
      rw [solid_cons_of_visible rest (hVisible c List.mem_cons_self),
        ih fun d hd => hVisible d (List.mem_cons_of_mem c hd)]

theorem trimmed_of_all_visible {s : String} (hVisible : ∀ c ∈ s.toList, 32 < c.toNat) :
    trimmed s = s.toList := by
  have hKept : ∀ cs : List Char, (∀ c ∈ cs, 32 < c.toNat) →
      cs.dropWhile (fun c => decide (c.toNat ≤ 32)) = cs := by
    intro cs h
    cases cs with
    | nil => rfl
    | cons c rest => simp [h c List.mem_cons_self]
  unfold trimmed
  dsimp only
  rw [hKept _ hVisible, hKept _ fun c hc => hVisible c (List.mem_reverse.mp hc),
    List.reverse_reverse]

/-- A character that stands for itself wherever it is in a URL. -/
def IsUnreserved (c : Char) : Prop := c.isAlphanum ∨ c ∈ "-._~".toList

instance : DecidablePred IsUnreserved := fun _ => inferInstanceAs (Decidable (_ ∨ _))

theorem ascii_of_isUnreserved {c : Char} (h : IsUnreserved c) : c.toNat < 128 := by
  rcases h with h | h
  · have hCase : c.isAlphanum = (decide (c.val ≥ 'A'.val ∧ c.val ≤ 'Z'.val)
        || (decide (c.val ≥ 'a'.val) && decide (c.val ≤ 'z'.val))
        || (decide (c.val ≥ '0'.val) && decide (c.val ≤ '9'.val))) := rfl
    simp only [hCase, Bool.or_eq_true, Bool.and_eq_true, decide_eq_true_eq, ge_iff_le,
      UInt32.le_iff_toNat_le] at h
    have hNat : c.toNat = c.val.toNat := rfl
    have hUpper : 'Z'.val.toNat = 90 := rfl
    have hLower : 'z'.val.toNat = 122 := rfl
    have hDigit : '9'.val.toNat = 57 := rfl
    omega
  · have hAll : ∀ d ∈ "-._~".toList, d.toNat < 128 := List.all_iff_forall_prop.mp (by decide)
    exact hAll c h

/-- What is checked for the unreserved ASCII characters is true of all unreserved ones. -/
theorem forall_isUnreserved {p : Char → Prop}
    (hAscii : ∀ n < 128, IsUnreserved (Char.ofNat n) → p (Char.ofNat n)) {c : Char}
    (h : IsUnreserved c) : p c := by
  have hCode := hAscii c.toNat (ascii_of_isUnreserved h)
  rw [Char.ofNat_toNat] at hCode
  exact hCode h

theorem kept_of_isUnreserved {c : Char} (h : IsUnreserved c) :
    32 < c.toNat ∧ inPath c = false ∧ c.toLower ≠ '%' ∧ ¬ IsStroke c ∧ endsPath c = false :=
  forall_isUnreserved (p := fun c => 32 < c.toNat ∧ inPath c = false ∧ c.toLower ≠ '%' ∧
    ¬ IsStroke c ∧ endsPath c = false) (by decide +kernel) h

/-- A segment that is read as it is written, and is no step. -/
structure IsPlainSegment (segment : List Char) : Prop where
  nonempty : segment ≠ []
  unreserved : ∀ c ∈ segment, IsUnreserved c
  stays : segment ≠ ['.'] ∧ segment ≠ ['.', '.']

instance : DecidablePred IsPlainSegment := fun segment =>
  -- The characters of the segment are checked, not all that there are.
  letI : Decidable (∀ c ∈ segment, IsUnreserved c) := List.decidableBAll IsUnreserved segment
  decidable_of_iff (segment ≠ [] ∧ (∀ c ∈ segment, IsUnreserved c) ∧
      segment ≠ ['.'] ∧ segment ≠ ['.', '.'])
    ⟨fun ⟨hNonempty, hUnreserved, hStays⟩ => ⟨hNonempty, hUnreserved, hStays⟩,
      fun h => ⟨h.nonempty, h.unreserved, h.stays⟩⟩

/-- Segments, each after a slash. -/
def slashed (segments : List (List Char)) : List Char := segments.flatMap ('/' :: ·)

/-- A path of plain segments. -/
def IsPlainPath (cs : List Char) : Prop :=
  ∃ segments ≠ [], (∀ s ∈ segments, IsPlainSegment s) ∧ cs = slashed segments

/-! ## Walking along a plain path -/

theorem percentEncode_of_unreserved {cs : List Char} (h : ∀ c ∈ cs, IsUnreserved c) :
    Text.percentEncode inPath cs = String.ofList cs := by
  have hChars : cs.map (Text.percentChar inPath) = cs.map String.singleton :=
    List.map_congr_left fun c hc => by
      have hAscii := ascii_of_isUnreserved (h c hc)
      have hKept := (kept_of_isUnreserved (h c hc)).2.1
      simp [Text.percentChar, hAscii, hKept]
  rw [Text.percentEncode, hChars]
  apply String.toList_injective
  simp [String.toList_join, List.flatMap_map]

/-- A plain segment is no step, in whichever way steps are written. -/
theorem not_step_of_isPlainSegment {segment : List Char} (h : IsPlainSegment segment) :
    isDoubleDot (String.ofList segment) = false ∧ isDot (String.ofList segment) = false := by
  have hNoEscape : ∀ t : String, '%' ∈ t.toList → ((String.ofList segment).toLower == t) = false := by
    intro t ht
    rw [beq_eq_false_iff_ne]
    rintro rfl
    have hMap : (String.ofList segment).toLower = (String.ofList segment).map Char.toLower := rfl
    simp only [hMap, String.toList_map, String.toList_ofList, List.mem_map] at ht
    obtain ⟨c, hc, hLower⟩ := ht
    exact (kept_of_isUnreserved (h.unreserved c hc)).2.2.1 hLower
  have hNotDot : (String.ofList segment == ".") = false := by
    rw [beq_eq_false_iff_ne]
    intro hDot
    exact h.stays.1 (by rw [← String.toList_ofList (l := segment), hDot]; rfl)
  have hNotDots : (String.ofList segment == "..") = false := by
    rw [beq_eq_false_iff_ne]
    intro hDots
    exact h.stays.2 (by rw [← String.toList_ofList (l := segment), hDots]; rfl)
  unfold isDoubleDot isDot
  rw [hNotDot, hNotDots, hNoEscape _ (by decide), hNoEscape _ (by decide),
    hNoEscape _ (by decide), hNoEscape _ (by decide)]
  exact ⟨rfl, rfl⟩

theorem step_plain {kind : SchemeKind} (hKind : kind ≠ .file) (last : Bool) (w : Walk)
    {segment : List Char} (h : IsPlainSegment segment) :
    w.step kind last segment = { w with done := String.ofList segment :: w.done } := by
  have hSolid : solid segment = segment :=
    solid_of_visible fun c hc => (kept_of_isUnreserved (h.unreserved c hc)).1
  obtain ⟨hNotUp, hNotHere⟩ := not_step_of_isPlainSegment h
  unfold Walk.step
  dsimp only
  rw [hSolid, percentEncode_of_unreserved h.unreserved, hNotUp, hNotHere]
  simp [hKind]

/-- A walk along segments that are not the last ones. -/
def Walk.past (kind : SchemeKind) (w : Walk) (segments : List (List Char)) : Walk :=
  segments.foldl (fun w s => w.step kind false s) w

theorem steps_append (kind : SchemeKind) (w : Walk) (xs : List (List Char)) {ys : List (List Char)}
    (hLater : ys ≠ []) : w.steps kind (xs ++ ys) = (w.past kind xs).steps kind ys := by
  induction xs generalizing w with
  | nil => rfl
  | cons x xs ih =>
      obtain ⟨y, rest, hMore⟩ := List.exists_cons_of_ne_nil
        (List.append_ne_nil_of_right_ne_nil xs hLater)
      rw [List.cons_append, hMore, Walk.steps, ← hMore, ih]
      rfl

/-- Plain segments are added to those a walk has come by. -/
theorem steps_plain {kind : SchemeKind} (hKind : kind ≠ .file) (w : Walk)
    {segments : List (List Char)} (hPlain : ∀ s ∈ segments, IsPlainSegment s) :
    w.steps kind segments =
      { w with done := (segments.map String.ofList).reverse ++ w.done } := by
  fun_induction Walk.steps kind w segments with
  | case1 w => rfl
  | case2 w s => rw [step_plain hKind _ _ (hPlain s List.mem_cons_self)]; rfl
  | case3 w s t rest ih =>
      rw [ih fun r hr => hPlain r (List.mem_cons_of_mem s hr),
        step_plain hKind _ _ (hPlain s List.mem_cons_self)]
      simp

/-! ## Splitting a plain path -/

theorem split_plainSegment {segment : List Char} (h : IsPlainSegment segment) :
    Text.split (isSlash .special) segment = [segment] := by
  refine Text.split_of_no_separator fun c hc => ?_
  have hStroke := (kept_of_isUnreserved (h.unreserved c hc)).2.2.2.1
  simpa [IsStroke, isSlash] using hStroke

/-- What comes before a plain path, and its segments. -/
theorem split_append_slashed (front : List Char) {segments : List (List Char)}
    (hPlain : ∀ s ∈ segments, IsPlainSegment s) :
    Text.split (isSlash .special) (front ++ slashed segments) =
      Text.split (isSlash .special) front ++ segments := by
  induction segments generalizing front with
  | nil => simp [slashed]
  | cons s segments ih =>
      have hNext := ih s fun t ht => hPlain t (List.mem_cons_of_mem s ht)
      rw [split_plainSegment (hPlain s List.mem_cons_self)] at hNext
      calc Text.split (isSlash .special) (front ++ slashed (s :: segments))
          = Text.split (isSlash .special) (front ++ '/' :: (s ++ slashed segments)) := rfl
        _ = Text.split (isSlash .special) front
              ++ Text.split (isSlash .special) (s ++ slashed segments) :=
            Text.split_append_cons rfl _ _
        _ = Text.split (isSlash .special) front ++ s :: segments := by
            rw [hNext, List.singleton_append]

end Lookout.Url
