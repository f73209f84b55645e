import Lookout.Proofs.Text.Percent
import Lookout.Proofs.Url.Plain
import Mathlib.Data.List.TakeWhile

set_option autoImplicit false

/-! # Seat and place

A URL of the web is written as its scheme, its seat, which is all that lies between the two
slashes and the path, and its place, the path. The seat alone decides where the URL leads; the
place gives the segments and nothing else. So a plain path that is joined to a URL takes the
place of its place, and leaves nothing of it. It is the same as written behind it only where
the place leads nowhere.
-/

namespace Lookout.Url

/-- A URL with a path, and nothing after it. -/
def atPath (u : Url) (segments : List String) : Url :=
  { u with path := .segments segments, query := none, fragment := none }

/-- What may stand between the two slashes and the path. -/
structure IsSeat (cs : List Char) : Prop where
  nonempty : cs ≠ []
  plain : ∀ c ∈ cs, 32 < c.toNat ∧ ¬ IsStroke c ∧ endsPath c = false

/-- A path as it is written in a URL, which may be left out. -/
structure IsPlace (cs : List Char) : Prop where
  rooted : cs = [] ∨ cs.head? = some '/'
  plain : ∀ c ∈ cs, 32 < c.toNat ∧ c ≠ '\\' ∧ endsPath c = false

/-- The segments a place is read as. -/
def segmentsOf (place : List Char) : List String :=
  (({} : Walk).steps .special (Text.split (isSlash .special) place.tail)).done.reverse

variable {u : Url}

theorem withPath_of_place {cs : List Char} (w : Walk) (hKind : schemeKind u.scheme = .special)
    (hPlain : ∀ c ∈ cs, endsPath c = false) :
    u.withPath w cs =
      u.atPath (w.steps .special (Text.split (isSlash .special) cs)).done.reverse := by
  have hTaken : cs.takeWhile (fun c => !endsPath c) = cs :=
    List.takeWhile_eq_self_iff.mpr fun c hc => by simp [hPlain c hc]
  have hLeft : cs.dropWhile (fun c => !endsPath c) = [] :=
    List.dropWhile_eq_nil_iff.mpr fun c hc => by simp [hPlain c hc]
  unfold withPath Walk.along
  dsimp only
  rw [hKind, hTaken, hLeft]
  rfl

theorem startPath_of_place {place : List Char} (hKind : schemeKind u.scheme = .special)
    (hPlace : IsPlace place) : u.startPath place = u.atPath (segmentsOf place) := by
  rcases hPlace.rooted with rfl | hRooted
  · have hStart : u.startPath [] = u.withPath {} [] := by simp [startPath, hKind]
    rw [hStart, withPath_of_place {} hKind (List.forall_mem_nil _)]
    rfl
  · obtain ⟨more, rfl⟩ := List.head?_eq_some_iff.mp hRooted
    have hStart : u.startPath ('/' :: more) = u.withPath {} more := by
      simp [startPath, isSlash]
    rw [hStart, withPath_of_place {} hKind fun c hc =>
      (hPlace.plain c (List.mem_cons_of_mem _ hc)).2.2]
    rfl

/-! ## The seat decides where a URL leads -/

theorem append_hostText (inBrackets : Bool) (cs : List Char) :
    (hostText inBrackets cs).1 ++ (hostText inBrackets cs).2 = cs := by
  fun_induction hostText inBrackets cs with
  | case1 => rfl
  | case2 => rfl
  | case3 _ c rest _ _ host left hRest ih =>
      rw [hRest] at ih
      rw [List.cons_append, ih]

/-- Without a backslash nothing is left of an authority. -/
theorem surplus_readHost {scheme : String} (hKind : schemeKind scheme = .special) {cs : List Char}
    {host : Host} {port : Option Nat} {surplus : List Char} (hPlain : ∀ c ∈ cs, c ≠ '\\')
    (h : readHost scheme cs = .ok (host, port, surplus)) : surplus = [] := by
  have hRest : ∀ c ∈ (hostText false cs).2, c ≠ '\\' := fun c hc =>
    hPlain c (by rw [← append_hostText false cs]; exact List.mem_append_right _ hc)
  unfold readHost at h
  simp only [hKind, bind, Except.bind, pure, Except.pure, true_and, reduceCtorEq, if_false] at h
  split at h
  · cases h
  · split at h
    · cases h
    · split at h
      next colon rest hSplit =>
        have hTaken : rest.takeWhile (· != '\\') = rest :=
          List.takeWhile_eq_self_iff.mpr fun c hc => by
            simpa using hRest c (hSplit ▸ List.mem_cons_of_mem colon hc)
        split at h
        · cases h
        · split at h
          · cases h
          · cases h
            rw [hTaken, List.drop_length]
      next => cases h; rfl

theorem atPath_atPath (u : Url) (segments segments' : List String) :
    (u.atPath segments).atPath segments' = u.atPath segments' := rfl

theorem isPlace_nil : IsPlace [] := ⟨.inl rfl, List.forall_mem_nil _⟩

/-- **What comes after the seat decides the path, and nothing else.** -/
theorem afterSlashes_seat {scheme : String} {seat place : List Char} (hWeb : IsWeb scheme)
    (hSeat : IsSeat seat) (hPlace : IsPlace place) :
    afterSlashes scheme (seat ++ place) =
      (afterSlashes scheme seat).map fun u => u.atPath (segmentsOf place) := by
  have hKind := schemeKind_of_isWeb hWeb
  have hInSeat : ∀ c ∈ seat, (!(isSlash .special c || endsPath c)) = true := fun c hc => by
    have hStroke := (hSeat.plain c hc).2.1
    simp only [IsStroke, not_or] at hStroke
    simp [isSlash, hStroke.1, hStroke.2, (hSeat.plain c hc).2.2]
  have hAlone : seat.takeWhile (fun c => !(isSlash .special c || endsPath c)) = seat :=
    List.takeWhile_eq_self_iff.mpr hInSeat
  have hFront : (seat ++ place).takeWhile (fun c => !(isSlash .special c || endsPath c)) = seat := by
    rw [List.takeWhile_append_of_pos hInSeat]
    rcases hPlace.rooted with rfl | hRooted
    · simp
    · obtain ⟨more, rfl⟩ := List.head?_eq_some_iff.mp hRooted
      simp [isSlash]
  have hBackPlain : ∀ c ∈ (seat.reverse.takeWhile (· != '@')).reverse, c ≠ '\\' := by
    rintro _ hc rfl
    have hMem := List.mem_reverse.mp ((List.takeWhile_sublist _).mem (List.mem_reverse.mp hc))
    exact (hSeat.plain _ hMem).2.1 (.inr rfl)
  unfold afterSlashes
  simp only [hKind, hFront, hAlone, List.drop_left, List.drop_length]
  generalize seat.reverse.takeWhile (· != '@') = back at hBackPlain ⊢
  generalize seat.take (seat.length - back.length - 1) = user
  generalize (if back.length < seat.length then readUserinfo user else ("", "")) = login
  have hSome : ¬ (back.length < seat.length ∧ user.isEmpty = true ∧ back.isEmpty = true ∧
      ¬ ([] : List Char).isEmpty = true) := fun h => h.2.2.2 rfl
  rw [if_neg hSome]
  split
  next hLone =>
    -- Nothing but an at sign: without a path, it is the missing host that is noticed.
    have hNoHost : readHost scheme back.reverse = .error .emptyHost := by
      simp [List.isEmpty_iff.mp hLone.2.2.1, readHost, hostText, hKind]
    rw [hNoHost]
    rfl
  next =>
    cases hHost : readHost scheme back.reverse with
    | error what => rfl
    | ok found =>
        obtain ⟨host, port, surplus⟩ := found
        obtain rfl := surplus_readHost hKind hBackPlain hHost
        simp only [bind, Except.bind, pure, Except.pure, List.nil_append]
        split
        · rfl
        · rw [startPath_of_place hKind hPlace, startPath_of_place hKind isPlace_nil]
          rfl

/-! ## URLs as they are written -/

/-- A scheme, a seat and a place, put together. -/
def written (scheme seat place : String) : String := scheme ++ "://" ++ seat ++ place

theorem toList_written (scheme seat place : String) :
    (written scheme seat place).toList =
      scheme.toList ++ ':' :: '/' :: '/' :: (seat.toList ++ place.toList) := by
  simp [written]

theorem scheme?_of_isWeb {scheme : String} (hWeb : IsWeb scheme) (rest : List Char) :
    scheme? (scheme.toList ++ ':' :: rest) = some (scheme, rest) := by
  obtain ⟨hLetters, hFirst, hSmall⟩ :
      (∀ c ∈ scheme.toList, (c.isAlphanum || "+-.".toList.contains c) = true) ∧
        (scheme.toList.head?.map Char.isAlpha).getD false = true ∧ scheme.toLower = scheme := by
    rcases hWeb with rfl | rfl <;>
      exact ⟨List.all_iff_forall_prop.mp (by decide +kernel), by decide +kernel⟩
  have hName : (scheme.toList ++ ':' :: rest).takeWhile
      (fun c => c.isAlphanum || "+-.".toList.contains c) = scheme.toList := by
    rw [List.takeWhile_append_of_pos hLetters]
    simp
  unfold scheme?
  dsimp only
  rw [hName, List.drop_left]
  simp [hFirst, hSmall]

theorem parse_written {scheme seat place : String} (hWeb : IsWeb scheme)
    (hSeat : IsSeat seat.toList) (hPlace : IsPlace place.toList) :
    parse (written scheme seat place) =
      (afterSlashes scheme seat.toList).map fun u => u.atPath (segmentsOf place.toList) := by
  have hVisible : ∀ c ∈ (written scheme seat place).toList, 32 < c.toNat := by
    intro c hc
    rw [toList_written] at hc
    have hScheme : ∀ c ∈ scheme.toList, 32 < c.toNat := by
      rcases hWeb with rfl | rfl <;> exact List.all_iff_forall_prop.mp (by decide)
    simp only [List.mem_append, List.mem_cons] at hc
    rcases hc with hc | rfl | rfl | rfl | hc | hc
    · exact hScheme c hc
    · decide
    · decide
    · decide
    · exact (hSeat.plain c hc).1
    · exact (hPlace.plain c hc).1
  obtain ⟨first, more, hFirst⟩ := List.exists_cons_of_ne_nil hSeat.nonempty
  have hNoSlash : ¬ IsStroke first := (hSeat.plain first (hFirst ▸ List.mem_cons_self)).2.1
  have hTwo : (('/' :: '/' :: (seat.toList ++ place.toList)).takeWhile
      fun c => c == '/' || c == '\\').length = 2 := by
    simp only [IsStroke, not_or] at hNoSlash
    simp [hFirst, hNoSlash.1, hNoSlash.2]
  unfold parse read
  dsimp only
  rw [trimmed_of_all_visible hVisible, solid_of_visible hVisible, toList_written,
    scheme?_of_isWeb hWeb]
  simp only [schemeKind_of_isWeb hWeb]
  rw [hTwo]
  exact afterSlashes_seat hWeb hSeat hPlace

/-! ## Plain paths as places -/

variable {segments : List (List Char)}

theorem plain_slashed (hPlain : ∀ s ∈ segments, IsPlainSegment s) :
    ∀ c ∈ slashed segments, 32 < c.toNat ∧ c ≠ '\\' ∧ endsPath c = false := by
  intro c hc
  simp only [slashed, List.mem_flatMap, List.mem_cons] at hc
  obtain ⟨s, hs, rfl | hc⟩ := hc
  · decide
  · obtain ⟨hVisible, -, -, hStroke, hEnds⟩ := kept_of_isUnreserved ((hPlain s hs).unreserved c hc)
    exact ⟨hVisible, fun h => hStroke (.inr h), hEnds⟩

theorem IsPlace.append_slashed {place : List Char} (h : IsPlace place)
    (hPlain : ∀ s ∈ segments, IsPlainSegment s) : IsPlace (place ++ slashed segments) where
  rooted := by
    rcases h.rooted with rfl | hRooted
    · cases segments with
      | nil => exact .inl rfl
      | cons s rest => exact .inr rfl
    · exact .inr (by rw [List.head?_append, hRooted]; rfl)
  plain := List.forall_mem_append.mpr ⟨h.plain, plain_slashed hPlain⟩

theorem isPlace_slashed (hPlain : ∀ s ∈ segments, IsPlainSegment s) : IsPlace (slashed segments) :=
  isPlace_nil.append_slashed hPlain

/-- The segments of a place on the way to somewhere below it. -/
def segmentsPast (place : List Char) : List String :=
  ((({} : Walk).past .special (Text.split (isSlash .special) place.tail)).done).reverse

/-- A plain path below a place: the segments on the way, and its own. -/
theorem segmentsOf_append_slashed {place : List Char} (hSome : place ≠ [])
    (hNonempty : segments ≠ []) (hPlain : ∀ s ∈ segments, IsPlainSegment s) :
    segmentsOf (place ++ slashed segments) =
      segmentsPast place ++ segments.map String.ofList := by
  unfold segmentsOf segmentsPast
  rw [List.tail_append_of_ne_nil hSome, split_append_slashed _ hPlain,
    steps_append _ _ _ hNonempty, steps_plain (by decide) _ hPlain]
  simp

/-- A plain path is the segments it is written with. -/
theorem segmentsOf_slashed (hNonempty : segments ≠ [])
    (hPlain : ∀ s ∈ segments, IsPlainSegment s) :
    segmentsOf (slashed segments) = segments.map String.ofList := by
  obtain ⟨s, rest, rfl⟩ := List.exists_cons_of_ne_nil hNonempty
  have hWhole : Text.split (isSlash .special) (s ++ slashed rest) = s :: rest := by
    rw [split_append_slashed _ fun t ht => hPlain t (List.mem_cons_of_mem s ht),
      split_plainSegment (hPlain s List.mem_cons_self), List.singleton_append]
  have hTail : (slashed (s :: rest)).tail = s ++ slashed rest := rfl
  unfold segmentsOf
  rw [hTail, hWhole, steps_plain (by decide) _ hPlain]
  simp

theorem text_slashed (segments : List (List Char)) :
    (Path.segments (segments.map String.ofList)).text = String.ofList (slashed segments) := by
  apply String.toList_injective
  simp [Path.text, slashed, String.toList_join, List.flatMap_map]

/-- **A plain path takes the place of that of the base.** -/
theorem join_slashed {base : Url} (hWeb : IsWeb base.scheme) (hBase : base.Hierarchical)
    (hNonempty : segments ≠ []) (hPlain : ∀ s ∈ segments, IsPlainSegment s) :
    base.join (String.ofList (slashed segments)) =
      .ok (base.atPath (segments.map String.ofList)) := by
  obtain ⟨s, rest, rfl⟩ := List.exists_cons_of_ne_nil hNonempty
  have hFirst := hPlain s List.mem_cons_self
  obtain ⟨c, more, rfl⟩ := List.exists_cons_of_ne_nil hFirst.nonempty
  obtain ⟨-, -, -, hStroke, -⟩ := kept_of_isUnreserved (hFirst.unreserved c List.mem_cons_self)
  have hText : slashed ((c :: more) :: rest) = '/' :: c :: (more ++ slashed rest) := rfl
  have hChars := plain_slashed hPlain
  have hVisible : ∀ d ∈ slashed ((c :: more) :: rest), 32 < d.toNat := fun d hd => (hChars d hd).1
  have hWay : ∀ d ∈ c :: (more ++ slashed rest), endsPath d = false := fun d hd =>
    (hChars d (hText ▸ List.mem_cons_of_mem '/' hd)).2.2
  rw [join_slash hWeb hBase (by rw [String.toList_ofList, hText]; rfl),
    trimmed_of_all_visible (by rwa [String.toList_ofList]), String.toList_ofList,
    solid_of_visible hVisible, hText, readRelative_slash, if_neg hStroke,
    withPath_of_place {} (schemeKind_of_isWeb hWeb) hWay, ← segmentsOf_slashed hNonempty hPlain]
  rfl

/-! ## A plain path written behind a place -/

/-- A text without its last slash. -/
def withoutSlash (cs : List Char) : List Char :=
  if cs.getLast? = some '/' then cs.dropLast else cs

theorem withoutSlash_append {xs ys : List Char} (h : ys = [] → xs.getLast? ≠ some '/') :
    withoutSlash (xs ++ ys) = xs ++ withoutSlash ys := by
  cases ys with
  | nil => simp [withoutSlash, h rfl]
  | cons y ys =>
      have hLast : (xs ++ y :: ys).getLast? = (y :: ys).getLast? := by
        rw [List.getLast?_append, List.getLast?_cons]
        rfl
      unfold withoutSlash
      rw [hLast, apply_ite (xs ++ ·), List.dropLast_append_of_ne_nil (List.cons_ne_nil y ys)]

/-- A last step leads nowhere exactly if nothing is left when the same step is not the last. -/
theorem step_last_iff (w : Walk) {segment : List Char} (hNonempty : segment ≠ [])
    (hVisible : ∀ c ∈ segment, 32 < c.toNat) :
    (w.step .special false segment).done = [] ↔ (w.step .special true segment).done = [""] := by
  have hSegment := Text.percentEncode_ne_empty inPath hNonempty
  unfold Walk.step
  simp only [solid_of_visible hVisible]
  split
  · simp
  · split
    · simp
    · simp [hSegment]

theorem past_concat (kind : SchemeKind) (w : Walk) (segments : List (List Char))
    (segment : List Char) :
    w.past kind (segments ++ [segment]) = (w.past kind segments).step kind false segment := by
  rw [Walk.past, List.foldl_append]
  rfl

theorem step_empty (w : Walk) : w.step .special true [] = { w with done := "" :: w.done } := by
  have hEmpty : Text.percentEncode inPath [] = "" := rfl
  have hNotStep : isDoubleDot "" = false ∧ isDot "" = false := by decide +kernel
  unfold Walk.step
  simp [solid, hEmpty, hNotStep]

/-- A slash at the end of a place adds an empty segment. -/
theorem segmentsOf_concat_slash (front : List Char) :
    segmentsOf ('/' :: (front ++ ['/'])) = segmentsPast ('/' :: front) ++ [""] := by
  have hSplit : Text.split (isSlash .special) (front ++ ['/']) =
      Text.split (isSlash .special) front ++ [[]] := Text.split_append_cons rfl front []
  unfold segmentsOf segmentsPast
  rw [List.tail_cons, List.tail_cons, hSplit, steps_append _ _ _ (List.cons_ne_nil _ _), Walk.steps,
    step_empty]
  simp

/-- Without one, the last segment has a say in whether a place leads anywhere. -/
theorem segmentsOf_concat_iff {front : List Char} {c : Char} (hPlain : isSlash .special c = false)
    (hVisible : ∀ d ∈ front ++ [c], 32 < d.toNat) :
    segmentsOf ('/' :: (front ++ [c])) = [""] ↔ segmentsPast ('/' :: (front ++ [c])) = [] := by
  obtain ⟨pieces, last, hSplit, hPart⟩ := Text.split_concat hPlain front
  obtain ⟨hFront, hEnd⟩ := List.forall_mem_append.mp hVisible
  have hLast : ∀ d ∈ last ++ [c], 32 < d.toNat :=
    List.forall_mem_append.mpr ⟨fun d hd => hFront d (hPart d hd), hEnd⟩
  have hStep := step_last_iff (({} : Walk).past .special pieces) (by simp) hLast
  unfold segmentsOf segmentsPast
  rw [List.tail_cons, hSplit, steps_append _ _ _ (List.cons_ne_nil _ _), Walk.steps, past_concat,
    List.reverse_eq_nil_iff, hStep, List.reverse_eq_iff, List.reverse_singleton]

/-- A place leads nowhere exactly if nothing is on the way to what is below it. -/
theorem segmentsOf_eq_root_iff {place : List Char} (hPlace : IsPlace place) :
    segmentsOf place = [""] ↔ withoutSlash place = [] ∨ segmentsPast (withoutSlash place) = [] := by
  rcases hPlace.rooted with rfl | hRooted
  · have hRoot : segmentsOf [] = [""] := by decide +kernel
    simp [hRoot, withoutSlash]
  obtain ⟨more, rfl⟩ := List.head?_eq_some_iff.mp hRooted
  rcases List.eq_nil_or_concat more with rfl | ⟨front, c, rfl⟩
  · have hRoot : segmentsOf ['/'] = [""] := by decide +kernel
    simp [hRoot, withoutSlash]
  rw [List.concat_eq_append] at hPlace ⊢
  have hLast : ('/' :: (front ++ [c])).getLast? = some c := by
    rw [← List.cons_append, List.getLast?_concat]
  by_cases hSlash : c = '/'
  · subst hSlash
    have hFront : withoutSlash ('/' :: (front ++ ['/'])) = '/' :: front := by
      rw [withoutSlash, if_pos hLast, ← List.cons_append, List.dropLast_concat]
    rw [hFront, segmentsOf_concat_slash]
    simp
  · have hWhole : withoutSlash ('/' :: (front ++ [c])) = '/' :: (front ++ [c]) := by
      rw [withoutSlash, if_neg (by rw [hLast]; simpa using hSlash)]
    have hPlain : isSlash .special c = false := by
      have hBackslash := (hPlace.plain c (by simp)).2.1
      simp [isSlash, hSlash, hBackslash]
    rw [hWhole, segmentsOf_concat_iff hPlain fun d hd =>
      (hPlace.plain d (List.mem_cons_of_mem '/' hd)).1]
    simp

theorem IsPlace.withoutSlash {place : List Char} (h : IsPlace place) :
    IsPlace (withoutSlash place) where
  rooted := by
    unfold Url.withoutSlash
    split
    · rcases h.rooted with rfl | hRooted
      · exact .inl rfl
      · obtain ⟨more, rfl⟩ := List.head?_eq_some_iff.mp hRooted
        cases more with
        | nil => exact .inl rfl
        | cons c more => exact .inr rfl
    · exact h.rooted
  plain := by
    unfold Url.withoutSlash
    split
    · exact fun c hc => h.plain c ((List.dropLast_sublist place).mem hc)
    · exact h.plain

/-- Only the place of a URL can end with a slash. -/
theorem withoutSlash_written {scheme seat place : String} (hSeat : IsSeat seat.toList)
    (more : List Char) :
    String.ofList (withoutSlash (written scheme seat place).toList ++ more) =
      written scheme seat (String.ofList (withoutSlash place.toList ++ more)) := by
  have hLast : (scheme.toList ++ ':' :: '/' :: '/' :: seat.toList).getLast? ≠ some '/' := by
    obtain ⟨front, c, hSplit⟩ := List.eq_nil_or_concat seat.toList |>.resolve_left hSeat.nonempty
    have hStroke := (hSeat.plain c (by simp [hSplit])).2.1
    rw [hSplit, List.concat_eq_append, ← List.cons_append, ← List.cons_append, ← List.cons_append,
      ← List.append_assoc, List.getLast?_concat]
    rintro ⟨⟩
    exact hStroke (.inl rfl)
  have hText : (written scheme seat place).toList =
      (scheme.toList ++ ':' :: '/' :: '/' :: seat.toList) ++ place.toList := by
    rw [toList_written]
    simp
  apply String.toList_injective
  rw [hText, withoutSlash_append fun _ => hLast, toList_written]
  simp

theorem atPath_inj {xs ys : List String} : u.atPath xs = u.atPath ys ↔ xs = ys := by
  refine ⟨fun h => ?_, fun h => h ▸ rfl⟩
  injection congrArg Url.path h

/-- **Where a plain path leads from a URL as it is written.** It is read as if it stood right
behind the seat. It is also what stands behind the whole URL, less a slash at its end, exactly if
the place of the URL leads nowhere. -/
theorem join_written {scheme seat place : String} (hWeb : IsWeb scheme)
    (hSeat : IsSeat seat.toList) (hPlace : IsPlace place.toList) {base : Url}
    (hBase : parse (written scheme seat place) = .ok base) (hNonempty : segments ≠ [])
    (hPlain : ∀ s ∈ segments, IsPlainSegment s) :
    let url := base.atPath (segments.map String.ofList)
    base.join (String.ofList (slashed segments)) = .ok url ∧
      parse (written scheme seat (String.ofList (slashed segments))) = .ok url ∧
      (parse (String.ofList (withoutSlash (written scheme seat place).toList ++ slashed segments)) =
        .ok url ↔ base.path = .segments [""]) := by
  have hSegments := segmentsOf_slashed hNonempty hPlain
  -- The seat is read as some URL, whatever the place.
  rw [parse_written hWeb hSeat hPlace] at hBase
  cases hRead : afterSlashes scheme seat.toList with
  | error what =>
      rw [hRead] at hBase
      cases hBase
  | ok u =>
      rw [hRead] at hBase
      obtain rfl : u.atPath (segmentsOf place.toList) = base := Except.ok.inj hBase
      have hScheme : u.scheme = scheme := (afterSlashes_ok hRead).1
      have hParse : ∀ cs, IsPlace cs →
          parse (written scheme seat (String.ofList cs)) = .ok (u.atPath (segmentsOf cs)) := by
        intro cs hCs
        rw [parse_written hWeb hSeat (by rwa [String.toList_ofList]), hRead, String.toList_ofList]
        rfl
      refine ⟨join_slashed (hScheme ▸ hWeb) ⟨_, rfl⟩ hNonempty hPlain, ?_, ?_⟩
      · rw [hParse _ (isPlace_slashed hPlain), hSegments]
        rfl
      · have hRoot : (u.atPath (segmentsOf place.toList)).path = .segments [""] ↔
            segmentsOf place.toList = [""] := ⟨fun h => by injection h, fun h => congrArg _ h⟩
        rw [withoutSlash_written hSeat, hParse _ (hPlace.withoutSlash.append_slashed hPlain), hRoot,
          segmentsOf_eq_root_iff hPlace, Except.ok.injEq, atPath_atPath, atPath_inj]
        by_cases hLeft : withoutSlash place.toList = []
        · simp [hLeft, hSegments]
        · rw [segmentsOf_append_slashed hLeft hNonempty hPlain, List.append_left_eq_self]
          simp [hLeft]

end Lookout.Url
