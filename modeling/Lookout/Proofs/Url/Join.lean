import Lookout.Url.Reader

set_option autoImplicit false

/-! # Where a relative reference leads

A reference that begins with a slash takes scheme, host and port from the base it is joined
to, unless a second slash follows. Then it names a host itself: it is a network path, and
nothing but the scheme of the base matters. What counts as a slash is what the reader takes
for one, so a backslash does too, and blanks around the reference and tabs and line ends
within it are not seen.
-/

namespace Lookout.Url

/-! ## What is kept while the rest of a text is read -/

/-- A URL whose path consists of segments. -/
def Hierarchical (u : Url) : Prop := ∃ segments, u.path = .segments segments

/-- `v` leads where `u` leads, whatever its path and query. -/
structure SameOrigin (u v : Url) : Prop where
  origin : v.origin = u.origin
  hierarchical : v.Hierarchical

variable {u v : Url}

theorem SameOrigin.scheme (h : u.SameOrigin v) : v.scheme = u.scheme := congrArg Prod.fst h.origin

theorem kept_withTail (u : Url) (cs : List Char) :
    (u.withTail cs).origin = u.origin ∧ (u.withTail cs).path = u.path := by
  unfold withTail
  split
  · dsimp only
    split <;> exact ⟨rfl, rfl⟩
  · exact ⟨rfl, rfl⟩
  · exact ⟨rfl, rfl⟩

theorem SameOrigin.withTail (h : u.SameOrigin v) (cs : List Char) :
    u.SameOrigin (v.withTail cs) where
  origin := (kept_withTail v cs).1.trans h.origin
  hierarchical := by
    rw [Hierarchical, (kept_withTail v cs).2]
    exact h.hierarchical

theorem exists_walk_path (kind : SchemeKind) (w : Walk) :
    ∃ segments, w.path kind = .segments segments := by
  unfold Walk.path
  dsimp only
  split
  · split <;> exact ⟨_, rfl⟩
  · exact ⟨_, rfl⟩

theorem sameOrigin_withPath (u : Url) (w : Walk) (cs : List Char) :
    u.SameOrigin (u.withPath w cs) := by
  have hWalked : u.SameOrigin
      { u with path := (w.along (schemeKind u.scheme) cs).path (schemeKind u.scheme) } :=
    ⟨rfl, exists_walk_path _ _⟩
  exact hWalked.withTail _

theorem sameOrigin_startPath (u : Url) (cs : List Char) : u.SameOrigin (u.startPath cs) := by
  have hNoPath : u.SameOrigin { u with path := .segments [] } := ⟨rfl, ⟨[], rfl⟩⟩
  unfold startPath
  dsimp only
  split
  · split
    · exact hNoPath
    · exact sameOrigin_withPath ..
  · split
    · exact sameOrigin_withPath ..
    · split
      · exact hNoPath.withTail _
      · exact sameOrigin_withPath ..

/-- What follows two slashes is a host, and then a path. -/
theorem afterSlashes_ok {scheme : String} {cs : List Char} (h : afterSlashes scheme cs = .ok u) :
    u.scheme = scheme ∧ u.Hierarchical := by
  have hStart : ∃ (v : Url) (rest : List Char), v.scheme = scheme ∧ u = v.startPath rest := by
    unfold afterSlashes at h
    simp only [bind, Except.bind, pure, Except.pure] at h
    split at h
    · cases h
    · split at h
      · cases h
      · split at h
        all_goals
          split at h
          · cases h
          · exact ⟨_, _, rfl, (Except.ok.inj h).symm⟩
  obtain ⟨v, rest, rfl, rfl⟩ := hStart
  exact ⟨(sameOrigin_startPath v rest).scheme, (sameOrigin_startPath v rest).hierarchical⟩

/-! ## URLs of the web -/

/-- Whether a scheme is one of the web. -/
def IsWeb (scheme : String) : Prop := scheme = "http" ∨ scheme = "https"

theorem schemeKind_of_isWeb {scheme : String} (h : IsWeb scheme) :
    schemeKind scheme = .special := by
  rcases h with rfl | rfl <;> decide

theorem hierarchical_fileAtHost {cs : List Char} (h : fileAtHost cs = .ok u) :
    u.Hierarchical := by
  unfold fileAtHost at h
  simp only [bind, Except.bind, pure, Except.pure] at h
  split at h
  · exact Except.ok.inj h ▸ (sameOrigin_withPath ..).hierarchical
  · split at h
    · -- There is no host to read.
      split at h
      · exact Except.ok.inj h ▸ (sameOrigin_withPath ..).hierarchical
      · exact Except.ok.inj h ▸ (sameOrigin_startPath ..).hierarchical
    · split at h
      · cases h
      · split at h
        · exact Except.ok.inj h ▸ (sameOrigin_withPath ..).hierarchical
        · exact Except.ok.inj h ▸ (sameOrigin_startPath ..).hierarchical

theorem hierarchical_readFile {cs : List Char} (h : readFile none cs = .ok u) :
    u.Hierarchical := by
  have hRoot : ∀ rest, (fileAtRoot none rest).Hierarchical := by
    intro rest
    unfold fileAtRoot
    split <;> exact (sameOrigin_withPath ..).hierarchical
  have hBeside : ∀ rest, (fileBeside none rest).Hierarchical := fun rest =>
    (sameOrigin_withPath localFile {} rest).hierarchical
  unfold readFile at h
  split at h
  · exact Except.ok.inj h ▸ hBeside []
  · split at h
    · split at h
      · exact Except.ok.inj h ▸ hRoot _
      · split at h
        · exact hierarchical_fileAtHost h
        · exact Except.ok.inj h ▸ hRoot _
    · exact Except.ok.inj h ▸ hBeside cs

theorem scheme_readOther {scheme : String} {cs : List Char} (h : readOther scheme cs = .ok u) :
    u.scheme = scheme := by
  unfold readOther at h
  split at h
  · exact (afterSlashes_ok h).1
  · exact Except.ok.inj h ▸ (sameOrigin_withPath ..).scheme
  · exact Except.ok.inj h ▸ congrArg Prod.fst (kept_withTail _ _).1

/-- A URL of the web, read on its own, has a path of segments. -/
theorem hierarchical_of_parse {s : String} (h : parse s = .ok u) (hWeb : IsWeb u.scheme) :
    u.Hierarchical := by
  unfold parse read at h
  dsimp only at h
  split at h
  case h_1 scheme rest _ =>
    split at h
    · exact hierarchical_readFile h
    · exact (afterSlashes_ok h).2
    · rename_i hKind
      rw [← scheme_readOther h, schemeKind_of_isWeb hWeb] at hKind
      cases hKind
  case h_2 => cases h

/-! ## References that begin with a slash -/

/-- What the reader takes for a slash. -/
def IsStroke (c : Char) : Prop := c = '/' ∨ c = '\\'

instance : DecidablePred IsStroke := fun _ => inferInstanceAs (Decidable (_ ∨ _))

/-- Whether a reference names a host: what the reader sees of it begins with two slashes. -/
def IsNetworkPath (s : String) : Prop :=
  ∃ c d rest, solid (trimmed s) = c :: d :: rest ∧ IsStroke c ∧ IsStroke d

/-- Trimming leaves what lies between two characters that are no blanks. -/
theorem trimmed_of_visible {s : String} (front : List Char) {rest : List Char} {c : Char}
    (hText : s.toList = front ++ c :: rest) (hFront : ∀ d ∈ front.head?, 32 < d.toNat)
    (hVisible : 32 < c.toNat) : ∃ more, trimmed s = front ++ c :: more := by
  have hStart : (front ++ c :: rest).dropWhile (fun d => decide (d.toNat ≤ 32))
      = front ++ c :: rest := by
    cases front with
    | nil => simp [hVisible]
    | cons d front => simp [hFront d rfl]
  have hEnd : (rest.reverse ++ c :: front.reverse).dropWhile (fun d => decide (d.toNat ≤ 32))
      = rest.reverse.dropWhile (fun d => decide (d.toNat ≤ 32)) ++ c :: front.reverse := by
    rw [List.dropWhile_append]
    split
    next hBlank => simp [List.isEmpty_iff.mp hBlank, hVisible]
    next => rfl
  refine ⟨(rest.reverse.dropWhile fun d => decide (d.toNat ≤ 32)).reverse, ?_⟩
  have hReverse : (front ++ c :: rest).reverse = rest.reverse ++ c :: front.reverse := by simp
  unfold trimmed
  dsimp only
  rw [hText, hStart, hReverse, hEnd]
  simp

theorem solid_cons_of_visible {c : Char} (cs : List Char) (hVisible : 32 < c.toNat) :
    solid (c :: cs) = c :: solid cs := by
  have hGap : isGap c = false := by
    unfold isGap
    rw [Bool.or_eq_false_iff, Bool.or_eq_false_iff]
    refine ⟨⟨?_, ?_⟩, ?_⟩
    all_goals
      rw [beq_eq_false_iff_ne]
      rintro rfl
      exact absurd hVisible (by decide)
  simp [solid, hGap]

/-- What the reader sees of a reference that begins with a slash begins with it. -/
theorem exists_solid_of_slash {s : String} (hSlash : s.toList.head? = some '/') :
    ∃ rest, solid (trimmed s) = '/' :: rest := by
  obtain ⟨cs, hText⟩ := List.head?_eq_some_iff.mp hSlash
  obtain ⟨more, hMore⟩ := trimmed_of_visible [] hText (by simp) (by decide)
  exact ⟨solid more, by rw [hMore, List.nil_append, solid_cons_of_visible _ (by decide)]⟩

/-- A second character that is seen, and is no slash, keeps a reference from naming a host. -/
theorem not_isNetworkPath {s : String} {d : Char} {rest : List Char}
    (hText : s.toList = '/' :: d :: rest) (hVisible : 32 < d.toNat) (hPlain : ¬ IsStroke d) :
    ¬ IsNetworkPath s := by
  obtain ⟨more, hMore⟩ := trimmed_of_visible ['/'] hText (by simp) hVisible
  rintro ⟨c, d', rest', hSolid, -, hStroke⟩
  rw [hMore, List.singleton_append, solid_cons_of_visible _ (by decide),
    solid_cons_of_visible _ hVisible] at hSolid
  obtain ⟨-, rfl, -⟩ : '/' = c ∧ d = d' ∧ solid more = rest' := by simpa using hSolid
  exact hPlain hStroke

/-- **A base of the web, and a reference that begins with a slash.** -/
theorem join_slash {base : Url} {s : String} (hWeb : IsWeb base.scheme)
    (hBase : base.Hierarchical) (hSlash : s.toList.head? = some '/') :
    base.join s = base.readRelative (solid (trimmed s)) := by
  obtain ⟨rest, hRest⟩ := exists_solid_of_slash hSlash
  obtain ⟨segments, hPath⟩ := hBase
  have hNoScheme : scheme? ('/' :: rest) = none := by simp [scheme?]
  have hNoFile : base.scheme ≠ "file" := by
    rcases hWeb with h | h <;> rw [h] <;> decide
  unfold join read
  dsimp only
  rw [hRest, hNoScheme, hPath]
  simp [hNoFile]

theorem readRelative_slash (base : Url) (d : Char) (more : List Char) :
    base.readRelative ('/' :: d :: more) =
      if IsStroke d then
        afterSlashes base.scheme (if '/' = '/' ∧ d = '/' then more
          else more.dropWhile fun x => x == '/' || x == '\\')
      else .ok (base.withPath {} (d :: more)) := rfl

/-- A reference that begins with a slash and names no host leads to the host of the base. -/
theorem sameOrigin_of_join {base : Url} {s : String} (hWeb : IsWeb base.scheme)
    (hBase : base.Hierarchical) (hSlash : s.toList.head? = some '/') (hHere : ¬ IsNetworkPath s) :
    ∃ url, base.join s = .ok url ∧ base.SameOrigin url := by
  rw [join_slash hWeb hBase hSlash]
  obtain ⟨rest, hRest⟩ := exists_solid_of_slash hSlash
  rw [hRest]
  cases rest with
  | nil => exact ⟨_, rfl, sameOrigin_withPath ..⟩
  | cons d more =>
      have hPlain : ¬ IsStroke d := fun hStroke => hHere ⟨_, _, _, hRest, .inl rfl, hStroke⟩
      rw [readRelative_slash, if_neg hPlain]
      exact ⟨_, rfl, sameOrigin_withPath ..⟩

/-- A reference that names a host leads there, whatever host the base is at. -/
theorem join_eq_of_isNetworkPath {base other : Url} {s : String} (hWeb : IsWeb base.scheme)
    (hBase : base.Hierarchical) (hOther : other.Hierarchical) (hScheme : other.scheme = base.scheme)
    (hSlash : s.toList.head? = some '/') (hAway : IsNetworkPath s) :
    other.join s = base.join s := by
  rw [join_slash hWeb hBase hSlash, join_slash (hScheme ▸ hWeb) hOther hSlash]
  obtain ⟨c, d, more, hSolid, -, hStroke⟩ := hAway
  obtain ⟨rest, hRest⟩ := exists_solid_of_slash hSlash
  obtain ⟨rfl, -⟩ := List.cons.inj (hSolid.symm.trans hRest)
  rw [hSolid, readRelative_slash, readRelative_slash, if_pos hStroke, if_pos hStroke, hScheme]

end Lookout.Url
