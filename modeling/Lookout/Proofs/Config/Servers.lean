import Lookout.Proofs.Config.Repair

set_option autoImplicit false

/-! # Which servers are kept

A server is dropped if there is nothing in its id but white space, or if a server before it that is
kept has its name. One without an id is dropped before anybody looks at its name, so it takes the name
from nobody: of the servers of one name, the first that has an id is the one that is kept.

`Keeps` says this of one place in the list, without following the repair from server to server, and
`Sifted`, which does follow it, is read place by place (`Sifted.kept_eq`, `Sifted.drops_eq`).
-/

namespace Lookout

/-! ## Blank ids -/

namespace Text

/-- What is left of a text when white space is trimmed off at both ends. -/
def trimmed (s : String) : List Char := (s.toList.dropWhile isBlank).rdropWhile isBlank

/-- A blank text is one of which nothing is left. -/
theorem isBlankText_iff_trimmed (s : String) : isBlankText s = true ↔ trimmed s = [] := by
  rw [isBlankText, trimmed, List.rdropWhile_eq_nil_iff]
  constructor
  · intro hBlank
    rw [List.dropWhile_eq_nil_iff.mpr (List.all_eq_true.mp hBlank)]
    exact nofun
  · intro hRest
    -- What comes first after the blanks in front would not be blank.
    have hNone : s.toList.dropWhile isBlank = [] := by
      by_contra hSome
      have hFirst := List.head_dropWhile_not isBlank hSome
      exact absurd (hRest _ (List.head_mem hSome)) (by simp [hFirst])
    exact List.all_eq_true.mpr (List.dropWhile_eq_nil_iff.mp hNone)

end Text

namespace Config

/-- A server that has an id. -/
def Server.HasId (s : Server) : Prop := Text.trimmed s.id ≠ []

instance : DecidablePred Server.HasId := fun _ => inferInstanceAs (Decidable (_ ≠ _))

theorem Server.hasId_iff {s : Server} : s.HasId ↔ Text.isBlankText s.id = false := by
  rw [HasId, ne_eq, ← Text.isBlankText_iff_trimmed, Bool.not_eq_true]

/-! ## One place of the list -/

/-- The server at a place of the list has an id, and none before it that has one has its name. -/
def Keeps (given : List Server) (k : Nat) : Prop :=
  ∃ s ∈ given[k]?, s.HasId ∧ ∀ t ∈ given.take k, t.HasId → t.name ≠ s.name

instance (given : List Server) : DecidablePred (Keeps given) := fun k =>
  inferInstanceAs (Decidable (∃ s ∈ given[k]?, _))

/-- The correction for a server that is dropped. -/
def dropping (s : Server) : Correction :=
  if s.HasId then .repeatedName s.name else .blankId s.name

/-- The first of the servers of a name that have an id is kept. -/
theorem exists_keeps {given : List Server} {j : Nat} {t : Server} (ht : given[j]? = some t)
    (hId : t.HasId) : ∃ i ≤ j, Keeps given i ∧ ∃ s, given[i]? = some s ∧ s.name = t.name := by
  induction j using Nat.strong_induction_on generalizing t with
  | _ j ih =>
      by_cases hFirst : ∀ u ∈ given.take j, u.HasId → u.name ≠ t.name
      · exact ⟨j, Nat.le_refl j, ⟨t, ht, hId, hFirst⟩, t, ht, rfl⟩
      · push Not at hFirst
        obtain ⟨u, hu, hIdU, hSame⟩ := hFirst
        obtain ⟨i, hi, hGet⟩ := List.mem_take_iff_getElem.mp hu
        have hLess : i < j := by omega
        have hAt : given[i]? = some u := by
          rw [List.getElem?_eq_getElem (by omega), hGet]
        obtain ⟨k, hk, hKeeps, s, hs, hName⟩ := ih i hLess hAt hIdU
        exact ⟨k, by omega, hKeeps, s, hs, hName.trans hSame⟩

/-- **What keeps a server** is that it has an id and that no server before it *that is kept* has its
name. -/
theorem keeps_iff {given : List Server} {k : Nat} :
    Keeps given k ↔ ∃ s, given[k]? = some s ∧ s.HasId ∧
      ∀ j < k, Keeps given j → ∀ t, given[j]? = some t → t.name ≠ s.name := by
  constructor
  · rintro ⟨s, hs, hId, hFirst⟩
    refine ⟨s, hs, hId, fun j hj ⟨t', ht', hIdT, _⟩ t ht => ?_⟩
    obtain rfl : t' = t := Option.some.inj (ht'.symm.trans ht)
    refine hFirst t' (List.mem_of_getElem? (i := j) ?_) hIdT
    rw [List.getElem?_take_of_lt hj, ht]
  · rintro ⟨s, hs, hId, hFirst⟩
    refine ⟨s, hs, hId, fun t ht hIdT hSame => ?_⟩
    obtain ⟨j, hj, hGet⟩ := List.mem_take_iff_getElem.mp ht
    have hAt : given[j]? = some t := by
      rw [List.getElem?_eq_getElem (by omega), hGet]
    obtain ⟨i, hi, hKeeps, u, hu, hName⟩ := exists_keeps hAt hIdT
    exact hFirst i (by omega) hKeeps u hu (hName.trans hSame)

/-! ## The whole list -/

namespace Sifted

variable {before given kept : List Server} {drops : List Correction} {s : Server}

/-- The server after those of `before`. -/
theorem keeps_next (before rest : List Server) (s : Server) :
    Keeps (before.reverse ++ s :: rest) before.length ↔ s.HasId ∧ ¬ s.Namesake before := by
  have hAt : (before.reverse ++ s :: rest)[before.length]? = some s := by
    rw [List.getElem?_append_right (by simp)]
    simp
  have hTake : (before.reverse ++ s :: rest).take before.length = before.reverse := by
    rw [List.take_append_of_le_length (by simp), List.take_of_length_le (by simp)]
  rw [Keeps, hAt, hTake]
  simp [Server.Namesake, Server.hasId_iff]

/-- **Place by place**: the servers that are kept, in their order, and those that are dropped, in
theirs and each with its correction. -/
theorem places (h : Sifted before given kept drops) :
    kept = ((given.zipIdx before.length).filter fun x => Keeps (before.reverse ++ given) x.2).map
        Prod.fst ∧
      drops = ((given.zipIdx before.length).filter fun x => ¬ Keeps (before.reverse ++ given) x.2).map
        fun x => dropping x.1 := by
  induction h with
  | done => exact ⟨rfl, rfl⟩
  | @keep before rest kept s drops hId hName _ ih =>
      have hKeeps : Keeps (before.reverse ++ s :: rest) before.length :=
        (keeps_next before rest s).mpr ⟨Server.hasId_iff.mpr hId, hName⟩
      simpa [List.zipIdx_cons, hKeeps] using ih
  | @blank before rest kept s drops hId _ ih =>
      have hNone : ¬ s.HasId := by simp [Server.hasId_iff, hId]
      have hKeeps : ¬ Keeps (before.reverse ++ s :: rest) before.length :=
        fun h => hNone ((keeps_next before rest s).mp h).1
      simpa [List.zipIdx_cons, hKeeps, dropping, hNone] using ih
  | @again before rest kept s drops hId hName _ ih =>
      have hKeeps : ¬ Keeps (before.reverse ++ s :: rest) before.length :=
        fun h => ((keeps_next before rest s).mp h).2 hName
      simpa [List.zipIdx_cons, hKeeps, dropping, Server.hasId_iff.mpr hId] using ih

/-- **The servers of a name**: the first that has an id, unless one of those before has the name. -/
theorem named (h : Sifted before given kept drops) (name : String) :
    kept.filter (·.name = name) =
      if ∃ t ∈ before, t.HasId ∧ t.name = name then []
      else (given.find? fun s => s.HasId ∧ s.name = name).toList := by
  induction h with
  | done => simp
  | @keep before rest kept s drops hId hName _ ih =>
      have hHas : s.HasId := Server.hasId_iff.mpr hId
      by_cases hMine : s.name = name
      · subst hMine
        have hNone : ¬ ∃ t ∈ before, t.HasId ∧ t.name = s.name := by
          simpa [Server.Namesake, Server.hasId_iff] using hName
        simpa [hHas, hNone] using ih
      · simpa [hMine] using ih
  | @blank before rest kept s drops hId _ ih =>
      have hNone : ¬ s.HasId := by simp [Server.hasId_iff, hId]
      simpa [hNone] using ih
  | @again before rest kept s drops hId hName _ ih =>
      by_cases hMine : s.name = name
      · subst hMine
        have hSome : ∃ t ∈ before, t.HasId ∧ t.name = s.name := by
          simpa [Server.Namesake, Server.hasId_iff] using hName
        simpa [hSome] using ih
      · simpa [hMine] using ih

end Sifted

/-! ## The repair -/

theorem field_dropping (s : Server) :
    (dropping s).field = if s.HasId then "servers.name" else "servers.id" := by
  unfold dropping
  split <;> rfl

/-- The corrections that are about servers are those of the servers that are dropped. -/
theorem filter_report (c : Config) :
    c.repair.2.filter (·.field ∈ Field.servers.names) = (repairServers [] c.servers).2 := by
  have hOthers : (replaced c c.repair.1).filter (·.field ∈ Field.servers.names) = [] := by
    rw [List.filter_eq_nil_iff]
    intro x hx
    obtain ⟨r, hr, hMem⟩ := List.mem_flatMap.mp hx
    split at hMem
    next => cases hMem
    next =>
      rw [List.mem_singleton.mp hMem]
      simp only [replaceable, List.mem_cons, List.not_mem_nil, or_false] at hr
      rcases hr with rfl | rfl | rfl | rfl | rfl | rfl <;> simp [Correction.field, Field.names]
  have hDrops : ∀ x ∈ (repairServers [] c.servers).2, x.field ∈ Field.servers.names := by
    intro x hx
    simpa [Field.names] using (sifted_repair c).drops_field x hx
  rw [report_repair, List.filter_append, hOthers, List.nil_append, List.filter_eq_self]
  exact fun x hx => decide_eq_true (hDrops x hx)

/-- **The first server of a name that has an id is kept, and nothing else.** Of the servers of a
configuration, a repair keeps those at the places that `Keeps` tells, in their order: those that have
an id, and whose name no server has that comes before and is kept. So of the servers of any name it
keeps the first that has an id, if there is one. Of the corrections, those about servers are one for
each server that is dropped, in the order of the list: about its id if it has none, and about its name
otherwise. -/
theorem first_of_name_kept (c : Config) :
    let given := c.servers
    let kept := c.repair.1.servers
    kept = (given.zipIdx.filter fun x => Keeps given x.2).map Prod.fst ∧
      (∀ k, Keeps given k ↔ ∃ s, given[k]? = some s ∧ s.HasId ∧
        ∀ j < k, Keeps given j → ∀ t, given[j]? = some t → t.name ≠ s.name) ∧
      (∀ name, kept.filter (·.name = name)
        = (given.find? fun s => s.HasId ∧ s.name = name).toList) ∧
      c.repair.2.filter (·.field ∈ Field.servers.names)
        = (given.zipIdx.filter fun x => ¬ Keeps given x.2).map (fun x => dropping x.1) ∧
      ∀ s, (dropping s).field = if s.HasId then "servers.name" else "servers.id" := by
  have hSifted := sifted_repair c
  obtain ⟨hKept, hDrops⟩ := hSifted.places
  refine ⟨hKept, fun k => keeps_iff, fun name => ?_, (filter_report c).trans hDrops, field_dropping⟩
  rw [hSifted.named name, if_neg (by simp)]

/-- The third server gets the name, which the second one did not take. -/
example :
    let given : List Server := [⟨"a", "1"⟩, ⟨"b", " \u2003"⟩, ⟨"b", "2"⟩, ⟨"a", ""⟩, ⟨"b", "3"⟩]
    ({ servers := given } : Config).repair =
      ({ servers := [⟨"a", "1"⟩, ⟨"b", "2"⟩] },
        [.blankId "b", .blankId "a", .repeatedName "b"]) := by
  decide +kernel

end Config

end Lookout
