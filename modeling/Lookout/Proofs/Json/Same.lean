import Mathlib.Data.String.Basic
import Mathlib.Data.List.Perm.Basic
import Lookout.Proofs.Json.ReadBack

set_option autoImplicit false

/-! # Values with objects as maps

Two values are the same if they differ in nothing but the order of the fields of their objects, and in
fields that a later field of the same name hides (`Same`). They are if and only if they have one normal
form (`normal_eq_iff`): the normal form of an object has the same fields, taken as a map
(`lastField?_normalFields`), in the only order that their names allow (`eq_of_lastField?`).
-/

namespace Lookout.Json

/-- Induction on values, with the items of an array and the values of an object one level down. -/
@[elab_as_elim]
theorem inductionOn {motive : Json → Prop} (null : motive .null) (bool : ∀ b, motive (.bool b))
    (num : ∀ n, motive (.num n)) (str : ∀ s, motive (.str s))
    (arr : ∀ items, (∀ x ∈ items, motive x) → motive (.arr items))
    (obj : ∀ fields, (∀ f ∈ fields, motive f.2) → motive (.obj fields)) : ∀ j, motive j
  | .null => null
  | .bool b => bool b
  | .num n => num n
  | .str s => str s
  | .arr items => arr items fun x _ => inductionOn null bool num str arr obj x
  | .obj fields => obj fields fun f _ => inductionOn null bool num str arr obj f.2
decreasing_by
  · have := List.sizeOf_lt_of_mem ‹x ∈ items›
    simp
    omega
  · have := List.sizeOf_lt_of_mem ‹f ∈ fields›
    obtain ⟨k, v⟩ := f
    simp at this ⊢
    omega

/-- Whether two values are the same, with objects as maps from names to values. -/
inductive Same : Json → Json → Prop
  | null : Same .null .null
  | bool (b : Bool) : Same (.bool b) (.bool b)
  | num (n : Number) : Same (.num n) (.num n)
  | str (s : String) : Same (.str s) (.str s)
  | arr {xs ys : List Json} (length : xs.length = ys.length)
      (items : ∀ (i : Nat) (x y : Json), xs[i]? = some x → ys[i]? = some y → Same x y) :
      Same (.arr xs) (.arr ys)
  | obj {fs gs : List (String × Json)}
      (names : ∀ name, (lastField? name fs).isSome = (lastField? name gs).isSome)
      (values : ∀ (name : String) (x y : Json),
        lastField? name fs = some x → lastField? name gs = some y → Same x y) :
      Same (.obj fs) (.obj gs)

/-! ## Fields as a map -/

theorem lastField?_cons (name k : String) (v : Json) (rest : List (String × Json)) :
    lastField? name ((k, v) :: rest)
      = (lastField? name rest).or (if k = name then some v else none) := by
  rw [lastField?]
  cases lastField? name rest <;> rfl

theorem lastField?_insertField (name k : String) (v : Json) (fields : List (String × Json)) :
    lastField? name (insertField k v fields)
      = (lastField? name fields).or (if k = name then some v else none) := by
  induction fields with
  | nil => rfl
  | cons f rest ih =>
      obtain ⟨l, w⟩ := f
      rw [insertField]
      by_cases hFront : k < l
      · rw [if_pos hFront, lastField?_cons]
      · rw [if_neg hFront]
        by_cases hHidden : k = l
        · rw [if_pos hHidden, lastField?_cons, hHidden, Option.or_assoc]
          by_cases hHere : l = name <;> simp [hHere]
        · rw [if_neg hHidden, lastField?_cons, lastField?_cons, ih, Option.or_assoc, Option.or_assoc]
          congr 1
          by_cases hHere : k = name
          · have hNotThere : l ≠ name := fun hThere => hHidden (hHere.trans hThere.symm)
            simp [hHere, hNotThere]
          · simp [hHere]

/-- Normal forms of fields are the same map, up to the normal forms of the values. -/
theorem lastField?_normalFields (name : String) (fields : List (String × Json)) :
    lastField? name (normalFields fields) = (lastField? name fields).map normal := by
  induction fields with
  | nil => rfl
  | cons f rest ih =>
      obtain ⟨k, v⟩ := f
      rw [normalFields, lastField?_insertField, ih, lastField?_cons, Option.map_or]
      split_ifs <;> rfl

theorem mem_of_lastField? {name : String} {v : Json} {fields : List (String × Json)}
    (h : lastField? name fields = some v) : (name, v) ∈ fields := by
  induction fields with
  | nil => exact absurd h nofun
  | cons f rest ih =>
      obtain ⟨k, w⟩ := f
      rw [lastField?_cons, Option.or_eq_some_iff] at h
      rcases h with hLater | ⟨-, hHere⟩
      · exact List.mem_cons_of_mem _ (ih hLater)
      · split_ifs at hHere with hName
        obtain rfl := Option.some.inj hHere
        rw [hName]
        exact List.mem_cons_self

/-! ## Sorted fields -/

/-- Whether the names of some fields are distinct and in order. -/
def Sorted (fields : List (String × Json)) : Prop := fields.Pairwise fun f g => f.1 < g.1

theorem mem_insertField {k : String} {v : Json} {fields : List (String × Json)} {f : String × Json}
    (h : f ∈ insertField k v fields) : f = (k, v) ∨ f ∈ fields := by
  induction fields with
  | nil => exact .inl (List.mem_singleton.mp h)
  | cons g rest ih =>
      obtain ⟨l, w⟩ := g
      rw [insertField] at h
      split_ifs at h with hFront hHidden
      · exact List.mem_cons.mp h
      · exact .inr h
      · rcases List.mem_cons.mp h with hHead | hRest
        · exact .inr (hHead ▸ List.mem_cons_self)
        · exact (ih hRest).imp_right (List.mem_cons_of_mem _)

theorem sorted_insertField (k : String) (v : Json) {fields : List (String × Json)}
    (h : Sorted fields) : Sorted (insertField k v fields) := by
  induction fields with
  | nil => exact List.pairwise_singleton _ _
  | cons g rest ih =>
      obtain ⟨l, w⟩ := g
      obtain ⟨hBefore, hRest⟩ := List.pairwise_cons.mp h
      rw [insertField]
      split_ifs with hFront hHidden
      · refine List.pairwise_cons.mpr ⟨fun f hf => ?_, h⟩
        rcases List.mem_cons.mp hf with rfl | hLater
        · exact hFront
        · exact lt_trans hFront (hBefore f hLater)
      · exact h
      · refine List.pairwise_cons.mpr ⟨fun f hf => ?_, ih hRest⟩
        rcases mem_insertField hf with rfl | hOld
        · exact lt_of_le_of_ne (not_lt.mp hFront) (Ne.symm hHidden)
        · exact hBefore f hOld

theorem sorted_normalFields (fields : List (String × Json)) : Sorted (normalFields fields) := by
  induction fields with
  | nil => exact List.Pairwise.nil
  | cons f rest ih => exact sorted_insertField f.1 f.2.normal ih

/-- A field with a name of its own is the last of that name. -/
theorem Sorted.lastField?_of_mem {fields : List (String × Json)} (h : Sorted fields)
    {f : String × Json} (hf : f ∈ fields) : lastField? f.1 fields = some f.2 := by
  induction fields with
  | nil => exact absurd hf List.not_mem_nil
  | cons g rest ih =>
      obtain ⟨l, w⟩ := g
      obtain ⟨hBefore, hRest⟩ := List.pairwise_cons.mp h
      rw [lastField?_cons]
      rcases List.mem_cons.mp hf with rfl | hLater
      · have hNone : lastField? l rest = none := by
          by_contra hSome
          obtain ⟨v, hv⟩ := Option.ne_none_iff_exists'.mp hSome
          exact lt_irrefl l (hBefore (l, v) (mem_of_lastField? hv))
        simp [hNone]
      · rw [ih hRest hLater, Option.some_or]

theorem Sorted.nodup {fields : List (String × Json)} (h : Sorted fields) : fields.Nodup := by
  refine List.Pairwise.imp ?_ h
  rintro f _ hLt rfl
  exact lt_irrefl f.1 hLt

/-- **Sorted fields are determined by the map they are.** -/
theorem Sorted.eq_of_lastField? {fs gs : List (String × Json)} (hFs : Sorted fs) (hGs : Sorted gs)
    (h : ∀ name, lastField? name fs = lastField? name gs) : fs = gs := by
  have hMem : ∀ f, f ∈ fs ↔ f ∈ gs := fun f => by
    constructor
    · intro hf
      have hHere := hFs.lastField?_of_mem hf
      rw [h] at hHere
      exact mem_of_lastField? hHere
    · intro hf
      have hHere := hGs.lastField?_of_mem hf
      rw [← h] at hHere
      exact mem_of_lastField? hHere
  have hPerm := (List.perm_ext_iff_of_nodup hFs.nodup hGs.nodup).mpr hMem
  refine hPerm.eq_of_pairwise (fun f g _ _ hLt hGt => ?_) hFs hGs
  exact absurd (lt_trans hLt hGt) (lt_irrefl _)

/-! ## Normal forms -/

theorem normalItems_eq_map (items : List Json) : normalItems items = items.map normal := by
  induction items with
  | nil => rfl
  | cons x rest ih => rw [normalItems, ih, List.map_cons]

theorem Same.normal_eq {a b : Json} (h : Same a b) : a.normal = b.normal := by
  induction h with
  | null => rfl
  | bool b => rfl
  | num n => rfl
  | str s => rfl
  | @arr xs ys length _ ih =>
      rw [normal, normal, normalItems_eq_map, normalItems_eq_map]
      congr 1
      refine List.ext_getElem? fun i => ?_
      rw [List.getElem?_map, List.getElem?_map]
      cases hx : xs[i]? with
      | none =>
          have hy : ys[i]? = none := by
            rw [List.getElem?_eq_none_iff] at hx ⊢
            omega
          rw [hy]
      | some x =>
          cases hy : ys[i]? with
          | none =>
              rw [List.getElem?_eq_none_iff] at hy
              have := (List.getElem?_eq_some_iff.mp hx).1
              omega
          | some y => exact congrArg some (ih i x y hx hy)
  | @obj fs gs names _ ih =>
      rw [normal, normal]
      congr 1
      refine (sorted_normalFields fs).eq_of_lastField? (sorted_normalFields gs) fun name => ?_
      rw [lastField?_normalFields, lastField?_normalFields]
      have hBoth := names name
      cases hx : lastField? name fs with
      | none =>
          rw [hx, Option.isSome_none] at hBoth
          rw [Option.isSome_eq_false_iff.mp hBoth.symm |> Option.isNone_iff_eq_none.mp]
      | some x =>
          rw [hx, Option.isSome_some] at hBoth
          obtain ⟨y, hy⟩ := Option.isSome_iff_exists.mp hBoth.symm
          rw [hy]
          exact congrArg some (ih name x y hx hy)

theorem same_of_normal_eq {a b : Json} (h : a.normal = b.normal) : Same a b := by
  induction a using inductionOn generalizing b with
  | null =>
      cases b with
      | null => exact .null
      | _ => exact absurd h (by simp [normal])
  | bool c =>
      cases b with
      | bool d =>
          obtain rfl := Json.bool.inj h
          exact .bool c
      | _ => exact absurd h (by simp [normal])
  | num n =>
      cases b with
      | num m =>
          obtain rfl := Json.num.inj h
          exact .num n
      | _ => exact absurd h (by simp [normal])
  | str s =>
      cases b with
      | str t =>
          obtain rfl := Json.str.inj h
          exact .str s
      | _ => exact absurd h (by simp [normal])
  | arr xs ih =>
      cases b with
      | arr ys =>
          have hItems : xs.map normal = ys.map normal := by
            rw [← normalItems_eq_map, ← normalItems_eq_map]
            exact Json.arr.inj h
          refine .arr (by simpa using congrArg List.length hItems) fun i x y hx hy => ?_
          have hHere := congrArg (·[i]?) hItems
          simp only [List.getElem?_map, hx, hy, Option.map_some, Option.some.injEq] at hHere
          exact ih x (List.mem_of_getElem? hx) hHere
      | _ => exact absurd h (by simp [normal])
  | obj fs ih =>
      cases b with
      | obj gs =>
          have hFields (name : String) :
              (lastField? name fs).map normal = (lastField? name gs).map normal := by
            rw [← lastField?_normalFields, ← lastField?_normalFields, Json.obj.inj h]
          refine .obj (fun name => ?_) fun name x y hx hy => ?_
          · rw [← Option.isSome_map (f := normal), hFields, Option.isSome_map]
          · have hHere := hFields name
            rw [hx, hy] at hHere
            exact ih (name, x) (mem_of_lastField? hx) (Option.some.inj hHere)
      | _ => exact absurd h (by simp [normal])

/-- **The normal forms of two values are equal if and only if they are the same.** -/
theorem normal_eq_iff {a b : Json} : a.normal = b.normal ↔ Same a b :=
  ⟨same_of_normal_eq, Same.normal_eq⟩

/-! ## Texts of normal forms -/

theorem exists_of_mem_normalFields {fields : List (String × Json)} {f : String × Json}
    (h : f ∈ normalFields fields) : ∃ g ∈ fields, f.2 = g.2.normal := by
  induction fields with
  | nil => exact absurd h List.not_mem_nil
  | cons g rest ih =>
      rcases mem_insertField h with rfl | hLater
      · exact ⟨g, List.mem_cons_self, rfl⟩
      · obtain ⟨g', hg', hSame⟩ := ih hLater
        exact ⟨g', List.mem_cons_of_mem _ hg', hSame⟩

/-- Sorting fields brings no doubles. -/
theorem Exact.normal {a : Json} (h : a.Exact) : a.normal.Exact := by
  induction h with
  | null => exact .null
  | bool b => exact .bool b
  | int low high => exact .int low high
  | str s => exact .str s
  | arr each ih =>
      rw [Json.normal, normalItems_eq_map]
      refine .arr fun y hy => ?_
      obtain ⟨x, hx, rfl⟩ := List.mem_map.mp hy
      exact ih x hx
  | obj each ih =>
      rw [Json.normal]
      refine .obj fun f hf => ?_
      obtain ⟨g, hg, hSame⟩ := exists_of_mem_normalFields hf
      rw [hSame]
      exact ih g hg

/-- **The texts of two normal forms are equal if and only if the values are the same.** -/
theorem Exact.text_eq_iff {a b : Json} (ha : a.Exact) (hb : b.Exact) :
    a.normal.compact = b.normal.compact ↔ Same a b := by
  rw [← normal_eq_iff]
  exact ⟨ha.normal.compact_injective hb.normal, congrArg compact⟩

end Lookout.Json
