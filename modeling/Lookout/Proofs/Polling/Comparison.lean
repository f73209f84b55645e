import Lookout.Proofs.Json.Same
import Lookout.Proofs.Polling.Changes

set_option autoImplicit false

/-! # How structured statuses compare

A status that is no text is compared as the text it is written as. Nothing is lost by that
(`structured_statuses_compared`): values that are the same, with objects as maps, have one
text, and of two structured statuses without doubles that have one text each is the other. So
the callback is told of a change if and only if there is one.
-/

namespace Lookout.Polling

open Json (Same lastField?)

/-! ## Structured statuses -/

/-- The values without doubles that are a status as they are written: neither null nor a text. -/
structure Structured (a : Json) : Prop where
  exact : a.Exact
  not_null : a ≠ .null
  not_text : ∀ s, a ≠ .str s

/-- What the status of an object is, by its `status` field. -/
theorem status_of_field {fields : List (String × Json)} {a : Json}
    (ha : lastField? "status" fields = some a) (hNull : a ≠ .null) (hText : ∀ s, a ≠ .str s) :
    status (Json.obj fields) = some a.normal.compact := by
  show jsonStatus (.obj fields) = _
  cases a with
  | null => exact absurd rfl hNull
  | str s => exact absurd rfl (hText s)
  | _ => rw [jsonStatus, ha]

/-- The same values have the same status. -/
theorem status_eq_of_same {v w : Json} (h : Same v w) : status v = status w := by
  show jsonStatus v = jsonStatus w
  cases h with
  | null => rfl
  | bool b => rfl
  | num n => rfl
  | str s => rfl
  | arr => rfl
  | @obj fs gs names values =>
      have hBoth := names "status"
      cases ha : lastField? "status" fs with
      | none =>
          rw [ha, Option.isSome_none] at hBoth
          have hb : lastField? "status" gs = none := Option.isSome_eq_false_iff.mp hBoth.symm
            |> Option.isNone_iff_eq_none.mp
          rw [jsonStatus, jsonStatus, ha, hb]
      | some a =>
          rw [ha, Option.isSome_some] at hBoth
          obtain ⟨b, hb⟩ := Option.isSome_iff_exists.mp hBoth.symm
          have hSame := values "status" a b ha hb
          have hText := congrArg (fun j : Json => some j.compact) hSame.normal_eq
          cases hSame with
          | null => rw [jsonStatus, jsonStatus, ha, hb]
          | str s => rw [jsonStatus, jsonStatus, ha, hb]
          | _ =>
              exact (status_of_field ha nofun nofun).trans
                (hText.trans (status_of_field hb nofun nofun).symm)

/-! ## The comparison -/

/-- **What a success adds to the calls of the callback**, if it counts. -/
theorem Poller.changes_accept {p : Poller} {run seq : Nat} (hCounts : p.Counts run seq)
    (hCallback : p.callback.isSome = true) (current : Option String) :
    (p.accept run seq current).changes
      = (statusChange? current p.lastStatus).toList ++ p.changes := by
  rw [Poller.accept_eq hCounts, ← change?_eq hCallback]
  cases p.change? current <;> rfl

/-- **Structured statuses are compared faithfully.** No status is empty, and values that are the
same have one status. Two structured statuses have one text if and only if they are the same, and
a success that brings the second one after the first calls the callback if and only if they are
not. -/
theorem structured_statuses_compared {fs gs : List (String × Json)} {a b : Json}
    (ha : lastField? "status" fs = some a) (hb : lastField? "status" gs = some b)
    (hA : Structured a) (hB : Structured b) :
    (∀ v : Json, status v ≠ some "")
    ∧ (∀ v w : Json, Same v w → status v = status w)
    ∧ ∃ first second,
      status (Json.obj fs) = some first ∧ status (Json.obj gs) = some second
      ∧ (first = second ↔ Same a b)
      ∧ ∀ (p : Poller) (run seq : Nat), p.Counts run seq → p.callback.isSome = true →
        p.lastStatus = status (Json.obj fs) →
        (Same a b → (p.accept run seq (status (Json.obj gs))).changes = p.changes)
        ∧ (¬ Same a b →
          (p.accept run seq (status (Json.obj gs))).changes = (second, first) :: p.changes) := by
  have hFirst := status_of_field ha hA.not_null hA.not_text
  have hSecond := status_of_field hb hB.not_null hB.not_text
  have hIff := hA.exact.text_eq_iff hB.exact
  refine ⟨HasStatus.Lawful.ne_empty, fun v w => status_eq_of_same, _, _, hFirst, hSecond, hIff, ?_⟩
  intro p run seq hCounts hCallback hLast
  have hChanges := Poller.changes_accept hCounts hCallback (status (Json.obj gs))
  rw [hLast, hFirst, hSecond] at hChanges
  rw [hSecond, hChanges]
  constructor
  · intro hSame
    simp [statusChange?, hIff.mpr hSame]
  · intro hOther
    have hDiffer : a.normal.compact ≠ b.normal.compact := fun hText => hOther (hIff.mp hText)
    simp [statusChange?, hDiffer]

/-- A structured status in which an object holds `number` as one of its fields, with the fields
of all objects in some order. -/
def deep (number : Json) : Json :=
  .obj [("b", .arr [.null, .str "\"\n\\"]), ("a", .obj [("y", .int (-1)), ("x", number)])]

/-- The same in another order, behind a field that is hidden. -/
def deepReordered (number : Json) : Json :=
  .obj [("a", .obj [("x", .null), ("x", number), ("y", .int (-1))]),
    ("b", .arr [.null, .str "\"\n\\"])]

/-- An object with a status. -/
def withStatus (a : Json) : List (String × Json) := [("name", .str "s0"), ("status", a)]

/-- A poller whose newest result had a structured status. -/
def watching : Poller where
  name := "s0"
  callback := some []
  mode := .idle
  lastStatus := status (Json.obj (withStatus (deep (.int Json.Number.maxWord))))

theorem structured_deep {number : Json} (h : number.Exact) :
    Structured (deep number) ∧ Structured (deepReordered number) := by
  have hBounds : Json.Number.minWord ≤ -1 ∧ (-1 : Int) ≤ Json.Number.maxWord := by decide
  constructor
  · exact ⟨by simpa [deep, h] using hBounds, nofun, nofun⟩
  · exact ⟨by simpa [deepReordered, h] using hBounds, nofun, nofun⟩

theorem structured_statuses_compared_reordered :
    (watching.accept 0 1
        (status (Json.obj (withStatus (deepReordered (.int Json.Number.maxWord)))))).changes = []
      ∧ ∃ first second, first ≠ second
        ∧ (watching.accept 0 1
            (status (Json.obj (withStatus (deepReordered (.str "18446744073709551615")))))).changes
          = [(second, first)] := by
  have hCounts : watching.Counts 0 1 := ⟨rfl, rfl, rfl, Nat.zero_lt_one⟩
  have hField (a : Json) : lastField? "status" (withStatus a) = some a := rfl
  have hNumber : (Json.int Json.Number.maxWord).Exact := by
    rw [Json.exact_int_iff]
    decide
  obtain ⟨hDeep, hReordered⟩ := structured_deep hNumber
  have hText := (structured_deep (Json.exact_str "18446744073709551615")).2
  obtain ⟨-, -, _, _, -, -, -, hReports⟩ :=
    structured_statuses_compared (hField _) (hField _) hDeep hReordered
  obtain ⟨-, -, first, second, -, -, hIff, hReportsText⟩ :=
    structured_statuses_compared (hField _) (hField _) hDeep hText
  have hSame : Same (deep (.int Json.Number.maxWord)) (deepReordered (.int Json.Number.maxWord)) :=
    Json.normal_eq_iff.mp rfl
  have hOther : ¬ Same (deep (.int Json.Number.maxWord))
      (deepReordered (.str "18446744073709551615")) := by
    rw [← Json.normal_eq_iff]
    intro h
    have hX : some (Json.int Json.Number.maxWord) = some (.str "18446744073709551615") :=
      congrArg (fun j : Json => (j.field? "a").bind (Json.field? · "x")) h
    exact absurd (Option.some.inj hX) nofun
  exact ⟨(hReports watching 0 1 hCounts rfl rfl).1 hSame, first, second, fun h => hOther (hIff.mp h),
    (hReportsText watching 0 1 hCounts rfl rfl).2 hOther⟩

end Lookout.Polling
