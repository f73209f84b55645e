import Mathlib.Data.List.Basic
import Lookout.Json.Reader

set_option autoImplicit false

/-! # What is written is read back

The compact text of a value that has no doubles (`Exact`) is read as that value by a reader that goes
deep enough, and whatever may stand behind a value inside another one is left for whoever reads on
(`Exact.readsBack`). So no two such values have one text (`Exact.compact_injective`).
-/

namespace Lookout.Json

/-! ## Strings -/

/-- The text of a string, character by character. -/
theorem toList_string (s : String) :
    (string s).toList = '"' :: (s.toList.flatMap fun c => (escaped c).toList) ++ ['"'] := by
  have hFold : ∀ (cs : List Char) (text : String),
      (cs.foldl (fun text c => text ++ escaped c) text).toList
        = text.toList ++ cs.flatMap fun c => (escaped c).toList := by
    intro cs
    induction cs with
    | nil => simp
    | cons c cs ih => simp [ih]
  simp [string, hFold]

/-- The hexadecimal digits of a control character. -/
theorem unit?_fourHex {n : Nat} (h : n < 32) (rest : List Char) :
    unit? ((fourHex n).toList ++ rest) = some (n, rest) := by
  have hText : (fourHex n).toList = ['0', '0', Nat.digitChar (n / 16), Nat.digitChar (n % 16)] := by
    revert n
    decide
  have hDigit : ∀ m < 16, hexDigit? (Nat.digitChar m) = some m := by decide
  have hZero : hexDigit? '0' = some 0 := by decide
  rw [hText]
  simp only [List.cons_append, List.nil_append, unit?, hZero, hDigit (n / 16) (by omega),
    hDigit (n % 16) (by omega), Option.bind_eq_bind, Option.bind_some]
  congr 2
  omega

/-- **One character** of a string is read back. -/
theorem stringTail?_escaped (c : Char) (fuel : Nat) (acc rest : List Char) :
    stringTail? (fuel + 1) acc ((escaped c).toList ++ rest) = stringTail? fuel (c :: acc) rest := by
  by_cases hQuote : c = '"'
  · subst hQuote
    rfl
  by_cases hSlash : c = '\\'
  · subst hSlash
    rfl
  by_cases hLine : c = '\n'
  · subst hLine
    rfl
  by_cases hReturn : c = '\r'
  · subst hReturn
    rfl
  by_cases hTab : c = '\t'
  · subst hTab
    rfl
  by_cases hBack : c.toNat = 8
  · obtain rfl : c = Char.ofNat 8 := by rw [← hBack, Char.ofNat_toNat]
    rfl
  by_cases hFeed : c.toNat = 12
  · obtain rfl : c = Char.ofNat 12 := by rw [← hFeed, Char.ofNat_toNat]
    rfl
  by_cases hControl : c.toNat < 32
  · have hText : (escaped c).toList = '\\' :: 'u' :: (fourHex c.toNat).toList := by
      simp [escaped, *]
    have hNoHalf : ¬ (0xd800 ≤ c.toNat ∧ c.toNat ≤ 0xdbff) := by omega
    have hNoRest : ¬ (0xdc00 ≤ c.toNat ∧ c.toNat ≤ 0xdfff) := by omega
    rw [hText, List.cons_append, List.cons_append, stringTail?, unicodeEscape?,
      unit?_fourHex hControl]
    simp [hNoHalf, hNoRest]
  · have hText : (escaped c).toList = [c] := by simp [escaped, *]
    rw [hText, List.singleton_append]
    simp [stringTail?, *]

/-- The characters of a string, up to its closing quote. -/
theorem stringTail?_flatMap (cs acc rest : List Char) {fuel : Nat} (hFuel : cs.length < fuel) :
    stringTail? fuel acc ((cs.flatMap fun c => (escaped c).toList) ++ '"' :: rest)
      = some (String.ofList (acc.reverse ++ cs), rest) := by
  induction cs generalizing acc fuel with
  | nil =>
      obtain ⟨fuel, rfl⟩ := Nat.exists_eq_succ_of_ne_zero (Nat.ne_of_gt hFuel)
      simp [stringTail?]
  | cons c cs ih =>
      obtain ⟨fuel, rfl⟩ := Nat.exists_eq_succ_of_ne_zero (Nat.ne_of_gt (Nat.zero_lt_of_lt hFuel))
      rw [List.flatMap_cons, List.append_assoc, stringTail?_escaped,
        ih (c :: acc) (Nat.lt_of_succ_lt_succ hFuel)]
      simp

theorem length_le_flatMap_escaped (cs : List Char) :
    cs.length ≤ (cs.flatMap fun c => (escaped c).toList).length := by
  have hOne : ∀ c : Char, 0 < (escaped c).toList.length := by
    intro c
    unfold escaped
    split_ifs <;> simp
  induction cs with
  | nil => exact Nat.le_refl 0
  | cons c cs ih =>
      have := hOne c
      rw [List.flatMap_cons, List.length_append, List.length_cons]
      omega

/-- **A string** is read back. -/
theorem string?_string (s : String) (rest : List Char) :
    string? ((string s).toList ++ rest) = some (s, rest) := by
  have hLength := length_le_flatMap_escaped s.toList
  rw [toList_string, List.cons_append, List.cons_append, List.append_assoc, List.singleton_append,
    string?, stringTail?_flatMap s.toList [] rest (by rw [List.length_append]; omega)]
  simp

/-! ## Integers -/

/-- Whether a text can stand behind a value inside another one. -/
def Ends (rest : List Char) : Prop := ∀ c ∈ rest.head?, c = ',' ∨ c = ']' ∨ c = '\x7d'

theorem ends_nil : Ends [] := nofun

theorem ends_comma (rest : List Char) : Ends (',' :: rest) := by simp [Ends]

theorem digitRun_append {digits rest : List Char} (hDigits : ∀ c ∈ digits, c.isDigit = true)
    (hRest : Ends rest) : digitRun (digits ++ rest) = (digits, rest) := by
  have hStop : digitRun rest = ([], rest) := by
    cases rest with
    | nil => rfl
    | cons c rest =>
        have hOther : c.isDigit = false := by
          rcases hRest c rfl with rfl | rfl | rfl <;> rfl
        simp [digitRun, hOther]
  obtain ⟨hTake, hDrop⟩ := Prod.mk.inj hStop
  rw [digitRun, List.takeWhile_append_of_pos hDigits, List.dropWhile_append_of_pos hDigits, hTake,
    hDrop, List.append_nil]

theorem isDigit_of_mem {n : Nat} {c : Char} (h : c ∈ Nat.toDigits 10 n) : c.isDigit = true :=
  Nat.isDigit_of_mem_toDigits (by decide) (Nat.le_refl 10) h

/-- A positive number is written without a leading zero. -/
theorem head?_toDigits_ne {n : Nat} (h : 0 < n) : (Nat.toDigits 10 n).head? ≠ some '0' := by
  induction n using Nat.strongRecOn with
  | ind n ih =>
      by_cases hSmall : n < 10
      · have hDigit : ∀ d < 10, 0 < d → [Nat.digitChar d].head? ≠ some '0' := by decide
        rw [Nat.toDigits_of_lt_base hSmall]
        exact hDigit n hSmall h
      · have hMore := ih (n / 10) (by omega) (by omega)
        rw [Nat.toDigits_of_base_le (by decide) (by omega),
          List.head?_append_of_ne_nil _ Nat.toDigits_ne_nil]
        exact hMore

theorem literal?_toDigits (n : Nat) {rest : List Char} (hRest : Ends rest) :
    literal? (Nat.toDigits 10 n ++ rest) = some (⟨Nat.toDigits 10 n, none, none⟩, rest) := by
  have hDigits : ∀ c ∈ Nat.toDigits 10 n, c.isDigit = true := fun c => isDigit_of_mem
  have hWhole : ¬ ((Nat.toDigits 10 n).isEmpty = true
      ∨ ((Nat.toDigits 10 n).head? = some '0' ∧ 1 < (Nat.toDigits 10 n).length)) := by
    rcases Nat.eq_zero_or_pos n with rfl | hPos
    · decide
    · simp [head?_toDigits_ne hPos, Nat.toDigits_ne_nil]
  have hFraction : fraction? rest = some (none, rest) := by
    cases rest with
    | nil => rfl
    | cons c rest => rcases hRest c rfl with rfl | rfl | rfl <;> rfl
  have hExponent : exponent? rest = some (none, rest) := by
    cases rest with
    | nil => rfl
    | cons c rest => rcases hRest c rfl with rfl | rfl | rfl <;> rfl
  simp only [literal?, digitRun_append hDigits hRest, if_neg hWhole, hFraction, hExponent,
    Option.bind_eq_bind, Option.bind_some]

theorem le_ofDigitChars (digits : List Char) (n : Nat) : n ≤ Nat.ofDigitChars 10 digits n := by
  induction digits generalizing n with
  | nil => exact Nat.le_refl n
  | cons c digits ih =>
      rw [Nat.ofDigitChars_cons]
      exact Nat.le_trans (by omega) (ih (10 * n + (c.toNat - '0'.toNat)))

/-- No digit is left behind as long as the number fits a word. -/
theorem wordDigits_eq {digits : List Char} {acc : Nat}
    (h : Nat.ofDigitChars 10 digits acc ≤ Number.maxWord) :
    Number.wordDigits acc digits = (Nat.ofDigitChars 10 digits acc, []) := by
  induction digits generalizing acc with
  | nil => rfl
  | cons c digits ih =>
      rw [Nat.ofDigitChars_cons, Nat.mul_comm] at h
      have hNext := Nat.le_trans (le_ofDigitChars digits _) h
      rw [Number.wordDigits, if_pos hNext, ih h, Nat.ofDigitChars_cons, Nat.mul_comm]

theorem wordDigits_toDigits {n : Nat} (h : n ≤ Number.maxWord) :
    Number.wordDigits 0 (Nat.toDigits 10 n) = (n, []) := by
  have hValue : Nat.ofDigitChars 10 (Nat.toDigits 10 n) 0 = n :=
    Nat.ofDigitChars_toDigits (by decide) (Nat.le_refl 10)
  rw [wordDigits_eq (by rwa [hValue]), hValue]

theorem unsigned?_false {n : Nat} (h : n ≤ Number.maxWord) {rest : List Char} (hRest : Ends rest) :
    unsigned? false (Nat.toDigits 10 n ++ rest) = some (int n, rest) := by
  simp [unsigned?, literal?_toDigits n hRest, Number.ofLiteral?, wordDigits_toDigits h, int]

theorem unsigned?_true {n : Nat} (hPos : 0 < n) (h : Number.minWord ≤ -(n : Int))
    {rest : List Char} (hRest : Ends rest) :
    unsigned? true (Nat.toDigits 10 n ++ rest) = some (int (-n), rest) := by
  have hWord : n ≤ Number.maxWord := by
    simp only [Number.minWord, Number.maxWord] at h ⊢
    omega
  simp [unsigned?, literal?_toDigits n hRest, Number.ofLiteral?, wordDigits_toDigits hWord, int, h,
    Nat.ne_of_gt hPos]

/-- What begins with a digit is a number. -/
theorem scalar?_of_isDigit {c : Char} (h : c.isDigit = true) (rest : List Char) :
    scalar? (c :: rest) = unsigned? false (c :: rest) := by
  unfold scalar?
  split
  case h_6 => rfl
  all_goals
    next hText =>
      obtain ⟨rfl, -⟩ := List.cons.inj hText
      exact absurd h (by decide)

/-- The text of an integer is its digits, behind a sign if it is negative. -/
theorem toList_compact_int (n : Int) :
    (∃ m : Nat, n = m ∧ (int n).compact.toList = Nat.toDigits 10 m)
      ∨ ∃ m : Nat, 0 < m ∧ n = -m ∧ (int n).compact.toList = '-' :: Nat.toDigits 10 m := by
  cases n with
  | ofNat m => exact .inl ⟨m, rfl, Nat.toList_repr⟩
  | negSucc m =>
      refine .inr ⟨m + 1, Nat.succ_pos m, rfl, ?_⟩
      show ("-" ++ Nat.repr (m + 1)).toList = _
      rw [String.toList_append, Nat.toList_repr]
      rfl

/-- A number begins with a digit. -/
theorem exists_digit (n : Nat) :
    ∃ c more, Nat.toDigits 10 n = c :: more ∧ c.isDigit = true := by
  cases hDigits : Nat.toDigits 10 n with
  | nil => exact absurd hDigits Nat.toDigits_ne_nil
  | cons c more => exact ⟨c, more, rfl, isDigit_of_mem (n := n) (by simp [hDigits])⟩

/-- **An integer** that fits a word is read back. -/
theorem scalar?_int {n : Int} (hLow : Number.minWord ≤ n) (hHigh : n ≤ Number.maxWord)
    {rest : List Char} (hRest : Ends rest) :
    scalar? ((int n).compact.toList ++ rest) = some (int n, rest) := by
  rcases toList_compact_int n with ⟨m, rfl, hText⟩ | ⟨m, hPos, rfl, hText⟩
  · obtain ⟨c, more, hDigits, hDigit⟩ := exists_digit m
    rw [hText, hDigits, List.cons_append, scalar?_of_isDigit hDigit, ← List.cons_append, ← hDigits]
    exact unsigned?_false (Int.ofNat_le.mp hHigh) hRest
  · rw [hText]
    exact unsigned?_true hPos hLow hRest

/-! ## Sequences -/

section Texts

variable {α : Type} (text : α → List Char)

/-- Texts, each behind a comma. -/
def behindCommas (xs : List α) : List Char := xs.flatMap fun x => ',' :: text x

/-- Texts with commas between them. -/
def commas : List α → List Char
  | [] => []
  | x :: xs => text x ++ behindCommas text xs

@[simp] theorem behindCommas_nil : behindCommas text [] = [] := rfl

@[simp] theorem behindCommas_cons (x : α) (xs : List α) :
    behindCommas text (x :: xs) = ',' :: text x ++ behindCommas text xs := rfl

theorem length_le_behindCommas (xs : List α) : xs.length ≤ (behindCommas text xs).length := by
  induction xs with
  | nil => exact Nat.le_refl 0
  | cons x xs ih =>
      rw [behindCommas_cons, List.length_append, List.length_cons, List.length_cons]
      omega

end Texts

theorem toList_compactItems (items : List Json) :
    (compactItems items).toList = commas (fun x => x.compact.toList) items := by
  induction items with
  | nil => rfl
  | cons x rest ih =>
      cases rest with
      | nil => simp [compactItems, commas]
      | cons y rest => simp [compactItems, ih, commas]

/-- The text of a field. -/
def fieldText (f : String × Json) : List Char := (string f.1).toList ++ ':' :: f.2.compact.toList

theorem toList_compactFields (fields : List (String × Json)) :
    (compactFields fields).toList = commas fieldText fields := by
  induction fields with
  | nil => rfl
  | cons f rest ih =>
      obtain ⟨k, v⟩ := f
      cases rest with
      | nil => simp [compactFields, commas, fieldText]
      | cons g rest => simp [compactFields, ih, commas, fieldText]

/-- Whether a text begins with what is neither a blank nor the end of a sequence. -/
def Opens (text : List Char) : Prop :=
  ∃ c more, text = c :: more ∧ isGap c = false ∧ c ≠ ']' ∧ c ≠ '\x7d'

theorem Opens.skipGap {text : List Char} (h : Opens text) (rest : List Char) :
    skipGap (text ++ rest) = text ++ rest := by
  obtain ⟨c, more, rfl, hGap, -⟩ := h
  simp [Json.skipGap, hGap]

theorem opens_string (s : String) (rest : List Char) : Opens ((string s).toList ++ rest) :=
  ⟨'"', _, by rw [toList_string]; rfl, rfl, by decide, by decide⟩

/-- Whether a character closes a sequence. -/
def Closes (c : Char) : Prop := c = ']' ∨ c = '\x7d'

theorem Closes.ends {c : Char} (h : Closes c) (rest : List Char) : Ends (c :: rest) := by
  rintro _ ⟨⟩
  exact .inr h

theorem Closes.skipGap {c : Char} (h : Closes c) (rest : List Char) :
    skipGap (c :: rest) = c :: rest := by
  rcases h with rfl | rfl <;> rfl

/-- Whether a reader reads back the text of a value, whatever may stand behind it. -/
def ReadsBack {α : Type} (item : List Char → Option (α × List Char)) (text : α → List Char)
    (x : α) : Prop :=
  ∀ rest, Ends rest → item (text x ++ rest) = some (x, rest)

section Sequences

variable {α : Type} {close : Char} {item : List Char → Option (α × List Char)}
  {text : α → List Char}

theorem Closes.ends_behindCommas (h : Closes close) (xs : List α) (rest : List Char) :
    Ends (behindCommas text xs ++ close :: rest) := by
  cases xs with
  | nil => exact h.ends rest
  | cons x xs => exact ends_comma _

theorem moreItems?_behindCommas (hClose : Closes close) {xs : List α} {fuel : Nat}
    (hFuel : xs.length < fuel) (hItems : ∀ x ∈ xs, ReadsBack item text x) (rest : List Char) :
    moreItems? close item fuel (behindCommas text xs ++ close :: rest) = some (xs, rest) := by
  induction xs generalizing fuel with
  | nil =>
      obtain ⟨fuel, rfl⟩ := Nat.exists_eq_succ_of_ne_zero (Nat.ne_of_gt hFuel)
      simp [moreItems?, hClose.skipGap]
  | cons x xs ih =>
      obtain ⟨fuel, rfl⟩ := Nat.exists_eq_succ_of_ne_zero (Nat.ne_of_gt (Nat.zero_lt_of_lt hFuel))
      have hFirst := hItems x List.mem_cons_self (behindCommas text xs ++ close :: rest)
        (hClose.ends_behindCommas xs rest)
      have hMore := ih (Nat.lt_of_succ_lt_succ hFuel) fun y hy => hItems y (List.mem_cons_of_mem x hy)
      have hComma : ',' ≠ close := by
        rintro rfl
        exact absurd hClose (by simp [Closes])
      have hGap : isGap ',' = false := rfl
      rw [behindCommas_cons, List.append_assoc, List.cons_append]
      simp [moreItems?, skipGap, hGap, hComma, hFirst, hMore]

/-- **A sequence** is read back, if each of its items is. -/
theorem items?_commas (hClose : Closes close) {xs : List α}
    (hItems : ∀ x ∈ xs, ReadsBack item text x) (hOpens : ∀ x ∈ xs, Opens (text x))
    (rest : List Char) :
    items? close item (commas text xs ++ close :: rest) = some (xs, rest) := by
  cases xs with
  | nil => simp [items?, commas, hClose.skipGap]
  | cons x xs =>
      obtain ⟨c, more, hText, -, hNotBracket, hNotBrace⟩ := hOpens x List.mem_cons_self
      have hOther : c ≠ close := by
        rcases hClose with rfl | rfl
        · exact hNotBracket
        · exact hNotBrace
      have hFirst := hItems x List.mem_cons_self (behindCommas text xs ++ close :: rest)
        (hClose.ends_behindCommas xs rest)
      have hFuel : xs.length < (behindCommas text xs ++ close :: rest).length + 1 := by
        have := length_le_behindCommas text xs
        rw [List.length_append]
        omega
      have hMore := moreItems?_behindCommas hClose hFuel
        (fun y hy => hItems y (List.mem_cons_of_mem x hy)) rest
      rw [commas, List.append_assoc, items?, (hOpens x List.mem_cons_self).skipGap, hText,
        List.cons_append]
      simp only [if_neg hOther]
      rw [← List.cons_append, ← hText, hFirst]
      simp only [Option.bind_eq_bind, Option.bind_some, hMore]

end Sequences

/-! ## Values -/

/-- The values without doubles. -/
inductive Exact : Json → Prop
  | null : Exact .null
  | bool (b : Bool) : Exact (.bool b)
  | int {n : Int} (low : Number.minWord ≤ n) (high : n ≤ Number.maxWord) : Exact (int n)
  | str (s : String) : Exact (.str s)
  | arr {items : List Json} (each : ∀ x ∈ items, Exact x) : Exact (.arr items)
  | obj {fields : List (String × Json)} (each : ∀ f ∈ fields, Exact f.2) : Exact (.obj fields)

@[simp] theorem exact_null : Exact .null := .null

@[simp] theorem exact_bool (b : Bool) : Exact (.bool b) := .bool b

@[simp] theorem exact_int_iff {n : Int} :
    Exact (int n) ↔ Number.minWord ≤ n ∧ n ≤ Number.maxWord := by
  constructor
  · intro h
    cases h with
    | int low high => exact ⟨low, high⟩
  · exact fun ⟨low, high⟩ => .int low high

@[simp] theorem exact_str (s : String) : Exact (.str s) := .str s

@[simp] theorem exact_arr_iff {items : List Json} :
    Exact (.arr items) ↔ ∀ x ∈ items, Exact x := by
  constructor
  · intro h
    cases h with
    | arr each => exact each
  · exact .arr

@[simp] theorem exact_obj_iff {fields : List (String × Json)} :
    Exact (.obj fields) ↔ ∀ f ∈ fields, Exact f.2 := by
  constructor
  · intro h
    cases h with
    | obj each => exact each
  · exact .obj

theorem not_special_of_isDigit {c : Char} (h : c.isDigit = true) :
    isGap c = false ∧ c ≠ ']' ∧ c ≠ '\x7d' ∧ c ≠ '[' ∧ c ≠ '\x7b' := by
  refine ⟨?_, ?_, ?_, ?_, ?_⟩
  · by_contra hGap
    simp only [isGap, Bool.not_eq_false, Bool.or_eq_true, decide_eq_true_eq] at hGap
    rcases hGap with ((rfl | rfl) | rfl) | rfl <;> exact absurd h (by decide)
  all_goals
    rintro rfl
    exact absurd h (by decide)

/-- What opens an integer. -/
theorem exists_opening (n : Int) :
    ∃ c more, (int n).compact.toList = c :: more
      ∧ isGap c = false ∧ c ≠ ']' ∧ c ≠ '\x7d' ∧ c ≠ '[' ∧ c ≠ '\x7b' := by
  rcases toList_compact_int n with ⟨m, -, hText⟩ | ⟨m, -, -, hText⟩
  · obtain ⟨c, more, hDigits, hDigit⟩ := exists_digit m
    exact ⟨c, more, hText.trans hDigits, not_special_of_isDigit hDigit⟩
  · exact ⟨'-', _, hText, by decide⟩

theorem toList_compact_arr (items : List Json) :
    (Json.arr items).compact.toList = '[' :: commas (fun x => x.compact.toList) items ++ [']'] := by
  simp [compact, toList_compactItems]

theorem toList_compact_obj (fields : List (String × Json)) :
    (Json.obj fields).compact.toList = '\x7b' :: commas fieldText fields ++ ['\x7d'] := by
  simp [compact, toList_compactFields]

/-- The text of a value opens with no blank and with nothing that closes a sequence. -/
theorem Exact.opens {a : Json} (h : a.Exact) : Opens a.compact.toList := by
  cases h with
  | null => exact ⟨'n', _, rfl, rfl, by decide, by decide⟩
  | bool b =>
      cases b with
      | false => exact ⟨'f', _, rfl, rfl, by decide, by decide⟩
      | true => exact ⟨'t', _, rfl, rfl, by decide, by decide⟩
  | @int n =>
      obtain ⟨c, more, hText, hGap, hNotBracket, hNotBrace, -, -⟩ := exists_opening n
      exact ⟨c, more, hText, hGap, hNotBracket, hNotBrace⟩
  | str s =>
      have hOpens := opens_string s []
      rwa [List.append_nil] at hOpens
  | arr => exact ⟨'[', _, toList_compact_arr _, rfl, by decide, by decide⟩
  | obj => exact ⟨'\x7b', _, toList_compact_obj _, rfl, by decide, by decide⟩

/-- What opens neither an array nor an object is no sequence. -/
theorem value?_eq_scalar? {c : Char} (hGap : isGap c = false) (hArr : c ≠ '[') (hObj : c ≠ '\x7b')
    (depth : Nat) (rest : List Char) : value? depth (c :: rest) = scalar? (c :: rest) := by
  have hSkip : skipGap (c :: rest) = c :: rest := by simp [skipGap, hGap]
  cases depth with
  | zero => rw [value?, hSkip]
  | succ depth =>
      rw [value?, hSkip]
      split
      next hText => exact absurd (List.cons.inj hText).1 hArr
      next hText => exact absurd (List.cons.inj hText).1 hObj
      next => rfl

/-- A member of an object is read back, if its value is. -/
theorem member?_fieldText {value : List Char → Option (Json × List Char)} {f : String × Json}
    (h : ReadsBack value (fun x => x.compact.toList) f.2) :
    ReadsBack (member? string? fun _ => value) fieldText f := by
  intro rest hRest
  have hGap : isGap ':' = false := rfl
  rw [fieldText, List.append_assoc, List.cons_append, member?]
  have hSkip := (opens_string f.1 []).skipGap (':' :: (f.2.compact.toList ++ rest))
  rw [List.append_nil] at hSkip
  rw [hSkip, string?_string]
  simp [skipGap, hGap, h rest hRest]

/-- One depth is enough for several values. -/
theorem exists_depth {α : Type} {P : Nat → α → Prop} {xs : List α}
    (h : ∀ x ∈ xs, ∃ d, ∀ depth, d ≤ depth → P depth x) :
    ∃ d, ∀ depth, d ≤ depth → ∀ x ∈ xs, P depth x := by
  induction xs with
  | nil => exact ⟨0, fun _ _ => nofun⟩
  | cons x xs ih =>
      obtain ⟨d, hFirst⟩ := h x List.mem_cons_self
      obtain ⟨e, hMore⟩ := ih fun y hy => h y (List.mem_cons_of_mem x hy)
      refine ⟨d + e, fun depth hDepth => List.forall_mem_cons.mpr ⟨?_, ?_⟩⟩
      · exact hFirst depth (by omega)
      · exact hMore depth (by omega)

/-- **What is written is read back**, by a reader that goes deep enough. -/
theorem Exact.readsBack {a : Json} (h : a.Exact) :
    ∃ d, ∀ depth, d ≤ depth → ReadsBack (value? depth) (fun x => x.compact.toList) a := by
  induction h with
  | null =>
      exact ⟨0, fun depth _ rest _ => value?_eq_scalar? (c := 'n') rfl (by decide) (by decide) depth _⟩
  | bool b =>
      refine ⟨0, fun depth _ rest _ => ?_⟩
      cases b with
      | false => exact value?_eq_scalar? (c := 'f') rfl (by decide) (by decide) depth _
      | true => exact value?_eq_scalar? (c := 't') rfl (by decide) (by decide) depth _
  | @int n low high =>
      refine ⟨0, fun depth _ rest hRest => ?_⟩
      obtain ⟨c, more, hText, hGap, -, -, hArr, hObj⟩ := exists_opening n
      have hScalar := scalar?_int low high hRest
      rw [hText, List.cons_append] at hScalar
      show value? depth ((Json.int n).compact.toList ++ rest) = _
      rw [hText, List.cons_append, value?_eq_scalar? hGap hArr hObj, hScalar]
  | str s =>
      refine ⟨0, fun depth _ rest _ => ?_⟩
      have hString := string?_string s rest
      show value? depth ((string s).toList ++ rest) = _
      rw [toList_string, List.cons_append, List.cons_append] at hString ⊢
      rw [value?_eq_scalar? rfl (by decide) (by decide), scalar?, hString]
      rfl
  | @arr items each ih =>
      obtain ⟨d, hItems⟩ := exists_depth ih
      refine ⟨d + 1, fun depth hDepth rest _ => ?_⟩
      obtain ⟨depth, rfl⟩ := Nat.exists_eq_succ_of_ne_zero (Nat.ne_of_gt (Nat.zero_lt_of_lt hDepth))
      have hRead := items?_commas (.inl rfl) (hItems depth (Nat.le_of_succ_le_succ hDepth))
        (fun x hx => (each x hx).opens) rest
      show value? (depth + 1) ((Json.arr items).compact.toList ++ rest) = _
      rw [toList_compact_arr, List.cons_append, List.cons_append, List.append_assoc,
        List.singleton_append]
      show (items? ']' (value? depth) _).map _ = _
      rw [hRead]
      rfl
  | @obj fields each ih =>
      obtain ⟨d, hValues⟩ := exists_depth ih
      refine ⟨d + 1, fun depth hDepth rest _ => ?_⟩
      obtain ⟨depth, rfl⟩ := Nat.exists_eq_succ_of_ne_zero (Nat.ne_of_gt (Nat.zero_lt_of_lt hDepth))
      have hRead := items?_commas (.inr rfl)
        (fun f hf => member?_fieldText (hValues depth (Nat.le_of_succ_le_succ hDepth) f hf))
        (fun f _ => opens_string f.1 _) rest
      show value? (depth + 1) ((Json.obj fields).compact.toList ++ rest) = _
      rw [toList_compact_obj, List.cons_append, List.cons_append, List.append_assoc,
        List.singleton_append]
      show (items? '\x7d' (member? string? fun _ => value? depth) _).map _ = _
      rw [hRead]
      rfl

/-- **Different values have different texts.** -/
theorem Exact.compact_injective {a b : Json} (ha : a.Exact) (hb : b.Exact)
    (h : a.compact = b.compact) : a = b := by
  obtain ⟨d, hLeft⟩ := ha.readsBack
  obtain ⟨e, hRight⟩ := hb.readsBack
  have hA : value? (d + e) (a.compact.toList ++ []) = some (a, []) :=
    hLeft (d + e) (Nat.le_add_right d e) [] ends_nil
  have hB : value? (d + e) (b.compact.toList ++ []) = some (b, []) :=
    hRight (d + e) (Nat.le_add_left e d) [] ends_nil
  rw [h, hB] at hA
  exact (Prod.mk.inj (Option.some.inj hA)).1.symm

end Lookout.Json
