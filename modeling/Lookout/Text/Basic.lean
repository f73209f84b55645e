set_option autoImplicit false

/-! # Texts

What is asked of texts everywhere: whether they are blank, what their pieces are, and how numbers
and time spans are written.
-/

namespace Lookout.Text

/-! ## Blank text

The white space characters of Unicode, and trimming by them.
-/

/-- The white space characters. -/
def isBlank (c : Char) : Bool :=
  let n := c.toNat
  (0x9 ≤ n && n ≤ 0xd) || n == 0x20 || n == 0x85 || n == 0xa0 || n == 0x1680
    || (0x2000 ≤ n && n ≤ 0x200a) || n == 0x2028 || n == 0x2029 || n == 0x202f
    || n == 0x205f || n == 0x3000

/-- Whether nothing is left of a text when white space is trimmed off. -/
def isBlankText (s : String) : Bool := s.toList.all isBlank

/-! ## Splitting texts

The pieces of a text between separators. A separator divides a text into two that are split
on their own, so there is one piece more than there are separators.
-/

/-- The pieces of a text between separators. -/
def split (isSeparator : Char → Bool) (cs : List Char) : List (List Char) :=
  cs.foldr (fun c pieces =>
    if isSeparator c then [] :: pieces
    else match pieces with
      | [] => [[c]]
      | piece :: pieces => (c :: piece) :: pieces) [[]]

theorem split_cons (isSeparator : Char → Bool) (c : Char) (cs : List Char) :
    split isSeparator (c :: cs) =
      if isSeparator c then [] :: split isSeparator cs
      else match split isSeparator cs with
        | [] => [[c]]
        | piece :: pieces => (c :: piece) :: pieces := rfl

theorem split_ne_nil (isSeparator : Char → Bool) (cs : List Char) : split isSeparator cs ≠ [] := by
  cases cs with
  | nil => simp [split]
  | cons c rest =>
    rw [split_cons]
    split
    · simp
    · split <;> simp

/-- A separator divides a text into two that are split on their own. -/
theorem split_append_cons {isSeparator : Char → Bool} {c : Char} (h : isSeparator c = true)
    (xs ys : List Char) :
    split isSeparator (xs ++ c :: ys) = split isSeparator xs ++ split isSeparator ys := by
  induction xs with
  | nil => simp [split, h]
  | cons x rest ih =>
    rw [List.cons_append, split_cons, split_cons, ih]
    by_cases hx : isSeparator x
    · simp [hx]
    · obtain ⟨piece, pieces, hp⟩ := List.exists_cons_of_ne_nil (split_ne_nil isSeparator rest)
      simp [hx, hp]

/-- A text without separators is one piece. -/
theorem split_of_no_separator {isSeparator : Char → Bool} {cs : List Char}
    (h : ∀ c ∈ cs, isSeparator c = false) : split isSeparator cs = [cs] := by
  induction cs with
  | nil => rfl
  | cons c rest ih =>
      rw [split_cons, if_neg (by simp [h c List.mem_cons_self]),
        ih fun d hd => h d (List.mem_cons_of_mem c hd)]

/-- A text that ends with no separator ends with its last piece. -/
theorem split_concat {isSeparator : Char → Bool} {c : Char} (h : isSeparator c = false)
    (cs : List Char) :
    ∃ pieces last, split isSeparator (cs ++ [c]) = pieces ++ [last ++ [c]] ∧
      ∀ d ∈ last, d ∈ cs := by
  induction cs with
  | nil => exact ⟨[], [], by simp [split, h], List.forall_mem_nil _⟩
  | cons d cs ih =>
      obtain ⟨pieces, last, hSplit, hPart⟩ := ih
      have hKept : ∀ e ∈ last, e ∈ d :: cs := fun e he => List.mem_cons_of_mem d (hPart e he)
      rw [List.cons_append, split_cons, hSplit]
      by_cases hSeparator : isSeparator d
      · exact ⟨[] :: pieces, last, by simp [hSeparator], hKept⟩
      · cases pieces with
        | nil =>
            refine ⟨[], d :: last, by simp [hSeparator], ?_⟩
            exact List.forall_mem_cons.mpr ⟨List.mem_cons_self, hKept⟩
        | cons piece pieces =>
            exact ⟨(d :: piece) :: pieces, last, by simp [hSeparator], hKept⟩

/-- The words of a text: its pieces between blanks and line ends. -/
def words (s : String) : List (List Char) :=
  (split (fun c => c == ' ' || c == '\n') s.toList).filter fun w => !w.isEmpty

/-! ## Decimal digits

The digits of a natural number, with leading zeros up to a wanted width, and decimal
fractions without trailing zeros.
-/

/-- The decimal digits of `n`, padded on the left with zeros to at least `width`. -/
def padded (width n : Nat) : String :=
  let digits := Nat.toDigits 10 n
  String.ofList (List.replicate (width - digits.length) '0' ++ digits)

/-- A digit sequence without its trailing zeros. -/
def dropTrailingZeros (digits : List Char) : List Char :=
  (digits.reverse.dropWhile (· == '0')).reverse

/-- The value `whole + thousandths / 1000` with as many decimals as it needs. -/
def thousandths (whole parts : Nat) : String :=
  let decimals := dropTrailingZeros (padded 3 parts).toList
  if decimals.isEmpty then toString whole else toString whole ++ "." ++ String.ofList decimals

/-! ## Time spans as text

A time span is written in seconds from one second on and in milliseconds below, with the
decimals it needs: `2s`, `1.5s`, `500ms`. The empty span is `0ns`.
-/

/-- A span of `ms` milliseconds as text. -/
def span (ms : Nat) : String :=
  if ms = 0 then "0ns"
  else if ms < 1000 then toString ms ++ "ms"
  else thousandths (ms / 1000) (ms % 1000) ++ "s"

/-- Items in square brackets, separated by a comma and a blank. -/
def bracketed (items : List String) : String := "[" ++ ", ".intercalate items ++ "]"

example : span 2000 = "2s" ∧ span 1500 = "1.5s" ∧ span 500 = "500ms" ∧ span 0 = "0ns" := by
  decide +kernel

end Lookout.Text
