import Lookout.Text.Percent

set_option autoImplicit false

/-! # Percent-encoding and back

Whatever set of characters is encoded, as long as the percent sign is in it, decoding gives the
text that was encoded, byte by byte and then character by character.
-/

namespace Lookout.Text

/-! ## The bytes of a text -/

theorem toList_loop (bytes : ByteArray) (i : Nat) (seen : List UInt8) :
    ByteArray.toList.loop bytes i seen = seen.reverse ++ bytes.data.toList.drop i := by
  fun_induction ByteArray.toList.loop bytes i seen with
  | case1 i seen hMore ih =>
      have hLength : i < bytes.data.toList.length := by simpa using hMore
      have hByte : bytes.get! i = bytes.data.toList[i] := by
        show bytes.data[i]! = _
        rw [getElem!_pos bytes.data i (by simpa using hMore)]
        simp
      rw [ih, hByte, List.drop_eq_getElem_cons hLength]
      simp
  | case2 i seen hDone =>
      have hLength : bytes.data.toList.length ≤ i := by
        have : bytes.data.toList.length = bytes.size := by simp
        omega
      rw [List.drop_eq_nil_of_le hLength, List.append_nil]

theorem bytesOf_eq_utf8EncodeChar (c : Char) : bytesOf c = String.utf8EncodeChar c := by
  have hBytes : (String.singleton c).toUTF8 = (String.utf8EncodeChar c).toByteArray := by
    rw [String.toUTF8_eq_toByteArray, String.toByteArray_singleton, List.utf8Encode_singleton]
  rw [bytesOf, hBytes, ByteArray.toList, toList_loop, List.toList_data_toByteArray]
  simp

theorem bytesOf_ne_nil (c : Char) : bytesOf c ≠ [] := by
  rw [bytesOf_eq_utf8EncodeChar]
  exact String.utf8EncodeChar_ne_nil

/-- The bytes of all characters are those of the text. -/
theorem toList_toByteArray (s : String) :
    s.toByteArray.data.toList = s.toList.flatMap bytesOf := by
  conv => lhs; rw [← String.ofList_toList (s := s)]
  rw [String.toByteArray_ofList, List.utf8Encode, List.toList_data_toByteArray,
    funext bytesOf_eq_utf8EncodeChar]

theorem fromUTF8?_toByteArray (s : String) : String.fromUTF8? s.toByteArray = some s := by
  unfold String.fromUTF8?
  rw [dif_pos s.isValidUTF8]
  rfl

/-! ## Encoded texts -/

theorem hexDigit?_toUpper_digitChar :
    ∀ n < 16, Json.hexDigit? (Nat.digitChar n).toUpper = some n := by decide

/-- An encoded byte is decoded. -/
theorem percentBytes_percentByte (b : UInt8) (rest : List Char) :
    percentBytes ((percentByte b).toList ++ rest) = b :: percentBytes rest := by
  have hByte : b.toNat < 256 := b.toNat_lt
  have hHigh := hexDigit?_toUpper_digitChar (b.toNat / 16) (by omega)
  have hLow := hexDigit?_toUpper_digitChar (b.toNat % 16) (by omega)
  have hWhole : UInt8.ofNat (b.toNat / 16 * 16 + b.toNat % 16) = b := by
    rw [Nat.div_add_mod', UInt8.ofNat_toNat]
  simp only [percentByte, String.toList_ofList, List.cons_append, List.nil_append]
  rw [percentBytes, hHigh, hLow]
  simp only [hWhole]

theorem percentBytes_percentBytes (bytes : List UInt8) (rest : List Char) :
    percentBytes ((String.join (bytes.map percentByte)).toList ++ rest) =
      bytes ++ percentBytes rest := by
  induction bytes with
  | nil => simp
  | cons b bytes ih =>
      rw [List.map_cons, String.join_cons, String.toList_append, List.append_assoc,
        percentBytes_percentByte, ih, List.cons_append]

variable {inSet : Char → Bool}

/-- An encoded character is decoded to its bytes. -/
theorem percentBytes_percentChar (hPercent : inSet '%' = true) (c : Char) (rest : List Char) :
    percentBytes ((percentChar inSet c).toList ++ rest) = bytesOf c ++ percentBytes rest := by
  unfold percentChar
  split
  next hPlain =>
    have hNotPercent : c ≠ '%' := by
      rintro rfl
      exact hPlain.2 hPercent
    rw [String.toList_singleton, List.singleton_append, percentBytes]
    rintro a b more rfl
    exact absurd rfl hNotPercent
  next => exact percentBytes_percentBytes (bytesOf c) rest

theorem percentEncode_cons (inSet : Char → Bool) (c : Char) (cs : List Char) :
    percentEncode inSet (c :: cs) = percentChar inSet c ++ percentEncode inSet cs := by
  rw [percentEncode, List.map_cons, String.join_cons]
  rfl

theorem percentBytes_percentEncode (hPercent : inSet '%' = true) (cs : List Char) :
    percentBytes (percentEncode inSet cs).toList = cs.flatMap bytesOf := by
  induction cs with
  | nil => rfl
  | cons c cs ih =>
      rw [percentEncode_cons, String.toList_append, percentBytes_percentChar hPercent, ih,
        List.flatMap_cons]

/-- **What was encoded is what is decoded.** -/
theorem percentDecode?_percentEncode (hPercent : inSet '%' = true) (s : String) :
    percentDecode? (percentEncode inSet s.toList).toList = some s := by
  rw [percentDecode?, percentBytes_percentEncode hPercent, ← toList_toByteArray]
  exact fromUTF8?_toByteArray s

theorem percentChar_ne_empty (inSet : Char → Bool) (c : Char) : percentChar inSet c ≠ "" := by
  unfold percentChar
  split
  · simp
  · obtain ⟨b, bytes, hBytes⟩ := List.exists_cons_of_ne_nil (bytesOf_ne_nil c)
    rw [hBytes, List.map_cons, String.join_cons]
    simp [percentByte]

/-- Nothing but the empty text is encoded as the empty text. -/
theorem percentEncode_ne_empty (inSet : Char → Bool) {cs : List Char} (hNonempty : cs ≠ []) :
    percentEncode inSet cs ≠ "" := by
  obtain ⟨c, rest, rfl⟩ := List.exists_cons_of_ne_nil hNonempty
  rw [percentEncode_cons]
  intro hEmpty
  exact percentChar_ne_empty inSet c (String.append_eq_empty_iff.mp hEmpty).1

end Lookout.Text
