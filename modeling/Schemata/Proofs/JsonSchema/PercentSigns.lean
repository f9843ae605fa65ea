import Schemata.JsonSchema.UriReference

/-!
# Percent signs

Decoding goes through a text byte by byte and changes only what a percent sign starts. A front of
ASCII characters without one stays in front, and what follows it is decoded by itself.

    no percent sign in p → decodePercent? (p ++ t) = some u →
      u = p ++ v and decodePercent? t = some v                          (decodePercent?_append)
-/

namespace Schemata.JsonSchema.UriReference

/-! ## Algorithm -/

/-- Whether a character is a byte that decoding leaves alone. -/
def IsPlain (c : Char) : Prop := c.val ≤ 127 ∧ c ≠ '%'

instance (c : Char) : Decidable (IsPlain c) :=
  inferInstanceAs (Decidable (c.val ≤ 127 ∧ c ≠ '%'))

theorem plain_of_all {chars : List Char} (h : (chars.all fun c => decide (IsPlain c)) = true) :
    ∀ c ∈ chars, IsPlain c :=
  fun c hc => of_decide_eq_true (List.all_eq_true.1 h c hc)

/-! ## Bytes -/

theorem toList_loop (bytes : ByteArray) (i : Nat) (done : List UInt8) :
    ByteArray.toList.loop bytes i done = done.reverse ++ bytes.data.toList.drop i := by
  induction i, done using ByteArray.toList.loop.induct bytes with
  | case1 i done hlt ih =>
    have hi : i < bytes.data.toList.length := by simpa using hlt
    have hget : bytes.get! i = bytes.data.toList[i] := by
      rw [Array.getElem_toList]
      exact getElem!_pos bytes.data i (by simpa using hlt)
    rw [ByteArray.toList.loop, if_pos hlt, ih, List.drop_eq_getElem_cons hi, hget]
    simp
  | case2 i done hge =>
    have hi : bytes.data.toList.length ≤ i := by simpa using hge
    rw [ByteArray.toList.loop, if_neg hge, List.drop_eq_nil_of_le hi, List.append_nil]

theorem toList_bytes (bytes : ByteArray) : bytes.toList = bytes.data.toList := by
  rw [ByteArray.toList, toList_loop]
  simp

/-- The bytes of a text, character by character. -/
theorem toList_toUTF8 (text : String) :
    text.toUTF8.toList = text.toList.flatMap String.utf8EncodeChar := by
  rw [toList_bytes, String.toUTF8_eq_toByteArray, ← String.utf8Encode_toList, List.utf8Encode,
    List.data_toByteArray]

theorem percent_not_mem_bytes {chars : List Char} (h : ∀ c ∈ chars, IsPlain c) :
    37 ∉ chars.flatMap String.utf8EncodeChar := by
  rw [List.mem_flatMap]
  rintro ⟨c, hc, hmem⟩
  obtain ⟨hascii, hpercent⟩ := h c hc
  rw [String.utf8EncodeChar_eq_singleton (Char.utf8Size_eq_one_iff.2 hascii),
    List.mem_singleton] at hmem
  apply hpercent
  apply Char.ext
  have hbyte := congrArg UInt8.toNat hmem
  have hsmall : c.val.toNat ≤ 127 := hascii
  rw [UInt32.toNat_toUInt8] at hbyte
  apply UInt32.toNat_inj.1
  show c.val.toNat = 37
  have hleft : (37 : UInt8).toNat = 37 := rfl
  omega

/-- Bytes without the percent sign are left alone. -/
theorem go_append {front : List UInt8} (h : 37 ∉ front) (rest : List UInt8) :
    decodePercent?.go (front ++ rest) = front ++ decodePercent?.go rest := by
  induction front with
  | nil => rfl
  | cons b front ih =>
    rw [List.mem_cons, not_or] at h
    rw [List.cons_append, decodePercent?.go, ih h.2, List.cons_append]
    rintro a b' rest' rfl
    exact absurd rfl h.1

/-! ## Texts -/

theorem decodePercent?_eq_some {text decoded : String} (h : decodePercent? text = some decoded) :
    decoded.toByteArray.data.toList = decodePercent?.go text.toUTF8.toList := by
  unfold decodePercent? String.fromUTF8? at h
  split at h
  · cases h
    rfl
  · cases h

theorem decodePercent?_of_bytes {text decoded : String}
    (h : decoded.toByteArray.data.toList = decodePercent?.go text.toUTF8.toList) :
    decodePercent? text = some decoded := by
  have hbytes : ByteArray.mk (decodePercent?.go text.toUTF8.toList).toArray =
      decoded.toByteArray := by
    rw [← h]
  unfold decodePercent?
  rw [hbytes]
  exact dif_pos decoded.isValidUTF8

/-- A front without percent signs stays in front, and the rest is decoded by itself. -/
theorem decodePercent?_append {front text decoded : String} (hfront : ∀ c ∈ front.toList, IsPlain c)
    (h : decodePercent? (front ++ text) = some decoded) :
    ∃ rest, decoded = front ++ rest ∧ decodePercent? text = some rest := by
  have hbytes := decodePercent?_eq_some h
  rw [toList_toUTF8, String.toList_append, List.flatMap_append,
    go_append (percent_not_mem_bytes hfront), ← toList_toUTF8, ← toList_toUTF8, toList_bytes] at hbytes
  have hjoined : front.toByteArray ++ ⟨(decodePercent?.go text.toUTF8.toList).toArray⟩ =
      decoded.toByteArray := by
    apply ByteArray.ext
    apply Array.toList_inj.1
    rw [hbytes, ByteArray.data_append, Array.toList_append]
    rfl
  rw [← String.utf8Encode_toList, ← String.utf8Encode_toList (b := decoded)] at hjoined
  obtain ⟨rest, hrest⟩ := List.isPrefix_of_utf8Encode_append_eq_utf8Encode _ hjoined
  have hdecoded : decoded = front ++ String.ofList rest := by
    apply String.toList_inj.1
    rw [String.toList_append, String.toList_ofList, hrest]
  refine ⟨String.ofList rest, hdecoded, decodePercent?_of_bytes ?_⟩
  rw [hdecoded, String.toByteArray_append, ByteArray.data_append, Array.toList_append] at hbytes
  exact List.append_cancel_left hbytes

end Schemata.JsonSchema.UriReference
