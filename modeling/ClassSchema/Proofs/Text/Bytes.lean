import Mathlib.Data.String.Basic

/-
# Texts and their bytes

In UTF-8 a character takes one to four bytes.  The first tells how many there are, and the others
hold six bits each, the upper ones first.  So a character with a greater number has greater bytes,
be it that there are more of them or that the first difference is in some digit to the base 64
(`utf8EncodeChar_append_lt`), and texts are ordered by their bytes as they are by their characters
(`utf8_lt_utf8`).
-/

namespace ClassSchema.Text

/-! ### Bytes that are a text -/

/-- The bytes that are read as a text are the bytes of that text. -/
lemma fromUTF8?_eq_some_iff {bytes : ByteArray} {s : String} :
    String.fromUTF8? bytes = some s ↔ bytes = s.toUTF8 := by
  rw [String.fromUTF8?]
  constructor
  · split
    next h => rintro ⟨⟩; rfl
    next h => rintro ⟨⟩
  · rintro rfl
    exact dif_pos s.isValidUTF8

lemma toUTF8_toList (s : String) :
    s.toUTF8.data.toList = s.toList.flatMap String.utf8EncodeChar := by
  have hbytes : s.toUTF8 = s.toList.utf8Encode := by
    rw [← String.toByteArray_ofList, String.ofList_toList, String.toUTF8]
  rw [hbytes, List.utf8Encode, List.toList_data_toByteArray]

/-! ### Order -/

lemma ofNat_cons_lt_iff {m n : Nat} (hm : m < 256) (hn : n < 256) (xs ys : List UInt8) :
    UInt8.ofNat m :: xs < UInt8.ofNat n :: ys ↔ m < n ∨ m = n ∧ xs < ys := by
  rw [List.cons_lt_cons_iff, UInt8.lt_iff_toNat_lt, ← UInt8.toNat_inj,
    UInt8.toNat_ofNat_of_lt' hm, UInt8.toNat_ofNat_of_lt' hn]

/-- Numbers are ordered by their upper digits and then by the last one, here to the base 64. -/
lemma lt_iff_digits (v w : Nat) :
    v < w ↔ v / 64 < w / 64 ∨ v / 64 = w / 64 ∧ v % 64 < w % 64 := by
  omega

lemma toNat_lt_of_char (c : Char) : c.val.toNat < 0x110000 := by
  rcases c.valid with h | h
  · have hval : c.val.toNat < 0xd800 := h
    omega
  · exact h.2

/-- The bytes of a lesser character come first, whatever follows them. -/
lemma utf8EncodeChar_append_lt {c d : Char} (h : c < d) (xs ys : List UInt8) :
    String.utf8EncodeChar c ++ xs < String.utf8EncodeChar d ++ ys := by
  have hlt : c.val.toNat < d.val.toNat := h
  have hd : d.val.toNat < 0x110000 := toNat_lt_of_char d
  generalize hv : c.val.toNat = v at hlt
  generalize hw : d.val.toNat = w at hlt hd
  rw [String.utf8EncodeChar, String.utf8EncodeChar, hv, hw]
  clear hv hw h c d
  split_ifs <;> simp (disch := omega) only [List.cons_append, List.nil_append, ofNat_cons_lt_iff]
  -- two times four bytes are left over: there the digits are compared one after the other
  all_goals try omega
  rw [lt_iff_digits, lt_iff_digits (v / 64), lt_iff_digits (v / 64 / 64)] at hlt
  simp only [Nat.div_div_eq_div_mul, Nat.reduceMul] at hlt
  omega

lemma flatMap_utf8EncodeChar_lt {cs ds : List Char} (h : cs < ds) :
    cs.flatMap String.utf8EncodeChar < ds.flatMap String.utf8EncodeChar := by
  induction h with
  | @nil d ds =>
    have hne : String.utf8EncodeChar d ≠ [] := by
      rw [← List.length_pos_iff, String.length_utf8EncodeChar]
      exact Char.utf8Size_pos d
    obtain ⟨b, bs, hb⟩ := List.exists_cons_of_ne_nil hne
    rw [List.flatMap_nil, List.flatMap_cons, hb, List.cons_append]
    exact List.nil_lt_cons b _
  | rel h =>
    rw [List.flatMap_cons, List.flatMap_cons]
    exact utf8EncodeChar_append_lt h _ _
  | cons _ ih =>
    rw [List.flatMap_cons, List.flatMap_cons]
    exact List.append_left_lt ih

/-- A text that comes before another one comes before it also by its bytes. -/
theorem utf8_lt_utf8 {s t : String} (h : s < t) :
    s.toUTF8.data.toList < t.toUTF8.data.toList := by
  rw [toUTF8_toList, toUTF8_toList]
  exact flatMap_utf8EncodeChar_lt (String.lt_iff_toList_lt.1 h)

end ClassSchema.Text
