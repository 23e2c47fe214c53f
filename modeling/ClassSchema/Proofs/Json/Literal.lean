import ClassSchema.Proofs.Json.Lexeme
import Mathlib.Tactic.SplitIfs

/-
# String literals and what they mean

`Means cs ds` says of the characters `cs` between the quotes of a literal that they are a way to
write the text `ds`: every character stands for itself, as far as it may, or is written with one of
the short escapes, with the number of its code unit, or, beyond the first plane, with the numbers of
a surrogate pair.  This is said character by character, while the scan gathers code units and joins
them in the end.  The two agree (`Means.exists_spells`, `Spells.means`), so a literal of which
nothing can be said is one in which a surrogate has no partner.
-/

namespace ClassSchema.Json

/-- Four hexadecimal digits that write the number of a code unit. -/
inductive IsUnit : List Char → Nat → Prop
  | mk {a b c d : Char} {i j k l : Nat} (ha : hexDigit? a = some i) (hb : hexDigit? b = some j)
      (hc : hexDigit? c = some k) (hd : hexDigit? d = some l) :
      IsUnit [a, b, c, d] (16 * (16 * (16 * i + j) + k) + l)

/-- The first half of the surrogate pair of a character. -/
def highHalf (c : Char) : Nat := 0xD800 + (c.toNat - 0x10000) / 0x400

/-- The second half of the surrogate pair of a character. -/
def lowHalf (c : Char) : Nat := 0xDC00 + (c.toNat - 0x10000) % 0x400

/-- The first characters, written between quotes, are a way to write the text of the second. -/
inductive Means : List Char → List Char → Prop
  | nil : Means [] []
  | plain {c : Char} {cs ds : List Char} (hquote : c ≠ '"') (hslash : c ≠ '\\')
      (hcontrol : 0x20 ≤ c.toNat) (h : Means cs ds) : Means (c :: cs) (c :: ds)
  | short {e c : Char} {cs ds : List Char} (he : shortEscape? e = some c) (h : Means cs ds) :
      Means ('\\' :: e :: cs) (c :: ds)
  | unit {c : Char} {us cs ds : List Char} (hc : IsUnit us c.toNat) (h : Means cs ds) :
      Means ('\\' :: 'u' :: us ++ cs) (c :: ds)
  | pair {c : Char} {us vs cs ds : List Char} (hc : 0x10000 ≤ c.toNat)
      (hhigh : IsUnit us (highHalf c)) (hlow : IsUnit vs (lowHalf c)) (h : Means cs ds) :
      Means ('\\' :: 'u' :: us ++ '\\' :: 'u' :: vs ++ cs) (c :: ds)

/-! ### Code units and characters -/

lemma toNat_lt (c : Char) : c.toNat < 0x110000 := by
  rcases c.valid with h | ⟨-, h⟩
  · have h' : c.toNat < 0xD800 := h
    omega
  · exact h

lemma toNat_ofNat {n : Nat} (h : n.isValidChar) : (Char.ofNat n).toNat = n := by
  rw [Char.ofNat, dif_pos h]
  rfl

/-- A character that is no surrogate is its own code unit. -/
lemma joinSurrogates_cons_toNat (c : Char) (us : List Nat) :
    joinSurrogates (c.toNat :: us) = (joinSurrogates us).map (c :: ·) := by
  obtain ⟨hhigh, hlow⟩ := toNat_not_surrogate c
  cases us with
  | nil => simp [joinSurrogates, hhigh, hlow]
  | cons u rest => simp [joinSurrogates, hhigh, hlow]

lemma isHighSurrogate_highHalf {c : Char} (hc : 0x10000 ≤ c.toNat) :
    isHighSurrogate (highHalf c) = true := by
  have h := toNat_lt c
  simp only [isHighSurrogate, Bool.and_eq_true, decide_eq_true_eq]
  rw [highHalf]
  omega

lemma isLowSurrogate_lowHalf (c : Char) : isLowSurrogate (lowHalf c) = true := by
  simp only [isLowSurrogate, Bool.and_eq_true, decide_eq_true_eq]
  rw [lowHalf]
  omega

/-- The halves of a surrogate pair are joined to the character. -/
lemma joinSurrogates_cons_halves {c : Char} (hc : 0x10000 ≤ c.toNat) (us : List Nat) :
    joinSurrogates (highHalf c :: lowHalf c :: us) = (joinSurrogates us).map (c :: ·) := by
  have hvalue :
      0x10000 + (highHalf c - 0xD800) * 0x400 + (lowHalf c - 0xDC00) = c.toNat := by
    simp only [highHalf, lowHalf]
    omega
  rw [joinSurrogates, isHighSurrogate_highHalf hc, isLowSurrogate_lowHalf, Bool.and_self,
    if_pos rfl, hvalue, Char.ofNat_toNat]

/-- What is said of a literal is what its code units spell. -/
lemma Means.exists_spells {cs ds : List Char} (h : Means cs ds) :
    ∃ us, Spells cs us ∧ joinSurrogates us = some ds := by
  induction h with
  | nil => exact ⟨[], .nil, rfl⟩
  | @plain c cs ds hquote hslash hcontrol _ ih =>
    obtain ⟨us, hus, hjoin⟩ := ih
    exact ⟨_, .plain hquote hslash hcontrol hus, by rw [joinSurrogates_cons_toNat, hjoin]; rfl⟩
  | @short e c cs ds he _ ih =>
    obtain ⟨us, hus, hjoin⟩ := ih
    exact ⟨_, .short he hus, by rw [joinSurrogates_cons_toNat, hjoin]; rfl⟩
  | @unit c us cs ds hc _ ih =>
    obtain ⟨vs, hvs, hjoin⟩ := ih
    refine ⟨c.toNat :: vs, ?_, by rw [joinSurrogates_cons_toNat, hjoin]; rfl⟩
    generalize c.toNat = n at hc
    obtain ⟨ha, hb, hc, hd⟩ := hc
    exact .hex ha hb hc hd hvs
  | @pair c us vs cs ds hc hhigh hlow _ ih =>
    obtain ⟨ws, hws, hjoin⟩ := ih
    refine ⟨highHalf c :: lowHalf c :: ws, ?_,
      by rw [joinSurrogates_cons_halves hc, hjoin]; rfl⟩
    generalize highHalf c = n at hhigh
    generalize lowHalf c = m at hlow
    obtain ⟨ha, hb, hc, hd⟩ := hhigh
    obtain ⟨ha', hb', hc', hd'⟩ := hlow
    exact .hex ha hb hc hd (.hex ha' hb' hc' hd' hws)

lemma lt_of_hexDigit? {c : Char} {n : Nat} (h : hexDigit? c = some n) : n < 16 := by
  have hle : ∀ a b : Char, a ≤ b → a.toNat ≤ b.toNat := fun _ _ hab => hab
  unfold hexDigit? at h
  split_ifs at h with hdecimal hsmall hcapital
  · have hc : c.toNat ≤ 57 := hle _ _ hdecimal.2
    have hn : c.toNat - 48 = n := Option.some.inj h
    omega
  · have hc : c.toNat ≤ 102 := hle _ _ hsmall.2
    have hn : c.toNat - 97 + 10 = n := Option.some.inj h
    omega
  · have hc : c.toNat ≤ 70 := hle _ _ hcapital.2
    have hn : c.toNat - 65 + 10 = n := Option.some.inj h
    omega

/-- A code unit that is no surrogate is the number of a character. -/
lemma toNat_ofNat_of_isUnit {us : List Char} {n : Nat} (h : IsUnit us n)
    (hhigh : isHighSurrogate n = false) (hlow : isLowSurrogate n = false) :
    (Char.ofNat n).toNat = n := by
  obtain @⟨a, b, c, d, i, j, k, l, ha, hb, hc, hd⟩ := h
  have ha' := lt_of_hexDigit? ha
  have hb' := lt_of_hexDigit? hb
  have hc' := lt_of_hexDigit? hc
  have hd' := lt_of_hexDigit? hd
  simp only [isHighSurrogate, isLowSurrogate, Bool.and_eq_false_iff, decide_eq_false_iff_not]
    at hhigh hlow
  refine toNat_ofNat ?_
  unfold Nat.isValidChar
  omega

/-- Two surrogates that are a pair are the halves of their character. -/
lemma halves_ofNat {n m : Nat} (hn : isHighSurrogate n = true) (hm : isLowSurrogate m = true) :
    0x10000 ≤ (Char.ofNat (0x10000 + (n - 0xD800) * 0x400 + (m - 0xDC00))).toNat ∧
      n = highHalf (Char.ofNat (0x10000 + (n - 0xD800) * 0x400 + (m - 0xDC00))) ∧
      m = lowHalf (Char.ofNat (0x10000 + (n - 0xD800) * 0x400 + (m - 0xDC00))) := by
  simp only [isHighSurrogate, isLowSurrogate, Bool.and_eq_true, decide_eq_true_eq] at hn hm
  have hvalid : (0x10000 + (n - 0xD800) * 0x400 + (m - 0xDC00)).isValidChar := by
    right
    omega
  rw [highHalf, lowHalf, toNat_ofNat hvalid]
  omega

namespace Spells

variable {cs ds : List Char} {us : List Nat} {n : Nat}

/-- A surrogate is written with its number. -/
lemma exists_isUnit (h : Spells cs (n :: us))
    (hn : isHighSurrogate n = true ∨ isLowSurrogate n = true) :
    ∃ digits rest, cs = '\\' :: 'u' :: digits ++ rest ∧ IsUnit digits n ∧ Spells rest us := by
  cases h with
  | @plain c _ _ _ _ _ _ | @short _ c _ _ _ _ =>
    obtain ⟨hhigh, hlow⟩ := toNat_not_surrogate c
    rw [hhigh, hlow] at hn
    simp at hn
  | hex ha hb hc hd hrest => exact ⟨_, _, rfl, .mk ha hb hc hd, hrest⟩

/-- A code unit that is no surrogate is that of a character. -/
lemma means_cons (h : Spells cs (n :: us)) (hhigh : isHighSurrogate n = false)
    (hlow : isLowSurrogate n = false) (hrest : ∀ cs', Spells cs' us → Means cs' ds) :
    Means cs (Char.ofNat n :: ds) := by
  cases h with
  | plain hquote hslash hcontrol h' =>
    rw [Char.ofNat_toNat]
    exact .plain hquote hslash hcontrol (hrest _ h')
  | short he h' =>
    rw [Char.ofNat_toNat]
    exact .short he (hrest _ h')
  | hex ha hb hc hd h' =>
    have hunit := IsUnit.mk ha hb hc hd
    rw [← toNat_ofNat_of_isUnit hunit hhigh hlow] at hunit
    exact .unit hunit (hrest _ h')

/-- Code units that can be joined mean something. -/
lemma means (h : Spells cs us) (hjoin : joinSurrogates us = some ds) : Means cs ds := by
  fun_induction joinSurrogates us generalizing cs ds with
  | case1 =>
    cases h
    obtain rfl := Option.some.inj hjoin
    exact .nil
  | case2 n hlone => cases hjoin
  | case3 n hlone =>
    simp only [Bool.or_eq_true, not_or, Bool.not_eq_true] at hlone
    obtain rfl := Option.some.inj hjoin
    refine h.means_cons hlone.1 hlone.2 fun cs' h' => ?_
    cases h'
    exact .nil
  | case4 n m rest hpair ih =>
    rw [Bool.and_eq_true] at hpair
    obtain ⟨digits, cs', rfl, hn, h'⟩ := h.exists_isUnit (.inl hpair.1)
    obtain ⟨digits', cs'', rfl, hm, h''⟩ := h'.exists_isUnit (.inr hpair.2)
    obtain ⟨ds', hds', rfl⟩ := Option.map_eq_some_iff.1 hjoin
    obtain ⟨hc, hhigh, hlow⟩ := halves_ofNat hpair.1 hpair.2
    have hmeans := Means.pair hc (hhigh ▸ hn) (hlow ▸ hm) (ih h'' hds')
    rwa [List.append_assoc] at hmeans
  | case5 n m rest hpair hlone => cases hjoin
  | case6 n m rest hpair hlone ih =>
    simp only [Bool.or_eq_true, not_or, Bool.not_eq_true] at hlone
    obtain ⟨ds', hds', rfl⟩ := Option.map_eq_some_iff.1 hjoin
    exact h.means_cons hlone.1 hlone.2 fun cs' h' => ih h' hds'

end Spells

/-- What the printer writes for a text means it. -/
lemma means_writtenChars (cs : List Char) : Means (cs.flatMap writtenChar) cs :=
  (spells_writtenChars cs).means (joinSurrogates_map_toNat cs)

end ClassSchema.Json
