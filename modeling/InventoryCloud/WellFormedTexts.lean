import InventoryCloud.CodePoints

/-!
# Well-formed texts

A text without unpaired surrogates encodes a string of Unicode characters.
Its bytes in UTF-8 are those of that string, so no two such texts have the
same bytes.
-/

namespace InventoryCloud
namespace JavaString

/-- Every surrogate is half of a pair. -/
def IsWellFormed (text : JavaString) : Prop :=
  ∀ codePoint ∈ codePoints text, ¬ (0xD800 ≤ codePoint ∧ codePoint ≤ 0xDFFF)

instance : DecidablePred IsWellFormed := fun text =>
  inferInstanceAs (Decidable (∀ codePoint ∈ codePoints text,
    ¬ (0xD800 ≤ codePoint ∧ codePoint ≤ 0xDFFF)))

theorem ofString_append (first second : String) :
    ofString (first ++ second) = ofString first ++ ofString second := by
  unfold ofString
  rw [String.toList_append, List.flatMap_append]

/-! ## The characters of a text -/

theorem isHighSurrogate_iff {unit : UInt16} :
    isHighSurrogate unit = true ↔
      0xD800 ≤ unit.toNat ∧ unit.toNat ≤ 0xDBFF := by
  simp only [isHighSurrogate, Bool.and_eq_true, decide_eq_true_eq,
    UInt16.le_iff_toNat_le]
  rfl

theorem isLowSurrogate_iff {unit : UInt16} :
    isLowSurrogate unit = true ↔
      0xDC00 ≤ unit.toNat ∧ unit.toNat ≤ 0xDFFF := by
  simp only [isLowSurrogate, Bool.and_eq_true, decide_eq_true_eq,
    UInt16.le_iff_toNat_le]
  rfl

theorem char_lt (char : Char) : char.toNat < 0x110000 := by
  rcases char.valid with hlow | hhigh
  · change char.toNat < 0xD800 at hlow
    omega
  · exact hhigh.2

theorem char_not_surrogate (char : Char) :
    ¬ (0xD800 ≤ char.toNat ∧ char.toNat ≤ 0xDFFF) := by
  rcases char.valid with hlow | hhigh
  · change char.toNat < 0xD800 at hlow
    omega
  · have habove : 0xDFFF < char.toNat := hhigh.1
    omega

/-- A unit that is no surrogate is a code point of its own. -/
theorem codePoints_cons_of_small {unit : UInt16} (rest : JavaString)
    (hsmall : isHighSurrogate unit = false) :
    codePoints (unit :: rest) = unit.toNat :: codePoints rest := by
  cases rest with
  | nil => rfl
  | cons low rest => simp [codePoints, hsmall]

theorem codePoints_encode_append (char : Char) (rest : JavaString) :
    codePoints (encodeCodePoint char.toNat ++ rest) =
      char.toNat :: codePoints rest := by
  have hbound := char_lt char
  have hscalar := char_not_surrogate char
  unfold encodeCodePoint
  split
  next hsmall =>
    have hunit : char.toNat.toUInt16.toNat = char.toNat := by
      simp [Nat.mod_eq_of_lt hsmall]
    have hsingle : isHighSurrogate char.toNat.toUInt16 = false := by
      rw [Bool.eq_false_iff]
      intro hhigh
      rw [isHighSurrogate_iff, hunit] at hhigh
      omega
    rw [List.singleton_append, codePoints_cons_of_small rest hsingle, hunit]
  next hlarge =>
    have hfirst : (0xD800 + (char.toNat - 0x10000) / 0x400).toUInt16.toNat =
        0xD800 + (char.toNat - 0x10000) / 0x400 := by
      simp only [Nat.toUInt16_eq, UInt16.toNat_ofNat']
      omega
    have hsecond : (0xDC00 + (char.toNat - 0x10000) % 0x400).toUInt16.toNat =
        0xDC00 + (char.toNat - 0x10000) % 0x400 := by
      simp only [Nat.toUInt16_eq, UInt16.toNat_ofNat']
      omega
    have hpair : (isHighSurrogate
          (0xD800 + (char.toNat - 0x10000) / 0x400).toUInt16 &&
        isLowSurrogate
          (0xDC00 + (char.toNat - 0x10000) % 0x400).toUInt16) = true := by
      rw [Bool.and_eq_true, isHighSurrogate_iff, isLowSurrogate_iff, hfirst,
        hsecond]
      omega
    have hvalue : 0x10000 +
          (0xD800 + (char.toNat - 0x10000) / 0x400 - 0xD800) * 0x400 +
        (0xDC00 + (char.toNat - 0x10000) % 0x400 - 0xDC00) = char.toNat := by
      omega
    rw [List.cons_append, List.singleton_append, codePoints, if_pos hpair,
      hfirst, hsecond, hvalue]

theorem codePoints_ofString (string : String) :
    codePoints (ofString string) = string.toList.map Char.toNat := by
  unfold ofString
  induction string.toList with
  | nil => rfl
  | cons char rest ih =>
      rw [List.flatMap_cons, codePoints_encode_append, ih, List.map_cons]

theorem ofString_inj {first second : String} :
    ofString first = ofString second ↔ first = second := by
  constructor
  · intro hsame
    have hcodes := congrArg codePoints hsame
    rw [codePoints_ofString, codePoints_ofString] at hcodes
    exact String.toList_inj.mp (List.map_injective_iff.mpr
      (fun _ _ => Char.toNat_inj.mp) hcodes)
  · intro hsame
    rw [hsame]

theorem codePoints_lt {text : JavaString} {codePoint : ℕ}
    (hmember : codePoint ∈ codePoints text) : codePoint < 0x110000 := by
  induction text using codePoints.induct with
  | case1 => cases hmember
  | case2 unit =>
      have hunit := unit.toNat_lt
      rw [codePoints, List.mem_singleton] at hmember
      omega
  | case3 high low rest hpair ih =>
      rw [codePoints, if_pos hpair, List.mem_cons] at hmember
      rcases hmember with hvalue | hrest
      · rw [Bool.and_eq_true, isHighSurrogate_iff, isLowSurrogate_iff] at hpair
        omega
      · exact ih hrest
  | case4 high low rest hpair ih =>
      rw [codePoints, if_neg hpair, List.mem_cons] at hmember
      rcases hmember with hvalue | hrest
      · have hunit := high.toNat_lt
        omega
      · exact ih hrest

/-- The well-formed texts are those which encode a string. -/
theorem isWellFormed_iff {text : JavaString} :
    IsWellFormed text ↔ ∃ string, ofString string = text := by
  constructor
  · intro hwell
    have hscalar : ∀ codePoint ∈ codePoints text,
        (Char.ofNat codePoint).toNat = codePoint := by
      intro codePoint hmember
      have hbound := codePoints_lt hmember
      have hno := hwell codePoint hmember
      have hvalid : codePoint.isValidChar := by
        unfold Nat.isValidChar
        omega
      rw [Char.ofNat, dif_pos hvalid]
      rfl
    refine ⟨String.ofList ((codePoints text).map Char.ofNat), ?_⟩
    calc ofString (String.ofList ((codePoints text).map Char.ofNat))
        = (codePoints text).flatMap fun codePoint =>
            encodeCodePoint (Char.ofNat codePoint).toNat := by
          rw [ofString, String.toList_ofList, List.flatMap_map]
      _ = (codePoints text).flatMap encodeCodePoint :=
          List.flatMap_congr fun codePoint hmember => by
            rw [hscalar codePoint hmember]
      _ = text := encode_codePoints text
  · rintro ⟨string, rfl⟩ codePoint hmember
    rw [codePoints_ofString, List.mem_map] at hmember
    obtain ⟨char, -, rfl⟩ := hmember
    exact char_not_surrogate char

theorem IsWellFormed.append {first second : JavaString}
    (hfirst : IsWellFormed first) (hsecond : IsWellFormed second) :
    IsWellFormed (first ++ second) := by
  obtain ⟨left, rfl⟩ := isWellFormed_iff.mp hfirst
  obtain ⟨right, rfl⟩ := isWellFormed_iff.mp hsecond
  rw [← ofString_append]
  exact isWellFormed_iff.mpr ⟨_, rfl⟩

theorem isWellFormed_ofString (string : String) :
    IsWellFormed (ofString string) :=
  isWellFormed_iff.mpr ⟨string, rfl⟩

/-! ## The bytes of a text -/

/-- The bytes of one character, by the length of their sequence. -/
theorem utf8EncodeChar_eq (char : Char) :
    String.utf8EncodeChar char =
      if char.toNat < 0x80 then [char.toNat.toUInt8]
      else if char.toNat < 0x800 then
        [(0xC0 + char.toNat / 0x40).toUInt8,
          (0x80 + char.toNat % 0x40).toUInt8]
      else if char.toNat < 0x10000 then
        [(0xE0 + char.toNat / 0x1000).toUInt8,
          (0x80 + char.toNat / 0x40 % 0x40).toUInt8,
          (0x80 + char.toNat % 0x40).toUInt8]
      else
        [(0xF0 + char.toNat / 0x40000).toUInt8,
          (0x80 + char.toNat / 0x1000 % 0x40).toUInt8,
          (0x80 + char.toNat / 0x40 % 0x40).toUInt8,
          (0x80 + char.toNat % 0x40).toUInt8] := by
  have hbound := char_lt char
  have hval : char.val.toNat = char.toNat := rfl
  have hbyte : ∀ {value other : ℕ}, value = other →
      UInt8.ofNat value = other.toUInt8 := fun hsame => congrArg _ hsame
  unfold String.utf8EncodeChar
  simp only [hval]
  by_cases hone : char.toNat < 0x80
  · rw [if_pos hone, if_pos (by omega)]
  rw [if_neg hone, if_neg (by omega)]
  by_cases htwo : char.toNat < 0x800
  · rw [if_pos htwo, if_pos (by omega), hbyte, hbyte] <;> omega
  rw [if_neg htwo, if_neg (by omega)]
  by_cases hthree : char.toNat < 0x10000
  · rw [if_pos hthree, if_pos (by omega), hbyte, hbyte, hbyte] <;> omega
  · rw [if_neg hthree, if_neg (by omega), hbyte, hbyte, hbyte, hbyte] <;> omega

theorem utf8Bytes_ofString (string : String) :
    utf8Bytes (ofString string) =
      string.toList.flatMap String.utf8EncodeChar := by
  rw [utf8Bytes, codePoints_ofString, List.flatMap_map]
  apply List.flatMap_congr
  intro char _
  rw [utf8EncodeChar_eq, if_neg (char_not_surrogate char)]

/-- Well-formed texts with the same bytes are the same. -/
theorem utf8Bytes_inj {first second : JavaString}
    (hfirst : IsWellFormed first) (hsecond : IsWellFormed second) :
    utf8Bytes first = utf8Bytes second ↔ first = second := by
  constructor
  · intro hbytes
    obtain ⟨left, rfl⟩ := isWellFormed_iff.mp hfirst
    obtain ⟨right, rfl⟩ := isWellFormed_iff.mp hsecond
    rw [utf8Bytes_ofString, utf8Bytes_ofString] at hbytes
    have hsame : left = right := by
      rw [← String.toByteArray_inj, ← String.utf8Encode_toList,
        ← String.utf8Encode_toList, List.utf8Encode, hbytes]
      rfl
    rw [hsame]
  · intro hsame
    rw [hsame]

end JavaString
end InventoryCloud
