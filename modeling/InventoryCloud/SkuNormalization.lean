import InventoryCloud.CodePoints
import InventoryCloud.DatabaseSchema

/-!
# Normalized SKUs

`normalizeSku` tests its pattern after upper-casing.  Ten characters outside
ASCII have an ASCII upper case; spelled out as these letters they pass where
the documented pattern of the API does not let them pass.  Apart from texts
with such look-alikes the normalization accepts the documented grammar, and
two SKUs collide if they differ in the case of ASCII letters only.
-/

namespace InventoryCloud

open JavaString

/-- `[A-Za-z0-9][A-Za-z0-9._-]{0,63}` -/
def ApiModels.skuPattern : JavaString → Bool :=
  matchesHeadTail
    (fun unit => isAsciiUpper unit || isAsciiLower unit || isAsciiDigit unit)
    (fun unit => isAsciiUpper unit || isAsciiLower unit || isAsciiDigit unit ||
      isDotUnderscoreHyphen unit)
    63

namespace JavaString

/-- The unit with an ASCII letter in upper case. -/
def toAsciiUpper (unit : UInt16) : UInt16 :=
  if isAsciiLower unit then unit - 0x20 else unit

def asciiUpperCase (text : JavaString) : JavaString :=
  text.map toAsciiUpper

/-- The code points outside ASCII whose upper case is ASCII: sharp s,
dotless i, long s and the seven Latin ligatures. -/
def asciiLookalikes : List (ℕ × JavaString) :=
  [(0xDF, [0x53, 0x53]), (0x131, [0x49]), (0x17F, [0x53]),
    (0xFB00, [0x46, 0x46]), (0xFB01, [0x46, 0x49]), (0xFB02, [0x46, 0x4C]),
    (0xFB03, [0x46, 0x46, 0x49]), (0xFB04, [0x46, 0x46, 0x4C]),
    (0xFB05, [0x53, 0x54]), (0xFB06, [0x53, 0x54])]

def spellOut (codePoint : ℕ) : JavaString :=
  (asciiLookalikes.lookup codePoint).getD (encodeCodePoint codePoint)

/-- The text with every look-alike replaced by its ASCII letters. -/
def spelledOut (text : JavaString) : JavaString :=
  (codePoints text).flatMap spellOut

def HasLookalike (text : JavaString) : Prop :=
  ∃ codePoint ∈ codePoints text, (asciiLookalikes.lookup codePoint).isSome

instance (text : JavaString) : Decidable (HasLookalike text) :=
  inferInstanceAs (Decidable (∃ codePoint ∈ codePoints text, _))

/-! ## Classes of ASCII units -/

theorem isAsciiUpper_iff {unit : UInt16} :
    isAsciiUpper unit = true ↔ 65 ≤ unit.toNat ∧ unit.toNat ≤ 90 := by
  simp [isAsciiUpper, UInt16.le_iff_toNat_le]

theorem isAsciiLower_iff {unit : UInt16} :
    isAsciiLower unit = true ↔ 97 ≤ unit.toNat ∧ unit.toNat ≤ 122 := by
  simp [isAsciiLower, UInt16.le_iff_toNat_le]

theorem isAsciiDigit_iff {unit : UInt16} :
    isAsciiDigit unit = true ↔ 48 ≤ unit.toNat ∧ unit.toNat ≤ 57 := by
  simp [isAsciiDigit, UInt16.le_iff_toNat_le]

theorem isDotUnderscoreHyphen_iff {unit : UInt16} :
    isDotUnderscoreHyphen unit = true ↔
      unit.toNat = 46 ∨ unit.toNat = 95 ∨ unit.toNat = 45 := by
  simp [isDotUnderscoreHyphen, ← UInt16.toNat_inj, or_assoc]

theorem toNat_toAsciiUpper (unit : UInt16) :
    (toAsciiUpper unit).toNat =
      if 97 ≤ unit.toNat ∧ unit.toNat ≤ 122 then unit.toNat - 32
      else unit.toNat := by
  unfold toAsciiUpper
  by_cases hlower : isAsciiLower unit = true
  · have hrange := isAsciiLower_iff.mp hlower
    have hle : (0x20 : UInt16) ≤ unit := by
      rw [UInt16.le_iff_toNat_le]
      exact le_trans (by decide) hrange.1
    rw [if_pos hlower, if_pos hrange, UInt16.toNat_sub_of_le _ _ hle]
    rfl
  · rw [if_neg hlower, if_neg (isAsciiLower_iff.not.mp hlower)]

theorem isAsciiUpper_toAsciiUpper (unit : UInt16) :
    isAsciiUpper (toAsciiUpper unit) =
      (isAsciiUpper unit || isAsciiLower unit) := by
  rw [Bool.eq_iff_iff, Bool.or_eq_true, isAsciiUpper_iff, isAsciiUpper_iff,
    isAsciiLower_iff, toNat_toAsciiUpper]
  split <;> omega

theorem isAsciiDigit_toAsciiUpper (unit : UInt16) :
    isAsciiDigit (toAsciiUpper unit) = isAsciiDigit unit := by
  rw [Bool.eq_iff_iff, isAsciiDigit_iff, isAsciiDigit_iff, toNat_toAsciiUpper]
  split <;> omega

theorem isDotUnderscoreHyphen_toAsciiUpper (unit : UInt16) :
    isDotUnderscoreHyphen (toAsciiUpper unit) = isDotUnderscoreHyphen unit := by
  rw [Bool.eq_iff_iff, isDotUnderscoreHyphen_iff, isDotUnderscoreHyphen_iff,
    toNat_toAsciiUpper]
  split <;> omega

/-- Putting ASCII letters in upper case takes the documented pattern to the
pattern the normalization tests. -/
theorem skuPattern_asciiUpperCase (text : JavaString) :
    Product.skuPattern (asciiUpperCase text) = ApiModels.skuPattern text := by
  cases text with
  | nil => rfl
  | cons first rest =>
      simp [Product.skuPattern, ApiModels.skuPattern, matchesHeadTail,
        asciiUpperCase, isAsciiUpper_toAsciiUpper, isAsciiDigit_toAsciiUpper,
        isDotUnderscoreHyphen_toAsciiUpper, List.all_map, Function.comp_def]

/-- What every unit of an accepted SKU is like. -/
theorem unit_of_skuPattern {text : JavaString}
    (hpattern : Product.skuPattern text = true) {unit : UInt16}
    (hunit : unit ∈ text) :
    45 ≤ unit.toNat ∧ unit.toNat ≤ 95 := by
  have hclass : isAsciiUpper unit = true ∨ isAsciiDigit unit = true ∨
      isDotUnderscoreHyphen unit = true := by
    cases text with
    | nil => cases hunit
    | cons first rest =>
        simp only [Product.skuPattern, matchesHeadTail, Bool.and_eq_true,
          Bool.or_eq_true, List.all_eq_true] at hpattern
        obtain ⟨⟨hfirst, -⟩, hrest⟩ := hpattern
        rcases List.mem_cons.mp hunit with rfl | hmem
        · rcases hfirst with hupper | hdigit
          · exact Or.inl hupper
          · exact Or.inr (Or.inl hdigit)
        · rcases hrest unit hmem with (hupper | hdigit) | hother
          · exact Or.inl hupper
          · exact Or.inr (Or.inl hdigit)
          · exact Or.inr (Or.inr hother)
  rw [isAsciiUpper_iff, isAsciiDigit_iff, isDotUnderscoreHyphen_iff] at hclass
  omega

theorem isAscii_of_skuPattern {text : JavaString}
    (hpattern : Product.skuPattern text = true) : IsAscii text := by
  intro unit hunit
  have hbounds := unit_of_skuPattern hpattern hunit
  omega

theorem isAscii_asciiUpperCase {text : JavaString} :
    IsAscii (asciiUpperCase text) ↔ IsAscii text := by
  have hunit : ∀ unit : UInt16,
      (toAsciiUpper unit).toNat < 128 ↔ unit.toNat < 128 := by
    intro unit
    rw [toNat_toAsciiUpper]
    split <;> omega
  simp [IsAscii, asciiUpperCase, hunit]

/-! ## The upper case of one code point -/

theorem lookup_asciiLookalikes_of_lt {codePoint : ℕ}
    (hascii : codePoint < 128) : asciiLookalikes.lookup codePoint = none := by
  have hkeys : ∀ entry ∈ asciiLookalikes, 128 ≤ entry.1 := by decide
  rw [List.lookup_eq_none_iff]
  intro entry hentry
  have hkey := hkeys entry hentry
  simp only [bne_iff_ne, ne_eq]
  omega

theorem upperCase_of_lt {codePoint : ℕ} (hascii : codePoint < 128) :
    (Unicode.upperCase codePoint).flatMap encodeCodePoint =
      asciiUpperCase (spellOut codePoint) := by
  have htoNat : codePoint.toUInt16.toNat = codePoint := by
    simpa using Nat.mod_eq_of_lt (show codePoint < 65536 by omega)
  rw [spellOut, lookup_asciiLookalikes_of_lt hascii, Option.getD_none,
    encodeCodePoint_of_lt hascii, Unicode.upperCase, if_pos hascii]
  simp only [List.flatMap_cons, List.flatMap_nil, List.append_nil,
    asciiUpperCase, List.map_cons, List.map_nil]
  by_cases hlower : 97 ≤ codePoint ∧ codePoint ≤ 122
  · rw [if_pos hlower, encodeCodePoint_of_lt (by omega), List.cons.injEq,
      ← UInt16.toNat_inj, toNat_toAsciiUpper, htoNat, if_pos hlower]
    simp only [Nat.toUInt16_eq, UInt16.toNat_ofNat', and_true]
    omega
  · rw [if_neg hlower, encodeCodePoint_of_lt hascii, List.cons.injEq,
      ← UInt16.toNat_inj, toNat_toAsciiUpper, htoNat, if_neg hlower]
    exact ⟨rfl, rfl⟩

theorem upperCase_of_lookalike {codePoint : ℕ} {letters : JavaString}
    (hlookup : asciiLookalikes.lookup codePoint = some letters) :
    (Unicode.upperCase codePoint).flatMap encodeCodePoint =
      asciiUpperCase (spellOut codePoint) := by
  have htable : ∀ entry ∈ asciiLookalikes,
      (Unicode.upperCase entry.1).flatMap encodeCodePoint =
        asciiUpperCase entry.2 := by decide
  obtain ⟨before, after, hsplit, -⟩ := List.lookup_eq_some_iff.mp hlookup
  have hmem : (codePoint, letters) ∈ asciiLookalikes := by
    rw [hsplit]
    exact List.mem_append_right _ List.mem_cons_self
  rw [spellOut, hlookup, Option.getD_some]
  exact htable _ hmem

/-- Outside the tables an upper case in ASCII is the one of an ASCII unit. -/
theorem not_isAscii_upperCase {codePoint : ℕ} (hlarge : 128 ≤ codePoint)
    (hlookup : asciiLookalikes.lookup codePoint = none) :
    ¬ IsAscii ((Unicode.upperCase codePoint).flatMap encodeCodePoint) := by
  intro hascii
  have hall : ∀ upper ∈ Unicode.upperCase codePoint, upper < 128 := by
    intro upper hupper
    apply lt_of_isAscii_encode
    intro unit hunit
    exact hascii unit (List.mem_flatMap.mpr ⟨upper, hupper, hunit⟩)
  have hspecial : ∀ entry ∈ Unicode.specialUpperCase,
      (asciiLookalikes.lookup entry.1).isSome ∨
        ∃ upper ∈ entry.2, 128 ≤ upper := by decide
  have hsimple : ∀ range ∈ Unicode.simpleUpperCase,
      (range.first = range.last ∧
        (asciiLookalikes.lookup range.first).isSome) ∨
          128 ≤ range.first + range.shift := by decide +kernel
  unfold Unicode.upperCase at hall
  rw [if_neg (by omega)] at hall
  cases hlist : Unicode.specialUpperCase.lookup codePoint with
  | some sequence =>
      rw [hlist] at hall
      obtain ⟨before, after, hsplit, -⟩ := List.lookup_eq_some_iff.mp hlist
      have hmem : (codePoint, sequence) ∈ Unicode.specialUpperCase := by
        rw [hsplit]
        exact List.mem_append_right _ List.mem_cons_self
      rcases hspecial _ hmem with hfound | ⟨upper, hupper, hbig⟩
      · rw [hlookup] at hfound
        cases hfound
      · have hsmall := hall upper hupper
        omega
  | none =>
      rw [hlist] at hall
      cases hfind : Unicode.simpleUpperCase.find? (·.contains codePoint) with
      | none =>
          rw [hfind] at hall
          have hsmall := hall codePoint List.mem_cons_self
          omega
      | some range =>
          rw [hfind] at hall
          have hsmall := hall _ List.mem_cons_self
          have hcontains := List.find?_some hfind
          simp only [Unicode.CaseRange.contains, Bool.and_eq_true,
            decide_eq_true_eq] at hcontains
          rcases hsimple range (List.mem_of_find?_eq_some hfind) with
            ⟨hone, hfound⟩ | hbig
          · have hsame : range.first = codePoint := by omega
            rw [hsame, hlookup] at hfound
            cases hfound
          · omega

/-- The upper case is the one of the spelled out text as soon as one of the
two is ASCII. -/
theorem upperCase_eq_spellOut {codePoint : ℕ}
    (hascii : IsAscii ((Unicode.upperCase codePoint).flatMap encodeCodePoint) ∨
      IsAscii (spellOut codePoint)) :
    (Unicode.upperCase codePoint).flatMap encodeCodePoint =
      asciiUpperCase (spellOut codePoint) := by
  by_cases hsmall : codePoint < 128
  · exact upperCase_of_lt hsmall
  · cases hlookup : asciiLookalikes.lookup codePoint with
    | some letters => exact upperCase_of_lookalike hlookup
    | none =>
        exfalso
        rcases hascii with hupper | hspelled
        · exact not_isAscii_upperCase (by omega) hlookup hupper
        · rw [spellOut, hlookup] at hspelled
          exact hsmall (lt_of_isAscii_encode hspelled)

theorem toUpperCase_eq_spelledOut {text : JavaString}
    (hascii : IsAscii (toUpperCase text) ∨ IsAscii (spelledOut text)) :
    toUpperCase text = asciiUpperCase (spelledOut text) := by
  unfold toUpperCase spelledOut at hascii ⊢
  generalize codePoints text = sequence at hascii ⊢
  induction sequence with
  | nil => rfl
  | cons codePoint rest ih =>
      have hparts : IsAscii ((Unicode.upperCase codePoint).flatMap
          encodeCodePoint) ∧ IsAscii (rest.flatMap fun codePoint =>
            (Unicode.upperCase codePoint).flatMap encodeCodePoint) ∨
          IsAscii (spellOut codePoint) ∧ IsAscii (rest.flatMap spellOut) := by
        simpa only [IsAscii, List.flatMap_cons, List.forall_mem_append]
          using hascii
      rw [List.flatMap_cons, List.flatMap_cons,
        upperCase_eq_spellOut (hparts.imp And.left And.left),
        ih (hparts.imp And.right And.right), asciiUpperCase, asciiUpperCase,
        asciiUpperCase, List.map_append]

/-- A text without look-alikes is spelled out already. -/
theorem spelledOut_of_not_hasLookalike {text : JavaString}
    (hplain : ¬ HasLookalike text) : spelledOut text = text := by
  have hsame : ∀ codePoint ∈ codePoints text,
      spellOut codePoint = encodeCodePoint codePoint := by
    intro codePoint hmem
    have hnone : asciiLookalikes.lookup codePoint = none := by
      rw [← Option.not_isSome_iff_eq_none]
      exact fun hfound => hplain ⟨codePoint, hmem, hfound⟩
    rw [spellOut, hnone, Option.getD_none]
  rw [spelledOut, List.flatMap_congr hsame, encode_codePoints]

theorem not_hasLookalike_of_isAscii {text : JavaString}
    (hascii : IsAscii text) : ¬ HasLookalike text := by
  rintro ⟨codePoint, hmem, hfound⟩
  rw [codePoints_of_isAscii hascii] at hmem
  obtain ⟨unit, hunit, rfl⟩ := List.mem_map.mp hmem
  rw [lookup_asciiLookalikes_of_lt (hascii unit hunit)] at hfound
  cases hfound

end JavaString

/-! ## What the normalization accepts -/

namespace Product

/-- SKUs are accepted as if their look-alikes were spelled out. -/
theorem normalizeSku_some (sku : JavaString) :
    normalizeSku (some sku) =
      if ApiModels.skuPattern (spelledOut (trim sku)) then
        .ok (asciiUpperCase (spelledOut (trim sku)))
      else .error (.illegalArgument
        "SKU must contain 1 to 64 letters, numbers, dots, underscores, or hyphens, starting with a letter or number") := by
  by_cases hascii : IsAscii (spelledOut (trim sku))
  · have hupper := toUpperCase_eq_spelledOut (Or.inr hascii)
    simp only [normalizeSku, hupper, skuPattern_asciiUpperCase]
    rfl
  · have hrejected : ApiModels.skuPattern (spelledOut (trim sku)) = false := by
      rw [← skuPattern_asciiUpperCase, ← Bool.not_eq_true]
      intro hpattern
      exact hascii (isAscii_asciiUpperCase.mp (isAscii_of_skuPattern hpattern))
    have hpattern : skuPattern (toUpperCase (trim sku)) = false := by
      rw [← Bool.not_eq_true]
      intro hpattern
      have hupper := isAscii_of_skuPattern hpattern
      rw [toUpperCase_eq_spelledOut (Or.inl hupper)] at hupper
      exact hascii (isAscii_asciiUpperCase.mp hupper)
    simp only [normalizeSku, hpattern, hrejected]
    rfl

theorem normalizeSku_ok_iff {sku normalized : JavaString} :
    normalizeSku (some sku) = .ok normalized ↔
      ApiModels.skuPattern (spelledOut (trim sku)) = true ∧
        normalized = asciiUpperCase (spelledOut (trim sku)) := by
  rw [normalizeSku_some]
  split
  next hpattern => simp [hpattern, eq_comm]
  next hpattern => simp [hpattern]

/-- A normalized SKU passes the check of the table. -/
theorem skuFormat_of_normalizeSku {given : Option JavaString}
    {normalized : JavaString}
    (hnormalize : normalizeSku given = .ok normalized) :
    Sql.skuFormat normalized = true := by
  cases given with
  | none => cases hnormalize
  | some sku =>
      obtain ⟨hpattern, rfl⟩ := normalizeSku_ok_iff.mp hnormalize
      exact (skuPattern_asciiUpperCase _).trans hpattern

/-- The normalization leaves a normalized SKU as it is. -/
theorem normalizeSku_fixed {normalized : JavaString}
    (hformat : Sql.skuFormat normalized = true) :
    normalizeSku (some normalized) = .ok normalized := by
  have hformat : skuPattern normalized = true := hformat
  have htrim : trim normalized = normalized := by
    apply trim_of_forall
    intro unit hunit
    have hbounds := unit_of_skuPattern hformat hunit
    rw [UInt16.le_iff_toNat_le]
    change ¬ unit.toNat ≤ 32
    omega
  have hascii := isAscii_of_skuPattern hformat
  have hspelled := spelledOut_of_not_hasLookalike
    (not_hasLookalike_of_isAscii hascii)
  have hupper : asciiUpperCase normalized = normalized := by
    refine (List.map_congr_left fun unit hunit => ?_).trans (List.map_id _)
    have hbounds := unit_of_skuPattern hformat hunit
    have hlower : isAsciiLower unit = false := by
      rw [← Bool.not_eq_true, isAsciiLower_iff]
      omega
    simp [toAsciiUpper, hlower]
  rw [normalizeSku_ok_iff, htrim, hspelled, hupper]
  refine ⟨?_, rfl⟩
  rw [← skuPattern_asciiUpperCase, hupper]
  exact hformat

end Product

/-! ## The documented grammar -/

/-- The two units are the same letter up to the case of ASCII letters. -/
def SameAsciiLetter (first second : UInt16) : Prop :=
  first = second ∨
    (isAsciiLower first = true ∧ second = first - 0x20) ∨
      (isAsciiLower second = true ∧ first = second - 0x20)

/-- Equality up to the case of ASCII letters. -/
def EqualUpToAsciiCase (first second : JavaString) : Prop :=
  List.Forall₂ SameAsciiLetter first second

/-- What the documentation says of the normalization of one SKU. -/
structure NormalizesAsDocumented (sku : JavaString) : Prop where
  accepts : (∃ normalized, Product.normalizeSku (some sku) = .ok normalized) ↔
    ApiModels.skuPattern (trim sku) = true
  result : ∀ normalized, Product.normalizeSku (some sku) = .ok normalized →
    normalized = asciiUpperCase (trim sku) ∧
      Product.normalizeSku (some normalized) = .ok normalized ∧
        Sql.skuFormat normalized = true

/-- Accepted SKUs become the same SKU when they differ in case only. -/
def CollideUpToCase (first second : JavaString) : Prop :=
  ∀ normalized other, Product.normalizeSku (some first) = .ok normalized →
    Product.normalizeSku (some second) = .ok other →
      (normalized = other ↔ EqualUpToAsciiCase (trim first) (trim second))

/-- A SKU that is accepted because look-alikes are spelled out. -/
def SpelledByLookalikes (sku : JavaString) : Prop :=
  HasLookalike (trim sku) ∧
    ApiModels.skuPattern (spelledOut (trim sku)) = true

instance (sku : JavaString) : Decidable (SpelledByLookalikes sku) :=
  inferInstanceAs (Decidable (_ ∧ _))

private theorem lowered_iff {lower upper : UInt16} :
    isAsciiLower lower = true ∧ upper = lower - 0x20 ↔
      (97 ≤ lower.toNat ∧ lower.toNat ≤ 122) ∧
        upper.toNat = lower.toNat - 32 := by
  rw [isAsciiLower_iff]
  refine and_congr_right fun hrange => ?_
  have hle : (0x20 : UInt16) ≤ lower := by
    rw [UInt16.le_iff_toNat_le]
    exact le_trans (by decide) hrange.1
  rw [← UInt16.toNat_inj, UInt16.toNat_sub_of_le _ _ hle]
  rfl

theorem toAsciiUpper_eq_iff {first second : UInt16} :
    toAsciiUpper first = toAsciiUpper second ↔ SameAsciiLetter first second := by
  rw [SameAsciiLetter, lowered_iff, lowered_iff, ← UInt16.toNat_inj,
    ← @UInt16.toNat_inj first, toNat_toAsciiUpper, toNat_toAsciiUpper]
  split <;> split <;> omega

theorem asciiUpperCase_eq_iff {first second : JavaString} :
    asciiUpperCase first = asciiUpperCase second ↔
      EqualUpToAsciiCase first second := by
  rw [EqualUpToAsciiCase, asciiUpperCase, asciiUpperCase,
    ← List.forall₂_eq_eq_eq, List.forall₂_map_left_iff,
    List.forall₂_map_right_iff]
  simp only [toAsciiUpper_eq_iff]

theorem NormalizesAsDocumented.of_plain {sku : JavaString}
    (hplain : ¬ SpelledByLookalikes sku) : NormalizesAsDocumented sku := by
  have hspelled : ∀ {normalized},
      Product.normalizeSku (some sku) = .ok normalized →
        spelledOut (trim sku) = trim sku := by
    intro normalized hnormalize
    apply spelledOut_of_not_hasLookalike
    intro hlookalike
    exact hplain ⟨hlookalike, (Product.normalizeSku_ok_iff.mp hnormalize).1⟩
  constructor
  · constructor
    · rintro ⟨normalized, hnormalize⟩
      obtain ⟨hpattern, -⟩ := Product.normalizeSku_ok_iff.mp hnormalize
      rwa [hspelled hnormalize] at hpattern
    · intro hpattern
      have hascii : IsAscii (trim sku) := by
        rw [← skuPattern_asciiUpperCase] at hpattern
        exact isAscii_asciiUpperCase.mp (isAscii_of_skuPattern hpattern)
      have hsame := spelledOut_of_not_hasLookalike
        (not_hasLookalike_of_isAscii hascii)
      exact ⟨_, Product.normalizeSku_ok_iff.mpr ⟨by rwa [hsame], rfl⟩⟩
  · intro normalized hnormalize
    have hformat := Product.skuFormat_of_normalizeSku hnormalize
    refine ⟨?_, Product.normalizeSku_fixed hformat, hformat⟩
    rw [← hspelled hnormalize]
    exact (Product.normalizeSku_ok_iff.mp hnormalize).2

/-- A spelled out look-alike is accepted and is not in the documented
grammar. -/
theorem SpelledByLookalikes.not_documented {sku : JavaString}
    (hlookalikes : SpelledByLookalikes sku) :
    ¬ NormalizesAsDocumented sku := by
  intro hdocumented
  obtain ⟨hlookalike, hpattern⟩ := hlookalikes
  have haccepted := hdocumented.accepts.mp
    ⟨_, Product.normalizeSku_ok_iff.mpr ⟨hpattern, rfl⟩⟩
  rw [← skuPattern_asciiUpperCase] at haccepted
  exact not_hasLookalike_of_isAscii
    (isAscii_asciiUpperCase.mp (isAscii_of_skuPattern haccepted)) hlookalike

theorem CollideUpToCase.of_documented {first second : JavaString}
    (hfirst : NormalizesAsDocumented first)
    (hsecond : NormalizesAsDocumented second) :
    CollideUpToCase first second := by
  intro normalized other hnormalize hother
  rw [(hfirst.result _ hnormalize).1, (hsecond.result _ hother).1]
  exact asciiUpperCase_eq_iff

/-- The normalization is the documented one exactly on the SKUs which are not
accepted through look-alikes. -/
theorem sku_normalization_documented (first second : JavaString) :
    (NormalizesAsDocumented first ∧ NormalizesAsDocumented second ∧
        CollideUpToCase first second) ↔
      ¬ SpelledByLookalikes first ∧ ¬ SpelledByLookalikes second := by
  constructor
  · rintro ⟨hfirst, hsecond, -⟩
    exact ⟨fun hlookalikes => hlookalikes.not_documented hfirst,
      fun hlookalikes => hlookalikes.not_documented hsecond⟩
  · rintro ⟨hfirst, hsecond⟩
    have hfirst := NormalizesAsDocumented.of_plain hfirst
    have hsecond := NormalizesAsDocumented.of_plain hsecond
    exact ⟨hfirst, hsecond, .of_documented hfirst hsecond⟩

/-- A sharp s passes as `SS`, and collides with it. -/
theorem sharp_s_normalized :
    Product.normalizeSku (some [0xDF]) = .ok [0x53, 0x53] ∧
      Product.normalizeSku (some [0x53, 0x53]) = .ok [0x53, 0x53] ∧
        ¬ NormalizesAsDocumented [0xDF] ∧
          ¬ CollideUpToCase [0xDF] [0x53, 0x53] := by
  have hsharp : Product.normalizeSku (some [0xDF]) = .ok [0x53, 0x53] := by
    decide +kernel
  have hplain : Product.normalizeSku (some [0x53, 0x53]) =
      .ok [0x53, 0x53] := by decide +kernel
  have hlookalikes : SpelledByLookalikes [0xDF] := by decide +kernel
  refine ⟨hsharp, hplain, hlookalikes.not_documented, ?_⟩
  intro hcollide
  have hequal := ((hcollide _ _ hsharp hplain).mp rfl).length_eq
  revert hequal
  decide +kernel

end InventoryCloud
