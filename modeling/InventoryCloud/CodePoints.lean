import InventoryCloud.JavaText

/-!
# Code points and trimmed texts

Encoding the code points of a Java string gives the string back, and the code
points of an ASCII string are its units.  A trimmed text neither starts nor
ends with a unit up to U+0020.
-/

namespace InventoryCloud
namespace JavaString

/-! ## Code points -/

def IsAscii (text : JavaString) : Prop :=
  ∀ unit ∈ text, unit.toNat < 128

theorem encodeCodePoint_toNat (unit : UInt16) :
    encodeCodePoint unit.toNat = [unit] := by
  have hsmall : unit.toNat < 0x10000 := unit.toNat_lt
  simp [encodeCodePoint, hsmall]

theorem encodeCodePoint_pair {high low : UInt16}
    (hhigh : isHighSurrogate high = true) (hlow : isLowSurrogate low = true) :
    encodeCodePoint (0x10000 + (high.toNat - 0xD800) * 0x400 +
      (low.toNat - 0xDC00)) = [high, low] := by
  simp only [isHighSurrogate, isLowSurrogate, Bool.and_eq_true,
    decide_eq_true_eq, UInt16.le_iff_toNat_le] at hhigh hlow
  change (0xD800 ≤ high.toNat ∧ high.toNat ≤ 0xDBFF) at hhigh
  change (0xDC00 ≤ low.toNat ∧ low.toNat ≤ 0xDFFF) at hlow
  have hlarge : ¬ 0x10000 + (high.toNat - 0xD800) * 0x400 +
      (low.toNat - 0xDC00) < 0x10000 := by omega
  have hfirst : 0xD800 + (0x10000 + (high.toNat - 0xD800) * 0x400 +
      (low.toNat - 0xDC00) - 0x10000) / 0x400 = high.toNat := by omega
  have hsecond : 0xDC00 + (0x10000 + (high.toNat - 0xD800) * 0x400 +
      (low.toNat - 0xDC00) - 0x10000) % 0x400 = low.toNat := by omega
  rw [encodeCodePoint, if_neg hlarge, hfirst, hsecond]
  simp

/-- Nothing is lost when a string is read as code points. -/
theorem encode_codePoints (text : JavaString) :
    (codePoints text).flatMap encodeCodePoint = text := by
  induction text using codePoints.induct with
  | case1 => rfl
  | case2 unit => simp [codePoints, encodeCodePoint_toNat]
  | case3 high low rest hpair ih =>
      rw [Bool.and_eq_true] at hpair
      rw [codePoints, if_pos (by simpa using hpair), List.flatMap_cons, ih,
        encodeCodePoint_pair hpair.1 hpair.2]
      rfl
  | case4 high low rest hpair ih =>
      rw [codePoints, if_neg hpair, List.flatMap_cons, ih,
        encodeCodePoint_toNat]
      rfl

theorem length_encodeCodePoint_pos (codePoint : ℕ) :
    1 ≤ (encodeCodePoint codePoint).length := by
  unfold encodeCodePoint
  split <;> simp

theorem length_codePoints_le (text : JavaString) :
    (codePoints text).length ≤ text.length := by
  calc (codePoints text).length
      = ((codePoints text).map fun _ => 1).sum := by simp
    _ ≤ ((codePoints text).map fun codePoint =>
          (encodeCodePoint codePoint).length).sum :=
        List.sum_le_sum fun codePoint _ => length_encodeCodePoint_pos codePoint
    _ = ((codePoints text).flatMap encodeCodePoint).length :=
        List.length_flatMap.symm
    _ = text.length := by rw [encode_codePoints]

theorem codePoints_ne_nil {text : JavaString} (hne : text ≠ []) :
    codePoints text ≠ [] := by
  intro hnone
  apply hne
  rw [← encode_codePoints text, hnone]
  rfl

/-- A code point all of whose units are ASCII is ASCII. -/
theorem lt_of_isAscii_encode {codePoint : ℕ}
    (hascii : IsAscii (encodeCodePoint codePoint)) : codePoint < 128 := by
  unfold encodeCodePoint at hascii
  split at hascii
  next hsmall =>
    have hunit := hascii _ List.mem_cons_self
    simpa [Nat.mod_eq_of_lt hsmall] using hunit
  next hlarge =>
    -- A low surrogate, which no code point is too large for.
    have hunit := hascii _ (List.mem_cons_of_mem _ List.mem_cons_self)
    simp only [Nat.toUInt16_eq, UInt16.toNat_ofNat'] at hunit
    omega

theorem encodeCodePoint_of_lt {codePoint : ℕ} (hascii : codePoint < 128) :
    encodeCodePoint codePoint = [codePoint.toUInt16] := by
  have hsmall : codePoint < 0x10000 := by omega
  rw [encodeCodePoint, if_pos hsmall]

theorem codePoints_of_isAscii {text : JavaString} (hascii : IsAscii text) :
    codePoints text = text.map UInt16.toNat := by
  induction text using codePoints.induct with
  | case1 => rfl
  | case2 unit => rfl
  | case3 high low rest hpair ih =>
      have hunit := hascii high List.mem_cons_self
      simp only [isHighSurrogate, Bool.and_eq_true, decide_eq_true_eq,
        UInt16.le_iff_toNat_le] at hpair
      have hhigh : 0xD800 ≤ high.toNat := hpair.1.1
      omega
  | case4 high low rest hpair ih =>
      have hrest : IsAscii (low :: rest) :=
        fun unit hunit => hascii unit (List.mem_cons_of_mem _ hunit)
      rw [codePoints, if_neg hpair, ih hrest]
      rfl

/-! ## Trimming -/

theorem trim_sublist (text : JavaString) : (trim text).Sublist text :=
  (List.rdropWhile_prefix _ _).sublist.trans (List.dropWhile_sublist _)

theorem mem_of_mem_trim {text : JavaString} {unit : UInt16}
    (hunit : unit ∈ trim text) : unit ∈ text :=
  (trim_sublist text).subset hunit

/-- What is left of a text that is not all spaces starts with another unit. -/
theorem trim_head {text : JavaString} {first : UInt16} {rest : JavaString}
    (htrim : trim text = first :: rest) : ¬ first ≤ 0x20 := by
  have hprefix : trim text <+: text.dropWhile (· ≤ 0x20) :=
    List.rdropWhile_prefix _ _
  rw [htrim] at hprefix
  obtain ⟨more, hmore⟩ := hprefix
  have hhead := List.head?_dropWhile_not (· ≤ (0x20 : UInt16)) text
  rw [← hmore] at hhead
  simpa using hhead

theorem trim_of_forall {text : JavaString}
    (hvisible : ∀ unit ∈ text, ¬ unit ≤ 0x20) : trim text = text := by
  have hleft : text.dropWhile (· ≤ 0x20) = text := by
    cases text with
    | nil => rfl
    | cons first rest =>
        exact List.dropWhile_cons_of_neg
          (by simpa using hvisible first List.mem_cons_self)
  rw [trim, hleft, List.rdropWhile_eq_self_iff]
  intro hne
  simpa using hvisible _ (List.getLast_mem hne)

/-- Stripping a text on both sides leaves nothing exactly if all of it goes. -/
theorem strip_eq_nil_iff (p : UInt16 → Bool) {text : JavaString} :
    (text.dropWhile p).rdropWhile p = [] ↔ ∀ unit ∈ text, p unit = true := by
  rw [List.rdropWhile_eq_nil_iff]
  constructor
  · intro hall unit hunit
    rw [← @List.takeWhile_append_dropWhile _ p text, List.mem_append] at hunit
    rcases hunit with htaken | hleft
    · exact List.mem_takeWhile_imp htaken
    · exact hall unit hleft
  · intro hall unit hunit
    exact hall unit ((List.dropWhile_sublist _).subset hunit)

theorem trim_eq_nil_iff {text : JavaString} :
    trim text = [] ↔ ∀ unit ∈ text, unit ≤ 0x20 := by
  rw [trim, strip_eq_nil_iff]
  simp only [decide_eq_true_eq]

end JavaString
end InventoryCloud
