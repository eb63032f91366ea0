import InventoryCloud.SkuNormalization

/-!
# The products a constructor call makes

The constructor tests whether the name as given is blank and stores the
trimmed name.  The two disagree on names of control characters: `trim` removes
them, and `isBlank` does not count them as white space.  Every other product
it makes satisfies the constraints of the table.
-/

namespace InventoryCloud

open JavaString

namespace Sql

theorem charLength_le (text : JavaString) : charLength text ≤ text.length :=
  length_codePoints_le text

theorem charLength_pos {text : JavaString} (hne : text ≠ []) :
    0 < charLength text :=
  List.length_pos_iff.mpr (codePoints_ne_nil hne)

/-- A trimmed text is blank for SQL only if it is empty. -/
theorem btrim_trim_ne_nil {text : JavaString} (hne : trim text ≠ []) :
    btrim (trim text) ≠ [] := by
  intro hblank
  rw [btrim, strip_eq_nil_iff] at hblank
  cases htrim : trim text with
  | nil => exact hne htrim
  | cons first rest =>
      rw [htrim] at hblank
      have hspace := hblank first List.mem_cons_self
      rw [beq_iff_eq] at hspace
      subst hspace
      exact trim_head htrim (by decide)

end Sql

namespace Product

theorem requireName_ok {name given : JavaString}
    (hname : requireName (some name) = .ok given) :
    given = name ∧ isBlank name = false ∧ (trim name).length ≤ 160 := by
  simp only [requireName] at hname
  split at hname
  next hbad => cases hname
  next hgood =>
    cases hname
    simpa using hgood

theorem length_of_skuPattern {text : JavaString}
    (hpattern : skuPattern text = true) : text.length ≤ 64 := by
  cases text with
  | nil => simp
  | cons first rest =>
      simp only [skuPattern, matchesHeadTail, Bool.and_eq_true,
        decide_eq_true_eq] at hpattern
      rw [List.length_cons]
      omega

theorem varchar_of_skuPattern {text : JavaString}
    (hpattern : skuPattern text = true) : Sql.varchar 64 text = true := by
  have hlength := Sql.charLength_le text
  have hbound := length_of_skuPattern hpattern
  have hzero : 0 ∉ text := by
    intro hunit
    have hbounds := unit_of_skuPattern hpattern hunit
    change 45 ≤ 0 ∧ 0 ≤ 95 at hbounds
    omega
  rw [Sql.varchar, Bool.and_eq_true, decide_eq_true_eq]
  exact ⟨by omega, by simpa using hzero⟩

/-- What is left of the constraints for the trimmed name. -/
theorem storable_of_new_iff {fresh : Fresh} {sku : Option JavaString}
    {name : JavaString} {initialQuantity : Int32} {product : Product}
    (hnew : Product.new fresh sku (some name) initialQuantity = .ok product) :
    product.storable = true ↔ trim name ≠ [] ∧ 0 ∉ trim name := by
  obtain ⟨hrange, normalized, given, hsku, hname, rfl⟩ := Product.new_ok hnew
  obtain ⟨rfl, -, hlength⟩ := requireName_ok hname
  have hformat := skuFormat_of_normalizeSku hsku
  have hvarchar := varchar_of_skuPattern hformat
  have hchars : Sql.charLength (trim given) ≤ 160 :=
    (Sql.charLength_le _).trans hlength
  simp only [storable, hvarchar, hformat, hrange.1, hrange.2, decide_true,
    Bool.true_and, Bool.and_true]
  simp only [Sql.varchar, hchars, decide_true, Bool.true_and,
    Bool.and_eq_true, decide_eq_true_eq, Bool.not_eq_true',
    List.contains_eq_mem, decide_eq_false_iff_not]
  constructor
  · rintro ⟨hzero, hnonblank⟩
    refine ⟨?_, hzero⟩
    intro hempty
    rw [hempty] at hnonblank
    exact absurd hnonblank (by decide)
  · rintro ⟨hne, hzero⟩
    exact ⟨hzero, Sql.charLength_pos (Sql.btrim_trim_ne_nil hne)⟩

/-- A constructed product without U+0000 in its name is storable exactly if
the name has a unit that `trim` does not remove. -/
theorem constructed_storable_iff {fresh : Fresh} {sku : Option JavaString}
    {name : JavaString} {initialQuantity : Int32} {product : Product}
    (hname : 0 ∉ name)
    (hnew : Product.new fresh sku (some name) initialQuantity = .ok product) :
    product.storable = true ↔ ∃ unit ∈ name, 0x20 < unit := by
  rw [storable_of_new_iff hnew, ne_eq, trim_eq_nil_iff]
  simp only [not_forall, UInt16.not_le, exists_prop]
  constructor
  · exact And.left
  · intro hvisible
    exact ⟨hvisible, fun hzero => hname (mem_of_mem_trim hzero)⟩

/-- A name of two words between spaces and control characters. -/
def surroundedName : JavaString :=
  [0x20, 0x01, 0x41, 0x20, 0x42, 0x1F, 0x20]

theorem constructed_storable_iff_sample :
    (∃ product, Product.new ⟨1, ⟨0⟩⟩ (some [0x41]) (some surroundedName) 5 =
        .ok product ∧ product.name = [0x41, 0x20, 0x42] ∧
          product.storable = true) ∧
      ∃ unit ∈ surroundedName, 0x20 < unit := by
  have hnew : Product.new ⟨1, ⟨0⟩⟩ (some [0x41]) (some surroundedName) 5 =
      .ok ⟨1, [0x41], [0x41, 0x20, 0x42], 5, ⟨0⟩⟩ := by decide +kernel
  have hvisible : ∃ unit ∈ surroundedName, 0x20 < unit := by decide
  have hstorable := (constructed_storable_iff (by decide) hnew).mpr hvisible
  exact ⟨⟨_, hnew, rfl, hstorable⟩, hvisible⟩

/-- A control character is no white space for the constructor, and nothing is
left of it in the stored name. -/
theorem control_character_name_not_storable :
    ∃ product, Product.new ⟨1, ⟨0⟩⟩ (some [0x41]) (some [0x01]) 5 =
      .ok product ∧ product.name = [] ∧ product.storable = false := by
  refine ⟨⟨1, [0x41], [], 5, ⟨0⟩⟩, ?_, rfl, ?_⟩
  · decide +kernel
  · decide +kernel

end Product

end InventoryCloud
