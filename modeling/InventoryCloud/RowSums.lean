import Mathlib.Algebra.BigOperators.Group.List.Basic
import Mathlib.Data.List.Nodup
import Mathlib.Tactic

/-!
# Sums over the rows of a table

A sum over rows with distinct keys changes by the difference at one row when
only that row changes.
-/

namespace Rows

variable {α β : Type} {key : α → β}

theorem sum_map_of_forall_eq {M : Type} [AddCommGroup M] {rows : List α}
    {first second : α → M} (hsame : ∀ row ∈ rows, first row = second row) :
    (rows.map first).sum = (rows.map second).sum :=
  congrArg List.sum (List.map_congr_left hsame)

/-- Changing the one row with a given key. -/
theorem sum_map_change {M : Type} [AddCommGroup M] {rows : List α}
    (hnodup : (rows.map key).Nodup) {row : α} (hmem : row ∈ rows)
    {value : α → M} {change : α → α}
    (hothers : ∀ other, key other ≠ key row → change other = other) :
    ((rows.map change).map value).sum =
      (rows.map value).sum + (value (change row) - value row) := by
  induction rows with
  | nil => cases hmem
  | cons first rows ih =>
      rw [List.map_cons, List.nodup_cons] at hnodup
      obtain ⟨hfresh, hrest⟩ := hnodup
      simp only [List.map_cons, List.sum_cons]
      rcases List.mem_cons.mp hmem with rfl | htail
      · have hsame : ((rows.map change).map value).sum =
            (rows.map value).sum := by
          rw [List.map_map]
          refine sum_map_of_forall_eq fun other hother => ?_
          have hne : key other ≠ key row := fun heq =>
            hfresh (heq ▸ List.mem_map_of_mem hother)
          rw [Function.comp_apply, hothers other hne]
        rw [hsame]
        abel
      · have hne : key first ≠ key row := fun heq =>
          hfresh (heq ▸ List.mem_map_of_mem htail)
        rw [hothers first hne, ih hrest htail]
        abel

/-- The row with a given key is the only term of a sum restricted to it. -/
theorem sum_map_single {M : Type} [AddCommMonoid M] [DecidableEq β]
    {rows : List α} (hnodup : (rows.map key).Nodup) {row : α}
    (hmem : row ∈ rows) (value : α → M) :
    (rows.map fun other =>
      if key other = key row then value other else 0).sum = value row := by
  induction rows with
  | nil => cases hmem
  | cons first rows ih =>
      rw [List.map_cons, List.nodup_cons] at hnodup
      obtain ⟨hfresh, hrest⟩ := hnodup
      rw [List.map_cons, List.sum_cons]
      rcases List.mem_cons.mp hmem with rfl | htail
      · have hzero : (rows.map fun other =>
            if key other = key row then value other else 0).sum = 0 := by
          refine List.sum_eq_zero fun term hterm => ?_
          obtain ⟨other, hother, rfl⟩ := List.mem_map.mp hterm
          have hne : key other ≠ key row := fun heq =>
            hfresh (heq ▸ List.mem_map_of_mem hother)
          exact if_neg hne
        rw [if_pos rfl, hzero, add_zero]
      · have hne : key first ≠ key row := fun heq =>
          hfresh (heq ▸ List.mem_map_of_mem htail)
        rw [if_neg hne, zero_add, ih hrest htail]

theorem sum_map_filter {M : Type} [AddCommMonoid M] (rows : List α)
    (test : α → Bool) (value : α → M) :
    ((rows.filter test).map value).sum =
      (rows.map fun row => if test row then value row else 0).sum := by
  induction rows with
  | nil => rfl
  | cons row rows ih =>
      cases htest : test row <;> simp [htest, ih]

theorem sum_filterMap {M : Type} [AddCommMonoid M] (rows : List α)
    (pick : α → Option β) (value : β → M) :
    ((rows.filterMap pick).map value).sum =
      (rows.map fun row => ((pick row).map value).getD 0).sum := by
  induction rows with
  | nil => rfl
  | cons row rows ih =>
      cases hpick : pick row <;> simp [hpick, ih]

theorem length_filterMap (rows : List α) (pick : α → Option β) :
    ((rows.filterMap pick).length : ℤ) =
      (rows.map fun row => if (pick row).isSome then (1 : ℤ) else 0).sum := by
  induction rows with
  | nil => rfl
  | cons row rows ih =>
      cases hpick : pick row <;> simp [hpick, ih, add_comm]

theorem length_filter (rows : List α) (test : α → Bool) :
    ((rows.filter test).length : ℤ) =
      (rows.map fun row => if test row then (1 : ℤ) else 0).sum := by
  induction rows with
  | nil => rfl
  | cons row rows ih =>
      cases htest : test row <;> simp [htest, ih, add_comm]

/-- At most one row passes a test which only one key passes. -/
theorem length_filter_le_one [DecidableEq β] {rows : List α}
    (hnodup : (rows.map key).Nodup) {test : α → Bool} {passed : β}
    (htest : ∀ row, test row = true → key row = passed) :
    (rows.filter test).length ≤ 1 := by
  rw [← List.countP_eq_length_filter]
  calc
    rows.countP test ≤ rows.countP (key · == passed) :=
      List.countP_mono_left fun row _ hpass => beq_iff_eq.mpr (htest row hpass)
    _ = (rows.map key).count passed := by
      rw [List.count, List.countP_map]
      rfl
    _ ≤ 1 := List.nodup_iff_count_le_one.mp hnodup passed

end Rows
