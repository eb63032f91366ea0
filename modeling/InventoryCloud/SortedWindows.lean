import Mathlib.Data.List.Nodup
import Mathlib.Data.List.Sort
import Mathlib.Tactic

/-!
# Windows of a growing sorted list

Distinct keys are kept in ascending order and read window by window, while
more keys may arrive between two reads.  A key that is there at the first read
only moves towards the end of the list, so a reader that goes on until its
window reaches the end cannot miss it.
-/

namespace Windows

variable {K : Type}

def window (keys : List K) (size page : ℕ) : List K :=
  (keys.drop (page * size)).take size

/-- Consecutive windows of one list make up its beginning. -/
theorem flatMap_window (keys : List K) (size count : ℕ) :
    (List.range count).flatMap (window keys size) =
      keys.take (count * size) := by
  induction count with
  | zero => simp
  | succ count ih =>
      rw [List.range_succ, List.flatMap_append, ih, Nat.succ_mul,
        List.take_add]
      simp [window]

variable [LinearOrder K]

/-- The position of a key among the sorted ones. -/
def rank (keys : List K) (key : K) : ℕ :=
  (keys.filter (· < key)).length

theorem getElem?_rank {keys : List K} (hsorted : keys.Pairwise (· < ·))
    {key : K} (hmem : key ∈ keys) : keys[rank keys key]? = some key := by
  induction keys with
  | nil => cases hmem
  | cons first rest ih =>
      obtain ⟨hfirst, hrest⟩ := List.pairwise_cons.mp hsorted
      rcases List.mem_cons.mp hmem with rfl | htail
      · have hnone : rest.filter (· < key) = [] := by
          rw [List.filter_eq_nil_iff]
          intro other hother
          simpa using (hfirst other hother).le
        simp [rank, hnone]
      · have hlt := hfirst key htail
        have hrank : rank (first :: rest) key = rank rest key + 1 := by
          simp [rank, hlt]
        rw [hrank, List.getElem?_cons_succ]
        exact ih hrest htail

theorem rank_lt_length {keys : List K} (hsorted : keys.Pairwise (· < ·))
    {key : K} (hmem : key ∈ keys) : rank keys key < keys.length := by
  obtain ⟨hlt, -⟩ := List.getElem?_eq_some_iff.mp (getElem?_rank hsorted hmem)
  exact hlt

/-- More keys push a key towards the end. -/
theorem rank_le_rank {first second : List K}
    (hsorted : first.Pairwise (· < ·)) (hsub : first ⊆ second) (key : K) :
    rank first key ≤ rank second key := by
  have hnodup : (first.filter (· < key)).Nodup :=
    (hsorted.imp ne_of_lt).filter _
  have hfilter : first.filter (· < key) ⊆ second.filter (· < key) := by
    intro other hother
    rw [List.mem_filter] at hother ⊢
    exact ⟨hsub hother.1, hother.2⟩
  exact (hnodup.subperm hfilter).length_le

theorem mem_window {keys : List K} (hsorted : keys.Pairwise (· < ·))
    {key : K} (hmem : key ∈ keys) {size page : ℕ}
    (hlow : page * size ≤ rank keys key)
    (hhigh : rank keys key < (page + 1) * size) :
    key ∈ window keys size page := by
  rw [Nat.succ_mul] at hhigh
  have hplace : (window keys size page)[rank keys key - page * size]? =
      some key := by
    have hindex : page * size + (rank keys key - page * size) =
        rank keys key := by omega
    rw [window, List.getElem?_take_of_lt (by omega), List.getElem?_drop,
      hindex]
    exact getElem?_rank hsorted hmem
  exact List.mem_of_getElem? hplace

section

variable {snapshots : ℕ → List K} {size last : ℕ}

/-- A key not read so far has not been overtaken by the window. -/
theorem rank_of_unread (hsorted : ∀ i ≤ last, (snapshots i).Pairwise (· < ·))
    (hgrows : ∀ i < last, snapshots i ⊆ snapshots (i + 1)) {key : K}
    (hkey : key ∈ snapshots 0) {i : ℕ} (hi : i ≤ last)
    (hunread : ∀ j < i, key ∉ window (snapshots j) size j) :
    key ∈ snapshots i ∧ i * size ≤ rank (snapshots i) key := by
  induction i with
  | zero => exact ⟨hkey, by simp⟩
  | succ i ih =>
      obtain ⟨hmem, hrank⟩ := ih (by omega)
        fun j hj => hunread j (by omega)
      have hsub := hgrows i (by omega)
      have hmoved := rank_le_rank (hsorted i (by omega)) hsub key
      have hpassed : (i + 1) * size ≤ rank (snapshots i) key := by
        by_contra hinside
        exact hunread i (by omega) (mem_window (hsorted i (by omega)) hmem
          hrank (by omega))
      exact ⟨hsub hmem, hpassed.trans hmoved⟩

/-- Windows that are read up to the end of the list miss no key of the first
snapshot. -/
theorem exists_mem_window
    (hsorted : ∀ i ≤ last, (snapshots i).Pairwise (· < ·))
    (hgrows : ∀ i < last, snapshots i ⊆ snapshots (i + 1))
    (hend : (snapshots last).length ≤ (last + 1) * size) {key : K}
    (hkey : key ∈ snapshots 0) :
    ∃ i ≤ last, key ∈ window (snapshots i) size i := by
  by_contra hnowhere
  have hunread : ∀ i ≤ last, key ∉ window (snapshots i) size i :=
    fun i hi hmem => hnowhere ⟨i, hi, hmem⟩
  obtain ⟨hmem, hrank⟩ := rank_of_unread hsorted hgrows hkey le_rfl
    fun j hj => hunread j hj.le
  have hlength := rank_lt_length (hsorted last le_rfl) hmem
  exact hunread last le_rfl (mem_window (hsorted last le_rfl) hmem hrank
    (by omega))

end

/-- Sorted lists of the same keys are equal. -/
theorem eq_of_subset_of_subset {first second : List K}
    (hfirst : first.Pairwise (· < ·)) (hsecond : second.Pairwise (· < ·))
    (hsub : first ⊆ second) (hsuper : second ⊆ first) : first = second := by
  have hperm : first.Perm second :=
    (List.perm_ext_iff_of_nodup (hfirst.imp ne_of_lt)
      (hsecond.imp ne_of_lt)).mpr fun key => ⟨(hsub ·), (hsuper ·)⟩
  exact hperm.eq_of_pairwise
    (fun a b _ _ hab hba => absurd hab (lt_asymm hba)) hfirst hsecond

end Windows
