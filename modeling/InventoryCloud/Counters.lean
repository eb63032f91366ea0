import Mathlib.Data.List.Count
import Mathlib.Tactic

/-!
# Counters

Counting the items of a list one after another, as a dictionary from items to
numbers which keeps the order of first occurrences.
-/

namespace Counter

variable {α : Type} [DecidableEq α]

def add (item : α) : List (α × Nat) → List (α × Nat)
  | [] => [(item, 1)]
  | (key, count) :: rest =>
      if key = item then (key, count + 1) :: rest
      else (key, count) :: add item rest

def ofList (items : List α) : List (α × Nat) :=
  items.foldl (fun counts item => add item counts) []

/-- The number of an item, zero if it was never counted. -/
def get (item : α) : List (α × Nat) → Nat
  | [] => 0
  | (key, count) :: rest => if key = item then count else get item rest

theorem get_add (item other : α) (counts : List (α × Nat)) :
    get other (add item counts) =
      get other counts + if item = other then 1 else 0 := by
  induction counts with
  | nil => simp [add, get]
  | cons entry rest ih =>
      obtain ⟨key, count⟩ := entry
      rw [add]
      by_cases hkey : key = item
      · subst hkey
        by_cases hother : key = other
        · simp [get, hother]
        · simp [get, hother]
      · rw [if_neg hkey, get, ih, get]
        by_cases hother : key = other
        · subst hother
          simp [Ne.symm hkey]
        · simp [hother]

theorem keys_add (item : α) (counts : List (α × Nat)) :
    (add item counts).map Prod.fst =
      if item ∈ counts.map Prod.fst then counts.map Prod.fst
      else counts.map Prod.fst ++ [item] := by
  induction counts with
  | nil => rfl
  | cons entry rest ih =>
      obtain ⟨key, count⟩ := entry
      rw [add]
      by_cases hkey : key = item
      · simp [hkey]
      · rw [if_neg hkey, List.map_cons, ih]
        by_cases hrest : item ∈ rest.map Prod.fst
        · have hmem : item ∈ ((key, count) :: rest).map Prod.fst :=
            List.mem_cons_of_mem _ hrest
          rw [if_pos hrest, if_pos hmem]
          rfl
        · have hmem : item ∉ ((key, count) :: rest).map Prod.fst := by
            rw [List.map_cons, List.mem_cons, not_or]
            exact ⟨Ne.symm hkey, hrest⟩
          rw [if_neg hrest, if_neg hmem]
          rfl

/-- What the counting has reached after any items. -/
theorem ofList_concat (items : List α) (item : α) :
    ofList (items ++ [item]) = add item (ofList items) := by
  unfold ofList
  rw [List.foldl_append]
  rfl

theorem get_ofList (items : List α) (item : α) :
    get item (ofList items) = items.count item := by
  induction items using List.reverseRecOn with
  | nil => rfl
  | append_singleton items last ih =>
      rw [ofList_concat, get_add, ih, List.count_append, List.count_singleton]
      simp

theorem nodup_ofList (items : List α) :
    ((ofList items).map Prod.fst).Nodup := by
  induction items using List.reverseRecOn with
  | nil => exact List.nodup_nil
  | append_singleton items last ih =>
      rw [ofList_concat, keys_add]
      split_ifs with hlast
      · exact ih
      · rw [List.nodup_append_comm]
        exact List.nodup_cons.mpr ⟨hlast, ih⟩

theorem mem_keys_ofList (items : List α) (item : α) :
    item ∈ (ofList items).map Prod.fst ↔ item ∈ items := by
  induction items using List.reverseRecOn with
  | nil => rfl
  | append_singleton items last ih =>
      rw [ofList_concat, keys_add, List.mem_append, ← ih,
        List.mem_singleton]
      split_ifs with hlast
      · constructor
        · exact Or.inl
        · rintro (hitem | rfl)
          · exact hitem
          · exact hlast
      · rw [List.mem_append, List.mem_singleton]

theorem get_of_mem {counts : List (α × Nat)} {item : α} {count : Nat}
    (hnodup : (counts.map Prod.fst).Nodup) (hmem : (item, count) ∈ counts) :
    get item counts = count := by
  induction counts with
  | nil => cases hmem
  | cons entry rest ih =>
      obtain ⟨key, first⟩ := entry
      rw [List.map_cons, List.nodup_cons] at hnodup
      rw [get]
      rcases List.mem_cons.mp hmem with hsame | hrest
      · cases hsame
        exact if_pos rfl
      · have hkeys : item ∈ rest.map Prod.fst :=
          List.mem_map.mpr ⟨(item, count), hrest, rfl⟩
        rw [if_neg, ih hnodup.2 hrest]
        rintro rfl
        exact hnodup.1 hkeys

/-- The entries are the items with the numbers of their occurrences. -/
theorem mem_ofList {items : List α} {item : α} {count : Nat} :
    (item, count) ∈ ofList items ↔ item ∈ items ∧ count = items.count item := by
  constructor
  · intro hmem
    have hcount := get_of_mem (nodup_ofList items) hmem
    rw [get_ofList] at hcount
    exact ⟨(mem_keys_ofList items item).mp (List.mem_map_of_mem hmem),
      hcount.symm⟩
  · rintro ⟨hitem, rfl⟩
    obtain ⟨⟨key, count⟩, hmem, rfl⟩ :=
      List.mem_map.mp ((mem_keys_ofList items item).mpr hitem)
    have hcount := get_of_mem (nodup_ofList items) hmem
    rw [get_ofList] at hcount
    rw [hcount]
    exact hmem

end Counter
