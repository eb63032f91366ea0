import Mathlib.Tactic

/-!
# Computations that can fail

When a sequence of steps ends with a value, and what mapping the items of a
list with such a computation gives.
-/

namespace Outcome

theorem bind_ok {E α β : Type} {first : Except E α} {next : α → Except E β}
    {result : β} :
    (first >>= next) = .ok result ↔
      ∃ value, first = .ok value ∧ next value = .ok result := by
  cases first with
  | error error => simp [bind, Except.bind]
  | ok value => simp [bind, Except.bind]

theorem bind_error {E α β : Type} {first : Except E α} {next : α → Except E β}
    {error : E} :
    (first >>= next) = .error error ↔
      first = .error error ∨
        ∃ value, first = .ok value ∧ next value = .error error := by
  cases first with
  | error other => simp [bind, Except.bind]
  | ok value => simp [bind, Except.bind]

theorem ok_bind {E α β : Type} {value : α} {next : α → Except E β} :
    ((Except.ok value : Except E α) >>= next) = next value := rfl

theorem throw_bind {E α β : Type} {error : E} {next : α → Except E β} :
    ((throw error : Except E α) >>= next) = throw error := rfl

/-- A statement `if condition: raise error` lets exactly the other values
through. -/
theorem guard_ok {E α : Type} {condition : Prop} [Decidable condition]
    {error : E} {rest : Except E α} {result : α} :
    (if condition then throw error else rest) = .ok result ↔
      ¬ condition ∧ rest = .ok result := by
  by_cases hcondition : condition <;>
    simp [hcondition, throw, throwThe, MonadExceptOf.throw]

theorem throw_ne_ok {E α : Type} {error : E} {result : α} :
    (throw error : Except E α) ≠ .ok result := nofun

theorem pure_ok {E α : Type} {value result : α} :
    (pure value : Except E α) = .ok result ↔ value = result :=
  Except.ok.injEq value result ▸ Iff.rfl

theorem mapM_ok {E α β : Type} {test : α → Except E β} {value : α → β}
    {items : List α} (hitems : ∀ item ∈ items, test item = .ok (value item)) :
    items.mapM test = .ok (items.map value) := by
  induction items with
  | nil => rfl
  | cons item rest ih =>
      obtain ⟨hitem, hrest⟩ := List.forall_mem_cons.mp hitems
      rw [List.mapM_cons, hitem, ok_bind, ih hrest]
      rfl

/-- Every item of a list is mapped, or the whole fails. -/
theorem mapM_eq {E α β : Type} {test : α → Except E β}
    {items : List α} {values : List β} :
    items.mapM test = .ok values ↔ items.map test = values.map .ok := by
  induction items generalizing values with
  | nil =>
      cases values with
      | nil => exact iff_of_true rfl rfl
      | cons value others => exact iff_of_false nofun nofun
  | cons item rest ih =>
      rw [List.mapM_cons, bind_ok]
      constructor
      · rintro ⟨value, hvalue, hrest⟩
        obtain ⟨others, hothers, hsame⟩ := bind_ok.mp hrest
        rw [← pure_ok.mp hsame, List.map_cons, List.map_cons, hvalue,
          ih.mp hothers]
      · intro hsame
        cases values with
        | nil => cases hsame
        | cons value others =>
            rw [List.map_cons, List.map_cons, List.cons.injEq] at hsame
            exact ⟨value, hsame.1, bind_ok.mpr ⟨others, ih.mpr hsame.2, rfl⟩⟩

theorem mapM_mem {E α β : Type} {test : α → Except E β} {items : List α}
    {values : List β} (hvalues : items.mapM test = .ok values) {item : α}
    (hitem : item ∈ items) : ∃ value ∈ values, test item = .ok value := by
  have hmem : test item ∈ values.map Except.ok := by
    rw [← mapM_eq.mp hvalues]
    exact List.mem_map_of_mem hitem
  obtain ⟨value, hvalue, hsame⟩ := List.mem_map.mp hmem
  exact ⟨value, hvalue, hsame.symm⟩

theorem mem_mapM {E α β : Type} {test : α → Except E β} {items : List α}
    {values : List β} (hvalues : items.mapM test = .ok values) {value : β}
    (hvalue : value ∈ values) : ∃ item ∈ items, test item = .ok value := by
  have hmem : Except.ok value ∈ items.map test := by
    rw [mapM_eq.mp hvalues]
    exact List.mem_map_of_mem hvalue
  exact List.mem_map.mp hmem

/-- A computation which can only end with known values maps to these. -/
theorem mapM_map {E α β : Type} {test : α → Except E β} {value : α → β}
    {items : List α} {values : List β}
    (hvalues : items.mapM test = .ok values)
    (hitems : ∀ item ∈ items, ∀ found, test item = .ok found →
      found = value item) : values = items.map value := by
  have hsame : values.map (@Except.ok E β) = (items.map value).map .ok := by
    rw [← mapM_eq.mp hvalues, List.map_map]
    apply List.map_congr_left
    intro item hitem
    obtain ⟨found, -, hfound⟩ := mapM_mem hvalues hitem
    rw [hfound, hitems item hitem found hfound]
    rfl
  exact List.map_injective_iff.mpr (fun _ _ => Except.ok.inj) hsame

end Outcome
