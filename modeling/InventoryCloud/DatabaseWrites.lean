import InventoryCloud.DatabaseSchema

/-!
# Queries after writes

Each query after each write in terms of the query before it, and the
preservation of well-formedness by every statement the database accepts.
-/

namespace InventoryCloud

private theorem find?_of_nodup {α β : Type} [DecidableEq β] {key : α → β}
    {rows : List α} (hnodup : (rows.map key).Nodup) {row : α}
    (hmem : row ∈ rows) :
    rows.find? (fun other => key other = key row) = some row := by
  induction rows with
  | nil => cases hmem
  | cons first rows ih =>
      rw [List.map_cons, List.nodup_cons] at hnodup
      rcases List.mem_cons.mp hmem with rfl | htail
      · simp
      · have hne : key first ≠ key row := by
          intro heq
          exact hnodup.1 (heq ▸ List.mem_map_of_mem htail)
        rw [List.find?_cons]
        simp only [hne, decide_false]
        exact ih hnodup.2 htail

private theorem find?_map_of_preserved {α : Type} {change : α → α}
    {test : α → Bool} (htest : ∀ row, test (change row) = test row)
    (rows : List α) :
    (rows.map change).find? test = (rows.find? test).map change := by
  induction rows with
  | nil => rfl
  | cons row rows ih =>
      rw [List.map_cons, List.find?_cons, List.find?_cons, htest]
      cases test row
      · exact ih
      · rfl

@[simp] theorem Product.updatedBy_id (row entity : Product) :
    (row.updatedBy entity).id = row.id := rfl

@[simp] theorem Product.updatedBy_sku (row entity : Product) :
    (row.updatedBy entity).sku = row.sku := rfl

@[simp] theorem Reservation.updatedBy_id (row entity : Reservation) :
    (row.updatedBy entity).id = row.id := rfl

@[simp] theorem Reservation.updatedBy_productId (row entity : Reservation) :
    (row.updatedBy entity).productId = row.productId := rfl

@[simp] theorem Reservation.updatedBy_customerId (row entity : Reservation) :
    (row.updatedBy entity).customerId = row.customerId := rfl

@[simp] theorem Reservation.updatedBy_idempotencyKey
    (row entity : Reservation) :
    (row.updatedBy entity).idempotencyKey = row.idempotencyKey := rfl

namespace Database

@[simp] theorem productVersion_id (entity row : Product) :
    (productVersion entity row).id = row.id := by
  unfold productVersion
  split <;> rfl

@[simp] theorem productVersion_sku (entity row : Product) :
    (productVersion entity row).sku = row.sku := by
  unfold productVersion
  split <;> rfl

@[simp] theorem reservationVersion_id (entity row : Reservation) :
    (reservationVersion entity row).id = row.id := by
  unfold reservationVersion
  split <;> rfl

@[simp] theorem reservationVersion_productId (entity row : Reservation) :
    (reservationVersion entity row).productId = row.productId := by
  unfold reservationVersion
  split <;> rfl

@[simp] theorem reservationVersion_customerId (entity row : Reservation) :
    (reservationVersion entity row).customerId = row.customerId := by
  unfold reservationVersion
  split <;> rfl

@[simp] theorem reservationVersion_idempotencyKey
    (entity row : Reservation) :
    (reservationVersion entity row).idempotencyKey = row.idempotencyKey := by
  unfold reservationVersion
  split <;> rfl

@[simp] theorem applyAll_nil (db : Database) : db.applyAll [] = db := rfl

@[simp] theorem applyAll_cons (db : Database) (write : Write)
    (writes : List Write) :
    db.applyAll (write :: writes) = (db.apply write).applyAll writes := rfl

theorem applyAll_append (db : Database) (first second : List Write) :
    db.applyAll (first ++ second) = (db.applyAll first).applyAll second :=
  List.foldl_append

/-! ## Products -/

theorem findProduct_id {db : Database} {id : UUID} {product : Product}
    (hfind : db.findProduct id = some product) : product.id = id := by
  simpa using List.find?_some hfind

theorem findProduct_mem {db : Database} {id : UUID} {product : Product}
    (hfind : db.findProduct id = some product) : product ∈ db.products :=
  List.mem_of_find?_eq_some hfind

theorem findProduct_eq_none {db : Database} {id : UUID} :
    db.findProduct id = none ↔ ∀ row ∈ db.products, row.id ≠ id := by
  simp [findProduct]

theorem findProduct_insertProduct (db : Database) (product : Product)
    (id : UUID) :
    (db.apply (.insertProduct product)).findProduct id =
      (db.findProduct id).or (if product.id = id then some product else none) := by
  by_cases heq : product.id = id <;>
    simp [apply, findProduct, List.find?_append, heq]

theorem findProduct_updateProduct (db : Database) (entity : Product)
    (id : UUID) :
    (db.apply (.updateProduct entity)).findProduct id =
      (db.findProduct id).map (productVersion entity) :=
  find?_map_of_preserved (by simp) db.products

@[simp] theorem findProduct_insertReservation (db : Database)
    (reservation : Reservation) (id : UUID) :
    (db.apply (.insertReservation reservation)).findProduct id =
      db.findProduct id := rfl

@[simp] theorem findProduct_updateReservation (db : Database)
    (reservation : Reservation) (id : UUID) :
    (db.apply (.updateReservation reservation)).findProduct id =
      db.findProduct id := rfl

theorem existsBySku_eq_true {db : Database} {sku : JavaString} :
    db.existsBySku sku = true ↔ ∃ row ∈ db.products, row.sku = sku := by
  simp [existsBySku]

theorem existsBySku_insertProduct (db : Database) (product : Product)
    (sku : JavaString) :
    (db.apply (.insertProduct product)).existsBySku sku =
      (db.existsBySku sku || decide (product.sku = sku)) := by
  simp [apply, existsBySku]

@[simp] theorem existsBySku_updateProduct (db : Database) (entity : Product)
    (sku : JavaString) :
    (db.apply (.updateProduct entity)).existsBySku sku =
      db.existsBySku sku := by
  simp [existsBySku, apply, List.any_map, Function.comp_def]

@[simp] theorem existsBySku_insertReservation (db : Database)
    (reservation : Reservation) (sku : JavaString) :
    (db.apply (.insertReservation reservation)).existsBySku sku =
      db.existsBySku sku := rfl

@[simp] theorem existsBySku_updateReservation (db : Database)
    (reservation : Reservation) (sku : JavaString) :
    (db.apply (.updateReservation reservation)).existsBySku sku =
      db.existsBySku sku := rfl

/-! ## Reservations -/

theorem findReservation_id {db : Database} {id : UUID}
    {reservation : Reservation}
    (hfind : db.findReservation id = some reservation) :
    reservation.id = id := by
  simpa using List.find?_some hfind

theorem findReservation_mem {db : Database} {id : UUID}
    {reservation : Reservation}
    (hfind : db.findReservation id = some reservation) :
    reservation ∈ db.reservations :=
  List.mem_of_find?_eq_some hfind

theorem findReservation_eq_none {db : Database} {id : UUID} :
    db.findReservation id = none ↔ ∀ row ∈ db.reservations, row.id ≠ id := by
  simp [findReservation]

theorem findByIdAndCustomerId_some {db : Database} {id : UUID}
    {customerId : JavaString} {reservation : Reservation}
    (hfind : db.findByIdAndCustomerId id customerId = some reservation) :
    reservation ∈ db.reservations ∧ reservation.id = id ∧
      reservation.customerId = customerId := by
  refine ⟨List.mem_of_find?_eq_some hfind, ?_⟩
  simpa using List.find?_some hfind

theorem findByCustomerIdAndIdempotencyKey_some {db : Database}
    {customerId key : JavaString} {reservation : Reservation}
    (hfind : db.findByCustomerIdAndIdempotencyKey customerId key =
      some reservation) :
    reservation ∈ db.reservations ∧ reservation.customerId = customerId ∧
      reservation.idempotencyKey = some key := by
  refine ⟨List.mem_of_find?_eq_some hfind, ?_⟩
  simpa using List.find?_some hfind

theorem findByCustomerIdAndIdempotencyKey_eq_none {db : Database}
    {customerId key : JavaString} :
    db.findByCustomerIdAndIdempotencyKey customerId key = none ↔
      ∀ row ∈ db.reservations, row.customerId = customerId →
        row.idempotencyKey ≠ some key := by
  simp [findByCustomerIdAndIdempotencyKey]

theorem findReservation_insertReservation (db : Database)
    (reservation : Reservation) (id : UUID) :
    (db.apply (.insertReservation reservation)).findReservation id =
      (db.findReservation id).or
        (if reservation.id = id then some reservation else none) := by
  by_cases heq : reservation.id = id <;>
    simp [apply, findReservation, List.find?_append, heq]

theorem findReservation_updateReservation (db : Database)
    (entity : Reservation) (id : UUID) :
    (db.apply (.updateReservation entity)).findReservation id =
      (db.findReservation id).map (reservationVersion entity) :=
  find?_map_of_preserved (by simp) db.reservations

@[simp] theorem findReservation_insertProduct (db : Database)
    (product : Product) (id : UUID) :
    (db.apply (.insertProduct product)).findReservation id =
      db.findReservation id := rfl

@[simp] theorem findReservation_updateProduct (db : Database)
    (product : Product) (id : UUID) :
    (db.apply (.updateProduct product)).findReservation id =
      db.findReservation id := rfl

theorem findByCustomerIdAndIdempotencyKey_insertReservation (db : Database)
    (reservation : Reservation) (customerId key : JavaString) :
    (db.apply (.insertReservation reservation)).findByCustomerIdAndIdempotencyKey
        customerId key =
      (db.findByCustomerIdAndIdempotencyKey customerId key).or
        (if reservation.customerId = customerId ∧
            reservation.idempotencyKey = some key
          then some reservation else none) := by
  by_cases heq : reservation.customerId = customerId ∧
      reservation.idempotencyKey = some key <;>
    simp [apply, findByCustomerIdAndIdempotencyKey, List.find?_append, heq]

theorem findByCustomerIdAndIdempotencyKey_updateReservation (db : Database)
    (entity : Reservation) (customerId key : JavaString) :
    (db.apply (.updateReservation entity)).findByCustomerIdAndIdempotencyKey
        customerId key =
      (db.findByCustomerIdAndIdempotencyKey customerId key).map
        (reservationVersion entity) :=
  find?_map_of_preserved (by simp) db.reservations

@[simp] theorem findByCustomerIdAndIdempotencyKey_insertProduct
    (db : Database) (product : Product) (customerId key : JavaString) :
    (db.apply (.insertProduct product)).findByCustomerIdAndIdempotencyKey
        customerId key =
      db.findByCustomerIdAndIdempotencyKey customerId key := rfl

@[simp] theorem findByCustomerIdAndIdempotencyKey_updateProduct
    (db : Database) (product : Product) (customerId key : JavaString) :
    (db.apply (.updateProduct product)).findByCustomerIdAndIdempotencyKey
        customerId key =
      db.findByCustomerIdAndIdempotencyKey customerId key := rfl

/-! ## Rows of a well-formed database -/

namespace WellFormed

variable {db : Database}

theorem findProduct_of_mem (hwell : db.WellFormed) {product : Product}
    (hmem : product ∈ db.products) :
    db.findProduct product.id = some product :=
  find?_of_nodup hwell.productIds hmem

theorem findReservation_of_mem (hwell : db.WellFormed)
    {reservation : Reservation} (hmem : reservation ∈ db.reservations) :
    db.findReservation reservation.id = some reservation :=
  find?_of_nodup hwell.reservationIds hmem

/-- The unique index leaves one row to a customer's key. -/
theorem findByCustomerIdAndIdempotencyKey_of_mem (hwell : db.WellFormed)
    {reservation : Reservation} (hmem : reservation ∈ db.reservations)
    {key : JavaString} (hkey : reservation.idempotencyKey = some key) :
    db.findByCustomerIdAndIdempotencyKey reservation.customerId key =
      some reservation := by
  cases hfind : db.findByCustomerIdAndIdempotencyKey
      reservation.customerId key with
  | none =>
      exact absurd hkey
        (findByCustomerIdAndIdempotencyKey_eq_none.mp hfind _ hmem rfl)
  | some other =>
      obtain ⟨hother, hcustomer, hotherKey⟩ :=
        findByCustomerIdAndIdempotencyKey_some hfind
      by_contra hne
      have hdistinct : reservation ≠ other := fun heq => hne (heq ▸ rfl)
      have hsymm : Std.Symm fun first second : Reservation =>
          first.customerId = second.customerId →
            first.idempotencyKey = second.idempotencyKey →
              first.idempotencyKey = none := by
        refine ⟨fun first second hpair hcustomers hkeys => ?_⟩
        rw [hkeys]
        exact hpair hcustomers.symm hkeys.symm
      have hnone := hwell.keys.forall hmem hother hdistinct hcustomer.symm
        (hkey.trans hotherKey.symm)
      rw [hkey] at hnone
      cases hnone

/-- The owner's query is the query by id restricted to the owner. -/
theorem findByIdAndCustomerId_eq (hwell : db.WellFormed) (id : UUID)
    (customerId : JavaString) :
    db.findByIdAndCustomerId id customerId =
      (db.findReservation id).filter (·.customerId = customerId) := by
  cases hfind : db.findReservation id with
  | none =>
      have hall := findReservation_eq_none.mp hfind
      simp only [findByIdAndCustomerId, Option.filter_none,
        List.find?_eq_none, decide_eq_true_eq, not_and]
      intro row hrow hid
      exact absurd hid (hall row hrow)
  | some reservation =>
      have hid := findReservation_id hfind
      have hmem := findReservation_mem hfind
      cases howned : db.findByIdAndCustomerId id customerId with
      | none =>
          have hall : ∀ row ∈ db.reservations, row.id = id →
              row.customerId ≠ customerId := by
            simpa [findByIdAndCustomerId] using howned
          simp [Option.filter, hall reservation hmem hid]
      | some row =>
          obtain ⟨hrow, hrowId, hcustomer⟩ := findByIdAndCustomerId_some howned
          have hsame := hwell.findReservation_of_mem hrow
          rw [hrowId, hfind, Option.some.injEq] at hsame
          subst hsame
          simp [Option.filter, hcustomer]

theorem stockInRange (hwell : db.WellFormed) {product : Product}
    (hmem : product ∈ db.products) : StockInRange product := by
  have hrow := hwell.productRows product hmem
  simp only [Product.storable, Bool.and_eq_true, decide_eq_true_eq] at hrow
  exact hrow.2

/-! ## Accepted statements keep the constraints -/

theorem positiveQuantity (hwell : db.WellFormed) {reservation : Reservation}
    (hmem : reservation ∈ db.reservations) :
    PositiveQuantity reservation.quantity := by
  have hrow := hwell.reservationRows reservation hmem
  simp only [Reservation.storable, Bool.and_eq_true, decide_eq_true_eq]
    at hrow
  exact hrow.1.1.1.2

theorem insertProduct (hwell : db.WellFormed) {product : Product}
    (haccept : db.accepts (.insertProduct product) = true) :
    (db.apply (.insertProduct product)).WellFormed := by
  simp only [accepts, Bool.and_eq_true, Option.isNone_iff_eq_none,
    findProduct_eq_none, Bool.not_eq_true', Bool.eq_false_iff, ne_eq,
    existsBySku_eq_true, not_exists, not_and] at haccept
  obtain ⟨⟨hrow, hid⟩, hsku⟩ := haccept
  constructor
  · simpa [apply, List.nodup_append, hwell.productIds] using hid
  · simpa [apply, List.nodup_append, hwell.skus] using hsku
  · exact hwell.reservationIds
  · exact hwell.keys
  · intro row hmem
    obtain ⟨other, hother, heq⟩ := hwell.foreignKey row hmem
    exact ⟨other, List.mem_append_left _ hother, heq⟩
  · intro row hmem
    rcases List.mem_append.mp hmem with hold | hnew
    · exact hwell.productRows row hold
    · rwa [List.mem_singleton.mp hnew]
  · exact hwell.reservationRows

theorem insertReservation (hwell : db.WellFormed) {reservation : Reservation}
    (haccept : db.accepts (.insertReservation reservation) = true)
    (hproduct : (db.findProduct reservation.productId).isSome) :
    (db.apply (.insertReservation reservation)).WellFormed := by
  simp only [accepts, Bool.and_eq_true, Option.isNone_iff_eq_none,
    findReservation_eq_none] at haccept
  obtain ⟨⟨hrow, hid⟩, hkey⟩ := haccept
  constructor
  · exact hwell.productIds
  · exact hwell.skus
  · simpa [apply, List.nodup_append, hwell.reservationIds] using hid
  · refine List.pairwise_append.mpr ⟨hwell.keys, List.pairwise_singleton _ _, ?_⟩
    intro row hmem other hother hcustomer hsame
    rw [List.mem_singleton.mp hother] at hcustomer hsame
    cases hcase : reservation.idempotencyKey with
    | none => rw [hsame, hcase]
    | some key =>
        rw [hcase, Option.all_some, Option.isNone_iff_eq_none,
          findByCustomerIdAndIdempotencyKey_eq_none] at hkey
        exact absurd (hsame.trans hcase) (hkey row hmem hcustomer)
  · intro row hmem
    rcases List.mem_append.mp hmem with hold | hnew
    · exact hwell.foreignKey row hold
    · obtain ⟨product, hfind⟩ := Option.isSome_iff_exists.mp hproduct
      rw [List.mem_singleton.mp hnew]
      exact ⟨product, findProduct_mem hfind, findProduct_id hfind⟩
  · exact hwell.productRows
  · intro row hmem
    rcases List.mem_append.mp hmem with hold | hnew
    · exact hwell.reservationRows row hold
    · rwa [List.mem_singleton.mp hnew]

theorem updateProduct (hwell : db.WellFormed) {entity : Product}
    (haccept : db.accepts (.updateProduct entity) = true) :
    (db.apply (.updateProduct entity)).WellFormed := by
  constructor
  · simpa [apply, Function.comp_def] using hwell.productIds
  · simpa [apply, Function.comp_def] using hwell.skus
  · exact hwell.reservationIds
  · exact hwell.keys
  · intro row hmem
    obtain ⟨product, hproduct, hid⟩ := hwell.foreignKey row hmem
    exact ⟨productVersion entity product, List.mem_map_of_mem hproduct,
      by rw [productVersion_id, hid]⟩
  · intro version hmem
    obtain ⟨row, hrow, rfl⟩ := List.mem_map.mp hmem
    by_cases hid : row.id = entity.id
    · have hfind := hwell.findProduct_of_mem hrow
      simp only [accepts, ← hid, hfind, Option.any_some] at haccept
      simpa [productVersion, hid] using haccept
    · simpa [productVersion, hid] using hwell.productRows row hrow
  · exact hwell.reservationRows

theorem updateReservation (hwell : db.WellFormed) {entity : Reservation}
    (haccept : db.accepts (.updateReservation entity) = true) :
    (db.apply (.updateReservation entity)).WellFormed := by
  constructor
  · exact hwell.productIds
  · exact hwell.skus
  · simpa [apply, Function.comp_def] using hwell.reservationIds
  · simpa [apply, List.pairwise_map] using hwell.keys
  · intro version hmem
    obtain ⟨row, hrow, rfl⟩ := List.mem_map.mp hmem
    rw [reservationVersion_productId]
    exact hwell.foreignKey row hrow
  · exact hwell.productRows
  · intro version hmem
    obtain ⟨row, hrow, rfl⟩ := List.mem_map.mp hmem
    by_cases hid : row.id = entity.id
    · have hfind := hwell.findReservation_of_mem hrow
      simp only [accepts, ← hid, hfind, Option.any_some] at haccept
      simpa [reservationVersion, hid] using haccept
    · simpa [reservationVersion, hid] using hwell.reservationRows row hrow

end WellFormed

end Database

end InventoryCloud
