import InventoryCloud.CommittedHistory
import InventoryCloud.RowSums

/-!
# The stock ledger

A quantity of the tables which every call changes by its own share equals, in
every reachable state, the sum of the shares of the committed calls.  For one
product's stock and active reservations the shares are the initial quantity
and the restocks.
-/

namespace InventoryCloud

/-- A measure of the tables follows the committed calls. -/
theorem Serial.ledger {measure : Database → ℤ} {share : Completed → ℤ}
    (hcall : ∀ {view : Database} {completed : Completed}, view.WellFormed →
      Performs view completed.call completed.returned completed.session →
        measure (view.applyAll completed.session.writes) =
          measure view + share completed)
    {db : Database} {calls : List Completed} (hwell : db.WellFormed)
    (hserial : Serial db calls) :
    measure (db.applyAll (writesOf calls)) =
      measure db + (calls.map share).sum := by
  induction calls generalizing db with
  | nil => simp
  | cons completed calls ih =>
      obtain ⟨hhappens, hrest⟩ := hserial
      have hfirst : measure (db.applyAll completed.session.writes) =
          measure db + share completed := by
        rcases hhappens with hperforms | ⟨hquiet, moment, hmoment, -, hthen⟩
        · exact hcall hwell hperforms
        · have hthere := hcall hmoment hthen
          rw [hquiet, Database.applyAll_nil] at hthere ⊢
          omega
      have hnext := (hhappens.legalAll hwell).wellFormed hwell
      rw [writesOf_cons, Database.applyAll_append, ih hnext hrest, hfirst,
        List.map_cons, List.sum_cons, add_assoc]

theorem System.Invariant.ledger {sha256 : List UInt8 → List UInt8}
    {s : System} (hinv : s.Invariant sha256) {measure : Database → ℤ}
    {share : Completed → ℤ} (hempty : measure .empty = 0)
    (hcall : ∀ {view : Database} {completed : Completed}, view.WellFormed →
      Performs view completed.call completed.returned completed.session →
        measure (view.applyAll completed.session.writes) =
          measure view + share completed) :
    measure s.db = (s.durable.map share).sum := by
  rw [hinv.rows, hinv.serial.ledger hcall Database.wellFormed_empty, hempty,
    zero_add]

/-! ## Sums under single statements -/

namespace Database

theorem WellFormed.sum_updateProduct {db : Database} (hwell : db.WellFormed)
    {product entity : Product} (hfind : db.findProduct entity.id = some product)
    (value : Product → ℤ) :
    ((db.apply (.updateProduct entity)).products.map value).sum =
      (db.products.map value).sum +
        (value (product.updatedBy entity) - value product) := by
  have hid := findProduct_id hfind
  have hchange := @Rows.sum_map_change _ _ (·.id) ℤ _ _ hwell.productIds
    product (findProduct_mem hfind) value (productVersion entity)
    fun other hne => if_neg (hid ▸ hne)
  rwa [show productVersion entity product = product.updatedBy entity from
    if_pos hid] at hchange

theorem WellFormed.sum_updateReservation {db : Database}
    (hwell : db.WellFormed) {reservation entity : Reservation}
    (hfind : db.findReservation entity.id = some reservation)
    (value : Reservation → ℤ) :
    ((db.apply (.updateReservation entity)).reservations.map value).sum =
      (db.reservations.map value).sum +
        (value (reservation.updatedBy entity) - value reservation) := by
  have hid := findReservation_id hfind
  have hchange := @Rows.sum_map_change _ _ (·.id) ℤ _ _ hwell.reservationIds
    reservation (findReservation_mem hfind) value (reservationVersion entity)
    fun other hne => if_neg (hid ▸ hne)
  rwa [show reservationVersion entity reservation =
    reservation.updatedBy entity from if_pos hid] at hchange

theorem sum_insertReservation (db : Database) (reservation : Reservation)
    (value : Reservation → ℤ) :
    ((db.apply (.insertReservation reservation)).reservations.map value).sum =
      (db.reservations.map value).sum + value reservation := by
  simp [apply]

theorem sum_insertProduct (db : Database) (product : Product)
    (value : Product → ℤ) :
    ((db.apply (.insertProduct product)).products.map value).sum =
      (db.products.map value).sum + value product := by
  simp [apply]

end Database

/-! ## Sums under calls -/

namespace Database

/-- A sum over the rows of both tables. -/
def total (product : Product → ℤ) (reservation : Reservation → ℤ)
    (db : Database) : ℤ :=
  (db.products.map product).sum + (db.reservations.map reservation).sum

section

variable {view : Database} (forProduct : Product → ℤ)
  (forReservation : Reservation → ℤ)

theorem total_insertProduct (product : Product) :
    total forProduct forReservation (view.apply (.insertProduct product)) =
      total forProduct forReservation view + forProduct product := by
  have hsum := sum_insertProduct view product forProduct
  simp only [total, hsum]
  simp only [apply]
  omega

theorem total_insertReservation (reservation : Reservation) :
    total forProduct forReservation
        (view.apply (.insertReservation reservation)) =
      total forProduct forReservation view + forReservation reservation := by
  have hsum := sum_insertReservation view reservation forReservation
  simp only [total, hsum]
  simp only [apply]
  omega

theorem total_updateProduct (hwell : view.WellFormed)
    {product entity : Product}
    (hfind : view.findProduct entity.id = some product) :
    total forProduct forReservation (view.apply (.updateProduct entity)) =
      total forProduct forReservation view +
        (forProduct (product.updatedBy entity) - forProduct product) := by
  have hsum := hwell.sum_updateProduct hfind forProduct
  simp only [total, hsum]
  simp only [apply]
  omega

theorem total_updateReservation (hwell : view.WellFormed)
    {reservation entity : Reservation}
    (hfind : view.findReservation entity.id = some reservation) :
    total forProduct forReservation (view.apply (.updateReservation entity)) =
      total forProduct forReservation view +
        (forReservation (reservation.updatedBy entity) -
          forReservation reservation) := by
  have hsum := hwell.sum_updateReservation hfind forReservation
  simp only [total, hsum]
  simp only [apply]
  omega

theorem total_restocked (hwell : view.WellFormed) {product entity : Product}
    (hfind : view.findProduct entity.id = some product)
    (hrestocks : product.RestocksTo entity) :
    total forProduct forReservation (view.applyAll [.updateProduct entity]) =
      total forProduct forReservation view +
        (forProduct entity - forProduct product) := by
  have hversion : product.updatedBy entity = entity := by
    rw [hrestocks]
    rfl
  have hsum := total_updateProduct forProduct forReservation hwell hfind
  rwa [hversion] at hsum

theorem total_reserved (hwell : view.WellFormed) {product entity : Product}
    {reservation : Reservation}
    (hfind : view.findProduct entity.id = some product)
    (hrestocks : product.RestocksTo entity)
    (hinsert : view.admits (.insertReservation reservation) = true) :
    total forProduct forReservation (view.applyAll
        [.insertReservation reservation, .updateProduct entity]) =
      total forProduct forReservation view + forReservation reservation +
        (forProduct entity - forProduct product) := by
  have hfirst := @total_insertReservation view forProduct forReservation
    reservation
  have hlast := total_restocked forProduct forReservation (hwell.apply hinsert)
    ((findProduct_insertReservation view reservation entity.id).trans hfind)
    hrestocks
  rw [hfirst] at hlast
  exact hlast

theorem total_cancelled (hwell : view.WellFormed) {product entity : Product}
    {reservation changed : Reservation}
    (hproduct : view.findProduct entity.id = some product)
    (hrestocks : product.RestocksTo entity)
    (hupdate : view.admits (.updateProduct entity) = true)
    (hfind : view.findReservation changed.id = some reservation)
    (hmoves : reservation.MovesTo changed) :
    total forProduct forReservation (view.applyAll
        [.updateProduct entity, .updateReservation changed]) =
      total forProduct forReservation view +
        (forProduct entity - forProduct product) +
          (forReservation changed - forReservation reservation) := by
  have hfirst := total_restocked forProduct forReservation hwell hproduct
    hrestocks
  have hlast := total_updateReservation forProduct forReservation
    (hwell.apply hupdate)
    ((findReservation_updateProduct view entity changed.id).trans hfind)
  have hversion : reservation.updatedBy changed = changed := by
    rcases hmoves with rfl | ⟨-, cancelledAt, rfl⟩ <;> rfl
  rw [hversion] at hlast
  rw [← hfirst]
  exact hlast

end

end Database

open InventoryService

/-- Every kind of call changes a sum over the rows by its share. -/
structure Follows (forProduct : Product → ℤ) (forReservation : Reservation → ℤ)
    (share : Completed → ℤ) : Prop where
  created : ∀ {fresh sku name initialQuantity product},
    Product.new fresh sku name initialQuantity = .ok product →
      share ⟨.createProduct fresh sku name initialQuantity, .product product,
        createdSession product initialQuantity⟩ = forProduct product
  restocked : ∀ {product quantity}, StockInRange product →
    PositiveQuantity quantity →
      share ⟨.addStock product.id quantity,
        .product (product.restocked quantity),
        restockedSession (product.restocked quantity) quantity⟩ =
          forProduct (product.restocked quantity) - forProduct product
  reserved : ∀ {fresh quantity customerId idempotencyKey customer product},
    StockInRange product → PositiveQuantity quantity →
      Reservation.validateCustomerId customerId = .ok customer →
        share ⟨.reserve fresh product.id quantity customerId idempotencyKey,
          .reservationResult (Reservation.created fresh product.id quantity
            customer idempotencyKey) false,
          reservedSession (product.deducted quantity)
            (Reservation.created fresh product.id quantity customer
              idempotencyKey) quantity⟩ =
          forReservation (Reservation.created fresh product.id quantity
            customer idempotencyKey) +
            (forProduct (product.deducted quantity) - forProduct product)
  cancelled : ∀ {now customerId reservation product},
    StockInRange product → PositiveQuantity reservation.quantity →
      reservation.status = .active → reservation.productId = product.id →
        share ⟨.cancelReservation now reservation.id customerId,
          .reservation (reservation.cancelledBy now),
          cancelledSession (product.restocked reservation.quantity)
            (reservation.cancelledBy now)⟩ =
          (forProduct (product.restocked reservation.quantity) -
            forProduct product) +
            (forReservation (reservation.cancelledBy now) -
              forReservation reservation)
  quiet : ∀ {view call returned session}, session.writes = [] →
    Performs view call returned session → share ⟨call, returned, session⟩ = 0

section

variable {forProduct : Product → ℤ} {forReservation : Reservation → ℤ}
  {share : Completed → ℤ}

open Database in
theorem Follows.total (hfollows : Follows forProduct forReservation share)
    {view : Database} {completed : Completed} (hwell : view.WellFormed)
    (hperforms : Performs view completed.call completed.returned
      completed.session) :
    total forProduct forReservation
        (view.applyAll completed.session.writes) =
      total forProduct forReservation view + share completed := by
  obtain ⟨call, returned, session⟩ := completed
  dsimp only at hperforms
  cases hperforms with
  | created hnew haccept =>
      rw [hfollows.created hnew]
      exact total_insertProduct forProduct forReservation _
  | @restocked id quantity product hquantity hfind hfits hadmits =>
      have hid := findProduct_id hfind
      subst hid
      have hrange := hwell.stockInRange (findProduct_mem hfind)
      rw [hfollows.restocked hrange hquantity]
      exact total_restocked forProduct forReservation hwell hfind rfl
  | @reserved fresh productId quantity _ _ _ product hquantity hcustomer hkey
      hfind hstock hinsert hupdate =>
      have hid := findProduct_id hfind
      subst hid
      have hrange := hwell.stockInRange (findProduct_mem hfind)
      rw [hfollows.reserved hrange hquantity hcustomer, ← add_assoc]
      exact total_reserved forProduct forReservation hwell hfind rfl hinsert
  | @cancelled now id _ _ reservation product hcustomer hfind hactive hproduct
      hquantity hfits hproductUpdate hupdate =>
      obtain ⟨hmem, hid, -⟩ := findByIdAndCustomerId_some hfind
      subst hid
      have hproductId := findProduct_id hproduct
      have hrange := hwell.stockInRange (findProduct_mem hproduct)
      rw [hfollows.cancelled hrange hquantity hactive hproductId.symm,
        ← add_assoc]
      rw [← hproductId] at hproduct
      exact total_cancelled forProduct forReservation hwell hproduct rfl
        hproductUpdate (hwell.findReservation_of_mem hmem)
        (Reservation.cancelledBy_movesTo hactive now)
  | _ =>
      rw [hfollows.quiet rfl (by constructor <;> assumption), add_zero]
      rfl

/-- The ledger of a reachable state. -/
theorem Follows.ledger (hfollows : Follows forProduct forReservation share)
    {sha256 : List UInt8 → List UInt8} {s : System}
    (hreach : System.Reachable sha256 s) :
    s.db.total forProduct forReservation = (s.durable.map share).sum :=
  hreach.invariant.ledger rfl hfollows.total

end

/-! ## Owners -/

private theorem customers_follow :
    Follows (fun _ => 0)
      (fun reservation => if JavaString.isBlank reservation.customerId ||
        200 < reservation.customerId.length then 1 else 0) (fun _ => 0) where
  created _ := rfl
  restocked _ _ := rfl
  reserved {_ _ customerId _ customer _} _ _ hcustomer := by
    have hgiven := Reservation.validateCustomerId_ok hcustomer
    rw [hgiven, Reservation.validateCustomerId_some] at hcustomer
    change 0 = (if (JavaString.isBlank customer ||
      decide (200 < customer.length)) = true then (1 : ℤ) else 0) + (0 - 0)
    rw [hcustomer]
    rfl
  cancelled _ _ _ _ := ((zero_add _).trans (Int.sub_self _)).symm
  quiet _ _ := rfl

/-- The owner of a stored reservation passes the validation. -/
theorem System.Reachable.customer_valid {sha256 : List UInt8 → List UInt8}
    {s : System} (hreach : Reachable sha256 s) {reservation : Reservation}
    (hmem : reservation ∈ s.db.reservations) :
    Reservation.validateCustomerId (some reservation.customerId) =
      .ok reservation.customerId := by
  have hledger := customers_follow.ledger hreach
  simp only [Database.total, List.map_const', List.sum_replicate, smul_zero,
    zero_add] at hledger
  have hzero := List.all_zero_of_le_zero_le_of_sum_eq_zero ?_ hledger
    (List.mem_map_of_mem hmem)
  · rw [Reservation.validateCustomerId_some]
    by_contra hbad
    rw [Bool.not_eq_false] at hbad
    simp [hbad] at hzero
  · intro term hterm
    obtain ⟨row, -, rfl⟩ := List.mem_map.mp hterm
    split <;> decide

/-! ## Stock conservation -/

/-- The initial quantity of a call that created the product. -/
def Completed.createdQuantity (id : UUID) (completed : Completed) :
    Option Int32 :=
  match completed.call, completed.returned with
  | .createProduct _ _ _ initialQuantity, .product product =>
      if product.id = id then some initialQuantity else none
  | _, _ => none

/-- The quantity of an `addStock` call on the product. -/
def Completed.addedQuantity (id : UUID) (completed : Completed) :
    Option Int32 :=
  match completed.call with
  | .addStock productId quantity =>
      if productId = id then some quantity else none
  | _ => none

/-- The units which active reservations hold of a product. -/
def Database.activeUnits (db : Database) (id : UUID) : ℤ :=
  ((db.reservations.filter fun row =>
    row.productId = id ∧ row.status = .active).map (·.quantity.toInt)).sum

def unitsOf (quantities : List Int32) : ℤ :=
  (quantities.map (·.toInt)).sum

private def stockOf (id : UUID) (product : Product) : ℤ :=
  if product.id = id then product.availableQuantity.toInt else 0

private def heldOf (id : UUID) (reservation : Reservation) : ℤ :=
  if reservation.productId = id ∧ reservation.status = .active then
    reservation.quantity.toInt
  else 0

private def suppliedBy (id : UUID) (completed : Completed) : ℤ :=
  ((completed.createdQuantity id).map (·.toInt)).getD 0 +
    ((completed.addedQuantity id).map (·.toInt)).getD 0

theorem Product.new_availableQuantity {fresh : Fresh}
    {sku name : Option JavaString} {initialQuantity : Int32}
    {product : Product}
    (hnew : Product.new fresh sku name initialQuantity = .ok product) :
    product.availableQuantity = initialQuantity := by
  obtain ⟨-, normalized, given, -, -, rfl⟩ := Product.new_ok hnew
  rfl

private theorem unitsOf_filterMap (pick : Completed → Option Int32)
    (calls : List Completed) :
    unitsOf (calls.filterMap pick) =
      (calls.map fun call => ((pick call).map (·.toInt)).getD 0).sum :=
  Rows.sum_filterMap calls pick (·.toInt)

private theorem stock_follows (id : UUID) :
    Follows (stockOf id) (heldOf id) (suppliedBy id) where
  created {_ _ _ _ product} hnew := by
    have hquantity := Product.new_availableQuantity hnew
    by_cases hid : product.id = id <;>
      simp [suppliedBy, Completed.createdQuantity, Completed.addedQuantity,
        stockOf, hid, hquantity]
  restocked {product quantity} hrange hquantity := by
    have hsum := toInt_addStock hrange hquantity
    by_cases hid : product.id = id <;>
      simp [suppliedBy, Completed.createdQuantity, Completed.addedQuantity,
        stockOf, Product.restocked, hid, hsum]
  reserved {fresh quantity customerId idempotencyKey customer product} hrange
      hquantity hcustomer := by
    have hsum := toInt_reserveStock hrange hquantity
    by_cases hid : product.id = id <;>
      simp [suppliedBy, Completed.createdQuantity, Completed.addedQuantity,
        stockOf, heldOf, Product.deducted, Reservation.created, hid, hsum]
  cancelled {now customerId reservation product} hrange hquantity hactive
      hproduct := by
    have hsum := toInt_addStock hrange hquantity
    by_cases hid : product.id = id <;>
      simp [suppliedBy, Completed.createdQuantity, Completed.addedQuantity,
        stockOf, heldOf, Product.restocked, Reservation.cancelledBy, hid,
        hsum, hactive, hproduct]
  quiet hquiet hperforms := by
    cases hperforms <;> first | rfl | cases hquiet

private theorem creation_follows (id : UUID) :
    Follows (fun product => if product.id = id then 1 else 0) (fun _ => 0)
      (fun completed => if (completed.createdQuantity id).isSome then 1
        else 0) where
  created {_ _ _ _ product} hnew := by
    by_cases hid : product.id = id <;>
      simp [Completed.createdQuantity, hid]
  restocked _ _ := (Int.sub_self _).symm
  reserved _ _ _ := ((zero_add _).trans (Int.sub_self _)).symm
  cancelled _ _ _ _ := ((add_zero _).trans (Int.sub_self _)).symm
  quiet hquiet hperforms := by
    cases hperforms <;> first | rfl | cases hquiet

/-- Stock is conserved in every reachable state. -/
theorem System.Reachable.stock_conserved {sha256 : List UInt8 → List UInt8}
    {s : System} (hreach : Reachable sha256 s) {product : Product}
    (hmem : product ∈ s.db.products) :
    (∃ initialQuantity,
      s.durable.filterMap (·.createdQuantity product.id) = [initialQuantity] ∧
        product.availableQuantity.toInt + s.db.activeUnits product.id =
          initialQuantity.toInt +
            unitsOf (s.durable.filterMap (·.addedQuantity product.id))) ∧
      0 ≤ product.availableQuantity.toInt ∧
        product.availableQuantity.toInt ≤ 1000000 := by
  have hwell := hreach.invariant.wellFormed
  refine ⟨?_, hwell.stockInRange hmem⟩
  have hcreations := (creation_follows product.id).ledger hreach
  have hstock := (stock_follows product.id).ledger hreach
  have hone : ((s.durable.filterMap
      (·.createdQuantity product.id)).length : ℤ) = 1 := by
    rw [Rows.length_filterMap, ← hcreations, Database.total,
      Rows.sum_map_single hwell.productIds hmem]
    simp
  obtain ⟨initialQuantity, hinitial⟩ :=
    List.length_eq_one_iff.mp (Int.ofNat_inj.mp hone)
  have hactive : s.db.activeUnits product.id =
      (s.db.reservations.map (heldOf product.id)).sum := by
    unfold Database.activeUnits heldOf
    rw [Rows.sum_map_filter]
    simp
  have hsupplied : (s.durable.map (suppliedBy product.id)).sum =
      unitsOf (s.durable.filterMap (·.createdQuantity product.id)) +
        unitsOf (s.durable.filterMap (·.addedQuantity product.id)) := by
    rw [unitsOf_filterMap, unitsOf_filterMap, ← List.sum_map_add]
    rfl
  refine ⟨initialQuantity, hinitial, ?_⟩
  rw [hsupplied, hinitial, Database.total, ← hactive] at hstock
  have hown := Rows.sum_map_single hwell.productIds hmem (·.availableQuantity.toInt)
  unfold stockOf at hstock
  rw [hown] at hstock
  simpa [unitsOf] using hstock

theorem System.stock_conserved_sample :
    ∃ s : System, initial.run (fun _ => []) sampleActions = some s ∧
      ∃ product ∈ s.db.products,
        (∃ initialQuantity,
          s.durable.filterMap (·.createdQuantity product.id) =
              [initialQuantity] ∧
            product.availableQuantity.toInt + s.db.activeUnits product.id =
              initialQuantity.toInt +
                unitsOf (s.durable.filterMap
                  (·.addedQuantity product.id))) ∧
          0 ≤ product.availableQuantity.toInt ∧
            product.availableQuantity.toInt ≤ 1000000 := by
  have hproducts : (initial.run (fun _ => []) sampleActions).map
      (·.db.products) = some [⟨1, [65, 49], [65], 9, ⟨1000⟩⟩] := by
    decide +kernel
  obtain ⟨s, hrun, hvalue⟩ := Option.map_eq_some_iff.mp hproducts
  have hmem : (⟨1, [65, 49], [65], 9, ⟨1000⟩⟩ : Product) ∈ s.db.products := by
    rw [hvalue]
    exact List.mem_singleton_self _
  exact ⟨s, hrun, _, hmem, Reachable.stock_conserved ⟨_, hrun⟩ hmem⟩

end InventoryCloud
