import InventoryCloud.ServiceOutcomes

/-!
# Evolution of the tables

Rows are never removed.  A product keeps everything but its stock, and a
reservation either stays as it is or moves once from active to cancelled.
`Legal` is what the service's own statements have in common beyond being
accepted, and legal statements only let the tables evolve.
-/

namespace InventoryCloud

open InventoryService

/-- The reservation is unchanged or has been cancelled. -/
def Reservation.MovesTo (reservation later : Reservation) : Prop :=
  later = reservation ∨
    reservation.status = .active ∧ ∃ cancelledAt, later =
      { reservation with status := .cancelled, cancelledAt := some cancelledAt }

/-- The product is unchanged except for its stock. -/
def Product.RestocksTo (product later : Product) : Prop :=
  later = { product with availableQuantity := later.availableQuantity }

theorem Reservation.MovesTo.refl (reservation : Reservation) :
    reservation.MovesTo reservation :=
  Or.inl rfl

theorem Reservation.MovesTo.trans {first second third : Reservation}
    (hfirst : first.MovesTo second) (hsecond : second.MovesTo third) :
    first.MovesTo third := by
  rcases hfirst with rfl | ⟨hactive, cancelledAt, rfl⟩
  · exact hsecond
  · rcases hsecond with rfl | ⟨hstatus, -⟩
    · exact Or.inr ⟨hactive, cancelledAt, rfl⟩
    · cases hstatus

theorem Reservation.MovesTo.id_eq {reservation later : Reservation}
    (hmoves : reservation.MovesTo later) : later.id = reservation.id := by
  rcases hmoves with rfl | ⟨-, cancelledAt, rfl⟩ <;> rfl

theorem Reservation.cancelledBy_movesTo {reservation : Reservation}
    (hactive : reservation.status = .active) (now : Instant) :
    reservation.MovesTo (reservation.cancelledBy now) :=
  Or.inr ⟨hactive, _, rfl⟩

theorem Product.RestocksTo.refl (product : Product) :
    product.RestocksTo product := rfl

theorem Product.RestocksTo.trans {first second third : Product}
    (hfirst : first.RestocksTo second) (hsecond : second.RestocksTo third) :
    first.RestocksTo third := by
  unfold RestocksTo at hfirst hsecond ⊢
  rw [hsecond, hfirst]

namespace Database

structure Evolves (before after : Database) : Prop where
  product : ∀ {id product}, before.findProduct id = some product →
    ∃ later, after.findProduct id = some later ∧ product.RestocksTo later
  reservation : ∀ {id reservation},
    before.findReservation id = some reservation →
      ∃ later, after.findReservation id = some later ∧
        reservation.MovesTo later

theorem Evolves.refl (db : Database) : db.Evolves db where
  product hfind := ⟨_, hfind, .refl _⟩
  reservation hfind := ⟨_, hfind, .refl _⟩

theorem Evolves.trans {first second third : Database}
    (hfirst : first.Evolves second) (hsecond : second.Evolves third) :
    first.Evolves third where
  product hfind := by
    obtain ⟨middle, hmiddle, hstock⟩ := hfirst.product hfind
    obtain ⟨later, hlater, hstock'⟩ := hsecond.product hmiddle
    exact ⟨later, hlater, hstock.trans hstock'⟩
  reservation hfind := by
    obtain ⟨middle, hmiddle, hmoves⟩ := hfirst.reservation hfind
    obtain ⟨later, hlater, hmoves'⟩ := hsecond.reservation hmiddle
    exact ⟨later, hlater, hmoves.trans hmoves'⟩

/-- The statements the service sends, on the views it sends them on. -/
def Legal (view : Database) : Write → Prop
  | .updateProduct entity => view.admits (.updateProduct entity) = true ∧
      ∃ row, view.findProduct entity.id = some row ∧ row.RestocksTo entity
  | .updateReservation entity =>
      view.admits (.updateReservation entity) = true ∧
        ∃ row, view.findReservation entity.id = some row ∧ row.MovesTo entity
  | write => view.admits write = true

def LegalAll : Database → List Write → Prop
  | _, [] => True
  | view, write :: writes => view.Legal write ∧ (view.apply write).LegalAll writes

theorem Legal.admits {view : Database} {write : Write}
    (hlegal : view.Legal write) : view.admits write = true := by
  cases write with
  | insertProduct product => exact hlegal
  | insertReservation reservation => exact hlegal
  | updateProduct entity => exact hlegal.1
  | updateReservation entity => exact hlegal.1

theorem accepts_of_admits {view : Database} {write : Write}
    (hadmits : view.admits write = true) : view.accepts write = true := by
  simp only [Database.admits, Bool.and_eq_true] at hadmits
  exact hadmits.1

theorem referenced_of_admits {view : Database} {reservation : Reservation}
    (hadmits : view.admits (.insertReservation reservation) = true) :
    (view.findProduct reservation.productId).isSome = true := by
  simp only [Database.admits, Bool.and_eq_true] at hadmits
  exact hadmits.2

theorem WellFormed.apply {view : Database} {write : Write}
    (hwell : view.WellFormed) (hadmits : view.admits write = true) :
    (view.apply write).WellFormed := by
  have haccept := accepts_of_admits hadmits
  cases write with
  | insertProduct product => exact hwell.insertProduct haccept
  | insertReservation reservation =>
      exact hwell.insertReservation haccept (referenced_of_admits hadmits)
  | updateProduct entity => exact hwell.updateProduct haccept
  | updateReservation entity => exact hwell.updateReservation haccept

private theorem restocksTo_productVersion {row entity product : Product}
    (hrow : row.RestocksTo entity) (hsame : entity.id = product.id →
      row = product) : product.RestocksTo (productVersion entity product) := by
  unfold productVersion
  split
  next heq =>
    rw [hsame heq.symm] at hrow
    unfold Product.RestocksTo at hrow ⊢
    rw [Product.updatedBy, hrow]
  next => exact .refl _

private theorem movesTo_reservationVersion
    {row entity reservation : Reservation} (hrow : row.MovesTo entity)
    (hsame : entity.id = reservation.id → row = reservation) :
    reservation.MovesTo (reservationVersion entity reservation) := by
  unfold reservationVersion
  split
  next heq =>
    rw [hsame heq.symm] at hrow
    rcases hrow with rfl | ⟨hactive, cancelledAt, rfl⟩
    · exact .refl _
    · exact Or.inr ⟨hactive, cancelledAt, rfl⟩
  next => exact .refl _

theorem Evolves.apply {view : Database} {write : Write}
    (hlegal : view.Legal write) : view.Evolves (view.apply write) := by
  cases write with
  | insertProduct product =>
      constructor
      · intro id row hfind
        exact ⟨row, by rw [findProduct_insertProduct, hfind]; rfl, .refl _⟩
      · intro id row hfind
        exact ⟨row, hfind, .refl _⟩
  | insertReservation reservation =>
      constructor
      · intro id row hfind
        exact ⟨row, hfind, .refl _⟩
      · intro id row hfind
        exact ⟨row, by rw [findReservation_insertReservation, hfind]; rfl,
          .refl _⟩
  | updateProduct entity =>
      obtain ⟨-, changed, hchanged, hstock⟩ := hlegal
      constructor
      · intro id row hfind
        refine ⟨productVersion entity row, ?_,
          restocksTo_productVersion hstock fun heq => ?_⟩
        · rw [findProduct_updateProduct, hfind]
          rfl
        · rw [heq, findProduct_id hfind, hfind] at hchanged
          exact (Option.some.inj hchanged).symm
      · intro id row hfind
        exact ⟨row, hfind, .refl _⟩
  | updateReservation entity =>
      obtain ⟨-, changed, hchanged, hmoves⟩ := hlegal
      constructor
      · intro id row hfind
        exact ⟨row, hfind, .refl _⟩
      · intro id row hfind
        refine ⟨reservationVersion entity row, ?_,
          movesTo_reservationVersion hmoves fun heq => ?_⟩
        · rw [findReservation_updateReservation, hfind]
          rfl
        · rw [heq, findReservation_id hfind, hfind] at hchanged
          exact (Option.some.inj hchanged).symm

theorem findProduct_versions {view : Database}
    {product entity : Product}
    (hfind : view.findProduct entity.id = some product)
    (hrestocks : product.RestocksTo entity) (id : UUID) :
    (view.findProduct id).map (productVersion entity) =
      if id = entity.id then some entity else view.findProduct id := by
  by_cases hid : id = entity.id
  · subst hid
    have hsame : productVersion entity product = entity := by
      rw [productVersion, if_pos (findProduct_id hfind), hrestocks]
      rfl
    rw [hfind, if_pos rfl, Option.map_some, hsame]
  · rw [if_neg hid]
    cases hother : view.findProduct id with
    | none => rfl
    | some row =>
        have hne : row.id ≠ entity.id := by
          rwa [findProduct_id hother]
        rw [Option.map_some, productVersion, if_neg hne]

theorem findReservation_versions {view : Database}
    {reservation entity : Reservation}
    (hfind : view.findReservation entity.id = some reservation)
    (hmoves : reservation.MovesTo entity) (id : UUID) :
    (view.findReservation id).map (reservationVersion entity) =
      if id = entity.id then some entity else view.findReservation id := by
  by_cases hid : id = entity.id
  · subst hid
    have hsame : reservationVersion entity reservation = entity := by
      rw [reservationVersion, if_pos (findReservation_id hfind)]
      rcases hmoves with rfl | ⟨-, cancelledAt, rfl⟩ <;> rfl
    rw [hfind, if_pos rfl, Option.map_some, hsame]
  · rw [if_neg hid]
    cases hother : view.findReservation id with
    | none => rfl
    | some row =>
        have hne : row.id ≠ entity.id := by
          rwa [findReservation_id hother]
        rw [Option.map_some, reservationVersion, if_neg hne]

theorem LegalAll.wellFormed {view : Database} {writes : List Write}
    (hwell : view.WellFormed) (hlegal : view.LegalAll writes) :
    (view.applyAll writes).WellFormed := by
  induction writes generalizing view with
  | nil => exact hwell
  | cons write writes ih =>
      exact ih (hwell.apply hlegal.1.admits) hlegal.2

theorem LegalAll.evolves {view : Database} {writes : List Write}
    (hlegal : view.LegalAll writes) : view.Evolves (view.applyAll writes) := by
  induction writes generalizing view with
  | nil => exact .refl view
  | cons write writes ih => exact (Evolves.apply hlegal.1).trans (ih hlegal.2)

end Database

/-! ## The statements of a call -/

@[simp] theorem Product.restocked_id (product : Product) (quantity : Int32) :
    (product.restocked quantity).id = product.id := rfl

@[simp] theorem Product.deducted_id (product : Product) (quantity : Int32) :
    (product.deducted quantity).id = product.id := rfl

@[simp] theorem Reservation.cancelledBy_id (reservation : Reservation)
    (now : Instant) : (reservation.cancelledBy now).id = reservation.id := rfl

open Database in
/-- A call that runs alone sends legal statements only. -/
theorem Performs.legalAll {view : Database} {call : Call}
    {returned : Returned} {session : Session} (hwell : view.WellFormed)
    (hperforms : Performs view call returned session) :
    view.LegalAll session.writes := by
  cases hperforms with
  | created hnew haccept =>
      exact ⟨by simpa [Legal, Database.admits] using haccept, trivial⟩
  | restocked hquantity hfind hfits hadmits =>
      refine ⟨⟨hadmits, _, ?_, rfl⟩, trivial⟩
      rwa [Product.restocked_id, findProduct_id hfind]
  | @reserved _ _ _ _ _ _ product hquantity hcustomer hkey hfind hstock
      hinsert hupdate =>
      refine ⟨hinsert, ⟨?_, product, ?_, rfl⟩, trivial⟩
      · simpa [Database.admits, accepts] using hupdate
      · rwa [findProduct_insertReservation, Product.deducted_id,
          findProduct_id hfind]
  | cancelled hcustomer hfind hactive hproduct hquantity hfits hproductUpdate
      hupdate =>
      obtain ⟨hmem, hid, -⟩ := findByIdAndCustomerId_some hfind
      refine ⟨⟨hproductUpdate, _, ?_, rfl⟩, ⟨?_, _, ?_,
        Reservation.cancelledBy_movesTo hactive _⟩, trivial⟩
      · rwa [Product.restocked_id, findProduct_id hproduct]
      · simpa [Database.admits, accepts] using hupdate
      · rw [findReservation_updateProduct, Reservation.cancelledBy_id]
        exact hwell.findReservation_of_mem hmem
  | _ => trivial

end InventoryCloud
