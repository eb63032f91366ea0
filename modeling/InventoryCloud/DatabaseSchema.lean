import InventoryCloud.DomainEntities
import Mathlib.Data.List.Nodup

/-!
# The inventory tables

The two tables with their constraints, the queries the repositories issue and
the statements a flush writes.  An update carries the absolute values of the
updatable columns, as the entity held them.  A database is well formed when
every constraint of the schema holds of it.
-/

namespace InventoryCloud

structure Database where
  products : List Product
  reservations : List Reservation
  deriving DecidableEq, Repr

/-! ## Constraints -/

namespace Sql

def charLength (text : JavaString) : ℕ :=
  (JavaString.codePoints text).length

/-- `btrim` removes U+0020 only. -/
def btrim (text : JavaString) : JavaString :=
  (text.dropWhile (· == 0x20)).rdropWhile (· == 0x20)

/-- A text value of at most `bound` characters; U+0000 is not storable. -/
def varchar (bound : ℕ) (text : JavaString) : Bool :=
  charLength text ≤ bound && !text.contains 0

/-- `'^[A-Z0-9][A-Z0-9._-]{0,63}$'` -/
def skuFormat : JavaString → Bool :=
  JavaString.matchesHeadTail
    (fun unit => JavaString.isAsciiUpper unit || JavaString.isAsciiDigit unit)
    (fun unit => JavaString.isAsciiUpper unit || JavaString.isAsciiDigit unit ||
      JavaString.isDotUnderscoreHyphen unit)
    63

/-- `'^[A-Za-z0-9][A-Za-z0-9._:-]{0,127}$'` -/
def idempotencyKeyFormat : JavaString → Bool :=
  JavaString.matchesHeadTail
    (fun unit => JavaString.isAsciiUpper unit || JavaString.isAsciiLower unit ||
      JavaString.isAsciiDigit unit)
    (fun unit => JavaString.isAsciiUpper unit || JavaString.isAsciiLower unit ||
      JavaString.isAsciiDigit unit || JavaString.isDotUnderscoreHyphen unit ||
      unit == 0x3A)
    127

end Sql

/-- The CHECK constraints and column types of `products`. -/
def Product.storable (product : Product) : Bool :=
  Sql.varchar 64 product.sku && Sql.varchar 160 product.name &&
    Sql.skuFormat product.sku && 0 < Sql.charLength (Sql.btrim product.name) &&
    (0 ≤ product.availableQuantity.toInt &&
      product.availableQuantity.toInt ≤ 1000000)

/-- `reservations_cancellation_consistent` -/
def Reservation.cancellationConsistent (reservation : Reservation) : Bool :=
  match reservation.status, reservation.cancelledAt with
  | .active, none => true
  | .cancelled, some cancelledAt =>
      reservation.createdAt.epochNanos ≤ cancelledAt.epochNanos
  | _, _ => false

/-- The CHECK constraints and column types of `reservations`. -/
def Reservation.storable (reservation : Reservation) : Bool :=
  Sql.varchar 200 reservation.customerId &&
    (1 ≤ reservation.quantity.toInt && reservation.quantity.toInt ≤ 1000000) &&
    0 < Sql.charLength (Sql.btrim reservation.customerId) &&
    reservation.cancellationConsistent &&
    reservation.idempotencyKey.all fun key =>
      Sql.varchar 128 key && Sql.idempotencyKeyFormat key

/-- `UPDATE products SET available_quantity = ?, name = ?` -/
def Product.updatedBy (row entity : Product) : Product :=
  { row with
    name := entity.name
    availableQuantity := entity.availableQuantity }

/-- `UPDATE reservations SET cancelled_at = ?, status = ?` -/
def Reservation.updatedBy (row entity : Reservation) : Reservation :=
  { row with
    status := entity.status
    cancelledAt := entity.cancelledAt }

/-! ## Queries -/

/-- `ORDER BY created_at DESC, id` -/
def newestFirst {α : Type} (createdAt : α → Instant) (id : α → UUID)
    (first second : α) : Bool :=
  (createdAt second).epochNanos < (createdAt first).epochNanos ||
    ((createdAt first).epochNanos == (createdAt second).epochNanos &&
      id first ≤ id second)

/-- A page request the pagination guard lets through. -/
structure PageRequest where
  page : ℕ
  size : ℕ
  size_pos : 1 ≤ size
  size_le : size ≤ 100
  offset_fits : page * size ≤ 2147483647

structure Page (α : Type) where
  content : List α
  number : ℕ
  size : ℕ
  totalElements : ℕ
  deriving DecidableEq, Repr

def Page.totalPages {α : Type} (page : Page α) : ℕ :=
  (page.totalElements + page.size - 1) / page.size

/-- One page of the sorted rows with the total, read in one snapshot. -/
def Page.of {α : Type} (rows : List α) (createdAt : α → Instant)
    (id : α → UUID) (request : PageRequest) : Page α where
  content := ((rows.mergeSort (newestFirst createdAt id)).drop
    (request.page * request.size)).take request.size
  number := request.page
  size := request.size
  totalElements := rows.length

namespace Database

def empty : Database where
  products := []
  reservations := []

def findProduct (db : Database) (id : UUID) : Option Product :=
  db.products.find? (·.id = id)

def existsBySku (db : Database) (sku : JavaString) : Bool :=
  db.products.any (·.sku = sku)

def findReservation (db : Database) (id : UUID) : Option Reservation :=
  db.reservations.find? (·.id = id)

def findByIdAndCustomerId (db : Database) (id : UUID)
    (customerId : JavaString) : Option Reservation :=
  db.reservations.find? fun row => row.id = id ∧ row.customerId = customerId

def findByCustomerIdAndIdempotencyKey (db : Database)
    (customerId key : JavaString) : Option Reservation :=
  db.reservations.find? fun row =>
    row.customerId = customerId ∧ row.idempotencyKey = some key

def findAll (db : Database) (request : PageRequest) : Page Product :=
  Page.of db.products (·.createdAt) (·.id) request

def findAllByCustomerId (db : Database) (customerId : JavaString)
    (request : PageRequest) : Page Reservation :=
  Page.of (db.reservations.filter (·.customerId = customerId))
    (·.createdAt) (·.id) request

end Database

/-! ## Written rows -/

inductive Write where
  | insertProduct (product : Product)
  | insertReservation (reservation : Reservation)
  | updateProduct (product : Product)
  | updateReservation (reservation : Reservation)
  deriving DecidableEq, Repr

namespace Database

/-- The new version of a product row under an update. -/
def productVersion (entity row : Product) : Product :=
  if row.id = entity.id then row.updatedBy entity else row

/-- The new version of a reservation row under an update. -/
def reservationVersion (entity row : Reservation) : Reservation :=
  if row.id = entity.id then row.updatedBy entity else row

def apply (db : Database) : Write → Database
  | .insertProduct product =>
      { db with products := db.products ++ [product] }
  | .insertReservation reservation =>
      { db with reservations := db.reservations ++ [reservation] }
  | .updateProduct product =>
      { db with products := db.products.map (productVersion product) }
  | .updateReservation reservation =>
      { db with
        reservations := db.reservations.map (reservationVersion reservation) }

def applyAll (db : Database) (writes : List Write) : Database :=
  writes.foldl apply db

/-- What PostgreSQL checks of a statement beside the foreign key.  An update
is checked on the new version of its row and has to find one. -/
def accepts (db : Database) : Write → Bool
  | .insertProduct product =>
      product.storable && (db.findProduct product.id).isNone &&
        !db.existsBySku product.sku
  | .insertReservation reservation =>
      reservation.storable && (db.findReservation reservation.id).isNone &&
        reservation.idempotencyKey.all fun key =>
          (db.findByCustomerIdAndIdempotencyKey reservation.customerId
            key).isNone
  | .updateProduct product =>
      (db.findProduct product.id).any fun row => (row.updatedBy product).storable
  | .updateReservation reservation =>
      (db.findReservation reservation.id).any fun row =>
        (row.updatedBy reservation).storable

/-- Every constraint of the schema holds. -/
structure WellFormed (db : Database) : Prop where
  productIds : (db.products.map (·.id)).Nodup
  skus : (db.products.map (·.sku)).Nodup
  reservationIds : (db.reservations.map (·.id)).Nodup
  keys : db.reservations.Pairwise fun first second =>
    first.customerId = second.customerId →
      first.idempotencyKey = second.idempotencyKey →
        first.idempotencyKey = none
  foreignKey : ∀ row ∈ db.reservations,
    ∃ product ∈ db.products, product.id = row.productId
  productRows : ∀ row ∈ db.products, row.storable = true
  reservationRows : ∀ row ∈ db.reservations, row.storable = true

theorem wellFormed_empty : WellFormed empty := by
  constructor <;> simp [empty]

end Database

end InventoryCloud
