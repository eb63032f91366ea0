import InventoryCloud.DatabaseWrites
import InventoryCloud.InteractionProgram
import InventoryCloud.InventoryMetrics

/-!
# The inventory service

The methods of the service as programs over SQL statements.  The session
carries what the persistence context and the transaction synchronization hold
for one call: rows already inserted, entities to be written at the flush, and
registered counter increments.

A locking query finds the latest committed row.  The flush is placed at the
end of the call, where the transaction commits; new rows go before changed
ones.  Entity ids are fresh, so `save` always inserts.
-/

namespace InventoryCloud

open Interaction

inductive Statement where
  /-- `SELECT pg_advisory_xact_lock(?)` on the lock id of customer and key. -/
  | acquire (customerId key : JavaString)
  | existsBySku (sku : JavaString)
  | findProductById (id : UUID)
  | findProductByIdForUpdate (id : UUID)
  | findAllProducts (request : PageRequest)
  | findByIdAndCustomerId (id : UUID) (customerId : JavaString)
  | findByCustomerIdAndIdempotencyKey (customerId key : JavaString)
  | findOwnedForUpdate (id : UUID) (customerId : JavaString)
  | findAllByCustomerId (customerId : JavaString) (request : PageRequest)
  /-- `INSERT` or `UPDATE`; the answer says whether it was accepted. -/
  | execute (write : Write)
  /-- The foreign-key check of an inserted reservation. -/
  | referenceProduct (id : UUID)

abbrev Statement.Answer : Statement → Type
  | .acquire _ _ => Unit
  | .existsBySku _ => Bool
  | .findProductById _ => Option Product
  | .findProductByIdForUpdate _ => Option Product
  | .findAllProducts _ => Page Product
  | .findByIdAndCustomerId _ _ => Option Reservation
  | .findByCustomerIdAndIdempotencyKey _ _ => Option Reservation
  | .findOwnedForUpdate _ _ => Option Reservation
  | .findAllByCustomerId _ _ => Page Reservation
  | .execute _ => Bool
  | .referenceProduct _ => Bool

/-- The answer on a view of the database on which no one else works. -/
def Statement.answer (view : Database) :
    (statement : Statement) → statement.Answer
  | .acquire _ _ => ()
  | .existsBySku sku => view.existsBySku sku
  | .findProductById id => view.findProduct id
  | .findProductByIdForUpdate id => view.findProduct id
  | .findAllProducts request => view.findAll request
  | .findByIdAndCustomerId id customerId =>
      view.findByIdAndCustomerId id customerId
  | .findByCustomerIdAndIdempotencyKey customerId key =>
      view.findByCustomerIdAndIdempotencyKey customerId key
  | .findOwnedForUpdate id customerId =>
      view.findByIdAndCustomerId id customerId
  | .findAllByCustomerId customerId request =>
      view.findAllByCustomerId customerId request
  | .execute write => view.accepts write
  | .referenceProduct id => (view.findProduct id).isSome

structure Session where
  flushed : List Write
  dirty : List Write
  increments : List Increment
  deriving DecidableEq, Repr

namespace Session

def empty : Session where
  flushed := []
  dirty := []
  increments := []

def isInsert : Write → Bool
  | .insertProduct _ => true
  | .insertReservation _ => true
  | _ => false

/-- The order in which a flush writes: new rows first. -/
def flushPlan (session : Session) : List Write :=
  session.dirty.filter isInsert ++ session.dirty.filter (!isInsert ·)

/-- Everything the call has written once it is flushed. -/
def writes (session : Session) : List Write :=
  session.flushed ++ session.flushPlan

end Session

abbrev Service (α : Type) :=
  ExceptT JavaException (StateT Session (Program Statement Statement.Answer)) α

namespace Service

/-- The program of a service computation started on a session. -/
def start {α : Type} (computation : Service α) (session : Session) :
    Program Statement Statement.Answer (Except JavaException α × Session) :=
  computation.run.run session

def query (statement : Statement) : Service statement.Answer :=
  ExceptT.mk fun session =>
    .ask statement fun answer => .pure (.ok answer, session)

def orElseThrow {α : Type} (found : Option α) (exception : JavaException) :
    Service α :=
  match found with
  | some value => pure value
  | none => throw exception

/-- Call a method of managed entities; the result carries their new state. -/
def mutate {σ α : Type} (method : DomainMethod σ α) (object : σ) :
    Service (α × σ) :=
  match method.call object with
  | (.ok value, changed) => pure (value, changed)
  | (.error exception, _) => throw exception

/-- Entities the next flush writes. -/
def markDirty (writes : List Write) : Service Unit :=
  modify fun session => { session with dirty := session.dirty ++ writes }

/-- `metrics.…`: register an increment for after the commit. -/
def register (increment : Increment) : Service Unit :=
  modify fun session =>
    { session with increments := session.increments ++ [increment] }

def saveAndFlush (product : Product) : Service Unit := do
  let accepted ← query (.execute (.insertProduct product))
  unless accepted do
    throw .dataIntegrityViolation
  modify fun session =>
    { session with flushed := session.flushed ++ [.insertProduct product] }

/-- One statement of a flush, with the check that follows an insertion. -/
def flushWrite (write : Write) : Service Unit := do
  let accepted ← query (.execute write)
  unless accepted do
    throw .dataIntegrityViolation
  match write with
  | .insertReservation reservation =>
      let referenced ← query (.referenceProduct reservation.productId)
      unless referenced do
        throw .dataIntegrityViolation
  | _ => pure ()

def flush : Service Unit := do
  (← get).flushPlan.forM flushWrite

end Service

namespace InventoryService

open Service

def productNotFound : JavaException :=
  .domain .notFound "Product not found"

def reservationNotFound : JavaException :=
  .domain .notFound "Reservation not found"

def duplicateSku : JavaException :=
  .domain .conflict "A product with this SKU already exists"

def keyAlreadyUsed : JavaException :=
  .domain .conflict
    "Idempotency-Key was already used with a different product or quantity"

def createProduct (fresh : Fresh) (sku name : Option JavaString)
    (initialQuantity : Int32) : Service Product := do
  let product ← MonadExcept.ofExcept (Product.new fresh sku name initialQuantity)
  if ← query (.existsBySku product.sku) then
    throw duplicateSku
  tryCatch
    (do
      -- Flushing here catches a competing insertion of the same SKU.
      saveAndFlush product
      register (.productCreated initialQuantity)
      pure product)
    fun
      | .dataIntegrityViolation => throw duplicateSku
      | exception => throw exception

def listProducts (request : PageRequest) : Service (Page Product) :=
  query (.findAllProducts request)

def getProduct (id : UUID) : Service Product := do
  orElseThrow (← query (.findProductById id)) productNotFound

def addStock (id : UUID) (quantity : Int32) : Service Product := do
  MonadExcept.ofExcept (Product.validatePositiveQuantity quantity)
  let product ←
    orElseThrow (← query (.findProductByIdForUpdate id)) productNotFound
  let (_, product) ← mutate (Product.addStock quantity) product
  markDirty [.updateProduct product]
  register (.stockAdded quantity)
  return product

/-- The part of `reserve` that makes a new reservation. -/
def reserveNew (fresh : Fresh) (productId : UUID) (quantity : Int32)
    (customerId idempotencyKey : Option JavaString) :
    Service (Reservation × Bool) := do
  let product ←
    orElseThrow (← query (.findProductByIdForUpdate productId)) productNotFound
  let (reservation, product) ←
    mutate (Reservation.new fresh quantity customerId idempotencyKey) product
  markDirty [.updateProduct product, .insertReservation reservation]
  register (.reservationCreated quantity)
  return (reservation, false)

/-- The second component of the result is `replayed`. -/
def reserve (fresh : Fresh) (productId : UUID) (quantity : Int32)
    (customerId idempotencyKey : Option JavaString) :
    Service (Reservation × Bool) := do
  MonadExcept.ofExcept (Product.validatePositiveQuantity quantity)
  let customer ← MonadExcept.ofExcept (Reservation.validateCustomerId customerId)
  MonadExcept.ofExcept (Reservation.validateIdempotencyKey idempotencyKey)
  match idempotencyKey with
  | some key =>
      query (.acquire customer key)
      match ← query (.findByCustomerIdAndIdempotencyKey customer key) with
      | some reservation =>
          if reservation.productId ≠ productId ∨
              reservation.quantity ≠ quantity then
            throw keyAlreadyUsed
          else
            register .reservationReplayed
            return (reservation, true)
      | none => reserveNew fresh productId quantity customerId idempotencyKey
  | none => reserveNew fresh productId quantity customerId idempotencyKey

def listReservations (customerId : Option JavaString) (request : PageRequest) :
    Service (Page Reservation) := do
  let customer ← MonadExcept.ofExcept (Reservation.validateCustomerId customerId)
  query (.findAllByCustomerId customer request)

def getReservation (id : UUID) (customerId : Option JavaString) :
    Service Reservation := do
  let customer ← MonadExcept.ofExcept (Reservation.validateCustomerId customerId)
  orElseThrow (← query (.findByIdAndCustomerId id customer)) reservationNotFound

def cancelReservation (now : Instant) (id : UUID)
    (customerId : Option JavaString) : Service Reservation := do
  let customer ← MonadExcept.ofExcept (Reservation.validateCustomerId customerId)
  let reservation ←
    orElseThrow (← query (.findOwnedForUpdate id customer)) reservationNotFound
  if reservation.status = .active then
    let product ←
      orElseThrow (← query (.findProductByIdForUpdate reservation.productId))
        productNotFound
    let (_, (reservation, product)) ←
      mutate (Reservation.cancel now) (reservation, product)
    markDirty [.updateProduct product, .updateReservation reservation]
    register (.reservationCancelled reservation.quantity)
    -- The product is loaded already, so `getProduct().getSku()` reads nothing.
    return reservation
  else
    register .cancellationReplayed
    -- `getProduct().getSku()` loads the product of a replayed cancellation.
    let _ ← orElseThrow (← query (.findProductById reservation.productId))
      .entityNotFound
    return reservation

end InventoryService

/-! ## Calls -/

inductive Call where
  | createProduct (fresh : Fresh) (sku name : Option JavaString)
      (initialQuantity : Int32)
  | listProducts (request : PageRequest)
  | getProduct (id : UUID)
  | addStock (id : UUID) (quantity : Int32)
  | reserve (fresh : Fresh) (productId : UUID) (quantity : Int32)
      (customerId idempotencyKey : Option JavaString)
  | listReservations (customerId : Option JavaString) (request : PageRequest)
  | getReservation (id : UUID) (customerId : Option JavaString)
  | cancelReservation (now : Instant) (id : UUID)
      (customerId : Option JavaString)

/-- What a call returns to its caller. -/
inductive Returned where
  | product (product : Product)
  | products (page : Page Product)
  | reservationResult (reservation : Reservation) (replayed : Bool)
  | reservation (reservation : Reservation)
  | reservations (page : Page Reservation)
  deriving DecidableEq, Repr

def Call.method : Call → Service Returned
  | .createProduct fresh sku name initialQuantity =>
      .product <$> InventoryService.createProduct fresh sku name initialQuantity
  | .listProducts request => .products <$> InventoryService.listProducts request
  | .getProduct id => .product <$> InventoryService.getProduct id
  | .addStock id quantity => .product <$> InventoryService.addStock id quantity
  | .reserve fresh productId quantity customerId idempotencyKey =>
      (fun result => .reservationResult result.1 result.2) <$>
        InventoryService.reserve fresh productId quantity customerId
          idempotencyKey
  | .listReservations customerId request =>
      .reservations <$> InventoryService.listReservations customerId request
  | .getReservation id customerId =>
      .reservation <$> InventoryService.getReservation id customerId
  | .cancelReservation now id customerId =>
      .reservation <$> InventoryService.cancelReservation now id customerId

abbrev Result := Except JavaException Returned × Session

/-- The body of a call with the flush of what it changed. -/
def Call.body (call : Call) : Service Returned := do
  let returned ← call.method
  Service.flush
  return returned

def Call.program (call : Call) : Program Statement Statement.Answer Result :=
  call.body.start Session.empty

end InventoryCloud
