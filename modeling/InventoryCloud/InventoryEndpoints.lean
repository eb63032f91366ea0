import InventoryCloud.ServiceOutcomes

/-!
# The endpoints of the inventory

The controller methods on requests that passed the bean validation.  The
customer is the name of the authentication.  A response is what the controller
or the exception handler makes of the outcome of the service call; the request
id and the request path of a problem detail do not depend on the tables.
-/

namespace InventoryCloud

structure ProductResponse where
  id : UUID
  sku : JavaString
  name : JavaString
  availableQuantity : Int32
  createdAt : Instant
  deriving DecidableEq, Repr

def ProductResponse.ofProduct (product : Product) : ProductResponse where
  id := product.id
  sku := product.sku
  name := product.name
  availableQuantity := product.availableQuantity
  createdAt := product.createdAt

structure ReservationResponse where
  id : UUID
  productId : UUID
  quantity : Int32
  customerId : JavaString
  status : ReservationStatus
  createdAt : Instant
  cancelledAt : Option Instant
  deriving DecidableEq, Repr

def ReservationResponse.ofReservation (reservation : Reservation) :
    ReservationResponse where
  id := reservation.id
  productId := reservation.productId
  quantity := reservation.quantity
  customerId := reservation.customerId
  status := reservation.status
  createdAt := reservation.createdAt
  cancelledAt := reservation.cancelledAt

structure PageResponse (α : Type) where
  items : List α
  page : ℕ
  size : ℕ
  totalElements : ℕ
  totalPages : ℕ
  deriving DecidableEq, Repr

def PageResponse.ofPage {α β : Type} (convert : α → β) (page : Page α) :
    PageResponse β where
  items := page.content.map convert
  page := page.number
  size := page.size
  totalElements := page.totalElements
  totalPages := page.totalPages

inductive ResponseBody where
  | product (response : ProductResponse)
  | products (response : PageResponse ProductResponse)
  | reservation (response : ReservationResponse)
  | reservations (response : PageResponse ReservationResponse)
  | problem (detail : String)
  deriving DecidableEq, Repr

/-- `/api/v1/products/{id}` or `/api/v1/reservations/{id}` -/
inductive Location where
  | product (id : UUID)
  | reservation (id : UUID)
  deriving DecidableEq, Repr

structure HttpResponse where
  status : ℕ
  location : Option Location
  /-- `Idempotency-Replayed` -/
  replayed : Option Bool
  body : ResponseBody
  deriving DecidableEq, Repr

namespace ApiExceptionHandler

def problem (status : ℕ) (detail : String) : HttpResponse where
  status := status
  location := none
  replayed := none
  body := .problem detail

def handle : JavaException → HttpResponse
  | .domain .notFound message => problem 404 message
  | .domain .conflict message => problem 409 message
  | .illegalArgument message => problem 400 message
  | .dataIntegrityViolation => problem 409
      "Operation conflicts with an existing record or inventory constraint"
  | .entityNotFound => problem 500
      "An unexpected error occurred. Use the request ID when reporting it."

end ApiExceptionHandler

namespace InventoryController

def paginationRefused : JavaException :=
  .illegalArgument ("page must be nonnegative and size must be between 1 and " ++
    "100; offset must fit a 32-bit integer")

/-- The product is taken in 64 bits, where it cannot overflow. -/
def pagination (page size : Int32) : Except JavaException PageRequest :=
  if hguard : page.toInt < 0 ∨ size.toInt < 1 ∨ 100 < size.toInt ∨
      2147483647 < page.toInt * size.toInt then
    .error paginationRefused
  else
    .ok {
      page := page.toInt.toNat
      size := size.toInt.toNat
      size_pos := by omega
      size_le := by omega
      offset_fits := by
        rw [not_or, not_or, not_or] at hguard
        obtain ⟨hpage, hsize, -, hoffset⟩ := hguard
        zify
        rw [Int.toNat_of_nonneg (by omega), Int.toNat_of_nonneg (by omega)]
        omega }

/-- A request with what the call draws from the runtime. -/
inductive Request where
  | createProduct (fresh : Fresh) (sku name : Option JavaString)
      (initialQuantity : Int32)
  | listProducts (page size : Int32)
  | getProduct (id : UUID)
  | addStock (id : UUID) (quantity : Int32)
  | reserve (fresh : Fresh) (productId : UUID) (quantity : Int32)
      (idempotencyKey : Option JavaString)
  | listReservations (page size : Int32)
  | getReservation (id : UUID)
  | cancel (now : Instant) (id : UUID)

/-- The service call of a request by the authenticated customer. -/
def Request.call (customer : JavaString) :
    Request → Except JavaException Call
  | .createProduct fresh sku name initialQuantity =>
      .ok (.createProduct fresh sku name initialQuantity)
  | .listProducts page size => (pagination page size).map .listProducts
  | .getProduct id => .ok (.getProduct id)
  | .addStock id quantity => .ok (.addStock id quantity)
  | .reserve fresh productId quantity idempotencyKey =>
      .ok (.reserve fresh productId quantity (some customer) idempotencyKey)
  | .listReservations page size =>
      (pagination page size).map (.listReservations (some customer))
  | .getReservation id => .ok (.getReservation id (some customer))
  | .cancel now id => .ok (.cancelReservation now id (some customer))

def ok (body : ResponseBody) : HttpResponse where
  status := 200
  location := none
  replayed := none
  body := body

/-- What the controller method makes of the returned value. -/
def respond (request : Request) : Returned → HttpResponse
  | .product product =>
      match request with
      | .createProduct _ _ _ _ =>
          { status := 201
            location := some (.product product.id)
            replayed := none
            body := .product (.ofProduct product) }
      | _ => ok (.product (.ofProduct product))
  | .products page => ok (.products (.ofPage .ofProduct page))
  | .reservationResult reservation replayed =>
      { status := if replayed then 200 else 201
        location := some (.reservation reservation.id)
        replayed := some replayed
        body := .reservation (.ofReservation reservation) }
  | .reservation reservation =>
      ok (.reservation (.ofReservation reservation))
  | .reservations page => ok (.reservations (.ofPage .ofReservation page))

def response (request : Request) : Result → HttpResponse
  | (.ok returned, _) => respond request returned
  | (.error exception, _) => ApiExceptionHandler.handle exception

/-- The response to a request that runs alone, and the tables it leaves. -/
def handle (customer : JavaString) (request : Request) (db : Database) :
    HttpResponse × Database :=
  match request.call customer with
  | .ok call => (response request (call.resultOn db), call.after db)
  | .error exception => (ApiExceptionHandler.handle exception, db)

end InventoryController

end InventoryCloud
