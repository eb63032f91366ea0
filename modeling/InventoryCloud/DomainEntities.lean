import InventoryCloud.JavaText

/-!
# Products and reservations

The domain objects with their constructors and methods.  A method runs on the
object it belongs to and may throw after having changed it, so `DomainMethod`
returns the object in both cases.  Quantities are 32-bit and wrap around.
-/

namespace InventoryCloud

abbrev UUID := BitVec 128

/-- A point of the time line, in nanoseconds since the epoch. -/
structure Instant where
  epochNanos : ℤ
  deriving DecidableEq, Repr

def Instant.truncatedToMicros (instant : Instant) : Instant :=
  ⟨instant.epochNanos / 1000 * 1000⟩

/-- What a constructor draws from the runtime: `UUID.randomUUID()` and
`Instant.now()`. -/
structure Fresh where
  id : UUID
  now : Instant
  deriving DecidableEq, Repr

inductive DomainException.Kind where
  | notFound
  | conflict
  deriving DecidableEq, Repr

inductive JavaException where
  | illegalArgument (message : String)
  | domain (kind : DomainException.Kind) (message : String)
  | dataIntegrityViolation
  | entityNotFound
  deriving DecidableEq, Repr

abbrev DomainMethod (σ α : Type) := ExceptT JavaException (StateM σ) α

namespace DomainMethod

def call {σ α : Type} (method : DomainMethod σ α) (object : σ) :
    Except JavaException α × σ :=
  (method.run.run object : Id _)

/-- A method of a referenced object, called through the second component. -/
def onSecond {σ τ α : Type} (method : DomainMethod τ α) :
    DomainMethod (σ × τ) α :=
  ExceptT.mk fun objects =>
    let outcome := method.call objects.2
    (outcome.1, (objects.1, outcome.2))

section

variable {σ τ α β : Type}

@[simp] theorem call_pure (value : α) (object : σ) :
    (pure value : DomainMethod σ α).call object = (.ok value, object) := rfl

@[simp] theorem call_throw (exception : JavaException) (object : σ) :
    (throw exception : DomainMethod σ α).call object =
      (.error exception, object) := rfl

@[simp] theorem call_get (object : σ) :
    (get : DomainMethod σ σ).call object = (.ok object, object) := rfl

@[simp] theorem call_modify (change : σ → σ) (object : σ) :
    (modify change : DomainMethod σ PUnit).call object =
      (.ok (), change object) := rfl

@[simp] theorem call_ofExcept (result : Except JavaException α) (object : σ) :
    (MonadExcept.ofExcept result : DomainMethod σ α).call object =
      (result, object) := by
  cases result <;> rfl

@[simp] theorem call_onSecond (method : DomainMethod τ α) (objects : σ × τ) :
    (method.onSecond : DomainMethod (σ × τ) α).call objects =
      ((method.call objects.2).1, (objects.1, (method.call objects.2).2)) :=
  rfl

theorem call_bind (first : DomainMethod σ α) (next : α → DomainMethod σ β)
    (object : σ) :
    (first >>= next).call object =
      match first.call object with
      | (.ok value, changed) => (next value).call changed
      | (.error exception, changed) => (.error exception, changed) := by
  unfold call ExceptT.run StateT.run
  simp only [bind, ExceptT.bind, ExceptT.mk, StateT.bind, ExceptT.bindCont]
  cases first object with
  | mk result changed => cases result <;> rfl

end

end DomainMethod

def maxQuantity : Int32 := 1000000

/-! ## Products -/

structure Product where
  id : UUID
  sku : JavaString
  name : JavaString
  availableQuantity : Int32
  createdAt : Instant
  deriving DecidableEq, Repr

namespace Product

/-- `[A-Z0-9][A-Z0-9._-]{0,63}` -/
def skuPattern : JavaString → Bool :=
  JavaString.matchesHeadTail
    (fun unit => JavaString.isAsciiUpper unit || JavaString.isAsciiDigit unit)
    (fun unit => JavaString.isAsciiUpper unit || JavaString.isAsciiDigit unit ||
      JavaString.isDotUnderscoreHyphen unit)
    63

def normalizeSku : Option JavaString → Except JavaException JavaString
  | none => throw (.illegalArgument "SKU is required")
  | some sku =>
      let normalized := JavaString.toUpperCase (JavaString.trim sku)
      if skuPattern normalized then pure normalized
      else throw (.illegalArgument
        "SKU must contain 1 to 64 letters, numbers, dots, underscores, or hyphens, starting with a letter or number")

/-- The name check of the constructor; the result is the name as given. -/
def requireName : Option JavaString → Except JavaException JavaString
  | none => throw (.illegalArgument "Product name must contain 1 to 160 characters")
  | some name =>
      if JavaString.isBlank name || 160 < (JavaString.trim name).length then
        throw (.illegalArgument "Product name must contain 1 to 160 characters")
      else pure name

def new (fresh : Fresh) (sku name : Option JavaString)
    (initialQuantity : Int32) : Except JavaException Product := do
  let sku ← normalizeSku sku
  let name ← requireName name
  if initialQuantity < 0 ∨ maxQuantity < initialQuantity then
    throw (.illegalArgument "Initial quantity must be between 0 and 1000000")
  return {
    id := fresh.id
    sku := sku
    name := JavaString.trim name
    availableQuantity := initialQuantity
    createdAt := fresh.now.truncatedToMicros }

def validatePositiveQuantity (quantity : Int32) : Except JavaException Unit :=
  if quantity < 1 ∨ maxQuantity < quantity then
    throw (.illegalArgument "Quantity must be between 1 and 1000000")
  else pure ()

def addStock (quantity : Int32) : DomainMethod Product Unit := do
  MonadExcept.ofExcept (validatePositiveQuantity quantity)
  if maxQuantity - (← get).availableQuantity < quantity then
    throw (.domain .conflict "Available stock cannot exceed 1000000")
  modify fun product =>
    { product with availableQuantity := product.availableQuantity + quantity }

def reserveStock (quantity : Int32) : DomainMethod Product Unit := do
  MonadExcept.ofExcept (validatePositiveQuantity quantity)
  if (← get).availableQuantity < quantity then
    throw (.domain .conflict "Insufficient available stock")
  modify fun product =>
    { product with availableQuantity := product.availableQuantity - quantity }

end Product

/-! ## Reservations -/

inductive ReservationStatus where
  | active
  | cancelled
  deriving DecidableEq, Repr

/-- The product reference is kept as the product's id. -/
structure Reservation where
  id : UUID
  productId : UUID
  quantity : Int32
  customerId : JavaString
  idempotencyKey : Option JavaString
  status : ReservationStatus
  createdAt : Instant
  cancelledAt : Option Instant
  deriving DecidableEq, Repr

namespace Reservation

/-- The check of the customer id; the result is the id, which is not null. -/
def validateCustomerId : Option JavaString → Except JavaException JavaString
  | none => throw (.illegalArgument "Customer ID must contain 1 to 200 characters")
  | some customerId =>
      if JavaString.isBlank customerId || 200 < customerId.length then
        throw (.illegalArgument "Customer ID must contain 1 to 200 characters")
      else pure customerId

/-- `[A-Za-z0-9][A-Za-z0-9._:-]{0,127}` -/
def keyPattern : JavaString → Bool :=
  JavaString.matchesHeadTail
    (fun unit => JavaString.isAsciiUpper unit || JavaString.isAsciiLower unit ||
      JavaString.isAsciiDigit unit)
    (fun unit => JavaString.isAsciiUpper unit || JavaString.isAsciiLower unit ||
      JavaString.isAsciiDigit unit || JavaString.isDotUnderscoreHyphen unit ||
      unit == 0x3A)
    127

def validateIdempotencyKey : Option JavaString → Except JavaException Unit
  | none => pure ()
  | some key =>
      if keyPattern key then pure ()
      else throw (.illegalArgument
        "Idempotency-Key must contain 1 to 128 letters, digits, dots, underscores, colons or hyphens, starting with a letter or digit")

/-- The constructor takes the units out of the product it is given. -/
def new (fresh : Fresh) (quantity : Int32) (customerId : Option JavaString)
    (idempotencyKey : Option JavaString) :
    DomainMethod Product Reservation := do
  let customerId ← MonadExcept.ofExcept (validateCustomerId customerId)
  MonadExcept.ofExcept (validateIdempotencyKey idempotencyKey)
  Product.reserveStock quantity
  return {
    id := fresh.id
    productId := (← get).id
    quantity := quantity
    customerId := customerId
    idempotencyKey := idempotencyKey
    status := .active
    createdAt := fresh.now.truncatedToMicros
    cancelledAt := none }

def cancel (now : Instant) : DomainMethod (Reservation × Product) Bool := do
  if (← get).1.status = .cancelled then
    return false
  DomainMethod.onSecond (Product.addStock (← get).1.quantity)
  modify fun (reservation, product) =>
    ({ reservation with status := .cancelled }, product)
  modify fun (reservation, product) =>
    ({ reservation with cancelledAt := some now.truncatedToMicros }, product)
  return true

end Reservation

/-! ## What the methods compute -/

def PositiveQuantity (quantity : Int32) : Prop :=
  1 ≤ quantity.toInt ∧ quantity.toInt ≤ 1000000

instance (quantity : Int32) : Decidable (PositiveQuantity quantity) :=
  inferInstanceAs (Decidable (_ ∧ _))

@[simp] theorem toInt_maxQuantity : maxQuantity.toInt = 1000000 := by decide

def quantityOutOfRange : JavaException :=
  .illegalArgument "Quantity must be between 1 and 1000000"

def stockCapExceeded : JavaException :=
  .domain .conflict "Available stock cannot exceed 1000000"

def insufficientStock : JavaException :=
  .domain .conflict "Insufficient available stock"

theorem Product.validatePositiveQuantity_eq (quantity : Int32) :
    Product.validatePositiveQuantity quantity =
      if PositiveQuantity quantity then .ok () else .error quantityOutOfRange := by
  have hone : (1 : Int32).toInt = 1 := by decide
  have hiff : (quantity < 1 ∨ maxQuantity < quantity) ↔
      ¬ PositiveQuantity quantity := by
    rw [Int32.lt_iff_toInt_lt, Int32.lt_iff_toInt_lt, hone, toInt_maxQuantity]
    unfold PositiveQuantity
    omega
  unfold Product.validatePositiveQuantity
  by_cases hrange : PositiveQuantity quantity
  · rw [if_pos hrange, if_neg (hiff.not_left.mpr hrange)]
    rfl
  · rw [if_neg hrange, if_pos (hiff.mpr hrange)]
    rfl

theorem Product.addStock_call (product : Product) (quantity : Int32) :
    (Product.addStock quantity).call product =
      if PositiveQuantity quantity then
        if maxQuantity - product.availableQuantity < quantity then
          (.error stockCapExceeded, product)
        else
          (.ok (), { product with
            availableQuantity := product.availableQuantity + quantity })
      else (.error quantityOutOfRange, product) := by
  unfold Product.addStock
  rw [DomainMethod.call_bind, DomainMethod.call_ofExcept,
    Product.validatePositiveQuantity_eq]
  by_cases hquantity : PositiveQuantity quantity
  · by_cases hcap : maxQuantity - product.availableQuantity < quantity
    · simp [DomainMethod.call_bind, hquantity, hcap, stockCapExceeded]
    · simp [DomainMethod.call_bind, hquantity, hcap]
  · simp [hquantity]

theorem Product.reserveStock_call (product : Product) (quantity : Int32) :
    (Product.reserveStock quantity).call product =
      if PositiveQuantity quantity then
        if product.availableQuantity < quantity then
          (.error insufficientStock, product)
        else
          (.ok (), { product with
            availableQuantity := product.availableQuantity - quantity })
      else (.error quantityOutOfRange, product) := by
  unfold Product.reserveStock
  rw [DomainMethod.call_bind, DomainMethod.call_ofExcept,
    Product.validatePositiveQuantity_eq]
  by_cases hquantity : PositiveQuantity quantity
  · by_cases hstock : product.availableQuantity < quantity
    · simp [DomainMethod.call_bind, hquantity, hstock, insufficientStock]
    · simp [DomainMethod.call_bind, hquantity, hstock]
  · simp [hquantity]

/-- What a successful product constructor has checked and stored. -/
theorem Product.new_ok {fresh : Fresh} {sku name : Option JavaString}
    {initialQuantity : Int32} {product : Product}
    (hnew : Product.new fresh sku name initialQuantity = .ok product) :
    (0 ≤ initialQuantity.toInt ∧ initialQuantity.toInt ≤ 1000000) ∧
      ∃ normalized given, Product.normalizeSku sku = .ok normalized ∧
        Product.requireName name = .ok given ∧
          product = ⟨fresh.id, normalized, JavaString.trim given,
            initialQuantity, fresh.now.truncatedToMicros⟩ := by
  unfold Product.new at hnew
  cases hsku : Product.normalizeSku sku with
  | error exception =>
      rw [hsku] at hnew
      cases hnew
  | ok normalized =>
      cases hname : Product.requireName name with
      | error exception =>
          rw [hsku, hname] at hnew
          cases hnew
      | ok given =>
          rw [hsku, hname] at hnew
          by_cases hrange : initialQuantity < 0 ∨ maxQuantity < initialQuantity
          · simp [hrange, bind, Except.bind] at hnew
          · simp only [hrange, bind, Except.bind, if_false, pure, Except.pure,
              Except.ok.injEq] at hnew
            have hzero : (0 : Int32).toInt = 0 := by decide
            rw [Int32.lt_iff_toInt_lt, Int32.lt_iff_toInt_lt, hzero,
              toInt_maxQuantity] at hrange
            exact ⟨by omega, normalized, given, rfl, rfl, hnew.symm⟩

/-- The row a successful constructor call leaves to be inserted. -/
def Reservation.created (fresh : Fresh) (productId : UUID) (quantity : Int32)
    (customerId : JavaString) (idempotencyKey : Option JavaString) :
    Reservation where
  id := fresh.id
  productId := productId
  quantity := quantity
  customerId := customerId
  idempotencyKey := idempotencyKey
  status := .active
  createdAt := fresh.now.truncatedToMicros
  cancelledAt := none

theorem Reservation.validateCustomerId_some {customerId : JavaString} :
    Reservation.validateCustomerId (some customerId) = .ok customerId ↔
      (JavaString.isBlank customerId || 200 < customerId.length) = false := by
  cases hbad : JavaString.isBlank customerId || 200 < customerId.length with
  | true => simp [Reservation.validateCustomerId, hbad, throw, throwThe,
      MonadExceptOf.throw]
  | false => simp [Reservation.validateCustomerId, hbad, pure, Except.pure]

theorem Reservation.validateCustomerId_ok {given : Option JavaString}
    {customerId : JavaString}
    (hcustomer : Reservation.validateCustomerId given = .ok customerId) :
    given = some customerId := by
  cases given with
  | none => cases hcustomer
  | some value =>
      cases hbad : JavaString.isBlank value || 200 < value.length with
      | true => simp [Reservation.validateCustomerId, hbad, throw, throwThe,
          MonadExceptOf.throw] at hcustomer
      | false => simpa [Reservation.validateCustomerId, hbad, pure,
          Except.pure] using hcustomer

/-- With arguments the validators accept, the constructor fails or succeeds
with `reserveStock`. -/
theorem Reservation.new_call {fresh : Fresh} {quantity : Int32}
    {customerId : JavaString} {customer idempotencyKey : Option JavaString}
    {product : Product}
    (hcustomer : Reservation.validateCustomerId customer = .ok customerId)
    (hkey : Reservation.validateIdempotencyKey idempotencyKey = .ok ()) :
    (Reservation.new fresh quantity customer idempotencyKey).call product =
      match (Product.reserveStock quantity).call product with
      | (.ok _, changed) =>
          (.ok (Reservation.created fresh changed.id quantity customerId
            idempotencyKey), changed)
      | (.error exception, changed) => (.error exception, changed) := by
  unfold Reservation.new
  simp only [DomainMethod.call_bind, DomainMethod.call_ofExcept, hcustomer,
    hkey]
  rcases (Product.reserveStock quantity).call product with
    ⟨exception | _, changed⟩
  · rfl
  · rfl

theorem Reservation.cancel_call (now : Instant) (reservation : Reservation)
    (product : Product) :
    (Reservation.cancel now).call (reservation, product) =
      if reservation.status = .cancelled then
        (.ok false, (reservation, product))
      else
        match (Product.addStock reservation.quantity).call product with
        | (.ok _, changed) =>
            (.ok true, ({ reservation with
              status := .cancelled
              cancelledAt := some now.truncatedToMicros }, changed))
        | (.error exception, changed) =>
            (.error exception, (reservation, changed)) := by
  unfold Reservation.cancel
  by_cases hstatus : reservation.status = .cancelled
  · simp [DomainMethod.call_bind, hstatus]
  · simp only [DomainMethod.call_bind, DomainMethod.call_get, hstatus,
      if_false, DomainMethod.call_onSecond]
    rcases (Product.addStock reservation.quantity).call product with
      ⟨exception | _, changed⟩
    · rfl
    · rfl

/-! ## Quantities in range do not wrap around -/

def StockInRange (product : Product) : Prop :=
  0 ≤ product.availableQuantity.toInt ∧
    product.availableQuantity.toInt ≤ 1000000

theorem toInt_add_of_bounds {first second : Int32}
    (hlow : -2000000 ≤ first.toInt + second.toInt)
    (hhigh : first.toInt + second.toInt ≤ 2000000) :
    (first + second).toInt = first.toInt + second.toInt := by
  rw [Int32.toInt_add]
  apply Int.bmod_eq_of_le <;> omega

theorem toInt_sub_of_bounds {first second : Int32}
    (hlow : -2000000 ≤ first.toInt - second.toInt)
    (hhigh : first.toInt - second.toInt ≤ 2000000) :
    (first - second).toInt = first.toInt - second.toInt := by
  rw [Int32.toInt_sub]
  apply Int.bmod_eq_of_le <;> omega

theorem addStock_fits_iff {product : Product} {quantity : Int32}
    (hrange : StockInRange product) :
    ¬ maxQuantity - product.availableQuantity < quantity ↔
      product.availableQuantity.toInt + quantity.toInt ≤ 1000000 := by
  obtain ⟨hlow, hhigh⟩ := hrange
  rw [Int32.lt_iff_toInt_lt, toInt_sub_of_bounds, toInt_maxQuantity]
  all_goals
    try rw [toInt_maxQuantity]
    omega

theorem toInt_addStock {product : Product} {quantity : Int32}
    (hrange : StockInRange product) (hquantity : PositiveQuantity quantity) :
    (product.availableQuantity + quantity).toInt =
      product.availableQuantity.toInt + quantity.toInt := by
  obtain ⟨hlow, hhigh⟩ := hrange
  obtain ⟨hone, hmax⟩ := hquantity
  apply toInt_add_of_bounds <;> omega

theorem toInt_reserveStock {product : Product} {quantity : Int32}
    (hrange : StockInRange product) (hquantity : PositiveQuantity quantity) :
    (product.availableQuantity - quantity).toInt =
      product.availableQuantity.toInt - quantity.toInt := by
  obtain ⟨hlow, hhigh⟩ := hrange
  obtain ⟨hone, hmax⟩ := hquantity
  apply toInt_sub_of_bounds <;> omega

end InventoryCloud
