import InventoryCloud.ServiceMethods

/-!
# The programs of the service calls

Each call is unfolded once into the statements it sends, with what it returns
on each answer.  The later modules argue about these programs only.
-/

namespace InventoryCloud

open Interaction

namespace Service

variable {α β : Type}

@[simp] theorem start_pure (value : α) (session : Session) :
    (pure value : Service α).start session = .pure (.ok value, session) := rfl

@[simp] theorem start_throw (exception : JavaException) (session : Session) :
    (throw exception : Service α).start session =
      .pure (.error exception, session) := rfl

@[simp] theorem start_get (session : Session) :
    (get : Service Session).start session = .pure (.ok session, session) := rfl

@[simp] theorem start_modify (change : Session → Session) (session : Session) :
    (modify change : Service PUnit).start session =
      .pure (.ok (), change session) := rfl

@[simp] theorem start_query (statement : Statement) (session : Session) :
    @start (no_index statement.Answer) (query statement) session =
      .ask statement fun answer => .pure (.ok answer, session) := rfl

@[simp] theorem start_ofExcept (result : Except JavaException α)
    (session : Session) :
    (MonadExcept.ofExcept result : Service α).start session =
      .pure (result, session) := by
  cases result <;> rfl

theorem start_bind (first : Service α) (next : α → Service β)
    (session : Session) :
    (first >>= next).start session =
      first.start session >>= fun outcome =>
        match outcome with
        | (.ok value, changed) => (next value).start changed
        | (.error exception, changed) => .pure (.error exception, changed) := by
  unfold start ExceptT.run StateT.run
  simp only [bind, ExceptT.bind, ExceptT.mk, StateT.bind]
  congr 1
  funext outcome
  obtain ⟨result, changed⟩ := outcome
  cases result <;> rfl

theorem start_map (change : α → β) (first : Service α) (session : Session) :
    (change <$> first).start session =
      first.start session >>= fun outcome =>
        match outcome with
        | (.ok value, changed) => .pure (.ok (change value), changed)
        | (.error exception, changed) => .pure (.error exception, changed) := by
  rw [map_eq_pure_bind, start_bind]
  rfl

theorem start_tryCatch (first : Service α)
    (handler : JavaException → Service α) (session : Session) :
    (tryCatch first handler).start session =
      first.start session >>= fun outcome =>
        match outcome with
        | (.ok value, changed) => .pure (.ok value, changed)
        | (.error exception, changed) => (handler exception).start changed := by
  unfold start ExceptT.run StateT.run
  simp only [tryCatch, tryCatchThe, MonadExceptOf.tryCatch, ExceptT.tryCatch,
    ExceptT.mk, bind, StateT.bind]
  congr 1
  funext outcome
  obtain ⟨result, changed⟩ := outcome
  cases result <;> rfl

@[simp] theorem start_orElseThrow (found : Option α)
    (exception : JavaException) (session : Session) :
    (orElseThrow found exception).start session =
      match found with
      | some value => .pure (.ok value, session)
      | none => .pure (.error exception, session) := by
  cases found <;> rfl

@[simp] theorem start_mutate {σ : Type} (method : DomainMethod σ α)
    (object : σ) (session : Session) :
    (mutate method object).start session =
      match method.call object with
      | (.ok value, changed) => .pure (.ok (value, changed), session)
      | (.error exception, _) => .pure (.error exception, session) := by
  unfold mutate
  rcases method.call object with ⟨exception | value, changed⟩ <;> rfl

end Service

/-- The flush of a session, after which the call returns. -/
def Session.finish (session : Session) (returned : Returned) :
    Program Statement Statement.Answer Result :=
  (do Service.flush; pure returned : Service Returned).start session

/-- The foreign-key check after an inserted row, before the flush goes on. -/
def Session.referencing (session : Session) (write : Write)
    (next : Program Statement Statement.Answer Result) :
    Program Statement Statement.Answer Result :=
  match write with
  | .insertReservation reservation =>
      .ask (.referenceProduct reservation.productId) fun referenced =>
        if referenced then next
        else .pure (.error .dataIntegrityViolation, session)
  | _ => next

/-- The remaining statements of a flush. -/
def Session.flushing (session : Session) (returned : Returned) :
    List Write → Program Statement Statement.Answer Result
  | [] => .pure (.ok returned, session)
  | write :: writes => .ask (.execute write) fun accepted =>
      if accepted then
        session.referencing write (session.flushing returned writes)
      else .pure (.error .dataIntegrityViolation, session)

theorem Service.start_flushWrite (write : Write) (session : Session) :
    (Service.flushWrite write).start session =
      .ask (.execute write) fun accepted =>
        if accepted then
          match write with
          | .insertReservation reservation =>
              .ask (.referenceProduct reservation.productId) fun referenced =>
                if referenced then .pure (.ok (), session)
                else .pure (.error .dataIntegrityViolation, session)
          | _ => .pure (.ok (), session)
        else .pure (.error .dataIntegrityViolation, session) := by
  unfold Service.flushWrite
  simp only [Service.start_bind, Service.start_query, Program.ask_bind,
    Program.pure_bind']
  congr 1
  funext accepted
  cases accepted
  · rfl
  · cases write with
    | insertReservation reservation =>
        simp only [Service.start_bind, Service.start_query, Program.ask_bind,
          Program.pure_bind', if_true]
        congr 1
        funext referenced
        cases referenced <;> rfl
    | _ => rfl

private theorem flushing_forM (session : Session) (returned : Returned)
    (writes : List Write) :
    (do writes.forM Service.flushWrite; pure returned : Service Returned).start
        session =
      session.flushing returned writes := by
  induction writes with
  | nil => rfl
  | cons write writes ih =>
      have hcons : (write :: writes).forM Service.flushWrite =
          Service.flushWrite write >>= fun _ =>
            writes.forM Service.flushWrite := rfl
      simp only [Service.start_bind] at ih
      simp only [hcons, Service.start_bind, Service.start_flushWrite,
        Session.flushing, Session.referencing, Program.ask_bind]
      congr 1
      funext accepted
      cases accepted
      · rfl
      · cases write with
        | insertReservation reservation =>
            simp only [if_true, Program.ask_bind]
            congr 1
            funext referenced
            cases referenced
            · rfl
            · exact ih
        | _ => exact ih

theorem Session.finish_eq (session : Session) (returned : Returned) :
    session.finish returned = session.flushing returned session.flushPlan :=
  flushing_forM session returned session.flushPlan

theorem Call.program_eq (call : Call) :
    call.program = call.method.start Session.empty >>= fun outcome =>
      match outcome with
      | (.ok returned, session) => session.finish returned
      | (.error exception, session) => .pure (.error exception, session) := by
  unfold Call.program Call.body
  rw [Service.start_bind]
  congr 1
  funext outcome
  rcases outcome with ⟨exception | returned, session⟩ <;> rfl

/-! ## The statements of each call -/

namespace InventoryService

open Service

def createdSession (product : Product) (initialQuantity : Int32) : Session where
  flushed := [.insertProduct product]
  dirty := []
  increments := [.productCreated initialQuantity]

def restockedSession (product : Product) (quantity : Int32) : Session where
  flushed := []
  dirty := [.updateProduct product]
  increments := [.stockAdded quantity]

def reservedSession (product : Product) (reservation : Reservation)
    (quantity : Int32) : Session where
  flushed := []
  dirty := [.updateProduct product, .insertReservation reservation]
  increments := [.reservationCreated quantity]

def cancelledSession (product : Product) (reservation : Reservation) :
    Session where
  flushed := []
  dirty := [.updateProduct product, .updateReservation reservation]
  increments := [.reservationCancelled reservation.quantity]

def countedSession (increment : Increment) : Session where
  flushed := []
  dirty := []
  increments := [increment]

theorem createProduct_program (fresh : Fresh) (sku name : Option JavaString)
    (initialQuantity : Int32) :
    (Call.createProduct fresh sku name initialQuantity).program =
      match Product.new fresh sku name initialQuantity with
      | .error exception => .pure (.error exception, .empty)
      | .ok product => .ask (.existsBySku product.sku) fun taken =>
          if taken then .pure (.error duplicateSku, .empty)
          else .ask (.execute (.insertProduct product)) fun accepted =>
            if accepted then
              .pure (.ok (.product product),
                createdSession product initialQuantity)
            else .pure (.error duplicateSku, .empty) := by
  rw [Call.program_eq]
  simp only [Call.method, createProduct, start_map, start_bind,
    start_ofExcept, Program.pure_bind']
  cases Product.new fresh sku name initialQuantity with
  | error exception => rfl
  | ok product =>
      simp only [start_query, Program.ask_bind, Program.pure_bind']
      congr 1
      funext taken
      cases taken
      · simp only [Bool.false_eq_true, if_false, start_tryCatch, start_bind,
          saveAndFlush, start_query, Program.ask_bind, Program.pure_bind']
        congr 1
        funext accepted
        cases accepted <;> rfl
      · rfl

theorem listProducts_program (request : PageRequest) :
    (Call.listProducts request).program =
      .ask (.findAllProducts request) fun page =>
        .pure (.ok (.products page), .empty) := rfl

theorem getProduct_program (id : UUID) :
    (Call.getProduct id).program =
      .ask (.findProductById id) fun found =>
        match found with
        | none => .pure (.error productNotFound, .empty)
        | some product => .pure (.ok (.product product), .empty) := by
  rw [Call.program_eq]
  simp only [Call.method, getProduct, start_map, start_bind, start_query,
    Program.ask_bind, Program.pure_bind']
  congr 1
  funext found
  cases found <;> rfl

theorem addStock_program (id : UUID) (quantity : Int32) :
    (Call.addStock id quantity).program =
      if PositiveQuantity quantity then
        .ask (.findProductByIdForUpdate id) fun found =>
          match found with
          | none => .pure (.error productNotFound, .empty)
          | some product =>
              match (Product.addStock quantity).call product with
              | (.error exception, _) => .pure (.error exception, .empty)
              | (.ok _, changed) =>
                  (restockedSession changed quantity).finish (.product changed)
      else .pure (.error quantityOutOfRange, .empty) := by
  rw [Call.program_eq]
  simp only [Call.method, addStock, start_map, start_bind, start_ofExcept,
    Product.validatePositiveQuantity_eq, Program.pure_bind']
  by_cases hquantity : PositiveQuantity quantity
  · simp only [if_pos hquantity, start_query, Program.ask_bind,
      Program.pure_bind']
    congr 1
    funext found
    cases found with
    | none => rfl
    | some product =>
        simp only [start_orElseThrow, Program.pure_bind', start_mutate]
        rcases (Product.addStock quantity).call product with
          ⟨exception | value, changed⟩ <;> rfl
  · simp only [if_neg hquantity]
    rfl

/-- The statements of `reserve` once no earlier reservation was found. -/
def reserveNewProgram (fresh : Fresh) (productId : UUID) (quantity : Int32)
    (customerId idempotencyKey : Option JavaString) :
    Program Statement Statement.Answer Result :=
  .ask (.findProductByIdForUpdate productId) fun found =>
    match found with
    | none => .pure (.error productNotFound, .empty)
    | some product =>
        match (Reservation.new fresh quantity customerId
          idempotencyKey).call product with
        | (.error exception, _) => .pure (.error exception, .empty)
        | (.ok reservation, changed) =>
            (reservedSession changed reservation quantity).finish
              (.reservationResult reservation false)

private theorem reserveNew_start (fresh : Fresh) (productId : UUID)
    (quantity : Int32) (customerId idempotencyKey : Option JavaString) :
    ((fun result : Reservation × Bool =>
          Returned.reservationResult result.1 result.2) <$>
        reserveNew fresh productId quantity customerId idempotencyKey).start
        .empty >>= (fun outcome =>
      match outcome with
      | (.ok returned, session) => session.finish returned
      | (.error exception, session) => .pure (.error exception, session)) =
      reserveNewProgram fresh productId quantity customerId idempotencyKey := by
  simp only [reserveNew, start_map, start_bind, start_query, Program.ask_bind,
    Program.pure_bind', reserveNewProgram]
  congr 1
  funext found
  cases found with
  | none => rfl
  | some product =>
      simp only [start_orElseThrow, Program.pure_bind', start_mutate]
      rcases (Reservation.new fresh quantity customerId
        idempotencyKey).call product with
        ⟨exception | value, changed⟩ <;> rfl

theorem reserve_program (fresh : Fresh) (productId : UUID) (quantity : Int32)
    (customerId idempotencyKey : Option JavaString) :
    (Call.reserve fresh productId quantity customerId idempotencyKey).program =
      if PositiveQuantity quantity then
        match Reservation.validateCustomerId customerId with
        | .error exception => .pure (.error exception, .empty)
        | .ok customer =>
            match Reservation.validateIdempotencyKey idempotencyKey with
            | .error exception => .pure (.error exception, .empty)
            | .ok _ =>
                match idempotencyKey with
                | none =>
                    reserveNewProgram fresh productId quantity customerId none
                | some key => .ask (.acquire customer key) fun _ =>
                    .ask (.findByCustomerIdAndIdempotencyKey customer key)
                      fun existing =>
                        match existing with
                        | none => reserveNewProgram fresh productId quantity
                            customerId (some key)
                        | some reservation =>
                            if reservation.productId ≠ productId ∨
                                reservation.quantity ≠ quantity then
                              .pure (.error keyAlreadyUsed, .empty)
                            else
                              .pure (.ok (.reservationResult reservation true),
                                countedSession .reservationReplayed)
      else .pure (.error quantityOutOfRange, .empty) := by
  rw [Call.program_eq]
  simp only [Call.method, reserve, start_map, start_bind, start_ofExcept,
    Product.validatePositiveQuantity_eq, Program.pure_bind']
  by_cases hquantity : PositiveQuantity quantity
  · simp only [if_pos hquantity]
    cases Reservation.validateCustomerId customerId with
    | error exception => rfl
    | ok customer =>
        cases Reservation.validateIdempotencyKey idempotencyKey with
        | error exception => rfl
        | ok _ =>
            cases idempotencyKey with
            | none =>
                rw [← reserveNew_start, start_map]
            | some key =>
                simp only [start_bind, start_query, Program.ask_bind,
                  Program.pure_bind']
                congr 1
                funext _
                congr 1
                funext existing
                cases existing with
                | none => rw [← reserveNew_start, start_map]
                | some reservation =>
                    by_cases hmismatch : reservation.productId ≠ productId ∨
                        reservation.quantity ≠ quantity
                    · simp only [if_pos hmismatch]
                      rfl
                    · simp only [if_neg hmismatch]
                      rfl
  · simp only [if_neg hquantity]
    rfl

theorem listReservations_program (customerId : Option JavaString)
    (request : PageRequest) :
    (Call.listReservations customerId request).program =
      match Reservation.validateCustomerId customerId with
      | .error exception => .pure (.error exception, .empty)
      | .ok customer => .ask (.findAllByCustomerId customer request) fun page =>
          .pure (.ok (.reservations page), .empty) := by
  rw [Call.program_eq]
  simp only [Call.method, listReservations, start_map, start_bind,
    start_ofExcept, Program.pure_bind']
  cases Reservation.validateCustomerId customerId <;> rfl

theorem getReservation_program (id : UUID) (customerId : Option JavaString) :
    (Call.getReservation id customerId).program =
      match Reservation.validateCustomerId customerId with
      | .error exception => .pure (.error exception, .empty)
      | .ok customer => .ask (.findByIdAndCustomerId id customer) fun found =>
          match found with
          | none => .pure (.error reservationNotFound, .empty)
          | some reservation => .pure (.ok (.reservation reservation), .empty) := by
  rw [Call.program_eq]
  simp only [Call.method, getReservation, start_map, start_bind,
    start_ofExcept, Program.pure_bind']
  cases Reservation.validateCustomerId customerId with
  | error exception => rfl
  | ok customer =>
      simp only [start_query, Program.ask_bind, Program.pure_bind']
      congr 1
      funext found
      cases found <;> rfl

theorem cancelReservation_program (now : Instant) (id : UUID)
    (customerId : Option JavaString) :
    (Call.cancelReservation now id customerId).program =
      match Reservation.validateCustomerId customerId with
      | .error exception => .pure (.error exception, .empty)
      | .ok customer => .ask (.findOwnedForUpdate id customer) fun found =>
          match found with
          | none => .pure (.error reservationNotFound, .empty)
          | some reservation =>
              if reservation.status = .active then
                .ask (.findProductByIdForUpdate reservation.productId)
                  fun locked =>
                    match locked with
                    | none => .pure (.error productNotFound, .empty)
                    | some product =>
                        match (Reservation.cancel now).call
                            (reservation, product) with
                        | (.error exception, _) =>
                            .pure (.error exception, .empty)
                        | (.ok _, changed) =>
                            (cancelledSession changed.2 changed.1).finish
                              (.reservation changed.1)
              else .ask (.findProductById reservation.productId) fun loaded =>
                match loaded with
                | none => .pure (.error .entityNotFound,
                    countedSession .cancellationReplayed)
                | some _ => .pure (.ok (.reservation reservation),
                    countedSession .cancellationReplayed) := by
  rw [Call.program_eq]
  simp only [Call.method, cancelReservation, start_map, start_bind,
    start_ofExcept, Program.pure_bind']
  cases Reservation.validateCustomerId customerId with
  | error exception => rfl
  | ok customer =>
      simp only [start_query, Program.ask_bind, Program.pure_bind']
      congr 1
      funext found
      cases found with
      | none => rfl
      | some reservation =>
          simp only [start_orElseThrow, Program.pure_bind']
          by_cases hactive : reservation.status = .active
          · simp only [if_pos hactive, start_bind, start_query,
              Program.ask_bind, Program.pure_bind']
            congr 1
            funext locked
            cases locked with
            | none => rfl
            | some product =>
                simp only [start_orElseThrow, Program.pure_bind',
                  start_mutate]
                rcases (Reservation.cancel now).call (reservation, product)
                  with ⟨exception | value, changed⟩ <;> rfl
          · simp only [if_neg hactive, start_bind, register, start_modify,
              start_query, Program.ask_bind, Program.pure_bind']
            congr 1
            funext loaded
            cases loaded <;> rfl

end InventoryService

end InventoryCloud
