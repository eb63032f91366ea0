import InventoryCloud.ServicePrograms

/-!
# Outcomes of the service calls

`Performs view call returned session` lists the ways a call returns normally
when it runs alone on a view of the database.  It is the inversion principle
of all later case analyses: a call that returned did one of these things.
-/

namespace InventoryCloud

open Interaction
open InventoryService

/-- The database accepts the statement, its foreign-key check included. -/
def Database.admits (view : Database) (write : Write) : Bool :=
  view.accepts write &&
    match write with
    | .insertReservation reservation =>
        (view.findProduct reservation.productId).isSome
    | _ => true

/-- The result of a call which runs alone on the view. -/
def Call.resultOn (call : Call) (view : Database) : Result :=
  call.program.eval (Statement.answer view)

/-- What the transaction of a call with this result leaves to be committed. -/
def effect : Result → List Write
  | (.ok _, session) => session.writes
  | (.error _, _) => []

@[simp] theorem effect_ok (returned : Returned) (session : Session) :
    effect (.ok returned, session) = session.writes := rfl

@[simp] theorem effect_error (exception : JavaException) (session : Session) :
    effect (.error exception, session) = [] := rfl

/-- The tables after the body of a call has run alone. -/
def Call.after (call : Call) (db : Database) : Database :=
  db.applyAll (effect (call.resultOn db))

theorem Call.after_of_resultOn {call : Call} {db : Database} {result : Result}
    (hresult : call.resultOn db = result) :
    call.after db = db.applyAll (effect result) := by
  rw [Call.after, hresult]

section

variable (product : Product) (reservation : Reservation) (quantity : Int32)

@[simp] theorem writes_empty : Session.empty.writes = [] := rfl

@[simp] theorem createdSession_writes :
    (createdSession product quantity).writes = [.insertProduct product] := rfl

@[simp] theorem restockedSession_writes :
    (restockedSession product quantity).writes = [.updateProduct product] :=
  rfl

@[simp] theorem reservedSession_writes :
    (reservedSession product reservation quantity).writes =
      [.insertReservation reservation, .updateProduct product] := rfl

@[simp] theorem cancelledSession_writes :
    (cancelledSession product reservation).writes =
      [.updateProduct product, .updateReservation reservation] := rfl

@[simp] theorem countedSession_writes (increment : Increment) :
    (countedSession increment).writes = [] := rfl

end

section

variable (view : Database)

theorem eval_existsBySku (sku : JavaString)
    (next : Bool → Program Statement Statement.Answer Result) :
    (Program.ask (.existsBySku sku) next).eval (Statement.answer view) =
      (next (view.existsBySku sku)).eval (Statement.answer view) := rfl

theorem eval_execute (write : Write)
    (next : Bool → Program Statement Statement.Answer Result) :
    (Program.ask (.execute write) next).eval (Statement.answer view) =
      (next (view.accepts write)).eval (Statement.answer view) := rfl

theorem eval_referenceProduct (id : UUID)
    (next : Bool → Program Statement Statement.Answer Result) :
    (Program.ask (.referenceProduct id) next).eval (Statement.answer view) =
      (next (view.findProduct id).isSome).eval (Statement.answer view) := rfl

end

theorem Session.eval_flushing (view : Database) (session : Session)
    (returned : Returned) (writes : List Write) :
    (session.flushing returned writes).eval (Statement.answer view) =
      if writes.all view.admits then (.ok returned, session)
      else (.error .dataIntegrityViolation, session) := by
  induction writes with
  | nil => rfl
  | cons write writes ih =>
      rw [Session.flushing, eval_execute, List.all_cons]
      by_cases haccept : view.accepts write = true
      · rw [if_pos haccept]
        cases write with
        | insertReservation reservation =>
            rw [Session.referencing, eval_referenceProduct]
            by_cases hproduct :
                (view.findProduct reservation.productId).isSome = true
            · rw [if_pos hproduct, ih]
              simp [Database.admits, haccept, hproduct]
            · rw [if_neg hproduct]
              simp [Database.admits, hproduct]
        | _ => simpa [Session.referencing, Database.admits, haccept] using ih
      · rw [if_neg haccept]
        simp [Database.admits, haccept]

theorem Session.eval_finish (view : Database) (session : Session)
    (returned : Returned) :
    (session.finish returned).eval (Statement.answer view) =
      if session.flushPlan.all view.admits then (.ok returned, session)
      else (.error .dataIntegrityViolation, session) := by
  rw [Session.finish_eq, Session.eval_flushing]

/-- The product after `addStock`. -/
def Product.restocked (product : Product) (quantity : Int32) : Product :=
  { product with availableQuantity := product.availableQuantity + quantity }

/-- The product after `reserveStock`. -/
def Product.deducted (product : Product) (quantity : Int32) : Product :=
  { product with availableQuantity := product.availableQuantity - quantity }

/-- The reservation after `cancel`. -/
def Reservation.cancelledBy (reservation : Reservation) (now : Instant) :
    Reservation :=
  { reservation with
    status := .cancelled
    cancelledAt := some now.truncatedToMicros }

/-- The ways a call returns normally on a view. -/
inductive Performs (view : Database) : Call → Returned → Session → Prop where
  | created {fresh sku name initialQuantity product}
      (hnew : Product.new fresh sku name initialQuantity = .ok product)
      (haccept : view.accepts (.insertProduct product) = true) :
      Performs view (.createProduct fresh sku name initialQuantity)
        (.product product) (createdSession product initialQuantity)
  | listedProducts {request} :
      Performs view (.listProducts request) (.products (view.findAll request))
        .empty
  | readProduct {id product} (hfind : view.findProduct id = some product) :
      Performs view (.getProduct id) (.product product) .empty
  | restocked {id quantity product} (hquantity : PositiveQuantity quantity)
      (hfind : view.findProduct id = some product)
      (hfits : ¬ maxQuantity - product.availableQuantity < quantity)
      (hadmits : view.admits
        (.updateProduct (product.restocked quantity)) = true) :
      Performs view (.addStock id quantity)
        (.product (product.restocked quantity))
        (restockedSession (product.restocked quantity) quantity)
  | reserved {fresh productId quantity customerId idempotencyKey customer
        product}
      (hquantity : PositiveQuantity quantity)
      (hcustomer : Reservation.validateCustomerId customerId = .ok customer)
      (hkey : ∀ key, idempotencyKey = some key →
        view.findByCustomerIdAndIdempotencyKey customer key = none)
      (hfind : view.findProduct productId = some product)
      (hstock : ¬ product.availableQuantity < quantity)
      (hinsert : view.admits (.insertReservation
        (Reservation.created fresh productId quantity customer
          idempotencyKey)) = true)
      (hupdate : view.admits
        (.updateProduct (product.deducted quantity)) = true) :
      Performs view
        (.reserve fresh productId quantity customerId idempotencyKey)
        (.reservationResult (Reservation.created fresh productId quantity
          customer idempotencyKey) false)
        (reservedSession (product.deducted quantity)
          (Reservation.created fresh productId quantity customer
            idempotencyKey) quantity)
  | replayed {fresh productId quantity customerId key customer reservation}
      (hcustomer : Reservation.validateCustomerId customerId = .ok customer)
      (hfind : view.findByCustomerIdAndIdempotencyKey customer key =
        some reservation)
      (hproduct : reservation.productId = productId)
      (hquantity : reservation.quantity = quantity) :
      Performs view (.reserve fresh productId quantity customerId (some key))
        (.reservationResult reservation true)
        (countedSession .reservationReplayed)
  | listedReservations {customerId request customer}
      (hcustomer : Reservation.validateCustomerId customerId = .ok customer) :
      Performs view (.listReservations customerId request)
        (.reservations (view.findAllByCustomerId customer request)) .empty
  | readReservation {id customerId customer reservation}
      (hcustomer : Reservation.validateCustomerId customerId = .ok customer)
      (hfind : view.findByIdAndCustomerId id customer = some reservation) :
      Performs view (.getReservation id customerId) (.reservation reservation)
        .empty
  | cancelled {now id customerId customer reservation product}
      (hcustomer : Reservation.validateCustomerId customerId = .ok customer)
      (hfind : view.findByIdAndCustomerId id customer = some reservation)
      (hactive : reservation.status = .active)
      (hproduct : view.findProduct reservation.productId = some product)
      (hquantity : PositiveQuantity reservation.quantity)
      (hfits : ¬ maxQuantity - product.availableQuantity <
        reservation.quantity)
      (hproductUpdate : view.admits (.updateProduct
        (product.restocked reservation.quantity)) = true)
      (hupdate : view.admits (.updateReservation
        (reservation.cancelledBy now)) = true) :
      Performs view (.cancelReservation now id customerId)
        (.reservation (reservation.cancelledBy now))
        (cancelledSession (product.restocked reservation.quantity)
          (reservation.cancelledBy now))
  | cancellationReplayed {now id customerId customer reservation}
      (hcustomer : Reservation.validateCustomerId customerId = .ok customer)
      (hfind : view.findByIdAndCustomerId id customer = some reservation)
      (hcancelled : reservation.status ≠ .active) :
      Performs view (.cancelReservation now id customerId)
        (.reservation reservation) (countedSession .cancellationReplayed)

private theorem ite_ok {condition : Bool} {returned other : Returned}
    {session final : Session} {exception : JavaException}
    (hite : (if condition then (Except.ok returned, session)
        else (Except.error exception, session) : Result) =
      (.ok other, final)) :
    condition = true ∧ returned = other ∧ session = final := by
  cases condition
  · cases hite
  · cases hite
    exact ⟨rfl, rfl, rfl⟩

private theorem performs_createProduct {view : Database} {fresh : Fresh}
    {sku name : Option JavaString} {initialQuantity : Int32}
    {returned : Returned} {session : Session}
    (hresult : (Call.createProduct fresh sku name initialQuantity).resultOn
      view = (.ok returned, session)) :
    Performs view (.createProduct fresh sku name initialQuantity) returned
      session := by
  rw [Call.resultOn, createProduct_program] at hresult
  cases hnew : Product.new fresh sku name initialQuantity with
  | error exception =>
      rw [hnew] at hresult
      cases hresult
  | ok product =>
      rw [hnew] at hresult
      simp only [eval_existsBySku] at hresult
      by_cases htaken : view.existsBySku product.sku = true
      · rw [if_pos htaken] at hresult
        cases hresult
      · rw [if_neg htaken, eval_execute] at hresult
        by_cases haccept : view.accepts (.insertProduct product) = true
        · rw [if_pos haccept] at hresult
          cases hresult
          exact .created hnew haccept
        · rw [if_neg haccept] at hresult
          cases hresult

private theorem performs_reserveNew {view : Database} {fresh : Fresh}
    {productId : UUID} {quantity : Int32} {customer : JavaString}
    {customerId idempotencyKey : Option JavaString}
    {returned : Returned} {session : Session}
    (hquantity : PositiveQuantity quantity)
    (hcustomer : Reservation.validateCustomerId customerId = .ok customer)
    (hvalid : Reservation.validateIdempotencyKey idempotencyKey = .ok ())
    (hkey : ∀ key, idempotencyKey = some key →
      view.findByCustomerIdAndIdempotencyKey customer key = none)
    (hresult : (reserveNewProgram fresh productId quantity customerId
      idempotencyKey).eval (Statement.answer view) = (.ok returned, session)) :
    Performs view
      (.reserve fresh productId quantity customerId idempotencyKey) returned
      session := by
  simp only [reserveNewProgram, Program.eval_ask, Statement.answer] at hresult
  cases hfind : view.findProduct productId with
  | none => simp [hfind] at hresult
  | some product =>
      simp only [hfind, Reservation.new_call hcustomer hvalid,
        Product.reserveStock_call, if_pos hquantity] at hresult
      by_cases hstock : product.availableQuantity < quantity
      · simp [hstock] at hresult
      · simp only [if_neg hstock] at hresult
        rw [Session.eval_finish] at hresult
        obtain ⟨hadmits, rfl, rfl⟩ := ite_ok hresult
        have hid := Database.findProduct_id hfind
        subst hid
        simp only [Session.flushPlan, reservedSession, Session.isInsert,
          List.filter_cons, List.filter_nil, Bool.not_false, Bool.not_true,
          if_true, Bool.false_eq_true, if_false, List.cons_append,
          List.nil_append, List.all_cons, List.all_nil, Bool.and_true,
          Bool.and_eq_true] at hadmits
        exact .reserved hquantity hcustomer hkey hfind hstock hadmits.1 hadmits.2

private theorem performs_reserve {view : Database} {fresh : Fresh}
    {productId : UUID} {quantity : Int32}
    {customerId idempotencyKey : Option JavaString}
    {returned : Returned} {session : Session}
    (hresult : (Call.reserve fresh productId quantity customerId
      idempotencyKey).resultOn view = (.ok returned, session)) :
    Performs view
      (.reserve fresh productId quantity customerId idempotencyKey) returned
      session := by
  rw [Call.resultOn, reserve_program] at hresult
  by_cases hquantity : PositiveQuantity quantity
  · rw [if_pos hquantity] at hresult
    cases hcustomer : Reservation.validateCustomerId customerId with
    | error exception =>
        rw [hcustomer] at hresult
        cases hresult
    | ok customer =>
        cases hvalid : Reservation.validateIdempotencyKey idempotencyKey with
        | error exception =>
            rw [hcustomer, hvalid] at hresult
            cases hresult
        | ok _ =>
            rw [hcustomer, hvalid] at hresult
            cases idempotencyKey with
            | none =>
                exact performs_reserveNew hquantity hcustomer hvalid
                  (fun key hkey => by cases hkey) hresult
            | some key =>
                simp only [Program.eval_ask, Statement.answer] at hresult
                cases hfind :
                    view.findByCustomerIdAndIdempotencyKey customer key with
                | none =>
                    rw [hfind] at hresult
                    refine performs_reserveNew hquantity hcustomer hvalid ?_
                      hresult
                    rintro other ⟨⟩
                    exact hfind
                | some reservation =>
                    rw [hfind] at hresult
                    by_cases hmismatch : reservation.productId ≠ productId ∨
                        reservation.quantity ≠ quantity
                    · simp only [if_pos hmismatch] at hresult
                      cases hresult
                    · simp only [if_neg hmismatch] at hresult
                      cases hresult
                      rw [not_or, not_not, not_not] at hmismatch
                      exact .replayed hcustomer hfind hmismatch.1 hmismatch.2
  · rw [if_neg hquantity] at hresult
    cases hresult

private theorem performs_addStock {view : Database} {id : UUID}
    {quantity : Int32} {returned : Returned} {session : Session}
    (hresult : (Call.addStock id quantity).resultOn view =
      (.ok returned, session)) :
    Performs view (.addStock id quantity) returned session := by
  rw [Call.resultOn, addStock_program] at hresult
  by_cases hquantity : PositiveQuantity quantity
  · simp only [if_pos hquantity, Program.eval_ask, Statement.answer]
      at hresult
    cases hfind : view.findProduct id with
    | none =>
        rw [hfind] at hresult
        cases hresult
    | some product =>
        simp only [hfind, Product.addStock_call, if_pos hquantity] at hresult
        by_cases hcap : maxQuantity - product.availableQuantity < quantity
        · simp only [if_pos hcap] at hresult
          cases hresult
        · simp only [if_neg hcap, Session.eval_finish] at hresult
          obtain ⟨hadmits, rfl, rfl⟩ := ite_ok hresult
          refine .restocked hquantity hfind hcap ?_
          simpa [Session.flushPlan, restockedSession, Session.isInsert,
            Product.restocked] using hadmits
  · rw [if_neg hquantity] at hresult
    cases hresult

private theorem performs_cancelReservation {view : Database} {now : Instant}
    {id : UUID} {customerId : Option JavaString} {returned : Returned}
    {session : Session}
    (hresult : (Call.cancelReservation now id customerId).resultOn view =
      (.ok returned, session)) :
    Performs view (.cancelReservation now id customerId) returned session := by
  rw [Call.resultOn, cancelReservation_program] at hresult
  cases hcustomer : Reservation.validateCustomerId customerId with
  | error exception =>
      rw [hcustomer] at hresult
      cases hresult
  | ok customer =>
      simp only [hcustomer, Program.eval_ask, Statement.answer] at hresult
      cases hfind : view.findByIdAndCustomerId id customer with
      | none =>
          rw [hfind] at hresult
          cases hresult
      | some reservation =>
          simp only [hfind] at hresult
          by_cases hactive : reservation.status = .active
          · simp only [if_pos hactive, Program.eval_ask, Statement.answer]
              at hresult
            cases hproduct : view.findProduct reservation.productId with
            | none =>
                rw [hproduct] at hresult
                cases hresult
            | some product =>
                simp only [hproduct, Reservation.cancel_call, hactive,
                  Product.addStock_call, reduceCtorEq, if_false] at hresult
                by_cases hquantity : PositiveQuantity reservation.quantity
                · by_cases hcap : maxQuantity - product.availableQuantity <
                      reservation.quantity
                  · simp only [if_pos hquantity, if_pos hcap] at hresult
                    cases hresult
                  · simp only [if_pos hquantity, if_neg hcap,
                      Session.eval_finish] at hresult
                    obtain ⟨hadmits, rfl, rfl⟩ := ite_ok hresult
                    simp only [Session.flushPlan, cancelledSession,
                      Session.isInsert, List.filter_cons, List.filter_nil,
                      Bool.not_false, if_true, Bool.false_eq_true, if_false,
                      List.nil_append, List.all_cons, List.all_nil,
                      Bool.and_true, Bool.and_eq_true] at hadmits
                    exact .cancelled hcustomer hfind hactive hproduct
                      hquantity hcap hadmits.1 hadmits.2
                · simp only [if_neg hquantity] at hresult
                  cases hresult
          · simp only [if_neg hactive, Program.eval_ask, Statement.answer]
              at hresult
            cases hproduct : view.findProduct reservation.productId with
            | none =>
                rw [hproduct] at hresult
                cases hresult
            | some product =>
                rw [hproduct] at hresult
                cases hresult
                exact .cancellationReplayed hcustomer hfind hactive

/-- A call that returns normally when it runs alone did one of the listed
things. -/
theorem performs_of_resultOn {view : Database} {call : Call}
    {returned : Returned} {session : Session}
    (hresult : call.resultOn view = (.ok returned, session)) :
    Performs view call returned session := by
  cases call with
  | createProduct fresh sku name initialQuantity =>
      exact performs_createProduct hresult
  | listProducts request =>
      rw [Call.resultOn, listProducts_program] at hresult
      cases hresult
      exact .listedProducts
  | getProduct id =>
      rw [Call.resultOn, getProduct_program] at hresult
      simp only [Program.eval_ask, Statement.answer] at hresult
      cases hfind : view.findProduct id with
      | none =>
          rw [hfind] at hresult
          cases hresult
      | some product =>
          rw [hfind] at hresult
          cases hresult
          exact .readProduct hfind
  | addStock id quantity =>
      exact performs_addStock hresult
  | reserve fresh productId quantity customerId idempotencyKey =>
      exact performs_reserve hresult
  | listReservations customerId request =>
      rw [Call.resultOn, listReservations_program] at hresult
      cases hcustomer : Reservation.validateCustomerId customerId with
      | error exception =>
          rw [hcustomer] at hresult
          cases hresult
      | ok customer =>
          rw [hcustomer] at hresult
          cases hresult
          exact .listedReservations hcustomer
  | getReservation id customerId =>
      rw [Call.resultOn, getReservation_program] at hresult
      cases hcustomer : Reservation.validateCustomerId customerId with
      | error exception =>
          rw [hcustomer] at hresult
          cases hresult
      | ok customer =>
          simp only [hcustomer, Program.eval_ask, Statement.answer] at hresult
          cases hfind : view.findByIdAndCustomerId id customer with
          | none =>
              rw [hfind] at hresult
              cases hresult
          | some reservation =>
              rw [hfind] at hresult
              cases hresult
              exact .readReservation hcustomer hfind
  | cancelReservation now id customerId =>
      exact performs_cancelReservation hresult

end InventoryCloud
