import InventoryCloud.CancellationClocks
import InventoryCloud.DuplicateSkus
import InventoryCloud.RunningMoments

/-!
# Why calls are refused

`Refuses view call exception` lists the reasons for which a call ends with an
exception when it runs alone on a view.  The list is exact on well-formed
tables, as long as the ids which the call draws are new and its customer id
has no U+0000: with that, PostgreSQL refuses every statement which the text is
sent with, whatever the tables hold.  In every run of single calls each refusal
has its reason on the tables of a moment in which the call was running, and
what was not refused then was answered.
-/

namespace InventoryCloud

open Interaction
open InventoryService
open JavaString

def Call.customerId : Call → Option JavaString
  | .reserve _ _ _ customerId _ => customerId
  | .listReservations customerId _ => customerId
  | .getReservation _ customerId => customerId
  | .cancelReservation _ _ customerId => customerId
  | _ => none

/-- PostgreSQL takes the customer id of the call, if there is one, as a text. -/
def Call.Sendable (call : Call) : Prop :=
  ∀ customer, call.customerId = some customer → 0 ∉ customer

/-- The reasons for which a call is refused on a view. -/
inductive Refuses (view : Database) : Call → JavaException → Prop where
  | product {fresh sku name initialQuantity exception}
      (hnew : Product.new fresh sku name initialQuantity = .error exception) :
      Refuses view (.createProduct fresh sku name initialQuantity) exception
  | duplicate {fresh sku name initialQuantity product}
      (hnew : Product.new fresh sku name initialQuantity = .ok product)
      (htaken : view.existsBySku product.sku = true ∨
        product.storable = false) :
      Refuses view (.createProduct fresh sku name initialQuantity) duplicateSku
  | noProduct {id} (hnone : view.findProduct id = none) :
      Refuses view (.getProduct id) productNotFound
  | restockQuantity {id quantity} (hquantity : ¬ PositiveQuantity quantity) :
      Refuses view (.addStock id quantity) quantityOutOfRange
  | restockProduct {id quantity} (hquantity : PositiveQuantity quantity)
      (hnone : view.findProduct id = none) :
      Refuses view (.addStock id quantity) productNotFound
  | restockRoom {id quantity product} (hquantity : PositiveQuantity quantity)
      (hfind : view.findProduct id = some product)
      (hfull : 1000000 < product.availableQuantity.toInt + quantity.toInt) :
      Refuses view (.addStock id quantity) stockCapExceeded
  | reserveQuantity {fresh productId quantity customerId idempotencyKey}
      (hquantity : ¬ PositiveQuantity quantity) :
      Refuses view
        (.reserve fresh productId quantity customerId idempotencyKey)
        quantityOutOfRange
  | reserveCustomer {fresh productId quantity customerId idempotencyKey
        exception}
      (hquantity : PositiveQuantity quantity)
      (hcustomer : Reservation.validateCustomerId customerId =
        .error exception) :
      Refuses view
        (.reserve fresh productId quantity customerId idempotencyKey) exception
  | reserveKey {fresh productId quantity customerId idempotencyKey customer
        exception}
      (hquantity : PositiveQuantity quantity)
      (hcustomer : Reservation.validateCustomerId customerId = .ok customer)
      (hkey : Reservation.validateIdempotencyKey idempotencyKey =
        .error exception) :
      Refuses view
        (.reserve fresh productId quantity customerId idempotencyKey) exception
  | keyUsed {fresh productId quantity customerId key customer reservation}
      (hquantity : PositiveQuantity quantity)
      (hcustomer : Reservation.validateCustomerId customerId = .ok customer)
      (hkey : Reservation.validateIdempotencyKey (some key) = .ok ())
      (hfind : view.findByCustomerIdAndIdempotencyKey customer key =
        some reservation)
      (hother : reservation.productId ≠ productId ∨
        reservation.quantity ≠ quantity) :
      Refuses view (.reserve fresh productId quantity customerId (some key))
        keyAlreadyUsed
  | reserveProduct {fresh productId quantity customerId idempotencyKey customer}
      (hquantity : PositiveQuantity quantity)
      (hcustomer : Reservation.validateCustomerId customerId = .ok customer)
      (hkey : Reservation.validateIdempotencyKey idempotencyKey = .ok ())
      (hunused : ∀ key, idempotencyKey = some key →
        view.findByCustomerIdAndIdempotencyKey customer key = none)
      (hnone : view.findProduct productId = none) :
      Refuses view
        (.reserve fresh productId quantity customerId idempotencyKey)
        productNotFound
  | stock {fresh productId quantity customerId idempotencyKey customer product}
      (hquantity : PositiveQuantity quantity)
      (hcustomer : Reservation.validateCustomerId customerId = .ok customer)
      (hkey : Reservation.validateIdempotencyKey idempotencyKey = .ok ())
      (hunused : ∀ key, idempotencyKey = some key →
        view.findByCustomerIdAndIdempotencyKey customer key = none)
      (hfind : view.findProduct productId = some product)
      (hstock : product.availableQuantity.toInt < quantity.toInt) :
      Refuses view
        (.reserve fresh productId quantity customerId idempotencyKey)
        insufficientStock
  | listCustomer {customerId request exception}
      (hcustomer : Reservation.validateCustomerId customerId =
        .error exception) :
      Refuses view (.listReservations customerId request) exception
  | readCustomer {id customerId exception}
      (hcustomer : Reservation.validateCustomerId customerId =
        .error exception) :
      Refuses view (.getReservation id customerId) exception
  | noReservation {id customerId customer}
      (hcustomer : Reservation.validateCustomerId customerId = .ok customer)
      (hnone : view.findByIdAndCustomerId id customer = none) :
      Refuses view (.getReservation id customerId) reservationNotFound
  | cancelCustomer {now id customerId exception}
      (hcustomer : Reservation.validateCustomerId customerId =
        .error exception) :
      Refuses view (.cancelReservation now id customerId) exception
  | cancelNone {now id customerId customer}
      (hcustomer : Reservation.validateCustomerId customerId = .ok customer)
      (hnone : view.findByIdAndCustomerId id customer = none) :
      Refuses view (.cancelReservation now id customerId) reservationNotFound
  | cancelRoom {now id customerId customer reservation product}
      (hcustomer : Reservation.validateCustomerId customerId = .ok customer)
      (hfind : view.findByIdAndCustomerId id customer = some reservation)
      (hactive : reservation.status = .active)
      (hproduct : view.findProduct reservation.productId = some product)
      (hfull : 1000000 < product.availableQuantity.toInt +
        reservation.quantity.toInt) :
      Refuses view (.cancelReservation now id customerId) stockCapExceeded
  | cancelClock {now id customerId customer reservation product}
      (hcustomer : Reservation.validateCustomerId customerId = .ok customer)
      (hfind : view.findByIdAndCustomerId id customer = some reservation)
      (hactive : reservation.status = .active)
      (hproduct : view.findProduct reservation.productId = some product)
      (hroom : product.availableQuantity.toInt + reservation.quantity.toInt ≤
        1000000)
      (hclock : now.truncatedToMicros.epochNanos <
        reservation.createdAt.epochNanos) :
      Refuses view (.cancelReservation now id customerId)
        .dataIntegrityViolation

/-- Nothing speaks against the call on these tables. -/
structure Database.Permits (view : Database) (call : Call) : Prop where
  sendable : call.Sendable
  not_refuses : ∀ exception, ¬ Refuses view call exception

/-! ## Rows that a reservation leaves -/

theorem Sql.btrim_ne_nil_of_not_blank {text : JavaString}
    (hblank : isBlank text = false) : Sql.btrim text ≠ [] := by
  intro hempty
  rw [Sql.btrim, strip_eq_nil_iff] at hempty
  have hall : isBlank text = true := by
    rw [isBlank, List.all_eq_true]
    intro unit hunit
    have hspace : unit = 0x20 := by simpa using hempty unit hunit
    rw [hspace]
    decide
  rw [hblank] at hall
  cases hall

theorem Reservation.validateIdempotencyKey_ok {key : JavaString}
    (hkey : Reservation.validateIdempotencyKey (some key) = .ok ()) :
    Reservation.keyPattern key = true := by
  simp only [Reservation.validateIdempotencyKey] at hkey
  split at hkey
  next hpattern => exact hpattern
  next => cases hkey

theorem Sql.varchar_of_keyPattern {key : JavaString}
    (hpattern : Reservation.keyPattern key = true) :
    Sql.varchar 128 key = true := by
  have hchars := Sql.charLength_le key
  cases key with
  | nil => cases hpattern
  | cons first rest =>
      simp only [Reservation.keyPattern, matchesHeadTail, Bool.and_eq_true,
        decide_eq_true_eq, List.all_eq_true] at hpattern
      obtain ⟨⟨hfirst, hlength⟩, hrest⟩ := hpattern
      have hzero : (0 : UInt16) ∉ first :: rest := by
        intro hmem
        rcases List.mem_cons.mp hmem with rfl | hmem
        · exact absurd hfirst (by decide)
        · exact absurd (hrest 0 hmem) (by decide)
      rw [List.length_cons] at hchars
      rw [Sql.varchar, Bool.and_eq_true, decide_eq_true_eq]
      exact ⟨by omega, by simpa using hzero⟩

/-- Only U+0000 in the customer id makes a new reservation unstorable. -/
theorem Reservation.created_storable {fresh : Fresh} {productId : UUID}
    {quantity : Int32} {customerId idempotencyKey : Option JavaString}
    {customer : JavaString} (hquantity : PositiveQuantity quantity)
    (hcustomer : Reservation.validateCustomerId customerId = .ok customer)
    (hkey : Reservation.validateIdempotencyKey idempotencyKey = .ok ()) :
    (Reservation.created fresh productId quantity customer
      idempotencyKey).storable = decide (0 ∉ customer) := by
  have hgiven := Reservation.validateCustomerId_ok hcustomer
  rw [hgiven, Reservation.validateCustomerId_some, Bool.or_eq_false_iff,
    decide_eq_false_iff_not, not_lt] at hcustomer
  obtain ⟨hblank, hlength⟩ := hcustomer
  have hchars : Sql.charLength customer ≤ 200 :=
    (Sql.charLength_le customer).trans hlength
  have htrimmed : 0 < Sql.charLength (Sql.btrim customer) :=
    Sql.charLength_pos (Sql.btrim_ne_nil_of_not_blank hblank)
  have hkeys : idempotencyKey.all (fun key =>
      Sql.varchar 128 key && Sql.idempotencyKeyFormat key) = true := by
    cases idempotencyKey with
    | none => rfl
    | some key =>
        have hpattern := Reservation.validateIdempotencyKey_ok hkey
        have hformat : Sql.idempotencyKeyFormat key = true := hpattern
        simp [Sql.varchar_of_keyPattern hpattern, hformat]
  have hvarchar : Sql.varchar 200 customer = decide (0 ∉ customer) := by
    simp [Sql.varchar, hchars]
  obtain ⟨hone, hmax⟩ := hquantity
  simp [Reservation.storable, Reservation.created, hvarchar, htrimmed, hkeys,
    hone, hmax, Reservation.cancellationConsistent]

section

variable {view : Database}

theorem Database.WellFormed.admits_deducted (hwell : view.WellFormed)
    {id : UUID} {product : Product} {quantity : Int32}
    (hfind : view.findProduct id = some product)
    (hquantity : PositiveQuantity quantity)
    (hstock : quantity.toInt ≤ product.availableQuantity.toInt) :
    view.admits (.updateProduct (product.deducted quantity)) = true := by
  have hid := Database.findProduct_id hfind
  have hrange := hwell.stockInRange (Database.findProduct_mem hfind)
  have hlevel := toInt_reserveStock hrange hquantity
  have hrow : view.findProduct (product.deducted quantity).id = some product :=
    hid ▸ hfind
  refine hwell.admits_stock hrow rfl ?_
  obtain ⟨hlow, hhigh⟩ := hrange
  obtain ⟨hone, -⟩ := hquantity
  constructor <;> rw [Product.deducted, hlevel] <;> omega

theorem Database.WellFormed.admits_restocked (hwell : view.WellFormed)
    {id : UUID} {product : Product} {quantity : Int32}
    (hfind : view.findProduct id = some product)
    (hquantity : PositiveQuantity quantity)
    (hroom : product.availableQuantity.toInt + quantity.toInt ≤ 1000000) :
    view.admits (.updateProduct (product.restocked quantity)) = true := by
  have hid := Database.findProduct_id hfind
  have hrange := hwell.stockInRange (Database.findProduct_mem hfind)
  have hlevel := toInt_addStock hrange hquantity
  have hrow : view.findProduct (product.restocked quantity).id = some product :=
    hid ▸ hfind
  refine hwell.admits_stock hrow rfl ?_
  obtain ⟨hlow, hhigh⟩ := hrange
  obtain ⟨hone, -⟩ := hquantity
  constructor <;> rw [Product.restocked, hlevel] <;> omega

/-- A new row is admitted unless its customer id has U+0000. -/
theorem Database.admits_created {fresh : Fresh} {productId : UUID}
    {quantity : Int32} {customerId idempotencyKey : Option JavaString}
    {customer : JavaString} {product : Product}
    (hquantity : PositiveQuantity quantity)
    (hcustomer : Reservation.validateCustomerId customerId = .ok customer)
    (hkey : Reservation.validateIdempotencyKey idempotencyKey = .ok ())
    (hunused : ∀ key, idempotencyKey = some key →
      view.findByCustomerIdAndIdempotencyKey customer key = none)
    (hfind : view.findProduct productId = some product)
    (hfresh : view.findReservation fresh.id = none) :
    view.admits (.insertReservation (Reservation.created fresh productId
      quantity customer idempotencyKey)) = decide (0 ∉ customer) := by
  have hkeys : idempotencyKey.all (fun key =>
      (view.findByCustomerIdAndIdempotencyKey customer key).isNone) = true := by
    cases idempotencyKey with
    | none => rfl
    | some key => simp [hunused key rfl]
  have hstorable := @Reservation.created_storable fresh productId quantity
    customerId idempotencyKey customer hquantity hcustomer hkey
  simp only [Database.admits, Database.accepts, hstorable]
  simp [Reservation.created, hfresh, hfind, hkeys]

/-! ## What a refused call answers -/

/-- The part of `reserve` after the keys, on tables without such a key. -/
theorem eval_reserveNew (hwell : view.WellFormed) {fresh : Fresh}
    {productId : UUID} {quantity : Int32}
    {customerId idempotencyKey : Option JavaString} {customer : JavaString}
    (hquantity : PositiveQuantity quantity)
    (hcustomer : Reservation.validateCustomerId customerId = .ok customer)
    (hkey : Reservation.validateIdempotencyKey idempotencyKey = .ok ())
    (hunused : ∀ key, idempotencyKey = some key →
      view.findByCustomerIdAndIdempotencyKey customer key = none)
    (hfresh : view.findReservation fresh.id = none) :
    ((reserveNewProgram fresh productId quantity customerId
      idempotencyKey).eval (Statement.answer view)).1 =
      match view.findProduct productId with
      | none => .error productNotFound
      | some product =>
          if product.availableQuantity.toInt < quantity.toInt then
            .error insufficientStock
          else if 0 ∈ customer then .error .dataIntegrityViolation
          else .ok (.reservationResult (Reservation.created fresh productId
            quantity customer idempotencyKey) false) := by
  simp only [reserveNewProgram, Program.eval_ask, Statement.answer]
  cases hfind : view.findProduct productId with
  | none => rfl
  | some product =>
      have hid := Database.findProduct_id hfind
      have hadmits := @Database.admits_created view fresh productId quantity
        customerId idempotencyKey customer product hquantity hcustomer hkey
        hunused hfind hfresh
      simp only [Reservation.new_call hcustomer hkey,
        Product.reserveStock_call, if_pos hquantity, Int32.lt_iff_toInt_lt]
      by_cases hstock : product.availableQuantity.toInt < quantity.toInt
      · simp [hstock, insufficientStock]
      · have hupdate := hwell.admits_deducted hfind hquantity (not_lt.mp hstock)
        subst hid
        have hplan : (reservedSession (product.deducted quantity)
            (Reservation.created fresh product.id quantity customer
              idempotencyKey) quantity).flushPlan.all view.admits =
            decide (0 ∉ customer) := by
          simp [Session.flushPlan, reservedSession, Session.isInsert, hadmits,
            hupdate]
        have hfinish := Session.eval_finish view
          (reservedSession (product.deducted quantity)
            (Reservation.created fresh product.id quantity customer
              idempotencyKey) quantity)
          (.reservationResult (Reservation.created fresh product.id quantity
            customer idempotencyKey) false)
        rw [hplan] at hfinish
        simp only [if_neg hstock]
        refine (congrArg Prod.fst hfinish).trans ?_
        by_cases hzero : 0 ∈ customer <;> simp [hzero]

/-- `reserve` on well-formed tables in which its id is new. -/
theorem reserve_resultOn (hwell : view.WellFormed) {fresh : Fresh}
    {productId : UUID} {quantity : Int32}
    {customerId idempotencyKey : Option JavaString} {customer : JavaString}
    (hquantity : PositiveQuantity quantity)
    (hcustomer : Reservation.validateCustomerId customerId = .ok customer)
    (hkey : Reservation.validateIdempotencyKey idempotencyKey = .ok ())
    (hunused : ∀ key, idempotencyKey = some key →
      view.findByCustomerIdAndIdempotencyKey customer key = none)
    (hfresh : view.findReservation fresh.id = none) :
    ((Call.reserve fresh productId quantity customerId
      idempotencyKey).resultOn view).1 =
      match view.findProduct productId with
      | none => .error productNotFound
      | some product =>
          if product.availableQuantity.toInt < quantity.toInt then
            .error insufficientStock
          else if 0 ∈ customer then .error .dataIntegrityViolation
          else .ok (.reservationResult (Reservation.created fresh productId
            quantity customer idempotencyKey) false) := by
  rw [← eval_reserveNew hwell hquantity hcustomer hkey hunused hfresh,
    Call.resultOn, reserve_program]
  cases idempotencyKey with
  | none => simp only [if_pos hquantity, hcustomer, hkey]
  | some key =>
      simp only [if_pos hquantity, hcustomer, hkey, Program.eval_ask,
        Statement.answer, hunused key rfl]

/-- A reason for a refusal is what the call answers with. -/
theorem Refuses.resultOn {call : Call} {exception : JavaException}
    (hrefuses : Refuses view call exception) (hwell : view.WellFormed)
    (hfresh : call.Unused view) :
    (call.resultOn view).1 = .error exception := by
  cases hrefuses with
  | product hnew =>
      rw [Call.resultOn, createProduct_program, hnew]
      rfl
  | @duplicate fresh sku name initialQuantity product hnew htaken =>
      have hid : product.id = fresh.id := by
        obtain ⟨-, normalized, given, -, -, rfl⟩ := Product.new_ok hnew
        rfl
      have hnone : view.findProduct product.id = none :=
        hid ▸ (hfresh fresh.id (List.mem_singleton_self _)).1
      rw [Call.resultOn, createProduct_program, hnew]
      simp only [eval_existsBySku]
      by_cases hpresent : view.existsBySku product.sku = true
      · rw [if_pos hpresent]
        rfl
      · have hreject : view.accepts (.insertProduct product) = false := by
          simp [Database.accepts, htaken.resolve_left hpresent]
        rw [if_neg hpresent, eval_execute, hreject]
        rfl
  | noProduct hnone =>
      rw [Call.resultOn, getProduct_program]
      simp [Statement.answer, hnone]
  | restockQuantity hquantity =>
      rw [Call.resultOn, addStock_program, if_neg hquantity]
      rfl
  | restockProduct hquantity hnone =>
      rw [Call.resultOn, addStock_program, if_pos hquantity]
      simp [Statement.answer, hnone]
  | restockRoom hquantity hfind hfull =>
      have hrange := hwell.stockInRange (Database.findProduct_mem hfind)
      have hcap := (addStock_fits_iff hrange).not.mpr (not_le.mpr hfull)
      rw [Call.resultOn, addStock_program, if_pos hquantity]
      simp [Statement.answer, hfind, Product.addStock_call, hquantity,
        not_not.mp hcap]
  | reserveQuantity hquantity =>
      rw [Call.resultOn, reserve_program, if_neg hquantity]
      rfl
  | reserveCustomer hquantity hcustomer =>
      rw [Call.resultOn, reserve_program, if_pos hquantity, hcustomer]
      rfl
  | reserveKey hquantity hcustomer hkey =>
      rw [Call.resultOn, reserve_program, if_pos hquantity, hcustomer, hkey]
      rfl
  | keyUsed hquantity hcustomer hkey hfind hother =>
      rw [Call.resultOn, reserve_program, if_pos hquantity, hcustomer, hkey]
      simp only [Program.eval_ask, Statement.answer, hfind, if_pos hother]
      rfl
  | @reserveProduct fresh _ _ _ _ _ hquantity hcustomer hkey hunused hnone =>
      rw [reserve_resultOn hwell hquantity hcustomer hkey hunused
        (hfresh fresh.id (List.mem_singleton_self _)).2, hnone]
  | @stock fresh _ _ _ _ _ _ hquantity hcustomer hkey hunused hfind hstock =>
      rw [reserve_resultOn hwell hquantity hcustomer hkey hunused
        (hfresh fresh.id (List.mem_singleton_self _)).2, hfind]
      simp only [if_pos hstock]
  | listCustomer hcustomer =>
      rw [Call.resultOn, listReservations_program, hcustomer]
      rfl
  | readCustomer hcustomer =>
      rw [Call.resultOn, getReservation_program, hcustomer]
      rfl
  | noReservation hcustomer hnone =>
      rw [Call.resultOn, getReservation_program, hcustomer]
      simp [Statement.answer, hnone]
  | cancelCustomer hcustomer =>
      rw [Call.resultOn, cancelReservation_program, hcustomer]
      rfl
  | cancelNone hcustomer hnone =>
      rw [Call.resultOn, cancelReservation_program, hcustomer]
      simp [Statement.answer, hnone]
  | cancelRoom hcustomer hfind hactive hproduct hfull =>
      have hrange := hwell.stockInRange (Database.findProduct_mem hproduct)
      have hcap := (addStock_fits_iff hrange).not.mpr (not_le.mpr hfull)
      have hmem := (Database.findByIdAndCustomerId_some hfind).1
      rw [Call.resultOn, cancelReservation_program, hcustomer]
      simp [Statement.answer, hfind, hactive, hproduct, Reservation.cancel_call,
        Product.addStock_call, hwell.positiveQuantity hmem, not_not.mp hcap]
  | cancelClock hcustomer hfind hactive hproduct hroom hclock =>
      obtain ⟨hmem, rfl, rfl⟩ := Database.findByIdAndCustomerId_some hfind
      rw [cancelReservation_resultOn hwell hmem hactive hcustomer hproduct
        hroom, if_neg (not_le.mpr hclock)]

/-! ## A call with no reason to be refused -/

private theorem refuses_or_creates {fresh : Fresh}
    {sku name : Option JavaString} {initialQuantity : Int32}
    (hfresh : (Call.createProduct fresh sku name initialQuantity).Unused view) :
    (∃ exception, Refuses view
        (.createProduct fresh sku name initialQuantity) exception) ∨
      ∃ returned, ((Call.createProduct fresh sku name
        initialQuantity).resultOn view).1 = .ok returned := by
  cases hnew : Product.new fresh sku name initialQuantity with
  | error exception => exact Or.inl ⟨exception, .product hnew⟩
  | ok product =>
      by_cases hbad : view.existsBySku product.sku = true ∨
          product.storable = false
      · exact Or.inl ⟨_, .duplicate hnew hbad⟩
      · have hid : product.id = fresh.id := by
          obtain ⟨-, normalized, given, -, -, rfl⟩ := Product.new_ok hnew
          rfl
        have hnone : view.findProduct product.id = none :=
          hid ▸ (hfresh fresh.id (List.mem_singleton_self _)).1
        rw [not_or, Bool.not_eq_false] at hbad
        have haccepts : view.accepts (.insertProduct product) = true := by
          simp [Database.accepts, hbad.1, hbad.2, hnone]
        refine Or.inr ⟨.product product, ?_⟩
        rw [Call.resultOn, createProduct_program, hnew]
        simp only [eval_existsBySku, if_neg hbad.1, eval_execute, haccepts,
          if_true]
        rfl

private theorem refuses_or_restocks (hwell : view.WellFormed) (id : UUID)
    (quantity : Int32) :
    (∃ exception, Refuses view (.addStock id quantity) exception) ∨
      ∃ returned, ((Call.addStock id quantity).resultOn view).1 =
        .ok returned := by
  by_cases hquantity : PositiveQuantity quantity
  · cases hfind : view.findProduct id with
    | none => exact Or.inl ⟨_, .restockProduct hquantity hfind⟩
    | some product =>
        by_cases hroom : product.availableQuantity.toInt + quantity.toInt ≤
            1000000
        · have hrange := hwell.stockInRange (Database.findProduct_mem hfind)
          have hfits := (addStock_fits_iff hrange).mpr hroom
          have hadmits := hwell.admits_restocked hfind hquantity hroom
          have hplan : (restockedSession (product.restocked quantity)
              quantity).flushPlan.all view.admits = true := by
            simp [Session.flushPlan, restockedSession, Session.isInsert,
              hadmits]
          have hfinish := Session.eval_finish view
            (restockedSession (product.restocked quantity) quantity)
            (.product (product.restocked quantity))
          rw [if_pos hplan] at hfinish
          refine Or.inr ⟨.product (product.restocked quantity), ?_⟩
          rw [Call.resultOn, addStock_program, if_pos hquantity]
          simp only [Program.eval_ask, Statement.answer, hfind,
            Product.addStock_call, if_pos hquantity, if_neg hfits]
          exact congrArg Prod.fst hfinish
        · exact Or.inl ⟨_, .restockRoom hquantity hfind (not_le.mp hroom)⟩
  · exact Or.inl ⟨_, .restockQuantity hquantity⟩

private theorem refuses_or_reserves (hwell : view.WellFormed) {fresh : Fresh}
    {productId : UUID} {quantity : Int32}
    {customerId idempotencyKey : Option JavaString}
    (hfresh : view.findReservation fresh.id = none)
    (hsendable : ∀ customer, customerId = some customer → 0 ∉ customer) :
    (∃ exception, Refuses view (.reserve fresh productId quantity customerId
        idempotencyKey) exception) ∨
      ∃ returned, ((Call.reserve fresh productId quantity customerId
        idempotencyKey).resultOn view).1 = .ok returned := by
  by_cases hquantity : PositiveQuantity quantity
  · cases hcustomer : Reservation.validateCustomerId customerId with
    | error exception =>
        exact Or.inl ⟨_, .reserveCustomer hquantity hcustomer⟩
    | ok customer =>
        cases hkey : Reservation.validateIdempotencyKey idempotencyKey with
        | error exception =>
            exact Or.inl ⟨_, .reserveKey hquantity hcustomer hkey⟩
        | ok _ =>
            by_cases hused : ∃ key reservation, idempotencyKey = some key ∧
                view.findByCustomerIdAndIdempotencyKey customer key =
                  some reservation
            · obtain ⟨key, reservation, rfl, hfind⟩ := hused
              by_cases hother : reservation.productId ≠ productId ∨
                  reservation.quantity ≠ quantity
              · exact Or.inl
                  ⟨_, .keyUsed hquantity hcustomer hkey hfind hother⟩
              · refine Or.inr ⟨.reservationResult reservation true, ?_⟩
                rw [Call.resultOn, reserve_program, if_pos hquantity,
                  hcustomer, hkey]
                simp only [Program.eval_ask, Statement.answer, hfind,
                  if_neg hother]
                rfl
            · have hunused : ∀ key, idempotencyKey = some key →
                  view.findByCustomerIdAndIdempotencyKey customer key =
                    none := by
                intro key hgiven
                cases hfind :
                    view.findByCustomerIdAndIdempotencyKey customer key with
                | none => rfl
                | some reservation =>
                    exact absurd ⟨key, reservation, hgiven, hfind⟩ hused
              have hresult := @reserve_resultOn view hwell fresh productId
                quantity customerId idempotencyKey customer hquantity hcustomer hkey
                hunused hfresh
              cases hfind : view.findProduct productId with
              | none =>
                  exact Or.inl ⟨_, .reserveProduct hquantity hcustomer hkey
                    hunused hfind⟩
              | some product =>
                  rw [hfind] at hresult
                  by_cases hstock : product.availableQuantity.toInt <
                      quantity.toInt
                  · exact Or.inl ⟨_, .stock hquantity hcustomer hkey hunused
                      hfind hstock⟩
                  · have hzero := hsendable customer
                      (Reservation.validateCustomerId_ok hcustomer)
                    simp only [if_neg hstock, if_neg hzero] at hresult
                    exact Or.inr ⟨_, hresult⟩
  · exact Or.inl ⟨_, .reserveQuantity hquantity⟩

private theorem refuses_or_cancels (hwell : view.WellFormed) (now : Instant)
    (id : UUID) (customerId : Option JavaString) :
    (∃ exception, Refuses view (.cancelReservation now id customerId)
        exception) ∨
      ∃ returned, ((Call.cancelReservation now id customerId).resultOn
        view).1 = .ok returned := by
  cases hcustomer : Reservation.validateCustomerId customerId with
  | error exception => exact Or.inl ⟨_, .cancelCustomer hcustomer⟩
  | ok customer =>
      cases hfind : view.findByIdAndCustomerId id customer with
      | none => exact Or.inl ⟨_, .cancelNone hcustomer hfind⟩
      | some reservation =>
          obtain ⟨hmem, rfl, rfl⟩ := Database.findByIdAndCustomerId_some hfind
          obtain ⟨product, hproductMem, hproductId⟩ :=
            hwell.foreignKey reservation hmem
          have hproduct : view.findProduct reservation.productId =
              some product :=
            hproductId ▸ hwell.findProduct_of_mem hproductMem
          by_cases hactive : reservation.status = .active
          · by_cases hroom : product.availableQuantity.toInt +
                reservation.quantity.toInt ≤ 1000000
            · by_cases hclock : reservation.createdAt.epochNanos ≤
                  now.truncatedToMicros.epochNanos
              · refine Or.inr ⟨.reservation (reservation.cancelledBy now), ?_⟩
                rw [cancelReservation_resultOn hwell hmem hactive hcustomer
                  hproduct hroom, if_pos hclock]
              · exact Or.inl ⟨_, .cancelClock hcustomer hfind hactive hproduct
                  hroom (not_le.mp hclock)⟩
            · exact Or.inl ⟨_, .cancelRoom hcustomer hfind hactive hproduct
                (not_le.mp hroom)⟩
          · refine Or.inr ⟨.reservation reservation, ?_⟩
            rw [Call.resultOn, cancelReservation_program, hcustomer]
            simp [Statement.answer, hfind, hactive, hproduct]

theorem refuses_or_returns (hwell : view.WellFormed) {call : Call}
    (hfresh : call.Unused view) (hsendable : call.Sendable) :
    (∃ exception, Refuses view call exception) ∨
      ∃ returned, (call.resultOn view).1 = .ok returned := by
  cases call with
  | createProduct fresh sku name initialQuantity =>
      exact refuses_or_creates hfresh
  | listProducts request =>
      exact Or.inr ⟨.products (view.findAll request), rfl⟩
  | getProduct id =>
      cases hfind : view.findProduct id with
      | none => exact Or.inl ⟨_, .noProduct hfind⟩
      | some product =>
          refine Or.inr ⟨.product product, ?_⟩
          rw [Call.resultOn, getProduct_program]
          simp [Statement.answer, hfind]
  | addStock id quantity => exact refuses_or_restocks hwell id quantity
  | reserve fresh productId quantity customerId idempotencyKey =>
      exact refuses_or_reserves hwell
        (hfresh fresh.id (List.mem_singleton_self _)).2 hsendable
  | listReservations customerId request =>
      cases hcustomer : Reservation.validateCustomerId customerId with
      | error exception => exact Or.inl ⟨_, .listCustomer hcustomer⟩
      | ok customer =>
          refine Or.inr
            ⟨.reservations (view.findAllByCustomerId customer request), ?_⟩
          rw [Call.resultOn, listReservations_program, hcustomer]
          rfl
  | getReservation id customerId =>
      cases hcustomer : Reservation.validateCustomerId customerId with
      | error exception => exact Or.inl ⟨_, .readCustomer hcustomer⟩
      | ok customer =>
          cases hfind : view.findByIdAndCustomerId id customer with
          | none => exact Or.inl ⟨_, .noReservation hcustomer hfind⟩
          | some reservation =>
              refine Or.inr ⟨.reservation reservation, ?_⟩
              rw [Call.resultOn, getReservation_program, hcustomer]
              simp [Statement.answer, hfind]
  | cancelReservation now id customerId =>
      exact refuses_or_cancels hwell now id customerId

/-- The list of reasons is exact. -/
theorem refuses_iff (hwell : view.WellFormed) {call : Call}
    (hfresh : call.Unused view) (hsendable : call.Sendable)
    {exception : JavaException} :
    Refuses view call exception ↔
      (call.resultOn view).1 = .error exception := by
  constructor
  · intro hrefuses
    exact hrefuses.resultOn hwell hfresh
  · intro hresult
    rcases refuses_or_returns hwell hfresh hsendable with
      ⟨other, hrefuses⟩ | ⟨returned, hreturns⟩
    · have hother := hrefuses.resultOn hwell hfresh
      rw [hresult, Except.error.injEq] at hother
      exact hother ▸ hrefuses
    · rw [hresult] at hreturns
      cases hreturns

end

/-! ## What the callers are told -/

section

variable {view : Database}

theorem Product.new_error {fresh : Fresh} {sku name : Option JavaString}
    {initialQuantity : Int32} {exception : JavaException}
    (hnew : Product.new fresh sku name initialQuantity = .error exception) :
    ∃ message, exception = .illegalArgument message := by
  unfold Product.new at hnew
  cases hsku : Product.normalizeSku sku with
  | error first =>
      rw [hsku] at hnew
      cases hnew
      cases sku with
      | none =>
          cases hsku
          exact ⟨_, rfl⟩
      | some text =>
          simp only [Product.normalizeSku] at hsku
          split at hsku
          next => cases hsku
          next =>
            cases hsku
            exact ⟨_, rfl⟩
  | ok normalized =>
      cases hname : Product.requireName name with
      | error second =>
          rw [hsku, hname] at hnew
          cases hnew
          cases name with
          | none =>
              cases hname
              exact ⟨_, rfl⟩
          | some text =>
              simp only [Product.requireName] at hname
              split at hname
              next =>
                cases hname
                exact ⟨_, rfl⟩
              next => cases hname
      | ok given =>
          rw [hsku, hname] at hnew
          by_cases hrange : initialQuantity < 0 ∨ maxQuantity < initialQuantity
          · simp only [hrange, bind, Except.bind, if_true] at hnew
            cases hnew
            exact ⟨_, rfl⟩
          · simp [hrange, bind, Except.bind, pure, Except.pure] at hnew

theorem Reservation.validateCustomerId_error {customerId : Option JavaString}
    {exception : JavaException}
    (hcustomer : Reservation.validateCustomerId customerId =
      .error exception) :
    ∃ message, exception = .illegalArgument message := by
  cases customerId with
  | none =>
      cases hcustomer
      exact ⟨_, rfl⟩
  | some text =>
      simp only [Reservation.validateCustomerId] at hcustomer
      split at hcustomer
      next =>
        cases hcustomer
        exact ⟨_, rfl⟩
      next => cases hcustomer

theorem Reservation.validateIdempotencyKey_error
    {idempotencyKey : Option JavaString} {exception : JavaException}
    (hkey : Reservation.validateIdempotencyKey idempotencyKey =
      .error exception) :
    ∃ message, exception = .illegalArgument message := by
  cases idempotencyKey with
  | none => cases hkey
  | some text =>
      simp only [Reservation.validateIdempotencyKey] at hkey
      split at hkey
      next => cases hkey
      next =>
        cases hkey
        exact ⟨_, rfl⟩

/-- A bad request is bad on every table; all other refusals are reported as
not found or as a conflict. -/
theorem Refuses.status {call : Call} {exception : JavaException}
    (hrefuses : Refuses view call exception) :
    ((ApiExceptionHandler.handle exception).status = 400 ∧
        ∀ other, Refuses other call exception) ∨
      (ApiExceptionHandler.handle exception).status = 404 ∨
      (ApiExceptionHandler.handle exception).status = 409 := by
  cases hrefuses with
  | product hnew =>
      obtain ⟨message, rfl⟩ := Product.new_error hnew
      exact Or.inl ⟨rfl, fun other => .product hnew⟩
  | restockQuantity hquantity =>
      exact Or.inl ⟨rfl, fun other => .restockQuantity hquantity⟩
  | reserveQuantity hquantity =>
      exact Or.inl ⟨rfl, fun other => .reserveQuantity hquantity⟩
  | reserveCustomer hquantity hcustomer =>
      obtain ⟨message, rfl⟩ := Reservation.validateCustomerId_error hcustomer
      exact Or.inl ⟨rfl, fun other => .reserveCustomer hquantity hcustomer⟩
  | reserveKey hquantity hcustomer hkey =>
      obtain ⟨message, rfl⟩ := Reservation.validateIdempotencyKey_error hkey
      exact Or.inl ⟨rfl, fun other => .reserveKey hquantity hcustomer hkey⟩
  | listCustomer hcustomer =>
      obtain ⟨message, rfl⟩ := Reservation.validateCustomerId_error hcustomer
      exact Or.inl ⟨rfl, fun other => .listCustomer hcustomer⟩
  | readCustomer hcustomer =>
      obtain ⟨message, rfl⟩ := Reservation.validateCustomerId_error hcustomer
      exact Or.inl ⟨rfl, fun other => .readCustomer hcustomer⟩
  | cancelCustomer hcustomer =>
      obtain ⟨message, rfl⟩ := Reservation.validateCustomerId_error hcustomer
      exact Or.inl ⟨rfl, fun other => .cancelCustomer hcustomer⟩
  | noProduct | restockProduct | reserveProduct | noReservation
  | cancelNone =>
      exact Or.inr (Or.inl rfl)
  | _ => exact Or.inr (Or.inr rfl)

/-- What the tables refuse although the service does not: a cancellation
before the creation. -/
def Call.Backdated (view : Database) : Call → Prop
  | .cancelReservation now id _ => ∃ reservation ∈ view.reservations,
      reservation.id = id ∧ now.truncatedToMicros.epochNanos <
        reservation.createdAt.epochNanos
  | _ => False

theorem Refuses.backdated {call : Call}
    (hrefuses : Refuses view call .dataIntegrityViolation) :
    call.Backdated view := by
  cases hrefuses with
  | product hnew =>
      obtain ⟨message, hsame⟩ := Product.new_error hnew
      cases hsame
  | reserveCustomer hquantity hcustomer =>
      obtain ⟨message, hsame⟩ := Reservation.validateCustomerId_error hcustomer
      cases hsame
  | listCustomer hcustomer | readCustomer hcustomer
  | cancelCustomer hcustomer =>
      obtain ⟨message, hsame⟩ := Reservation.validateCustomerId_error hcustomer
      cases hsame
  | reserveKey hquantity hcustomer hkey =>
      obtain ⟨message, hsame⟩ := Reservation.validateIdempotencyKey_error hkey
      cases hsame
  | cancelClock hcustomer hfind hactive hproduct hroom hclock =>
      obtain ⟨hmem, hid, -⟩ := Database.findByIdAndCustomerId_some hfind
      exact ⟨_, hmem, hid, hclock⟩

end

/-! ## Refusals in runs -/

/-- The call failed for a reason, which its status tells and which lies with
the request alone if it is a bad one, or it committed when there was none. -/
def Outcome.JustifiedOn (db : Database) (call : Call) : Outcome → Prop
  | .committed calls _ =>
      (∃ returned session, calls = [⟨call, returned, session⟩]) ∧
        ∀ exception, ¬ Refuses db call exception
  | .failed exception => Refuses db call exception ∧
      (exception = .dataIntegrityViolation → call.Backdated db) ∧
      (((ApiExceptionHandler.handle exception).status = 400 ∧
          ∀ other, Refuses other call exception) ∨
        (ApiExceptionHandler.handle exception).status = 404 ∨
        (ApiExceptionHandler.handle exception).status = 409)
  | .aborted _ => True

theorem Outcome.justifiedOn_of_matches {db : Database} (hwell : db.WellFormed)
    {call : Call} (hfresh : call.Unused db) (hsendable : call.Sendable)
    {outcome : Outcome} (hmatches : outcome.Matches call (call.resultOn db)) :
    outcome.JustifiedOn db call := by
  cases outcome with
  | committed calls acknowledged =>
      obtain ⟨returned, session, hresult, hcalls⟩ := hmatches
      refine ⟨⟨returned, session, hcalls⟩, fun exception hrefuses => ?_⟩
      have herror := hrefuses.resultOn hwell hfresh
      rw [hresult] at herror
      cases herror
  | failed exception =>
      obtain ⟨session, hresult⟩ := hmatches
      have hrefuses : Refuses db call exception :=
        (refuses_iff hwell hfresh hsendable).mpr (by rw [hresult])
      refine ⟨hrefuses, fun hrejected => ?_, hrefuses.status⟩
      rw [hrejected] at hrefuses
      exact hrefuses.backdated
  | aborted status => trivial

namespace System

variable {sha256 : List UInt8 → List UInt8} {s s' : System}

/-- A call which ended as it does on the tables of a running moment has its
reasons there. -/
theorem RunningOn.justified {actions : List Action} {t : ℕ} {call : Call}
    {db : Database} {outcome : Outcome} (hreach : Reachable sha256 s)
    (hrunning : s.RunningOn sha256 actions t call db)
    (hsendable : call.Sendable)
    (hmatches : outcome.Matches call (call.resultOn db)) :
    outcome.JustifiedOn db call := by
  obtain ⟨front, back, middle, transaction, -, hfront, hlive, rfl, -, rfl⟩ :=
    hrunning
  have hmiddle : Reachable sha256 middle := hreach.run hfront
  exact Outcome.justifiedOn_of_matches hmiddle.invariant.wellFormed
    (hmiddle.unused_of_live hlive) hsendable hmatches

/-- Every call that a run starts and answers, with a customer id that can be
sent, was refused for a reason which held on the tables of a moment when it was
running, or it committed and on those tables nothing spoke against it. -/
theorem Reachable.refusals_justified {actions : List Action} {t : ℕ}
    {outcome : Outcome} (hreach : Reachable sha256 s) (hnew : t ∉ s.started)
    (hone : ∀ call, Action.next t call ∉ actions)
    (hrun : s.run sha256 actions = some s')
    (hfinished : s'.Finished t outcome) (hanswers : outcome.Answers) :
    ∃ call server, Event.invoked t server call ∈ s'.history ∧
      ∃ db : Database, s.RunningOn sha256 actions t call db ∧
        (call.Sendable → outcome.JustifiedOn db call) := by
  obtain ⟨call, server, hinvoked, db, hrunning, hmatches⟩ :=
    hreach.decided hnew hone hrun hfinished hanswers
  exact ⟨call, server, hinvoked, db, hrunning, fun hsendable =>
    RunningOn.justified hreach hrunning hsendable hmatches⟩

/-- A reservation of nine units of a product that has five. -/
def refusedReservation : List Action :=
  [.begin 1 1 (.reserve ⟨2, ⟨2000⟩⟩ 1 9 (some [99]) none), .exec 1, .fail 1]

theorem refusals_justified_sample :
    ∃ s s' : System, s.run (fun _ => []) refusedReservation = some s' ∧
      ∃ call server, Event.invoked 1 server call ∈ s'.history ∧
        ∃ db : Database,
          s.RunningOn (fun _ => []) refusedReservation 1 call db ∧
            (call.Sendable →
              (Outcome.failed insufficientStock).JustifiedOn db call) := by
  have hrun : ∃ s s', initial.run (fun _ => []) (sampleActions.take 4) =
      some s ∧ s.started = [0] ∧
        s.run (fun _ => []) refusedReservation = some s' ∧
          s'.Finished 1 (.failed insufficientStock) := by
    refine ⟨_, _, rfl, rfl, rfl, 1, ?_⟩
    exact List.mem_append_right _ (List.mem_singleton_self _)
  obtain ⟨s, s', hbefore, hstarted, hafter, hfinished⟩ := hrun
  have hreach : Reachable (fun _ => []) s := ⟨_, hbefore⟩
  have hnew : 1 ∉ s.started := by
    rw [hstarted]
    decide
  have hone : ∀ call, Action.next 1 call ∉ refusedReservation := by
    simp [refusedReservation]
  exact ⟨s, s', hafter,
    hreach.refusals_justified hnew hone hafter hfinished trivial⟩

end System

end InventoryCloud
