import InventoryCloud.GuardedCalls
import InventoryCloud.PersistenceContexts
import InventoryCloud.StockLedger

/-!
# Calls on managed entities

What a call does when the entities its locking queries return may be behind
the rows they lock.  Only what `forProduct` and `forReservation` read off an
entity is taken to be up to date; with constant functions nothing is.
-/

namespace InventoryCloud

open Interaction
open InventoryService
open Locking

section

variable (forProduct : Product → ℤ) (forReservation : Reservation → ℤ)

/-- The entity of the row counts as the row does. -/
def Product.CountsAs (row product : Product) : Prop :=
  product.id = row.id ∧ forProduct row = forProduct product

def Reservation.CountsAs (row reservation : Reservation) : Prop :=
  reservation.id = row.id ∧ forReservation row = forReservation reservation

/-- An answer for which the entity of a locked row counts as the row does. -/
def Statement.Fits (view : Database) :
    (statement : Statement) → statement.Answer → Prop
  | .findProductByIdForUpdate id, found =>
      Option.Rel (Product.CountsAs forProduct) (view.findProduct id) found
  | .findOwnedForUpdate id customerId, found =>
      Option.Rel (Reservation.CountsAs forReservation)
        (view.findByIdAndCustomerId id customerId) found
  | .execute write, accepted => accepted = view.accepts write
  | .referenceProduct id, referenced =>
      referenced = (view.findProduct id).isSome
  | _, _ => True

/-- The ways a call returns normally when its last statements run on the view
and its entities need not be copies of the rows. -/
inductive Returns (view : Database) : Call → Returned → Session → Prop where
  | created {fresh sku name initialQuantity product}
      (hnew : Product.new fresh sku name initialQuantity = .ok product)
      (haccept : view.accepts (.insertProduct product) = true) :
      Returns view (.createProduct fresh sku name initialQuantity)
        (.product product) (createdSession product initialQuantity)
  | listedProducts {request page} :
      Returns view (.listProducts request) (.products page) .empty
  | readProduct {id product} :
      Returns view (.getProduct id) (.product product) .empty
  | restocked {id quantity row product}
      (hquantity : PositiveQuantity quantity)
      (hfind : view.findProduct id = some row)
      (hcounts : Product.CountsAs forProduct row product)
      (haccept : view.accepts
        (.updateProduct (product.restocked quantity)) = true) :
      Returns view (.addStock id quantity)
        (.product (product.restocked quantity))
        (restockedSession (product.restocked quantity) quantity)
  | reserved {fresh productId quantity customerId idempotencyKey customer row
      product}
      (hquantity : PositiveQuantity quantity)
      (hfind : view.findProduct productId = some row)
      (hcounts : Product.CountsAs forProduct row product)
      (hinsert : view.accepts (.insertReservation
        (Reservation.created fresh product.id quantity customer
          idempotencyKey)) = true)
      (hupdate : view.accepts
        (.updateProduct (product.deducted quantity)) = true) :
      Returns view
        (.reserve fresh productId quantity customerId idempotencyKey)
        (.reservationResult (Reservation.created fresh product.id quantity
          customer idempotencyKey) false)
        (reservedSession (product.deducted quantity)
          (Reservation.created fresh product.id quantity customer
            idempotencyKey) quantity)
  | replayed {fresh productId quantity customerId idempotencyKey reservation} :
      Returns view
        (.reserve fresh productId quantity customerId idempotencyKey)
        (.reservationResult reservation true)
        (countedSession .reservationReplayed)
  | listedReservations {customerId request page} :
      Returns view (.listReservations customerId request)
        (.reservations page) .empty
  | readReservation {id customerId reservation} :
      Returns view (.getReservation id customerId) (.reservation reservation)
        .empty
  | cancelled {now id customerId row reservation stock product}
      (hfind : view.findReservation id = some row)
      (hcounts : Reservation.CountsAs forReservation row reservation)
      (hactive : reservation.status = .active)
      (hproduct : view.findProduct reservation.productId = some stock)
      (hstock : Product.CountsAs forProduct stock product)
      (hquantity : PositiveQuantity reservation.quantity)
      (hproductUpdate : view.accepts (.updateProduct
        (product.restocked reservation.quantity)) = true)
      (hupdate : view.accepts (.updateReservation
        (reservation.cancelledBy now)) = true) :
      Returns view (.cancelReservation now id customerId)
        (.reservation (reservation.cancelledBy now))
        (cancelledSession (product.restocked reservation.quantity)
          (reservation.cancelledBy now))
  | cancellationReplayed {now id customerId reservation} :
      Returns view (.cancelReservation now id customerId)
        (.reservation reservation) (countedSession .cancellationReplayed)

/-- What the result of a call amounts to under the locks that it holds. -/
def Call.Yields (sha256 : List UInt8 → List UInt8) (call : Call)
    (held : Set Lock) (view : Database) : Result → Prop
  | (.ok returned, session) =>
      Returns forProduct forReservation view call returned session ∧
        ∀ write ∈ session.writes, Covers sha256 held write
  | (.error _, _) => True

end

/-- The transactions of the service protect each other by their locks only. -/
def contextInterference (sha256 : List UInt8 → List UInt8) :
    Interference Statement Statement.Answer Database Lock Result :=
  { serviceInterference sha256 with
    Rely := Spares sha256
    rely_refl := Spares.refl
    rely_trans := Spares.trans
    rely_anti := Spares.anti }

/-- Whatever fitting answers the program of the call still gets. -/
def Call.Secures (sha256 : List UInt8 → List UInt8)
    (forProduct : Product → ℤ) (forReservation : Reservation → ℤ)
    (call : Call) (held : Set Lock) (view : Database)
    (program : Program Statement Statement.Answer Result) : Prop :=
  (contextInterference sha256).Meets
    (Statement.Fits forProduct forReservation)
    (call.Yields forProduct forReservation sha256) held view program

variable {sha256 : List UInt8 → List UInt8} {forProduct : Product → ℤ}
  {forReservation : Reservation → ℤ} {call : Call} {held : Set Lock}
  {view : Database}

/-! ## Small programs -/

theorem secures_error {exception : JavaException} {session : Session} :
    call.Secures sha256 forProduct forReservation held view
      (.pure (.error exception, session)) :=
  fun _ _ _ => trivial

theorem secures_quiet {returned : Returned} {session : Session}
    (hquiet : session.writes = [])
    (hreturns : ∀ later : Database,
      Returns forProduct forReservation later call returned session) :
    call.Secures sha256 forProduct forReservation held view
      (.pure (.ok returned, session)) := by
  intro later hlater hspares
  refine ⟨hreturns later, fun write hwrite => ?_⟩
  rw [hquiet] at hwrite
  cases hwrite

/-- A query of which only the fitting answers matter. -/
theorem secures_ask {statement : Statement}
    {next : statement.Answer → Program Statement Statement.Answer Result}
    (hnext : ∀ later answer, Spares sha256 held view later →
      later.WellFormed →
        statement.Fits forProduct forReservation later answer →
          call.Secures sha256 forProduct forReservation
            (held ∪ statement.takes sha256 later) later (next answer)) :
    call.Secures sha256 forProduct forReservation held view
      (.ask statement next) :=
  fun later hlater hspares answer hfits =>
    hnext later answer hspares hlater hfits

theorem secures_findProductByIdForUpdate {id : UUID}
    {next : Option Product → Program Statement Statement.Answer Result}
    (hnone : ∃ exception session, next none = .pure (.error exception, session))
    (hsome : ∀ row product more later, held ⊆ more →
      Spares sha256 held view later → later.findProduct id = some row →
        Lock.productRow id ∈ more → Product.CountsAs forProduct row product →
          call.Secures sha256 forProduct forReservation more later
            (next (some product))) :
    call.Secures sha256 forProduct forReservation held view
      (.ask (.findProductByIdForUpdate id) next) := by
  refine secures_ask fun later found hspares hlater hfits => ?_
  have hrel : Option.Rel (Product.CountsAs forProduct) (later.findProduct id)
      found := hfits
  cases hfind : later.findProduct id with
  | none =>
      rw [hfind] at hrel
      cases hrel
      obtain ⟨exception, session, hend⟩ := hnone
      rw [hend]
      exact secures_error
  | some row =>
      rw [hfind] at hrel
      cases hrel with
      | some hcounts =>
          exact hsome row _ _ later Set.subset_union_left hspares hfind
            (Or.inr (productRow_mem_takes hfind)) hcounts

/-! ## Flushes -/

theorem secures_flushing {session : Session} {returned : Returned}
    {writes : List Write} (hkeys : KeysLocked sha256 held writes)
    (hend : ∀ more later, held ⊆ more → later.WellFormed →
      Spares sha256 held view later →
        (∀ write ∈ writes, later.accepts write = true ∧
          Covers sha256 more write) →
          call.Yields forProduct forReservation sha256 more later
            (.ok returned, session)) :
    call.Secures sha256 forProduct forReservation held view
      (session.flushing returned writes) := by
  induction writes generalizing held view with
  | nil =>
      intro later hlater hspares
      exact hend held later subset_rfl hlater hspares (by simp)
  | cons write writes ih =>
      refine secures_ask fun middle accepted hspares hmiddle haccepted => ?_
      cases haccept : middle.accepts write with
      | false =>
          have hanswer : accepted = false := haccepted.trans haccept
          rw [hanswer]
          exact secures_error
      | true =>
          have hanswer : accepted = true := haccepted.trans haccept
          rw [hanswer, if_pos rfl]
          have hcovers := @covers_of_accepts sha256 held middle write haccept
            fun reservation heq => hkeys reservation (heq ▸ List.mem_cons_self)
          -- What is left once the statement is accepted, whatever else the
          -- foreign-key check locks.
          have hrest : ∀ locks now,
              held ∪ (Statement.execute write).takes sha256 middle ⊆ locks →
                Spares sha256
                  (held ∪ (Statement.execute write).takes sha256 middle)
                    middle now →
                  call.Secures sha256 forProduct forReservation locks now
                    (session.flushing returned writes) := by
            intro locks now hlocks hnow
            have hheld := Set.subset_union_left.trans hlocks
            refine ih (fun reservation hmem key hkey => hheld (hkeys
              reservation (List.mem_cons_of_mem _ hmem) key hkey))
              fun more later hmore hlater hafter hall => ?_
            have hsince := hnow.trans (hafter.anti hlocks)
            refine hend more later (hheld.trans hmore) hlater
              (hspares.trans (hsince.anti Set.subset_union_left)) ?_
            intro other hother
            rcases List.mem_cons.mp hother with rfl | htail
            · exact ⟨accepts_of_spares haccept hcovers hsince,
                hcovers.mono (hlocks.trans hmore)⟩
            · exact hall other htail
          cases write with
          | insertReservation reservation =>
              refine secures_ask fun now referenced hnow hnowWell _ => ?_
              cases referenced with
              | false => exact secures_error
              | true => exact hrest _ now Set.subset_union_left hnow
          | _ => exact hrest _ middle subset_rfl (Spares.refl _ middle)

theorem secures_finish {session : Session} {returned : Returned}
    (hkeys : KeysLocked sha256 held session.flushPlan)
    (hflushed : session.flushed = [])
    (hend : ∀ later, later.WellFormed → Spares sha256 held view later →
      (∀ write ∈ session.writes, later.accepts write = true) →
        Returns forProduct forReservation later call returned session) :
    call.Secures sha256 forProduct forReservation held view
      (session.finish returned) := by
  have hwrites : session.writes = session.flushPlan := by
    rw [Session.writes, hflushed, List.nil_append]
  rw [Session.finish_eq]
  refine secures_flushing hkeys fun more later hmore hlater hspares hall => ?_
  rw [← hwrites] at hall
  exact ⟨hend later hlater hspares fun write hwrite => (hall write hwrite).1,
    fun write hwrite => (hall write hwrite).2⟩

/-! ## The calls -/

private theorem secures_createProduct (fresh : Fresh)
    (sku name : Option JavaString) (initialQuantity : Int32) :
    (Call.createProduct fresh sku name initialQuantity).Secures sha256
      forProduct forReservation held view
      (Call.createProduct fresh sku name initialQuantity).program := by
  rw [createProduct_program]
  cases hnew : Product.new fresh sku name initialQuantity with
  | error exception => exact secures_error
  | ok product =>
      refine secures_ask fun first taken hfirst hfirstWell _ => ?_
      cases taken with
      | true => exact secures_error
      | false =>
          refine secures_ask fun middle accepted hmiddle hwell haccepted => ?_
          cases haccept : middle.accepts (.insertProduct product) with
          | false =>
              have hanswer : accepted = false := haccepted.trans haccept
              rw [hanswer]
              exact secures_error
          | true =>
              have hanswer : accepted = true := haccepted.trans haccept
              rw [hanswer]
              intro later hlater hspares
              have hcovers := @covers_of_accepts sha256 (held ∪
                Statement.takes sha256 first (.existsBySku product.sku))
                middle _ haccept (by rintro _ ⟨⟩)
              refine ⟨.created hnew
                (accepts_of_spares haccept hcovers hspares), ?_⟩
              intro write hwrite
              rw [List.mem_singleton.mp hwrite]
              exact hcovers

private theorem secures_addStock (id : UUID) (quantity : Int32) :
    (Call.addStock id quantity).Secures sha256 forProduct forReservation held
      view (Call.addStock id quantity).program := by
  rw [addStock_program]
  by_cases hquantity : PositiveQuantity quantity
  · rw [if_pos hquantity]
    refine secures_findProductByIdForUpdate ⟨_, _, rfl⟩
      fun row product more middle hmore hmiddle hfind hlock hcounts => ?_
    simp only [Product.addStock_call, if_pos hquantity]
    by_cases hcap : maxQuantity - product.availableQuantity < quantity
    · simp only [if_pos hcap]
      exact secures_error
    · simp only [if_neg hcap]
      refine secures_finish ?_ rfl fun later hlater hspares haccepts => ?_
      · intro reservation hmem
        simp [Session.flushPlan, restockedSession, Session.isInsert] at hmem
      · exact .restocked hquantity (hspares.productRow hlock hfind) hcounts
          (haccepts _ (by simp [Product.restocked]))
  · rw [if_neg hquantity]
    exact secures_error

private theorem secures_reserveNew {fresh : Fresh} {productId : UUID}
    {quantity : Int32} {customerId idempotencyKey : Option JavaString}
    {customer : JavaString} (hquantity : PositiveQuantity quantity)
    (hcustomer : Reservation.validateCustomerId customerId = .ok customer)
    (hvalid : Reservation.validateIdempotencyKey idempotencyKey = .ok ())
    (hadvisory : ∀ key, idempotencyKey = some key →
      Lock.advisory (ReservationKeyLock.lockId sha256 customer key) ∈ held) :
    (Call.reserve fresh productId quantity customerId idempotencyKey).Secures
      sha256 forProduct forReservation held view
      (reserveNewProgram fresh productId quantity customerId
        idempotencyKey) := by
  refine secures_findProductByIdForUpdate ⟨_, _, rfl⟩
    fun row product more middle hmore hmiddle hfind hlock hcounts => ?_
  simp only [Reservation.new_call hcustomer hvalid, Product.reserveStock_call,
    if_pos hquantity]
  by_cases hstock : product.availableQuantity < quantity
  · simp only [if_pos hstock]
    exact secures_error
  · simp only [if_neg hstock]
    refine secures_finish ?_ rfl fun later hlater hspares haccepts => ?_
    · intro reservation hmem key hkey
      simp only [Session.flushPlan, reservedSession, Session.isInsert,
        List.filter_cons, List.filter_nil, Bool.not_false, Bool.not_true,
        if_true, Bool.false_eq_true, if_false, List.cons_append,
        List.nil_append, List.mem_cons, Write.insertReservation.injEq,
        reduceCtorEq, List.not_mem_nil, or_false] at hmem
      subst hmem
      exact hmore (hadvisory key hkey)
    · exact .reserved hquantity (hspares.productRow hlock hfind) hcounts
        (haccepts _ (by simp)) (haccepts _ (by simp [Product.deducted]))

private theorem secures_reserve (fresh : Fresh) (productId : UUID)
    (quantity : Int32) (customerId idempotencyKey : Option JavaString) :
    (Call.reserve fresh productId quantity customerId idempotencyKey).Secures
      sha256 forProduct forReservation held view
      (Call.reserve fresh productId quantity customerId
        idempotencyKey).program := by
  rw [reserve_program]
  by_cases hquantity : PositiveQuantity quantity
  · rw [if_pos hquantity]
    cases hcustomer : Reservation.validateCustomerId customerId with
    | error exception => exact secures_error
    | ok customer =>
        cases hvalid : Reservation.validateIdempotencyKey idempotencyKey with
        | error exception => exact secures_error
        | ok _ =>
            cases idempotencyKey with
            | none =>
                exact secures_reserveNew hquantity hcustomer hvalid
                  (by rintro _ ⟨⟩)
            | some key =>
                refine secures_ask fun first _ hfirst hfirstWell _ => ?_
                refine secures_ask fun second existing hsecond hwell _ => ?_
                cases existing with
                | none =>
                    refine secures_reserveNew hquantity hcustomer hvalid ?_
                    rintro other ⟨⟩
                    exact Or.inl (Or.inr (advisory_mem_takes customer key))
                | some reservation =>
                    dsimp only
                    split
                    next hmismatch => exact secures_error
                    next hmatch =>
                      exact secures_quiet rfl fun later => .replayed
  · rw [if_neg hquantity]
    exact secures_error

private theorem secures_cancelReservation (now : Instant) (id : UUID)
    (customerId : Option JavaString) :
    (Call.cancelReservation now id customerId).Secures sha256 forProduct
      forReservation held view
      (Call.cancelReservation now id customerId).program := by
  rw [cancelReservation_program]
  cases Reservation.validateCustomerId customerId with
  | error exception => exact secures_error
  | ok customer =>
      refine secures_ask fun first found hfirst hfirstWell hfits => ?_
      have hrel : Option.Rel (Reservation.CountsAs forReservation)
          (first.findByIdAndCustomerId id customer) found := hfits
      cases hfind : first.findByIdAndCustomerId id customer with
      | none =>
          rw [hfind] at hrel
          cases hrel
          exact secures_error
      | some row =>
          rw [hfind] at hrel
          have hlock := @reservationRow_mem_takes sha256 first id customer row
            hfind
          have hrow : first.findReservation id = some row := by
            rw [hfirstWell.findByIdAndCustomerId_eq,
              Option.filter_eq_some_iff] at hfind
            exact hfind.1
          cases hrel with
          | @some _ reservation hcounts =>
          dsimp only
          split
          next hactive =>
            refine secures_findProductByIdForUpdate ⟨_, _, rfl⟩
              fun stock product more middle hmore hmiddle hproduct hstockLock
                hstock => ?_
            simp only [Reservation.cancel_call, hactive,
              Product.addStock_call, reduceCtorEq, if_false]
            by_cases hquantity : PositiveQuantity reservation.quantity
            · by_cases hcap : maxQuantity - product.availableQuantity <
                  reservation.quantity
              · simp only [if_pos hquantity, if_pos hcap]
                exact secures_error
              · simp only [if_pos hquantity, if_neg hcap]
                refine secures_finish ?_ rfl
                  fun later hlater hspares haccepts => ?_
                · intro other hmem
                  simp [Session.flushPlan, cancelledSession,
                    Session.isInsert] at hmem
                · have hsince := hmiddle.trans (hspares.anti hmore)
                  exact .cancelled (hsince.reservationRow (Or.inr hlock) hrow)
                    hcounts hactive (hspares.productRow hstockLock hproduct)
                    hstock hquantity
                    (haccepts _ (by simp [Product.restocked]))
                    (haccepts _ (by simp [Reservation.cancelledBy]))
            · simp only [if_neg hquantity]
              exact secures_error
          next hcancelled =>
            refine secures_ask fun second loaded hsecond hwell _ => ?_
            cases loaded with
            | none => exact secures_error
            | some product =>
                exact secures_quiet rfl fun later => .cancellationReplayed

/-- Whatever fitting answers a call gets, it returns as listed. -/
theorem secures_program (call : Call) :
    call.Secures sha256 forProduct forReservation held view call.program := by
  cases call with
  | createProduct fresh sku name initialQuantity =>
      exact secures_createProduct fresh sku name initialQuantity
  | listProducts request =>
      exact secures_ask fun later page hspares hlater _ =>
        secures_quiet rfl fun _ => .listedProducts
  | getProduct id =>
      rw [getProduct_program]
      refine secures_ask fun later found hspares hlater _ => ?_
      cases found with
      | none => exact secures_error
      | some product => exact secures_quiet rfl fun _ => .readProduct
  | addStock id quantity => exact secures_addStock id quantity
  | reserve fresh productId quantity customerId idempotencyKey =>
      exact secures_reserve fresh productId quantity customerId idempotencyKey
  | listReservations customerId request =>
      rw [listReservations_program]
      cases Reservation.validateCustomerId customerId with
      | error exception => exact secures_error
      | ok customer =>
          exact secures_ask fun later page hspares hlater _ =>
            secures_quiet rfl fun _ => .listedReservations
  | getReservation id customerId =>
      rw [getReservation_program]
      cases Reservation.validateCustomerId customerId with
      | error exception => exact secures_error
      | ok customer =>
          refine secures_ask fun later found hspares hlater _ => ?_
          cases found with
          | none => exact secures_error
          | some reservation => exact secures_quiet rfl fun _ => .readReservation
  | cancelReservation now id customerId =>
      exact secures_cancelReservation now id customerId

end InventoryCloud
