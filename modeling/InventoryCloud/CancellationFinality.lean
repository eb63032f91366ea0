import InventoryCloud.RunHistory
import InventoryCloud.StockLedger

/-!
# Cancellation happens at most once

A cancelled reservation was moved by exactly one committed call, which gave
its units back to its own product.  Every other cancellation of it reads the
same row, and a cancellation that throws changes nothing and can be repeated.
-/

namespace InventoryCloud

open InventoryService
open Interaction

/-- The call cancelled the reservation itself. -/
def Completed.cancels (id : UUID) (completed : Completed) : Bool :=
  match completed.call with
  | .cancelReservation _ other _ =>
      other = id && !completed.session.writes.isEmpty
  | _ => false

/-- The two rows that change when the reservation is cancelled. -/
structure CancelledBetween (reservation : Reservation)
    (before after : Database) : Prop where
  wasActive : before.findReservation reservation.id =
    some { reservation with status := .active, cancelledAt := none }
  isCancelled : after.findReservation reservation.id = some reservation
  restored : ∃ product later,
    before.findProduct reservation.productId = some product ∧
      after.findProduct reservation.productId = some later ∧
        later = { product with
          availableQuantity := later.availableQuantity } ∧
        later.availableQuantity.toInt =
          product.availableQuantity.toInt + reservation.quantity.toInt
  otherReservations : ∀ id, id ≠ reservation.id →
    after.findReservation id = before.findReservation id
  otherProducts : ∀ id, id ≠ reservation.productId →
    after.findProduct id = before.findProduct id

theorem Database.WellFormed.cancellationConsistent {db : Database}
    (hwell : db.WellFormed) {reservation : Reservation}
    (hmem : reservation ∈ db.reservations) :
    reservation.cancellationConsistent = true := by
  have hrow := hwell.reservationRows reservation hmem
  simp only [Reservation.storable, Bool.and_eq_true] at hrow
  exact hrow.1.2

theorem Reservation.cancelledAt_eq_none_iff {reservation : Reservation}
    (hconsistent : reservation.cancellationConsistent = true) :
    reservation.cancelledAt = none ↔ reservation.status = .active := by
  obtain ⟨id, productId, quantity, customerId, key, status, createdAt,
    cancelledAt⟩ := reservation
  cases status <;> cases cancelledAt <;>
    simp [Reservation.cancellationConsistent] at hconsistent ⊢

open Database in
/-- A call that wrote cancelled the reservation it returns. -/
theorem Performs.cancelledBetween {view : Database} {now : Instant} {id : UUID}
    {customerId : Option JavaString} {returned : Returned} {session : Session}
    (hwell : view.WellFormed)
    (hperforms : Performs view (.cancelReservation now id customerId) returned
      session) (hwrites : session.writes ≠ []) :
    ∃ reservation, reservation.id = id ∧ returned = .reservation reservation ∧
      CancelledBetween reservation view (view.applyAll session.writes) := by
  cases hperforms with
  | cancellationReplayed hcustomer hfind hcancelled => exact absurd rfl hwrites
  | @cancelled _ _ _ _ reservation product hcustomer hfind hactive hproduct
      hquantity hfits hproductUpdate hupdate =>
      obtain ⟨hmem, hid, -⟩ := findByIdAndCustomerId_some hfind
      have hrow := hwell.findReservation_of_mem hmem
      have hopen := (Reservation.cancelledAt_eq_none_iff
        (hwell.cancellationConsistent hmem)).mpr hactive
      have hproductId := findProduct_id hproduct
      have hrange := hwell.stockInRange (findProduct_mem hproduct)
      have hown : view.findProduct
          (product.restocked reservation.quantity).id = some product := by
        rwa [Product.restocked_id, hproductId]
      have hproducts : ∀ other, (view.applyAll
          [.updateProduct (product.restocked reservation.quantity),
            .updateReservation (reservation.cancelledBy now)]).findProduct
              other =
            if other = product.id then
              some (product.restocked reservation.quantity)
            else view.findProduct other := by
        intro other
        simp only [applyAll_cons, applyAll_nil,
          findProduct_updateReservation, findProduct_updateProduct]
        exact findProduct_versions hown rfl other
      have hreservations : ∀ other, (view.applyAll
          [.updateProduct (product.restocked reservation.quantity),
            .updateReservation (reservation.cancelledBy now)]).findReservation
              other =
            if other = reservation.id then some (reservation.cancelledBy now)
            else view.findReservation other := by
        intro other
        simp only [applyAll_cons, applyAll_nil,
          findReservation_updateReservation, findReservation_updateProduct]
        exact @findReservation_versions view reservation
          (reservation.cancelledBy now) hrow
          (Reservation.cancelledBy_movesTo hactive now) other
      refine ⟨reservation.cancelledBy now, hid, rfl, ?_⟩
      rw [cancelledSession_writes]
      constructor
      · rw [Reservation.cancelledBy_id, hrow]
        obtain ⟨_, _, _, _, _, status, _, cancelledAt⟩ := reservation
        dsimp only at hactive hopen
        subst hactive hopen
        rfl
      · rw [hreservations, if_pos (Reservation.cancelledBy_id _ _)]
      · refine ⟨product, product.restocked reservation.quantity, hproduct, ?_,
          rfl, toInt_addStock hrange hquantity⟩
        rw [hproducts]
        exact if_pos hproductId.symm
      · intro other hother
        rw [hreservations]
        exact if_neg hother
      · intro other hother
        rw [hproducts]
        exact if_neg fun heq => hother (heq.trans hproductId)

/-! ## Counting cancellations -/

private theorem cancels_follows (id : UUID) :
    Follows (fun _ => 0)
      (fun reservation =>
        if reservation.id = id ∧ reservation.status = .cancelled then 1 else 0)
      (fun completed => if completed.cancels id then 1 else 0) where
  created _ := rfl
  restocked _ _ := rfl
  reserved _ _ _ := by simp [Completed.cancels, Reservation.created]
  cancelled {_ _ reservation _} _ _ hactive _ := by
    by_cases hid : reservation.id = id <;>
      simp [Completed.cancels, Reservation.cancelledBy, hactive, hid]
  quiet hquiet hperforms := by
    cases hperforms with
    | cancellationReplayed => simp [Completed.cancels]
    | _ => first | rfl | cases hquiet

variable {sha256 : List UInt8 → List UInt8}

theorem System.Reachable.length_cancels {s : System}
    (hreach : Reachable sha256 s) {reservation : Reservation}
    (hmem : reservation ∈ s.db.reservations) :
    ((s.durable.filter (·.cancels reservation.id)).length : ℤ) =
      if reservation.status = .cancelled then 1 else 0 := by
  have hids := hreach.invariant.wellFormed.reservationIds
  have hledger := (cancels_follows reservation.id).ledger hreach
  have hone := Rows.sum_map_single hids hmem fun row =>
    if row.status = .cancelled then (1 : ℤ) else 0
  simp only [← ite_and] at hone
  rw [Rows.length_filter, ← hledger, ← hone]
  simp [Database.total]

/-- A cancelled reservation never changes again. -/
theorem Database.Evolves.cancelled_stays {before after : Database}
    (hevolves : before.Evolves after) {id : UUID} {reservation : Reservation}
    (hfind : before.findReservation id = some reservation)
    (hcancelled : reservation.status = .cancelled) :
    after.findReservation id = some reservation := by
  obtain ⟨later, hlater, rfl | ⟨hactive, -⟩⟩ := hevolves.reservation hfind
  · exact hlater
  · rw [hcancelled] at hactive
    cases hactive

/-! ## A cancellation with room succeeds -/

theorem Database.WellFormed.admits_stock {db : Database}
    (hwell : db.WellFormed) {product entity : Product}
    (hfind : db.findProduct entity.id = some product)
    (hrestocks : product.RestocksTo entity) (hrange : StockInRange entity) :
    db.admits (.updateProduct entity) = true := by
  have hrow := hwell.productRows product (findProduct_mem hfind)
  have hversion : product.updatedBy entity = entity := by
    rw [hrestocks]
    rfl
  simp only [Product.storable, Bool.and_eq_true, decide_eq_true_eq] at hrow
  simp only [admits, accepts, hfind, Option.any_some, hversion,
    Product.storable, Bool.and_eq_true, decide_eq_true_eq, and_true]
  refine ⟨?_, hrange⟩
  rw [hrestocks]
  exact hrow.1

theorem Database.WellFormed.admits_cancel {db : Database}
    (hwell : db.WellFormed) {reservation : Reservation}
    (hmem : reservation ∈ db.reservations) (now : Instant) :
    db.admits (.updateReservation (reservation.cancelledBy now)) =
      decide (reservation.createdAt.epochNanos ≤
        now.truncatedToMicros.epochNanos) := by
  have hrow := hwell.reservationRows reservation hmem
  have hfind := hwell.findReservation_of_mem hmem
  have hversion : reservation.updatedBy (reservation.cancelledBy now) =
      reservation.cancelledBy now := rfl
  have hconsistent : (reservation.cancelledBy now).cancellationConsistent =
      decide (reservation.createdAt.epochNanos ≤
        now.truncatedToMicros.epochNanos) := rfl
  simp only [Reservation.storable, Bool.and_eq_true] at hrow
  obtain ⟨⟨hcolumns, -⟩, hkey⟩ := hrow
  rw [Bool.eq_iff_iff]
  simp only [admits, accepts, Reservation.cancelledBy_id, hfind,
    Option.any_some, hversion, Reservation.storable, hconsistent,
    Bool.and_eq_true, and_true]
  constructor
  · intro hadmits
    exact hadmits.1.2
  · intro hclock
    exact ⟨⟨hcolumns, hclock⟩, hkey⟩

/-- With room for the units only the order of the two clock readings decides
about the owner's cancellation. -/
theorem cancelReservation_resultOn {db : Database} (hwell : db.WellFormed)
    {reservation : Reservation} (hmem : reservation ∈ db.reservations)
    (hactive : reservation.status = .active)
    {customerId : Option JavaString}
    (hcustomer : Reservation.validateCustomerId customerId =
      .ok reservation.customerId) {product : Product}
    (hproduct : db.findProduct reservation.productId = some product)
    (hroom : product.availableQuantity.toInt + reservation.quantity.toInt ≤
      1000000) (now : Instant) :
    (Call.cancelReservation now reservation.id customerId).resultOn db =
      if reservation.createdAt.epochNanos ≤
          now.truncatedToMicros.epochNanos then
        (.ok (.reservation (reservation.cancelledBy now)),
          cancelledSession (product.restocked reservation.quantity)
            (reservation.cancelledBy now))
      else (.error .dataIntegrityViolation,
        cancelledSession (product.restocked reservation.quantity)
          (reservation.cancelledBy now)) := by
  have hquantity := hwell.positiveQuantity hmem
  have hrange := hwell.stockInRange (Database.findProduct_mem hproduct)
  have hfits := (addStock_fits_iff hrange).mpr hroom
  have hsum := toInt_addStock hrange hquantity
  have hfind : db.findByIdAndCustomerId reservation.id
      reservation.customerId = some reservation := by
    rw [hwell.findByIdAndCustomerId_eq, hwell.findReservation_of_mem hmem]
    simp [Option.filter]
  have hstored : StockInRange (product.restocked reservation.quantity) := by
    obtain ⟨hlow, -⟩ := hrange
    obtain ⟨hone, -⟩ := hquantity
    constructor <;> rw [Product.restocked, hsum] <;> omega
  have hown : db.findProduct (product.restocked reservation.quantity).id =
      some product := by
    rwa [Product.restocked_id, Database.findProduct_id hproduct]
  have hfirst := hwell.admits_stock hown rfl hstored
  have hplan : (cancelledSession (product.restocked reservation.quantity)
      (reservation.cancelledBy now)).flushPlan.all db.admits =
        decide (reservation.createdAt.epochNanos ≤
          now.truncatedToMicros.epochNanos) := by
    simp [Session.flushPlan, cancelledSession, Session.isInsert, hfirst,
      hwell.admits_cancel hmem now]
  have hfinish := Session.eval_finish db
    (cancelledSession (product.restocked reservation.quantity)
      (reservation.cancelledBy now))
    (.reservation (reservation.cancelledBy now))
  simp only [hplan, decide_eq_true_eq] at hfinish
  rw [Call.resultOn, cancelReservation_program]
  simp only [hcustomer, Program.eval_ask, Statement.answer, hfind,
    hactive, if_true, hproduct, Reservation.cancel_call, reduceCtorEq,
    if_false, Product.addStock_call, if_pos hquantity, if_neg hfits]
  exact hfinish

/-- With room for the units the owner's cancellation goes through. -/
theorem cancelReservation_succeeds {db : Database} (hwell : db.WellFormed)
    {reservation : Reservation} (hmem : reservation ∈ db.reservations)
    (hactive : reservation.status = .active)
    {customerId : Option JavaString}
    (hcustomer : Reservation.validateCustomerId customerId =
      .ok reservation.customerId) {product : Product}
    (hproduct : db.findProduct reservation.productId = some product)
    (hroom : product.availableQuantity.toInt + reservation.quantity.toInt ≤
      1000000) {now : Instant}
    (hclock : reservation.createdAt.epochNanos ≤
      now.truncatedToMicros.epochNanos) :
    (Call.cancelReservation now reservation.id customerId).resultOn db =
      (.ok (.reservation (reservation.cancelledBy now)),
        cancelledSession (product.restocked reservation.quantity)
          (reservation.cancelledBy now)) := by
  rw [cancelReservation_resultOn hwell hmem hactive hcustomer hproduct hroom,
    if_pos hclock]

theorem Reservation.cancel_error_unchanged {now : Instant}
    {reservation : Reservation} {product : Product}
    {exception : JavaException} {objects : Reservation × Product}
    (hcancel : (Reservation.cancel now).call (reservation, product) =
      (.error exception, objects)) : objects = (reservation, product) := by
  rw [Reservation.cancel_call, Product.addStock_call] at hcancel
  split at hcancel
  next => cases hcancel
  next =>
    by_cases hquantity : PositiveQuantity reservation.quantity
    · by_cases hcap : maxQuantity - product.availableQuantity <
          reservation.quantity
      · simp only [if_pos hquantity, if_pos hcap] at hcancel
        exact (Prod.mk.inj hcancel).2.symm
      · simp only [if_pos hquantity, if_neg hcap] at hcancel
        cases hcancel
    · simp only [if_neg hquantity] at hcancel
      exact (Prod.mk.inj hcancel).2.symm

/-! ## Cancellations of a reachable state -/

namespace System

variable {s : System}

theorem Reachable.cancelled_once (hreach : Reachable sha256 s)
    {reservation : Reservation} (hmem : reservation ∈ s.db.reservations)
    (hcancelled : reservation.status = .cancelled) :
    ∃ (before after : List Completed) (completed : Completed),
      s.durable = before ++ completed :: after ∧
        s.durable.filter (·.cancels reservation.id) = [completed] ∧
        CancelledBetween reservation
          (Database.empty.applyAll (writesOf before))
          (Database.empty.applyAll (writesOf (before ++ [completed]))) := by
  have hcount := hreach.length_cancels hmem
  rw [if_pos hcancelled] at hcount
  obtain ⟨completed, hone⟩ :=
    List.length_eq_one_iff.mp (Int.ofNat_inj.mp hcount)
  have hfiltered : completed ∈ s.durable.filter
      (·.cancels reservation.id) := by
    rw [hone]
    exact List.mem_singleton_self completed
  obtain ⟨hdurable, hcancels⟩ := List.mem_filter.mp hfiltered
  obtain ⟨before, after, hsplit, hwell, hhappens, hevolves⟩ :=
    hreach.split hdurable
  refine ⟨before, after, completed, hsplit, hone, ?_⟩
  obtain ⟨call, returned, session⟩ := completed
  cases call with
  | cancelReservation now id customerId =>
      simp only [Completed.cancels, Bool.and_eq_true, decide_eq_true_eq,
        Bool.not_eq_true', List.isEmpty_eq_false_iff] at hcancels
      obtain ⟨rfl, hwrites⟩ := hcancels
      rcases hhappens with hperforms | ⟨hquiet, -⟩
      · obtain ⟨changed, hid, hreturned, hbetween⟩ :=
          hperforms.cancelledBetween hwell hwrites
        have hafter : Database.empty.applyAll (writesOf (before ++
            [⟨.cancelReservation now reservation.id customerId, returned,
              session⟩])) = (Database.empty.applyAll
                (writesOf before)).applyAll session.writes := by
          rw [writesOf_append, Database.applyAll_append, writesOf_cons,
            writesOf_nil, List.append_nil]
        rw [hafter] at hevolves ⊢
        have hsame : changed = reservation := by
          have hstatus : changed.status = .cancelled := by
            cases hperforms with
            | cancelled => cases hreturned; rfl
            | cancellationReplayed => exact absurd rfl hwrites
          have hstays := hevolves.cancelled_stays hbetween.isCancelled hstatus
          rw [hid, hreach.invariant.wellFormed.findReservation_of_mem hmem,
            Option.some.injEq] at hstays
          exact hstays.symm
        exact hsame ▸ hbetween
      · exact absurd hquiet hwrites
  | _ => cases hcancels

/-- Every committed cancellation returns the row as it is stored. -/
theorem Reachable.cancel_returns_row (hreach : Reachable sha256 s)
    {completed : Completed} (hmem : completed ∈ s.durable) {now : Instant}
    {id : UUID} {customerId : Option JavaString}
    (hcall : completed.call = .cancelReservation now id customerId) :
    ∃ reservation ∈ s.db.reservations, reservation.id = id ∧
      reservation.status = .cancelled ∧
        completed.returned = .reservation reservation ∧
          (completed.cancels id = false → completed.session.writes = []) := by
  obtain ⟨before, after, hsplit, hwell, hhappens, hevolves⟩ :=
    hreach.split hmem
  obtain ⟨call, returned, session⟩ := completed
  dsimp only at hcall
  subst hcall
  have hafter : Database.empty.applyAll (writesOf (before ++
      [⟨.cancelReservation now id customerId, returned, session⟩])) =
        (Database.empty.applyAll (writesOf before)).applyAll
          session.writes := by
    rw [writesOf_append, Database.applyAll_append, writesOf_cons,
      writesOf_nil, List.append_nil]
  rw [hafter] at hevolves
  have hquietly : Completed.cancels id
      ⟨.cancelReservation now id customerId, returned, session⟩ = false →
        session.writes = [] := by
    intro hnot
    simpa [Completed.cancels] using hnot
  -- The row a replay has read was cancelled already and never changed.
  have hreplayed : ∀ moment : Database, moment.WellFormed →
      moment.Evolves s.db → session.writes = [] →
        Performs moment (.cancelReservation now id customerId) returned
          session → ∃ reservation ∈ s.db.reservations, reservation.id = id ∧
            reservation.status = .cancelled ∧
              returned = .reservation reservation := by
    intro moment hmoment hpast hquiet hperforms
    cases hperforms with
    | cancelled => cases hquiet
    | @cancellationReplayed _ _ _ _ reservation hcustomer hfind hnot =>
        obtain ⟨hrow, hid, -⟩ := Database.findByIdAndCustomerId_some hfind
        have hstatus : reservation.status = .cancelled := by
          cases hcase : reservation.status with
          | active => exact absurd hcase hnot
          | cancelled => rfl
        have hstays := hpast.cancelled_stays
          (hmoment.findReservation_of_mem hrow) hstatus
        exact ⟨reservation, Database.findReservation_mem hstays, hid,
          hstatus, rfl⟩
  rcases hhappens with hperforms | ⟨hquiet, moment, hmoment, hpast, hthen⟩
  · by_cases hwrites : session.writes = []
    · rw [hwrites, Database.applyAll_nil] at hevolves
      obtain ⟨reservation, hrow, hid, hstatus, hreturned⟩ :=
        hreplayed _ hwell hevolves hwrites hperforms
      exact ⟨reservation, hrow, hid, hstatus, hreturned, hquietly⟩
    · obtain ⟨reservation, hid, hreturned, hbetween⟩ :=
        hperforms.cancelledBetween hwell hwrites
      dsimp only at hreturned
      have hstatus : reservation.status = .cancelled := by
        cases hperforms with
        | cancelled => cases hreturned; rfl
        | cancellationReplayed => exact absurd rfl hwrites
      have hstays := hevolves.cancelled_stays hbetween.isCancelled hstatus
      exact ⟨reservation, Database.findReservation_mem hstays, hid, hstatus,
        hreturned, hquietly⟩
  · rw [hquiet, Database.applyAll_nil] at hevolves
    obtain ⟨reservation, hrow, hid, hstatus, hreturned⟩ :=
      hreplayed moment hmoment (hpast.trans hevolves) hquiet hthen
    exact ⟨reservation, hrow, hid, hstatus, hreturned, hquietly⟩

/-- Cancellation happens at most once and is final. -/
theorem Reachable.cancellation_at_most_once (hreach : Reachable sha256 s) :
    (∀ actions s', s.run sha256 actions = some s' → s.db.Evolves s'.db) ∧
      (∀ reservation ∈ s.db.reservations,
        reservation.cancelledAt = none ↔ reservation.status = .active) ∧
      (∀ reservation ∈ s.db.reservations, reservation.status = .active →
        s.durable.filter (·.cancels reservation.id) = []) ∧
      (∀ reservation ∈ s.db.reservations, reservation.status = .cancelled →
        ∃ (before after : List Completed) (completed : Completed),
          s.durable = before ++ completed :: after ∧
            s.durable.filter (·.cancels reservation.id) = [completed] ∧
            CancelledBetween reservation
              (Database.empty.applyAll (writesOf before))
              (Database.empty.applyAll (writesOf (before ++ [completed])))) ∧
      (∀ completed ∈ s.durable, ∀ now id customerId,
        completed.call = .cancelReservation now id customerId →
          ∃ reservation ∈ s.db.reservations, reservation.id = id ∧
            reservation.status = .cancelled ∧
              completed.returned = .reservation reservation ∧
                (completed.cancels id = false →
                  completed.session.writes = [])) ∧
      (∀ t transaction, s.transactions t = some transaction →
        transaction.Doomed → ∀ actions s', s.run sha256 actions = some s' →
          ∀ calls acknowledged,
            ¬ s'.Finished t (.committed calls acknowledged)) ∧
      (∀ action s', s.step sha256 action = some s' →
        (∀ t acknowledged, action ≠ .commit t acknowledged) →
          s'.db = s.db) ∧
      (∀ (now : Instant) reservation product exception objects,
        (Reservation.cancel now).call (reservation, product) =
          (.error exception, objects) → objects = (reservation, product)) ∧
      (∀ reservation ∈ s.db.reservations, reservation.status = .active →
        ∀ product, s.db.findProduct reservation.productId = some product →
          product.availableQuantity.toInt + reservation.quantity.toInt ≤
              1000000 →
            ∀ now : Instant, reservation.createdAt.epochNanos ≤
                now.truncatedToMicros.epochNanos →
              (Call.cancelReservation now reservation.id
                  (some reservation.customerId)).resultOn s.db =
                (.ok (.reservation (reservation.cancelledBy now)),
                  cancelledSession (product.restocked reservation.quantity)
                    (reservation.cancelledBy now))) := by
  have hwell := hreach.invariant.wellFormed
  refine ⟨fun _ _ hrun => hreach.evolves hrun, ?_, ?_,
    fun _ hmem hcancelled => hreach.cancelled_once hmem hcancelled,
    fun _ hmem _ _ _ hcall => hreach.cancel_returns_row hmem hcall,
    fun _ _ hlive hdoomed _ _ hrun _ _ =>
      hreach.never_commits hlive hdoomed hrun,
    fun _ _ hstep hnot => db_of_not_commit hstep hnot,
    fun _ _ _ _ _ hcancel => Reservation.cancel_error_unchanged hcancel, ?_⟩
  · intro reservation hmem
    exact Reservation.cancelledAt_eq_none_iff
      (hwell.cancellationConsistent hmem)
  · intro reservation hmem hactive
    have hcount := hreach.length_cancels hmem
    rw [hactive, if_neg (by decide)] at hcount
    exact List.length_eq_zero_iff.mp (Int.ofNat_eq_zero.mp hcount)
  · intro reservation hmem hactive product hproduct hroom now hclock
    exact cancelReservation_succeeds hwell hmem hactive
      (hreach.customer_valid hmem) hproduct hroom hclock

theorem cancellation_at_most_once_sample :
    ∃ s : System, initial.run (fun _ => []) sampleActions = some s ∧
      ∃ reservation ∈ s.db.reservations, reservation.status = .cancelled ∧
        ∃ completed, s.durable.filter (·.cancels reservation.id) =
          [completed] := by
  have hrows : (initial.run (fun _ => []) sampleActions).map
      (·.db.reservations) = some [⟨2, 1, 3, [99], some [107], .cancelled,
        ⟨2000⟩, some ⟨3000⟩⟩] := by
    decide +kernel
  obtain ⟨s, hrun, hvalue⟩ := Option.map_eq_some_iff.mp hrows
  have hmem : (⟨2, 1, 3, [99], some [107], .cancelled, ⟨2000⟩,
      some ⟨3000⟩⟩ : Reservation) ∈ s.db.reservations := by
    rw [hvalue]
    exact List.mem_singleton_self _
  obtain ⟨-, -, -, honce, -⟩ :=
    Reachable.cancellation_at_most_once ⟨sampleActions, hrun⟩
  obtain ⟨before, after, completed, -, hcancels, -⟩ := honce _ hmem rfl
  exact ⟨s, hrun, _, hmem, rfl, completed, hcancels⟩

end System

end InventoryCloud
