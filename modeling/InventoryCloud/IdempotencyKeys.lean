import InventoryCloud.CallMoments
import InventoryCloud.RollbackErasure
import InventoryCloud.StockLedger

/-!
# Idempotency keys

All successful reservations of a customer under one key are answered with the
same booking.  One committed call made it and deducted its units, the others
found it.  What failed or was rolled back under the key leaves no trace.
-/

namespace InventoryCloud

open InventoryService
open Interaction

/-- The reservation belongs to the customer under the key. -/
def Reservation.bears (customerId key : JavaString)
    (reservation : Reservation) : Bool :=
  reservation.customerId = customerId ∧ reservation.idempotencyKey = some key

/-- What never changes of a reservation. -/
structure Reservation.SameBooking (first second : Reservation) : Prop where
  id : first.id = second.id
  productId : first.productId = second.productId
  quantity : first.quantity = second.quantity
  customerId : first.customerId = second.customerId
  idempotencyKey : first.idempotencyKey = second.idempotencyKey
  createdAt : first.createdAt = second.createdAt

theorem Reservation.MovesTo.sameBooking {reservation later : Reservation}
    (hmoves : reservation.MovesTo later) : reservation.SameBooking later := by
  rcases hmoves with rfl | ⟨-, cancelledAt, rfl⟩ <;> constructor <;> rfl

theorem Reservation.SameBooking.symm {first second : Reservation}
    (hsame : first.SameBooking second) : second.SameBooking first :=
  ⟨hsame.id.symm, hsame.productId.symm, hsame.quantity.symm,
    hsame.customerId.symm, hsame.idempotencyKey.symm, hsame.createdAt.symm⟩

theorem Reservation.SameBooking.bears {first second : Reservation}
    (hsame : first.SameBooking second) {customerId key : JavaString}
    (hbears : first.bears customerId key = true) :
    second.bears customerId key = true := by
  unfold Reservation.bears at hbears ⊢
  rwa [← hsame.customerId, ← hsame.idempotencyKey]

/-- The call created a reservation of the customer under the key. -/
def Completed.createsUnder (customerId key : JavaString)
    (completed : Completed) : Bool :=
  match completed.returned with
  | .reservationResult reservation false => reservation.bears customerId key
  | _ => false

/-- The call reserves for the customer under the key. -/
def Completed.ReservesUnder (customerId key : JavaString)
    (completed : Completed) : Prop :=
  ∃ fresh productId quantity, completed.call =
    .reserve fresh productId quantity (some customerId) (some key)

/-- The rows that change when the reservation is made. -/
structure ReservedBetween (reservation : Reservation)
    (before after : Database) : Prop where
  wasFree : before.findReservation reservation.id = none
  isStored : after.findReservation reservation.id = some reservation
  deducted : ∃ product later,
    before.findProduct reservation.productId = some product ∧
      after.findProduct reservation.productId = some later ∧
        later = { product with
          availableQuantity := later.availableQuantity } ∧
        later.availableQuantity.toInt =
          product.availableQuantity.toInt - reservation.quantity.toInt
  otherReservations : ∀ id, id ≠ reservation.id →
    after.findReservation id = before.findReservation id
  otherProducts : ∀ id, id ≠ reservation.productId →
    after.findProduct id = before.findProduct id

open Database in
/-- A call that answers with a new reservation made it. -/
theorem Performs.reservedBetween {view : Database} {call : Call}
    {reservation : Reservation} {session : Session}
    (hwell : view.WellFormed)
    (hperforms : Performs view call (.reservationResult reservation false)
      session) :
    session.writes ≠ [] ∧
      ReservedBetween reservation view (view.applyAll session.writes) := by
  cases hperforms with
  | @reserved fresh productId quantity customerId key customer product
      hquantity hcustomer hkey hfind hstock hinsert hupdate =>
      have hid := findProduct_id hfind
      subst hid
      have hrange := hwell.stockInRange (findProduct_mem hfind)
      have haccepts := accepts_of_admits hinsert
      simp only [accepts, Bool.and_eq_true, Option.isNone_iff_eq_none]
        at haccepts
      have hfree := haccepts.1.2
      rw [reservedSession_writes]
      refine ⟨List.cons_ne_nil _ _, ?_⟩
      have hown : (view.apply (.insertReservation (Reservation.created fresh
          product.id quantity customer key))).findProduct
            (product.deducted quantity).id = some product := by
        rwa [findProduct_insertReservation]
      have hproducts : ∀ other, (view.applyAll
          [.insertReservation (Reservation.created fresh product.id quantity
              customer key),
            .updateProduct (product.deducted quantity)]).findProduct other =
            if other = product.id then some (product.deducted quantity)
            else view.findProduct other := by
        intro other
        have hversions := findProduct_versions hown rfl other
        rw [findProduct_insertReservation, Product.deducted_id] at hversions
        simp only [applyAll_cons, applyAll_nil, findProduct_updateProduct,
          findProduct_insertReservation]
        exact hversions
      have hreservations : ∀ other, (view.applyAll
          [.insertReservation (Reservation.created fresh product.id quantity
              customer key),
            .updateProduct (product.deducted quantity)]).findReservation
              other =
            (view.findReservation other).or
              (if fresh.id = other then some (Reservation.created fresh
                product.id quantity customer key) else none) := by
        intro other
        simp only [applyAll_cons, applyAll_nil,
          findReservation_updateProduct]
        exact findReservation_insertReservation view _ other
      constructor
      · exact hfree
      · rw [hreservations, hfree]
        exact if_pos rfl
      · refine ⟨product, product.deducted quantity, hfind, ?_, rfl,
          toInt_reserveStock hrange hquantity⟩
        rw [hproducts]
        exact if_pos rfl
      · intro other hother
        have hne : fresh.id ≠ other := Ne.symm hother
        rw [hreservations, if_neg hne, Option.or_none]
      · intro other hother
        rw [hproducts]
        exact if_neg hother

/-- Whatever way a keyed reservation succeeds, its booking is stored. -/
theorem Performs.reserve_answer {view : Database} {fresh : Fresh}
    {productId : UUID} {quantity : Int32} {customerId key : JavaString}
    {returned : Returned} {session : Session} (hwell : view.WellFormed)
    (hperforms : Performs view (.reserve fresh productId quantity
      (some customerId) (some key)) returned session) :
    ∃ reservation replayed,
      returned = .reservationResult reservation replayed ∧
        reservation.bears customerId key = true ∧
          reservation.productId = productId ∧
            reservation.quantity = quantity ∧
              (view.applyAll session.writes).findReservation
                reservation.id = some reservation ∧
                  (replayed = true → session.writes = []) := by
  cases hperforms with
  | @reserved _ _ _ _ _ customer product hquantity hcustomer hkey hfind hstock
      hinsert hupdate =>
      have hgiven := Reservation.validateCustomerId_ok hcustomer
      cases hgiven
      have hbetween := (Performs.reserved hquantity hcustomer hkey hfind
        hstock hinsert hupdate).reservedBetween hwell
      refine ⟨_, false, rfl, ?_, rfl, rfl, hbetween.2.isStored, ?_⟩
      · simp [Reservation.bears, Reservation.created]
      · rintro ⟨⟩
  | @replayed _ _ _ _ _ customer reservation hcustomer hfind hproduct
      hquantity =>
      have hgiven := Reservation.validateCustomerId_ok hcustomer
      cases hgiven
      obtain ⟨hmem, howner, hkey⟩ :=
        Database.findByCustomerIdAndIdempotencyKey_some hfind
      refine ⟨reservation, true, rfl, ?_, hproduct, hquantity,
        hwell.findReservation_of_mem hmem, fun _ => rfl⟩
      simp [Reservation.bears, howner, hkey]

/-! ## Counting creations -/

private theorem keyed_follows (customerId key : JavaString) :
    Follows (fun _ => 0)
      (fun reservation => if reservation.bears customerId key then 1 else 0)
      (fun completed => if completed.createsUnder customerId key then 1
        else 0) where
  created _ := rfl
  restocked _ _ := rfl
  reserved _ _ _ := by
    rw [Int.sub_self, add_zero]
    rfl
  cancelled _ _ _ _ := ((zero_add _).trans (Int.sub_self _)).symm
  quiet hquiet hperforms := by
    cases hperforms <;> first | rfl | cases hquiet

theorem Database.WellFormed.length_bears {db : Database}
    (hwell : db.WellFormed) (customerId key : JavaString) :
    (db.reservations.filter (·.bears customerId key)).length ≤ 1 := by
  have hpairs := hwell.keys.filter (·.bears customerId key)
  have hbears : ∀ row ∈ db.reservations.filter (·.bears customerId key),
      row.customerId = customerId ∧ row.idempotencyKey = some key := by
    intro row hrow
    simpa [Reservation.bears] using (List.mem_filter.mp hrow).2
  match hrows : db.reservations.filter (·.bears customerId key) with
  | [] =>
      rw [hrows]
      exact Nat.zero_le 1
  | [_] =>
      rw [hrows]
      exact le_refl 1
  | first :: second :: rest =>
      rw [hrows] at hpairs hbears
      have hfirst := hbears first List.mem_cons_self
      have hsecond := hbears second
        (List.mem_cons_of_mem _ List.mem_cons_self)
      have hnone := (List.pairwise_cons.mp hpairs).1 second
        List.mem_cons_self (hfirst.1.trans hsecond.1.symm)
        (hfirst.2.trans hsecond.2.symm)
      rw [hfirst.2] at hnone
      cases hnone

namespace System

variable {sha256 : List UInt8 → List UInt8} {s : System}
  {customerId key : JavaString}

theorem Reachable.length_createsUnder (hreach : Reachable sha256 s)
    (customerId key : JavaString) :
    (s.durable.filter (·.createsUnder customerId key)).length =
      (s.db.reservations.filter (·.bears customerId key)).length := by
  have hledger := (keyed_follows customerId key).ledger hreach
  rw [← Int.ofNat_inj, Rows.length_filter, Rows.length_filter, ← hledger]
  simp [Database.total]

/-- The booking that a committed reservation under the key returned. -/
theorem Reachable.reserve_returns_row (hreach : Reachable sha256 s)
    {completed : Completed} (hmem : completed ∈ s.durable) {fresh : Fresh}
    {productId : UUID} {quantity : Int32}
    (hcall : completed.call = .reserve fresh productId quantity
      (some customerId) (some key)) :
    ∃ row ∈ s.db.reservations, row.bears customerId key = true ∧
      row.productId = productId ∧ row.quantity = quantity ∧
        ∃ reservation replayed,
          completed.returned = .reservationResult reservation replayed ∧
            reservation.bears customerId key = true ∧
              reservation.SameBooking row ∧
                (replayed = true → completed.session.writes = []) := by
  obtain ⟨before, after, hsplit, hwell, hhappens, hevolves⟩ :=
    hreach.split hmem
  obtain ⟨call, returned, session⟩ := completed
  dsimp only at hcall
  subst hcall
  rw [applyAll_writesOf_snoc] at hevolves
  have hbooked : ∃ view : Database, view.WellFormed ∧
      Performs view (.reserve fresh productId quantity (some customerId)
        (some key)) returned session ∧
        (view.applyAll session.writes).Evolves s.db := by
    rcases hhappens with hperforms | ⟨hquiet, moment, hmoment, hpast, hthen⟩
    · exact ⟨_, hwell, hperforms, hevolves⟩
    · refine ⟨moment, hmoment, hthen, ?_⟩
      rw [hquiet] at hevolves ⊢
      exact hpast.trans hevolves
  obtain ⟨view, hview, hperforms, hlater⟩ := hbooked
  obtain ⟨reservation, replayed, hreturned, hbears, hproduct, hquantity,
    hstored, hquiet⟩ := hperforms.reserve_answer hview
  obtain ⟨row, hrow, hmoves⟩ := hlater.reservation hstored
  have hsame := hmoves.sameBooking
  exact ⟨row, Database.findReservation_mem hrow, hsame.bears hbears,
    hsame.productId.symm.trans hproduct, hsame.quantity.symm.trans hquantity,
    reservation, replayed, hreturned, hbears, hsame, hquiet⟩

/-- The one call that made the row. -/
theorem Reachable.created_once (hreach : Reachable sha256 s)
    {row : Reservation} (hmem : row ∈ s.db.reservations)
    (hbears : row.bears customerId key = true) :
    ∃ (before after : List Completed) (completed : Completed)
      (reservation : Reservation),
      s.durable = before ++ completed :: after ∧
        s.durable.filter (·.createsUnder customerId key) = [completed] ∧
          reservation.SameBooking row ∧
            ReservedBetween reservation
              (Database.empty.applyAll (writesOf before))
              (Database.empty.applyAll (writesOf (before ++ [completed]))) := by
  have hwell := hreach.invariant.wellFormed
  have hrow : row ∈ s.db.reservations.filter (·.bears customerId key) :=
    List.mem_filter.mpr ⟨hmem, hbears⟩
  have hlength : (s.db.reservations.filter
      (·.bears customerId key)).length = 1 :=
    Nat.le_antisymm (hwell.length_bears customerId key)
      (List.length_pos_of_mem hrow)
  obtain ⟨only, hrows⟩ := List.length_eq_one_iff.mp hlength
  have hcreations := hreach.length_createsUnder customerId key
  rw [hlength] at hcreations
  obtain ⟨completed, hone⟩ := List.length_eq_one_iff.mp hcreations
  have hfiltered : completed ∈ s.durable.filter
      (·.createsUnder customerId key) := by
    rw [hone]
    exact List.mem_singleton_self completed
  obtain ⟨hdurable, hcreates⟩ := List.mem_filter.mp hfiltered
  obtain ⟨before, after, hsplit, hbefore, hhappens, hevolves⟩ :=
    hreach.split hdurable
  obtain ⟨call, returned, session⟩ := completed
  unfold Completed.createsUnder at hcreates
  dsimp only at hcreates
  split at hcreates
  next reservation =>
    have hnow : ReservedBetween reservation
        (Database.empty.applyAll (writesOf before))
        ((Database.empty.applyAll (writesOf before)).applyAll
          session.writes) := by
      rcases hhappens with hperforms | ⟨hquiet, moment, hmoment, -, hthen⟩
      · exact (hperforms.reservedBetween hbefore).2
      · exact absurd hquiet (hthen.reservedBetween hmoment).1
    rw [applyAll_writesOf_snoc] at hevolves
    obtain ⟨stored, hstored, hmoves⟩ := hevolves.reservation hnow.isStored
    have hsame := hmoves.sameBooking
    have hother : stored ∈ s.db.reservations.filter
        (·.bears customerId key) :=
      List.mem_filter.mpr ⟨Database.findReservation_mem hstored,
        hsame.bears hcreates⟩
    rw [hrows, List.mem_singleton] at hrow hother
    rw [hrow, ← hother]
    refine ⟨before, after, _, reservation, hsplit, hone, hsame, ?_⟩
    rwa [applyAll_writesOf_snoc]
  next => cases hcreates

end System

/-! ## Calls that find their key taken -/

/-- A reserve call whose key is stored is a replay or a conflict. -/
theorem reserve_resultOn_of_stored {view : Database} {fresh : Fresh}
    {productId : UUID} {quantity : Int32} {customerId key : JavaString}
    {reservation : Reservation} (hquantity : PositiveQuantity quantity)
    (hcustomer : Reservation.validateCustomerId (some customerId) =
      .ok customerId)
    (hkey : Reservation.validateIdempotencyKey (some key) = .ok ())
    (hfind : view.findByCustomerIdAndIdempotencyKey customerId key =
      some reservation) :
    (Call.reserve fresh productId quantity (some customerId)
        (some key)).resultOn view =
      if reservation.productId = productId ∧
          reservation.quantity = quantity then
        (.ok (.reservationResult reservation true),
          countedSession .reservationReplayed)
      else (.error keyAlreadyUsed, .empty) := by
  rw [Call.resultOn, reserve_program]
  simp only [if_pos hquantity, hcustomer, hkey, Program.eval_ask,
    Statement.answer, hfind]
  by_cases hmatch : reservation.productId = productId ∧
      reservation.quantity = quantity
  · obtain ⟨hproduct, hunits⟩ := hmatch
    simp only [hproduct, hunits, ne_eq, not_true_eq_false, or_self, if_false,
      and_self, if_true, Program.eval_pure]
  · have hmismatch : reservation.productId ≠ productId ∨
        reservation.quantity ≠ quantity := by
      rwa [← not_and_or]
    simp only [if_pos hmismatch, if_neg hmatch, Program.eval_pure]

theorem reserve_resultOn_of_quantity {view : Database} {fresh : Fresh}
    {productId : UUID} {quantity : Int32}
    {customerId key : Option JavaString}
    (hquantity : ¬ PositiveQuantity quantity) :
    (Call.reserve fresh productId quantity customerId key).resultOn view =
      (.error quantityOutOfRange, .empty) := by
  rw [Call.resultOn, reserve_program, if_neg hquantity]
  rfl

/-- The transaction committed a replay of the row, if it committed. -/
def Outcome.Replays (row : Reservation) : Outcome → Prop
  | .committed calls _ => ∃ call reservation session,
      calls = [⟨call, .reservationResult reservation true, session⟩] ∧
        reservation.SameBooking row ∧ session.writes = []
  | .failed _ => False
  | .aborted _ => True

/-- The transaction did not commit, and threw the exception if it threw. -/
def Outcome.Refuses (exception : JavaException) : Outcome → Prop
  | .committed _ _ => False
  | .failed thrown => thrown = exception
  | .aborted _ => True

theorem Outcome.Matches.replays {call : Call} {outcome : Outcome}
    {row stored : Reservation} {session : Session}
    (hmatches : outcome.Matches call
      (.ok (.reservationResult stored true), session))
    (hsame : stored.SameBooking row) (hquiet : session.writes = []) :
    outcome.Replays row := by
  cases outcome with
  | committed calls acknowledged =>
      obtain ⟨returned, other, hresult, rfl⟩ := hmatches
      cases hresult
      exact ⟨call, stored, session, rfl, hsame, hquiet⟩
  | failed exception =>
      obtain ⟨other, hresult⟩ := hmatches
      cases hresult
  | aborted status => trivial

theorem Outcome.Matches.refuses {call : Call} {outcome : Outcome}
    {exception : JavaException} {session : Session}
    (hmatches : outcome.Matches call (.error exception, session)) :
    outcome.Refuses exception := by
  cases outcome with
  | committed calls acknowledged =>
      obtain ⟨returned, other, hresult, -⟩ := hmatches
      cases hresult
  | failed thrown =>
      obtain ⟨other, hresult⟩ := hmatches
      cases hresult
      rfl
  | aborted status => trivial

/-- The call has executed nothing, or has only waited for its key. -/
def Transaction.BeforeLookup (transaction : Transaction) : Prop :=
  transaction.rest = transaction.call.program ∨
    ∃ customerId key next,
      transaction.call.program = .ask (.acquire customerId key) next ∧
        transaction.rest = next PUnit.unit

theorem Transaction.BeforeLookup.resultOn {transaction : Transaction}
    (hbefore : transaction.BeforeLookup) (view : Database) :
    transaction.call.resultOn view =
      transaction.rest.eval (Statement.answer view) := by
  rcases hbefore with hrest | ⟨customerId, key, next, hprogram, hrest⟩
  · rw [hrest]
    rfl
  · rw [Call.resultOn, hprogram, hrest]
    rfl

/-! ## Responses -/

/-- The calls of which the caller learnt that they succeeded. -/
def Event.responses : Event → List Completed
  | .finished _ _ (.committed calls true) => calls
  | _ => []

/-- The acknowledgement of the commit was lost. -/
def Event.LosesAcknowledgement : Event → Prop
  | .finished _ _ (.committed _ acknowledged) => acknowledged = false
  | _ => False

namespace System

def responses (s : System) : List Completed :=
  s.history.flatMap Event.responses

theorem responses_sublist (s : System) : s.responses.Sublist s.durable := by
  unfold responses durable
  induction s.history with
  | nil => exact List.Sublist.refl _
  | cons event history ih =>
      have hevent : event.responses.Sublist event.durable := by
        rcases event with ⟨t, server, call⟩ |
          ⟨t, server, ⟨calls, acknowledged⟩ | exception | status⟩
        · exact List.Sublist.refl _
        · cases acknowledged
          · exact List.nil_sublist _
          · exact List.Sublist.refl _
        · exact List.Sublist.refl _
        · exact List.Sublist.refl _
      exact hevent.append ih

theorem responses_eq_durable {s : System}
    (hkept : ∀ event ∈ s.history, ¬ event.LosesAcknowledgement) :
    s.responses = s.durable := by
  refine List.flatMap_congr fun event hevent => ?_
  have hown := hkept event hevent
  rcases event with ⟨t, server, call⟩ |
    ⟨t, server, ⟨calls, acknowledged⟩ | exception | status⟩
  · rfl
  · cases acknowledged
    · exact absurd rfl hown
    · rfl
  · rfl
  · rfl

end System

/-- What all calls of a customer under one key have in common. -/
structure KeyAgreement (s : System) (customerId key : JavaString) :
    Prop where
  atMostOne :
    (s.db.reservations.filter (·.bears customerId key)).length ≤ 1
  creations : (s.durable.filter (·.createsUnder customerId key)).length =
    (s.db.reservations.filter (·.bears customerId key)).length
  createdOnce : ∀ row ∈ s.db.reservations,
    row.bears customerId key = true →
      ∃ (before after : List Completed) (completed : Completed)
        (reservation : Reservation),
        s.durable = before ++ completed :: after ∧
          s.durable.filter (·.createsUnder customerId key) = [completed] ∧
            reservation.SameBooking row ∧
              ReservedBetween reservation
                (Database.empty.applyAll (writesOf before))
                (Database.empty.applyAll
                  (writesOf (before ++ [completed])))
  answered : ∀ completed ∈ s.durable, ∀ fresh productId quantity,
    completed.call = .reserve fresh productId quantity (some customerId)
        (some key) →
      ∃ row ∈ s.db.reservations, row.bears customerId key = true ∧
        row.productId = productId ∧ row.quantity = quantity ∧
          ∃ reservation replayed,
            completed.returned = .reservationResult reservation replayed ∧
              reservation.bears customerId key = true ∧
                reservation.SameBooking row ∧
                  (replayed = true → completed.session.writes = [])
  freshAtMostOnce :
    (s.responses.filter (·.createsUnder customerId key)).length ≤ 1
  freshOnce : (∀ event ∈ s.history, ¬ event.LosesAcknowledgement) →
    (∃ completed ∈ s.responses, completed.ReservesUnder customerId key) →
      (s.responses.filter (·.createsUnder customerId key)).length = 1

namespace System

variable {sha256 : List UInt8 → List UInt8} {s : System}
  {customerId key : JavaString}

theorem Reachable.keyAgreement (hreach : Reachable sha256 s)
    (customerId key : JavaString) : KeyAgreement s customerId key := by
  have hwell := hreach.invariant.wellFormed
  have hatMostOne := hwell.length_bears customerId key
  have hcreations := hreach.length_createsUnder customerId key
  constructor
  · exact hatMostOne
  · exact hcreations
  · intro row hmem hbears
    exact hreach.created_once hmem hbears
  · intro completed hmem fresh productId quantity hcall
    exact hreach.reserve_returns_row hmem hcall
  · have hsub := (s.responses_sublist.filter
      (·.createsUnder customerId key)).length_le
    omega
  · rintro hkept ⟨completed, hmem, fresh, productId, quantity, hcall⟩
    rw [responses_eq_durable hkept] at hmem ⊢
    obtain ⟨row, hrow, hbears, -⟩ := hreach.reserve_returns_row hmem hcall
    have hpos : 0 < (s.db.reservations.filter
        (·.bears customerId key)).length :=
      List.length_pos_of_mem (List.mem_filter.mpr ⟨hrow, hbears⟩)
    omega

/-- A call that looks its key up when the key is taken. -/
theorem Reachable.outcome_of_stored {s' : System} {actions : List Action}
    {t : ℕ} {transaction : Transaction} {outcome : Outcome} {fresh : Fresh}
    {productId : UUID} {quantity : Int32} {row : Reservation}
    (hreach : Reachable sha256 s)
    (hkey : Reservation.validateIdempotencyKey (some key) = .ok ())
    (hmem : row ∈ s.db.reservations)
    (hbears : row.bears customerId key = true)
    (hlive : s.transactions t = some transaction)
    (hfirst : transaction.earlier = [])
    (hclean : transaction.rollbackOnly = false)
    (hcall : transaction.call = .reserve fresh productId quantity
      (some customerId) (some key))
    (hbefore : transaction.BeforeLookup)
    (hone : ∀ other, Action.next t other ∉ actions)
    (hrun : s.run sha256 actions = some s')
    (hfinished : s'.Finished t outcome) :
    if row.productId = productId ∧ row.quantity = quantity then
      outcome.Replays row
    else outcome.Refuses (if PositiveQuantity quantity then keyAlreadyUsed
      else quantityOutOfRange) := by
  have hbetween := hreach.outcome_between hlive hfirst hclean
    hbefore.resultOn hone hrun hfinished
  rw [hcall] at hbetween
  have hwell := hreach.invariant.wellFormed
  rcases hbetween with ⟨status, rfl⟩ | ⟨moment, hmoment, hpast, -, hmatches⟩
  · split <;> trivial
  obtain ⟨stored, hstored, hmoves⟩ :=
    hpast.reservation (hwell.findReservation_of_mem hmem)
  have hsame := hmoves.sameBooking
  have howned := hsame.bears hbears
  unfold Reservation.bears at howned
  rw [decide_eq_true_eq] at howned
  obtain ⟨howner, hstoredKey⟩ := howned
  have hcustomer : Reservation.validateCustomerId (some customerId) =
      .ok customerId := by
    have hvalid := hreach.customer_valid hmem
    rwa [hsame.customerId, howner] at hvalid
  have hfind := hmoment.findByCustomerIdAndIdempotencyKey_of_mem
    (Database.findReservation_mem hstored) hstoredKey
  rw [howner] at hfind
  by_cases hquantity : PositiveQuantity quantity
  · rw [reserve_resultOn_of_stored hquantity hcustomer hkey hfind,
      ← hsame.productId, ← hsame.quantity] at hmatches
    rw [if_pos hquantity]
    split at hmatches
    next hmatch =>
      rw [if_pos hmatch]
      exact hmatches.replays hsame.symm rfl
    next hmismatch =>
      rw [if_neg hmismatch]
      exact hmatches.refuses
  · have hmismatch : ¬ (row.productId = productId ∧
        row.quantity = quantity) := by
      rintro ⟨-, rfl⟩
      exact hquantity (hwell.positiveQuantity hmem)
    rw [reserve_resultOn_of_quantity hquantity] at hmatches
    rw [if_neg hmismatch, if_neg hquantity]
    exact hmatches.refuses

/-- All calls under one key agree on one booking, for ever, and calls that do
not commit leave no trace. -/
theorem idempotency_keys_agree {actions : List Action}
    (hrun : initial.run sha256 actions = some s)
    (hkey : Reservation.validateIdempotencyKey (some key) = .ok ()) :
    KeyAgreement s customerId key ∧
      (∀ row ∈ s.db.reservations, row.bears customerId key = true →
        ∀ t transaction fresh productId quantity,
          s.transactions t = some transaction → transaction.earlier = [] →
            transaction.rollbackOnly = false →
              transaction.call = .reserve fresh productId quantity
                (some customerId) (some key) →
              transaction.BeforeLookup → ∀ more s' outcome,
                (∀ other, Action.next t other ∉ more) →
                  s.run sha256 more = some s' → s'.Finished t outcome →
                    if row.productId = productId ∧ row.quantity = quantity
                    then outcome.Replays row
                    else outcome.Refuses (if PositiveQuantity quantity
                      then keyAlreadyUsed else quantityOutOfRange)) ∧
      (∀ action s', s.step sha256 action = some s' →
        (∀ t acknowledged, action ≠ .commit t acknowledged) →
          s'.db = s.db) ∧
      (∀ more s', s.run sha256 more = some s' →
        KeyAgreement s' customerId key ∧
          ∀ row ∈ s.db.reservations, row.bears customerId key = true →
            ∃ later ∈ s'.db.reservations, row.MovesTo later) ∧
      (∀ gone : ℕ → Bool, (∀ action ∈ actions, action.Spares gone) →
        ∃ erased, initial.run sha256
            (actions.filter fun action => !gone action.transaction) =
              some erased ∧
          Erases gone s erased ∧ (s.Over gone →
            erased.db = s.db ∧ erased.transactions = s.transactions ∧
              erased.locks = s.locks ∧ erased.counters = s.counters)) := by
  have hreach : Reachable sha256 s := ⟨actions, hrun⟩
  have hwell := hreach.invariant.wellFormed
  refine ⟨hreach.keyAgreement customerId key, ?_,
    fun _ _ hstep hnot => db_of_not_commit hstep hnot, ?_, ?_⟩
  · intro row hmem hbears t transaction fresh productId quantity hlive hfirst
      hclean hcall hbefore more s' outcome hone hmore hfinished
    exact hreach.outcome_of_stored hkey hmem hbears hlive hfirst hclean hcall
      hbefore hone hmore hfinished
  · intro more s' hmore
    refine ⟨(hreach.run hmore).keyAgreement customerId key,
      fun row hmem _ => ?_⟩
    obtain ⟨later, hlater, hmoves⟩ := (hreach.evolves hmore).reservation
      (hwell.findReservation_of_mem hmem)
    exact ⟨later, Database.findReservation_mem hlater, hmoves⟩
  · intro gone hspares
    obtain ⟨erased, herased, herases⟩ :=
      run_erased hspares (erases_initial gone) hrun
    exact ⟨erased, herased, herases, fun hover => herases.same hreach hover⟩

theorem idempotency_keys_agree_sample :
    ∃ s : System, initial.run (fun _ => []) sampleActions = some s ∧
      KeyAgreement s [99] [107] ∧ (s.responses.filter
        (·.createsUnder [99] [107])).length ≤ 1 := by
  have hsome : (initial.run (fun _ => []) sampleActions).isSome = true := by
    decide +kernel
  obtain ⟨s, hrun⟩ := Option.isSome_iff_exists.mp hsome
  obtain ⟨hagreement, -⟩ :=
    @idempotency_keys_agree (fun _ => []) s [99] [107] sampleActions hrun rfl
  exact ⟨s, hrun, hagreement, hagreement.freshAtMostOnce⟩

end System

end InventoryCloud
