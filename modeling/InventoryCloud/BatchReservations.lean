import InventoryCloud.BatchCommits
import InventoryCloud.IdempotencyKeys
import InventoryCloud.CancellationFinality

/-!
# What the commits of a batch do

The commits of a batch one after another: reservations under keys of their own
each take their units, of reservations under one key only the first one does,
and of cancellations of one reservation only the first one gives units back.
-/

namespace InventoryCloud

open InventoryService

variable {db : Database} {productId : UUID} {quantity : Int32}
  {customer : JavaString} {row : Product}

/-- The customer has no reservation under the key. -/
def Database.Unused (db : Database) (customer : JavaString)
    (idempotencyKey : Option JavaString) : Prop :=
  ∀ key, idempotencyKey = some key →
    db.findByCustomerIdAndIdempotencyKey customer key = none

theorem Performs.reserves {fresh : Fresh} {idempotencyKey : Option JavaString}
    {returned : Returned} {session : Session}
    (hperforms : Performs db (.reserve fresh productId quantity
      (some customer) idempotencyKey) returned session)
    (hunused : db.Unused customer idempotencyKey)
    (hfind : db.findProduct productId = some row) :
    returned = .reservationResult (Reservation.created fresh productId
        quantity customer idempotencyKey) false ∧
      quantity.toInt ≤ row.availableQuantity.toInt ∧
      session.writes = [.insertReservation (Reservation.created fresh
          productId quantity customer idempotencyKey),
        .updateProduct (row.deducted quantity)] ∧
      db.findReservation fresh.id = none := by
  cases hperforms with
  | @reserved _ _ _ _ _ owner product hquantity hcustomer hkey hthere hstock
      hinsert hupdate =>
      have howner := Reservation.validateCustomerId_ok hcustomer
      rw [Option.some.injEq] at howner
      subst howner
      rw [hfind, Option.some.injEq] at hthere
      subst hthere
      rw [Int32.lt_iff_toInt_lt, not_lt] at hstock
      have haccepts := Database.accepts_of_admits hinsert
      simp only [Database.accepts, Bool.and_eq_true,
        Option.isNone_iff_eq_none] at haccepts
      exact ⟨rfl, hstock, reservedSession_writes _ _ _, haccepts.1.2⟩
  | @replayed _ _ _ _ key owner reservation hcustomer hthere hproduct
      hsame =>
      have howner := Reservation.validateCustomerId_ok hcustomer
      rw [Option.some.injEq] at howner
      subst howner
      rw [hunused key rfl] at hthere
      cases hthere

/-- A reservation which finds its key unused has not been answered earlier. -/
theorem Completed.HappensOn.performs {completed : Completed}
    (hhappens : completed.HappensOn db) {fresh : Fresh}
    {idempotencyKey : Option JavaString}
    (hcall : completed.call = .reserve fresh productId quantity
      (some customer) idempotencyKey)
    (hunused : db.Unused customer idempotencyKey) (hwell : db.WellFormed) :
    Performs db completed.call completed.returned completed.session := by
  rcases hhappens with hperforms | ⟨hquiet, moment, hmoment, hevolves, hthen⟩
  · exact hperforms
  · obtain ⟨call, returned, session⟩ := completed
    dsimp only at hcall hquiet hthen
    subst hcall
    cases hthen with
    | reserved => cases hquiet
    | @replayed _ _ _ _ key owner reservation hcustomer hfind hproduct hsame =>
        have howner := Reservation.validateCustomerId_ok hcustomer
        rw [Option.some.injEq] at howner
        subst howner
        obtain ⟨hmem, howned, hkey⟩ :=
          Database.findByCustomerIdAndIdempotencyKey_some hfind
        obtain ⟨later, hlater, hmoves⟩ :=
          hevolves.reservation (hmoment.findReservation_of_mem hmem)
        have hsame := hmoves.sameBooking
        have hstored := hwell.findByCustomerIdAndIdempotencyKey_of_mem
          (Database.findReservation_mem hlater)
          (hsame.idempotencyKey ▸ hkey)
        rw [← hsame.customerId, howned, hunused key rfl] at hstored
        cases hstored

/-- A reservation under a used key writes nothing. -/
theorem Completed.HappensOn.quiet_of_used {completed : Completed}
    (hhappens : completed.HappensOn db) {fresh : Fresh} {key : JavaString}
    {stored : Reservation}
    (hcall : completed.call = .reserve fresh productId quantity
      (some customer) (some key))
    (hused : db.findByCustomerIdAndIdempotencyKey customer key =
      some stored) :
    completed.session.writes = [] ∧
      ∃ reservation, completed.returned =
        .reservationResult reservation true := by
  have hreplays : ∀ view : Database,
      Performs view completed.call completed.returned completed.session →
        completed.session.writes = [] ∨ view = db →
          completed.session.writes = [] ∧ ∃ reservation,
            completed.returned = .reservationResult reservation true := by
    intro view hperforms hwhere
    obtain ⟨call, returned, session⟩ := completed
    dsimp only at hcall hperforms hwhere ⊢
    subst hcall
    cases hperforms with
    | replayed => exact ⟨rfl, _, rfl⟩
    | @reserved _ _ _ _ _ owner product hquantity hcustomer hkey hthere
        hstock hinsert hupdate =>
        rcases hwhere with hquiet | rfl
        · cases hquiet
        · have howner := Reservation.validateCustomerId_ok hcustomer
          rw [Option.some.injEq] at howner
          subst howner
          rw [hkey key rfl] at hused
          cases hused
  rcases hhappens with hperforms | ⟨hquiet, moment, -, -, hthen⟩
  · exact hreplays db hperforms (Or.inr rfl)
  · exact hreplays moment hthen (Or.inl hquiet)

/-! ### The tables after a new reservation -/

/-- The tables when the units of the new reservation are taken. -/
def Database.reserving (db : Database) (reservation : Reservation)
    (row : Product) : Database :=
  db.applyAll [.insertReservation reservation,
    .updateProduct (row.deducted reservation.quantity)]

theorem findProduct_reserving {reservation : Reservation}
    (hfind : db.findProduct productId = some row) :
    (db.reserving reservation row).findProduct productId =
      some (row.deducted reservation.quantity) := by
  simp [Database.reserving, Database.findProduct_updateProduct, hfind,
    Database.productVersion, Product.deducted, Product.updatedBy]

theorem findByKey_reserving (reservation : Reservation) (key : JavaString) :
    (db.reserving reservation row).findByCustomerIdAndIdempotencyKey customer
        key =
      (db.findByCustomerIdAndIdempotencyKey customer key).or
        (if reservation.customerId = customer ∧
            reservation.idempotencyKey = some key
          then some reservation else none) := by
  simp [Database.reserving,
    Database.findByCustomerIdAndIdempotencyKey_insertReservation]

theorem findByKey_reserving_self {fresh : Fresh} {key : JavaString}
    (hunused : db.findByCustomerIdAndIdempotencyKey customer key = none) :
    (db.reserving (Reservation.created fresh productId quantity customer
      (some key)) row).findByCustomerIdAndIdempotencyKey customer key =
        some (Reservation.created fresh productId quantity customer
          (some key)) := by
  rw [findByKey_reserving, hunused]
  simp [Reservation.created]

theorem findReservation_reserving (reservation : Reservation) (id : UUID) :
    (db.reserving reservation row).findReservation id =
      (db.findReservation id).or
        (if reservation.id = id then some reservation else none) := by
  simp [Database.reserving, Database.findReservation_insertReservation]

/-! ### Reservations under keys of their own -/

/-- The key under which a call reserves. -/
def Call.key : Call → Option JavaString
  | .reserve _ _ _ _ idempotencyKey => idempotencyKey
  | _ => none

/-- The call asks for the units of the product for the customer. -/
def Call.Bids (productId : UUID) (quantity : Int32) (customer : JavaString)
    (call : Call) : Prop :=
  ∃ fresh, call =
    .reserve fresh productId quantity (some customer) call.key

/-- The call made the reservation it asked for. -/
def Completed.Books (productId : UUID) (quantity : Int32)
    (customer : JavaString) (completed : Completed) : Prop :=
  ∃ fresh, completed.call =
      .reserve fresh productId quantity (some customer) completed.call.key ∧
    completed.returned = .reservationResult (Reservation.created fresh
      productId quantity customer completed.call.key) false

/-- What reservations under keys of their own leave. -/
structure Booked (productId : UUID) (quantity : Int32)
    (customer : JavaString) (db : Database) (row : Product)
    (calls : List Completed) : Prop where
  books : ∀ completed ∈ calls, completed.Books productId quantity customer
  ids : (calls.map fun completed => completed.call.freshId).Nodup
  free : ∀ completed ∈ calls, ∀ id ∈ completed.call.freshId,
    db.findReservation id = none
  unused : ∀ key, (∀ completed ∈ calls, completed.call.key ≠ some key) →
    db.findByCustomerIdAndIdempotencyKey customer key = none →
      (db.applyAll (writesOf calls)).findByCustomerIdAndIdempotencyKey
        customer key = none
  kept : ∀ id stored, db.findReservation id = some stored →
    (db.applyAll (writesOf calls)).findReservation id = some stored
  stored : ∀ completed ∈ calls, ∀ reservation,
    completed.returned = .reservationResult reservation false →
      (db.applyAll (writesOf calls)).findReservation reservation.id =
        some reservation
  stock : ∃ left,
    (db.applyAll (writesOf calls)).findProduct productId = some left ∧
      left.availableQuantity.toInt + calls.length * quantity.toInt =
        row.availableQuantity.toInt

/-- The call made its reservation under an unused key, and the tables that it
leaves are those with the reservation. -/
structure Completed.Reserves (productId : UUID) (quantity : Int32)
    (customer : JavaString) (db : Database) (row : Product)
    (completed : Completed) (fresh : Fresh) : Prop where
  call : completed.call =
    .reserve fresh productId quantity (some customer) completed.call.key
  returned : completed.returned = .reservationResult (Reservation.created fresh
    productId quantity customer completed.call.key) false
  after : db.applyAll completed.session.writes =
    db.reserving (Reservation.created fresh productId quantity customer
      completed.call.key) row
  free : db.findReservation fresh.id = none

theorem Completed.HappensOn.reserves {completed : Completed}
    (hhappens : completed.HappensOn db)
    (hbids : completed.call.Bids productId quantity customer)
    (hunused : db.Unused customer completed.call.key)
    (hwell : db.WellFormed)
    (hfind : db.findProduct productId = some row) :
    ∃ fresh,
      completed.Reserves productId quantity customer db row fresh := by
  obtain ⟨fresh, hcall⟩ := hbids
  have hperforms := hhappens.performs hcall hunused hwell
  rw [hcall] at hperforms
  obtain ⟨hreturned, -, hwrites, hfree⟩ := hperforms.reserves hunused hfind
  refine ⟨fresh, hcall, hreturned, ?_, hfree⟩
  rw [hwrites]
  rfl

namespace Completed.Reserves

variable {completed : Completed} {fresh : Fresh}

theorem freshId
    (hreserves : completed.Reserves productId quantity customer db row fresh) :
    completed.call.freshId = some fresh.id := by
  rw [hreserves.call]
  rfl

theorem findProduct
    (hreserves : completed.Reserves productId quantity customer db row fresh)
    (hfind : db.findProduct productId = some row) :
    (db.applyAll completed.session.writes).findProduct productId =
      some (row.deducted quantity) := by
  rw [hreserves.after]
  exact findProduct_reserving hfind

/-- Other keys stay unused. -/
theorem unused
    (hreserves : completed.Reserves productId quantity customer db row fresh)
    {key : JavaString} (hne : completed.call.key ≠ some key)
    (hnone : db.findByCustomerIdAndIdempotencyKey customer key = none) :
    (db.applyAll completed.session.writes).findByCustomerIdAndIdempotencyKey
      customer key = none := by
  rw [hreserves.after, findByKey_reserving, hnone]
  simp [Reservation.created, hne]

/-- What is not there after it was not there before, and is not the new
reservation. -/
theorem ne_of_none
    (hreserves : completed.Reserves productId quantity customer db row fresh)
    {id : UUID} (hnone : (db.applyAll completed.session.writes
      ).findReservation id = none) :
    db.findReservation id = none ∧ id ≠ fresh.id := by
  rw [hreserves.after, findReservation_reserving, Option.or_eq_none_iff]
    at hnone
  refine ⟨hnone.1, fun hsame => ?_⟩
  simp [Reservation.created, hsame] at hnone

theorem kept
    (hreserves : completed.Reserves productId quantity customer db row fresh)
    {id : UUID} {stored : Reservation}
    (hstored : db.findReservation id = some stored) :
    (db.applyAll completed.session.writes).findReservation id =
      some stored := by
  rw [hreserves.after, findReservation_reserving, hstored]
  rfl

theorem made
    (hreserves : completed.Reserves productId quantity customer db row fresh)
    {reservation : Reservation}
    (hmade : completed.returned = .reservationResult reservation false) :
    (db.applyAll completed.session.writes).findReservation reservation.id =
      some reservation := by
  rw [hreserves.returned, Returned.reservationResult.injEq] at hmade
  rw [← hmade.1, hreserves.after, findReservation_reserving]
  simp [Reservation.created, hreserves.free]

end Completed.Reserves

theorem Booked.nil (hfind : db.findProduct productId = some row) :
    Booked productId quantity customer db row [] :=
  ⟨by simp, by simp, by simp, by simp, by simp, by simp, row, by simpa,
    by simp⟩

/-- A reservation before others. -/
theorem Booked.cons {completed : Completed} {calls : List Completed}
    {fresh : Fresh}
    (hreserves : completed.Reserves productId quantity customer db row fresh)
    (hrest : Booked productId quantity customer
      (db.applyAll completed.session.writes) (row.deducted quantity) calls)
    (hlevel : (row.deducted quantity).availableQuantity.toInt =
      row.availableQuantity.toInt - quantity.toInt) :
    Booked productId quantity customer db row (completed :: calls) := by
  have htables : db.applyAll (writesOf (completed :: calls)) =
      (db.applyAll completed.session.writes).applyAll (writesOf calls) := by
    rw [writesOf_cons, Database.applyAll_append]
  constructor
  · intro other hother
    rcases List.mem_cons.mp hother with rfl | hother
    · exact ⟨fresh, hreserves.call, hreserves.returned⟩
    · exact hrest.books other hother
  · rw [List.map_cons, List.nodup_cons]
    refine ⟨fun hmem => ?_, hrest.ids⟩
    obtain ⟨other, hother, hsame⟩ := List.mem_map.mp hmem
    rw [hreserves.freshId] at hsame
    exact (hreserves.ne_of_none (hrest.free other hother _ hsame)).2 rfl
  · intro other hother id hmem
    rcases List.mem_cons.mp hother with rfl | hother
    · rw [hreserves.freshId, Option.mem_some_iff] at hmem
      exact hmem ▸ hreserves.free
    · exact (hreserves.ne_of_none (hrest.free other hother id hmem)).1
  · intro key hne hnone
    rw [htables]
    exact hrest.unused key
      (fun other hother => hne other (List.mem_cons_of_mem _ hother))
      (hreserves.unused (hne completed List.mem_cons_self) hnone)
  · intro id stored hstored
    rw [htables]
    exact hrest.kept id stored (hreserves.kept hstored)
  · intro other hother reservation hmade
    rw [htables]
    rcases List.mem_cons.mp hother with rfl | hother
    · exact hrest.kept _ _ (hreserves.made hmade)
    · exact hrest.stored other hother reservation hmade
  · obtain ⟨left, hleft, hstock⟩ := hrest.stock
    refine ⟨left, by rw [htables]; exact hleft, ?_⟩
    rw [hlevel] at hstock
    rw [List.length_cons]
    push_cast
    linarith

/-- Reservations one after another under keys of their own. -/
theorem Serial.booked {calls : List Completed} (hwell : db.WellFormed)
    (hserial : Serial db calls)
    (hbids : ∀ completed ∈ calls,
      completed.call.Bids productId quantity customer)
    (hkeys : calls.Pairwise fun first second =>
      ∀ key, first.call.key = some key → second.call.key ≠ some key)
    (hunused : ∀ completed ∈ calls, db.Unused customer completed.call.key)
    (hpositive : PositiveQuantity quantity)
    (hfind : db.findProduct productId = some row) :
    Booked productId quantity customer db row calls := by
  induction calls generalizing db row with
  | nil => exact .nil hfind
  | cons completed calls ih =>
      obtain ⟨hhappens, hrest⟩ := hserial
      obtain ⟨hfirst, hothers⟩ := List.pairwise_cons.mp hkeys
      obtain ⟨fresh, hreserves⟩ := hhappens.reserves
        (hbids completed List.mem_cons_self)
        (hunused completed List.mem_cons_self) hwell hfind
      have hnext : (db.applyAll completed.session.writes).WellFormed :=
        (hhappens.legalAll hwell).wellFormed hwell
      have hrange := hwell.stockInRange (Database.findProduct_mem hfind)
      refine .cons hreserves (ih hnext hrest ?_ hothers ?_
        (hreserves.findProduct hfind)) (toInt_reserveStock hrange hpositive)
      · exact fun other hother => hbids other (List.mem_cons_of_mem _ hother)
      · intro other hother key hkey
        exact hreserves.unused
          (fun hsame => hfirst other hother key hsame hkey)
          (hunused other (List.mem_cons_of_mem _ hother) key hkey)

/-! ### One commit that writes -/

/-- After a first call that writes, and others that do not, the tables are
those before or those after the first one. -/
theorem tables_of_first {first : Completed} {rest earlier later :
      List Completed} (hquiet : ∀ completed ∈ rest,
        completed.session.writes = [])
    (hsplit : first :: rest = earlier ++ later) :
    earlier = [] ∨ ∀ db : Database, db.applyAll (writesOf earlier) =
      db.applyAll first.session.writes := by
  cases earlier with
  | nil => exact Or.inl rfl
  | cons head others =>
      obtain ⟨rfl, hrest⟩ := List.cons.inj hsplit
      have hnone : writesOf others = [] := by
        apply List.flatMap_eq_nil_iff.mpr
        intro completed hmem
        exact hquiet completed (by simp [hrest, hmem])
      refine Or.inr fun db => ?_
      rw [writesOf_cons, hnone, List.append_nil]

/-- Reservations under one key: the first makes the reservation, the others
are answered with one. -/
theorem Serial.keyed {first : Completed} {rest : List Completed}
    {key : JavaString} (hwell : db.WellFormed)
    (hserial : Serial db (first :: rest))
    (hbids : ∀ completed ∈ first :: rest,
      completed.call.Bids productId quantity customer ∧
        completed.call.key = some key)
    (hunused : db.findByCustomerIdAndIdempotencyKey customer key = none)
    (hfind : db.findProduct productId = some row) :
    ∃ fresh, first.returned = .reservationResult (Reservation.created fresh
          productId quantity customer (some key)) false ∧
        db.applyAll first.session.writes = db.reserving (Reservation.created
          fresh productId quantity customer (some key)) row ∧
        ∀ completed ∈ rest, completed.session.writes = [] ∧
          ∃ reservation, completed.returned =
            .reservationResult reservation true := by
  obtain ⟨hhappens, hrest⟩ := hserial
  obtain ⟨⟨fresh, hcall⟩, hkey⟩ := hbids first List.mem_cons_self
  rw [hkey] at hcall
  have hown : db.Unused customer (some key) := by
    intro other hsame
    rw [← Option.some.inj hsame]
    exact hunused
  have hperforms := hhappens.performs hcall hown hwell
  rw [hcall] at hperforms
  obtain ⟨hreturned, -, hwrites, -⟩ := hperforms.reserves hown hfind
  have hafter : db.applyAll first.session.writes = db.reserving
      (Reservation.created fresh productId quantity customer (some key))
        row := by
    rw [hwrites]
    rfl
  have hreplays : ∀ completed ∈ rest, completed.HappensOn
      (db.reserving (Reservation.created fresh productId quantity customer
        (some key)) row) → completed.session.writes = [] ∧
          ∃ reservation, completed.returned =
            .reservationResult reservation true := by
    intro completed hmem hthere
    obtain ⟨⟨other, hother⟩, hsame⟩ :=
      hbids completed (List.mem_cons_of_mem _ hmem)
    rw [hsame] at hother
    exact hthere.quiet_of_used hother (findByKey_reserving_self hunused)
  rw [hafter] at hrest
  refine ⟨fresh, hreturned, hafter, fun completed hmem => ?_⟩
  have hthere := hrest.quiet fun other hother hhappens =>
    (hreplays other hother hhappens).1
  exact hreplays completed hmem (hthere completed hmem)

/-! ### Cancellations of one reservation -/

/-- The call cancels the reservation for the customer. -/
def Call.Cancels (id : UUID) (customer : JavaString) (call : Call) : Prop :=
  ∃ now, call = .cancelReservation now id (some customer)

/-- The first cancellation of an active reservation cancels it, the others
write nothing. -/
theorem Serial.cancelled {first : Completed} {rest : List Completed}
    {reservation : Reservation} (hwell : db.WellFormed)
    (hserial : Serial db (first :: rest))
    (hcalls : ∀ completed ∈ first :: rest,
      completed.call.Cancels reservation.id customer)
    (hmem : reservation ∈ db.reservations)
    (hactive : reservation.status = .active) :
    ∃ cancelled, cancelled.id = reservation.id ∧
      cancelled.status = .cancelled ∧
        first.returned = .reservation cancelled ∧
          first.session.writes ≠ [] ∧
            CancelledBetween cancelled db
              (db.applyAll first.session.writes) ∧
              ∀ completed ∈ rest, completed.session.writes = [] := by
  obtain ⟨hhappens, hrest⟩ := hserial
  obtain ⟨now, hcall⟩ := hcalls first List.mem_cons_self
  have hstored := hwell.findReservation_of_mem hmem
  obtain ⟨call, returned, session⟩ := first
  dsimp only at hcall
  subst hcall
  -- A replay has read a cancelled row, which stays cancelled.
  have hloud : ∀ view : Database, view.WellFormed → view.Evolves db →
      Performs view (.cancelReservation now reservation.id (some customer))
        returned session → session.writes ≠ [] ∧
          ∃ cancelled, returned = .reservation cancelled ∧
            cancelled.status = .cancelled := by
    intro view hview hevolves hperforms
    cases hperforms with
    | cancelled => exact ⟨by simp, _, rfl, rfl⟩
    | @cancellationReplayed _ _ _ _ row hcustomer hfind hnot =>
        obtain ⟨hrow, hid, -⟩ := Database.findByIdAndCustomerId_some hfind
        have hstatus : row.status = .cancelled := by
          cases hcase : row.status with
          | active => exact absurd hcase hnot
          | cancelled => rfl
        have hstays := hevolves.cancelled_stays
          (hview.findReservation_of_mem hrow) hstatus
        rw [hid, hstored, Option.some.injEq] at hstays
        rw [hstays, hstatus] at hactive
        cases hactive
  have hperforms : Performs db (.cancelReservation now reservation.id
      (some customer)) returned session := by
    rcases hhappens with hperforms | ⟨hquiet, moment, hmoment, hevolves, hthen⟩
    · exact hperforms
    · exact absurd hquiet (hloud moment hmoment hevolves hthen).1
  obtain ⟨hwrites, other, hother, hstatus⟩ :=
    hloud db hwell (.refl db) hperforms
  obtain ⟨cancelled, hid, hreturned, hbetween⟩ :=
    hperforms.cancelledBetween hwell hwrites
  have hsame : other = cancelled :=
    Returned.reservation.inj (hother.symm.trans hreturned)
  rw [hsame] at hstatus
  have hafter : (db.applyAll session.writes).findReservation reservation.id =
      some cancelled := hid ▸ hbetween.isCancelled
  refine ⟨cancelled, hid, hstatus, hreturned, hwrites, hbetween, ?_⟩
  have hreplays : ∀ completed ∈ rest,
      completed.HappensOn (db.applyAll session.writes) →
        completed.session.writes = [] := by
    rintro ⟨call, returned, session⟩ hmember hthere
    obtain ⟨later, hlater⟩ := hcalls _ (List.mem_cons_of_mem _ hmember)
    dsimp only at hlater
    subst hlater
    rcases hthere with hthere | ⟨hquiet, -⟩
    · cases hthere with
      | cancellationReplayed => rfl
      | @cancelled _ _ _ _ row product hcustomer hfind hopen =>
          obtain ⟨hrow, hsame, -⟩ := Database.findByIdAndCustomerId_some hfind
          have hnext := (hhappens.legalAll hwell).wellFormed hwell
          have hfound := hnext.findReservation_of_mem hrow
          rw [hsame] at hfound
          rw [hafter, Option.some.injEq] at hfound
          rw [← hfound, hstatus] at hopen
          cases hopen
    · exact hquiet
  intro completed hmember
  exact hreplays completed hmember (hrest.quiet hreplays completed hmember)

end InventoryCloud
