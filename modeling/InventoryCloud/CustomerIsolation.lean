import InventoryCloud.InventoryEndpoints
import InventoryCloud.CommittedHistory

/-!
# Customers do not see each other

Two states that agree on the products and on one customer's reservations give
the same answers to that customer, and go on agreeing.  No call of another
customer touches the reservations of the first.
-/

namespace InventoryCloud

open InventoryService
open Interaction

/-- The tables are the same as far as the customer is concerned. -/
structure Database.EqualFor (customer : JavaString)
    (first second : Database) : Prop where
  products : ∀ row, row ∈ first.products ↔ row ∈ second.products
  reservations : ∀ row : Reservation, row.customerId = customer →
    (row ∈ first.reservations ↔ row ∈ second.reservations)

namespace Database

theorem EqualFor.symm {customer : JavaString} {first second : Database}
    (hequal : EqualFor customer first second) :
    EqualFor customer second first where
  products row := (hequal.products row).symm
  reservations row howner := (hequal.reservations row howner).symm

/-! ## Queries -/

namespace WellFormed

variable {db : Database}

theorem findProduct_eq_some_iff (hwell : db.WellFormed) {id : UUID}
    {product : Product} : db.findProduct id = some product ↔
      product ∈ db.products ∧ product.id = id := by
  constructor
  · intro hfind
    exact ⟨findProduct_mem hfind, findProduct_id hfind⟩
  · rintro ⟨hmem, rfl⟩
    exact hwell.findProduct_of_mem hmem

theorem findByIdAndCustomerId_eq_some_iff (hwell : db.WellFormed) {id : UUID}
    {customer : JavaString} {reservation : Reservation} :
    db.findByIdAndCustomerId id customer = some reservation ↔
      reservation ∈ db.reservations ∧ reservation.id = id ∧
        reservation.customerId = customer := by
  constructor
  · exact findByIdAndCustomerId_some
  · rintro ⟨hmem, rfl, rfl⟩
    rw [hwell.findByIdAndCustomerId_eq, hwell.findReservation_of_mem hmem]
    simp [Option.filter]

theorem findByCustomerIdAndIdempotencyKey_eq_some_iff (hwell : db.WellFormed)
    {customer key : JavaString} {reservation : Reservation} :
    db.findByCustomerIdAndIdempotencyKey customer key = some reservation ↔
      reservation ∈ db.reservations ∧ reservation.customerId = customer ∧
        reservation.idempotencyKey = some key := by
  constructor
  · exact findByCustomerIdAndIdempotencyKey_some
  · rintro ⟨hmem, rfl, hkey⟩
    exact hwell.findByCustomerIdAndIdempotencyKey_of_mem hmem hkey

end WellFormed

namespace EqualFor

variable {customer : JavaString} {first second : Database}

theorem findProduct (hequal : EqualFor customer first second)
    (hfirst : first.WellFormed) (hsecond : second.WellFormed) (id : UUID) :
    first.findProduct id = second.findProduct id := by
  ext product
  rw [hfirst.findProduct_eq_some_iff, hsecond.findProduct_eq_some_iff,
    hequal.products]

theorem findByIdAndCustomerId (hequal : EqualFor customer first second)
    (hfirst : first.WellFormed) (hsecond : second.WellFormed) (id : UUID) :
    first.findByIdAndCustomerId id customer =
      second.findByIdAndCustomerId id customer := by
  ext reservation
  rw [hfirst.findByIdAndCustomerId_eq_some_iff,
    hsecond.findByIdAndCustomerId_eq_some_iff]
  constructor
  · rintro ⟨hmem, hid, howner⟩
    exact ⟨(hequal.reservations _ howner).mp hmem, hid, howner⟩
  · rintro ⟨hmem, hid, howner⟩
    exact ⟨(hequal.reservations _ howner).mpr hmem, hid, howner⟩

theorem findByCustomerIdAndIdempotencyKey
    (hequal : EqualFor customer first second) (hfirst : first.WellFormed)
    (hsecond : second.WellFormed) (key : JavaString) :
    first.findByCustomerIdAndIdempotencyKey customer key =
      second.findByCustomerIdAndIdempotencyKey customer key := by
  ext reservation
  rw [hfirst.findByCustomerIdAndIdempotencyKey_eq_some_iff,
    hsecond.findByCustomerIdAndIdempotencyKey_eq_some_iff]
  constructor
  · rintro ⟨hmem, howner, hkey⟩
    exact ⟨(hequal.reservations _ howner).mp hmem, howner, hkey⟩
  · rintro ⟨hmem, howner, hkey⟩
    exact ⟨(hequal.reservations _ howner).mpr hmem, howner, hkey⟩

/-- The customer's rows are the same up to their order in the table. -/
theorem perm (hequal : EqualFor customer first second)
    (hfirst : first.WellFormed) (hsecond : second.WellFormed) :
    (first.reservations.filter (·.customerId = customer)).Perm
      (second.reservations.filter (·.customerId = customer)) := by
  have hnodup : ∀ {db : Database}, db.WellFormed →
      (db.reservations.filter (·.customerId = customer)).Nodup := by
    intro db hwell
    exact (List.Nodup.of_map _ hwell.reservationIds).filter _
  refine (List.perm_ext_iff_of_nodup (hnodup hfirst) (hnodup hsecond)).mpr
    fun row => ?_
  simp only [List.mem_filter, decide_eq_true_eq]
  constructor
  · rintro ⟨hmem, howner⟩
    exact ⟨(hequal.reservations row howner).mp hmem, howner⟩
  · rintro ⟨hmem, howner⟩
    exact ⟨(hequal.reservations row howner).mpr hmem, howner⟩

end EqualFor

end Database

/-! ## Sorted pages -/

section

variable {α : Type} {createdAt : α → Instant} {id : α → UUID}

theorem newestFirst_trans (first second third : α)
    (hfirst : newestFirst createdAt id first second = true)
    (hsecond : newestFirst createdAt id second third = true) :
    newestFirst createdAt id first third = true := by
  simp only [newestFirst, Bool.or_eq_true, decide_eq_true_eq,
    Bool.and_eq_true, beq_iff_eq] at hfirst hsecond ⊢
  rcases hfirst with hlater | ⟨hsame, hid⟩
  · rcases hsecond with hnext | ⟨hsame, -⟩
    · exact Or.inl (hnext.trans hlater)
    · exact Or.inl (hsame ▸ hlater)
  · rcases hsecond with hnext | ⟨hsame', hid'⟩
    · exact Or.inl (hsame ▸ hnext)
    · exact Or.inr ⟨hsame.trans hsame', BitVec.le_trans hid hid'⟩

theorem newestFirst_total (first second : α) :
    (newestFirst createdAt id first second ||
      newestFirst createdAt id second first) = true := by
  simp only [newestFirst, Bool.or_eq_true, decide_eq_true_eq,
    Bool.and_eq_true, beq_iff_eq]
  rcases lt_trichotomy (createdAt first).epochNanos
    (createdAt second).epochNanos with hlt | heq | hgt
  · exact Or.inr (Or.inl hlt)
  · rcases BitVec.le_total (id first) (id second) with hle | hle
    · exact Or.inl (Or.inr ⟨heq, hle⟩)
    · exact Or.inr (Or.inr ⟨heq.symm, hle⟩)
  · exact Or.inl (Or.inl hgt)

theorem newestFirst_antisymm {first second : α}
    (hfirst : newestFirst createdAt id first second = true)
    (hsecond : newestFirst createdAt id second first = true) :
    id first = id second := by
  simp only [newestFirst, Bool.or_eq_true, decide_eq_true_eq,
    Bool.and_eq_true, beq_iff_eq] at hfirst hsecond
  rcases hfirst with hlater | ⟨hsame, hid⟩
  · rcases hsecond with hearlier | ⟨hsame, -⟩
    · exact absurd hlater (lt_asymm hearlier)
    · exact absurd hsame (ne_of_gt hlater).symm
  · rcases hsecond with hearlier | ⟨-, hid'⟩
    · exact absurd hsame (ne_of_lt hearlier)
    · exact BitVec.le_antisymm hid hid'

/-- A page of rows with distinct ids does not depend on their order. -/
theorem Page.of_perm {rows others : List α} (hperm : rows.Perm others)
    (hids : (rows.map id).Nodup) (request : PageRequest) :
    Page.of rows createdAt id request = Page.of others createdAt id request := by
  have hsorted : rows.mergeSort (newestFirst createdAt id) =
      others.mergeSort (newestFirst createdAt id) := by
    have hsame : (rows.mergeSort (newestFirst createdAt id)).Perm
        (others.mergeSort (newestFirst createdAt id)) :=
      (List.mergeSort_perm rows _).trans
        (hperm.trans (List.mergeSort_perm others _).symm)
    refine List.Perm.eq_of_pairwise (fun first second hfirst hsecond => ?_)
      (List.pairwise_mergeSort newestFirst_trans newestFirst_total rows)
      (List.pairwise_mergeSort newestFirst_trans newestFirst_total others)
      hsame
    intro hle hge
    have hrow := (List.mergeSort_perm rows _).mem_iff.mp hfirst
    have hother := hperm.mem_iff.mpr
      ((List.mergeSort_perm others _).mem_iff.mp hsecond)
    exact List.inj_on_of_nodup_map hids hrow hother
      (newestFirst_antisymm hle hge)
  unfold Page.of
  rw [hsorted, hperm.length_eq]

end

/-! ## Calls of the customer -/

/-- The call is about the customer's own reservations. -/
def Call.IsBy (customer : JavaString) : Call → Prop
  | .reserve _ _ _ given _ => given = some customer
  | .listReservations given _ => given = some customer
  | .getReservation _ given => given = some customer
  | .cancelReservation _ _ given => given = some customer
  | _ => False

section

variable {customer : JavaString} {first second : Database}

open Database

theorem Database.EqualFor.accepts_updateProduct
    (hequal : EqualFor customer first second) (hfirst : first.WellFormed)
    (hsecond : second.WellFormed) (product : Product) :
    first.accepts (.updateProduct product) =
      second.accepts (.updateProduct product) := by
  simp only [accepts, hequal.findProduct hfirst hsecond]

theorem Database.EqualFor.accepts_insertReservation
    (hequal : EqualFor customer first second) (hfirst : first.WellFormed)
    (hsecond : second.WellFormed) {reservation : Reservation}
    (howner : reservation.customerId = customer)
    (hfresh : first.findReservation reservation.id = none)
    (hfresh' : second.findReservation reservation.id = none) :
    first.accepts (.insertReservation reservation) =
      second.accepts (.insertReservation reservation) := by
  simp only [accepts, hfresh, hfresh', howner,
    hequal.findByCustomerIdAndIdempotencyKey hfirst hsecond]

/-- The locked row of the customer is the row under its id in both tables. -/
theorem Database.EqualFor.findReservation
    (hequal : EqualFor customer first second) (hfirst : first.WellFormed)
    (hsecond : second.WellFormed) {id : UUID} {reservation : Reservation}
    (hfind : first.findByIdAndCustomerId id customer = some reservation) :
    first.findReservation reservation.id = some reservation ∧
      second.findReservation reservation.id = some reservation := by
  obtain ⟨hmem, -, howner⟩ := findByIdAndCustomerId_some hfind
  exact ⟨hfirst.findReservation_of_mem hmem,
    hsecond.findReservation_of_mem ((hequal.reservations _ howner).mp hmem)⟩

theorem agreeOn_flushing (hequal : EqualFor customer first second)
    (hfirst : first.WellFormed) (hsecond : second.WellFormed)
    {session : Session} {returned : Returned} {writes : List Write}
    (haccepts : ∀ write ∈ writes,
      first.accepts write = second.accepts write) :
    (session.flushing returned writes).AgreeOn (Statement.answer first)
      (Statement.answer second) := by
  induction writes with
  | nil => trivial
  | cons write writes ih =>
      have hrest := ih fun other hother =>
        haccepts other (List.mem_cons_of_mem _ hother)
      refine ⟨haccepts write List.mem_cons_self, ?_⟩
      change Program.AgreeOn _ _ (if first.accepts write = true then
        session.referencing write (session.flushing returned writes) else _)
      by_cases haccept : first.accepts write = true
      · rw [if_pos haccept]
        cases write with
        | insertReservation reservation =>
            have hproduct := hequal.findProduct hfirst hsecond
              reservation.productId
            refine ⟨congrArg Option.isSome hproduct, ?_⟩
            change Program.AgreeOn _ _
              (if (first.findProduct reservation.productId).isSome = true then
                session.flushing returned writes else _)
            split
            next => exact hrest
            next => trivial
        | _ => exact hrest
      · rw [if_neg haccept]
        trivial

private theorem agreeOn_reserveNew (hequal : EqualFor customer first second)
    (hfirst : first.WellFormed) (hsecond : second.WellFormed) {fresh : Fresh}
    {productId : UUID} {quantity : Int32}
    {customerId idempotencyKey : Option JavaString}
    (hcustomer : Reservation.validateCustomerId customerId = .ok customer)
    (hvalid : Reservation.validateIdempotencyKey idempotencyKey = .ok ())
    (hfresh : first.findReservation fresh.id = none)
    (hfresh' : second.findReservation fresh.id = none) :
    (reserveNewProgram fresh productId quantity customerId
      idempotencyKey).AgreeOn (Statement.answer first)
        (Statement.answer second) := by
  refine ⟨hequal.findProduct hfirst hsecond productId, ?_⟩
  cases hfind : first.findProduct productId with
  | none =>
      have hanswer : Statement.answer first
          (.findProductByIdForUpdate productId) = none := hfind
      rw [hanswer]
      trivial
  | some product =>
      have hanswer : Statement.answer first
          (.findProductByIdForUpdate productId) = some product := hfind
      rw [hanswer]
      simp only [Reservation.new_call hcustomer hvalid,
        Product.reserveStock_call]
      by_cases hquantity : PositiveQuantity quantity
      · by_cases hstock : product.availableQuantity < quantity
        · simp only [if_pos hquantity, if_pos hstock]
          trivial
        · simp only [if_pos hquantity, if_neg hstock, Session.finish_eq]
          refine agreeOn_flushing hequal hfirst hsecond fun write hwrite => ?_
          simp only [Session.flushPlan, reservedSession, Session.isInsert,
            List.filter_cons, List.filter_nil, Bool.not_false, Bool.not_true,
            if_true, Bool.false_eq_true, if_false, List.cons_append,
            List.nil_append, List.mem_cons, List.not_mem_nil, or_false]
            at hwrite
          rcases hwrite with rfl | rfl
          · exact hequal.accepts_insertReservation hfirst hsecond rfl hfresh
              hfresh'
          · exact hequal.accepts_updateProduct hfirst hsecond _
      · simp only [if_neg hquantity]
        trivial

private theorem agreeOn_reserve (hequal : EqualFor customer first second)
    (hfirst : first.WellFormed) (hsecond : second.WellFormed) (fresh : Fresh)
    (productId : UUID) (quantity : Int32) (idempotencyKey : Option JavaString)
    (hfresh : first.findReservation fresh.id = none)
    (hfresh' : second.findReservation fresh.id = none) :
    (Call.reserve fresh productId quantity (some customer)
      idempotencyKey).program.AgreeOn (Statement.answer first)
        (Statement.answer second) := by
  rw [reserve_program]
  by_cases hquantity : PositiveQuantity quantity
  · rw [if_pos hquantity]
    cases hcustomer : Reservation.validateCustomerId (some customer) with
    | error exception => trivial
    | ok owner =>
        have howner := Reservation.validateCustomerId_ok hcustomer
        cases howner
        cases hvalid : Reservation.validateIdempotencyKey idempotencyKey with
        | error exception => trivial
        | ok _ =>
            cases idempotencyKey with
            | none =>
                exact agreeOn_reserveNew hequal hfirst hsecond hcustomer
                  hvalid hfresh hfresh'
            | some key =>
                have hlookup := hequal.findByCustomerIdAndIdempotencyKey
                  hfirst hsecond key
                refine ⟨rfl, hlookup, ?_⟩
                cases hfind :
                    first.findByCustomerIdAndIdempotencyKey customer key with
                | none =>
                    have hanswer : Statement.answer first
                        (.findByCustomerIdAndIdempotencyKey customer key) =
                          none := hfind
                    rw [hanswer]
                    exact agreeOn_reserveNew hequal hfirst hsecond hcustomer
                      hvalid hfresh hfresh'
                | some reservation =>
                    have hanswer : Statement.answer first
                        (.findByCustomerIdAndIdempotencyKey customer key) =
                          some reservation := hfind
                    rw [hanswer]
                    dsimp only
                    split <;> trivial
  · rw [if_neg hquantity]
    trivial

private theorem agreeOn_cancelReservation
    (hequal : EqualFor customer first second) (hfirst : first.WellFormed)
    (hsecond : second.WellFormed) (now : Instant) (id : UUID) :
    (Call.cancelReservation now id (some customer)).program.AgreeOn
      (Statement.answer first) (Statement.answer second) := by
  rw [cancelReservation_program]
  cases hcustomer : Reservation.validateCustomerId (some customer) with
  | error exception => trivial
  | ok owner =>
      have howner := Reservation.validateCustomerId_ok hcustomer
      cases howner
      refine ⟨hequal.findByIdAndCustomerId hfirst hsecond id, ?_⟩
      cases hfind : first.findByIdAndCustomerId id customer with
      | none =>
          have hanswer : Statement.answer first
              (.findOwnedForUpdate id customer) = none := hfind
          rw [hanswer]
          trivial
      | some reservation =>
          have hanswer : Statement.answer first
              (.findOwnedForUpdate id customer) = some reservation := hfind
          rw [hanswer]
          have hproducts := hequal.findProduct hfirst hsecond
            reservation.productId
          by_cases hactive : reservation.status = .active
          · simp only [if_pos hactive]
            refine ⟨hproducts, ?_⟩
            cases hproduct : first.findProduct reservation.productId with
            | none =>
                have hfound : Statement.answer first
                    (.findProductByIdForUpdate reservation.productId) =
                      none := hproduct
                rw [hfound]
                trivial
            | some product =>
                have hfound : Statement.answer first
                    (.findProductByIdForUpdate reservation.productId) =
                      some product := hproduct
                rw [hfound]
                simp only [Reservation.cancel_call, hactive,
                  Product.addStock_call, reduceCtorEq, if_false]
                by_cases hquantity : PositiveQuantity reservation.quantity
                · by_cases hcap : maxQuantity - product.availableQuantity <
                      reservation.quantity
                  · simp only [if_pos hquantity, if_pos hcap]
                    trivial
                  · simp only [if_pos hquantity, if_neg hcap,
                      Session.finish_eq]
                    refine agreeOn_flushing hequal hfirst hsecond
                      fun write hwrite => ?_
                    rcases List.mem_cons.mp hwrite with rfl | hlast
                    · exact hequal.accepts_updateProduct hfirst hsecond _
                    · rw [List.mem_singleton.mp hlast]
                      obtain ⟨hrow, hrow'⟩ :=
                        hequal.findReservation hfirst hsecond hfind
                      simp only [accepts, hrow, hrow']
                · simp only [if_neg hquantity]
                  trivial
          · simp only [if_neg hactive]
            refine ⟨hproducts, ?_⟩
            cases Statement.answer first
                (.findProductById reservation.productId) with
            | none => trivial
            | some product => trivial

/-- The customer's call asks for nothing that differs. -/
theorem agreeOn_program (hequal : EqualFor customer first second)
    (hfirst : first.WellFormed) (hsecond : second.WellFormed) {call : Call}
    (hby : call.IsBy customer)
    (hfresh : ∀ id, call.freshId = some id →
      first.findReservation id = none ∧ second.findReservation id = none) :
    call.program.AgreeOn (Statement.answer first)
      (Statement.answer second) := by
  cases call with
  | createProduct | listProducts | getProduct | addStock => exact absurd hby id
  | reserve fresh productId quantity given idempotencyKey =>
      obtain rfl : given = some customer := hby
      obtain ⟨hnone, hnone'⟩ := hfresh fresh.id rfl
      exact agreeOn_reserve hequal hfirst hsecond fresh productId quantity
        idempotencyKey hnone hnone'
  | listReservations given request =>
      obtain rfl : given = some customer := hby
      rw [listReservations_program]
      cases hcustomer : Reservation.validateCustomerId (some customer) with
      | error exception => trivial
      | ok owner =>
          have howner := Reservation.validateCustomerId_ok hcustomer
          cases howner
          have hids : ((first.reservations.filter
              (·.customerId = customer)).map (·.id)).Nodup :=
            hfirst.reservationIds.sublist (List.filter_sublist.map _)
          have hpage : first.findAllByCustomerId customer request =
              second.findAllByCustomerId customer request :=
            Page.of_perm (hequal.perm hfirst hsecond) hids request
          exact ⟨hpage, trivial⟩
  | getReservation id given =>
      obtain rfl : given = some customer := hby
      rw [getReservation_program]
      cases hcustomer : Reservation.validateCustomerId (some customer) with
      | error exception => trivial
      | ok owner =>
          have howner := Reservation.validateCustomerId_ok hcustomer
          cases howner
          refine ⟨hequal.findByIdAndCustomerId hfirst hsecond id, ?_⟩
          cases Statement.answer first
              (.findByIdAndCustomerId id customer) with
          | none => trivial
          | some reservation => trivial
  | cancelReservation now id given =>
      obtain rfl : given = some customer := hby
      exact agreeOn_cancelReservation hequal hfirst hsecond now id

end

/-! ## Written rows -/

namespace Database

variable {customer : JavaString} {first second : Database}

theorem EqualFor.apply (hequal : EqualFor customer first second)
    (write : Write) :
    EqualFor customer (first.apply write) (second.apply write) := by
  cases write with
  | insertProduct product =>
      refine ⟨fun row => ?_, hequal.reservations⟩
      simp only [Database.apply, List.mem_append, hequal.products]
  | updateProduct product =>
      refine ⟨fun row => ?_, hequal.reservations⟩
      simp only [Database.apply, List.mem_map, hequal.products]
  | insertReservation reservation =>
      refine ⟨hequal.products, fun row howner => ?_⟩
      simp only [Database.apply, List.mem_append,
        hequal.reservations row howner]
  | updateReservation reservation =>
      refine ⟨hequal.products, fun row howner => ?_⟩
      have hmoved : ∀ {db other : Database}, EqualFor customer db other →
          row ∈ db.reservations.map (reservationVersion reservation) →
            row ∈ other.reservations.map (reservationVersion reservation) := by
        intro db other hsame hmem
        obtain ⟨old, hold, rfl⟩ := List.mem_map.mp hmem
        rw [reservationVersion_customerId] at howner
        exact List.mem_map_of_mem ((hsame.reservations old howner).mp hold)
      exact ⟨hmoved hequal, hmoved hequal.symm⟩

theorem EqualFor.applyAll (hequal : EqualFor customer first second)
    (writes : List Write) :
    EqualFor customer (first.applyAll writes) (second.applyAll writes) := by
  induction writes generalizing first second with
  | nil => exact hequal
  | cons write writes ih => exact ih (hequal.apply write)

/-- The customer's reservations are the same. -/
def Keeps (customer : JavaString) (before after : Database) : Prop :=
  ∀ row : Reservation, row.customerId = customer →
    (row ∈ after.reservations ↔ row ∈ before.reservations)

end Database

open Database in
/-- A call of someone else keeps the customer's reservations. -/
theorem Performs.keeps {view : Database} {call : Call} {returned : Returned}
    {session : Session} {customer : JavaString} (hwell : view.WellFormed)
    (hperforms : Performs view call returned session)
    (hby : ¬ call.IsBy customer) :
    Keeps customer view (view.applyAll session.writes) := by
  intro row howner
  cases hperforms with
  | created hnew haccept => exact Iff.rfl
  | restocked hquantity hfind hfits hadmits => exact Iff.rfl
  | @reserved fresh productId quantity given idempotencyKey owner product
      hquantity hcustomer hkey hfind hstock hinsert hupdate =>
      have hgiven := Reservation.validateCustomerId_ok hcustomer
      have hne : row ≠ Reservation.created fresh productId quantity owner
          idempotencyKey := by
        rintro rfl
        exact hby (hgiven.trans (congrArg some howner))
      simp only [reservedSession_writes, applyAll_cons, applyAll_nil,
        Database.apply, List.mem_append, List.mem_singleton, hne, or_false]
  | @cancelled now id given owner reservation product hcustomer hfind hactive
      hproduct hquantity hfits hproductUpdate hupdate =>
      have hgiven := Reservation.validateCustomerId_ok hcustomer
      obtain ⟨hmem, -, hown⟩ := findByIdAndCustomerId_some hfind
      have hother : ∀ other ∈ view.reservations,
          other.customerId = customer → other.id ≠ reservation.id := by
        intro other hrow hcustomerId hsame
        have heq : other = reservation :=
          List.inj_on_of_nodup_map hwell.reservationIds hrow hmem hsame
        exact hby (hgiven.trans (congrArg some
          ((hown.symm.trans (heq ▸ rfl)).trans hcustomerId)))
      simp only [cancelledSession_writes, applyAll_cons, applyAll_nil,
        Database.apply, List.mem_map]
      constructor
      · rintro ⟨old, hold, rfl⟩
        rw [reservationVersion_customerId] at howner
        rwa [reservationVersion, if_neg]
        exact hother old hold howner
      · intro hrow
        exact ⟨row, hrow, if_neg (hother row hrow howner)⟩
  | _ => exact Iff.rfl

theorem Call.keeps {call : Call} {db : Database} {customer : JavaString}
    (hwell : db.WellFormed) (hby : ¬ call.IsBy customer) :
    Database.Keeps customer db (call.after db) := by
  unfold Call.after
  rcases hresult : call.resultOn db with ⟨exception | returned, session⟩
  · exact fun row _ => Iff.rfl
  · exact (performs_of_resultOn hresult).keeps hwell hby

/-! ## Isolation -/

open InventoryController

/-- The request goes to one of the reservation endpoints. -/
def InventoryController.Request.ConcernsReservations : Request → Prop
  | .reserve _ _ _ _ => True
  | .listReservations _ _ => True
  | .getReservation _ => True
  | .cancel _ _ => True
  | _ => False

theorem InventoryController.Request.isBy {customer : JavaString}
    {request : Request} {call : Call}
    (hconcerns : request.ConcernsReservations)
    (hcall : request.call customer = .ok call) : call.IsBy customer := by
  cases request with
  | createProduct | listProducts | getProduct | addStock =>
      exact absurd hconcerns id
  | listReservations page size =>
      simp only [Request.call] at hcall
      cases hpage : pagination page size with
      | error exception =>
          rw [hpage] at hcall
          cases hcall
      | ok requested =>
          rw [hpage] at hcall
          cases hcall
          rfl
  | _ =>
      cases hcall
      rfl

theorem InventoryController.Request.not_isBy {customer other : JavaString}
    {request : Request} {call : Call} (hne : other ≠ customer)
    (hcall : request.call other = .ok call) : ¬ call.IsBy customer := by
  have hnot : some other ≠ some customer := by simpa using hne
  cases request with
  | listProducts page size | listReservations page size =>
      simp only [Request.call] at hcall
      cases hpage : pagination page size with
      | error exception =>
          rw [hpage] at hcall
          cases hcall
      | ok requested =>
          rw [hpage] at hcall
          cases hcall
          first | exact hnot | exact id
  | _ =>
      cases hcall
      first | exact hnot | exact id

theorem Call.resultOn_of_equalFor {call : Call} {customer : JavaString}
    {first second : Database} (hequal : Database.EqualFor customer first second)
    (hfirst : first.WellFormed) (hsecond : second.WellFormed)
    (hby : call.IsBy customer)
    (hfresh : ∀ id, call.freshId = some id →
      first.findReservation id = none ∧ second.findReservation id = none) :
    call.resultOn first = call.resultOn second ∧
      Database.EqualFor customer (call.after first) (call.after second) := by
  have hsame : call.resultOn first = call.resultOn second :=
    (agreeOn_program hequal hfirst hsecond hby hfresh).eval
  refine ⟨hsame, ?_⟩
  unfold Call.after
  rw [hsame]
  exact hequal.applyAll _

namespace System

variable {sha256 : List UInt8 → List UInt8}

/-- What one customer sees and does is independent of the others. -/
theorem Reachable.customer_isolation {s s' : System}
    (hreach : Reachable sha256 s) (hreach' : Reachable sha256 s')
    {customer : JavaString}
    (hequal : Database.EqualFor customer s.db s'.db) :
    (∀ call : Call, call.IsBy customer →
      (∀ id, call.freshId = some id → s.db.findReservation id = none ∧
        s'.db.findReservation id = none) →
        call.resultOn s.db = call.resultOn s'.db ∧
          Database.EqualFor customer (call.after s.db) (call.after s'.db)) ∧
      (∀ request : Request, request.ConcernsReservations →
        (∀ call id, request.call customer = .ok call →
          call.freshId = some id → s.db.findReservation id = none ∧
            s'.db.findReservation id = none) →
          (handle customer request s.db).1 =
              (handle customer request s'.db).1 ∧
            Database.EqualFor customer (handle customer request s.db).2
              (handle customer request s'.db).2) ∧
      (∀ call : Call, ¬ call.IsBy customer →
        Database.Keeps customer s.db (call.after s.db)) ∧
      (∀ other request, other ≠ customer →
        Database.Keeps customer s.db (handle other request s.db).2) ∧
      (∀ before completed after, s.durable = before ++ completed :: after →
        ¬ completed.call.IsBy customer →
          Database.Keeps customer
            (Database.empty.applyAll (writesOf before))
            (Database.empty.applyAll (writesOf (before ++ [completed])))) := by
  have hwell := hreach.invariant.wellFormed
  have hwell' := hreach'.invariant.wellFormed
  refine ⟨?_, ?_, ?_, ?_, ?_⟩
  · intro call hby hfresh
    exact Call.resultOn_of_equalFor hequal hwell hwell' hby hfresh
  · intro request hconcerns hfresh
    unfold handle
    cases hcall : request.call customer with
    | error exception => exact ⟨rfl, hequal⟩
    | ok call =>
        obtain ⟨hsame, hafter⟩ := Call.resultOn_of_equalFor hequal hwell hwell'
          (Request.isBy hconcerns hcall) fun id hid => hfresh call id hcall hid
        exact ⟨congrArg (response request) hsame, hafter⟩
  · intro call hby
    exact Call.keeps hwell hby
  · intro other request hne
    unfold handle
    cases hcall : request.call other with
    | error exception => exact fun row _ => Iff.rfl
    | ok call => exact Call.keeps hwell (Request.not_isBy hne hcall)
  · intro before completed after hsplit hby
    have hserial := hreach.invariant.serial
    rw [hsplit, Serial.append] at hserial
    obtain ⟨hbefore, hhappens, -⟩ := hserial
    have hstart := hbefore.wellFormed Database.wellFormed_empty
    rw [applyAll_writesOf_snoc]
    rcases hhappens with hperforms | ⟨hquiet, -⟩
    · exact hperforms.keeps hstart hby
    · rw [hquiet]
      exact fun row _ => Iff.rfl

/-- A second customer reserves and cancels after the sample. -/
def otherCustomerActions : List Action :=
  sampleActions ++
    [.begin 5 1 (.reserve ⟨4, ⟨4000⟩⟩ 1 2 (some [100]) (some [107])),
      .exec 5, .exec 5, .exec 5, .exec 5, .exec 5, .exec 5, .commit 5 true,
      .begin 6 0 (.cancelReservation ⟨5000⟩ 4 (some [100])),
      .exec 6, .exec 6, .exec 6, .exec 6, .commit 6 true]

/-- The first customer cannot tell the other's reservation from none. -/
theorem customer_isolation_sample :
    ∃ s s' : System, initial.run (fun _ => []) sampleActions = some s ∧
      initial.run (fun _ => []) otherCustomerActions = some s' ∧
        s.db.reservations.length ≠ s'.db.reservations.length ∧
          (Call.getReservation 4 (some [99])).resultOn s.db =
            (Call.getReservation 4 (some [99])).resultOn s'.db := by
  have hfirst : (initial.run (fun _ => []) sampleActions).map (·.db) =
      some ⟨[⟨1, [65, 49], [65], 9, ⟨1000⟩⟩],
        [⟨2, 1, 3, [99], some [107], .cancelled, ⟨2000⟩, some ⟨3000⟩⟩]⟩ := by
    decide +kernel
  have hsecond : (initial.run (fun _ => []) otherCustomerActions).map (·.db) =
      some ⟨[⟨1, [65, 49], [65], 9, ⟨1000⟩⟩],
        [⟨2, 1, 3, [99], some [107], .cancelled, ⟨2000⟩, some ⟨3000⟩⟩,
          ⟨4, 1, 2, [100], some [107], .cancelled, ⟨4000⟩,
            some ⟨5000⟩⟩]⟩ := by
    decide +kernel
  obtain ⟨s, hrun, hdb⟩ := Option.map_eq_some_iff.mp hfirst
  obtain ⟨s', hrun', hdb'⟩ := Option.map_eq_some_iff.mp hsecond
  have hequal : Database.EqualFor [99] s.db s'.db := by
    constructor
    · intro row
      rw [hdb, hdb']
    · intro row howner
      have hne : row ≠ ⟨4, 1, 2, [100], some [107], .cancelled, ⟨4000⟩,
          some ⟨5000⟩⟩ := by
        rintro rfl
        cases howner
      rw [hdb, hdb']
      simp only [List.mem_cons, List.not_mem_nil, or_false, hne]
  obtain ⟨hcalls, -⟩ := Reachable.customer_isolation
    ⟨sampleActions, hrun⟩ ⟨otherCustomerActions, hrun'⟩ hequal
  obtain ⟨hsame, -⟩ := hcalls (.getReservation 4 (some [99])) rfl
    (by rintro id ⟨⟩)
  refine ⟨s, s', hrun, hrun', ?_, hsame⟩
  rw [hdb, hdb']
  decide

end System

end InventoryCloud
