import InventoryCloud.ServiceInterference

/-!
# Every call is guarded

The locks are taken before what they protect is read, or what was read
decides the call.  This is shown statement by statement for the program of
each call.
-/

namespace InventoryCloud

open Interaction
open Interaction.Interference
open InventoryService
open Locking

/-- The interference among the service's transactions. -/
def serviceInterference (sha256 : List UInt8 → List UInt8) :
    Interference Statement Statement.Answer Database Lock Result where
  answer := Statement.answer
  takes view statement := statement.takes sha256 view
  Valid := Database.WellFormed
  Rely := Rely sha256
  Covered held result := ∀ write ∈ effect result, Covers sha256 held write
  Quiet result := effect result = []
  rely_refl := Rely.refl
  rely_trans := Rely.trans
  rely_anti := Rely.anti
  covered_mono hsub hcovered write hwrite := (hcovered write hwrite).mono hsub

variable {sha256 : List UInt8 → List UInt8} {held : Set Lock}
  {view : Database}

/-! ## The locks of a statement -/

theorem mem_takes {statement : Statement} {resource : Lock} :
    resource ∈ statement.takes sha256 view ↔
      (resource, Mode.exclusive) ∈ statement.needs sha256 view :=
  Iff.rfl

theorem productRow_mem_takes {id : UUID} {product : Product}
    (hfind : view.findProduct id = some product) :
    Lock.productRow id ∈
      (Statement.findProductByIdForUpdate id).takes sha256 view := by
  rw [mem_takes]
  simp [Statement.needs, hfind]

theorem reservationRow_mem_takes {id : UUID} {customerId : JavaString}
    {reservation : Reservation}
    (hfind : view.findByIdAndCustomerId id customerId = some reservation) :
    Lock.reservationRow id ∈
      (Statement.findOwnedForUpdate id customerId).takes sha256 view := by
  rw [mem_takes]
  simp [Statement.needs, hfind]

theorem advisory_mem_takes (customerId key : JavaString) :
    Lock.advisory (ReservationKeyLock.lockId sha256 customerId key) ∈
      (Statement.acquire customerId key).takes sha256 view := by
  rw [mem_takes]
  simp [Statement.needs]

/-- An accepted statement is covered by its own locks and, for a keyed
reservation, the advisory lock of the key. -/
theorem covers_of_accepts {write : Write}
    (haccept : view.accepts write = true)
    (hadvisory : ∀ reservation, write = .insertReservation reservation →
      ∀ key, reservation.idempotencyKey = some key →
        Lock.advisory (ReservationKeyLock.lockId sha256
          reservation.customerId key) ∈ held) :
    Covers sha256 (held ∪ (Statement.execute write).takes sha256 view)
      write := by
  cases write with
  | insertProduct product =>
      constructor <;>
      · refine Or.inr (mem_takes.mpr ?_)
        simp [Statement.needs, haccept]
  | insertReservation reservation =>
      refine ⟨Or.inr (mem_takes.mpr ?_), fun key hkey => ⟨Or.inr
        (mem_takes.mpr ?_), Or.inl (hadvisory reservation rfl key hkey)⟩⟩
      · simp [Statement.needs, haccept]
      · simp [Statement.needs, haccept, hkey]
  | updateProduct product =>
      refine Or.inr (mem_takes.mpr ?_)
      cases hfind : view.findProduct product.id with
      | none => simp [Database.accepts, hfind] at haccept
      | some row => simp [Statement.needs, hfind]
  | updateReservation reservation =>
      refine Or.inr (mem_takes.mpr ?_)
      cases hfind : view.findReservation reservation.id with
      | none => simp [Database.accepts, hfind] at haccept
      | some row => simp [Statement.needs, hfind]

/-- What a covered statement was accepted on stays so. -/
theorem accepts_of_spares {later : Database} {write : Write}
    (haccept : view.accepts write = true) (hcovers : Covers sha256 held write)
    (hspares : Spares sha256 held view later) : later.accepts write = true := by
  cases write with
  | insertProduct product =>
      simp only [Database.accepts, Bool.and_eq_true, Option.isNone_iff_eq_none,
        Bool.not_eq_true'] at haccept ⊢
      obtain ⟨⟨hrow, hid⟩, hsku⟩ := haccept
      exact ⟨⟨hrow, hspares.productsPkey hcovers.1 hid⟩,
        hspares.productsSku hcovers.2 hsku⟩
  | insertReservation reservation =>
      obtain ⟨hpkey, hentry⟩ := hcovers
      simp only [Database.accepts, Bool.and_eq_true,
        Option.isNone_iff_eq_none, Option.all_eq_true] at haccept ⊢
      obtain ⟨⟨hrow, hid⟩, hkey⟩ := haccept
      refine ⟨⟨hrow, hspares.reservationsPkey hpkey hid⟩, fun key hsome => ?_⟩
      exact hspares.keyFree (Or.inl (hentry key hsome).1) (hkey key hsome)
  | updateProduct product =>
      simp only [Database.accepts, Option.any_eq_true] at haccept ⊢
      obtain ⟨row, hfind, hrow⟩ := haccept
      exact ⟨row, hspares.productRow hcovers hfind, hrow⟩
  | updateReservation reservation =>
      simp only [Database.accepts, Option.any_eq_true] at haccept ⊢
      obtain ⟨row, hfind, hrow⟩ := haccept
      exact ⟨row, hspares.reservationRow hcovers hfind, hrow⟩

theorem findByIdAndCustomerId_of_spares {later : Database} {id : UUID}
    {customerId : JavaString} {reservation : Reservation}
    (hwell : view.WellFormed) (hlater : later.WellFormed)
    (hheld : Lock.reservationRow id ∈ held)
    (hfind : view.findByIdAndCustomerId id customerId = some reservation)
    (hspares : Spares sha256 held view later) :
    later.findByIdAndCustomerId id customerId = some reservation := by
  rw [hwell.findByIdAndCustomerId_eq, Option.filter_eq_some_iff] at hfind
  rw [hlater.findByIdAndCustomerId_eq, Option.filter_eq_some_iff]
  exact ⟨hspares.reservationRow hheld hfind.1, hfind.2⟩

/-! ## Small programs -/

theorem guarded_quiet {result : Result} (hquiet : effect result = []) :
    (serviceInterference sha256).Guarded held (.pure result) := by
  intro write hwrite
  rw [hquiet] at hwrite
  cases hwrite

/-- A query after which the call ends without an effect. -/
theorem guarded_last {statement : Statement}
    {next : statement.Answer → Program Statement Statement.Answer Result}
    (hquiet : ∀ answer, ∃ result, effect result = [] ∧
      next answer = .pure result) :
    (serviceInterference sha256).Guarded held (.ask statement next) := by
  intro view hwell
  obtain ⟨result, heffect, hnext⟩ := hquiet (statement.answer view)
  have hrest : next ((serviceInterference sha256).answer view statement) =
      .pure result := hnext
  rw [hrest]
  exact ⟨guarded_quiet heffect, Or.inr (decided_pure heffect)⟩

/-- A query whose answer decides the call, or leaves a guarded program and
stays the same. -/
theorem guarded_ask {statement : Statement}
    {next : statement.Answer → Program Statement Statement.Answer Result}
    (hnext : ∀ view : Database, view.WellFormed →
      (∃ result, effect result = [] ∧
        next (statement.answer view) = .pure result) ∨
      ((serviceInterference sha256).Guarded
          (held ∪ statement.takes sha256 view) (next (statement.answer view)) ∧
        ∀ later : Database, later.WellFormed →
          Rely sha256 (held ∪ statement.takes sha256 view) view later →
            statement.answer later = statement.answer view)) :
    (serviceInterference sha256).Guarded held (.ask statement next) := by
  intro view hwell
  rcases hnext view hwell with ⟨result, heffect, hrest⟩ | ⟨hguarded, hstable⟩
  · have hpure : next ((serviceInterference sha256).answer view statement) =
        .pure result := hrest
    rw [hpure]
    exact ⟨guarded_quiet heffect, Or.inr (decided_pure heffect)⟩
  · exact ⟨hguarded, Or.inl (agree_of_stable next hstable)⟩

/-! ## Flushes -/

/-- The locks a flush relies on before it starts. -/
def KeysLocked (sha256 : List UInt8 → List UInt8) (held : Set Lock)
    (writes : List Write) : Prop :=
  ∀ reservation, Write.insertReservation reservation ∈ writes →
    ∀ key, reservation.idempotencyKey = some key →
      Lock.advisory (ReservationKeyLock.lockId sha256
        reservation.customerId key) ∈ held

theorem guarded_referencing {session : Session} {write : Write}
    {next : Program Statement Statement.Answer Result}
    (hnext : ∀ more : Set Lock, held ⊆ more →
      (serviceInterference sha256).Guarded more next) :
    (serviceInterference sha256).Guarded held
      (session.referencing write next) := by
  cases write with
  | insertReservation reservation =>
      refine guarded_ask fun view hwell => ?_
      cases hfind : view.findProduct reservation.productId with
      | none =>
          refine Or.inl ⟨(.error .dataIntegrityViolation, session), rfl, ?_⟩
          simp [Statement.answer, hfind]
      | some product =>
          have hanswer : Statement.answer view
              (.referenceProduct reservation.productId) = true := by
            simp [Statement.answer, hfind]
          refine Or.inr ⟨?_, fun later hlater hrely => ?_⟩
          · rw [hanswer]
            exact hnext _ Set.subset_union_left
          · obtain ⟨changed, hchanged, -⟩ := hrely.evolves.product hfind
            rw [hanswer]
            simp [Statement.answer, hchanged]
  | _ => exact hnext held subset_rfl

theorem guarded_flushing {session : Session} {returned : Returned}
    {writes : List Write} (hkeys : KeysLocked sha256 held writes)
    (hcovered : ∀ write ∈ session.writes,
      write ∈ writes ∨ Covers sha256 held write) :
    (serviceInterference sha256).Guarded held
      (session.flushing returned writes) := by
  induction writes generalizing held with
  | nil =>
      intro write hwrite
      exact (hcovered write hwrite).resolve_left List.not_mem_nil
  | cons write writes ih =>
      refine guarded_ask fun view hwell => ?_
      by_cases haccept : view.accepts write = true
      · have hanswer : Statement.answer view (.execute write) = true := haccept
        have hcovers := @covers_of_accepts sha256 held view write haccept
          fun reservation heq =>
            hkeys reservation (heq ▸ List.mem_cons_self)
        refine Or.inr ⟨?_, fun later hlater hrely => ?_⟩
        · rw [hanswer, if_pos rfl]
          refine guarded_referencing fun more hmore => ih ?_ ?_
          · intro reservation hmem key hkey
            exact hmore (Or.inl (hkeys reservation
              (List.mem_cons_of_mem _ hmem) key hkey))
          · intro other hother
            rcases hcovered other hother with hmem | hold
            · rcases List.mem_cons.mp hmem with rfl | htail
              · exact Or.inr (hcovers.mono hmore)
              · exact Or.inl htail
            · exact Or.inr (hold.mono
                (Set.subset_union_left.trans hmore))
        · rw [hanswer]
          exact accepts_of_spares haccept hcovers hrely.toSpares
      · refine Or.inl ⟨(.error .dataIntegrityViolation, session), rfl, ?_⟩
        rw [if_neg]
        exact haccept

theorem guarded_finish {session : Session} {returned : Returned}
    (hflushed : session.flushed = [])
    (hkeys : KeysLocked sha256 held session.flushPlan) :
    (serviceInterference sha256).Guarded held (session.finish returned) := by
  rw [Session.finish_eq]
  refine guarded_flushing hkeys fun write hwrite => Or.inl ?_
  rwa [Session.writes, hflushed, List.nil_append] at hwrite

/-! ## The calls -/

/-- Finding a product locks it; not finding it decides the call. -/
theorem guarded_findProductByIdForUpdate {id : UUID}
    {next : Option Product → Program Statement Statement.Answer Result}
    (hnone : ∃ result, effect result = [] ∧ next none = .pure result)
    (hsome : ∀ product more, held ⊆ more →
      (serviceInterference sha256).Guarded more (next (some product))) :
    (serviceInterference sha256).Guarded held
      (.ask (.findProductByIdForUpdate id) next) := by
  refine guarded_ask fun view hwell => ?_
  cases hfind : view.findProduct id with
  | none =>
      have hanswer : Statement.answer view (.findProductByIdForUpdate id) =
          none := hfind
      rw [hanswer]
      exact Or.inl hnone
  | some product =>
      have hanswer : Statement.answer view (.findProductByIdForUpdate id) =
          some product := hfind
      rw [hanswer]
      exact Or.inr ⟨hsome product _ Set.subset_union_left,
        fun later hlater hrely =>
          hrely.productRow (Or.inr (productRow_mem_takes hfind)) hfind⟩

private theorem guarded_createProduct (fresh : Fresh)
    (sku name : Option JavaString) (initialQuantity : Int32) :
    (serviceInterference sha256).Guarded held
      (Call.createProduct fresh sku name initialQuantity).program := by
  rw [createProduct_program]
  cases Product.new fresh sku name initialQuantity with
  | error exception => exact guarded_quiet rfl
  | ok product =>
      -- Whether the check or the insertion meets the duplicate, the call ends
      -- in the same conflict.
      have hinsert : ∀ locks, (serviceInterference sha256).Guarded locks
          (.ask (.execute (.insertProduct product)) fun accepted =>
            if accepted = true then .pure (.ok (.product product),
              createdSession product initialQuantity)
            else .pure (.error duplicateSku, .empty)) := by
        refine fun locks => guarded_ask fun view hwell => ?_
        by_cases haccept : view.accepts (.insertProduct product) = true
        · have hanswer : Statement.answer view
              (.execute (.insertProduct product)) = true := haccept
          have hcovers := @covers_of_accepts sha256 locks view _ haccept
            (by rintro _ ⟨⟩)
          rw [hanswer]
          refine Or.inr ⟨?_, fun later hlater hrely =>
            accepts_of_spares haccept hcovers hrely.toSpares⟩
          rw [if_pos rfl]
          intro write hwrite
          rw [List.mem_singleton.mp hwrite]
          exact hcovers
        · refine Or.inl ⟨(.error duplicateSku, .empty), rfl, ?_⟩
          rw [if_neg]
          exact haccept
      intro view hwell
      cases htaken : view.existsBySku product.sku with
      | true =>
          have hanswer : (serviceInterference sha256).answer view
              (.existsBySku product.sku) = true := htaken
          rw [hanswer]
          exact ⟨guarded_quiet rfl, Or.inr (decided_pure rfl)⟩
      | false =>
          have hanswer : (serviceInterference sha256).answer view
              (.existsBySku product.sku) = false := htaken
          rw [hanswer]
          refine ⟨hinsert _, Or.inl fun later hlater hrely => ?_⟩
          change Program.eval (Statement.answer later) _ =
            Program.eval (Statement.answer later) _
          rw [eval_existsBySku]
          by_cases hlaterTaken : later.existsBySku product.sku = true
          · have hrefused :
                later.accepts (.insertProduct product) = false := by
              simp [Database.accepts, hlaterTaken]
            rw [if_pos hlaterTaken]
            simp only [Bool.false_eq_true, if_false, eval_execute, hrefused]
          · rw [if_neg hlaterTaken]
            simp only [Bool.false_eq_true, if_false]

private theorem guarded_addStock (id : UUID) (quantity : Int32) :
    (serviceInterference sha256).Guarded held
      (Call.addStock id quantity).program := by
  rw [addStock_program]
  by_cases hquantity : PositiveQuantity quantity
  · rw [if_pos hquantity]
    refine guarded_findProductByIdForUpdate ⟨_, rfl, rfl⟩
      fun product more hmore => ?_
    dsimp only
    rcases (Product.addStock quantity).call product with
      ⟨exception | value, changed⟩
    · exact guarded_quiet rfl
    · refine guarded_finish rfl fun reservation hmem => ?_
      simp [Session.flushPlan, restockedSession, Session.isInsert] at hmem
  · rw [if_neg hquantity]
    exact guarded_quiet rfl

private theorem guarded_reserveNew {fresh : Fresh} {productId : UUID}
    {quantity : Int32} {customerId idempotencyKey : Option JavaString}
    {customer : JavaString}
    (hcustomer : Reservation.validateCustomerId customerId = .ok customer)
    (hvalid : Reservation.validateIdempotencyKey idempotencyKey = .ok ())
    (hadvisory : ∀ key, idempotencyKey = some key →
      Lock.advisory (ReservationKeyLock.lockId sha256 customer key) ∈ held) :
    (serviceInterference sha256).Guarded held
      (reserveNewProgram fresh productId quantity customerId
        idempotencyKey) := by
  refine guarded_findProductByIdForUpdate ⟨_, rfl, rfl⟩
    fun product more hmore => ?_
  simp only [Reservation.new_call hcustomer hvalid]
  rcases (Product.reserveStock quantity).call product with
    ⟨exception | value, changed⟩
  · exact guarded_quiet rfl
  · refine guarded_finish rfl fun reservation hmem key hkey => hmore ?_
    simp only [Session.flushPlan, reservedSession, Session.isInsert,
      List.filter_cons, List.filter_nil, Bool.not_false, Bool.not_true,
      if_true, Bool.false_eq_true, if_false, List.cons_append,
      List.nil_append, List.mem_cons, Write.insertReservation.injEq,
      reduceCtorEq, List.not_mem_nil, or_false] at hmem
    subst hmem
    exact hadvisory key hkey

private theorem guarded_reserve (fresh : Fresh) (productId : UUID)
    (quantity : Int32) (customerId idempotencyKey : Option JavaString) :
    (serviceInterference sha256).Guarded held
      (Call.reserve fresh productId quantity customerId
        idempotencyKey).program := by
  rw [reserve_program]
  by_cases hquantity : PositiveQuantity quantity
  · rw [if_pos hquantity]
    cases hcustomer : Reservation.validateCustomerId customerId with
    | error exception => exact guarded_quiet rfl
    | ok customer =>
        cases hvalid : Reservation.validateIdempotencyKey idempotencyKey with
        | error exception => exact guarded_quiet rfl
        | ok _ =>
            cases idempotencyKey with
            | none =>
                exact guarded_reserveNew hcustomer hvalid (by rintro _ ⟨⟩)
            | some key =>
                refine guarded_ask fun view hwell =>
                  Or.inr ⟨?_, fun _ _ _ => rfl⟩
                have hlocked : Lock.advisory (ReservationKeyLock.lockId sha256
                    customer key) ∈ held ∪
                      (Statement.acquire customer key).takes sha256 view :=
                  Or.inr (advisory_mem_takes customer key)
                refine guarded_ask fun view hwell => ?_
                cases hfind :
                    view.findByCustomerIdAndIdempotencyKey customer key with
                | none =>
                    have hanswer : Statement.answer view
                        (.findByCustomerIdAndIdempotencyKey customer key) =
                          none := hfind
                    rw [hanswer]
                    refine Or.inr ⟨guarded_reserveNew hcustomer hvalid ?_,
                      fun later hlater hrely =>
                        hrely.keyFree (Or.inr (Or.inl hlocked)) hfind⟩
                    rintro other ⟨⟩
                    exact Or.inl hlocked
                | some reservation =>
                    have hanswer : Statement.answer view
                        (.findByCustomerIdAndIdempotencyKey customer key) =
                          some reservation := hfind
                    rw [hanswer]
                    by_cases hmismatch : reservation.productId ≠ productId ∨
                        reservation.quantity ≠ quantity
                    · exact Or.inl ⟨_, rfl, if_pos hmismatch⟩
                    · exact Or.inl ⟨_, rfl, if_neg hmismatch⟩
  · rw [if_neg hquantity]
    exact guarded_quiet rfl

private theorem guarded_cancelReservation (now : Instant) (id : UUID)
    (customerId : Option JavaString) :
    (serviceInterference sha256).Guarded held
      (Call.cancelReservation now id customerId).program := by
  rw [cancelReservation_program]
  cases Reservation.validateCustomerId customerId with
  | error exception => exact guarded_quiet rfl
  | ok customer =>
      refine guarded_ask fun view hwell => ?_
      cases hfind : view.findByIdAndCustomerId id customer with
      | none =>
          have hanswer : Statement.answer view
              (.findOwnedForUpdate id customer) = none := hfind
          rw [hanswer]
          exact Or.inl ⟨_, rfl, rfl⟩
      | some reservation =>
          have hanswer : Statement.answer view
              (.findOwnedForUpdate id customer) = some reservation := hfind
          rw [hanswer]
          refine Or.inr ⟨?_, fun later hlater hrely =>
            findByIdAndCustomerId_of_spares hwell hlater
              (Or.inr (reservationRow_mem_takes hfind)) hfind hrely.toSpares⟩
          by_cases hactive : reservation.status = .active
          · simp only [if_pos hactive]
            refine guarded_findProductByIdForUpdate ⟨_, rfl, rfl⟩
              fun product more hmore => ?_
            dsimp only
            rcases (Reservation.cancel now).call (reservation, product) with
              ⟨exception | value, changed⟩
            · exact guarded_quiet rfl
            · refine guarded_finish rfl fun other hmem => ?_
              simp [Session.flushPlan, cancelledSession, Session.isInsert]
                at hmem
          · simp only [if_neg hactive]
            refine guarded_last fun loaded => ?_
            cases loaded with
            | none => exact ⟨_, rfl, rfl⟩
            | some product => exact ⟨_, rfl, rfl⟩

/-- Whatever it starts with, a call is guarded. -/
theorem guarded_program (call : Call) :
    (serviceInterference sha256).Guarded held call.program := by
  cases call with
  | createProduct fresh sku name initialQuantity =>
      exact guarded_createProduct fresh sku name initialQuantity
  | listProducts request =>
      exact guarded_last fun page => ⟨_, rfl, rfl⟩
  | getProduct id =>
      rw [getProduct_program]
      refine guarded_last fun found => ?_
      cases found with
      | none => exact ⟨_, rfl, rfl⟩
      | some product => exact ⟨_, rfl, rfl⟩
  | addStock id quantity => exact guarded_addStock id quantity
  | reserve fresh productId quantity customerId idempotencyKey =>
      exact guarded_reserve fresh productId quantity customerId idempotencyKey
  | listReservations customerId request =>
      rw [listReservations_program]
      cases Reservation.validateCustomerId customerId with
      | error exception => exact guarded_quiet rfl
      | ok customer => exact guarded_last fun page => ⟨_, rfl, rfl⟩
  | getReservation id customerId =>
      rw [getReservation_program]
      cases Reservation.validateCustomerId customerId with
      | error exception => exact guarded_quiet rfl
      | ok customer =>
          refine guarded_last fun found => ?_
          cases found with
          | none => exact ⟨_, rfl, rfl⟩
          | some reservation => exact ⟨_, rfl, rfl⟩
  | cancelReservation now id customerId =>
      exact guarded_cancelReservation now id customerId

end InventoryCloud
