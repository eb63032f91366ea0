import InventoryCloud.ManagedCalls

/-!
# The ledger of managed entities

A sum over the rows that every call changes by its own share equals, in every
reachable state, the sum of the shares of the committed calls, provided that
no committed transaction got an entity from a locking query that counts
differently than the row it locked.
-/

namespace InventoryCloud

open Interaction
open InventoryService
open Locking

/-- Every kind of call changes a sum over the rows by its share, where the
sums see of an update what it writes. -/
structure Tallies (forProduct : Product → ℤ) (forReservation : Reservation → ℤ)
    (share : Completed → ℤ) : Prop where
  updatedProduct : ∀ {row entity : Product}, entity.id = row.id →
    forProduct (row.updatedBy entity) = forProduct entity
  updatedReservation : ∀ {row entity : Reservation}, entity.id = row.id →
    forReservation (row.updatedBy entity) = forReservation entity
  created : ∀ {fresh sku name initialQuantity product},
    Product.new fresh sku name initialQuantity = .ok product →
      share ⟨.createProduct fresh sku name initialQuantity, .product product,
        createdSession product initialQuantity⟩ = forProduct product
  restocked : ∀ {id quantity row product}, StockInRange row →
    forProduct row = forProduct product → PositiveQuantity quantity →
      share ⟨.addStock id quantity, .product (product.restocked quantity),
        restockedSession (product.restocked quantity) quantity⟩ =
          forProduct (product.restocked quantity) - forProduct row
  reserved : ∀ {fresh productId quantity customerId idempotencyKey customer row
      product}, StockInRange row → forProduct row = forProduct product →
    PositiveQuantity quantity →
      share ⟨.reserve fresh productId quantity customerId idempotencyKey,
        .reservationResult (Reservation.created fresh product.id quantity
          customer idempotencyKey) false,
        reservedSession (product.deducted quantity)
          (Reservation.created fresh product.id quantity customer
            idempotencyKey) quantity⟩ =
        forReservation (Reservation.created fresh product.id quantity customer
          idempotencyKey) +
          (forProduct (product.deducted quantity) - forProduct row)
  cancelled : ∀ {now customerId reservation row product},
    StockInRange row → forProduct row = forProduct product →
      PositiveQuantity reservation.quantity → reservation.status = .active →
        share ⟨.cancelReservation now reservation.id customerId,
          .reservation (reservation.cancelledBy now),
          cancelledSession (product.restocked reservation.quantity)
            (reservation.cancelledBy now)⟩ =
          (forProduct (product.restocked reservation.quantity) -
            forProduct row) +
            (forReservation (reservation.cancelledBy now) -
              forReservation reservation)
  quiet : ∀ {view call returned session}, session.writes = [] →
    Returns forProduct forReservation view call returned session →
      share ⟨call, returned, session⟩ = 0

/-- Nothing is counted, and no entity has to be up to date. -/
theorem tallies_nothing : Tallies (fun _ => 0) (fun _ => 0) (fun _ => 0) where
  updatedProduct _ := rfl
  updatedReservation _ := rfl
  created _ := rfl
  restocked _ _ _ := rfl
  reserved _ _ _ := rfl
  cancelled _ _ _ _ := rfl
  quiet _ _ := rfl

section

variable {forProduct : Product → ℤ} {forReservation : Reservation → ℤ}
  {share : Completed → ℤ} {view : Database} {call : Call}
  {returned : Returned} {session : Session}

theorem Returns.wellFormed (hwell : view.WellFormed)
    (hreturns : Returns forProduct forReservation view call returned session) :
    (view.applyAll session.writes).WellFormed := by
  cases hreturns with
  | created hnew haccept => exact hwell.insertProduct haccept
  | restocked hquantity hfind hcounts haccept =>
      exact hwell.updateProduct haccept
  | @reserved _ _ _ _ _ _ row product hquantity hfind hcounts hinsert hupdate =>
      have hreferenced : (view.findProduct product.id).isSome = true := by
        rw [hcounts.1, Database.findProduct_id hfind, hfind]
        rfl
      refine (hwell.insertReservation hinsert hreferenced).updateProduct ?_
      simpa [Database.accepts] using hupdate
  | cancelled hfind hcounts hactive hproduct hstock hquantity hproductUpdate
      hupdate =>
      refine (hwell.updateProduct hproductUpdate).updateReservation ?_
      simpa [Database.accepts] using hupdate
  | _ => exact hwell

open Database in
theorem Returns.total (htallies : Tallies forProduct forReservation share)
    (hwell : view.WellFormed)
    (hreturns : Returns forProduct forReservation view call returned session) :
    total forProduct forReservation (view.applyAll session.writes) =
      total forProduct forReservation view +
        share ⟨call, returned, session⟩ := by
  have hquiet := fun hwrites : session.writes = [] =>
    htallies.quiet hwrites hreturns
  cases hreturns with
  | created hnew haccept =>
      rw [htallies.created hnew]
      exact total_insertProduct forProduct forReservation _
  | @restocked id quantity row product hquantity hfind hcounts haccept =>
      have hrange := hwell.stockInRange (findProduct_mem hfind)
      have hid : (product.restocked quantity).id = id :=
        hcounts.1.trans (findProduct_id hfind)
      have hsum := total_updateProduct forProduct forReservation hwell
        (hid ▸ hfind)
      have hversion : forProduct (row.updatedBy (product.restocked quantity)) =
          forProduct (product.restocked quantity) :=
        htallies.updatedProduct hcounts.1
      rw [hversion] at hsum
      rw [htallies.restocked hrange hcounts.2 hquantity]
      exact hsum
  | @reserved fresh productId quantity _ key customer row product hquantity
      hfind hcounts hinsert hupdate =>
      have hrange := hwell.stockInRange (findProduct_mem hfind)
      have hid : product.id = productId :=
        hcounts.1.trans (findProduct_id hfind)
      have hreferenced : (view.findProduct product.id).isSome = true := by
        rw [hid, hfind]
        rfl
      have hfirst := @total_insertReservation view forProduct forReservation
        (Reservation.created fresh product.id quantity customer key)
      have hlast := total_updateProduct forProduct forReservation
        (hwell.insertReservation hinsert hreferenced)
        ((findProduct_insertReservation view _
          (product.deducted quantity).id).trans (hid ▸ hfind))
      have hversion : forProduct (row.updatedBy (product.deducted quantity)) =
          forProduct (product.deducted quantity) :=
        htallies.updatedProduct hcounts.1
      rw [hversion, hfirst, add_assoc] at hlast
      rw [htallies.reserved hrange hcounts.2 hquantity]
      exact hlast
  | @cancelled now id _ row reservation stock product hfind hcounts hactive
      hproduct hstock hquantity hproductUpdate hupdate =>
      have hrange := hwell.stockInRange (findProduct_mem hproduct)
      have hid : (product.restocked reservation.quantity).id =
          reservation.productId :=
        hstock.1.trans (findProduct_id hproduct)
      have hrow : reservation.id = id :=
        hcounts.1.trans (findReservation_id hfind)
      subst hrow
      have hfirst := total_updateProduct forProduct forReservation hwell
        (hid ▸ hproduct)
      have hlast := total_updateReservation forProduct forReservation
        (hwell.updateProduct hproductUpdate)
        ((findReservation_updateProduct view _
          (reservation.cancelledBy now).id).trans hfind)
      have hproductVersion :
          forProduct (stock.updatedBy
            (product.restocked reservation.quantity)) =
              forProduct (product.restocked reservation.quantity) :=
        htallies.updatedProduct hstock.1
      have hversion : forReservation (row.updatedBy
          (reservation.cancelledBy now)) =
            forReservation (reservation.cancelledBy now) :=
        htallies.updatedReservation hcounts.1
      rw [hproductVersion] at hfirst
      rw [hversion, hfirst, hcounts.2, add_assoc] at hlast
      rw [htallies.cancelled hrange hstock.2 hquantity hactive]
      exact hlast
  | _ =>
      rw [hquiet rfl, add_zero]
      rfl

end

/-! ## Live transactions -/

variable {sha256 : List UInt8 → List UInt8} {forProduct : Product → ℤ}
  {forReservation : Reservation → ℤ} {share : Completed → ℤ}

/-- The calls change the tables by their shares, as long as the others spare
what the locks protect. -/
structure Balanced (sha256 : List UInt8 → List UInt8)
    (forProduct : Product → ℤ) (forReservation : Reservation → ℤ)
    (share : Completed → ℤ) (held : Set Lock) (db : Database)
    (calls : List Completed) : Prop where
  returns : ∀ completed ∈ calls, ∃ view : Database,
    Returns forProduct forReservation view completed.call completed.returned
      completed.session
  covers : ∀ write ∈ writesOf calls, Covers sha256 held write
  wellFormed : ∀ later : Database, later.WellFormed →
    Spares sha256 held db later → (later.applyAll (writesOf calls)).WellFormed
  total : ∀ later : Database, later.WellFormed → Spares sha256 held db later →
    (later.applyAll (writesOf calls)).total forProduct forReservation =
      later.total forProduct forReservation + (calls.map share).sum

namespace Balanced

variable {held : Set Lock} {db : Database} {calls : List Completed}

theorem nil : Balanced sha256 forProduct forReservation share held db [] where
  returns _ hmem := by cases hmem
  covers _ hmem := by cases hmem
  wellFormed _ hlater _ := hlater
  total later _ _ := by simp

theorem later {after : Database} (hspares : Spares sha256 held db after)
    (hbalanced :
      Balanced sha256 forProduct forReservation share held db calls) :
    Balanced sha256 forProduct forReservation share held after calls where
  returns := hbalanced.returns
  covers := hbalanced.covers
  wellFormed later hlater hafter :=
    hbalanced.wellFormed later hlater (hspares.trans hafter)
  total later hlater hafter :=
    hbalanced.total later hlater (hspares.trans hafter)

theorem mono {more : Set Lock} (hsub : held ⊆ more)
    (hbalanced :
      Balanced sha256 forProduct forReservation share held db calls) :
    Balanced sha256 forProduct forReservation share more db calls where
  returns := hbalanced.returns
  covers write hwrite := (hbalanced.covers write hwrite).mono hsub
  wellFormed later hlater hafter :=
    hbalanced.wellFormed later hlater (hafter.anti hsub)
  total later hlater hafter :=
    hbalanced.total later hlater (hafter.anti hsub)

/-- One more call, which secures its result on the rows the others left. -/
theorem snoc (htallies : Tallies forProduct forReservation share)
    {call : Call} {returned : Returned} {session : Session}
    (hwell : db.WellFormed)
    (hbalanced :
      Balanced sha256 forProduct forReservation share held db calls)
    (hsecures : call.Secures sha256 forProduct forReservation held
      (db.applyAll (writesOf calls)) (.pure (.ok returned, session))) :
    Balanced sha256 forProduct forReservation share held db
      (calls ++ [⟨call, returned, session⟩]) := by
  have hyields : ∀ later : Database, later.WellFormed →
      Spares sha256 held db later →
        Returns forProduct forReservation (later.applyAll (writesOf calls))
            call returned session ∧
          ∀ write ∈ session.writes, Covers sha256 held write :=
    fun later hlater hspares => hsecures _
      (hbalanced.wellFormed later hlater hspares)
      (hspares.applyAll hbalanced.covers)
  have hnow := hyields db hwell (.refl held db)
  constructor
  case returns =>
    intro completed hmem
    rcases List.mem_append.mp hmem with hearlier | hlast
    · exact hbalanced.returns completed hearlier
    · rw [List.mem_singleton.mp hlast]
      exact ⟨_, hnow.1⟩
  case covers =>
    intro write hwrite
    rw [writesOf_append] at hwrite
    rcases List.mem_append.mp hwrite with hearlier | hlast
    · exact hbalanced.covers write hearlier
    · rw [writesOf_cons, writesOf_nil, List.append_nil] at hlast
      exact hnow.2 write hlast
  case wellFormed =>
    intro later hlater hspares
    rw [applyAll_writesOf_snoc]
    exact (hyields later hlater hspares).1.wellFormed
      (hbalanced.wellFormed later hlater hspares)
  case total =>
    intro later hlater hspares
    have hcall := (hyields later hlater hspares).1.total htallies
      (hbalanced.wellFormed later hlater hspares)
    rw [applyAll_writesOf_snoc, hcall, hbalanced.total later hlater hspares,
      List.map_append, List.sum_append, add_assoc]
    simp

end Balanced

/-- What is known of a transaction that may still commit. -/
structure Transaction.Tracked (sha256 : List UInt8 → List UInt8)
    (forProduct : Product → ℤ) (forReservation : Reservation → ℤ)
    (share : Completed → ℤ) (held : Set Lock) (db : Database)
    (transaction : Transaction) : Prop where
  balanced : Balanced sha256 forProduct forReservation share held db
    transaction.earlier
  secures : transaction.call.Secures sha256 forProduct forReservation held
    (transaction.view db) transaction.rest

theorem Transaction.Tracked.later {held : Set Lock} {db after : Database}
    {transaction : Transaction} (hspares : Spares sha256 held db after)
    (htracked : transaction.Tracked sha256 forProduct forReservation share held
      db) :
    transaction.Tracked sha256 forProduct forReservation share held after where
  balanced := htracked.balanced.later hspares
  secures := Interference.Meets.later
    (hspares.applyAll htracked.balanced.covers) htracked.secures

/-! ## Reachable states -/

/-- The transaction of an event that committed. -/
def Event.committed : Event → Option ℕ
  | .finished t _ (.committed _ _) => some t
  | _ => none

namespace ManagedSystem

/-- The locking queries of the transaction returned entities that count as the
rows. -/
def Heeds (forProduct : Product → ℤ) (forReservation : Reservation → ℤ)
    (s : ManagedSystem) (t : ℕ) : Prop :=
  (∀ locked ∈ s.lockedProducts, locked.transaction = t →
    forProduct locked.row = forProduct locked.entity) ∧
  (∀ locked ∈ s.lockedReservations, locked.transaction = t →
    forReservation locked.row = forReservation locked.entity)

/-- The transaction has committed. -/
def Committed (s : ManagedSystem) (t : ℕ) : Prop :=
  ∃ event ∈ s.system.history, event.committed = some t

structure Invariant (sha256 : List UInt8 → List UInt8)
    (forProduct : Product → ℤ) (forReservation : Reservation → ℤ)
    (share : Completed → ℤ) (s : ManagedSystem) : Prop where
  tracked : ∀ {t transaction}, s.system.transactions t = some transaction →
    transaction.rollbackOnly = false → s.Heeds forProduct forReservation t →
      transaction.Tracked sha256 forProduct forReservation share
        (s.system.locks.held t) s.system.db
  ledger : (∀ t, s.Committed t → s.Heeds forProduct forReservation t) →
    s.system.db.total forProduct forReservation =
      (s.system.durable.map share).sum

/-- What holds of every run, whatever its entities are. -/
structure Kept (sha256 : List UInt8 → List UInt8) (s : ManagedSystem) :
    Prop where
  wellFormed : s.system.db.WellFormed
  invariant : s.Invariant sha256 (fun _ => 0) (fun _ => 0) (fun _ => 0)

theorem heeds_nothing (s : ManagedSystem) (t : ℕ) :
    s.Heeds (fun _ => 0) (fun _ => 0) t :=
  ⟨fun _ _ _ => rfl, fun _ _ _ => rfl⟩

variable {s s' : ManagedSystem} {action : Action} {t : ℕ}

/-- The calls of a transaction about to commit. -/
theorem Invariant.snoc (htallies : Tallies forProduct forReservation share)
    (hwell : s.system.db.WellFormed)
    (hinv : s.Invariant sha256 forProduct forReservation share)
    {transaction : Transaction} {returned : Returned} {session : Session}
    (hlive : s.system.transactions t = some transaction)
    (hrest : transaction.rest = .pure (.ok returned, session))
    (hclean : transaction.rollbackOnly = false)
    (hheeds : s.Heeds forProduct forReservation t) :
    Balanced sha256 forProduct forReservation share (s.system.locks.held t)
      s.system.db
      (transaction.earlier ++ [⟨transaction.call, returned, session⟩]) := by
  have htracked := hinv.tracked hlive hclean hheeds
  have hsecures := htracked.secures
  rw [hrest] at hsecures
  exact htracked.balanced.snoc htallies hwell hsecures

theorem Kept.snoc (hkept : s.Kept sha256) {transaction : Transaction}
    {returned : Returned} {session : Session}
    (hlive : s.system.transactions t = some transaction)
    (hrest : transaction.rest = .pure (.ok returned, session))
    (hclean : transaction.rollbackOnly = false) :
    Balanced sha256 (fun _ => 0) (fun _ => 0) (fun _ => 0)
      (s.system.locks.held t) s.system.db
      (transaction.earlier ++ [⟨transaction.call, returned, session⟩]) :=
  hkept.invariant.snoc tallies_nothing hkept.wellFormed hlive hrest hclean
    (s.heeds_nothing t)

/-! ### What a step leaves as it is -/

theorem heeds_of_step (hmoves : ManagedMoves sha256 s action s')
    (hheeds : s'.Heeds forProduct forReservation t) :
    s.Heeds forProduct forReservation t := by
  cases hmoves with
  | exec hlive hrest havailable =>
      exact ⟨fun locked hmem => hheeds.1 locked (List.mem_append_left _ hmem),
        fun locked hmem => hheeds.2 locked (List.mem_append_left _ hmem)⟩
  | advance hnot hmoves => exact hheeds

theorem committed_of_step (hmoves : ManagedMoves sha256 s action s')
    (hcommitted : s.Committed t) : s'.Committed t := by
  obtain ⟨event, hevent, hsome⟩ := hcommitted
  refine ⟨event, ?_, hsome⟩
  cases hmoves with
  | exec hlive hrest havailable => exact hevent
  | advance hnot hmoves =>
      cases hmoves with
      | exec hlive hrest havailable => exact hevent
      | next hlive hrest hfresh => exact hevent
      | _ => exact List.mem_append_left _ hevent

/-- What a step of one transaction leaves to another. -/
theorem Kept.frame (hkept : s.Kept sha256)
    (hmoves : ManagedMoves sha256 s action s') (hne : t ≠ action.transaction) :
    s'.system.transactions t = s.system.transactions t ∧
      s'.system.locks.held t = s.system.locks.held t ∧
        Spares sha256 (s.system.locks.held t) s.system.db s'.system.db := by
  cases hmoves with
  | exec hlive hrest havailable =>
      exact ⟨Function.update_of_ne hne _ _,
        LockTable.held_acquireAll_other hne havailable, .refl _ _⟩
  | advance hnot hmoves =>
      cases hmoves with
      | begin hfree hnew hfresh =>
          exact ⟨Function.update_of_ne hne _ _, rfl, .refl _ _⟩
      | next hlive hrest hfresh =>
          exact ⟨Function.update_of_ne hne _ _, rfl, .refl _ _⟩
      | exec hlive hrest havailable => exact absurd rfl (hnot _)
      | commit hlive hrest hclean =>
          exact ⟨Function.update_of_ne hne _ _,
            LockTable.held_release_other hne,
            Spares.frameAll (hkept.snoc hlive hrest hclean).covers
              (LockTable.held_disjoint s.system.locks (Ne.symm hne))⟩
      | fail hlive hrest =>
          exact ⟨Function.update_of_ne hne _ _,
            LockTable.held_release_other hne, .refl _ _⟩
      | abort hlive hstatus =>
          exact ⟨Function.update_of_ne hne _ _,
            LockTable.held_release_other hne, .refl _ _⟩

/-! ### The moving transaction -/

/-- The entities of the locked rows count as these do. -/
theorem fits_of_heeds {transaction : Transaction} {statement : Statement}
    {next : statement.Answer → Program Statement Statement.Answer Result}
    (hheeds : (s.executed sha256 t transaction statement next).Heeds
      forProduct forReservation t) :
    statement.Fits forProduct forReservation (transaction.view s.system.db)
      (statement.answerIn (s.contexts t) (transaction.view s.system.db)) := by
  obtain ⟨hproducts, hreservations⟩ := hheeds
  cases statement with
  | findProductByIdForUpdate id =>
      change Option.Rel _ _ (Option.map _ _)
      cases hfind : (transaction.view s.system.db).findProduct id with
      | none => exact .none
      | some row =>
          refine .some ⟨PersistenceContext.product_id _ _, ?_⟩
          refine hproducts ⟨t, row, (s.contexts t).product row⟩
            (List.mem_append_right _ ?_) rfl
          simp [Statement.lockedProduct, hfind]
  | findOwnedForUpdate id customerId =>
      change Option.Rel _ _ (Option.map _ _)
      cases hfind : (transaction.view s.system.db).findByIdAndCustomerId id
          customerId with
      | none => exact .none
      | some row =>
          refine .some ⟨PersistenceContext.reservation_id _ _, ?_⟩
          refine hreservations ⟨t, row, (s.contexts t).reservation row⟩
            (List.mem_append_right _ ?_) rfl
          simp [Statement.lockedReservation, hfind]
  | execute write => rfl
  | referenceProduct id => rfl
  | _ => trivial

theorem Invariant.tracked_executed
    (hwell : s.system.db.WellFormed)
    (hinv : s.Invariant sha256 forProduct forReservation share)
    {transaction : Transaction} {statement : Statement}
    {next : statement.Answer → Program Statement Statement.Answer Result}
    (hlive : s.system.transactions t = some transaction)
    (hrest : transaction.rest = .ask statement next)
    (hclean : transaction.rollbackOnly = false)
    (hheeds : (s.executed sha256 t transaction statement next).Heeds
      forProduct forReservation t) :
    Transaction.Tracked sha256 forProduct forReservation share
      (s.system.locks.held t ∪
        statement.takes sha256 (transaction.view s.system.db))
      s.system.db
      { transaction with rest := next (statement.answerIn (s.contexts t)
          (transaction.view s.system.db)) } := by
  have hbefore : s.Heeds forProduct forReservation t :=
    ⟨fun locked hmem => hheeds.1 locked (List.mem_append_left _ hmem),
      fun locked hmem => hheeds.2 locked (List.mem_append_left _ hmem)⟩
  have htracked := hinv.tracked hlive hclean hbefore
  have hsecures := htracked.secures
  rw [hrest] at hsecures
  refine ⟨htracked.balanced.mono Set.subset_union_left, ?_⟩
  exact Interference.Meets.answered
    (htracked.balanced.wellFormed _ hwell (.refl _ _)) (fits_of_heeds hheeds)
    hsecures

/-- The transaction that makes the step is tracked after it. -/
theorem Invariant.tracked_own
    (htallies : Tallies forProduct forReservation share)
    (hwell : s.system.db.WellFormed)
    (hinv : s.Invariant sha256 forProduct forReservation share)
    (hmoves : ManagedMoves sha256 s action s') {live : Transaction}
    (hlive : s'.system.transactions action.transaction = some live)
    (hclean : live.rollbackOnly = false)
    (hheeds : s'.Heeds forProduct forReservation action.transaction) :
    live.Tracked sha256 forProduct forReservation share
      (s'.system.locks.held action.transaction) s'.system.db := by
  cases hmoves with
  | @exec t transaction statement next hbefore hrest havailable =>
      simp only [executed, Action.transaction, Function.update_self,
        Option.some.injEq] at hlive
      subst hlive
      have hheld : (s.executed sha256 t transaction statement
          next).system.locks.held t = s.system.locks.held t ∪
            statement.takes sha256 (transaction.view s.system.db) :=
        LockTable.held_acquireAll_self _ _ _
      rw [Action.transaction, hheld]
      exact hinv.tracked_executed hwell hbefore hrest hclean hheeds
  | advance hnot hmoves =>
      cases hmoves with
      | begin hfree hnew hfresh =>
          cases System.begun_self hlive
          exact ⟨.nil, secures_program _⟩
      | @next t call transaction result hbefore hrest hfresh =>
          cases System.continued_self hlive
          obtain ⟨exception | returned, session⟩ := result
          · cases hclean
          · exact ⟨hinv.snoc htallies hwell hbefore hrest hclean hheeds,
              secures_program call⟩
      | exec hbefore hrest havailable => exact absurd rfl (hnot _)
      | commit hbefore hrest hsound =>
          simp [advanced, System.committed, System.completed,
            Action.transaction] at hlive
      | fail hbefore hrest =>
          simp [advanced, System.rolledBack, System.completed,
            Action.transaction] at hlive
      | abort hbefore hstatus =>
          simp [advanced, System.rolledBack, System.completed,
            Action.transaction] at hlive

/-! ### Steps and runs -/

theorem Invariant.ledger_step
    (htallies : Tallies forProduct forReservation share)
    (hwell : s.system.db.WellFormed)
    (hinv : s.Invariant sha256 forProduct forReservation share)
    (hmoves : ManagedMoves sha256 s action s')
    (hheeds : ∀ t, s'.Committed t → s'.Heeds forProduct forReservation t) :
    s'.system.db.total forProduct forReservation =
      (s'.system.durable.map share).sum := by
  have hbefore := hinv.ledger fun t hcommitted => heeds_of_step hmoves
    (hheeds t (committed_of_step hmoves hcommitted))
  cases hmoves with
  | exec hlive hrest havailable => exact hbefore
  | advance hnot hmoves =>
      cases hmoves with
      | exec hlive hrest havailable => exact hbefore
      | next hlive hrest hfresh => exact hbefore
      | @commit t acknowledged transaction returned session hlive hrest
          hclean =>
          have hcommitted : s.Heeds forProduct forReservation t :=
            hheeds t ⟨_, List.mem_append_right _ (List.mem_singleton_self _),
              rfl⟩
          have hbalanced := hinv.snoc htallies hwell hlive hrest hclean
            hcommitted
          have hdurable : (s.system.committed t transaction
              ⟨transaction.call, returned, session⟩ acknowledged).durable =
                s.system.durable ++ (transaction.earlier ++
                  [⟨transaction.call, returned, session⟩]) :=
            System.durable_append s.system.history _
          change (s.system.db.applyAll (writesOf (transaction.earlier ++
            [⟨transaction.call, returned, session⟩]))).total forProduct
              forReservation = ((s.system.committed t transaction
                ⟨transaction.call, returned, session⟩
                  acknowledged).durable.map share).sum
          rw [hbalanced.total _ hwell (.refl _ _), hbefore, hdurable,
            ← List.sum_append, ← List.map_append]
      | begin hfree hnew hfresh =>
          simpa [advanced, System.begun, System.durable,
            Event.durable] using hbefore
      | fail hlive hrest =>
          simpa [advanced, System.rolledBack, System.completed,
            System.durable, Event.durable] using hbefore
      | abort hlive hstatus =>
          simpa [advanced, System.rolledBack, System.completed,
            System.durable, Event.durable] using hbefore

theorem Invariant.step (htallies : Tallies forProduct forReservation share)
    (hkept : s.Kept sha256)
    (hinv : s.Invariant sha256 forProduct forReservation share)
    (hmoves : ManagedMoves sha256 s action s') :
    s'.Invariant sha256 forProduct forReservation share where
  tracked := by
    intro t live hlive hclean hheeds
    by_cases hsame : t = action.transaction
    · subst hsame
      exact hinv.tracked_own htallies hkept.wellFormed hmoves hlive hclean
        hheeds
    · obtain ⟨hkeptLive, hheld, hspares⟩ := hkept.frame hmoves hsame
      rw [hkeptLive] at hlive
      rw [hheld]
      exact (hinv.tracked hlive hclean (heeds_of_step hmoves hheeds)).later
        hspares
  ledger := hinv.ledger_step htallies hkept.wellFormed hmoves

theorem Kept.step (hkept : s.Kept sha256)
    (hmoves : ManagedMoves sha256 s action s') : s'.Kept sha256 where
  wellFormed := by
    cases hmoves with
    | exec hlive hrest havailable => exact hkept.wellFormed
    | advance hnot hmoves =>
        cases hmoves with
        | commit hlive hrest hclean =>
            exact (hkept.snoc hlive hrest hclean).wellFormed _
              hkept.wellFormed (.refl _ _)
        | _ => exact hkept.wellFormed
  invariant := hkept.invariant.step tallies_nothing hkept hmoves

theorem kept_initial : initial.Kept sha256 where
  wellFormed := Database.wellFormed_empty
  invariant := {
    tracked := by
      intro t transaction hlive
      cases hlive
    ledger := fun _ => rfl }

theorem Reachable.kept (hreach : Reachable sha256 s) : s.Kept sha256 :=
  hreach.induction kept_initial fun hkept hmoves => hkept.step hmoves

end ManagedSystem

open ManagedSystem in
/-- The ledger of a reachable state. -/
theorem Tallies.ledger (htallies : Tallies forProduct forReservation share)
    {s : ManagedSystem} (hreach : Reachable sha256 s)
    (hheeds : ∀ t, s.Committed t → s.Heeds forProduct forReservation t) :
    s.system.db.total forProduct forReservation =
      (s.system.durable.map share).sum := by
  have hboth : s.Kept sha256 ∧
      s.Invariant sha256 forProduct forReservation share := by
    refine @Reachable.induction sha256 (fun s => s.Kept sha256 ∧
      s.Invariant sha256 forProduct forReservation share)
      ⟨kept_initial, ?_⟩ ?_ s hreach
    · constructor
      case tracked =>
        intro t transaction hlive
        cases hlive
      case ledger => exact fun _ => rfl
    · rintro s action s' ⟨hkept, hinv⟩ hmoves
      exact ⟨hkept.step hmoves, hinv.step htallies hkept hmoves⟩
  exact hboth.2.ledger hheeds

end InventoryCloud
