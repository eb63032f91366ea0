import InventoryCloud.TransactionSystem

/-!
# Persistence contexts

Within a transaction an entity is copied from its row once.  A later query
decides on the rows which of them match, but returns the managed entity of a
match as it is, locking or not: it does not show what other transactions have
committed to the row since.  A flush writes the whole entity.

A transaction of one call reads no entity twice.  The context matters to a
caller which encloses several calls in a transaction of its own.
-/

namespace InventoryCloud

open Interaction
open Locking

/-! ## Managed entities -/

/-- The managed entities; the first one of an id counts. -/
structure PersistenceContext where
  products : List Product
  reservations : List Reservation

namespace PersistenceContext

def empty : PersistenceContext where
  products := []
  reservations := []

def findProduct (context : PersistenceContext) (id : UUID) : Option Product :=
  context.products.find? (·.id = id)

def findReservation (context : PersistenceContext) (id : UUID) :
    Option Reservation :=
  context.reservations.find? (·.id = id)

/-- The entity a query returns for a row it has found. -/
def product (context : PersistenceContext) (row : Product) : Product :=
  (context.findProduct row.id).getD row

def reservation (context : PersistenceContext) (row : Reservation) :
    Reservation :=
  (context.findReservation row.id).getD row

/-- Rows become managed unless their entities are managed already. -/
def load (context : PersistenceContext) (products : List Product)
    (reservations : List Reservation) : PersistenceContext where
  products := context.products ++ products
  reservations := context.reservations ++ reservations

/-- An entity after the service has made or changed it. -/
def change (context : PersistenceContext) : Write → PersistenceContext
  | .insertProduct product =>
      { context with products := product :: context.products }
  | .updateProduct product =>
      { context with products := product :: context.products }
  | .insertReservation reservation =>
      { context with reservations := reservation :: context.reservations }
  | .updateReservation reservation =>
      { context with reservations := reservation :: context.reservations }

def changeAll (context : PersistenceContext) (writes : List Write) :
    PersistenceContext :=
  writes.foldl change context

theorem product_id (context : PersistenceContext) (row : Product) :
    (context.product row).id = row.id := by
  unfold product
  cases hfind : context.findProduct row.id with
  | none => rfl
  | some managed => simpa using List.find?_some hfind

theorem reservation_id (context : PersistenceContext) (row : Reservation) :
    (context.reservation row).id = row.id := by
  unfold reservation
  cases hfind : context.findReservation row.id with
  | none => rfl
  | some managed => simpa using List.find?_some hfind

end PersistenceContext

/-! ## Queries in a context -/

def Page.map {α β : Type} (page : Page α) (change : α → β) : Page β where
  content := page.content.map change
  number := page.number
  size := page.size
  totalElements := page.totalElements

/-- The products of reservations, which an entity graph joins to them. -/
def Database.productsOf (view : Database) (reservations : List Reservation) :
    List Product :=
  reservations.filterMap fun reservation =>
    view.findProduct reservation.productId

namespace Statement

def answerIn (context : PersistenceContext) (view : Database) :
    (statement : Statement) → statement.Answer
  | .acquire _ _ => ()
  | .existsBySku sku => view.existsBySku sku
  | .findProductById id =>
      -- `find` asks for an entity only if it is not managed.
      (context.findProduct id).or (view.findProduct id)
  | .findProductByIdForUpdate id => (view.findProduct id).map context.product
  | .findAllProducts request => (view.findAll request).map context.product
  | .findByIdAndCustomerId id customerId =>
      (view.findByIdAndCustomerId id customerId).map context.reservation
  | .findByCustomerIdAndIdempotencyKey customerId key =>
      (view.findByCustomerIdAndIdempotencyKey customerId key).map
        context.reservation
  | .findOwnedForUpdate id customerId =>
      (view.findByIdAndCustomerId id customerId).map context.reservation
  | .findAllByCustomerId customerId request =>
      (view.findAllByCustomerId customerId request).map context.reservation
  | .execute write => view.accepts write
  | .referenceProduct id => (view.findProduct id).isSome

/-- The rows whose reservations a statement loads. -/
def loadedReservations (view : Database) : Statement → List Reservation
  | .findByIdAndCustomerId id customerId =>
      (view.findByIdAndCustomerId id customerId).toList
  | .findByCustomerIdAndIdempotencyKey customerId key =>
      (view.findByCustomerIdAndIdempotencyKey customerId key).toList
  | .findOwnedForUpdate id customerId =>
      (view.findByIdAndCustomerId id customerId).toList
  | .findAllByCustomerId customerId request =>
      (view.findAllByCustomerId customerId request).content
  | _ => []

/-- The rows whose products a statement loads. -/
def loadedProducts (view : Database) : Statement → List Product
  | .findProductById id => (view.findProduct id).toList
  | .findProductByIdForUpdate id => (view.findProduct id).toList
  | .findAllProducts request => (view.findAll request).content
  -- `findOwnedForUpdate` has no entity graph and leaves a proxy.
  | .findOwnedForUpdate _ _ => []
  | statement => view.productsOf (statement.loadedReservations view)

/-- The row a locking query of products locks. -/
def lockedProduct (view : Database) : Statement → Option Product
  | .findProductByIdForUpdate id => view.findProduct id
  | _ => none

def lockedReservation (view : Database) : Statement → Option Reservation
  | .findOwnedForUpdate id customerId =>
      view.findByIdAndCustomerId id customerId
  | _ => none

end Statement

/-! ## Transactions with their contexts -/

/-- What a locking query found and what it returned to the transaction. -/
structure LockedRow (α : Type) where
  transaction : ℕ
  row : α
  entity : α

structure ManagedSystem where
  system : System
  contexts : ℕ → PersistenceContext
  lockedProducts : List (LockedRow Product)
  lockedReservations : List (LockedRow Reservation)

namespace ManagedSystem

def initial : ManagedSystem where
  system := .initial
  contexts := fun _ => .empty
  lockedProducts := []
  lockedReservations := []

def executed (sha256 : List UInt8 → List UInt8) (s : ManagedSystem) (t : ℕ)
    (transaction : Transaction) (statement : Statement)
    (next : statement.Answer → Program Statement Statement.Answer Result) :
    ManagedSystem :=
  let view := transaction.view s.system.db
  let context := s.contexts t
  { system :=
      { s.system with
        transactions := Function.update s.system.transactions t
          (some { transaction with
            rest := next (statement.answerIn context view) })
        locks := s.system.locks.acquireAll t (statement.needs sha256 view) }
    contexts := Function.update s.contexts t (context.load
      (statement.loadedProducts view) (statement.loadedReservations view))
    lockedProducts := s.lockedProducts ++
      (statement.lockedProduct view).toList.map fun row =>
        ⟨t, row, context.product row⟩
    lockedReservations := s.lockedReservations ++
      (statement.lockedReservation view).toList.map fun row =>
        ⟨t, row, context.reservation row⟩ }

/-- The contexts after a step that asks nothing: a transaction starts with an
empty one, and what a call has made or changed stays managed. -/
def contextsAfter (s : ManagedSystem) : Action → ℕ → PersistenceContext
  | .begin t _ _ => Function.update s.contexts t .empty
  | .next t _ =>
      match s.system.transactions t with
      | some ⟨_, _, _, .pure (_, session), _⟩ =>
          Function.update s.contexts t
            ((s.contexts t).changeAll session.writes)
      | _ => s.contexts
  | _ => s.contexts

def advanced (s : ManagedSystem) (action : Action) (system : System) :
    ManagedSystem :=
  { s with
    system := system
    contexts := s.contextsAfter action }

def step (sha256 : List UInt8 → List UInt8) (s : ManagedSystem) :
    Action → Option ManagedSystem
  | .exec t =>
      match s.system.transactions t with
      | none => none
      | some transaction =>
          match transaction.rest with
          | .pure _ => none
          | .ask statement next =>
              if (statement.needs sha256 (transaction.view s.system.db)).all
                  (s.system.locks.available t) then
                some (s.executed sha256 t transaction statement next)
              else none
  | action => (s.system.step sha256 action).map (s.advanced action)

def run (sha256 : List UInt8 → List UInt8) (s : ManagedSystem)
    (actions : List Action) : Option ManagedSystem :=
  actions.foldlM (step sha256) s

def Reachable (sha256 : List UInt8 → List UInt8) (s : ManagedSystem) : Prop :=
  ∃ actions, initial.run sha256 actions = some s

end ManagedSystem

/-! ## Inversion of a step -/

/-- Everything a step can do: it executes a statement in its context, or does
what it does without contexts. -/
inductive ManagedMoves (sha256 : List UInt8 → List UInt8) (s : ManagedSystem) :
    Action → ManagedSystem → Prop where
  | exec {t transaction statement next}
      (hlive : s.system.transactions t = some transaction)
      (hrest : transaction.rest = .ask statement next)
      (havailable : ∀ request ∈
          statement.needs sha256 (transaction.view s.system.db),
        s.system.locks.available t request = true) :
      ManagedMoves sha256 s (.exec t)
        (s.executed sha256 t transaction statement next)
  | advance {action system} (hnot : ∀ t, action ≠ .exec t)
      (hmoves : Moves sha256 s.system action system) :
      ManagedMoves sha256 s action (s.advanced action system)

namespace ManagedSystem

variable {sha256 : List UInt8 → List UInt8}

theorem moves_of_step {s s' : ManagedSystem} {action : Action}
    (hstep : s.step sha256 action = some s') :
    ManagedMoves sha256 s action s' := by
  cases action with
  | exec t =>
      cases hlive : s.system.transactions t with
      | none => simp [step, hlive] at hstep
      | some transaction =>
          cases hrest : transaction.rest with
          | pure result => simp [step, hlive, hrest] at hstep
          | ask statement next =>
              simp only [step, hlive, hrest] at hstep
              split at hstep
              next hguard =>
                cases hstep
                exact .exec hlive hrest (List.all_eq_true.mp hguard)
              next => cases hstep
  | _ =>
      simp only [step, Option.map_eq_some_iff] at hstep
      obtain ⟨system, hsystem, rfl⟩ := hstep
      exact .advance (by simp) (System.moves_of_step hsystem)

theorem run_cons (s : ManagedSystem) (action : Action)
    (actions : List Action) :
    s.run sha256 (action :: actions) =
      (s.step sha256 action).bind fun s' => s'.run sha256 actions := rfl

theorem run_induction {P : ManagedSystem → Prop} {allowed : Action → Prop}
    {s s' : ManagedSystem} {actions : List Action}
    (hallowed : ∀ action ∈ actions, allowed action) (hstart : P s)
    (hstep : ∀ {s action s'}, allowed action → P s →
      ManagedMoves sha256 s action s' → P s')
    (hrun : s.run sha256 actions = some s') : P s' := by
  induction actions generalizing s with
  | nil =>
      cases hrun
      exact hstart
  | cons action actions ih =>
      rw [run_cons, Option.bind_eq_some_iff] at hrun
      obtain ⟨middle, hfirst, hrest⟩ := hrun
      have hmiddle : P middle :=
        hstep (hallowed action List.mem_cons_self) hstart (moves_of_step hfirst)
      exact ih (fun other hother =>
        hallowed other (List.mem_cons_of_mem _ hother)) hmiddle hrest

theorem Reachable.induction {P : ManagedSystem → Prop}
    (hinitial : P initial)
    (hstep : ∀ {s action s'}, P s → ManagedMoves sha256 s action s' → P s')
    {s : ManagedSystem} (hreach : Reachable sha256 s) : P s := by
  obtain ⟨actions, hrun⟩ := hreach
  exact run_induction (fun _ _ => trivial) hinitial (fun _ => hstep) hrun

end ManagedSystem

end InventoryCloud
