import InventoryCloud.PersistenceContexts

/-!
# Transactions of one call

No call reads an entity twice.  A transaction that makes a single call gets
from its persistence context what it would get from the rows, so a run of such
transactions is a run of the system without contexts, and a locking query never
returns an entity that differs from its row.
-/

namespace InventoryCloud

open Interaction
open InventoryService

/-- The statements of the program get the answers they get without a context. -/
def ReadsOnce : PersistenceContext →
    Program Statement Statement.Answer Result → Prop
  | _, .pure _ => True
  | context, .ask statement next => ∀ view : Database,
      statement.answerIn context view = statement.answer view ∧
        ReadsOnce (context.load (statement.loadedProducts view)
          (statement.loadedReservations view)) (next (statement.answer view))

variable {context : PersistenceContext}

theorem readsOnce_flushing (session : Session) (returned : Returned)
    (writes : List Write) :
    ReadsOnce context (session.flushing returned writes) := by
  induction writes generalizing context with
  | nil => trivial
  | cons write writes ih =>
      have hnext : ∀ later, ReadsOnce later
          (session.referencing write (session.flushing returned writes)) := by
        intro later
        cases write with
        | insertReservation reservation =>
            intro view
            refine ⟨rfl, ?_⟩
            cases Statement.answer view
              (.referenceProduct reservation.productId)
            · trivial
            · exact ih
        | _ => exact ih
      intro view
      refine ⟨rfl, ?_⟩
      cases Statement.answer view (.execute write)
      · trivial
      · exact hnext _

theorem readsOnce_finish (session : Session) (returned : Returned) :
    ReadsOnce context (session.finish returned) := by
  rw [Session.finish_eq]
  exact readsOnce_flushing session returned session.flushPlan

/-- No product is managed yet. -/
theorem PersistenceContext.product_eq_id (hnew : context.products = []) :
    context.product = id := by
  funext row
  simp [product, findProduct, hnew]

@[simp] theorem PersistenceContext.product_empty :
    PersistenceContext.empty.product = id :=
  product_eq_id rfl

@[simp] theorem PersistenceContext.reservation_empty :
    PersistenceContext.empty.reservation = id := rfl

@[simp] theorem Page.map_id {α : Type} (page : Page α) :
    page.map id = page := by
  simp [Page.map]

theorem Statement.answerIn_empty (view : Database) (statement : Statement) :
    statement.answerIn .empty view = statement.answer view := by
  cases statement with
  | findProductById id => rfl
  | _ => simp [answerIn, answer]

/-- A call that ends with its first statement. -/
theorem readsOnce_last {statement : Statement}
    {next : statement.Answer → Program Statement Statement.Answer Result}
    (hends : ∀ answer, ∃ result, next answer = .pure result) :
    ReadsOnce .empty (.ask statement next) := by
  intro view
  refine ⟨statement.answerIn_empty view, ?_⟩
  obtain ⟨result, hresult⟩ := hends (statement.answer view)
  rw [hresult]
  trivial

/-- A product is read for the first time, and no other row after it. -/
theorem readsOnce_findProductByIdForUpdate {productId : UUID}
    {next : Option Product → Program Statement Statement.Answer Result}
    (hnew : context.products = [])
    (hnext : ∀ context found, ReadsOnce context (next found)) :
    ReadsOnce context (.ask (.findProductByIdForUpdate productId) next) := by
  intro view
  refine ⟨?_, hnext _ _⟩
  simp [Statement.answerIn, Statement.answer, context.product_eq_id hnew]

private theorem readsOnce_reserveNew {fresh : Fresh} {productId : UUID}
    {quantity : Int32} {customerId idempotencyKey : Option JavaString}
    (hnew : context.products = []) :
    ReadsOnce context
      (reserveNewProgram fresh productId quantity customerId
        idempotencyKey) := by
  refine readsOnce_findProductByIdForUpdate hnew fun context found => ?_
  cases found with
  | none => trivial
  | some product =>
      dsimp only
      rcases (Reservation.new fresh quantity customerId
        idempotencyKey).call product with ⟨exception | reservation, changed⟩
      · trivial
      · exact readsOnce_finish _ _

private theorem readsOnce_reserve (fresh : Fresh) (productId : UUID)
    (quantity : Int32) (customerId idempotencyKey : Option JavaString) :
    ReadsOnce .empty (Call.reserve fresh productId quantity customerId
      idempotencyKey).program := by
  rw [reserve_program]
  split
  next hquantity =>
    split
    next => trivial
    next customer hcustomer =>
      split
      next => trivial
      next =>
        cases idempotencyKey with
        | none => exact readsOnce_reserveNew rfl
        | some key =>
            refine fun locked => ⟨rfl, fun view =>
              ⟨Statement.answerIn_empty view _, ?_⟩⟩
            cases hfind :
                view.findByCustomerIdAndIdempotencyKey customer key with
            | none =>
                have hanswer : Statement.answer view
                    (.findByCustomerIdAndIdempotencyKey customer key) =
                      none := hfind
                rw [hanswer]
                -- No reservation is loaded, and so no product with it.
                refine readsOnce_reserveNew ?_
                simp [PersistenceContext.load, Statement.loadedProducts,
                  Statement.loadedReservations, Database.productsOf, hfind,
                  PersistenceContext.empty]
            | some reservation =>
                have hanswer : Statement.answer view
                    (.findByCustomerIdAndIdempotencyKey customer key) =
                      some reservation := hfind
                rw [hanswer]
                dsimp only
                split <;> trivial
  next => trivial

private theorem readsOnce_cancelReservation (now : Instant) (id : UUID)
    (customerId : Option JavaString) :
    ReadsOnce .empty (Call.cancelReservation now id customerId).program := by
  rw [cancelReservation_program]
  cases Reservation.validateCustomerId customerId with
  | error exception => trivial
  | ok customer =>
      refine fun view => ⟨Statement.answerIn_empty view _, ?_⟩
      cases Statement.answer view (.findOwnedForUpdate id customer) with
      | none => trivial
      | some reservation =>
          dsimp only
          split
          next hactive =>
            refine readsOnce_findProductByIdForUpdate rfl
              fun context locked => ?_
            cases locked with
            | none => trivial
            | some product =>
                dsimp only
                rcases (Reservation.cancel now).call (reservation, product)
                  with ⟨exception | value, changed⟩
                · trivial
                · exact readsOnce_finish _ _
          next hactive =>
            refine fun later => ⟨rfl, ?_⟩
            cases Statement.answer later
              (.findProductById reservation.productId) <;> trivial

theorem readsOnce_program (call : Call) :
    ReadsOnce .empty call.program := by
  cases call with
  | createProduct fresh sku name initialQuantity =>
      rw [createProduct_program]
      cases Product.new fresh sku name initialQuantity with
      | error exception => trivial
      | ok product =>
          refine fun view => ⟨rfl, ?_⟩
          cases Statement.answer view (.existsBySku product.sku)
          · refine fun later => ⟨rfl, ?_⟩
            cases Statement.answer later
              (.execute (.insertProduct product)) <;> trivial
          · trivial
  | listProducts request => exact readsOnce_last fun page => ⟨_, rfl⟩
  | getProduct id =>
      rw [getProduct_program]
      exact readsOnce_last fun found => by cases found <;> exact ⟨_, rfl⟩
  | addStock id quantity =>
      rw [addStock_program]
      split
      next hquantity =>
        refine readsOnce_findProductByIdForUpdate rfl fun context found => ?_
        cases found with
        | none => trivial
        | some product =>
            dsimp only
            rcases (Product.addStock quantity).call product with
              ⟨exception | value, changed⟩
            · trivial
            · exact readsOnce_finish _ _
      next => trivial
  | reserve fresh productId quantity customerId idempotencyKey =>
      exact readsOnce_reserve fresh productId quantity customerId
        idempotencyKey
  | listReservations customerId request =>
      rw [listReservations_program]
      cases Reservation.validateCustomerId customerId with
      | error exception => trivial
      | ok customer => exact readsOnce_last fun page => ⟨_, rfl⟩
  | getReservation id customerId =>
      rw [getReservation_program]
      cases Reservation.validateCustomerId customerId with
      | error exception => trivial
      | ok customer =>
          exact readsOnce_last fun found => by cases found <;> exact ⟨_, rfl⟩
  | cancelReservation now id customerId =>
      exact readsOnce_cancelReservation now id customerId

/-- A locking query that is answered as without a context returns the row. -/
theorem Statement.product_of_answer {statement : Statement} {view : Database}
    (hanswer : statement.answerIn context view = statement.answer view)
    {row : Product} (hlocked : statement.lockedProduct view = some row) :
    context.product row = row := by
  cases statement with
  | findProductByIdForUpdate id =>
      have hfind : view.findProduct id = some row := hlocked
      simp only [answerIn, answer, hfind, Option.map_some,
        Option.some.injEq] at hanswer
      exact hanswer
  | _ => cases hlocked

theorem Statement.reservation_of_answer {statement : Statement}
    {view : Database}
    (hanswer : statement.answerIn context view = statement.answer view)
    {row : Reservation} (hlocked : statement.lockedReservation view =
      some row) : context.reservation row = row := by
  cases statement with
  | findOwnedForUpdate id customerId =>
      have hfind : view.findByIdAndCustomerId id customerId = some row :=
        hlocked
      simp only [answerIn, answer, hfind, Option.map_some,
        Option.some.injEq] at hanswer
      exact hanswer
  | _ => cases hlocked

namespace ManagedSystem

variable {sha256 : List UInt8 → List UInt8}

/-- Every entity that a locking query has returned was its row. -/
structure EntitiesCurrent (s : ManagedSystem) : Prop where
  products : ∀ locked ∈ s.lockedProducts, locked.entity = locked.row
  reservations : ∀ locked ∈ s.lockedReservations, locked.entity = locked.row

/-- What is left of each call reads no entity of the context. -/
def ReadsOn (s : ManagedSystem) : Prop :=
  ∀ t transaction, s.system.transactions t = some transaction →
    ReadsOnce (s.contexts t) transaction.rest

/-- A step which makes no further call is one without contexts. -/
theorem ReadsOn.step {s s' : ManagedSystem} {action : Action}
    (hreads : s.ReadsOn) (hfirst : ∀ t call, action ≠ .next t call)
    (hmoves : ManagedMoves sha256 s action s') :
    Moves sha256 s.system action s'.system ∧ s'.ReadsOn := by
  cases hmoves with
  | @exec t transaction statement next hlive hrest havailable =>
      have hread := hreads t transaction hlive
      rw [hrest] at hread
      obtain ⟨hanswer, hlater⟩ := hread (transaction.view s.system.db)
      have hsystem : (s.executed sha256 t transaction statement next).system =
          s.system.executed sha256 t transaction statement next := by
        simp only [executed, System.executed, hanswer]
      refine ⟨hsystem ▸ .exec hlive hrest havailable, ?_⟩
      intro other live hother
      by_cases hsame : other = t
      · subst hsame
        rw [hsystem] at hother
        cases System.executed_self hother
        simpa [executed] using hlater
      · simp only [executed, Function.update_of_ne hsame] at hother ⊢
        exact hreads other live hother
  | @advance _ system hnot hsystem =>
      refine ⟨hsystem, ?_⟩
      intro other live hother
      cases hsystem with
      | @begin t server call hfree hnew hfresh =>
          by_cases hsame : other = t
          · subst hsame
            cases System.begun_self hother
            simpa [advanced, contextsAfter] using readsOnce_program call
          · rw [advanced, System.begun_other hsame] at hother
            simp only [advanced, contextsAfter, Function.update_of_ne hsame]
            exact hreads other live hother
      | next hlive hrest hfresh => exact absurd rfl (hfirst _ _)
      | exec hlive hrest havailable => exact absurd rfl (hnot _)
      | @commit t _ _ _ _ hlive hrest hclean =>
          by_cases hsame : other = t
          · subst hsame
            simp [advanced, System.committed, System.completed] at hother
          · rw [advanced, (System.committed_other hsame).1] at hother
            exact hreads other live hother
      | @fail t _ _ _ hlive hrest =>
          by_cases hsame : other = t
          · subst hsame
            simp [advanced, System.rolledBack, System.completed] at hother
          · rw [advanced, (System.rolledBack_other hsame).1] at hother
            exact hreads other live hother
      | @abort t _ _ hlive hstatus =>
          by_cases hsame : other = t
          · subst hsame
            simp [advanced, System.rolledBack, System.completed] at hother
          · rw [advanced, (System.rolledBack_other hsame).1] at hother
            exact hreads other live hother

theorem ReadsOn.entitiesCurrent {s s' : ManagedSystem} {action : Action}
    (hreads : s.ReadsOn) (hcurrent : s.EntitiesCurrent)
    (hmoves : ManagedMoves sha256 s action s') : s'.EntitiesCurrent := by
  cases hmoves with
  | @exec t transaction statement next hlive hrest havailable =>
      have hread := hreads t transaction hlive
      rw [hrest] at hread
      obtain ⟨hanswer, -⟩ := hread (transaction.view s.system.db)
      constructor
      · intro locked hmem
        rcases List.mem_append.mp hmem with hold | hnew
        · exact hcurrent.products locked hold
        · obtain ⟨row, hrow, rfl⟩ := List.mem_map.mp hnew
          exact Statement.product_of_answer hanswer
            (Option.mem_toList.mp hrow)
      · intro locked hmem
        rcases List.mem_append.mp hmem with hold | hnew
        · exact hcurrent.reservations locked hold
        · obtain ⟨row, hrow, rfl⟩ := List.mem_map.mp hnew
          exact Statement.reservation_of_answer hanswer
            (Option.mem_toList.mp hrow)
  | advance hnot hsystem => exact ⟨hcurrent.products, hcurrent.reservations⟩

theorem ReadsOn.run {s s' : ManagedSystem} {actions : List Action}
    (hreads : s.ReadsOn) (hcurrent : s.EntitiesCurrent)
    (hsingle : ∀ action ∈ actions, ∀ t call, action ≠ .next t call)
    (hrun : s.run sha256 actions = some s') :
    s.system.run sha256 actions = some s'.system ∧ s'.EntitiesCurrent := by
  induction actions generalizing s with
  | nil =>
      cases hrun
      exact ⟨rfl, hcurrent⟩
  | cons action actions ih =>
      rw [run_cons, Option.bind_eq_some_iff] at hrun
      obtain ⟨middle, hfirst, hrest⟩ := hrun
      obtain ⟨hmoves, hnext⟩ := hreads.step
        (hsingle action List.mem_cons_self) (moves_of_step hfirst)
      rw [System.run_cons, hmoves.step, Option.bind_some]
      exact ih hnext (hreads.entitiesCurrent hcurrent (moves_of_step hfirst))
        (fun other hother => hsingle other (List.mem_cons_of_mem _ hother))
        hrest

/-- Transactions of one call run as they do without contexts, and lock no
entity that differs from its row. -/
theorem run_of_single_calls {s : ManagedSystem} {actions : List Action}
    (hsingle : ∀ action ∈ actions, ∀ t call, action ≠ .next t call)
    (hrun : initial.run sha256 actions = some s) :
    System.initial.run sha256 actions = some s.system ∧
      s.EntitiesCurrent := by
  have hreads : initial.ReadsOn := by
    intro t transaction hlive
    cases hlive
  have hcurrent : initial.EntitiesCurrent := by
    constructor <;> (rintro locked ⟨⟩)
  exact hreads.run hcurrent hsingle hrun

end ManagedSystem

end InventoryCloud
