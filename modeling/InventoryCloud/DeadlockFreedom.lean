import InventoryCloud.RunHistory

/-!
# Deadlock freedom

Every call takes its locks in the order advisory lock, reservation row,
product row, entries of the unique indexes.  A statement that asks for a lock
its transaction does not own asks above everything owned, so the waits climb
the ranks and cannot close a cycle.
-/

namespace InventoryCloud

open Interaction
open InventoryService
open Locking

def Lock.rank : Lock → ℕ
  | .advisory _ => 0
  | .reservationRow _ => 1
  | .productRow _ => 2
  | _ => 3

/-- The rank of the locks which the statement asks for. -/
def Statement.rank : Statement → ℕ
  | .findOwnedForUpdate _ _ => 1
  | .findProductByIdForUpdate _ => 2
  | .execute (.insertProduct _) => 3
  | .execute (.insertReservation _) => 3
  | .execute (.updateProduct _) => 2
  | .execute (.updateReservation _) => 1
  | .referenceProduct _ => 2
  | _ => 0

variable {sha256 : List UInt8 → List UInt8}

theorem Statement.rank_of_mem_needs {view : Database} {statement : Statement}
    {request : Lock × Mode}
    (hmem : request ∈ statement.needs sha256 view) :
    request.1.rank = statement.rank := by
  cases statement with
  | acquire customerId key =>
      rw [List.mem_singleton.mp hmem]
      rfl
  | findProductByIdForUpdate id | referenceProduct id =>
      simp only [Statement.needs] at hmem
      split at hmem
      next =>
        rw [List.mem_singleton.mp hmem]
        rfl
      next => cases hmem
  | findOwnedForUpdate id customerId =>
      simp only [Statement.needs] at hmem
      split at hmem
      next =>
        rw [List.mem_singleton.mp hmem]
        rfl
      next => cases hmem
  | execute write =>
      cases write with
      | insertProduct product =>
          simp only [Statement.needs] at hmem
          split at hmem
          next =>
            simp only [List.mem_cons, List.not_mem_nil, or_false] at hmem
            rcases hmem with rfl | rfl <;> rfl
          next => cases hmem
      | insertReservation reservation =>
          simp only [Statement.needs] at hmem
          split at hmem
          next =>
            rcases List.mem_cons.mp hmem with rfl | hkey
            · rfl
            · obtain ⟨key, -, rfl⟩ := List.mem_map.mp hkey
              rfl
          next => cases hmem
      | updateProduct product | updateReservation reservation =>
          simp only [Statement.needs] at hmem
          split at hmem
          next =>
            rw [List.mem_singleton.mp hmem]
            rfl
          next => cases hmem
  | _ => cases hmem

/-- Each statement asks for owned locks, or exclusively for locks above
everything owned. -/
def Climbs (sha256 : List UInt8 → List UInt8) :
    Set Lock → Program Statement Statement.Answer Result → Prop
  | _, .pure _ => True
  | held, .ask statement next => ∀ view : Database,
      ((∀ request ∈ statement.needs sha256 view, request.1 ∈ held) ∨
        ((∀ resource ∈ held, resource.rank < statement.rank) ∧
          ∀ request ∈ statement.needs sha256 view,
            request.2 = Mode.exclusive)) ∧
      Climbs sha256 (held ∪ statement.takes sha256 view)
        (next (statement.answer view))

/-! ## The calls climb -/

section

variable {held : Set Lock}

/-- A reading statement after which the call ends. -/
theorem climbs_last {statement : Statement}
    {next : statement.Answer → Program Statement Statement.Answer Result}
    (hneeds : ∀ view, statement.needs sha256 view = [])
    (hpure : ∀ answer, ∃ result, next answer = .pure result) :
    Climbs sha256 held (.ask statement next) := by
  intro view
  obtain ⟨result, hresult⟩ := hpure (statement.answer view)
  rw [hneeds, hresult]
  exact ⟨Or.inl (by rintro request ⟨⟩), trivial⟩

theorem rank_lt_of_union {statement : Statement} {view : Database} {bound : ℕ}
    (hbelow : ∀ resource ∈ held, resource.rank < bound)
    (hrank : statement.rank < bound) :
    ∀ resource ∈ held ∪ statement.takes sha256 view,
      resource.rank < bound := by
  rintro resource (hold | htaken)
  · exact hbelow resource hold
  · have hsame := Statement.rank_of_mem_needs (mem_takes.mp htaken)
    exact hsame ▸ hrank

theorem climbs_findProductByIdForUpdate {id : UUID}
    {next : Option Product → Program Statement Statement.Answer Result}
    (hbelow : ∀ resource ∈ held, resource.rank < 2)
    (hnone : ∃ result, next none = .pure result)
    (hsome : ∀ product more, product.id = id → held ⊆ more →
      Lock.productRow id ∈ more → (∀ resource ∈ more, resource.rank < 3) →
        Climbs sha256 more (next (some product))) :
    Climbs sha256 held (.ask (.findProductByIdForUpdate id) next) := by
  intro view
  constructor
  · refine Or.inr ⟨hbelow, fun request hrequest => ?_⟩
    simp only [Statement.needs] at hrequest
    split at hrequest
    next => rw [List.mem_singleton.mp hrequest]
    next => cases hrequest
  · cases hfind : view.findProduct id with
    | none =>
        obtain ⟨result, hresult⟩ := hnone
        have hanswer : Statement.answer view
            (.findProductByIdForUpdate id) = none := hfind
        rw [hanswer, hresult]
        trivial
    | some product =>
        have hanswer : Statement.answer view
            (.findProductByIdForUpdate id) = some product := hfind
        rw [hanswer]
        refine hsome product _ (Database.findProduct_id hfind)
          Set.subset_union_left (Or.inr (productRow_mem_takes hfind))
          (rank_lt_of_union (fun resource hmem => ?_) (by simp [Statement.rank]))
        exact (hbelow resource hmem).trans (by decide)

/-- The row which an update changes. -/
def Write.row : Write → Option Lock
  | .updateProduct product => some (.productRow product.id)
  | .updateReservation reservation => some (.reservationRow reservation.id)
  | _ => none

theorem climbs_updates {session : Session} {returned : Returned}
    {writes : List Write}
    (hrows : ∀ write ∈ writes, ∃ resource ∈ held,
      write.row = some resource) :
    Climbs sha256 held (session.flushing returned writes) := by
  induction writes generalizing held with
  | nil => trivial
  | cons write writes ih =>
      intro view
      obtain ⟨resource, hheld, hrow⟩ := hrows write List.mem_cons_self
      have hrest : Climbs sha256
          (held ∪ (Statement.execute write).takes sha256 view)
          (session.flushing returned writes) := by
        refine ih fun other hother => ?_
        obtain ⟨lock, hlock, hsame⟩ :=
          hrows other (List.mem_cons_of_mem _ hother)
        exact ⟨lock, Or.inl hlock, hsame⟩
      have hreferencing : session.referencing write
          (session.flushing returned writes) =
            session.flushing returned writes := by
        cases write with
        | insertReservation reservation => cases hrow
        | _ => rfl
      constructor
      · refine Or.inl fun request hrequest => ?_
        have hsame : request.1 = resource := by
          cases write with
          | insertProduct product => cases hrow
          | insertReservation reservation => cases hrow
          | updateProduct product | updateReservation reservation =>
              cases hrow
              simp only [Statement.needs] at hrequest
              split at hrequest
              next => rw [List.mem_singleton.mp hrequest]
              next => cases hrequest
        rw [hsame]
        exact hheld
      · change Climbs sha256 _ (if view.accepts write = true then
          session.referencing write (session.flushing returned writes) else _)
        by_cases haccept : view.accepts write = true
        · rw [if_pos haccept, hreferencing]
          exact hrest
        · rw [if_neg haccept]
          trivial

theorem climbs_insertReservation {session : Session} {returned : Returned}
    {product : Product} {reservation : Reservation}
    (hbelow : ∀ resource ∈ held, resource.rank < 3)
    (hrow : Lock.productRow product.id ∈ held)
    (hproduct : reservation.productId = product.id) :
    Climbs sha256 held (session.flushing returned
      [.insertReservation reservation, .updateProduct product]) := by
  intro view
  constructor
  · refine Or.inr ⟨hbelow, fun request hrequest => ?_⟩
    simp only [Statement.needs] at hrequest
    split at hrequest
    next =>
      rcases List.mem_cons.mp hrequest with rfl | hkey
      · rfl
      · obtain ⟨key, -, rfl⟩ := List.mem_map.mp hkey
        rfl
    next => cases hrequest
  · change Climbs sha256 _
      (if view.accepts (.insertReservation reservation) = true then
        session.referencing (.insertReservation reservation)
          (session.flushing returned [.updateProduct product]) else _)
    by_cases haccept : view.accepts (.insertReservation reservation) = true
    · rw [if_pos haccept]
      intro later
      constructor
      · refine Or.inl fun request hrequest => Or.inl ?_
        simp only [Statement.needs] at hrequest
        split at hrequest
        next =>
          rw [List.mem_singleton.mp hrequest, hproduct]
          exact hrow
        next => cases hrequest
      · change Climbs sha256 _
          (if (later.findProduct reservation.productId).isSome = true then
            session.flushing returned [.updateProduct product] else _)
        split
        next =>
          refine climbs_updates fun write hwrite => ?_
          rw [List.mem_singleton.mp hwrite]
          exact ⟨_, Or.inl (Or.inl hrow), rfl⟩
        next => trivial
    · rw [if_neg haccept]
      trivial

private theorem climbs_reserveNew {fresh : Fresh} {productId : UUID}
    {quantity : Int32} {customerId idempotencyKey : Option JavaString}
    {customer : JavaString}
    (hcustomer : Reservation.validateCustomerId customerId = .ok customer)
    (hvalid : Reservation.validateIdempotencyKey idempotencyKey = .ok ())
    (hbelow : ∀ resource ∈ held, resource.rank < 2) :
    Climbs sha256 held (reserveNewProgram fresh productId quantity customerId
      idempotencyKey) := by
  refine climbs_findProductByIdForUpdate hbelow ⟨_, rfl⟩
    fun product more hid hmore hrow hranks => ?_
  simp only [Reservation.new_call hcustomer hvalid,
    Product.reserveStock_call]
  by_cases hquantity : PositiveQuantity quantity
  · by_cases hstock : product.availableQuantity < quantity
    · simp only [if_pos hquantity, if_pos hstock]
      trivial
    · simp only [if_pos hquantity, if_neg hstock, Session.finish_eq]
      exact climbs_insertReservation hranks (hid ▸ hrow) rfl
  · simp only [if_neg hquantity]
    trivial

private theorem climbs_reserve (fresh : Fresh) (productId : UUID)
    (quantity : Int32) (customerId idempotencyKey : Option JavaString) :
    Climbs sha256 ∅ (Call.reserve fresh productId quantity customerId
      idempotencyKey).program := by
  rw [reserve_program]
  by_cases hquantity : PositiveQuantity quantity
  · rw [if_pos hquantity]
    cases hcustomer : Reservation.validateCustomerId customerId with
    | error exception => trivial
    | ok customer =>
        cases hvalid : Reservation.validateIdempotencyKey idempotencyKey with
        | error exception => trivial
        | ok _ =>
            cases idempotencyKey with
            | none =>
                exact climbs_reserveNew hcustomer hvalid (by rintro _ ⟨⟩)
            | some key =>
                intro view
                refine ⟨Or.inr ⟨by rintro _ ⟨⟩, fun request hrequest => ?_⟩,
                  fun later => ⟨Or.inl (by rintro _ ⟨⟩), ?_⟩⟩
                · rw [List.mem_singleton.mp hrequest]
                · have hbelow := @rank_lt_of_union sha256 _
                    (.findByCustomerIdAndIdempotencyKey customer key) later 2
                    (@rank_lt_of_union sha256 ∅ (.acquire customer key) view 2
                      (by rintro _ ⟨⟩) (by simp [Statement.rank]))
                    (by simp [Statement.rank])
                  cases hfind :
                      later.findByCustomerIdAndIdempotencyKey customer key with
                  | none =>
                      have hanswer : Statement.answer later
                          (.findByCustomerIdAndIdempotencyKey customer key) =
                            none := hfind
                      rw [hanswer]
                      exact climbs_reserveNew hcustomer hvalid hbelow
                  | some reservation =>
                      have hanswer : Statement.answer later
                          (.findByCustomerIdAndIdempotencyKey customer key) =
                            some reservation := hfind
                      rw [hanswer]
                      dsimp only
                      split <;> trivial
  · rw [if_neg hquantity]
    trivial

private theorem climbs_addStock (id : UUID) (quantity : Int32) :
    Climbs sha256 ∅ (Call.addStock id quantity).program := by
  rw [addStock_program]
  by_cases hquantity : PositiveQuantity quantity
  · rw [if_pos hquantity]
    refine climbs_findProductByIdForUpdate (by rintro _ ⟨⟩) ⟨_, rfl⟩
      fun product more hid hmore hrow hranks => ?_
    simp only [Product.addStock_call, if_pos hquantity]
    by_cases hcap : maxQuantity - product.availableQuantity < quantity
    · simp only [if_pos hcap]
      trivial
    · simp only [if_neg hcap, Session.finish_eq]
      refine climbs_updates fun write hwrite => ?_
      rw [List.mem_singleton.mp hwrite]
      exact ⟨_, hid ▸ hrow, rfl⟩
  · rw [if_neg hquantity]
    trivial

private theorem climbs_createProduct (fresh : Fresh)
    (sku name : Option JavaString) (initialQuantity : Int32) :
    Climbs sha256 ∅
      (Call.createProduct fresh sku name initialQuantity).program := by
  rw [createProduct_program]
  cases Product.new fresh sku name initialQuantity with
  | error exception => trivial
  | ok product =>
      intro view
      refine ⟨Or.inl (by rintro _ ⟨⟩), ?_⟩
      dsimp only
      split
      next => trivial
      next =>
        intro later
        constructor
        · refine Or.inr ⟨rank_lt_of_union (by rintro _ ⟨⟩)
            (by simp [Statement.rank]), fun request hrequest => ?_⟩
          simp only [Statement.needs] at hrequest
          split at hrequest
          next =>
            simp only [List.mem_cons, List.not_mem_nil, or_false] at hrequest
            rcases hrequest with rfl | rfl <;> rfl
          next => cases hrequest
        · dsimp only
          split <;> trivial

private theorem climbs_cancelReservation (now : Instant) (id : UUID)
    (customerId : Option JavaString) :
    Climbs sha256 ∅ (Call.cancelReservation now id customerId).program := by
  rw [cancelReservation_program]
  cases Reservation.validateCustomerId customerId with
  | error exception => trivial
  | ok customer =>
      intro view
      constructor
      · refine Or.inr ⟨by rintro _ ⟨⟩, fun request hrequest => ?_⟩
        simp only [Statement.needs] at hrequest
        split at hrequest
        next => rw [List.mem_singleton.mp hrequest]
        next => cases hrequest
      · cases hfind : view.findByIdAndCustomerId id customer with
        | none =>
            have hanswer : Statement.answer view
                (.findOwnedForUpdate id customer) = none := hfind
            rw [hanswer]
            trivial
        | some reservation =>
            have hanswer : Statement.answer view
                (.findOwnedForUpdate id customer) = some reservation := hfind
            rw [hanswer]
            dsimp only
            obtain ⟨-, hid, -⟩ := Database.findByIdAndCustomerId_some hfind
            by_cases hactive : reservation.status = .active
            · rw [if_pos hactive]
              refine climbs_findProductByIdForUpdate
                (rank_lt_of_union (by rintro _ ⟨⟩)
                  (by simp [Statement.rank])) ⟨_, rfl⟩
                fun product more hproduct hmore hrow hranks => ?_
              simp only [Reservation.cancel_call, hactive, reduceCtorEq,
                if_false, Product.addStock_call]
              have hown : Lock.reservationRow reservation.id ∈ more := by
                rw [hid]
                exact hmore (Or.inr (reservationRow_mem_takes hfind))
              by_cases hquantity : PositiveQuantity reservation.quantity
              · by_cases hcap : maxQuantity - product.availableQuantity <
                    reservation.quantity
                · simp only [if_pos hquantity, if_pos hcap]
                  trivial
                · simp only [if_pos hquantity, if_neg hcap, Session.finish_eq]
                  refine climbs_updates fun write hwrite => ?_
                  rcases List.mem_cons.mp hwrite with rfl | hlast
                  · exact ⟨_, hproduct ▸ hrow, rfl⟩
                  · rw [List.mem_singleton.mp hlast]
                    exact ⟨_, hown, rfl⟩
              · simp only [if_neg hquantity]
                trivial
            · rw [if_neg hactive]
              refine climbs_last (fun _ => rfl) fun loaded => ?_
              cases loaded with
              | none => exact ⟨_, rfl⟩
              | some product => exact ⟨_, rfl⟩

theorem climbs_program (call : Call) : Climbs sha256 ∅ call.program := by
  cases call with
  | createProduct fresh sku name initialQuantity =>
      exact climbs_createProduct fresh sku name initialQuantity
  | listProducts request =>
      exact climbs_last (fun _ => rfl) fun page => ⟨_, rfl⟩
  | getProduct id =>
      rw [getProduct_program]
      refine climbs_last (fun _ => rfl) fun found => ?_
      cases found with
      | none => exact ⟨_, rfl⟩
      | some product => exact ⟨_, rfl⟩
  | addStock id quantity => exact climbs_addStock id quantity
  | reserve fresh productId quantity customerId idempotencyKey =>
      exact climbs_reserve fresh productId quantity customerId idempotencyKey
  | listReservations customerId request =>
      rw [listReservations_program]
      cases Reservation.validateCustomerId customerId with
      | error exception => trivial
      | ok customer => exact climbs_last (fun _ => rfl) fun page => ⟨_, rfl⟩
  | getReservation id customerId =>
      rw [getReservation_program]
      cases Reservation.validateCustomerId customerId with
      | error exception => trivial
      | ok customer =>
          refine climbs_last (fun _ => rfl) fun found => ?_
          cases found with
          | none => exact ⟨_, rfl⟩
          | some reservation => exact ⟨_, rfl⟩
  | cancelReservation now id customerId =>
      exact climbs_cancelReservation now id customerId

end

/-! ## Waiting transactions -/

/-- Every transaction makes one call. -/
def Action.StartsOnly : Action → Prop
  | .next _ _ => False
  | _ => True

namespace System

/-- `t` waits for a lock in the hands of `u`. -/
def Waits (sha256 : List UInt8 → List UInt8) (s : System) (t u : ℕ) : Prop :=
  ∃ transaction statement next, s.transactions t = some transaction ∧
    transaction.rest = .ask statement next ∧
    ∃ request ∈ statement.needs sha256 (transaction.view s.db),
      s.locks.Blocks t request u

structure Climbing (sha256 : List UInt8 → List UInt8) (s : System) : Prop where
  shared : s.locks.SharedByOwner
  climbs : ∀ {t transaction}, s.transactions t = some transaction →
    Climbs sha256 (s.locks.held t) transaction.rest
  idle : ∀ {t}, s.transactions t = none → s.locks.held t = ∅

theorem climbing_initial : initial.Climbing sha256 where
  shared := LockTable.sharedByOwner_empty
  climbs hlive := by cases hlive
  idle _ := by
    ext resource
    simp [initial, LockTable.empty]

theorem Climbing.begun {s : System} (hclimbing : s.Climbing sha256)
    {t server : ℕ} {call : Call} (hfree : s.transactions t = none) :
    (s.begun t server call).Climbing sha256 where
  shared := hclimbing.shared
  climbs := by
    intro other transaction hother
    by_cases hsame : other = t
    · subst hsame
      have hempty : s.locks.held other = ∅ := hclimbing.idle hfree
      cases begun_self hother
      change Climbs sha256 (s.locks.held other) call.program
      rw [hempty]
      exact climbs_program call
    · rw [begun_other hsame] at hother
      exact hclimbing.climbs hother
  idle := by
    intro other hother
    by_cases hsame : other = t
    · subst hsame
      simp [System.begun] at hother
    · rw [begun_other hsame] at hother
      exact hclimbing.idle hother

theorem Climbing.executed {s : System} (hclimbing : s.Climbing sha256) {t : ℕ}
    {transaction : Transaction} {statement : Statement}
    {next : statement.Answer → Program Statement Statement.Answer Result}
    (hlive : s.transactions t = some transaction)
    (hrest : transaction.rest = .ask statement next)
    (havailable : ∀ request ∈ statement.needs sha256 (transaction.view s.db),
      s.locks.available t request = true) :
    (s.executed sha256 t transaction statement next).Climbing sha256 := by
  have hclimbs := hclimbing.climbs hlive
  rw [hrest] at hclimbs
  obtain ⟨hordered, hafter⟩ := hclimbs (transaction.view s.db)
  constructor
  · refine hclimbing.shared.acquireAll havailable fun request hmem hmode => ?_
    rcases hordered with howned | ⟨-, hexclusive⟩
    · exact howned request hmem
    · have hnot := hexclusive request hmem
      rw [hmode] at hnot
      cases hnot
  · intro other live hother
    by_cases hsame : other = t
    · subst hsame
      rw [held_executed_self, executed_self hother]
      exact hafter
    · obtain ⟨hkept, hheld⟩ := executed_other hsame havailable
      rw [hkept] at hother
      rw [hheld]
      exact hclimbing.climbs hother
  · intro other hidle
    by_cases hsame : other = t
    · subst hsame
      simp [System.executed] at hidle
    · obtain ⟨hkept, hheld⟩ := executed_other hsame havailable
      rw [hkept] at hidle
      exact hheld.trans (hclimbing.idle hidle)

theorem Climbing.ended {s s' : System} (hclimbing : s.Climbing sha256) {t : ℕ}
    (htransactions : s'.transactions = Function.update s.transactions t none)
    (hlocks : s'.locks = s.locks.release t) : s'.Climbing sha256 where
  shared := by
    rw [hlocks]
    exact hclimbing.shared.release t
  climbs := by
    intro other transaction hother
    obtain ⟨hne, hold⟩ := live_of_ended htransactions hother
    rw [hlocks, LockTable.held_release_other hne]
    exact hclimbing.climbs hold
  idle := by
    intro other hother
    rw [htransactions] at hother
    rw [hlocks]
    by_cases hsame : other = t
    · subst hsame
      exact LockTable.held_release_self _ _
    · rw [Function.update_of_ne hsame] at hother
      rw [LockTable.held_release_other hsame]
      exact hclimbing.idle hother

theorem Climbing.step {s s' : System} {action : Action}
    (hclimbing : s.Climbing sha256) (honly : action.StartsOnly)
    (hmoves : Moves sha256 s action s') : s'.Climbing sha256 := by
  cases hmoves with
  | begin hfree hnew hfresh => exact hclimbing.begun hfree
  | next hlive hrest hfresh => exact absurd honly id
  | exec hlive hrest havailable =>
      exact hclimbing.executed hlive hrest havailable
  | commit hlive hrest hclean => exact hclimbing.ended rfl rfl
  | fail hlive hrest => exact hclimbing.ended rfl rfl
  | abort hlive hstatus => exact hclimbing.ended rfl rfl

theorem climbing_of_run {s s' : System} {actions : List Action}
    (honly : ∀ action ∈ actions, action.StartsOnly)
    (hstart : s.Climbing sha256) (hrun : s.run sha256 actions = some s') :
    s'.Climbing sha256 := by
  apply run_induction_of honly hstart _ hrun
  intro before action after hstarts hclimbing hmoves
  exact hclimbing.step hstarts hmoves

/-- The rank of the locks which the transaction asks for next. -/
def nextRank (s : System) (t : ℕ) : ℕ :=
  match s.transactions t with
  | none => 0
  | some transaction =>
      match transaction.rest with
      | .pure _ => 0
      | .ask statement _ => statement.rank

theorem nextRank_eq {s : System} {t : ℕ} {transaction : Transaction}
    {statement : Statement}
    {next : statement.Answer → Program Statement Statement.Answer Result}
    (hlive : s.transactions t = some transaction)
    (hrest : transaction.rest = .ask statement next) :
    s.nextRank t = statement.rank := by
  simp only [nextRank, hlive, hrest]

/-- Whoever is waited for and waits itself asks above what it holds. -/
theorem Climbing.rank_lt {s : System} (hclimbing : s.Climbing sha256)
    {t u v : ℕ} (hfirst : s.Waits sha256 t u) (hsecond : s.Waits sha256 u v) :
    s.nextRank t < s.nextRank u := by
  obtain ⟨transaction, statement, next, hlive, hrest, request, hmem,
    hblocks⟩ := hfirst
  obtain ⟨other, asked, later, hother, hrestOther, wanted, hwanted,
    hblocksOther⟩ := hsecond
  have hheld : request.1 ∈ s.locks.held u :=
    hclimbing.shared.owner_of_blocks hblocks
  have hrank : request.1.rank = statement.rank :=
    Statement.rank_of_mem_needs hmem
  have hclimbs := hclimbing.climbs hother
  rw [hrestOther] at hclimbs
  rw [nextRank_eq hlive hrest, nextRank_eq hother hrestOther, ← hrank]
  rcases (hclimbs (other.view s.db)).1 with howned | ⟨hbelow, -⟩
  · -- What it waits for would be its own.
    have hself := howned wanted hwanted
    have howner := hclimbing.shared.owner_of_blocks hblocksOther
    rw [LockTable.mem_held, howner, Option.some.injEq] at hself
    exact absurd hself hblocksOther.1
  · exact hbelow request.1 hheld

/-- Transactions which make one call each never wait in a cycle. -/
theorem waits_acyclic {actions : List Action} {s : System}
    (honly : ∀ action ∈ actions, action.StartsOnly)
    (hrun : initial.run sha256 actions = some s) (t : ℕ) :
    ¬ Relation.TransGen (s.Waits sha256) t t := by
  have hclimbing : s.Climbing sha256 :=
    climbing_of_run honly climbing_initial hrun
  exact LockTable.no_waiting_cycle s.nextRank
    (fun hfirst hsecond => hclimbing.rank_lt hfirst hsecond) t

/-- Two reservers of one key, of which the first holds its lock. -/
theorem waits_acyclic_sample :
    ∃ s : System,
      initial.run (fun _ => []) (sampleActions.take 12) = some s ∧
      ∀ t, ¬ Relation.TransGen (s.Waits fun _ => []) t t := by
  have hsome : (initial.run (fun _ => []) (sampleActions.take 12)).isSome =
      true := by
    decide +kernel
  obtain ⟨s, hrun⟩ := Option.isSome_iff_exists.mp hsome
  have honly : ∀ action ∈ sampleActions.take 12, action.StartsOnly := by
    intro action haction
    fin_cases haction <;> trivial
  exact ⟨s, hrun, fun t => waits_acyclic honly hrun t⟩

end System

end InventoryCloud
