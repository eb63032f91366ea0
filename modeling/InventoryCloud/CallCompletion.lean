import InventoryCloud.DeadlockFreedom

/-!
# Every call comes to its end

No call sends more than six statements, so it moves at most eight times, its
start and its end included.  While a call is running, some running call can
move without being aborted.  So every schedule of the running calls ends, and
it ends with all of them answered and no lock left.
-/

namespace InventoryCloud

open Interaction
open Interaction.Program
open InventoryService
open Locking

/-! ## Calls are short -/

private theorem within_update {session : Session} {returned : Returned}
    {writes : List Write} {write : Write} {bound : ℕ}
    (hinsert : ∀ reservation, write ≠ .insertReservation reservation)
    (hrest : (session.flushing returned writes).Within bound) :
    (session.flushing returned (write :: writes)).Within (bound + 1) := by
  intro accepted
  cases accepted with
  | false => exact within_pure _ _
  | true =>
      cases write with
      | insertReservation reservation => exact absurd rfl (hinsert reservation)
      | _ => exact hrest

private theorem within_insertReservation {session : Session}
    {returned : Returned} {writes : List Write} {reservation : Reservation}
    {bound : ℕ} (hrest : (session.flushing returned writes).Within bound) :
    (session.flushing returned
      (.insertReservation reservation :: writes)).Within (bound + 2) := by
  intro accepted
  cases accepted with
  | false => exact within_pure _ _
  | true =>
      intro referenced
      cases referenced with
      | false => exact within_pure _ _
      | true => exact hrest

private theorem within_reserveNew (fresh : Fresh) (productId : UUID)
    (quantity : Int32) (customerId idempotencyKey : Option JavaString) :
    (reserveNewProgram fresh productId quantity customerId
      idempotencyKey).Within 4 := by
  intro found
  cases found with
  | none => exact within_pure _ _
  | some product =>
      dsimp only
      rcases (Reservation.new fresh quantity customerId
        idempotencyKey).call product with ⟨exception | reservation, changed⟩
      · exact within_pure _ _
      · simp only [Session.finish_eq]
        exact within_insertReservation
          (within_update (by simp) (within_pure 0 _))

private theorem within_reserve (fresh : Fresh) (productId : UUID)
    (quantity : Int32) (customerId idempotencyKey : Option JavaString) :
    (Call.reserve fresh productId quantity customerId
      idempotencyKey).program.Within 6 := by
  have hnew := within_reserveNew fresh productId quantity customerId
    idempotencyKey
  rw [reserve_program]
  split
  next =>
    cases Reservation.validateCustomerId customerId with
    | error exception => exact within_pure _ _
    | ok customer =>
        cases Reservation.validateIdempotencyKey idempotencyKey with
        | error exception => exact within_pure _ _
        | ok _ =>
            cases idempotencyKey with
            | none => exact hnew.mono (by omega)
            | some key =>
                intro _ existing
                cases existing with
                | none => exact hnew
                | some reservation =>
                    dsimp only
                    split <;> exact within_pure _ _
  next => exact within_pure _ _

private theorem within_cancelReservation (now : Instant) (id : UUID)
    (customerId : Option JavaString) :
    (Call.cancelReservation now id customerId).program.Within 4 := by
  rw [cancelReservation_program]
  cases Reservation.validateCustomerId customerId with
  | error exception => exact within_pure _ _
  | ok customer =>
      intro found
      cases found with
      | none => exact within_pure _ _
      | some reservation =>
          dsimp only
          split
          next =>
            intro locked
            cases locked with
            | none => exact within_pure _ _
            | some product =>
                dsimp only
                rcases (Reservation.cancel now).call (reservation, product)
                  with ⟨exception | value, changed⟩
                · exact within_pure _ _
                · simp only [Session.finish_eq]
                  exact within_update (by simp)
                    (within_update (by simp) (within_pure 0 _))
          next =>
            intro loaded
            cases loaded <;> exact within_pure _ _

private theorem within_addStock (id : UUID) (quantity : Int32) :
    (Call.addStock id quantity).program.Within 2 := by
  rw [addStock_program]
  split
  next =>
    intro found
    cases found with
    | none => exact within_pure _ _
    | some product =>
        dsimp only
        rcases (Product.addStock quantity).call product with
          ⟨exception | value, changed⟩
        · exact within_pure _ _
        · simp only [Session.finish_eq]
          exact within_update (by simp) (within_pure 0 _)
  next => exact within_pure _ _

private theorem within_createProduct (fresh : Fresh)
    (sku name : Option JavaString) (initialQuantity : Int32) :
    (Call.createProduct fresh sku name initialQuantity).program.Within 2 := by
  rw [createProduct_program]
  cases Product.new fresh sku name initialQuantity with
  | error exception => exact within_pure _ _
  | ok product =>
      intro taken
      cases taken with
      | true => exact within_pure _ _
      | false =>
          intro accepted
          cases accepted <;> exact within_pure _ _

/-- No call sends more than six statements. -/
theorem Call.program_within (call : Call) : call.program.Within 6 := by
  cases call with
  | createProduct fresh sku name initialQuantity =>
      exact (within_createProduct fresh sku name initialQuantity).mono
        (by omega)
  | listProducts request =>
      intro page
      exact within_pure _ _
  | getProduct id =>
      rw [getProduct_program]
      intro found
      cases found <;> exact within_pure _ _
  | addStock id quantity =>
      exact (within_addStock id quantity).mono (by omega)
  | reserve fresh productId quantity customerId idempotencyKey =>
      exact within_reserve fresh productId quantity customerId idempotencyKey
  | listReservations customerId request =>
      rw [listReservations_program]
      cases Reservation.validateCustomerId customerId with
      | error exception => exact within_pure _ _
      | ok customer =>
          intro page
          exact within_pure _ _
  | getReservation id customerId =>
      rw [getReservation_program]
      cases Reservation.validateCustomerId customerId with
      | error exception => exact within_pure _ _
      | ok customer =>
          intro found
          cases found <;> exact within_pure _ _
  | cancelReservation now id customerId =>
      exact (within_cancelReservation now id customerId).mono (by omega)

/-! ## Transactions of one call -/

/-- A running call proceeds: nobody starts and nothing is aborted. -/
def Action.Proceeds : Action → Prop
  | .exec _ => True
  | .commit _ _ => True
  | .fail _ => True
  | _ => False

theorem Action.Proceeds.startsOnly {action : Action}
    (hproceeds : action.Proceeds) : action.StartsOnly := by
  cases action with
  | next t call => exact hproceeds
  | _ => trivial

/-- The outcome is the one the body of the call came to. -/
def Outcome.OfBody : Outcome → Prop
  | .committed calls _ => ∃ completed, calls = [completed]
  | .failed _ => True
  | .aborted _ => False

variable {sha256 : List UInt8 → List UInt8}

namespace System

/-- The live transactions make their first call. -/
structure Single (s : System) : Prop where
  earlier : ∀ {t transaction}, s.transactions t = some transaction →
    transaction.earlier = []
  clean : ∀ {t transaction}, s.transactions t = some transaction →
    transaction.rollbackOnly = false

theorem single_initial : initial.Single where
  earlier hlive := by cases hlive
  clean hlive := by cases hlive

private theorem Single.updated {s s' : System} (hsingle : s.Single) {t : ℕ}
    {updated : Option Transaction}
    (htransactions : s'.transactions =
      Function.update s.transactions t updated)
    (hupdated : ∀ transaction, updated = some transaction →
      transaction.earlier = [] ∧ transaction.rollbackOnly = false) :
    s'.Single := by
  have hall : ∀ {u transaction}, s'.transactions u = some transaction →
      transaction.earlier = [] ∧ transaction.rollbackOnly = false := by
    intro u transaction hlive
    rcases live_of_update htransactions hlive with ⟨rfl, hnew⟩ | ⟨-, hold⟩
    · exact hupdated transaction hnew
    · exact ⟨hsingle.earlier hold, hsingle.clean hold⟩
  exact ⟨fun hlive => (hall hlive).1, fun hlive => (hall hlive).2⟩

theorem Single.step {s s' : System} {action : Action} (hsingle : s.Single)
    (honly : action.StartsOnly) (hmoves : Moves sha256 s action s') :
    s'.Single := by
  cases hmoves with
  | begin hfree hnew hfresh =>
      refine hsingle.updated rfl fun transaction hsame => ?_
      cases hsame
      exact ⟨rfl, rfl⟩
  | next hlive hrest hfresh => exact absurd honly id
  | @exec t transaction statement next hlive hrest havailable =>
      have hfirst : transaction.earlier = [] := hsingle.earlier hlive
      have hclean : transaction.rollbackOnly = false := hsingle.clean hlive
      refine hsingle.updated rfl fun updated hsame => ?_
      cases hsame
      exact ⟨hfirst, hclean⟩
  | commit hlive hrest hclean =>
      exact hsingle.updated rfl fun transaction hsame => by cases hsame
  | fail hlive hrest =>
      exact hsingle.updated rfl fun transaction hsame => by cases hsame
  | abort hlive hstatus =>
      exact hsingle.updated rfl fun transaction hsame => by cases hsame

/-! ## How often a transaction moves -/

/-- So many moves at most are left to the transaction. -/
def Allows (s : System) (t moves : ℕ) : Prop :=
  match s.transactions t with
  | some transaction =>
      ∃ asked, asked + 1 ≤ moves ∧ transaction.rest.Within asked
  | none => t ∈ s.started ∨ 8 ≤ moves

theorem Allows.of_live {s : System} {t moves : ℕ} {transaction : Transaction}
    (hallows : s.Allows t moves)
    (hlive : s.transactions t = some transaction) :
    ∃ asked, asked + 1 ≤ moves ∧ transaction.rest.Within asked := by
  simp only [Allows, hlive] at hallows
  exact hallows

private theorem Allows.of_update {s s' : System} {t moves : ℕ}
    {transaction : Transaction} {asked : ℕ}
    (htransactions : s'.transactions =
      Function.update s.transactions t (some transaction))
    (hle : asked + 1 ≤ moves) (hwithin : transaction.rest.Within asked) :
    s'.Allows t moves := by
  simp only [Allows, htransactions, Function.update_self]
  exact ⟨asked, hle, hwithin⟩

private theorem Allows.of_gone {s s' : System} {t moves : ℕ}
    (htransactions : s'.transactions = Function.update s.transactions t none)
    (hstarted : t ∈ s'.started) : s'.Allows t moves := by
  simp only [Allows, htransactions, Function.update_self]
  exact Or.inl hstarted

private theorem Allows.congr {s s' : System} {t moves : ℕ}
    (hsame : s'.transactions t = s.transactions t)
    (hstarted : t ∈ s.started → t ∈ s'.started) (hallows : s.Allows t moves) :
    s'.Allows t moves := by
  unfold Allows at hallows ⊢
  rw [hsame]
  cases hlive : s.transactions t with
  | some transaction =>
      simp only [hlive] at hallows
      exact hallows
  | none =>
      simp only [hlive] at hallows
      exact hallows.imp_left hstarted

/-- A step on another transaction leaves this one as it is. -/
theorem transactions_of_ne {s s' : System} {action : Action}
    (hmoves : Moves sha256 s action s') {t : ℕ}
    (hne : t ≠ action.transaction) :
    s'.transactions t = s.transactions t := by
  cases hmoves with
  | _ => exact Function.update_of_ne hne _ _

/-- A transaction that moves uses one of its moves up. -/
theorem Allows.step {s s' : System} {action : Action} {moves : ℕ}
    (hallows : s.Allows action.transaction moves)
    (hchronicle : s.Chronicle) (honly : action.StartsOnly)
    (hmoves : Moves sha256 s action s') :
    ∃ left, moves = left + 1 ∧ s'.Allows action.transaction left := by
  cases hmoves with
  | @begin t server call hfree hnew hfresh =>
      have height : 8 ≤ moves := by
        unfold Allows at hallows
        simp only [Action.transaction, hfree] at hallows
        exact hallows.resolve_left hnew
      refine ⟨moves - 1, by omega, ?_⟩
      exact Allows.of_update rfl (by omega) (Call.program_within call)
  | next hlive hrest hfresh => exact absurd honly id
  | @exec t transaction statement next hlive hrest havailable =>
      obtain ⟨asked, hle, hwithin⟩ := hallows.of_live hlive
      rw [hrest] at hwithin
      cases asked with
      | zero => exact hwithin.elim
      | succ asked =>
          refine ⟨moves - 1, by omega, ?_⟩
          exact Allows.of_update rfl (by omega) (hwithin _)
  | commit hlive hrest hclean | fail hlive hrest | abort hlive hstatus =>
      obtain ⟨asked, hle, -⟩ := hallows.of_live hlive
      exact ⟨moves - 1, by omega,
        Allows.of_gone rfl (hchronicle.started hlive)⟩

theorem moves_le_of_allows {s s' : System} {actions : List Action}
    {t moves : ℕ} (hallows : s.Allows t moves) (hchronicle : s.Chronicle)
    (honly : ∀ action ∈ actions, action.StartsOnly)
    (hrun : s.run sha256 actions = some s') :
    actions.countP (fun action => action.transaction == t) ≤ moves := by
  induction actions generalizing s moves with
  | nil => exact Nat.zero_le _
  | cons action actions ih =>
      rw [run_cons, Option.bind_eq_some_iff] at hrun
      obtain ⟨middle, hfirst, hrest⟩ := hrun
      have hmoves : Moves sha256 s action middle := moves_of_step hfirst
      have hlater := fun other hother =>
        honly other (List.mem_cons_of_mem _ hother)
      by_cases hsame : action.transaction = t
      · subst hsame
        obtain ⟨left, rfl, hleft⟩ :=
          hallows.step hchronicle (honly action List.mem_cons_self) hmoves
        have hcount := ih hleft (hchronicle.step hmoves) hlater hrest
        rw [List.countP_cons_of_pos (by simp)]
        omega
      · have hkept : middle.Allows t moves :=
          hallows.congr (transactions_of_ne hmoves (Ne.symm hsame))
            hmoves.started
        rw [List.countP_cons_of_neg (by simpa using hsame)]
        exact ih hkept (hchronicle.step hmoves) hlater hrest

/-! ## Schedules of the running calls -/

def live (s : System) : Finset ℕ :=
  s.started.toFinset.filter fun t => (s.transactions t).isSome

theorem mem_live {s : System} (hchronicle : s.Chronicle) {t : ℕ} :
    t ∈ s.live ↔ ∃ transaction, s.transactions t = some transaction := by
  rw [live, Finset.mem_filter, List.mem_toFinset, Option.isSome_iff_exists]
  constructor
  · exact And.right
  · rintro ⟨transaction, hlive⟩
    exact ⟨hchronicle.started hlive, transaction, hlive⟩

/-- What every run of single calls keeps. -/
structure Orderly (sha256 : List UInt8 → List UInt8) (s : System) : Prop where
  climbing : s.Climbing sha256
  chronicle : s.Chronicle
  single : s.Single
  short : ∀ {t transaction}, s.transactions t = some transaction →
    transaction.rest.Within 6

theorem orderly_initial : initial.Orderly sha256 where
  climbing := climbing_initial
  chronicle := chronicle_initial
  single := single_initial
  short hlive := by cases hlive

theorem Orderly.step {s s' : System} {action : Action}
    (horderly : s.Orderly sha256) (honly : action.StartsOnly)
    (hmoves : Moves sha256 s action s') : s'.Orderly sha256 where
  climbing := horderly.climbing.step honly hmoves
  chronicle := horderly.chronicle.step hmoves
  single := horderly.single.step honly hmoves
  short := by
    intro t transaction hlive
    by_cases hsame : t = action.transaction
    · subst hsame
      cases hmoves with
      | begin hfree hnew hfresh =>
          rw [begun_self hlive]
          exact Call.program_within _
      | next hbefore hrest hfresh => exact absurd honly id
      | @exec t old statement next hbefore hrest havailable =>
          rw [executed_self hlive]
          have hwithin := horderly.short hbefore
          rw [hrest] at hwithin
          have hless : (next (statement.answer (old.view s.db))).Within 5 :=
            hwithin _
          exact hless.mono (by omega)
      | commit hbefore hrest hclean | fail hbefore hrest
      | abort hbefore hstatus =>
          simp [Action.transaction, committed, rolledBack, completed] at hlive
    · rw [transactions_of_ne hmoves hsame] at hlive
      exact horderly.short hlive

theorem orderly_of_run {s s' : System} {actions : List Action}
    (honly : ∀ action ∈ actions, action.StartsOnly)
    (hstart : s.Orderly sha256) (hrun : s.run sha256 actions = some s') :
    s'.Orderly sha256 :=
  run_induction_of honly hstart
    (fun hstarts horderly hmoves => horderly.step hstarts hmoves) hrun

theorem Orderly.live_of_waits {s : System} (horderly : s.Orderly sha256)
    {t u : ℕ} (hwaits : s.Waits sha256 t u) : u ∈ s.live := by
  obtain ⟨transaction, statement, next, -, -, request, -, hblocks⟩ := hwaits
  have howner : request.1 ∈ s.locks.held u :=
    horderly.climbing.shared.owner_of_blocks hblocks
  rw [mem_live horderly.chronicle]
  cases hidle : s.transactions u with
  | none =>
      rw [horderly.climbing.idle hidle] at howner
      cases howner
  | some other => exact ⟨other, rfl⟩

/-- A transaction that waits for nobody can proceed. -/
theorem Orderly.proceeds_of_not_waiting {s : System}
    (horderly : s.Orderly sha256) {t : ℕ} {transaction : Transaction}
    (hlive : s.transactions t = some transaction)
    (hfree : ∀ other, ¬ s.Waits sha256 t other) :
    ∃ action s', action.Proceeds ∧ Moves sha256 s action s' := by
  rcases hrest : transaction.rest with
    ⟨exception | returned, session⟩ | ⟨statement, next⟩
  · exact ⟨.fail t, _, trivial, .fail hlive hrest⟩
  · exact ⟨.commit t true, _, trivial,
      .commit hlive hrest (horderly.single.clean hlive)⟩
  · refine ⟨.exec t, _, trivial,
      .exec hlive hrest fun request hrequest => ?_⟩
    rw [LockTable.available_iff]
    intro other hblocks
    exact hfree other
      ⟨transaction, statement, next, hlive, hrest, request, hrequest, hblocks⟩

theorem Orderly.exists_proceeds {s : System} (horderly : s.Orderly sha256)
    (hsome : s.live.Nonempty) :
    ∃ action s', action.Proceeds ∧ Moves sha256 s action s' := by
  have hparties : s.live.toList ≠ [] := by
    simpa using hsome.ne_empty
  obtain ⟨t, ht, hfree⟩ := LockTable.exists_not_waiting s.nextRank
    (fun hfirst hsecond => horderly.climbing.rank_lt hfirst hsecond)
    (fun _ hwaits => Finset.mem_toList.mpr (horderly.live_of_waits hwaits))
    hparties
  obtain ⟨transaction, hlive⟩ :=
    (mem_live horderly.chronicle).mp (Finset.mem_toList.mp ht)
  exact horderly.proceeds_of_not_waiting hlive hfree

/-- Only a running call proceeds. -/
theorem live_of_proceeds {s s' : System} {action : Action}
    (hproceeds : action.Proceeds) (hmoves : Moves sha256 s action s') :
    ∃ transaction, s.transactions action.transaction = some transaction := by
  cases hmoves with
  | begin hfree hnew hfresh => exact absurd hproceeds id
  | next hlive hrest hfresh => exact absurd hproceeds id
  | abort hlive hstatus => exact absurd hproceeds id
  | exec hlive hrest havailable => exact ⟨_, hlive⟩
  | commit hlive hrest hclean => exact ⟨_, hlive⟩
  | fail hlive hrest => exact ⟨_, hlive⟩

/-- What proceeds in a schedule was running when it started. -/
theorem Orderly.live_of_schedule {s s' : System} {actions : List Action}
    (horderly : s.Orderly sha256)
    (hproceeds : ∀ action ∈ actions, action.Proceeds)
    (hrun : s.run sha256 actions = some s') :
    ∀ action ∈ actions, action.transaction ∈ s.live := by
  induction actions generalizing s with
  | nil => simp
  | cons first actions ih =>
      rw [run_cons, Option.bind_eq_some_iff] at hrun
      obtain ⟨middle, hfirst, hrest⟩ := hrun
      have hmoves : Moves sha256 s first middle := moves_of_step hfirst
      have hmoved : first.Proceeds := hproceeds first List.mem_cons_self
      have hrunning : first.transaction ∈ s.live :=
        (mem_live horderly.chronicle).mpr (live_of_proceeds hmoved hmoves)
      have hmiddle : middle.Orderly sha256 :=
        horderly.step hmoved.startsOnly hmoves
      intro action haction
      rcases List.mem_cons.mp haction with rfl | hlater
      · exact hrunning
      · have hstill : action.transaction ∈ middle.live :=
          ih hmiddle (fun other hother =>
            hproceeds other (List.mem_cons_of_mem _ hother)) hrest action hlater
        by_cases hsame : action.transaction = first.transaction
        · rw [hsame]
          exact hrunning
        · rw [mem_live hmiddle.chronicle,
            transactions_of_ne hmoves hsame] at hstill
          exact (mem_live horderly.chronicle).mpr hstill

/-- Each running call has seven moves left at most. -/
theorem Orderly.moves_le {s s' : System} {actions : List Action}
    (horderly : s.Orderly sha256)
    (hproceeds : ∀ action ∈ actions, action.Proceeds)
    (hrun : s.run sha256 actions = some s') {t : ℕ} (ht : t ∈ s.live) :
    actions.countP (fun action => action.transaction == t) ≤ 7 := by
  obtain ⟨transaction, hlive⟩ := (mem_live horderly.chronicle).mp ht
  have hallows : s.Allows t 7 := by
    simp only [Allows, hlive]
    exact ⟨6, le_rfl, horderly.short hlive⟩
  exact moves_le_of_allows hallows horderly.chronicle
    (fun action haction => (hproceeds action haction).startsOnly) hrun

theorem Orderly.length_le {s s' : System} {actions : List Action}
    (horderly : s.Orderly sha256)
    (hproceeds : ∀ action ∈ actions, action.Proceeds)
    (hrun : s.run sha256 actions = some s') :
    actions.length ≤ 7 * s.live.card := by
  have hparties := horderly.live_of_schedule hproceeds hrun
  have hcount : ∀ t ∈ s.live,
      (actions.map (·.transaction)).count t ≤ 7 := by
    intro t ht
    rw [List.count, List.countP_map]
    exact horderly.moves_le hproceeds hrun ht
  have hsubset : (actions.map (·.transaction)).toFinset ⊆ s.live := by
    intro t ht
    obtain ⟨action, haction, rfl⟩ := List.mem_map.mp (List.mem_toFinset.mp ht)
    exact hparties action haction
  calc
    actions.length = (actions.map (·.transaction)).length := by
      rw [List.length_map]
    _ = ∑ t ∈ (actions.map (·.transaction)).toFinset,
          (actions.map (·.transaction)).count t :=
      (List.sum_toFinset_count_eq_length _).symm
    _ ≤ ∑ t ∈ s.live, (actions.map (·.transaction)).count t :=
      Finset.sum_le_sum_of_subset hsubset
    _ ≤ ∑ t ∈ s.live, 7 := Finset.sum_le_sum hcount
    _ = 7 * s.live.card := by
      rw [Finset.sum_const, smul_eq_mul, mul_comm]

/-! ## How the running calls end -/

/-- The transaction runs, or has ended as its body did. -/
def Accounted (s : System) (t : ℕ) : Prop :=
  (∃ transaction, s.transactions t = some transaction) ∨
    ∃ outcome, s.Finished t outcome ∧ outcome.OfBody

theorem Accounted.step {s s' : System} {t : ℕ} {action : Action}
    (haccounted : s.Accounted t) (hsingle : s.Single)
    (hproceeds : action.Proceeds) (hmoves : Moves sha256 s action s') :
    s'.Accounted t := by
  rcases haccounted with ⟨transaction, hlive⟩ | ⟨outcome, ⟨server, hmem⟩, hbody⟩
  · by_cases hsame : t = action.transaction
    · subst hsame
      cases hmoves with
      | begin hfree hnew hfresh => exact absurd hproceeds id
      | next hbefore hrest hfresh => exact absurd hproceeds id
      | abort hbefore hstatus => exact absurd hproceeds id
      | exec hbefore hrest havailable =>
          exact Or.inl ⟨_, Function.update_self _ _ _⟩
      | commit hbefore hrest hclean =>
          refine Or.inr ⟨_, ⟨_, List.mem_append_right _
            (List.mem_singleton_self _)⟩, ?_⟩
          rw [hsingle.earlier hbefore]
          exact ⟨_, rfl⟩
      | fail hbefore hrest =>
          exact Or.inr ⟨_, ⟨_, List.mem_append_right _
            (List.mem_singleton_self _)⟩, trivial⟩
    · rw [← transactions_of_ne hmoves hsame] at hlive
      exact Or.inl ⟨transaction, hlive⟩
  · exact Or.inr ⟨outcome, ⟨server, hmoves.history_kept hmem⟩, hbody⟩

/-- After a schedule of the running calls one of them can go on, or all of
them have ended and hold no lock. -/
theorem Orderly.goes_on_or_done {s s' : System} {actions : List Action}
    (horderly : s.Orderly sha256)
    (hproceeds : ∀ action ∈ actions, action.Proceeds)
    (hrun : s.run sha256 actions = some s') :
    (∃ action s'', action.Proceeds ∧ s'.step sha256 action = some s'') ∨
      ((∀ t, s'.transactions t = none) ∧ s'.locks = .empty ∧
        ∀ t ∈ s.live, ∃ outcome, s'.Finished t outcome ∧ outcome.OfBody) := by
  have hend : s'.Orderly sha256 := orderly_of_run
    (fun action haction => (hproceeds action haction).startsOnly) horderly hrun
  by_cases hsome : s'.live.Nonempty
  · obtain ⟨action, s'', hmoved, hmoves⟩ := hend.exists_proceeds hsome
    exact Or.inl ⟨action, s'', hmoved, hmoves.step⟩
  · have hnone : ∀ t, s'.transactions t = none := by
      intro t
      cases hlive : s'.transactions t with
      | none => rfl
      | some transaction =>
          exact absurd ⟨t, (mem_live hend.chronicle).mpr ⟨_, hlive⟩⟩ hsome
    refine Or.inr ⟨hnone, ?_, fun t ht => ?_⟩
    · exact hend.climbing.shared.eq_empty fun t =>
        hend.climbing.idle (hnone t)
    · have hrunning : s.Orderly sha256 ∧ s.Accounted t :=
        ⟨horderly, Or.inl ((mem_live horderly.chronicle).mp ht)⟩
      have hover : s'.Orderly sha256 ∧ s'.Accounted t := by
        apply run_induction_of hproceeds hrunning _ hrun
        rintro before action after hmoved ⟨hbefore, haccounted⟩ hmoves
        exact ⟨hbefore.step hmoved.startsOnly hmoves,
          haccounted.step hbefore.single hmoved hmoves⟩
      rcases hover.2 with ⟨transaction, hlive⟩ | hfinished
      · rw [hnone t] at hlive
        cases hlive
      · exact hfinished

/-- Going on as long as one can leads to the end. -/
theorem Orderly.exists_schedule {s : System} (horderly : s.Orderly sha256) :
    ∃ actions s', (∀ action ∈ actions, action.Proceeds) ∧
      s.run sha256 actions = some s' ∧ ∀ t, s'.transactions t = none := by
  by_contra hnever
  have hlong : ∀ length, ∃ actions s',
      (∀ action ∈ actions, action.Proceeds) ∧
        s.run sha256 actions = some s' ∧ actions.length = length := by
    intro length
    induction length with
    | zero => exact ⟨[], s, by simp, rfl, rfl⟩
    | succ length ih =>
        obtain ⟨actions, s', hproceeds, hrun, hlength⟩ := ih
        rcases horderly.goes_on_or_done hproceeds hrun with
          ⟨action, s'', hmoved, hstep⟩ | ⟨hnone, -, -⟩
        · refine ⟨actions ++ [action], s'', ?_, ?_, ?_⟩
          · simpa [or_imp, forall_and] using ⟨hproceeds, hmoved⟩
          · rw [run_append, hrun]
            exact (run_cons s' action []).trans (by rw [hstep]; rfl)
          · rw [List.length_append, List.length_singleton, hlength]
        · exact absurd ⟨actions, s', hproceeds, hrun, hnone⟩ hnever
  obtain ⟨actions, s', hproceeds, hrun, hlength⟩ :=
    hlong (7 * s.live.card + 1)
  have hbound := horderly.length_le hproceeds hrun
  omega

/-- In every run of single calls a call moves at most eight times.  From every
state of such a run the running calls can go on by themselves, in any order,
for at most seven moves each; they can go on until each of them has ended as
its body did, and then no lock is held. -/
theorem calls_complete {actions : List Action} {s : System}
    (honly : ∀ action ∈ actions, action.StartsOnly)
    (hrun : initial.run sha256 actions = some s) :
    (∀ t, actions.countP (fun action => action.transaction == t) ≤ 8) ∧
      (∀ more s', (∀ action ∈ more, action.Proceeds) →
        s.run sha256 more = some s' →
        (∀ t ∈ s.live,
          more.countP (fun action => action.transaction == t) ≤ 7) ∧
          more.length ≤ 7 * s.live.card ∧
          ((∃ action s'', action.Proceeds ∧
              s'.step sha256 action = some s'') ∨
            ((∀ t, s'.transactions t = none) ∧ s'.locks = .empty ∧
              ∀ t ∈ s.live, ∃ outcome,
                s'.Finished t outcome ∧ outcome.OfBody))) ∧
      ∃ more s', (∀ action ∈ more, action.Proceeds) ∧
        s.run sha256 more = some s' ∧ ∀ t, s'.transactions t = none := by
  have horderly : s.Orderly sha256 :=
    orderly_of_run honly orderly_initial hrun
  refine ⟨fun t => ?_, fun more s' hproceeds hmore => ?_,
    horderly.exists_schedule⟩
  · have hallows : initial.Allows t 8 := Or.inr le_rfl
    exact moves_le_of_allows hallows chronicle_initial honly hrun
  · exact ⟨fun t ht => horderly.moves_le hproceeds hmore ht,
      horderly.length_le hproceeds hmore,
      horderly.goes_on_or_done hproceeds hmore⟩

/-- Two reservers of one key, the second of which waits for the first. -/
theorem calls_complete_sample :
    ∃ s : System,
      initial.run (fun _ => []) (sampleActions.take 12) = some s ∧
      ∃ more s', (∀ action ∈ more, action.Proceeds) ∧
        s.run (fun _ => []) more = some s' ∧
          ∀ t, s'.transactions t = none := by
  have hsome : (initial.run (fun _ => []) (sampleActions.take 12)).isSome =
      true := by
    decide +kernel
  obtain ⟨s, hrun⟩ := Option.isSome_iff_exists.mp hsome
  have honly : ∀ action ∈ sampleActions.take 12, action.StartsOnly := by
    intro action haction
    fin_cases haction <;> trivial
  exact ⟨s, hrun, (calls_complete honly hrun).2.2⟩

end System

end InventoryCloud
