import InventoryCloud.CancellationFinality
import InventoryCloud.ManagedLedger
import Mathlib.Algebra.BigOperators.Group.Finset.Basic

/-!
# The business counters and the committed ledger

The contribution of a call is read off the call and what it returned.  The
counters of an instance are the sum of the contributions of the calls whose
transactions completed as committed there, whatever entities the calls worked
on.  With no unknown completion the counters of all instances together balance
the tables, unless a transaction overwrites a row from a managed entity that
other transactions have overtaken.
-/

namespace InventoryCloud

open InventoryService

/-- What a committed call stands for in the counters. -/
def Completed.contribution (completed : Completed) : Counters :=
  match completed.call, completed.returned with
  | .createProduct _ _ _ initialQuantity, _ =>
      { (0 : Counters) with
        productsCreated := 1
        stockAdded := initialQuantity.toInt }
  | .addStock _ quantity, _ =>
      { (0 : Counters) with stockAdded := quantity.toInt }
  | .reserve _ _ quantity _ _, .reservationResult _ replayed =>
      if replayed then { (0 : Counters) with reservationsReplayed := 1 }
      else
        { (0 : Counters) with
          reservationsCreated := 1
          stockReserved := quantity.toInt }
  | .cancelReservation _ _ _, .reservation reservation =>
      if completed.session.writes = [] then
        { (0 : Counters) with cancellationReplayed := 1 }
      else
        { (0 : Counters) with
          reservationsCancelled := 1
          stockReleased := reservation.quantity.toInt }
  | _, _ => 0

/-- A reservation answered from an earlier one, or a repeated cancellation. -/
def Completed.IsReplay (completed : Completed) : Prop :=
  (∃ reservation, completed.returned = .reservationResult reservation true) ∨
    ((∃ now id customerId,
      completed.call = .cancelReservation now id customerId) ∧
        completed.session.writes = [])

private theorem add_counters (first second : Counters) :
    first + second = Counters.add first second := rfl

private theorem zero_counters : (0 : Counters) = Counters.zero := rfl

section

variable {forProduct : Product → ℤ} {forReservation : Reservation → ℤ}
  {view : Database}

/-- The registered increments of a call add its contribution. -/
theorem Returns.increments {call : Call} {returned : Returned}
    {session : Session}
    (hreturns : Returns forProduct forReservation view call returned session)
    (counters : Counters) :
    session.increments.foldl (fun current increment => increment.run current)
        counters =
      counters + Completed.contribution ⟨call, returned, session⟩ := by
  cases hreturns with
  | @created _ _ _ initialQuantity _ hnew haccept =>
      have hnonneg := (Product.new_ok hnew).1.1
      have hquantity : (if 0 < initialQuantity then
          counters.stockAdded + initialQuantity.toInt
          else counters.stockAdded) =
            counters.stockAdded + initialQuantity.toInt := by
        split
        next => rfl
        next hnot =>
          rw [Int32.lt_iff_toInt_lt] at hnot
          have hzero : (0 : Int32).toInt = 0 := by decide
          omega
      ext <;>
        simp [createdSession, Increment.run, Completed.contribution,
          add_counters, Counters.add, zero_counters, Counters.zero, hquantity]
  | _ =>
      ext <;>
        simp [restockedSession, reservedSession, cancelledSession,
          countedSession, Session.empty, Increment.run,
          Completed.contribution, add_counters, Counters.add, zero_counters,
          Counters.zero, Session.writes, Session.flushPlan, Session.isInsert,
          Reservation.created, Reservation.cancelledBy]

theorem Completed.contribution_of_isReplay {completed : Completed}
    (hreturns : Returns forProduct forReservation view completed.call
      completed.returned completed.session) (hreplay : completed.IsReplay) :
    completed.contribution.stockAdded = 0 ∧
      completed.contribution.stockReserved = 0 ∧
        completed.contribution.stockReleased = 0 := by
  obtain ⟨call, returned, session⟩ := completed
  dsimp only at hreturns
  rcases hreplay with ⟨reservation, hreturned⟩ | ⟨⟨_, _, _, hcall⟩, hquiet⟩
  · dsimp only at hreturned
    subst hreturned
    cases hreturns
    exact ⟨rfl, rfl, rfl⟩
  · dsimp only at hcall
    subst hcall
    cases hreturns with
    | cancelled => cases hquiet
    | cancellationReplayed => exact ⟨rfl, rfl, rfl⟩

end

/-! ## The counters of an instance -/

/-- The calls an event completed as committed on the server. -/
def Event.acknowledgedBy (server : ℕ) : Event → List Completed
  | .finished _ other (.committed calls true) =>
      if other = server then calls else []
  | _ => []

/-- The calls whose transactions completed with status committed. -/
def System.acknowledged (s : System) (server : ℕ) : List Completed :=
  s.history.flatMap (Event.acknowledgedBy server)

/-- The call returned as calls do, whatever its entities were. -/
def Completed.Returned (completed : Completed) : Prop :=
  ∃ view : Database, Returns (fun _ => 0) (fun _ => 0) view completed.call
    completed.returned completed.session

private theorem foldl_incrementsOf {calls : List Completed}
    (hcalls : ∀ completed ∈ calls, completed.Returned) (counters : Counters) :
    (incrementsOf calls).foldl
        (fun current increment => increment.run current) counters =
      counters + (calls.map Completed.contribution).sum := by
  induction calls generalizing counters with
  | nil => exact (add_zero counters).symm
  | cons completed calls ih =>
      obtain ⟨view, hreturns⟩ := hcalls completed List.mem_cons_self
      have hcons : incrementsOf (completed :: calls) =
          completed.session.increments ++ incrementsOf calls := rfl
      rw [hcons, List.foldl_append, hreturns.increments, ih, List.map_cons,
        List.sum_cons, add_assoc]
      exact fun other hother => hcalls other (List.mem_cons_of_mem _ hother)

theorem afterCompletion_of_ne {status : CompletionStatus}
    (hstatus : status ≠ .committed) (registered : List Increment)
    (counters : Counters) :
    afterCompletion status registered counters = counters :=
  if_neg hstatus

namespace System

variable {sha256 : List UInt8 → List UInt8}

/-- Each instance's counters are the contributions it has acknowledged. -/
def CountersAgree (s : System) : Prop :=
  ∀ server, s.counters server =
    ((s.acknowledged server).map Completed.contribution).sum

theorem acknowledged_append (history : List Event) (event : Event)
    (server : ℕ) :
    (history ++ [event]).flatMap (Event.acknowledgedBy server) =
      history.flatMap (Event.acknowledgedBy server) ++
        event.acknowledgedBy server := by
  simp

private theorem countersAgree_rolledBack {s : System} (hagree : s.CountersAgree)
    {t : ℕ} {transaction : Transaction} {status : CompletionStatus}
    {outcome : Outcome} (hstatus : status ≠ .committed)
    (hquiet : ∀ server, Event.acknowledgedBy server
      (.finished t transaction.server outcome) = []) :
    (s.rolledBack t transaction status outcome).CountersAgree := by
  intro server
  have hsame : (s.rolledBack t transaction status outcome).counters =
      s.counters := by
    simp only [rolledBack, completed]
    rw [afterCompletion_of_ne hstatus, Function.update_eq_self]
  have hhistory : (s.rolledBack t transaction status outcome).acknowledged
      server = s.acknowledged server := by
    refine (acknowledged_append s.history _ server).trans ?_
    rw [hquiet server, List.append_nil]
    rfl
  rw [hsame, hhistory]
  exact hagree server

private theorem countersAgree_committed {s : System}
    (hagree : s.CountersAgree) {t : ℕ} {transaction : Transaction}
    {last : Completed} {acknowledged : Bool}
    (hreturned : ∀ completed ∈ transaction.earlier ++ [last],
      completed.Returned) :
    (s.committed t transaction last acknowledged).CountersAgree := by
  intro server
  have hhistory : (s.committed t transaction last acknowledged).acknowledged
      server = s.acknowledged server ++ Event.acknowledgedBy server
        (.finished t transaction.server
          (.committed (transaction.earlier ++ [last]) acknowledged)) :=
    acknowledged_append s.history _ server
  rw [hhistory, List.map_append, List.sum_append, ← hagree server]
  cases acknowledged with
  | false =>
      have hsame : (s.committed t transaction last false).counters =
          s.counters := by
        simp only [committed, completed]
        rw [afterCompletion_of_ne (by decide), Function.update_eq_self]
      rw [hsame]
      exact (add_zero _).symm
  | true =>
      by_cases hserver : transaction.server = server
      · subst hserver
        have hcounters : (s.committed t transaction last true).counters
            transaction.server = (incrementsOf (transaction.earlier ++
              [last])).foldl (fun current increment => increment.run current)
                (s.counters transaction.server) := by
          simp [committed, completed, afterCompletion]
        rw [hcounters, foldl_incrementsOf hreturned]
        simp [Event.acknowledgedBy]
      · have hcounters : (s.committed t transaction last true).counters
            server = s.counters server :=
          Function.update_of_ne (Ne.symm hserver) _ _
        rw [hcounters]
        simp [Event.acknowledgedBy, hserver]

end System

namespace ManagedSystem

variable {sha256 : List UInt8 → List UInt8} {s s' : ManagedSystem}
  {action : Action}

/-- The committed calls returned as calls do, and the counters agree. -/
def Counted (s : ManagedSystem) : Prop :=
  (∀ completed ∈ s.system.durable, completed.Returned) ∧
    s.system.CountersAgree

theorem Counted.step (hkept : s.Kept sha256) (hcounted : s.Counted)
    (hmoves : ManagedMoves sha256 s action s') : s'.Counted := by
  obtain ⟨hreturned, hagree⟩ := hcounted
  cases hmoves with
  | exec hlive hrest havailable => exact ⟨hreturned, hagree⟩
  | advance hnot hmoves =>
      cases hmoves with
      | exec hlive hrest havailable => exact absurd rfl (hnot _)
      | next hlive hrest hfresh => exact ⟨hreturned, hagree⟩
      | @begin t server call hfree hnew hfresh =>
          refine ⟨?_, fun other => ?_⟩
          · simpa [advanced, System.begun, System.durable,
              Event.durable] using hreturned
          · have hhistory : (s.system.begun t server call).acknowledged other =
                s.system.acknowledged other :=
              (System.acknowledged_append s.system.history _ other).trans
                (List.append_nil _)
            change s.system.counters other = _
            rw [hagree other]
            exact congrArg (fun calls =>
              (calls.map Completed.contribution).sum) hhistory.symm
      | commit hlive hrest hclean =>
          have hcalls := (hkept.snoc hlive hrest hclean).returns
          refine ⟨?_, System.countersAgree_committed hagree hcalls⟩
          intro completed hmem
          change completed ∈ System.durable (System.committed _ _ _ _ _) at hmem
          unfold System.durable System.committed System.completed at hmem
          rw [System.durable_append] at hmem
          rcases List.mem_append.mp hmem with hearlier | hlast
          · exact hreturned completed hearlier
          · exact hcalls completed hlast
      | fail hlive hrest =>
          refine ⟨?_, System.countersAgree_rolledBack hagree (by decide)
            fun _ => rfl⟩
          simpa [advanced, System.rolledBack, System.completed,
            System.durable, Event.durable] using hreturned
      | abort hlive hstatus =>
          refine ⟨?_, System.countersAgree_rolledBack hagree hstatus
            fun _ => rfl⟩
          simpa [advanced, System.rolledBack, System.completed,
            System.durable, Event.durable] using hreturned

theorem Reachable.counted (hreach : Reachable sha256 s) : s.Counted := by
  have hboth : s.Kept sha256 ∧ s.Counted := by
    refine @Reachable.induction sha256 (fun s => s.Kept sha256 ∧ s.Counted)
      ⟨kept_initial, by rintro _ ⟨⟩, fun _ => rfl⟩ ?_ s hreach
    rintro s action s' ⟨hkept, hcounted⟩ hmoves
    exact ⟨hkept.step hmoves, hcounted.step hkept hmoves⟩
  exact hboth.2

end ManagedSystem

/-! ## The counters of all instances -/

def Event.server : Event → ℕ
  | .invoked _ server _ => server
  | .finished _ server _ => server

/-- The transaction of the event completed with unknown status. -/
def Event.IsUnknown : Event → Prop
  | .finished _ _ (.committed _ acknowledged) => acknowledged = false
  | .finished _ _ (.aborted status) => status = .unknown
  | _ => False

instance : DecidablePred Event.IsUnknown
  | .invoked _ _ _ => inferInstanceAs (Decidable False)
  | .finished _ _ (.committed _ acknowledged) =>
      inferInstanceAs (Decidable (acknowledged = false))
  | .finished _ _ (.failed _) => inferInstanceAs (Decidable False)
  | .finished _ _ (.aborted status) =>
      inferInstanceAs (Decidable (status = .unknown))

namespace System

/-- The instances the run has used. -/
def instances (s : System) : Finset ℕ :=
  (s.history.map Event.server).toFinset

def totalCounters (s : System) : Counters :=
  ∑ server ∈ s.instances, s.counters server

private theorem sum_acknowledgedBy {instances : Finset ℕ} {event : Event}
    (hserver : event.server ∈ instances) (hknown : ¬ event.IsUnknown) :
    (∑ server ∈ instances,
        ((event.acknowledgedBy server).map Completed.contribution).sum) =
      (event.durable.map Completed.contribution).sum := by
  cases event with
  | invoked t server call => exact Finset.sum_eq_zero fun _ _ => rfl
  | finished t server outcome =>
      cases outcome with
      | committed calls acknowledged =>
          cases acknowledged with
          | false => exact absurd rfl hknown
          | true =>
              rw [Finset.sum_eq_single_of_mem server hserver]
              · simp [Event.acknowledgedBy, Event.durable]
              · intro other _ hother
                simp [Event.acknowledgedBy, Ne.symm hother]
      | failed exception => exact Finset.sum_eq_zero fun _ _ => rfl
      | aborted status => exact Finset.sum_eq_zero fun _ _ => rfl

private theorem sum_acknowledged {instances : Finset ℕ}
    {history : List Event}
    (hservers : ∀ event ∈ history, event.server ∈ instances)
    (hknown : ∀ event ∈ history, ¬ event.IsUnknown) :
    (∑ server ∈ instances, ((history.flatMap
        (Event.acknowledgedBy server)).map Completed.contribution).sum) =
      ((history.flatMap Event.durable).map Completed.contribution).sum := by
  induction history with
  | nil => exact Finset.sum_eq_zero fun _ _ => rfl
  | cons event history ih =>
      have hfirst := sum_acknowledgedBy (hservers event List.mem_cons_self)
        (hknown event List.mem_cons_self)
      have hrest := ih
        (fun other hother => hservers other (List.mem_cons_of_mem _ hother))
        (fun other hother => hknown other (List.mem_cons_of_mem _ hother))
      simp only [List.flatMap_cons, List.map_append, List.sum_append,
        Finset.sum_add_distrib, hfirst, hrest]

end System

namespace ManagedSystem

variable {sha256 : List UInt8 → List UInt8} {s : ManagedSystem}

theorem Reachable.totalCounters (hreach : Reachable sha256 s)
    (hknown : ∀ event ∈ s.system.history, ¬ event.IsUnknown) :
    s.system.totalCounters =
      (s.system.durable.map Completed.contribution).sum := by
  have hservers : ∀ event ∈ s.system.history,
      event.server ∈ s.system.instances :=
    fun event hevent =>
      List.mem_toFinset.mpr (List.mem_map_of_mem hevent)
  have hcounters : s.system.totalCounters = ∑ server ∈ s.system.instances,
      ((s.system.acknowledged server).map Completed.contribution).sum :=
    Finset.sum_congr rfl fun server _ => hreach.counted.2 server
  rw [hcounters]
  exact System.sum_acknowledged hservers hknown

/-- A reading of the summed counters is a ledger of its shares. -/
private theorem read_totalCounters (hreach : Reachable sha256 s)
    (hknown : ∀ event ∈ s.system.history, ¬ event.IsUnknown)
    (read : Counters →+ ℤ) :
    read s.system.totalCounters = (s.system.durable.map fun completed =>
      read completed.contribution).sum := by
  rw [hreach.totalCounters hknown, map_list_sum, List.map_map]
  rfl

end ManagedSystem

private theorem stockInRange_of_counts {row product : Product}
    (hrange : StockInRange row) (hcounts :
      row.availableQuantity.toInt = product.availableQuantity.toInt) :
    StockInRange product := by
  unfold StockInRange at hrange ⊢
  rwa [← hcounts]

private theorem stockBalance_tallies :
    Tallies (fun product => product.availableQuantity.toInt) (fun _ => 0)
      (fun completed => Counters.stockBalance completed.contribution) where
  updatedProduct _ := rfl
  updatedReservation _ := rfl
  created hnew := by
    rw [Product.new_availableQuantity hnew]
    simp [Completed.contribution, zero_counters, Counters.zero]
  restocked hrange hcounts hquantity := by
    have hsum := toInt_addStock (stockInRange_of_counts hrange hcounts)
      hquantity
    simp [Completed.contribution, zero_counters, Counters.zero,
      Product.restocked, hsum, hcounts]
  reserved hrange hcounts hquantity := by
    have hsum := toInt_reserveStock (stockInRange_of_counts hrange hcounts)
      hquantity
    simp [Completed.contribution, zero_counters, Counters.zero,
      Product.deducted, hsum, hcounts]
  cancelled hrange hcounts hquantity hactive := by
    have hsum := toInt_addStock (stockInRange_of_counts hrange hcounts)
      hquantity
    simp [Completed.contribution, zero_counters, Counters.zero,
      Product.restocked, Reservation.cancelledBy, hsum, hcounts]
  quiet hquiet hreturns := by
    cases hreturns <;> first | rfl | cases hquiet

private theorem openReservations_tallies :
    Tallies (fun _ => 0)
      (fun reservation => if reservation.status = .active then 1 else 0)
      (fun completed =>
        Counters.openReservations completed.contribution) where
  updatedProduct _ := rfl
  updatedReservation _ := rfl
  created _ := rfl
  restocked _ _ _ := rfl
  reserved _ _ _ := rfl
  cancelled _ _ _ hactive := by
    simp [Completed.contribution, zero_counters, Counters.zero,
      Reservation.cancelledBy, hactive]
  quiet hquiet hreturns := by
    cases hreturns <;> first | rfl | cases hquiet

private theorem productCount_tallies :
    Tallies (fun _ => 1) (fun _ => 0)
      (fun completed => Counters.productCount completed.contribution) where
  updatedProduct _ := rfl
  updatedReservation _ := rfl
  created _ := rfl
  restocked _ _ _ := rfl
  reserved _ _ _ := rfl
  cancelled _ _ _ _ := rfl
  quiet hquiet hreturns := by
    cases hreturns <;> first | rfl | cases hquiet

private theorem cancels_tallies (id : UUID) :
    Tallies (fun _ => 0)
      (fun reservation =>
        if reservation.id = id ∧ reservation.status = .cancelled then 1 else 0)
      (fun completed => if completed.cancels id then 1 else 0) where
  updatedProduct _ := rfl
  updatedReservation {row entity} hsame := by
    rw [hsame]
    rfl
  created _ := rfl
  restocked _ _ _ := rfl
  reserved _ _ _ := by simp [Completed.cancels, Reservation.created]
  cancelled {_ _ reservation _ _} _ _ _ hactive := by
    by_cases hid : reservation.id = id <;>
      simp [Completed.cancels, Reservation.cancelledBy, hactive, hid]
  quiet hquiet hreturns := by
    cases hreturns with
    | cancellationReplayed => simp [Completed.cancels]
    | _ => first | rfl | cases hquiet

/-! ## Counters and tables -/

namespace ManagedSystem

variable {sha256 : List UInt8 → List UInt8} {s : ManagedSystem}

/-- Every product which a locking query returned to a committed transaction
had the stock of the row. -/
def ProductsCurrent (s : ManagedSystem) : Prop :=
  ∀ locked ∈ s.lockedProducts, s.Committed locked.transaction →
    locked.entity.availableQuantity = locked.row.availableQuantity

/-- Every reservation which a locking query returned to a committed
transaction had the status of the row. -/
def ReservationsCurrent (s : ManagedSystem) : Prop :=
  ∀ locked ∈ s.lockedReservations, s.Committed locked.transaction →
    locked.entity.status = locked.row.status

instance (s : ManagedSystem) (t : ℕ) : Decidable (s.Committed t) :=
  inferInstanceAs (Decidable (∃ event ∈ s.system.history,
    event.committed = some t))

instance (s : ManagedSystem) : Decidable s.ProductsCurrent :=
  inferInstanceAs (Decidable (∀ locked ∈ s.lockedProducts,
    s.Committed locked.transaction → _))

instance (s : ManagedSystem) : Decidable s.ReservationsCurrent :=
  inferInstanceAs (Decidable (∀ locked ∈ s.lockedReservations,
    s.Committed locked.transaction → _))

theorem Reachable.lockedReservation_id (hreach : Reachable sha256 s) :
    ∀ locked ∈ s.lockedReservations, locked.entity.id = locked.row.id := by
  refine @Reachable.induction sha256 (fun s => ∀ locked ∈
    s.lockedReservations, locked.entity.id = locked.row.id)
    (by rintro locked ⟨⟩) ?_ s hreach
  intro s action s' hids hmoves
  cases hmoves with
  | @exec t transaction statement next hlive hrest havailable =>
      intro locked hmem
      rcases List.mem_append.mp hmem with hold | hnew
      · exact hids locked hold
      · obtain ⟨row, -, rfl⟩ := List.mem_map.mp hnew
        exact PersistenceContext.reservation_id _ row
  | advance hnot hmoves => exact hids

theorem ProductsCurrent.heeds {forProduct : Product → ℤ}
    (hcurrent : s.ProductsCurrent)
    (hstock : ∀ first second : Product,
      first.availableQuantity = second.availableQuantity →
        forProduct first = forProduct second) {t : ℕ}
    (hcommitted : s.Committed t) : s.Heeds forProduct (fun _ => 0) t := by
  constructor
  · rintro locked hmem rfl
    exact hstock _ _ (hcurrent locked hmem hcommitted).symm
  · exact fun _ _ _ => rfl

theorem ReservationsCurrent.heeds {forReservation : Reservation → ℤ}
    (hreach : Reachable sha256 s) (hcurrent : s.ReservationsCurrent)
    (hstatus : ∀ first second : Reservation, first.id = second.id →
      first.status = second.status →
        forReservation first = forReservation second) {t : ℕ}
    (hcommitted : s.Committed t) : s.Heeds (fun _ => 0) forReservation t := by
  constructor
  · exact fun _ _ _ => rfl
  · rintro locked hmem rfl
    exact hstatus _ _ (hreach.lockedReservation_id locked hmem).symm
      (hcurrent locked hmem hcommitted).symm

theorem Reachable.stock_balances (hreach : Reachable sha256 s)
    (hknown : ∀ event ∈ s.system.history, ¬ event.IsUnknown)
    (hcurrent : s.ProductsCurrent) :
    s.system.totalCounters.stockAdded - s.system.totalCounters.stockReserved +
        s.system.totalCounters.stockReleased =
      (s.system.db.products.map (·.availableQuantity.toInt)).sum := by
  have hread := read_totalCounters hreach hknown Counters.stockBalance
  rw [← stockBalance_tallies.ledger hreach fun t hcommitted =>
    hcurrent.heeds (fun first second hsame => by rw [hsame]) hcommitted]
    at hread
  simpa [Database.total] using hread

theorem Reachable.reservations_balance (hreach : Reachable sha256 s)
    (hknown : ∀ event ∈ s.system.history, ¬ event.IsUnknown)
    (hcurrent : s.ReservationsCurrent) :
    s.system.totalCounters.reservationsCreated -
        s.system.totalCounters.reservationsCancelled =
      (s.system.db.reservations.filter (·.status = .active)).length := by
  have hread := read_totalCounters hreach hknown Counters.openReservations
  rw [← openReservations_tallies.ledger hreach fun t hcommitted =>
    hcurrent.heeds hreach (fun first second _ hsame => by rw [hsame])
      hcommitted] at hread
  rw [Rows.length_filter]
  simpa [Database.total] using hread

theorem Reachable.products_balance (hreach : Reachable sha256 s)
    (hknown : ∀ event ∈ s.system.history, ¬ event.IsUnknown) :
    s.system.totalCounters.productsCreated = s.system.db.products.length := by
  have hread := read_totalCounters hreach hknown Counters.productCount
  rw [← productCount_tallies.ledger hreach fun t hcommitted =>
    ⟨fun _ _ _ => rfl, fun _ _ _ => rfl⟩] at hread
  simpa [Database.total] using hread

/-- Of the committed cancellations of a reservation one moved it at most. -/
theorem Reachable.cancels_once (hreach : Reachable sha256 s)
    (hcurrent : s.ReservationsCurrent) (id : UUID) :
    (s.system.durable.filter (·.cancels id)).length ≤ 1 := by
  have hledger := (cancels_tallies id).ledger hreach fun t hcommitted =>
    hcurrent.heeds hreach (fun first second hid hsame => by rw [hid, hsame])
      hcommitted
  have hrows := Rows.length_filter s.system.db.reservations
    fun row => row.id = id ∧ row.status = .cancelled
  have hcalls := Rows.length_filter s.system.durable (·.cancels id)
  have hone := @Rows.length_filter_le_one Reservation UUID (·.id) _ _
    hreach.kept.wellFormed.reservationIds
    (fun row => decide (row.id = id ∧ row.status = .cancelled)) id
    (fun row hpass => (of_decide_eq_true hpass).1)
  have hsame : ((s.system.durable.filter (·.cancels id)).length : ℤ) =
      (s.system.db.reservations.filter fun row =>
        row.id = id ∧ row.status = .cancelled).length := by
    rw [hcalls, hrows, ← hledger]
    simp [Database.total]
  omega

/-- The counters agree with the committed ledger. -/
theorem Reachable.counters_agree_with_ledger (hreach : Reachable sha256 s) :
    (∀ server, s.system.counters server =
        ((s.system.acknowledged server).map Completed.contribution).sum) ∧
      (∀ completed ∈ s.system.durable, completed.IsReplay →
        completed.contribution.stockAdded = 0 ∧
          completed.contribution.stockReserved = 0 ∧
            completed.contribution.stockReleased = 0) ∧
      (s.ReservationsCurrent → ∀ id,
        (s.system.durable.filter (·.cancels id)).length ≤ 1) ∧
      ((∀ event ∈ s.system.history, ¬ event.IsUnknown) →
        (s.ProductsCurrent →
          s.system.totalCounters.stockAdded -
              s.system.totalCounters.stockReserved +
              s.system.totalCounters.stockReleased =
            (s.system.db.products.map (·.availableQuantity.toInt)).sum) ∧
        (s.ReservationsCurrent →
          s.system.totalCounters.reservationsCreated -
              s.system.totalCounters.reservationsCancelled =
            (s.system.db.reservations.filter (·.status = .active)).length) ∧
        s.system.totalCounters.productsCreated =
          s.system.db.products.length) := by
  refine ⟨hreach.counted.2, ?_, hreach.cancels_once, fun hknown =>
    ⟨hreach.stock_balances hknown, hreach.reservations_balance hknown,
      hreach.products_balance hknown⟩⟩
  intro completed hmem hreplay
  obtain ⟨view, hreturns⟩ := hreach.counted.1 completed hmem
  exact completed.contribution_of_isReplay hreturns hreplay

/-- Two transactions read before others commit and make another call after:
one commits on a product it has only read, the other is rolled back. -/
def overtakenActions : List Action :=
  [.begin 0 0 (.createProduct ⟨1, ⟨1000⟩⟩ (some [97, 49]) (some [65]) 5),
    .exec 0, .exec 0, .next 0 (.addStock 1 4), .exec 0, .exec 0,
    .commit 0 true,
    .begin 1 1 (.getProduct 1), .exec 1,
    .begin 2 0 (.reserve ⟨2, ⟨2000⟩⟩ 1 3 (some [99]) (some [107])),
    .exec 2, .exec 2, .exec 2, .exec 2, .exec 2, .exec 2, .commit 2 true,
    .next 1 (.getProduct 1), .exec 1, .commit 1 true,
    .begin 3 1 (.getReservation 2 (some [99])), .exec 3,
    .begin 4 0 (.cancelReservation ⟨3000⟩ 2 (some [99])),
    .exec 4, .exec 4, .exec 4, .exec 4, .commit 4 true,
    .next 3 (.cancelReservation ⟨4000⟩ 2 (some [99])),
    .exec 3, .exec 3, .exec 3, .exec 3, .abort 3 .rolledBack]

theorem counters_agree_with_ledger_sample :
    ∃ s : ManagedSystem,
      initial.run (fun _ => []) overtakenActions = some s ∧
        s.system.totalCounters.stockAdded -
            s.system.totalCounters.stockReserved +
            s.system.totalCounters.stockReleased = 9 ∧
          s.system.totalCounters.reservationsCreated -
            s.system.totalCounters.reservationsCancelled = 0 ∧
              s.system.totalCounters.productsCreated = 1 := by
  have hvalues : (initial.run (fun _ => []) overtakenActions).map (fun s =>
      ((s.system.db.products.map (·.availableQuantity.toInt)).sum,
        (s.system.db.reservations.filter (·.status = .active)).length,
        s.system.db.products.length,
        s.system.history.all fun event => !decide event.IsUnknown,
        decide (s.ProductsCurrent ∧ s.ReservationsCurrent))) =
          some (9, 0, 1, true, true) := by
    decide +kernel
  obtain ⟨s, hrun, hvalue⟩ := Option.map_eq_some_iff.mp hvalues
  simp only [Prod.mk.injEq, List.all_eq_true, decide_eq_true_eq] at hvalue
  obtain ⟨hstock, hopen, hcount, hhistory, hproducts, hreservations⟩ := hvalue
  have hknown : ∀ event ∈ s.system.history, ¬ event.IsUnknown := by
    intro event hevent
    have hnot := hhistory event hevent
    simpa using hnot
  obtain ⟨-, -, -, hbalance⟩ :=
    Reachable.counters_agree_with_ledger ⟨overtakenActions, hrun⟩
  obtain ⟨hunits, hactive, hcreated⟩ := hbalance hknown
  have hunits := hunits hproducts
  have hactive := hactive hreservations
  rw [hstock] at hunits
  rw [hopen] at hactive
  rw [hcount] at hcreated
  exact ⟨s, hrun, hunits, hactive, hcreated⟩

/-- A product is read, restocked by another transaction and then restocked on
what was read. -/
def overwrittenStockActions : List Action :=
  [.begin 0 0 (.createProduct ⟨1, ⟨1000⟩⟩ (some [97, 49]) (some [65]) 5),
    .exec 0, .exec 0, .commit 0 true,
    .begin 1 0 (.getProduct 1), .exec 1,
    .begin 2 0 (.addStock 1 4), .exec 2, .exec 2, .commit 2 true,
    .next 1 (.addStock 1 3), .exec 1, .exec 1, .commit 1 true]

/-- A reservation is read, cancelled by another transaction and then cancelled
once more as the active reservation that was read. -/
def cancelledTwiceActions : List Action :=
  [.begin 0 0 (.createProduct ⟨1, ⟨1000⟩⟩ (some [97, 49]) (some [65]) 5),
    .exec 0, .exec 0, .commit 0 true,
    .begin 1 0 (.reserve ⟨2, ⟨2000⟩⟩ 1 3 (some [99]) none),
    .exec 1, .exec 1, .exec 1, .exec 1, .commit 1 true,
    .begin 2 0 (.getReservation 2 (some [99])), .exec 2,
    .begin 3 0 (.cancelReservation ⟨3000⟩ 2 (some [99])),
    .exec 3, .exec 3, .exec 3, .exec 3, .commit 3 true,
    .next 2 (.cancelReservation ⟨4000⟩ 2 (some [99])),
    .exec 2, .exec 2, .exec 2, .exec 2, .commit 2 true]

/-- A transaction of several calls can commit on entities which others have
overtaken. -/
theorem overtaken_entities_break_the_balance :
    (∃ s : ManagedSystem,
      initial.run (fun _ => []) overwrittenStockActions = some s ∧
        (∀ event ∈ s.system.history, ¬ event.IsUnknown) ∧
          s.system.totalCounters.stockAdded -
              s.system.totalCounters.stockReserved +
              s.system.totalCounters.stockReleased ≠
            (s.system.db.products.map (·.availableQuantity.toInt)).sum) ∧
      ∃ s : ManagedSystem,
        initial.run (fun _ => []) cancelledTwiceActions = some s ∧
          (∀ event ∈ s.system.history, ¬ event.IsUnknown) ∧
            s.system.totalCounters.reservationsCreated -
                s.system.totalCounters.reservationsCancelled ≠
              (s.system.db.reservations.filter (·.status = .active)).length ∧
              (s.system.durable.filter (·.cancels 2)).length = 2 := by
  have hstock : (initial.run (fun _ => []) overwrittenStockActions).map
      (fun s => (s.system.history.all (fun event => !decide event.IsUnknown),
        s.system.totalCounters,
        (s.system.db.products.map (·.availableQuantity.toInt)).sum)) =
          some (true, ⟨1, 12, 0, 0, 0, 0, 0, 0⟩, 8) := by
    decide +kernel
  have hreservations : (initial.run (fun _ => []) cancelledTwiceActions).map
      (fun s => (s.system.history.all (fun event => !decide event.IsUnknown),
        s.system.totalCounters,
        (s.system.db.reservations.filter (·.status = .active)).length,
        (s.system.durable.filter (·.cancels 2)).length)) =
          some (true, ⟨1, 5, 1, 0, 2, 0, 3, 6⟩, 0, 2) := by
    decide +kernel
  obtain ⟨s, hrun, hvalue⟩ := Option.map_eq_some_iff.mp hstock
  obtain ⟨s', hrun', hvalue'⟩ := Option.map_eq_some_iff.mp hreservations
  simp only [Prod.mk.injEq, List.all_eq_true, Bool.not_eq_true',
    decide_eq_false_iff_not] at hvalue hvalue'
  obtain ⟨hknown, hcounters, hsum⟩ := hvalue
  obtain ⟨hknown', hcounters', hactive', htwice⟩ := hvalue'
  refine ⟨⟨s, hrun, hknown, ?_⟩, s', hrun', hknown', ?_, htwice⟩
  · rw [hcounters, hsum]
    decide
  · rw [hcounters', hactive']
    decide

end ManagedSystem

end InventoryCloud
