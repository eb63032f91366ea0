import InventoryCloud.CancellationFinality
import InventoryCloud.InventoryEndpoints

/-!
# Cancellations under skewed clocks

A cancellation writes the clock reading of its own instance, while the table
demands that it is not before the one of the creation.  With room for the
units the two readings alone decide whether the owner gets the cancelled
reservation or a conflict.
-/

namespace InventoryCloud

/-- The owner's cancellation commits: it answers with the cancelled
reservation and leaves a row that satisfies the checks of the table. -/
structure CancellationCommits (db : Database) (reservation : Reservation)
    (now : Instant) : Prop where
  response : (InventoryController.handle reservation.customerId
      (.cancel now reservation.id) db).1 =
    InventoryController.ok
      (.reservation (.ofReservation (reservation.cancelledBy now)))
  row : (InventoryController.handle reservation.customerId
      (.cancel now reservation.id) db).2.findReservation reservation.id =
    some (reservation.cancelledBy now)
  storable : (reservation.cancelledBy now).storable = true

/-- What the owner is told when the flush is rejected. -/
def flushRejected : HttpResponse :=
  ApiExceptionHandler.handle .dataIntegrityViolation

variable {db : Database} {reservation : Reservation} {product : Product}

theorem handle_cancel (hwell : db.WellFormed)
    (hmem : reservation ∈ db.reservations)
    (hactive : reservation.status = .active)
    (hcustomer : Reservation.validateCustomerId
      (some reservation.customerId) = .ok reservation.customerId)
    (hproduct : db.findProduct reservation.productId = some product)
    (hroom : product.availableQuantity.toInt + reservation.quantity.toInt ≤
      1000000) (now : Instant) :
    InventoryController.handle reservation.customerId
        (.cancel now reservation.id) db =
      if reservation.createdAt.epochNanos ≤
          now.truncatedToMicros.epochNanos then
        (InventoryController.ok
            (.reservation (.ofReservation (reservation.cancelledBy now))),
          db.applyAll [.updateProduct (product.restocked reservation.quantity),
            .updateReservation (reservation.cancelledBy now)])
      else (flushRejected, db) := by
  have hresult := cancelReservation_resultOn hwell hmem hactive hcustomer
    hproduct hroom now
  simp only [InventoryController.handle, InventoryController.Request.call,
    Call.after_of_resultOn hresult, hresult]
  split <;> rfl

theorem cancelledBy_storable (hrow : reservation.storable = true)
    {now : Instant} (hclock : reservation.createdAt.epochNanos ≤
      now.truncatedToMicros.epochNanos) :
    (reservation.cancelledBy now).storable = true := by
  have hconsistent : (reservation.cancelledBy now).cancellationConsistent =
      true := decide_eq_true hclock
  simp only [Reservation.storable, Bool.and_eq_true] at hrow ⊢
  obtain ⟨⟨hcolumns, -⟩, hkey⟩ := hrow
  exact ⟨⟨hcolumns, hconsistent⟩, hkey⟩

namespace System

variable {sha256 : List UInt8 → List UInt8} {s : System}

/-- In every reachable state a cancellation with room commits exactly if the
clock that is read has not fallen behind the time of creation. -/
theorem Reachable.cancellation_commits_iff (hreach : Reachable sha256 s)
    (hmem : reservation ∈ s.db.reservations)
    (hactive : reservation.status = .active)
    (hproduct : s.db.findProduct reservation.productId = some product)
    (hroom : product.availableQuantity.toInt + reservation.quantity.toInt ≤
      1000000) (now : Instant) :
    CancellationCommits s.db reservation now ↔
      reservation.createdAt.epochNanos ≤
        now.truncatedToMicros.epochNanos := by
  have hwell := hreach.invariant.wellFormed
  have hhandle := handle_cancel hwell hmem hactive
    (hreach.customer_valid hmem) hproduct hroom now
  by_cases hclock : reservation.createdAt.epochNanos ≤
      now.truncatedToMicros.epochNanos
  · rw [if_pos hclock] at hhandle
    refine iff_of_true ⟨?_, ?_, ?_⟩ hclock
    · rw [hhandle]
    · have hfind := hwell.findReservation_of_mem hmem
      rw [hhandle]
      simp only [Database.applyAll_cons, Database.applyAll_nil,
        Database.findReservation_updateReservation,
        Database.findReservation_updateProduct, hfind, Option.map_some,
        Database.reservationVersion, Reservation.cancelledBy_id, if_true]
      rfl
    · exact cancelledBy_storable (hwell.reservationRows _ hmem) hclock
  · rw [if_neg hclock] at hhandle
    refine iff_of_false ?_ hclock
    intro hcommits
    have hresponse := hcommits.response
    rw [hhandle] at hresponse
    have hstatus : (409 : ℕ) = 200 := congrArg HttpResponse.status hresponse
    omega

/-- A reservation made at 2000 ns and still active. -/
def activeReservation : Reservation :=
  ⟨2, 1, 3, [99], some [107], .active, ⟨2000⟩, none⟩

private theorem reaches_activeReservation :
    ∃ s, initial.run (fun _ => []) (sampleActions.take 17) = some s ∧
      s.db = ⟨[⟨1, [65, 49], [65], 6, ⟨1000⟩⟩], [activeReservation]⟩ := by
  have hrows : (initial.run (fun _ => []) (sampleActions.take 17)).map (·.db) =
      some ⟨[⟨1, [65, 49], [65], 6, ⟨1000⟩⟩], [activeReservation]⟩ := by
    decide +kernel
  obtain ⟨s, hrun, hrows⟩ := Option.map_eq_some_iff.mp hrows
  exact ⟨s, hrun, hrows⟩

theorem cancellation_commits_iff_sample :
    ∃ s : System, Reachable (fun _ => []) s ∧
      CancellationCommits s.db activeReservation ⟨3000⟩ := by
  obtain ⟨s, hrun, hrows⟩ := reaches_activeReservation
  have hreach : Reachable (fun _ => []) s := ⟨_, hrun⟩
  have hmem : activeReservation ∈ s.db.reservations := by
    rw [hrows]
    exact List.mem_singleton_self _
  have hproduct : s.db.findProduct activeReservation.productId =
      some ⟨1, [65, 49], [65], 6, ⟨1000⟩⟩ := by
    rw [hrows]
    rfl
  exact ⟨s, hreach, (hreach.cancellation_commits_iff hmem rfl hproduct
    (by decide) ⟨3000⟩).mpr (by decide)⟩

/-- An instance whose clock is a microsecond behind cannot cancel. -/
theorem late_clock_cancellation_rejected :
    ∃ s : System, Reachable (fun _ => []) s ∧
      activeReservation ∈ s.db.reservations ∧
      (InventoryController.handle activeReservation.customerId
        (.cancel ⟨1999⟩ activeReservation.id) s.db).1 = flushRejected ∧
      flushRejected.status = 409 ∧
        ¬ CancellationCommits s.db activeReservation ⟨1999⟩ := by
  obtain ⟨s, hrun, hrows⟩ := reaches_activeReservation
  have hresponse : (InventoryController.handle activeReservation.customerId
      (.cancel ⟨1999⟩ activeReservation.id) s.db).1 = flushRejected := by
    rw [hrows]
    decide +kernel
  refine ⟨s, ⟨_, hrun⟩, ?_, hresponse, rfl, ?_⟩
  · rw [hrows]
    exact List.mem_singleton_self _
  · intro hcommits
    have hok := hcommits.response
    rw [hresponse] at hok
    have hstatus : (409 : ℕ) = 200 := congrArg HttpResponse.status hok
    omega

end System

end InventoryCloud
