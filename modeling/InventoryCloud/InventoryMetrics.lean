import InventoryCloud.DomainEntities
import Mathlib.Algebra.Group.Hom.Defs

/-!
# Business counters

The eight counters and the increments the service registers.  A registered
increment runs after the transaction has completed, and only when it completed
as committed.  Counter arithmetic is exact.
-/

namespace InventoryCloud

@[ext] structure Counters where
  productsCreated : ℤ
  stockAdded : ℤ
  reservationsCreated : ℤ
  reservationsReplayed : ℤ
  reservationsCancelled : ℤ
  cancellationReplayed : ℤ
  stockReserved : ℤ
  stockReleased : ℤ
  deriving DecidableEq, Repr

namespace Counters

def zero : Counters := ⟨0, 0, 0, 0, 0, 0, 0, 0⟩

def add (first second : Counters) : Counters where
  productsCreated := first.productsCreated + second.productsCreated
  stockAdded := first.stockAdded + second.stockAdded
  reservationsCreated := first.reservationsCreated + second.reservationsCreated
  reservationsReplayed :=
    first.reservationsReplayed + second.reservationsReplayed
  reservationsCancelled :=
    first.reservationsCancelled + second.reservationsCancelled
  cancellationReplayed :=
    first.cancellationReplayed + second.cancellationReplayed
  stockReserved := first.stockReserved + second.stockReserved
  stockReleased := first.stockReleased + second.stockReleased

instance : Zero Counters := ⟨zero⟩
instance : Add Counters := ⟨add⟩

instance : AddCommMonoid Counters where
  add_assoc first second third := by
    ext <;> exact Int.add_assoc _ _ _
  zero_add counters := by
    ext <;> exact Int.zero_add _
  add_zero counters := by
    ext <;> exact Int.add_zero _
  add_comm first second := by
    ext <;> exact Int.add_comm _ _
  nsmul := nsmulRec

/-- Stock put into the inventory and not held by a reservation. -/
def stockBalance : Counters →+ ℤ where
  toFun counters :=
    counters.stockAdded - counters.stockReserved + counters.stockReleased
  map_zero' := rfl
  map_add' first second := by
    change first.stockAdded + second.stockAdded -
      (first.stockReserved + second.stockReserved) +
        (first.stockReleased + second.stockReleased) = _
    omega

def openReservations : Counters →+ ℤ where
  toFun counters :=
    counters.reservationsCreated - counters.reservationsCancelled
  map_zero' := rfl
  map_add' first second := by
    change first.reservationsCreated + second.reservationsCreated -
      (first.reservationsCancelled + second.reservationsCancelled) = _
    omega

def productCount : Counters →+ ℤ where
  toFun counters := counters.productsCreated
  map_zero' := rfl
  map_add' _ _ := rfl

@[simp] theorem stockBalance_apply (counters : Counters) :
    stockBalance counters =
      counters.stockAdded - counters.stockReserved + counters.stockReleased :=
  rfl

@[simp] theorem openReservations_apply (counters : Counters) :
    openReservations counters =
      counters.reservationsCreated - counters.reservationsCancelled :=
  rfl

@[simp] theorem productCount_apply (counters : Counters) :
    productCount counters = counters.productsCreated := rfl

end Counters

/-- One call of a method of `InventoryMetrics`. -/
inductive Increment where
  | productCreated (quantity : Int32)
  | stockAdded (quantity : Int32)
  | reservationCreated (quantity : Int32)
  | reservationReplayed
  | reservationCancelled (quantity : Int32)
  | cancellationReplayed
  deriving DecidableEq, Repr

/-- What the registered runnable adds to the counters. -/
def Increment.run : Increment → Counters → Counters
  | .productCreated quantity, counters =>
      { counters with
        productsCreated := counters.productsCreated + 1
        stockAdded :=
          if 0 < quantity then counters.stockAdded + quantity.toInt
          else counters.stockAdded }
  | .stockAdded quantity, counters =>
      { counters with stockAdded := counters.stockAdded + quantity.toInt }
  | .reservationCreated quantity, counters =>
      { counters with
        reservationsCreated := counters.reservationsCreated + 1
        stockReserved := counters.stockReserved + quantity.toInt }
  | .reservationReplayed, counters =>
      { counters with
        reservationsReplayed := counters.reservationsReplayed + 1 }
  | .reservationCancelled quantity, counters =>
      { counters with
        reservationsCancelled := counters.reservationsCancelled + 1
        stockReleased := counters.stockReleased + quantity.toInt }
  | .cancellationReplayed, counters =>
      { counters with
        cancellationReplayed := counters.cancellationReplayed + 1 }

/-- Spring's transaction completion status. -/
inductive CompletionStatus where
  | committed
  | rolledBack
  | unknown
  deriving DecidableEq, Repr

/-- `afterCompletion` of the registered synchronizations, in their order. -/
def afterCompletion (status : CompletionStatus) (registered : List Increment)
    (counters : Counters) : Counters :=
  if status = .committed then
    registered.foldl (fun current increment => increment.run current) counters
  else counters

end InventoryCloud
