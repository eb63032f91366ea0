import InventoryCloud.DatabaseSchema
import InventoryCloud.RowSums

/-!
# Calls on the domain objects

A program holds one product and the reservations it has made of it, and calls
their methods in any order and with any arguments.  The objects are changed in
place, so a method that throws has to do so before its first assignment.
-/

namespace InventoryCloud

/-- The product and its reservations in the order of their creation. -/
structure DomainObjects where
  product : Product
  reservations : List Reservation
  deriving DecidableEq, Repr

inductive DomainCall where
  | addStock (quantity : Int32)
  | reserveStock (quantity : Int32)
  /-- `new Reservation(product, quantity, customerId, idempotencyKey)` -/
  | newReservation (fresh : Fresh) (quantity : Int32)
      (customerId idempotencyKey : Option JavaString)
  /-- `cancel()` on the reservation at the index. -/
  | cancel (index : ℕ) (now : Instant)
  deriving DecidableEq, Repr

inductive DomainResult where
  | nothing
  | reservation (reservation : Reservation)
  | changed (value : Bool)
  deriving DecidableEq, Repr

namespace DomainCall

/-- The outcome of the call and the objects after it; there is none for a
reservation that has not been created. -/
def perform (objects : DomainObjects) :
    DomainCall → Option (Except JavaException DomainResult × DomainObjects)
  | .addStock quantity =>
      let (outcome, product) :=
        (Product.addStock quantity).call objects.product
      some (outcome.map fun _ => .nothing,
        { objects with product := product })
  | .reserveStock quantity =>
      let (outcome, product) :=
        (Product.reserveStock quantity).call objects.product
      some (outcome.map fun _ => .nothing,
        { objects with product := product })
  | .newReservation fresh quantity customerId idempotencyKey =>
      let (outcome, product) :=
        (Reservation.new fresh quantity customerId idempotencyKey).call
          objects.product
      some (outcome.map .reservation,
        { product := product
          reservations := objects.reservations ++ outcome.toOption.toList })
  | .cancel index now =>
      match objects.reservations[index]? with
      | none => none
      | some reservation =>
          let (outcome, changed) :=
            (Reservation.cancel now).call (reservation, objects.product)
          some (outcome.map .changed,
            { product := changed.2
              reservations := objects.reservations.set index changed.1 })

end DomainCall

/-- A call with its outcome and the objects before and after it. -/
structure Performed where
  before : DomainObjects
  call : DomainCall
  outcome : Except JavaException DomainResult
  after : DomainObjects

/-- The calls one after another, each whatever the earlier ones returned. -/
def DomainObjects.run (objects : DomainObjects) :
    List DomainCall → Option (List Performed × DomainObjects)
  | [] => some ([], objects)
  | call :: calls => do
      let (outcome, after) ← call.perform objects
      let (history, final) ← after.run calls
      return (⟨objects, call, outcome, after⟩ :: history, final)

/-! ## What a call can do -/

def Product.withStock (product : Product) (level : Int32) : Product :=
  { product with availableQuantity := level }

/-- Everything a call that returns changes.  Levels are exact integers. -/
inductive DomainCall.Effect (before : DomainObjects) :
    DomainCall → DomainResult → DomainObjects → Prop where
  | restocked {quantity level : Int32} (hquantity : PositiveQuantity quantity)
      (hlevel : level.toInt =
        before.product.availableQuantity.toInt + quantity.toInt)
      (hrange : StockInRange (before.product.withStock level)) :
      Effect before (.addStock quantity) .nothing
        { before with product := before.product.withStock level }
  | withdrawn {quantity level : Int32} (hquantity : PositiveQuantity quantity)
      (hlevel : level.toInt =
        before.product.availableQuantity.toInt - quantity.toInt)
      (hrange : StockInRange (before.product.withStock level)) :
      Effect before (.reserveStock quantity) .nothing
        { before with product := before.product.withStock level }
  | reserved {fresh : Fresh} {quantity level : Int32} {customer : JavaString}
      {idempotencyKey : Option JavaString}
      (hquantity : PositiveQuantity quantity)
      (hlevel : level.toInt =
        before.product.availableQuantity.toInt - quantity.toInt)
      (hrange : StockInRange (before.product.withStock level)) :
      Effect before
        (.newReservation fresh quantity (some customer) idempotencyKey)
        (.reservation (Reservation.created fresh before.product.id quantity
          customer idempotencyKey))
        { product := before.product.withStock level
          reservations := before.reservations ++
            [Reservation.created fresh before.product.id quantity customer
              idempotencyKey] }
  | cancelled {index : ℕ} {now : Instant} {reservation : Reservation}
      {level : Int32}
      (hindex : before.reservations[index]? = some reservation)
      (hactive : reservation.status = .active)
      (hlevel : level.toInt = before.product.availableQuantity.toInt +
        reservation.quantity.toInt)
      (hrange : StockInRange (before.product.withStock level)) :
      Effect before (.cancel index now) (.changed true)
        { product := before.product.withStock level
          reservations := before.reservations.set index
            { reservation with
              status := .cancelled
              cancelledAt := some now.truncatedToMicros } }
  | repeated {index : ℕ} {now : Instant} {reservation : Reservation}
      (hindex : before.reservations[index]? = some reservation)
      (hcancelled : reservation.status = .cancelled) :
      Effect before (.cancel index now) (.changed false) before

theorem Product.addStock_cases {product : Product} (hrange : StockInRange product)
    (quantity : Int32) :
    (∃ exception, (Product.addStock quantity).call product =
        (.error exception, product)) ∨
      ∃ level, (Product.addStock quantity).call product =
          (.ok (), product.withStock level) ∧
        PositiveQuantity quantity ∧
        level.toInt = product.availableQuantity.toInt + quantity.toInt ∧
          StockInRange (product.withStock level) := by
  rw [Product.addStock_call]
  by_cases hquantity : PositiveQuantity quantity
  · rw [if_pos hquantity]
    by_cases hcap : maxQuantity - product.availableQuantity < quantity
    · exact Or.inl ⟨_, if_pos hcap⟩
    · have hfits := (addStock_fits_iff hrange).mp hcap
      have hlevel := toInt_addStock hrange hquantity
      refine Or.inr ⟨_, if_neg hcap, hquantity, hlevel, ?_⟩
      unfold StockInRange PositiveQuantity Product.withStock at *
      rw [hlevel]
      omega
  · rw [if_neg hquantity]
    exact Or.inl ⟨_, rfl⟩

theorem Product.reserveStock_cases {product : Product}
    (hrange : StockInRange product) (quantity : Int32) :
    (∃ exception, (Product.reserveStock quantity).call product =
        (.error exception, product)) ∨
      ∃ level, (Product.reserveStock quantity).call product =
          (.ok (), product.withStock level) ∧
        PositiveQuantity quantity ∧
        level.toInt = product.availableQuantity.toInt - quantity.toInt ∧
          StockInRange (product.withStock level) := by
  rw [Product.reserveStock_call]
  by_cases hquantity : PositiveQuantity quantity
  · rw [if_pos hquantity]
    by_cases hstock : product.availableQuantity < quantity
    · exact Or.inl ⟨_, if_pos hstock⟩
    · have hlevel := toInt_reserveStock hrange hquantity
      refine Or.inr ⟨_, if_neg hstock, hquantity, hlevel, ?_⟩
      rw [Int32.lt_iff_toInt_lt] at hstock
      unfold StockInRange PositiveQuantity Product.withStock at *
      rw [hlevel]
      omega
  · rw [if_neg hquantity]
    exact Or.inl ⟨_, rfl⟩

theorem Reservation.new_cases {product : Product} (hrange : StockInRange product)
    (fresh : Fresh) (quantity : Int32)
    (customerId idempotencyKey : Option JavaString) :
    (∃ exception, (Reservation.new fresh quantity customerId
        idempotencyKey).call product = (.error exception, product)) ∨
      ∃ customer level, customerId = some customer ∧
        (Reservation.new fresh quantity customerId idempotencyKey).call
            product =
          (.ok (Reservation.created fresh product.id quantity customer
            idempotencyKey), product.withStock level) ∧
        PositiveQuantity quantity ∧
        level.toInt = product.availableQuantity.toInt - quantity.toInt ∧
          StockInRange (product.withStock level) := by
  cases hcustomer : Reservation.validateCustomerId customerId with
  | error exception =>
      left
      refine ⟨exception, ?_⟩
      simp only [Reservation.new, DomainMethod.call_bind,
        DomainMethod.call_ofExcept, hcustomer]
  | ok customer =>
      cases hkey : Reservation.validateIdempotencyKey idempotencyKey with
      | error exception =>
          left
          refine ⟨exception, ?_⟩
          simp only [Reservation.new, DomainMethod.call_bind,
            DomainMethod.call_ofExcept, hcustomer, hkey]
      | ok _ =>
          rw [Reservation.new_call hcustomer hkey]
          rcases Product.reserveStock_cases hrange quantity with
            ⟨exception, hcall⟩ | ⟨level, hcall, hquantity, hlevel, hrange⟩
          · rw [hcall]
            exact Or.inl ⟨exception, rfl⟩
          · rw [hcall]
            exact Or.inr ⟨customer, level,
              Reservation.validateCustomerId_ok hcustomer, rfl, hquantity,
              hlevel, hrange⟩

namespace DomainCall

/-- A call that throws leaves all objects as they are, and one that returns
has its effect. -/
theorem perform_cases {objects after : DomainObjects} {call : DomainCall}
    {outcome : Except JavaException DomainResult}
    (hrange : StockInRange objects.product)
    (hperform : call.perform objects = some (outcome, after)) :
    (∃ exception, outcome = .error exception ∧ after = objects) ∨
      ∃ result, outcome = .ok result ∧ call.Effect objects result after := by
  cases call with
  | addStock quantity =>
      rcases Product.addStock_cases hrange quantity with
        ⟨exception, hcall⟩ | ⟨level, hcall, hquantity, hlevel, hrange⟩
      · simp only [perform, hcall] at hperform
        cases hperform
        exact Or.inl ⟨exception, rfl, rfl⟩
      · simp only [perform, hcall] at hperform
        cases hperform
        exact Or.inr ⟨_, rfl, .restocked hquantity hlevel hrange⟩
  | reserveStock quantity =>
      rcases Product.reserveStock_cases hrange quantity with
        ⟨exception, hcall⟩ | ⟨level, hcall, hquantity, hlevel, hrange⟩
      · simp only [perform, hcall] at hperform
        cases hperform
        exact Or.inl ⟨exception, rfl, rfl⟩
      · simp only [perform, hcall] at hperform
        cases hperform
        exact Or.inr ⟨_, rfl, .withdrawn hquantity hlevel hrange⟩
  | newReservation fresh quantity customerId idempotencyKey =>
      rcases Reservation.new_cases hrange fresh quantity customerId
        idempotencyKey with ⟨exception, hcall⟩ |
          ⟨customer, level, rfl, hcall, hquantity, hlevel, hrange⟩
      · simp only [perform, hcall] at hperform
        cases hperform
        exact Or.inl ⟨exception, rfl, by simp [Except.toOption]⟩
      · simp only [perform, hcall] at hperform
        cases hperform
        exact Or.inr ⟨_, rfl, .reserved hquantity hlevel hrange⟩
  | cancel index now =>
      cases hindex : objects.reservations[index]? with
      | none => simp [perform, hindex] at hperform
      | some reservation =>
          have hsame : objects.reservations.set index reservation =
              objects.reservations := by
            obtain ⟨hlt, rfl⟩ := List.getElem?_eq_some_iff.mp hindex
            exact List.set_getElem_self hlt
          simp only [perform, hindex, Reservation.cancel_call] at hperform
          by_cases hstatus : reservation.status = .cancelled
          · simp only [if_pos hstatus, hsame] at hperform
            cases hperform
            exact Or.inr ⟨_, rfl, .repeated hindex hstatus⟩
          · rcases Product.addStock_cases hrange reservation.quantity with
              ⟨exception, hcall⟩ | ⟨level, hcall, -, hlevel, hrange⟩
            · simp only [if_neg hstatus, hcall, hsame] at hperform
              cases hperform
              exact Or.inl ⟨exception, rfl, rfl⟩
            · simp only [if_neg hstatus, hcall] at hperform
              cases hperform
              have hactive : reservation.status = .active := by
                cases hkind : reservation.status with
                | active => rfl
                | cancelled => exact absurd hkind hstatus
              exact Or.inr ⟨_, rfl, .cancelled hindex hactive hlevel hrange⟩

end DomainCall

/-! ## What every call keeps -/

/-- The stock is in range, and a reservation is cancelled exactly if it says
when. -/
structure DomainObjects.Consistent (objects : DomainObjects) : Prop where
  stock : StockInRange objects.product
  statuses : ∀ reservation ∈ objects.reservations,
    reservation.status = .cancelled ↔ reservation.cancelledAt ≠ none

/-- No 32-bit operation of the methods wraps around on the product. -/
structure ExactArithmetic (product : Product) (quantity : Int32) : Prop where
  room : (maxQuantity - product.availableQuantity).toInt =
    1000000 - product.availableQuantity.toInt
  restock : PositiveQuantity quantity →
    ¬ maxQuantity - product.availableQuantity < quantity →
      (product.availableQuantity + quantity).toInt =
        product.availableQuantity.toInt + quantity.toInt
  withdrawal : PositiveQuantity quantity →
    ¬ product.availableQuantity < quantity →
      (product.availableQuantity - quantity).toInt =
        product.availableQuantity.toInt - quantity.toInt

theorem StockInRange.exactArithmetic {product : Product}
    (hrange : StockInRange product) (quantity : Int32) :
    ExactArithmetic product quantity where
  room := by
    obtain ⟨hlow, hhigh⟩ := hrange
    rw [toInt_sub_of_bounds] <;> rw [toInt_maxQuantity] <;> omega
  restock hquantity _ := toInt_addStock hrange hquantity
  withdrawal hquantity _ := toInt_reserveStock hrange hquantity

/-- Units reserved and not given back. -/
def Reservation.activeUnits (reservation : Reservation) : ℤ :=
  if reservation.status = .active then reservation.quantity.toInt else 0

/-- The units in stock and in active reservations. -/
def DomainObjects.units (objects : DomainObjects) : ℤ :=
  objects.product.availableQuantity.toInt +
    (objects.reservations.map Reservation.activeUnits).sum

namespace Performed

/-- The units a successful `addStock` brought in. -/
def restocked (performed : Performed) : ℤ :=
  match performed.call, performed.outcome with
  | .addStock quantity, .ok _ => quantity.toInt
  | _, _ => 0

/-- The units a successful `reserveStock` took out. -/
def withdrawn (performed : Performed) : ℤ :=
  match performed.call, performed.outcome with
  | .reserveStock quantity, .ok _ => quantity.toInt
  | _, _ => 0

structure Sound (performed : Performed) : Prop where
  consistent : performed.before.Consistent ∧ performed.after.Consistent
  thrown : ∀ exception, performed.outcome = .error exception →
    performed.after = performed.before
  returned : ∀ result, performed.outcome = .ok result →
    performed.call.Effect performed.before result performed.after
  exact : ∀ quantity, ExactArithmetic performed.before.product quantity

end Performed

namespace DomainCall.Effect

variable {before after : DomainObjects} {call : DomainCall}
  {result : DomainResult}

theorem consistent (heffect : call.Effect before result after)
    (hbefore : before.Consistent) : after.Consistent := by
  cases heffect with
  | restocked hquantity hlevel hrange => exact ⟨hrange, hbefore.statuses⟩
  | withdrawn hquantity hlevel hrange => exact ⟨hrange, hbefore.statuses⟩
  | reserved hquantity hlevel hrange =>
      refine ⟨hrange, ?_⟩
      intro reservation hmem
      rcases List.mem_append.mp hmem with hold | hnew
      · exact hbefore.statuses reservation hold
      · rw [List.mem_singleton.mp hnew]
        simp [Reservation.created]
  | cancelled hindex hactive hlevel hrange =>
      refine ⟨hrange, ?_⟩
      intro reservation hmem
      rcases List.mem_or_eq_of_mem_set hmem with hold | rfl
      · exact hbefore.statuses reservation hold
      · simp
  | repeated hindex hcancelled => exact hbefore

theorem units (heffect : call.Effect before result after) :
    after.units = before.units +
      (Performed.mk before call (.ok result) after).restocked -
        (Performed.mk before call (.ok result) after).withdrawn := by
  cases heffect with
  | restocked hquantity hlevel hrange =>
      simp only [DomainObjects.units, Product.withStock, hlevel,
        Performed.restocked, Performed.withdrawn]
      omega
  | withdrawn hquantity hlevel hrange =>
      simp only [DomainObjects.units, Product.withStock, hlevel,
        Performed.restocked, Performed.withdrawn]
      omega
  | reserved hquantity hlevel hrange =>
      simp only [DomainObjects.units, Product.withStock, hlevel,
        Performed.restocked, Performed.withdrawn, List.map_append,
        List.sum_append, List.map_cons, List.map_nil, List.sum_cons,
        List.sum_nil, Reservation.activeUnits, Reservation.created, if_true]
      omega
  | @cancelled index now reservation level hindex hactive hlevel hrange =>
      obtain ⟨hlt, rfl⟩ := List.getElem?_eq_some_iff.mp hindex
      simp only [DomainObjects.units, Product.withStock, hlevel,
        Performed.restocked, Performed.withdrawn, List.map_set,
        List.sum_set', List.length_map, List.getElem_map, hlt, dif_pos,
        Reservation.activeUnits, hactive, if_true, reduceCtorEq, if_false]
      omega
  | repeated hindex hcancelled =>
      simp [Performed.restocked, Performed.withdrawn]

end DomainCall.Effect

/-- What holds of a run from consistent objects. -/
theorem DomainObjects.run_sound {objects final : DomainObjects}
    {calls : List DomainCall} {history : List Performed}
    (hobjects : objects.Consistent)
    (hrun : objects.run calls = some (history, final)) :
    (∀ performed ∈ history, performed.Sound) ∧ final.Consistent ∧
      final.units = objects.units + (history.map Performed.restocked).sum -
        (history.map Performed.withdrawn).sum := by
  induction calls generalizing objects history with
  | nil =>
      cases hrun
      exact ⟨by simp, hobjects, by simp⟩
  | cons call calls ih =>
      simp only [DomainObjects.run, Option.bind_eq_bind,
        Option.bind_eq_some_iff, Option.pure_def, Option.some.injEq,
        Prod.mk.injEq, Prod.exists] at hrun
      obtain ⟨outcome, after, hperform, rest, last, hrest, rfl, rfl⟩ := hrun
      have hcases := DomainCall.perform_cases hobjects.stock hperform
      have hafter : after.Consistent := by
        rcases hcases with ⟨exception, -, rfl⟩ | ⟨result, -, heffect⟩
        · exact hobjects
        · exact heffect.consistent hobjects
      have hshare : after.units = objects.units +
          (Performed.mk objects call outcome after).restocked -
            (Performed.mk objects call outcome after).withdrawn := by
        rcases hcases with ⟨exception, rfl, rfl⟩ | ⟨result, rfl, heffect⟩
        · cases call <;> simp [Performed.restocked, Performed.withdrawn]
        · exact heffect.units
      obtain ⟨hsound, hfinal, hledger⟩ := ih hafter hrest
      refine ⟨?_, hfinal, ?_⟩
      · intro performed hmem
        rcases List.mem_cons.mp hmem with rfl | htail
        · refine ⟨⟨hobjects, hafter⟩, ?_, ?_,
            hobjects.stock.exactArithmetic⟩
          · rintro exception rfl
            rcases hcases with ⟨-, -, hsame⟩ | ⟨result, hok, -⟩
            · exact hsame
            · cases hok
          · rintro result rfl
            rcases hcases with ⟨exception, herror, -⟩ | ⟨other, hok, heffect⟩
            · cases herror
            · cases hok
              exact heffect
        · exact hsound performed htail
      · rw [hledger, List.map_cons, List.sum_cons, List.map_cons,
          List.sum_cons, hshare]
        omega

/-- A product object comes from the constructor or from a row of the table. -/
inductive Product.Obtained (product : Product) : Prop where
  | constructed {fresh : Fresh} {sku name : Option JavaString}
      {initialQuantity : Int32}
      (hnew : Product.new fresh sku name initialQuantity = .ok product)
  | loaded (hrow : product.storable = true)

theorem Product.Obtained.stockInRange {product : Product}
    (hobtained : product.Obtained) : StockInRange product := by
  cases hobtained with
  | constructed hnew =>
      obtain ⟨hrange, normalized, given, -, -, rfl⟩ := Product.new_ok hnew
      exact hrange
  | loaded hrow =>
      simp only [Product.storable, Bool.and_eq_true, decide_eq_true_eq] at hrow
      exact hrow.2

/-- Whatever is called on a product and its reservations, a call that throws
changes nothing, one that returns changes what it names, the arithmetic is
exact, and the stock is accounted for. -/
theorem domain_calls_atomic {product : Product} (hproduct : product.Obtained)
    {calls : List DomainCall} {history : List Performed}
    {final : DomainObjects}
    (hrun : (DomainObjects.mk product []).run calls = some (history, final)) :
    (∀ performed ∈ history, performed.Sound) ∧ final.Consistent ∧
      final.product.availableQuantity.toInt =
        product.availableQuantity.toInt +
          (history.map Performed.restocked).sum -
            (history.map Performed.withdrawn).sum -
              (final.reservations.map Reservation.activeUnits).sum := by
  have hstart : (DomainObjects.mk product []).Consistent :=
    ⟨hproduct.stockInRange, by simp⟩
  obtain ⟨hsound, hfinal, hledger⟩ := DomainObjects.run_sound hstart hrun
  refine ⟨hsound, hfinal, ?_⟩
  simp only [DomainObjects.units, List.map_nil, List.sum_nil] at hledger
  omega

/-- A restock over the limit throws, and so does the cancellation it leaves no
room for. -/
theorem domain_calls_atomic_sample :
    ∃ product history final,
      Product.new ⟨1, ⟨0⟩⟩ (some [0x41]) (some [0x42]) 5 = .ok product ∧
        (DomainObjects.mk product []).run
          [.newReservation ⟨2, ⟨0⟩⟩ 3 (some [0x43]) none, .addStock 999998,
            .cancel 0 ⟨0⟩, .addStock 2147483647, .reserveStock 1,
            .reserveStock 1, .reserveStock 1, .cancel 0 ⟨0⟩, .cancel 0 ⟨0⟩] =
          some (history, final) ∧ history.length = 9 ∧
        final.Consistent := by
  have hnew : Product.new ⟨1, ⟨0⟩⟩ (some [0x41]) (some [0x42]) 5 =
      .ok ⟨1, [0x41], [0x42], 5, ⟨0⟩⟩ := by decide +kernel
  have hlength : ((DomainObjects.mk ⟨1, [0x41], [0x42], 5, ⟨0⟩⟩ []).run
      [.newReservation ⟨2, ⟨0⟩⟩ 3 (some [0x43]) none, .addStock 999998,
        .cancel 0 ⟨0⟩, .addStock 2147483647, .reserveStock 1,
        .reserveStock 1, .reserveStock 1, .cancel 0 ⟨0⟩,
        .cancel 0 ⟨0⟩]).map (·.1.length) = some 9 := by decide +kernel
  obtain ⟨⟨history, final⟩, hrun, hlength⟩ :=
    Option.map_eq_some_iff.mp hlength
  obtain ⟨-, hfinal, -⟩ := domain_calls_atomic (.constructed hnew) hrun
  exact ⟨_, history, final, hnew, hrun, hlength, hfinal⟩

end InventoryCloud
