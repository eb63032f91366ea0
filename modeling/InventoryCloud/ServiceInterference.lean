import InventoryCloud.DatabaseEvolution
import InventoryCloud.InterferenceFreedom
import InventoryCloud.LockTable

/-!
# What the locks of a transaction protect

The locks each statement takes, the rely condition they give their holder, and
the frame rule: statements covered by the locks of one transaction keep the
rely condition of every other.  With these assumptions the program of every
call is guarded.
-/

namespace InventoryCloud

open Interaction
open Locking

inductive Lock where
  | advisory (lockId : Int64)
  | reservationRow (id : UUID)
  | productRow (id : UUID)
  | productsPkey (id : UUID)
  | productsSku (sku : JavaString)
  | reservationsPkey (id : UUID)
  | reservationsKey (customerId key : JavaString)
  deriving DecidableEq

namespace ReservationKeyLock

/-- `ByteBuffer.getLong`: the first eight bytes, big-endian. -/
def getLong (digest : List UInt8) : Int64 :=
  Int64.ofNat ((digest.take 8).foldl (fun value byte => value * 256 + byte.toNat) 0)

def lockId (sha256 : List UInt8 → List UInt8)
    (customerId key : JavaString) : Int64 :=
  getLong (sha256 (JavaString.utf8Bytes
    (JavaString.ofString "reservation:" ++
      JavaString.ofString (toString customerId.length) ++
      JavaString.ofString ":" ++ customerId ++ JavaString.ofString ":" ++ key)))

end ReservationKeyLock

section

variable (sha256 : List UInt8 → List UInt8)

/-- The locks a statement has to get before it answers. -/
def Statement.needs (view : Database) : Statement → List (Lock × Mode)
  | .acquire customerId key =>
      [(.advisory (ReservationKeyLock.lockId sha256 customerId key),
        .exclusive)]
  | .findProductByIdForUpdate id =>
      if (view.findProduct id).isSome then [(.productRow id, .exclusive)]
      else []
  | .findOwnedForUpdate id customerId =>
      if (view.findByIdAndCustomerId id customerId).isSome then
        [(.reservationRow id, .exclusive)]
      else []
  | .execute (.insertProduct product) =>
      -- A committed duplicate is refused at once, an uncommitted one waited for.
      if view.accepts (.insertProduct product) then
        [(.productsPkey product.id, .exclusive),
          (.productsSku product.sku, .exclusive)]
      else []
  | .execute (.insertReservation reservation) =>
      if view.accepts (.insertReservation reservation) then
        (.reservationsPkey reservation.id, .exclusive) ::
          (reservation.idempotencyKey.toList.map fun key =>
            (.reservationsKey reservation.customerId key, .exclusive))
      else []
  | .execute (.updateProduct product) =>
      if (view.findProduct product.id).isSome then
        [(.productRow product.id, .exclusive)]
      else []
  | .execute (.updateReservation reservation) =>
      if (view.findReservation reservation.id).isSome then
        [(.reservationRow reservation.id, .exclusive)]
      else []
  | .referenceProduct id =>
      if (view.findProduct id).isSome then [(.productRow id, .shared)] else []
  | _ => []

/-- The locks which the statement makes its transaction the owner of. -/
def Statement.takes (view : Database) (statement : Statement) : Set Lock :=
  LockTable.exclusiveOf (statement.needs sha256 view)

/-- The commits of others spare what the locks protect. -/
structure Spares (held : Set Lock) (before after : Database) : Prop where
  productRow : ∀ {id product}, .productRow id ∈ held →
    before.findProduct id = some product →
      after.findProduct id = some product
  reservationRow : ∀ {id reservation}, .reservationRow id ∈ held →
    before.findReservation id = some reservation →
      after.findReservation id = some reservation
  productsPkey : ∀ {id}, .productsPkey id ∈ held →
    before.findProduct id = none → after.findProduct id = none
  productsSku : ∀ {sku}, .productsSku sku ∈ held →
    before.existsBySku sku = false → after.existsBySku sku = false
  reservationsPkey : ∀ {id}, .reservationsPkey id ∈ held →
    before.findReservation id = none → after.findReservation id = none
  keyFree : ∀ {customerId key},
    (.reservationsKey customerId key ∈ held ∨
      .advisory (ReservationKeyLock.lockId sha256 customerId key) ∈ held) →
    before.findByCustomerIdAndIdempotencyKey customerId key = none →
      after.findByCustomerIdAndIdempotencyKey customerId key = none

/-- What the holder of the locks may assume about the commits of others. -/
structure Rely (held : Set Lock) (before after : Database) : Prop
    extends Spares sha256 held before after where
  evolves : before.Evolves after

/-- The locks under which a transaction may send the statement. -/
def Covers (held : Set Lock) : Write → Prop
  | .insertProduct product =>
      .productsPkey product.id ∈ held ∧ .productsSku product.sku ∈ held
  | .insertReservation reservation =>
      .reservationsPkey reservation.id ∈ held ∧
        ∀ key, reservation.idempotencyKey = some key →
          .reservationsKey reservation.customerId key ∈ held ∧
            .advisory (ReservationKeyLock.lockId sha256
              reservation.customerId key) ∈ held
  | .updateProduct product => .productRow product.id ∈ held
  | .updateReservation reservation => .reservationRow reservation.id ∈ held

variable {sha256}

theorem Covers.mono {held more : Set Lock} {write : Write} (hsub : held ⊆ more)
    (hcovers : Covers sha256 held write) : Covers sha256 more write := by
  cases write with
  | insertProduct product => exact ⟨hsub hcovers.1, hsub hcovers.2⟩
  | insertReservation reservation =>
      refine ⟨hsub hcovers.1, fun key hkey => ?_⟩
      obtain ⟨hentry, hadvisory⟩ := hcovers.2 key hkey
      exact ⟨hsub hentry, hsub hadvisory⟩
  | updateProduct product => exact hsub hcovers
  | updateReservation reservation => exact hsub hcovers

namespace Spares

theorem refl (held : Set Lock) (db : Database) : Spares sha256 held db db where
  productRow _ hfind := hfind
  reservationRow _ hfind := hfind
  productsPkey _ hnone := hnone
  productsSku _ hfree := hfree
  reservationsPkey _ hnone := hnone
  keyFree _ hnone := hnone

theorem trans {held : Set Lock} {first second third : Database}
    (hfirst : Spares sha256 held first second)
    (hsecond : Spares sha256 held second third) :
    Spares sha256 held first third where
  productRow hheld hfind :=
    hsecond.productRow hheld (hfirst.productRow hheld hfind)
  reservationRow hheld hfind :=
    hsecond.reservationRow hheld (hfirst.reservationRow hheld hfind)
  productsPkey hheld hnone :=
    hsecond.productsPkey hheld (hfirst.productsPkey hheld hnone)
  productsSku hheld hfree :=
    hsecond.productsSku hheld (hfirst.productsSku hheld hfree)
  reservationsPkey hheld hnone :=
    hsecond.reservationsPkey hheld (hfirst.reservationsPkey hheld hnone)
  keyFree hheld hnone := hsecond.keyFree hheld (hfirst.keyFree hheld hnone)

theorem anti {held more : Set Lock} {first second : Database}
    (hsub : held ⊆ more) (hspares : Spares sha256 more first second) :
    Spares sha256 held first second where
  productRow hheld := hspares.productRow (hsub hheld)
  reservationRow hheld := hspares.reservationRow (hsub hheld)
  productsPkey hheld := hspares.productsPkey (hsub hheld)
  productsSku hheld := hspares.productsSku (hsub hheld)
  reservationsPkey hheld := hspares.reservationsPkey (hsub hheld)
  keyFree hheld := hspares.keyFree (hheld.imp (@hsub _) (@hsub _))

end Spares

namespace Rely

theorem refl (held : Set Lock) (db : Database) : Rely sha256 held db db :=
  ⟨.refl held db, .refl db⟩

theorem trans {held : Set Lock} {first second third : Database}
    (hfirst : Rely sha256 held first second)
    (hsecond : Rely sha256 held second third) :
    Rely sha256 held first third :=
  ⟨hfirst.toSpares.trans hsecond.toSpares, hfirst.evolves.trans hsecond.evolves⟩

theorem anti {held more : Set Lock} {first second : Database}
    (hsub : held ⊆ more) (hrely : Rely sha256 more first second) :
    Rely sha256 held first second :=
  ⟨hrely.toSpares.anti hsub, hrely.evolves⟩

end Rely

/-! ## Own statements, statements of others -/

private theorem or_ite_eq_none {α : Type} {found : Option α} {value : α}
    {condition : Prop} [Decidable condition] :
    found.or (if condition then some value else none) = none ↔
      found = none ∧ ¬ condition := by
  by_cases hcondition : condition <;> simp [hcondition]

private theorem or_ite_eq_some {α : Type} {found : Option α} {value other : α}
    {condition : Prop} [Decidable condition]
    (hor : found.or (if condition then some value else none) = some other) :
    found = some other ∨ (found = none ∧ condition ∧ value = other) := by
  cases found with
  | some first => exact Or.inl hor
  | none =>
      by_cases hcondition : condition
      · exact Or.inr ⟨rfl, hcondition, by simpa [hcondition] using hor⟩
      · simp [hcondition] at hor

private theorem productVersion_of_ne {entity row : Product}
    (hne : row.id ≠ entity.id) : Database.productVersion entity row = row :=
  if_neg hne

private theorem reservationVersion_of_ne {entity row : Reservation}
    (hne : row.id ≠ entity.id) :
    Database.reservationVersion entity row = row :=
  if_neg hne

private theorem restocksTo_versions {entity product later : Product}
    (hstock : product.RestocksTo later) :
    (Database.productVersion entity product).RestocksTo
      (Database.productVersion entity later) := by
  have hid : later.id = product.id := by rw [hstock]
  unfold Database.productVersion
  by_cases heq : product.id = entity.id
  · rw [if_pos heq, if_pos (hid.trans heq)]
    unfold Product.RestocksTo at hstock ⊢
    rw [hstock]
    rfl
  · rw [if_neg heq, if_neg (hid ▸ heq)]
    exact hstock

private theorem movesTo_versions {entity reservation later : Reservation}
    (hmoves : reservation.MovesTo later) :
    (Database.reservationVersion entity reservation).MovesTo
      (Database.reservationVersion entity later) := by
  have hid := hmoves.id_eq
  unfold Database.reservationVersion
  by_cases heq : reservation.id = entity.id
  · rw [if_pos heq, if_pos (hid.trans heq)]
    rcases hmoves with rfl | ⟨-, cancelledAt, rfl⟩ <;> exact .refl _
  · rw [if_neg heq, if_neg (hid ▸ heq)]
    exact hmoves

namespace Spares

open Database

/-- A covered statement of another transaction is one of the changes the
holder of disjoint locks allows for. -/
theorem frame {held others : Set Lock} {db : Database} {write : Write}
    (hcovers : Covers sha256 others write)
    (hdisjoint : ∀ resource ∈ others, resource ∉ held) :
    Spares sha256 held db (db.apply write) := by
  have hnot : ∀ {resource}, resource ∈ others → resource ∉ held :=
    fun hothers => hdisjoint _ hothers
  cases write with
  | insertProduct product =>
      obtain ⟨hpkey, hsku⟩ := hcovers
      constructor
      case productRow =>
        intro id row hheld hfind
        rw [findProduct_insertProduct, hfind]
        rfl
      case reservationRow => exact fun _ hfind => hfind
      case productsPkey =>
        intro id hheld hnone
        rw [findProduct_insertProduct, or_ite_eq_none]
        exact ⟨hnone, fun heq => hnot hpkey (heq ▸ hheld)⟩
      case productsSku =>
        intro sku hheld hfree
        rw [existsBySku_insertProduct, hfree, Bool.false_or,
          decide_eq_false_iff_not]
        exact fun heq => hnot hsku (heq ▸ hheld)
      case reservationsPkey => exact fun _ hnone => hnone
      case keyFree => exact fun _ hnone => hnone
  | insertReservation reservation =>
      obtain ⟨hpkey, hkey⟩ := hcovers
      constructor
      case productRow => exact fun _ hfind => hfind
      case reservationRow =>
        intro id row hheld hfind
        rw [findReservation_insertReservation, hfind]
        rfl
      case productsPkey => exact fun _ hnone => hnone
      case productsSku => exact fun _ hfree => hfree
      case reservationsPkey =>
        intro id hheld hnone
        rw [findReservation_insertReservation, or_ite_eq_none]
        exact ⟨hnone, fun heq => hnot hpkey (heq ▸ hheld)⟩
      case keyFree =>
        intro customerId key hheld hnone
        rw [findByCustomerIdAndIdempotencyKey_insertReservation,
          or_ite_eq_none]
        refine ⟨hnone, ?_⟩
        rintro ⟨rfl, hsome⟩
        obtain ⟨hentry, hadvisory⟩ := hkey key hsome
        exact hheld.elim (hnot hentry) (hnot hadvisory)
  | updateProduct entity =>
      constructor
      case productRow =>
        intro id row hheld hfind
        have hne : row.id ≠ entity.id := by
          rw [findProduct_id hfind]
          exact fun heq => hnot hcovers (heq ▸ hheld)
        rw [findProduct_updateProduct, hfind, Option.map_some,
          productVersion_of_ne hne]
      case reservationRow => exact fun _ hfind => hfind
      case productsPkey =>
        intro id hheld hnone
        rw [findProduct_updateProduct, hnone]
        rfl
      case productsSku =>
        intro sku hheld hfree
        rwa [existsBySku_updateProduct]
      case reservationsPkey => exact fun _ hnone => hnone
      case keyFree => exact fun _ hnone => hnone
  | updateReservation entity =>
      constructor
      case productRow => exact fun _ hfind => hfind
      case reservationRow =>
        intro id row hheld hfind
        have hne : row.id ≠ entity.id := by
          rw [findReservation_id hfind]
          exact fun heq => hnot hcovers (heq ▸ hheld)
        rw [findReservation_updateReservation, hfind, Option.map_some,
          reservationVersion_of_ne hne]
      case productsPkey => exact fun _ hnone => hnone
      case productsSku => exact fun _ hfree => hfree
      case reservationsPkey =>
        intro id hheld hnone
        rw [findReservation_updateReservation, hnone]
        rfl
      case keyFree =>
        intro customerId key hheld hnone
        rw [findByCustomerIdAndIdempotencyKey_updateReservation, hnone]
        rfl

private theorem apply_insertProduct {held : Set Lock}
    {before after : Database} {product : Product}
    (hpkey : .productsPkey product.id ∈ held)
    (hspares : Spares sha256 held before after) :
    Spares sha256 held (before.apply (.insertProduct product))
      (after.apply (.insertProduct product)) := by
  have hnew : ∀ {id}, product.id = id → before.findProduct id = none →
      after.findProduct id = none :=
    fun heq hnone => hspares.productsPkey (heq ▸ hpkey) hnone
  constructor
  case productRow =>
    intro id row hheld hfind
    rw [findProduct_insertProduct] at hfind ⊢
    rcases or_ite_eq_some hfind with hold | ⟨hnone, heq, rfl⟩
    · rw [hspares.productRow hheld hold]
      rfl
    · rw [hnew heq hnone, if_pos heq]
      rfl
  case reservationRow => exact hspares.reservationRow
  case productsPkey =>
    intro id hheld hnone
    rw [findProduct_insertProduct, or_ite_eq_none] at hnone ⊢
    exact ⟨hspares.productsPkey hheld hnone.1, hnone.2⟩
  case productsSku =>
    intro sku hheld hfree
    rw [existsBySku_insertProduct, Bool.or_eq_false_iff] at hfree ⊢
    exact ⟨hspares.productsSku hheld hfree.1, hfree.2⟩
  case reservationsPkey => exact hspares.reservationsPkey
  case keyFree => exact hspares.keyFree

private theorem apply_insertReservation {held : Set Lock}
    {before after : Database} {reservation : Reservation}
    (hpkey : .reservationsPkey reservation.id ∈ held)
    (hspares : Spares sha256 held before after) :
    Spares sha256 held (before.apply (.insertReservation reservation))
      (after.apply (.insertReservation reservation)) := by
  have hnew : ∀ {id}, reservation.id = id →
      before.findReservation id = none →
        after.findReservation id = none :=
    fun heq hnone => hspares.reservationsPkey (heq ▸ hpkey) hnone
  constructor
  case productRow => exact hspares.productRow
  case reservationRow =>
    intro id row hheld hfind
    rw [findReservation_insertReservation] at hfind ⊢
    rcases or_ite_eq_some hfind with hold | ⟨hnone, heq, rfl⟩
    · rw [hspares.reservationRow hheld hold]
      rfl
    · rw [hnew heq hnone, if_pos heq]
      rfl
  case productsPkey => exact hspares.productsPkey
  case productsSku => exact hspares.productsSku
  case reservationsPkey =>
    intro id hheld hnone
    rw [findReservation_insertReservation, or_ite_eq_none] at hnone ⊢
    exact ⟨hspares.reservationsPkey hheld hnone.1, hnone.2⟩
  case keyFree =>
    intro customerId key hheld hnone
    rw [findByCustomerIdAndIdempotencyKey_insertReservation,
      or_ite_eq_none] at hnone ⊢
    exact ⟨hspares.keyFree hheld hnone.1, hnone.2⟩

private theorem apply_updateProduct {held : Set Lock}
    {before after : Database} {entity : Product}
    (hspares : Spares sha256 held before after) :
    Spares sha256 held (before.apply (.updateProduct entity))
      (after.apply (.updateProduct entity)) := by
  constructor
  case productRow =>
    intro id row hheld hfind
    rw [findProduct_updateProduct, Option.map_eq_some_iff] at hfind
    obtain ⟨old, hold, rfl⟩ := hfind
    rw [findProduct_updateProduct, hspares.productRow hheld hold]
    rfl
  case reservationRow => exact hspares.reservationRow
  case productsPkey =>
    intro id hheld hnone
    rw [findProduct_updateProduct, Option.map_eq_none_iff] at hnone ⊢
    exact hspares.productsPkey hheld hnone
  case productsSku =>
    intro sku hheld hfree
    rw [existsBySku_updateProduct] at hfree ⊢
    exact hspares.productsSku hheld hfree
  case reservationsPkey => exact hspares.reservationsPkey
  case keyFree => exact hspares.keyFree

private theorem apply_updateReservation {held : Set Lock}
    {before after : Database} {entity : Reservation}
    (hspares : Spares sha256 held before after) :
    Spares sha256 held (before.apply (.updateReservation entity))
      (after.apply (.updateReservation entity)) := by
  constructor
  case productRow => exact hspares.productRow
  case reservationRow =>
    intro id row hheld hfind
    rw [findReservation_updateReservation,
      Option.map_eq_some_iff] at hfind
    obtain ⟨old, hold, rfl⟩ := hfind
    rw [findReservation_updateReservation,
      hspares.reservationRow hheld hold]
    rfl
  case productsPkey => exact hspares.productsPkey
  case productsSku => exact hspares.productsSku
  case reservationsPkey =>
    intro id hheld hnone
    rw [findReservation_updateReservation,
      Option.map_eq_none_iff] at hnone ⊢
    exact hspares.reservationsPkey hheld hnone
  case keyFree =>
    intro customerId key hheld hnone
    rw [findByCustomerIdAndIdempotencyKey_updateReservation,
      Option.map_eq_none_iff] at hnone ⊢
    exact hspares.keyFree hheld hnone

/-- A covered statement of the holder itself keeps two views related. -/
theorem apply {held : Set Lock} {before after : Database} {write : Write}
    (hcovers : Covers sha256 held write)
    (hspares : Spares sha256 held before after) :
    Spares sha256 held (before.apply write) (after.apply write) := by
  cases write with
  | insertProduct product => exact hspares.apply_insertProduct hcovers.1
  | insertReservation reservation =>
      exact hspares.apply_insertReservation hcovers.1
  | updateProduct entity => exact hspares.apply_updateProduct
  | updateReservation entity => exact hspares.apply_updateReservation

theorem applyAll {held : Set Lock} {before after : Database}
    {writes : List Write}
    (hcovers : ∀ write ∈ writes, Covers sha256 held write)
    (hspares : Spares sha256 held before after) :
    Spares sha256 held (before.applyAll writes) (after.applyAll writes) := by
  induction writes generalizing before after with
  | nil => exact hspares
  | cons write writes ih =>
      exact ih (fun other hother => hcovers other (List.mem_cons_of_mem _ hother))
        (hspares.apply (hcovers write List.mem_cons_self))

theorem frameAll {held others : Set Lock} {db : Database}
    {writes : List Write}
    (hcovers : ∀ write ∈ writes, Covers sha256 others write)
    (hdisjoint : ∀ resource ∈ others, resource ∉ held) :
    Spares sha256 held db (db.applyAll writes) := by
  induction writes generalizing db with
  | nil => exact .refl held db
  | cons write writes ih =>
      exact (frame (hcovers write List.mem_cons_self) hdisjoint).trans
        (ih fun other hother => hcovers other (List.mem_cons_of_mem _ hother))

end Spares

namespace Rely

open Database

/-- A covered statement takes an evolution to an evolution. -/
private theorem evolves_apply {held : Set Lock} {before after : Database}
    {write : Write} (hcovers : Covers sha256 held write)
    (hspares : Spares sha256 held before after)
    (hevolves : before.Evolves after) :
    (before.apply write).Evolves (after.apply write) := by
  cases write with
  | insertProduct product =>
      refine ⟨?_, hevolves.reservation⟩
      intro id row hfind
      rw [findProduct_insertProduct] at hfind ⊢
      rcases or_ite_eq_some hfind with hold | ⟨hnone, heq, rfl⟩
      · obtain ⟨later, hlater, hstock⟩ := hevolves.product hold
        exact ⟨later, by rw [hlater]; rfl, hstock⟩
      · have hnew := hspares.productsPkey (heq ▸ hcovers.1) hnone
        exact ⟨product, by rw [hnew, if_pos heq]; rfl, .refl _⟩
  | insertReservation reservation =>
      refine ⟨hevolves.product, ?_⟩
      intro id row hfind
      rw [findReservation_insertReservation] at hfind ⊢
      rcases or_ite_eq_some hfind with hold | ⟨hnone, heq, rfl⟩
      · obtain ⟨later, hlater, hmoves⟩ := hevolves.reservation hold
        exact ⟨later, by rw [hlater]; rfl, hmoves⟩
      · have hnew := hspares.reservationsPkey (heq ▸ hcovers.1) hnone
        exact ⟨reservation, by rw [hnew, if_pos heq]; rfl, .refl _⟩
  | updateProduct entity =>
      refine ⟨?_, hevolves.reservation⟩
      intro id row hfind
      rw [findProduct_updateProduct, Option.map_eq_some_iff] at hfind
      obtain ⟨old, hold, rfl⟩ := hfind
      obtain ⟨later, hlater, hstock⟩ := hevolves.product hold
      refine ⟨productVersion entity later, ?_, restocksTo_versions hstock⟩
      rw [findProduct_updateProduct, hlater]
      rfl
  | updateReservation entity =>
      refine ⟨hevolves.product, ?_⟩
      intro id row hfind
      rw [findReservation_updateReservation, Option.map_eq_some_iff] at hfind
      obtain ⟨old, hold, rfl⟩ := hfind
      obtain ⟨later, hlater, hmoves⟩ := hevolves.reservation hold
      refine ⟨reservationVersion entity later, ?_, movesTo_versions hmoves⟩
      rw [findReservation_updateReservation, hlater]
      rfl

theorem applyAll {held : Set Lock} {before after : Database}
    {writes : List Write}
    (hcovers : ∀ write ∈ writes, Covers sha256 held write)
    (hrely : Rely sha256 held before after) :
    Rely sha256 held (before.applyAll writes) (after.applyAll writes) := by
  induction writes generalizing before after with
  | nil => exact hrely
  | cons write writes ih =>
      have hfirst := hcovers write List.mem_cons_self
      exact ih (fun other hother => hcovers other (List.mem_cons_of_mem _ hother))
        ⟨hrely.toSpares.apply hfirst,
          evolves_apply hfirst hrely.toSpares hrely.evolves⟩

theorem frameAll {held others : Set Lock} {db : Database}
    {writes : List Write}
    (hcovers : ∀ write ∈ writes, Covers sha256 others write)
    (hdisjoint : ∀ resource ∈ others, resource ∉ held)
    (hlegal : db.LegalAll writes) :
    Rely sha256 held db (db.applyAll writes) :=
  ⟨.frameAll hcovers hdisjoint, hlegal.evolves⟩

end Rely

end

end InventoryCloud
