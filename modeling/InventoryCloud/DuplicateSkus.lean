import InventoryCloud.CallProgress
import InventoryCloud.ProductConstraints

/-!
# Duplicate SKUs

The bean validation of a create-product request and what becomes of the
requests it lets through.  The service reports every integrity error of the
insertion as a duplicate SKU.  An accepted request leaves one other error
open, U+0000 inside the name, which the table cannot hold.
-/

namespace InventoryCloud

open Interaction
open InventoryService
open JavaString

namespace ApiModels

structure CreateProduct where
  sku : Option JavaString
  name : Option JavaString
  initialQuantity : Option Int32
  deriving DecidableEq, Repr

/-- `@NotBlank`: something is left of the text when it is trimmed. -/
def notBlank : Option JavaString → Bool
  | none => false
  | some text => !(trim text).isEmpty

/-- `@Size(max = bound)`; no value is valid. -/
def sizeAtMost (bound : ℕ) (value : Option JavaString) : Bool :=
  value.all fun text => text.length ≤ bound

def CreateProduct.valid (request : CreateProduct) : Bool :=
  notBlank request.sku && sizeAtMost 64 request.sku &&
    request.sku.all skuPattern && notBlank request.name &&
      sizeAtMost 160 request.name &&
        request.initialQuantity.any fun quantity =>
          0 ≤ quantity.toInt && quantity.toInt ≤ 1000000

end ApiModels

open ApiModels

/-- A committed product bears the SKU the request normalizes to. -/
def Database.Taken (db : Database) (sku : Option JavaString) : Prop :=
  ∃ row ∈ db.products, Product.normalizeSku sku = .ok row.sku

def nameRefused : JavaException :=
  .illegalArgument "Product name must contain 1 to 160 characters"

/-! ## Requests that passed the validation -/

theorem ApiModels.CreateProduct.valid_iff {sku name : Option JavaString}
    {initialQuantity : Int32} :
    (CreateProduct.mk sku name (some initialQuantity)).valid = true ↔
      ∃ givenSku givenName, sku = some givenSku ∧ name = some givenName ∧
        ApiModels.skuPattern givenSku = true ∧ trim givenSku ≠ [] ∧
          givenSku.length ≤ 64 ∧ trim givenName ≠ [] ∧
            givenName.length ≤ 160 ∧ 0 ≤ initialQuantity.toInt ∧
              initialQuantity.toInt ≤ 1000000 := by
  cases sku <;> cases name <;>
    simp [CreateProduct.valid, notBlank, sizeAtMost]
  tauto

theorem Product.normalizeSku_of_skuPattern {sku : JavaString}
    (hpattern : ApiModels.skuPattern sku = true) :
    Product.normalizeSku (some sku) = .ok (asciiUpperCase sku) := by
  have hupper : Product.skuPattern (asciiUpperCase sku) = true :=
    (skuPattern_asciiUpperCase sku).trans hpattern
  have hascii : IsAscii sku :=
    isAscii_asciiUpperCase.mp (isAscii_of_skuPattern hupper)
  have htrim : trim sku = sku := by
    apply trim_of_forall
    intro unit hunit
    have hbounds := unit_of_skuPattern hupper
      (List.mem_map_of_mem hunit)
    rw [toNat_toAsciiUpper] at hbounds
    rw [UInt16.le_iff_toNat_le]
    change ¬ unit.toNat ≤ 32
    split at hbounds <;> omega
  have hspelled := spelledOut_of_not_hasLookalike
    (not_hasLookalike_of_isAscii hascii)
  rw [Product.normalizeSku_ok_iff, htrim, hspelled]
  exact ⟨hpattern, rfl⟩

/-- The constructor refuses a valid request only for a name of white space. -/
theorem Product.new_of_valid (fresh : Fresh) {sku name : JavaString}
    {initialQuantity : Int32}
    (hvalid : (CreateProduct.mk (some sku) (some name)
      (some initialQuantity)).valid = true) :
    Product.new fresh (some sku) (some name) initialQuantity =
      if isBlank name then .error nameRefused
      else .ok ⟨fresh.id, asciiUpperCase sku, trim name, initialQuantity,
        fresh.now.truncatedToMicros⟩ := by
  obtain ⟨givenSku, givenName, hsku, hname, hpattern, -, -, -, hlength, hlow,
    hhigh⟩ := ApiModels.CreateProduct.valid_iff.mp hvalid
  cases hsku
  cases hname
  have htrimmed : ¬ 160 < (trim name).length := by
    have hle := (trim_sublist name).length_le
    omega
  have hrange : ¬ (initialQuantity < 0 ∨ maxQuantity < initialQuantity) := by
    have hzero : (0 : Int32).toInt = 0 := by decide
    rw [Int32.lt_iff_toInt_lt, Int32.lt_iff_toInt_lt, hzero, toInt_maxQuantity]
    omega
  unfold Product.new
  rw [Product.normalizeSku_of_skuPattern hpattern]
  by_cases hblank : isBlank name = true
  · simp [Product.requireName, hblank, bind, Except.bind, throw, throwThe,
      MonadExceptOf.throw, nameRefused]
  · simp [Product.requireName, hblank, htrimmed, hrange, bind, Except.bind,
      pure, Except.pure]

/-! ## The end of the call -/

/-- The outcome of the current call once it has ended. -/
def Transaction.ended (transaction : Transaction) :
    Option (Except JavaException Returned) :=
  match transaction.rest with
  | .pure (outcome, _) => some outcome
  | .ask _ _ => none

theorem Transaction.ended_eq_some {transaction : Transaction}
    {outcome : Except JavaException Returned} :
    transaction.ended = some outcome ↔
      ∃ session, transaction.rest = .pure (outcome, session) := by
  rcases hrest : transaction.rest with ⟨other, session⟩ | ⟨statement, next⟩ <;>
    simp [Transaction.ended, hrest]

theorem Database.accepts_unused {db : Database} {product : Product}
    (hunused : db.findProduct product.id = none) :
    db.accepts (.insertProduct product) =
      (product.storable && !db.existsBySku product.sku) := by
  rw [Database.accepts, hunused]
  simp

namespace System

variable {sha256 : List UInt8 → List UInt8} {s s' : System}

/-- The step which ends a call for a valid request, and what it answers. -/
theorem Reachable.createProduct_ends (hreach : Reachable sha256 s)
    {fresh : Fresh} {sku name : JavaString} {initialQuantity : Int32}
    (hvalid : (CreateProduct.mk (some sku) (some name)
      (some initialQuantity)).valid = true)
    (hname : isBlank name = false) {t : ℕ} {transaction after : Transaction}
    (hlive : s.transactions t = some transaction)
    (hfirst : transaction.earlier = [])
    (hcall : transaction.call =
      .createProduct fresh (some sku) (some name) initialQuantity)
    (hstep : s.step sha256 (.exec t) = some s')
    (hafter : s'.transactions t = some after) {result : Result}
    (hended : after.rest = .pure result) :
    ∃ product, Product.new fresh (some sku) (some name) initialQuantity =
        .ok product ∧
      result.1 = if s.db.existsBySku product.sku = true ∨ 0 ∈ trim name then
          .error duplicateSku
        else .ok (.product product) := by
  obtain ⟨product, hnew, hid⟩ : ∃ product, Product.new fresh (some sku)
      (some name) initialQuantity = .ok product ∧ product.id = fresh.id := by
    rw [Product.new_of_valid fresh hvalid, hname]
    exact ⟨_, rfl, rfl⟩
  refine ⟨product, hnew, ?_⟩
  have htrim : trim name ≠ [] := by
    obtain ⟨-, given, -, hgiven, -, -, -, hne, -⟩ :=
      ApiModels.CreateProduct.valid_iff.mp hvalid
    rwa [Option.some.inj hgiven]
  have hunused : s.db.findProduct product.id = none := by
    refine (hreach.unused_of_live hlive product.id ?_).1
    rw [hcall, hid]
    exact List.mem_singleton_self _
  have haccepts : s.db.accepts (.insertProduct product) = true ↔
      ¬ (s.db.existsBySku product.sku = true ∨ 0 ∈ trim name) := by
    rw [Database.accepts_unused hunused,
      Bool.and_eq_true, Product.storable_of_new_iff hnew, and_iff_right htrim,
      Bool.not_eq_true', ← Bool.not_eq_true, not_or, and_comm]
  have hleads := hreach.progress.program hlive
  rw [hcall, createProduct_program, hnew] at hleads
  have hview : transaction.view s.db = s.db := by
    rw [Transaction.view, hfirst]
    rfl
  cases moves_of_step hstep with
  | @exec _ other statement next hother hrest havailable =>
      rw [hlive] at hother
      cases hother
      rw [executed_self hafter, hview] at hended
      change next (statement.answer s.db) = .pure result at hended
      rw [hrest] at hleads
      rcases hleads.of_ask with hcheck | ⟨taken, hlater⟩
      · -- The check before the insertion.
        cases hcheck
        change (if s.db.existsBySku product.sku = true then _ else _) = _
          at hended
        by_cases htaken : s.db.existsBySku product.sku = true
        · rw [if_pos htaken] at hended
          cases hended
          rw [if_pos (Or.inl htaken)]
        · rw [if_neg htaken] at hended
          cases hended
      · cases taken with
        | true => cases hlater.of_pure
        | false =>
            rcases hlater.of_ask with hinsert | ⟨accepted, hdone⟩
            · -- The insertion.
              cases hinsert
              change (if s.db.accepts (.insertProduct product) = true then
                _ else _) = _ at hended
              by_cases hbad : s.db.existsBySku product.sku = true ∨
                  0 ∈ trim name
              · rw [if_neg (haccepts.not.mpr (not_not.mpr hbad))] at hended
                cases hended
                rw [if_pos hbad]
              · rw [if_pos (haccepts.mpr hbad)] at hended
                cases hended
                rw [if_neg hbad]
            · cases accepted <;> cases hdone.of_pure

/-- A name of white space never reaches the tables. -/
theorem Reachable.blank_name_refused (hreach : Reachable sha256 s)
    {fresh : Fresh} {sku name : JavaString} {initialQuantity : Int32}
    (hvalid : (CreateProduct.mk (some sku) (some name)
      (some initialQuantity)).valid = true)
    (hname : isBlank name = true) {t : ℕ} {transaction : Transaction}
    (hlive : s.transactions t = some transaction)
    (hcall : transaction.call =
      .createProduct fresh (some sku) (some name) initialQuantity) :
    transaction.ended = some (.error nameRefused) := by
  have hleads := hreach.progress.program hlive
  rw [hcall, createProduct_program, Product.new_of_valid fresh hvalid, hname]
    at hleads
  exact Transaction.ended_eq_some.mpr ⟨_, hleads.of_pure⟩

/-- Every request the bean validation lets through is refused for a name of
white space, whatever the tables hold; otherwise the call ends with the
conflict exactly if the SKU is committed by then.  Names with U+0000 inside
are left out. -/
theorem Reachable.duplicate_sku_iff_taken (hreach : Reachable sha256 s)
    {sku name : JavaString} {initialQuantity : Int32}
    (hvalid : (CreateProduct.mk (some sku) (some name)
      (some initialQuantity)).valid = true)
    (hstored : 0 ∉ trim name) {fresh : Fresh} {t : ℕ}
    {transaction : Transaction} (hlive : s.transactions t = some transaction)
    (hfirst : transaction.earlier = [])
    (hcall : transaction.call =
      .createProduct fresh (some sku) (some name) initialQuantity) :
    (isBlank name = true →
      transaction.ended = some (.error nameRefused)) ∧
    (isBlank name = false → ∀ s' after outcome,
      s.step sha256 (.exec t) = some s' → s'.transactions t = some after →
        after.ended = some outcome →
          (outcome = .error duplicateSku ↔ s.db.Taken (some sku)) ∧
            (outcome ≠ .error duplicateSku →
              ∃ product, outcome = .ok (.product product))) := by
  refine ⟨fun hname => hreach.blank_name_refused hvalid hname hlive hcall, ?_⟩
  intro hname s' after outcome hstep hafter hended
  obtain ⟨session, hended⟩ := Transaction.ended_eq_some.mp hended
  obtain ⟨product, hnew, hresult⟩ := hreach.createProduct_ends hvalid hname
    hlive hfirst hcall hstep hafter hended
  have htaken : s.db.existsBySku product.sku = true ↔
      s.db.Taken (some sku) := by
    obtain ⟨-, normalized, given, hsku, -, rfl⟩ := Product.new_ok hnew
    rw [Database.Taken, hsku]
    simp only [Database.existsBySku, List.any_eq_true, decide_eq_true_eq,
      Except.ok.injEq]
    simp only [eq_comm]
  change outcome = _ at hresult
  simp only [hstored, or_false] at hresult
  rw [← htaken, hresult]
  by_cases hpresent : s.db.existsBySku product.sku = true
  · simp [hpresent]
  · simp [hpresent]

/-- Two instances create a product with the same SKU.  The second has passed
the check when the first commits. -/
def racingProducts : List Action :=
  [.begin 0 0 (.createProduct ⟨1, ⟨1000⟩⟩ (some [0x61]) (some [0x42]) 5),
    .begin 1 1 (.createProduct ⟨2, ⟨1000⟩⟩ (some [0x41]) (some [0x43]) 5),
    .exec 0, .exec 1, .exec 0, .commit 0 true]

theorem duplicate_sku_iff_taken_sample :
    ∃ s s' : System, initial.run (fun _ => []) racingProducts = some s ∧
      s.step (fun _ => []) (.exec 1) = some s' ∧
        (s'.transactions 1).bind Transaction.ended =
          some (.error duplicateSku) ∧ s.db.Taken (some [0x41]) := by
  have hbefore : (initial.run (fun _ => []) racingProducts).bind (fun s =>
      (s.transactions 1).map fun transaction =>
        (transaction.call, transaction.earlier)) =
      some (.createProduct ⟨2, ⟨1000⟩⟩ (some [0x41]) (some [0x43]) 5, []) := rfl
  have hafter : (initial.run (fun _ => []) racingProducts).bind (fun s =>
      (s.step (fun _ => []) (.exec 1)).bind fun s' =>
        (s'.transactions 1).bind Transaction.ended) =
      some (.error duplicateSku) := rfl
  obtain ⟨s, hrun, hlive⟩ := Option.bind_eq_some_iff.mp hbefore
  obtain ⟨transaction, hlive, hpair⟩ := Option.map_eq_some_iff.mp hlive
  rw [Prod.mk.injEq] at hpair
  rw [hrun, Option.bind_some] at hafter
  obtain ⟨s', hstep, hended⟩ := Option.bind_eq_some_iff.mp hafter
  obtain ⟨after, hafter, houtcome⟩ := Option.bind_eq_some_iff.mp hended
  have hreach : Reachable (fun _ => []) s := ⟨racingProducts, hrun⟩
  obtain ⟨-, hend⟩ := hreach.duplicate_sku_iff_taken (by decide +kernel)
    (by decide +kernel) hlive hpair.2 hpair.1
  obtain ⟨htaken, -⟩ := hend (by decide) s' after _ hstep hafter houtcome
  exact ⟨s, s', hrun, hstep, hended, htaken.mp rfl⟩

/-- A name with U+0000 inside is reported as a duplicate on empty tables, and
a name of one em space is refused although the SKU is taken. -/
theorem duplicate_sku_not_exact :
    ((CreateProduct.mk (some [0x41]) (some [0x41, 0, 0x42]) (some 5)).valid =
        true ∧
      ((Call.createProduct ⟨1, ⟨0⟩⟩ (some [0x41]) (some [0x41, 0, 0x42])
        5).resultOn .empty).1 = .error duplicateSku ∧
      ¬ Database.empty.Taken (some [0x41])) ∧
    ((CreateProduct.mk (some [0x41]) (some [0x2003]) (some 5)).valid = true ∧
      ((Call.createProduct ⟨1, ⟨0⟩⟩ (some [0x41]) (some [0x2003]) 5).resultOn
        ⟨[⟨2, [0x41], [0x42], 5, ⟨0⟩⟩], []⟩).1 = .error nameRefused ∧
      Database.Taken ⟨[⟨2, [0x41], [0x42], 5, ⟨0⟩⟩], []⟩ (some [0x41])) := by
  have hnormalize : Product.normalizeSku (some [0x41]) = .ok [0x41] := by
    decide +kernel
  refine ⟨⟨by decide +kernel, by decide +kernel, ?_⟩, by decide +kernel,
    by decide +kernel, ?_⟩
  · rintro ⟨row, hrow, -⟩
    cases hrow
  · exact ⟨_, List.mem_singleton_self _, hnormalize⟩

end System

end InventoryCloud
