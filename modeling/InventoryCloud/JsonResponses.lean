import InventoryCloud.ReplicaDrill

/-!
# Responses in JSON

The body of a response as a client of the API reads it.  Instants, the texts
of customers and products and the other members of a problem are written by
the web library.
-/

namespace InventoryCloud

/-! ### Identities -/

namespace UUID

def digit (id : UUID) (place : ℕ) : ℕ := id.toNat / 16 ^ place % 16

/-- Where `UUID.toString` puts a hyphen. -/
def hyphens : List ℕ := [8, 13, 18, 23]

/-- The place of the digit at a position of the text. -/
def place (position : ℕ) : ℕ :=
  35 - position - (hyphens.filter (position < ·)).length

def character (id : UUID) (position : ℕ) : Char :=
  if position ∈ hyphens then '-' else Nat.digitChar (id.digit (place position))

/-- `UUID.toString` -/
def text (id : UUID) : String :=
  String.ofList ((List.range 36).map id.character)

example : text 0xdeadbeef = "00000000-0000-0000-0000-0000deadbeef" := by
  decide +kernel

theorem digitChar_inj : ∀ first < 16, ∀ second < 16,
    Nat.digitChar first = Nat.digitChar second → first = second := by
  decide

theorem position_of_place : ∀ digit < 32, ∃ position < 36,
    position ∉ hyphens ∧ place position = digit := by
  decide

/-- A number is determined by its digits. -/
theorem mod_eq_of_digits {first second : UUID} (count : ℕ)
    (hdigits : ∀ place < count, first.digit place = second.digit place) :
    first.toNat % 16 ^ count = second.toNat % 16 ^ count := by
  induction count with
  | zero => simp [Nat.mod_one]
  | succ count ih =>
      have hlast := hdigits count (by omega)
      rw [digit, digit] at hlast
      rw [Nat.mod_pow_succ, Nat.mod_pow_succ, hlast,
        ih fun place hplace => hdigits place (by omega)]

theorem text_injective : Function.Injective text := by
  intro first second hsame
  have hcharacters : ∀ position ∈ List.range 36,
      first.character position = second.character position :=
    List.map_inj_left.mp (String.ofList_injective hsame)
  have hdigits : ∀ place < 32, first.digit place = second.digit place := by
    intro place hplace
    obtain ⟨position, hposition, hnot, rfl⟩ := position_of_place place hplace
    have hcharacter := hcharacters position (List.mem_range.mpr hposition)
    rw [character, character, if_neg hnot, if_neg hnot] at hcharacter
    exact digitChar_inj _ (Nat.mod_lt _ (by omega)) _
      (Nat.mod_lt _ (by omega)) hcharacter
  have hmod := mod_eq_of_digits 32 hdigits
  rw [Nat.mod_eq_of_lt (by simpa using first.isLt),
    Nat.mod_eq_of_lt (by simpa using second.isLt)] at hmod
  exact BitVec.eq_of_toNat_eq hmod

theorem text_ne_empty (id : UUID) : id.text ≠ "" := by
  intro hempty
  have hlength := congrArg (fun text => text.toList.length) hempty
  simp [text] at hlength

end UUID

/-! ### Bodies -/

/-- What the web library writes. -/
structure JsonTexts where
  text : JavaString → String
  instant : Instant → String
  /-- The other members of the problem in the answer to a request. -/
  problem : ℕ → JsonValue.Members

namespace JsonTexts

open JsonValue ReplicaDrill

variable (texts : JsonTexts)

def status : ReservationStatus → String
  | .active => "ACTIVE"
  | .cancelled => "CANCELLED"

def product (response : ProductResponse) : JsonValue :=
  .object [("id", .string (UUID.text response.id)),
    ("sku", .string (texts.text response.sku)),
    ("name", .string (texts.text response.name)),
    ("availableQuantity", .integer response.availableQuantity.toInt),
    ("createdAt", .string (texts.instant response.createdAt))]

def reservation (response : ReservationResponse) : JsonValue :=
  .object [("id", .string (UUID.text response.id)),
    ("productId", .string (UUID.text response.productId)),
    ("quantity", .integer response.quantity.toInt),
    ("customerId", .string (texts.text response.customerId)),
    ("status", .string (status response.status)),
    ("createdAt", .string (texts.instant response.createdAt)),
    ("cancelledAt", (response.cancelledAt.map fun instant =>
      JsonValue.string (texts.instant instant)).getD .null)]

def page {α : Type} (item : α → JsonValue) (response : PageResponse α) :
    JsonValue :=
  .object [("items", .array (response.items.map item)),
    ("page", .integer response.page), ("size", .integer response.size),
    ("totalElements", .integer response.totalElements),
    ("totalPages", .integer response.totalPages)]

/-- The body of the answer to the request with an index. -/
def body (index : ℕ) : ResponseBody → JsonValue
  | .product response => texts.product response
  | .products response => page texts.product response
  | .reservation response => texts.reservation response
  | .reservations response => page texts.reservation response
  | .problem detail =>
      .object (texts.problem index ++ [("detail", .string detail)])

theorem equal_reservation (response : ReservationResponse) :
    Python.equal (texts.reservation response) (texts.reservation response) =
      true := by
  apply Python.equal_object_self
  cases hcancelled : response.cancelledAt <;> simp

theorem equal_product (response : ProductResponse) :
    Python.equal (texts.product response) (texts.product response) = true := by
  apply Python.equal_object_self
  simp

theorem hasIdentity_reservation (response : ReservationResponse) :
    hasIdentity (texts.reservation response) = true := by
  simp [hasIdentity, reservation, lookup_cons, Python.truthy,
    UUID.text_ne_empty]

theorem hasDetail_problem (index : ℕ) (detail : String) :
    hasDetail detail (texts.body index (.problem detail)) = true := by
  simp [hasDetail, body, Python.lookup_append, lookup_cons]

/-- Both replicas show the product with the quantity of its row. -/
theorem verifyStock_product (response : ProductResponse) :
    verifyStock (texts.product response) (texts.product response)
      response.availableQuantity.toInt = .ok ⟨⟩ := by
  have hstock : (Python.subscript "availableQuantity"
      (texts.product response) : Except Failure JsonValue) =
        .ok (.integer response.availableQuantity.toInt) := rfl
  simp [verifyStock, texts.equal_product, hstock, Outcome.ok_bind,
    require_true, pure, Except.pure]

end JsonTexts

end InventoryCloud
