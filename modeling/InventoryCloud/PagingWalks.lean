import InventoryCloud.CustomerIsolation
import InventoryCloud.SortedWindows

/-!
# Walks through the pages of a listing

A client asks for one page after another until it has seen as many as the
last answer reports.  Each page is computed on the tables of its own moment.
Rows are never removed and keep their sort keys and owners, so the window
moves over every row that was there at the first request.
-/

namespace InventoryCloud

/-- A listing endpoint: its query, the rows it shows and what they are sorted
by. -/
structure Listing (Row : Type) where
  page : Database → PageRequest → Page Row
  rows : Database → List Row
  createdAt : Row → Instant
  id : Row → UUID

namespace Listing

def products : Listing Product where
  page db request := db.findAll request
  rows db := db.products
  createdAt := (·.createdAt)
  id := (·.id)

def reservationsOf (customer : JavaString) : Listing Reservation where
  page db request := db.findAllByCustomerId customer request
  rows db := db.reservations.filter (·.customerId = customer)
  createdAt := (·.createdAt)
  id := (·.id)

variable {Row : Type}

/-- The sort key: the newest first, rows of one moment by their ids. -/
def key (listing : Listing Row) (row : Row) : ℤᵒᵈ ×ₗ ℕ :=
  toLex (OrderDual.toDual (listing.createdAt row).epochNanos,
    (listing.id row).toNat)

/-- The query is a page of the sorted rows, and what the service does to
these. -/
structure Steady (listing : Listing Row) : Prop where
  page_eq : ∀ db request, listing.page db request =
    Page.of (listing.rows db) listing.createdAt listing.id request
  distinct : ∀ {db : Database}, db.WellFormed →
    ((listing.rows db).map listing.id).Nodup
  kept : ∀ {before after : Database}, before.WellFormed →
    before.Evolves after → ∀ row ∈ listing.rows before,
      ∃ later ∈ listing.rows after, listing.id later = listing.id row ∧
        listing.createdAt later = listing.createdAt row

theorem products_steady : products.Steady where
  page_eq _ _ := rfl
  distinct hwell := hwell.productIds
  kept hwell hevolves row hmem := by
    obtain ⟨later, hfind, hrestocks⟩ :=
      hevolves.product (hwell.findProduct_of_mem hmem)
    refine ⟨later, Database.findProduct_mem hfind,
      Database.findProduct_id hfind, ?_⟩
    rw [hrestocks]
    rfl

theorem reservationsOf_steady (customer : JavaString) :
    (reservationsOf customer).Steady where
  page_eq _ _ := rfl
  distinct hwell :=
    hwell.reservationIds.sublist (List.filter_sublist.map _)
  kept hwell hevolves row hmem := by
    obtain ⟨hmem, howner⟩ := List.mem_filter.mp hmem
    obtain ⟨later, hfind, hmoves⟩ :=
      hevolves.reservation (hwell.findReservation_of_mem hmem)
    have hlater := Database.findReservation_mem hfind
    rcases hmoves with rfl | ⟨-, cancelledAt, rfl⟩
    · exact ⟨_, List.mem_filter.mpr ⟨hlater, howner⟩, rfl, rfl⟩
    · exact ⟨_, List.mem_filter.mpr ⟨hlater, howner⟩, rfl, rfl⟩

/-! ## Sorted keys -/

variable {listing : Listing Row} {db : Database}

theorem newestFirst_iff {first second : Row} :
    newestFirst listing.createdAt listing.id first second = true ↔
      listing.key first ≤ listing.key second := by
  simp only [newestFirst, key, Prod.Lex.toLex_le_toLex, Bool.or_eq_true,
    decide_eq_true_eq, Bool.and_eq_true, beq_iff_eq, OrderDual.toDual_lt_toDual,
    OrderDual.toDual_inj, BitVec.le_def]

theorem id_of_key {first second : Row}
    (hkey : listing.key first = listing.key second) :
    listing.id first = listing.id second := by
  have hpair := congrArg (fun key => (ofLex key).2) hkey
  exact BitVec.eq_of_toNat_eq hpair

theorem key_of_id {first second : Row}
    (hid : listing.id first = listing.id second)
    (hcreated : listing.createdAt first = listing.createdAt second) :
    listing.key first = listing.key second := by
  rw [key, key, hid, hcreated]

/-- The sort keys of the rows in the order of the listing. -/
def keys (listing : Listing Row) (db : Database) : List (ℤᵒᵈ ×ₗ ℕ) :=
  ((listing.rows db).mergeSort
    (newestFirst listing.createdAt listing.id)).map listing.key

theorem mem_keys {sortKey : ℤᵒᵈ ×ₗ ℕ} :
    sortKey ∈ listing.keys db ↔
      ∃ row ∈ listing.rows db, listing.key row = sortKey := by
  simp only [keys, List.mem_map, List.mem_mergeSort]

theorem length_keys (listing : Listing Row) (db : Database) :
    (listing.keys db).length = (listing.rows db).length := by
  rw [keys, List.length_map, List.length_mergeSort]

theorem keys_sorted (hsteady : listing.Steady) (hwell : db.WellFormed) :
    (listing.keys db).Pairwise (· < ·) := by
  have hsorted : (listing.keys db).Pairwise (· ≤ ·) := by
    rw [keys, List.pairwise_map]
    have hnewest := List.pairwise_mergeSort
      (@newestFirst_trans _ listing.createdAt listing.id)
      newestFirst_total (listing.rows db)
    exact hnewest.imp newestFirst_iff.mp
  have hnodup : (listing.keys db).Nodup := by
    have hids : (((listing.rows db).mergeSort
        (newestFirst listing.createdAt listing.id)).map listing.id).Nodup :=
      ((List.mergeSort_perm _ _).map _).nodup_iff.mpr (hsteady.distinct hwell)
    rw [keys, List.nodup_map_iff_inj_on hids.of_map]
    intro first hfirst second hsecond hkey
    exact List.inj_on_of_nodup_map hids hfirst hsecond (id_of_key hkey)
  exact (hsorted.and hnodup).imp fun hboth => lt_of_le_of_ne hboth.1 hboth.2

/-- The keys of a page are a window of the sorted keys. -/
theorem map_key_page (hsteady : listing.Steady) (db : Database)
    (request : PageRequest) :
    (listing.page db request).content.map listing.key =
      Windows.window (listing.keys db) request.size request.page := by
  simp only [hsteady.page_eq, Page.of, Windows.window, keys, List.map_take,
    List.map_drop]

theorem keys_subset (hsteady : listing.Steady) {after : Database}
    (hwell : db.WellFormed) (hevolves : db.Evolves after) :
    listing.keys db ⊆ listing.keys after := by
  intro sortKey hmem
  obtain ⟨row, hrow, rfl⟩ := mem_keys.mp hmem
  obtain ⟨later, hlater, hid, hcreated⟩ :=
    hsteady.kept hwell hevolves row hrow
  exact mem_keys.mpr ⟨later, hlater, key_of_id hid hcreated⟩

end Listing

/-! ## The endpoints that show a page -/

section

open InventoryController

variable {customer : JavaString} {page size : Int32} {request : PageRequest}

/-- A request that passes the guard is for the page and size it names. -/
theorem page_of_pagination (hpasses : pagination page size = .ok request) :
    request.page = page.toInt.toNat ∧ request.size = size.toInt.toNat := by
  unfold pagination at hpasses
  split at hpasses
  next => cases hpasses
  next =>
    cases hpasses
    exact ⟨rfl, rfl⟩

/-- The response to a listing request is the page of the listing. -/
theorem handle_listProducts (db : Database)
    (hpasses : pagination page size = .ok request) :
    handle customer (.listProducts page size) db =
      (ok (.products (.ofPage .ofProduct (Listing.products.page db request))),
        db) := by
  simp only [handle, Request.call, hpasses, Except.map]
  rfl

theorem handle_listReservations (db : Database)
    (hcustomer : Reservation.validateCustomerId (some customer) = .ok customer)
    (hpasses : pagination page size = .ok request) :
    handle customer (.listReservations page size) db =
      (ok (.reservations (.ofPage .ofReservation
        ((Listing.reservationsOf customer).page db request))), db) := by
  simp only [handle, Request.call, hpasses, Except.map, Call.after,
    Call.resultOn, InventoryService.listReservations_program, hcustomer]
  rfl

end

theorem Page.length_le_of_totalPages {α : Type} {rows : List α}
    {createdAt : α → Instant} {id : α → UUID} {request : PageRequest}
    {count : ℕ}
    (hpages : (Page.of rows createdAt id request).totalPages ≤ count) :
    rows.length ≤ count * request.size := by
  have hpos := request.size_pos
  change (rows.length + request.size - 1) / request.size ≤ count at hpages
  have hlt := (Nat.div_lt_iff_lt_mul hpos).mp (Nat.lt_succ_of_le hpages)
  rw [Nat.succ_mul] at hlt
  omega

/-- The requests of one client for the pages 0, 1, 2, ... of a listing, each
answered on the tables of a later state.  Every request has passed the
pagination guard, and the last is the first whose answer reports no more. -/
structure Walk (sha256 : List UInt8 → List UInt8) {Row : Type}
    (listing : Listing Row) where
  size : ℕ
  last : ℕ
  requests : ℕ → PageRequest
  states : ℕ → System
  asks : ∀ i ≤ last, (requests i).page = i ∧ (requests i).size = size
  starts : System.Reachable sha256 (states 0)
  later : ∀ i < last, ∃ actions,
    (states i).run sha256 actions = some (states (i + 1))
  continues : ∀ i < last,
    i + 1 < (listing.page (states i).db (requests i)).totalPages
  stops : (listing.page (states last).db (requests last)).totalPages ≤
    last + 1

namespace Walk

variable {sha256 : List UInt8 → List UInt8} {Row : Type}
  {listing : Listing Row}

def page (walk : Walk sha256 listing) (i : ℕ) : Page Row :=
  listing.page (walk.states i).db (walk.requests i)

/-- The rows of the listing when page `i` was computed. -/
def rows (walk : Walk sha256 listing) (i : ℕ) : List Row :=
  listing.rows (walk.states i).db

/-- All pages of the walk, one after another. -/
def shown (walk : Walk sha256 listing) : List Row :=
  (List.range (walk.last + 1)).flatMap fun i => (walk.page i).content

/-- Every row of the last snapshot was there at the first request. -/
def NothingCreated (walk : Walk sha256 listing) : Prop :=
  ∀ row ∈ walk.rows walk.last, ∃ old ∈ walk.rows 0,
    listing.id old = listing.id row

/-- The walk shows every row of the first snapshot.  When nothing was created
meanwhile it shows each exactly once, in the order of the listing. -/
structure Complete (walk : Walk sha256 listing) : Prop where
  covers : ∀ row ∈ walk.rows 0, ∃ i ≤ walk.last,
    ∃ shown ∈ (walk.page i).content, listing.id shown = listing.id row
  once : walk.NothingCreated → ∀ row ∈ walk.rows 0,
    (walk.shown.map listing.id).count (listing.id row) = 1
  ordered : walk.NothingCreated → walk.shown.Pairwise fun first second =>
    newestFirst listing.createdAt listing.id first second = true

variable {walk : Walk sha256 listing}

theorem reachable {i : ℕ} (hi : i ≤ walk.last) :
    System.Reachable sha256 (walk.states i) := by
  induction i with
  | zero => exact walk.starts
  | succ i ih =>
      obtain ⟨actions, hrun⟩ := walk.later i hi
      exact (ih (by omega)).run hrun

theorem wellFormed {i : ℕ} (hi : i ≤ walk.last) :
    (walk.states i).db.WellFormed :=
  (walk.reachable hi).invariant.wellFormed

theorem evolves {i j : ℕ} (hij : i ≤ j) (hj : j ≤ walk.last) :
    (walk.states i).db.Evolves (walk.states j).db := by
  induction j, hij using Nat.le_induction with
  | base => exact .refl _
  | succ j hij ih =>
      obtain ⟨actions, hrun⟩ := walk.later j hj
      exact (ih (by omega)).trans
        ((walk.reachable (by omega)).evolves hrun)

theorem map_key_page (hsteady : listing.Steady) {i : ℕ} (hi : i ≤ walk.last) :
    (walk.page i).content.map listing.key =
      Windows.window (listing.keys (walk.states i).db) walk.size i := by
  obtain ⟨hpage, hsize⟩ := walk.asks i hi
  rw [page, Listing.map_key_page hsteady, hpage, hsize]

theorem length_last (hsteady : listing.Steady) (walk : Walk sha256 listing) :
    (listing.keys (walk.states walk.last).db).length ≤
      (walk.last + 1) * walk.size := by
  have hstops := walk.stops
  rw [hsteady.page_eq] at hstops
  rw [Listing.length_keys, ← (walk.asks walk.last le_rfl).2]
  exact Page.length_le_of_totalPages hstops

theorem covers (hsteady : listing.Steady) {row : Row}
    (hrow : row ∈ walk.rows 0) : ∃ i ≤ walk.last,
      ∃ shown ∈ (walk.page i).content, listing.id shown = listing.id row := by
  obtain ⟨i, hi, hwindow⟩ := Windows.exists_mem_window
    (fun i hi => Listing.keys_sorted hsteady (walk.wellFormed hi))
    (fun i hi => Listing.keys_subset hsteady (walk.wellFormed hi.le)
      (walk.evolves (Nat.le_succ i) hi))
    (walk.length_last hsteady) (Listing.mem_keys.mpr ⟨row, hrow, rfl⟩)
  rw [← walk.map_key_page hsteady hi] at hwindow
  obtain ⟨shown, hshown, hkey⟩ := List.mem_map.mp hwindow
  exact ⟨i, hi, shown, hshown, Listing.id_of_key hkey⟩

/-- While nothing is created all snapshots have the same sort keys. -/
theorem keys_eq (hsteady : listing.Steady) (hnothing : walk.NothingCreated)
    {i : ℕ} (hi : i ≤ walk.last) :
    listing.keys (walk.states i).db = listing.keys (walk.states 0).db := by
  have hfirst := walk.wellFormed (Nat.zero_le _)
  have hlast := walk.wellFormed le_rfl
  have hback : listing.keys (walk.states walk.last).db ⊆
      listing.keys (walk.states 0).db := by
    intro sortKey hmem
    obtain ⟨row, hrow, rfl⟩ := Listing.mem_keys.mp hmem
    obtain ⟨old, hold, hid⟩ := hnothing row hrow
    obtain ⟨later, hlater, hlaterId, hcreated⟩ := hsteady.kept hfirst
      (walk.evolves (Nat.zero_le _) le_rfl) old hold
    have hsame : later = row := List.inj_on_of_nodup_map
      (hsteady.distinct hlast) hlater hrow (hlaterId.trans hid)
    subst hsame
    exact Listing.mem_keys.mpr
      ⟨old, hold, Listing.key_of_id hid hcreated.symm⟩
  refine Windows.eq_of_subset_of_subset
    (Listing.keys_sorted hsteady (walk.wellFormed hi))
    (Listing.keys_sorted hsteady hfirst) ?_ ?_
  · exact List.Subset.trans (Listing.keys_subset hsteady (walk.wellFormed hi)
      (walk.evolves hi le_rfl)) hback
  · exact Listing.keys_subset hsteady hfirst
      (walk.evolves (Nat.zero_le _) hi)

theorem map_key_shown (hsteady : listing.Steady)
    (hnothing : walk.NothingCreated) :
    walk.shown.map listing.key = listing.keys (walk.states 0).db := by
  have hpages : ∀ i ∈ List.range (walk.last + 1),
      (walk.page i).content.map listing.key =
        Windows.window (listing.keys (walk.states 0).db) walk.size i := by
    intro i hi
    have hle : i ≤ walk.last := Nat.lt_succ_iff.mp (List.mem_range.mp hi)
    rw [walk.map_key_page hsteady hle, walk.keys_eq hsteady hnothing hle]
  have hlength := walk.length_last hsteady
  rw [walk.keys_eq hsteady hnothing le_rfl] at hlength
  rw [shown, List.map_flatMap, List.flatMap_congr hpages,
    Windows.flatMap_window, List.take_of_length_le hlength]

/-- The ids that are shown while nothing is created. -/
theorem map_id_shown (hsteady : listing.Steady)
    (hnothing : walk.NothingCreated) :
    walk.shown.map listing.id =
      ((walk.rows 0).mergeSort
        (newestFirst listing.createdAt listing.id)).map listing.id := by
  have hid : ∀ row : Row,
      BitVec.ofNat 128 (ofLex (listing.key row)).2 = listing.id row := by
    intro row
    simp [Listing.key]
  have hkeys := congrArg
    (List.map fun sortKey => BitVec.ofNat 128 (ofLex sortKey).2)
    (walk.map_key_shown hsteady hnothing)
  rw [Listing.keys, List.map_map, List.map_map] at hkeys
  simp only [Function.comp_def, hid] at hkeys
  exact hkeys

theorem complete (hsteady : listing.Steady) (walk : Walk sha256 listing) :
    walk.Complete where
  covers row hrow := walk.covers hsteady hrow
  once hnothing row hrow := by
    have hperm := (List.mergeSort_perm (walk.rows 0)
      (newestFirst listing.createdAt listing.id)).map listing.id
    rw [walk.map_id_shown hsteady hnothing, hperm.count_eq]
    exact List.count_eq_one_of_mem
      (hsteady.distinct (walk.wellFormed (Nat.zero_le _)))
      (List.mem_map_of_mem hrow)
  ordered hnothing := by
    have hsorted := Listing.keys_sorted hsteady
      (walk.wellFormed (Nat.zero_le _))
    rw [← walk.map_key_shown hsteady hnothing, List.pairwise_map] at hsorted
    exact hsorted.imp fun hlt => Listing.newestFirst_iff.mpr hlt.le

end Walk

/-- No walk through the products, or through the reservations of a customer,
skips a row. -/
theorem paging_never_skips (sha256 : List UInt8 → List UInt8) :
    (∀ walk : Walk sha256 Listing.products, walk.Complete) ∧
      ∀ (customer : JavaString)
        (walk : Walk sha256 (Listing.reservationsOf customer)),
        walk.Complete :=
  ⟨Walk.complete Listing.products_steady,
    fun customer => Walk.complete (Listing.reservationsOf_steady customer)⟩

/-- Creating a product in a transaction of its own. -/
def creating (t : ℕ) (fresh : Fresh) (sku : UInt16) : List Action :=
  [.begin t 0 (.createProduct fresh (some [sku]) (some [0x41]) 5),
    .exec t, .exec t, .commit t true]

def sampleRequest (i : ℕ) : PageRequest where
  page := min i 2
  size := 1
  size_pos := le_rfl
  size_le := by omega
  offset_fits := by omega

/-- A product is created between the two that are there at the first request,
after the newer of them was shown. -/
theorem paging_never_skips_sample :
    ∃ walk : Walk (fun _ => []) Listing.products, walk.last = 2 ∧
      ∃ i ≤ 2, ∃ shown ∈ (walk.page i).content, shown.id = 1 := by
  have hfirst : (System.initial.run (fun _ => [])
      (creating 0 ⟨1, ⟨1000⟩⟩ 0x41 ++ creating 1 ⟨2, ⟨3000⟩⟩ 0x42)).map
        (·.db) = some ⟨[⟨1, [0x41], [0x41], 5, ⟨1000⟩⟩,
          ⟨2, [0x42], [0x41], 5, ⟨3000⟩⟩], []⟩ := by
    decide +kernel
  have hsecond : ((System.initial.run (fun _ => [])
      (creating 0 ⟨1, ⟨1000⟩⟩ 0x41 ++ creating 1 ⟨2, ⟨3000⟩⟩ 0x42)).bind
        fun s => s.run (fun _ => []) (creating 2 ⟨3, ⟨2000⟩⟩ 0x43)).map
          (·.db) = some ⟨[⟨1, [0x41], [0x41], 5, ⟨1000⟩⟩,
            ⟨2, [0x42], [0x41], 5, ⟨3000⟩⟩,
            ⟨3, [0x43], [0x41], 5, ⟨2000⟩⟩], []⟩ := by
    decide +kernel
  obtain ⟨first, hrun, hrows⟩ := Option.map_eq_some_iff.mp hfirst
  rw [hrun, Option.bind_some] at hsecond
  obtain ⟨second, hmore, hlater⟩ := Option.map_eq_some_iff.mp hsecond
  let walk : Walk (fun _ => []) Listing.products :=
    { size := 1
      last := 2
      requests := sampleRequest
      states := fun i => if i = 0 then first else second
      asks := by
        intro i hi
        exact ⟨min_eq_left hi, rfl⟩
      starts := ⟨_, hrun⟩
      later := by
        intro i hi
        interval_cases i
        · exact ⟨_, hmore⟩
        · exact ⟨[], rfl⟩
      continues := by
        intro i hi
        interval_cases i
        · simp only [if_true, hrows]
          decide
        · simp only [one_ne_zero, if_false, hlater]
          decide
      stops := by
        simp only [OfNat.ofNat_ne_zero, if_false, hlater]
        decide }
  have hcomplete : walk.Complete := (paging_never_skips fun _ => []).1 walk
  have hrow : (⟨1, [0x41], [0x41], 5, ⟨1000⟩⟩ : Product) ∈ walk.rows 0 := by
    change _ ∈ first.db.products
    rw [hrows]
    exact List.mem_cons_self
  exact ⟨walk, rfl, hcomplete.covers _ hrow⟩

end InventoryCloud
