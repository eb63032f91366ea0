import InventoryCloud.CallRefusals

/-!
# Contention for the stock of one product

While reservations compete for a product, and nothing else moves its stock,
every unit that is there is sold and none is sold twice: what is left is the
stock without the committed quantities, and nobody is refused a quantity that
is still there in the end.  Everything else may go on beside them: other
products are created, restocked and reserved, and their reservations cancelled.
-/

namespace InventoryCloud

/-- A reservation that the checks of the request let through, under an id at
which the product may be booked. -/
def Call.Asks (productId : UUID) (booked : Set UUID) (quantity : Int32) :
    Call → Prop
  | .reserve fresh product asked customerId idempotencyKey =>
      product = productId ∧ asked = quantity ∧ idempotencyKey = none ∧
        fresh.id ∈ booked ∧
        ∃ customer, Reservation.validateCustomerId customerId = .ok customer ∧
          0 ∉ customer
  | _ => False

/-- The call does not touch the stock of the product, which is booked at
these ids only. -/
def Call.LeavesStock (productId : UUID) (booked : Set UUID) : Call → Prop
  | .addStock id _ => id ≠ productId
  | .reserve _ product _ _ _ => product ≠ productId
  | .cancelReservation _ id _ => id ∉ booked
  | _ => True

/-- The active reservations of the product are at these ids. -/
def Database.BookedAt (db : Database) (productId : UUID)
    (booked : Set UUID) : Prop :=
  ∀ reservation ∈ db.reservations, reservation.productId = productId →
    reservation.status = .active → reservation.id ∈ booked

section

variable {db : Database} {productId : UUID} {booked : Set UUID}
  {quantity : Int32} {row : Product} {call : Call} {returned : Returned}
  {session : Session}

theorem Performs.leavesStock (hperforms : Performs db call returned session)
    (hleaves : call.LeavesStock productId booked)
    (hbooked : db.BookedAt productId booked)
    (hfind : db.findProduct productId = some row) :
    (db.applyAll session.writes).findProduct productId = some row := by
  have hid := Database.findProduct_id hfind
  cases hperforms with
  | created hnew haccept =>
      simp [Database.findProduct_insertProduct, hfind]
  | restocked hquantity hother hfits hadmits =>
      have hne : row.id ≠ _ := hid ▸ Ne.symm hleaves
      rw [← Database.findProduct_id hother] at hne
      simp [Database.findProduct_updateProduct, hfind,
        Database.productVersion, Product.restocked, hne]
  | reserved hquantity hcustomer hkey hother hstock hinsert hupdate =>
      have hne : row.id ≠ _ := hid ▸ Ne.symm hleaves
      rw [← Database.findProduct_id hother] at hne
      simp [Database.findProduct_updateProduct, hfind,
        Database.productVersion, Product.deducted, hne]
  | @cancelled now id customerId customer reservation other hcustomer hthere
      hactive hother hquantity hfits hproductUpdate hupdate =>
      obtain ⟨hmem, rfl, -⟩ := Database.findByIdAndCustomerId_some hthere
      have hne : row.id ≠ other.id := by
        intro hsame
        rw [hid, Database.findProduct_id hother] at hsame
        exact hleaves (hbooked reservation hmem hsame.symm hactive)
      simp [Database.findProduct_updateProduct, hfind,
        Database.productVersion, Product.restocked, hne]
  | _ => simpa using hfind

/-- The new version of a row is active only if the row was. -/
theorem Database.BookedAt.reservationVersion {entity reservation : Reservation}
    (hclosed : entity.status ≠ .active)
    (hactive : (Database.reservationVersion entity reservation).status =
      .active) : reservation.status = .active := by
  unfold Database.reservationVersion at hactive
  split at hactive
  next => exact absurd hactive hclosed
  next => exact hactive

/-- Whichever of these calls is made, the product stays booked at the ids. -/
theorem Performs.bookedAt (hperforms : Performs db call returned session)
    (hcall : call.Asks productId booked quantity ∨
      call.LeavesStock productId booked)
    (hbooked : db.BookedAt productId booked) :
    (db.applyAll session.writes).BookedAt productId booked := by
  cases hperforms with
  | reserved =>
      intro reservation hmem hproduct hactive
      simp only [reservedSession_writes, Database.applyAll_cons,
        Database.applyAll_nil, Database.apply, List.mem_append,
        List.mem_singleton] at hmem
      rcases hmem with hold | rfl
      · exact hbooked reservation hold hproduct hactive
      · rcases hcall with ⟨-, -, -, hfresh, -⟩ | hother
        · exact hfresh
        · exact absurd hproduct hother
  | cancelled =>
      intro reservation hmem hproduct hactive
      simp only [cancelledSession_writes, Database.applyAll_cons,
        Database.applyAll_nil, Database.apply, List.mem_map] at hmem
      obtain ⟨old, hold, rfl⟩ := hmem
      rw [Database.reservationVersion_productId] at hproduct
      rw [Database.reservationVersion_id]
      exact hbooked old hold hproduct
        (Database.BookedAt.reservationVersion
          (by simp [Reservation.cancelledBy]) hactive)
  | _ => exact hbooked

theorem Performs.deducts (hperforms : Performs db call returned session)
    (hasks : call.Asks productId booked quantity)
    (hfind : db.findProduct productId = some row) :
    (db.applyAll session.writes).findProduct productId =
        some (row.deducted quantity) ∧
      quantity.toInt ≤ row.availableQuantity.toInt := by
  have hid := Database.findProduct_id hfind
  cases hperforms with
  | reserved hquantity hother hkey hthere hstock hinsert hupdate =>
      obtain ⟨rfl, rfl, -⟩ := hasks
      rw [hfind, Option.some.injEq] at hthere
      subst hthere
      rw [Int32.lt_iff_toInt_lt, not_lt] at hstock
      refine ⟨?_, hstock⟩
      simp [Database.findProduct_updateProduct, hfind,
        Database.productVersion, Product.deducted, Product.updatedBy]
  | replayed hcustomer hthere hproduct hquantity =>
      obtain ⟨-, -, hnone, -⟩ := hasks
      cases hnone
  | _ => exact hasks.elim

theorem Performs.writes_of_asks (hperforms : Performs db call returned session)
    (hasks : call.Asks productId booked quantity) : session.writes ≠ [] := by
  cases hperforms with
  | reserved => simp
  | replayed hcustomer hthere hproduct hquantity =>
      obtain ⟨-, -, hnone, -⟩ := hasks
      cases hnone
  | _ => exact hasks.elim

/-- A reservation which asks for the product is refused for its stock only. -/
theorem Refuses.of_asks {exception : JavaException}
    (hrefuses : Refuses db call exception)
    (hasks : call.Asks productId booked quantity)
    (hquantity : PositiveQuantity quantity)
    (hfind : db.findProduct productId = some row) :
    exception = insufficientStock ∧
      row.availableQuantity.toInt < quantity.toInt := by
  cases hrefuses with
  | stock hpositive hcustomer hkey hunused hthere hstock =>
      obtain ⟨rfl, rfl, -⟩ := hasks
      rw [hfind, Option.some.injEq] at hthere
      exact ⟨rfl, hthere ▸ hstock⟩
  | reserveQuantity hbad =>
      obtain ⟨-, rfl, -⟩ := hasks
      exact absurd hquantity hbad
  | reserveCustomer hpositive hbad =>
      obtain ⟨-, -, -, -, customer, hgood, -⟩ := hasks
      rw [hbad] at hgood
      cases hgood
  | reserveKey hpositive hcustomer hbad =>
      obtain ⟨-, -, rfl, -⟩ := hasks
      cases hbad
  | keyUsed =>
      obtain ⟨-, -, hnone, -⟩ := hasks
      cases hnone
  | reserveProduct hpositive hcustomer hkey hunused hnone =>
      obtain ⟨rfl, -⟩ := hasks
      rw [hfind] at hnone
      cases hnone
  | _ => exact hasks.elim

theorem Call.Asks.sendable (hasks : call.Asks productId booked quantity) :
    call.Sendable := by
  cases call with
  | reserve fresh product asked customerId idempotencyKey =>
      obtain ⟨-, -, -, -, customer, hcustomer, htext⟩ := hasks
      rintro other hother
      rw [Call.customerId, Reservation.validateCustomerId_ok hcustomer]
        at hother
      exact Option.some.inj hother ▸ htext
  | _ => exact hasks.elim

end

/-- The actions of a phase in which the burst competes for the product. -/
def Action.Joins (productId : UUID) (booked : Set UUID)
    (quantity : ℕ → Int32) (burst : Finset ℕ) : Action → Prop
  | .begin t _ call =>
      if t ∈ burst then call.Asks productId booked (quantity t)
      else call.LeavesStock productId booked
  | .next _ _ => False
  | _ => True

def Event.commits (t : ℕ) : Event → Bool
  | .finished u _ (.committed _ _) => u == t
  | _ => false

namespace System

variable {sha256 : List UInt8 → List UInt8} {s s' : System}
  {productId : UUID} {booked : Set UUID} {quantity : ℕ → Int32}
  {burst : Finset ℕ} {stock : ℤ}

def hasCommitted (s : System) (t : ℕ) : Bool :=
  s.history.any (Event.commits t)

/-- The reservations of the burst that were committed. -/
def sold (s : System) (burst : Finset ℕ) : Finset ℕ :=
  burst.filter fun t => s.hasCommitted t = true

theorem hasCommitted_iff {t : ℕ} : s.hasCommitted t = true ↔
    ∃ calls acknowledged, s.Finished t (.committed calls acknowledged) := by
  rw [hasCommitted, List.any_eq_true]
  constructor
  · rintro ⟨event, hmem, hcommits⟩
    cases event with
    | invoked u server call => cases hcommits
    | finished u server outcome =>
        cases outcome with
        | committed calls acknowledged =>
            obtain rfl : u = t := by simpa [Event.commits] using hcommits
            exact ⟨calls, acknowledged, server, hmem⟩
        | _ => cases hcommits
  · rintro ⟨calls, acknowledged, server, hmem⟩
    exact ⟨_, hmem, by simp [Event.commits]⟩

theorem sold_subset_of_run {actions : List Action}
    (hrun : s.run sha256 actions = some s') :
    s.sold burst ⊆ s'.sold burst := by
  have hkept : ∀ event ∈ s.history, event ∈ s'.history := by
    apply run_induction (fun _ hevent => hevent) _ hrun
    intro before action after hbefore hmoves event hevent
    exact hmoves.history_kept (hbefore event hevent)
  intro t ht
  rw [sold, Finset.mem_filter, hasCommitted_iff] at ht ⊢
  obtain ⟨hburst, calls, acknowledged, server, hmem⟩ := ht
  exact ⟨hburst, calls, acknowledged, server, hkept _ hmem⟩

/-- What the burst has bought is missing from the stock. -/
structure Selling (productId : UUID) (booked : Set UUID)
    (quantity : ℕ → Int32) (burst : Finset ℕ) (stock : ℤ) (s : System) :
    Prop where
  live : ∀ {t transaction}, s.transactions t = some transaction →
    transaction.earlier = [] ∧
      if t ∈ burst then transaction.call.Asks productId booked (quantity t)
      else transaction.call.LeavesStock productId booked
  booked : s.db.BookedAt productId booked
  stock : ∃ row, s.db.findProduct productId = some row ∧
    row.availableQuantity.toInt + ∑ t ∈ s.sold burst, (quantity t).toInt = stock

/-- A step that neither commits nor lets a call in from outside. -/
private theorem Selling.quiet
    (hselling : s.Selling productId booked quantity burst stock) {t : ℕ}
    {updated : Option Transaction} {events : List Event}
    (htransactions : s'.transactions =
      Function.update s.transactions t updated)
    (hupdated : ∀ transaction, updated = some transaction →
      transaction.earlier = [] ∧
        if t ∈ burst then transaction.call.Asks productId booked (quantity t)
        else transaction.call.LeavesStock productId booked)
    (hdb : s'.db = s.db) (hhistory : s'.history = s.history ++ events)
    (hevents : ∀ u, ∀ event ∈ events, event.commits u = false) :
    s'.Selling productId booked quantity burst stock where
  live := by
    intro u transaction hlive
    rcases live_of_update htransactions hlive with ⟨rfl, hnew⟩ | ⟨-, hold⟩
    · exact hupdated transaction hnew
    · exact hselling.live hold
  booked := hdb ▸ hselling.booked
  stock := by
    have hsold : s'.sold burst = s.sold burst := by
      apply Finset.filter_congr
      intro u hu
      have hnone : events.any (Event.commits u) = false :=
        List.any_eq_false.mpr fun event hevent => by simp [hevents u event hevent]
      simp [hasCommitted, hhistory, hnone]
    rw [hdb, hsold]
    exact hselling.stock

/-- What a commit of a single call does to the tables. -/
private theorem Selling.commits
    (hselling : s.Selling productId booked quantity burst stock)
    (hinv : s.Invariant sha256) {t : ℕ} {transaction : Transaction}
    {returned : Returned} {session : Session} {acknowledged : Bool}
    (hlive : s.transactions t = some transaction)
    (hrest : transaction.rest = .pure (.ok returned, session))
    (hclean : transaction.rollbackOnly = false) :
    Completed.HappensOn ⟨transaction.call, returned, session⟩ s.db ∧
      (s.committed t transaction ⟨transaction.call, returned, session⟩
        acknowledged).db = s.db.applyAll session.writes := by
  have hfirst := (hselling.live hlive).1
  have hserial := ((hinv.sound hlive hclean).snoc hrest).serial
    hinv.wellFormed
  rw [hfirst] at hserial
  refine ⟨hserial.1, ?_⟩
  simp [System.committed, hfirst, writesOf]

/-- A commit of the burst sells, and another commit does not. -/
private theorem sold_committed {t : ℕ} {transaction : Transaction}
    {completed : Completed} {acknowledged : Bool} :
    (s.committed t transaction completed acknowledged).sold burst =
      if t ∈ burst then insert t (s.sold burst) else s.sold burst := by
  have hcommitted : ∀ u, (s.committed t transaction completed
      acknowledged).hasCommitted u = (s.hasCommitted u || t == u) := by
    intro u
    simp [System.committed, System.completed, hasCommitted, Event.commits]
  ext u
  simp only [sold, Finset.mem_filter, hcommitted, Bool.or_eq_true, beq_iff_eq]
  by_cases hburst : t ∈ burst
  · rw [if_pos hburst, Finset.mem_insert, Finset.mem_filter]
    constructor
    · rintro ⟨hu, hold | rfl⟩
      · exact Or.inr ⟨hu, hold⟩
      · exact Or.inl rfl
    · rintro (rfl | ⟨hu, hold⟩)
      · exact ⟨hburst, Or.inr rfl⟩
      · exact ⟨hu, Or.inl hold⟩
  · rw [if_neg hburst, Finset.mem_filter]
    refine and_congr_right fun hu => or_iff_left ?_
    rintro rfl
    exact hburst hu

private theorem Selling.committed
    (hselling : s.Selling productId booked quantity burst stock)
    (hinv : s.Invariant sha256) (hchronicle : s.Chronicle)
    (hpositive : ∀ t ∈ burst, PositiveQuantity (quantity t)) {t : ℕ}
    {transaction : Transaction} {returned : Returned} {session : Session}
    {acknowledged : Bool} (hlive : s.transactions t = some transaction)
    (hrest : transaction.rest = .pure (.ok returned, session))
    (hclean : transaction.rollbackOnly = false) :
    (s.committed t transaction ⟨transaction.call, returned, session⟩
      acknowledged).Selling productId booked quantity burst stock := by
  obtain ⟨hhappens, hdb⟩ := @Selling.commits sha256 s productId booked quantity
    burst stock hselling hinv t transaction returned session acknowledged hlive
    hrest hclean
  have hcall := (hselling.live hlive).2
  obtain ⟨row, hfind, hstock⟩ := hselling.stock
  constructor
  · intro u other hother
    by_cases hsame : u = t
    · subst hsame
      simp [System.committed, completed] at hother
    · rw [(committed_other hsame).1] at hother
      exact hselling.live hother
  · rw [hdb]
    rcases hhappens with hperforms | ⟨hquiet, -⟩
    · refine @Performs.bookedAt _ _ _ (quantity t) _ _ _ hperforms ?_
        hselling.booked
      by_cases hburst : t ∈ burst
      · exact Or.inl (by rwa [if_pos hburst] at hcall)
      · exact Or.inr (by rwa [if_neg hburst] at hcall)
    · change session.writes = [] at hquiet
      rw [hquiet]
      exact hselling.booked
  · rw [hdb, sold_committed]
    by_cases hburst : t ∈ burst
    · rw [if_pos hburst] at hcall ⊢
      have hperforms : Performs s.db transaction.call returned session := by
        rcases hhappens with hperforms | ⟨hquiet, moment, -, -, hthen⟩
        · exact hperforms
        · exact absurd hquiet (hthen.writes_of_asks hcall)
      obtain ⟨hafter, henough⟩ := hperforms.deducts hcall hfind
      have hrange := hinv.wellFormed.stockInRange (Database.findProduct_mem hfind)
      have hlevel := toInt_reserveStock hrange (hpositive t hburst)
      have hunsold : t ∉ s.sold burst := by
        rw [sold, Finset.mem_filter, hasCommitted_iff]
        rintro ⟨-, calls, known, hfinished⟩
        exact hchronicle.unfinished hlive hfinished
      refine ⟨_, hafter, ?_⟩
      rw [Finset.sum_insert hunsold, Product.deducted, hlevel]
      omega
    · rw [if_neg hburst] at hcall ⊢
      refine ⟨row, ?_, hstock⟩
      rcases hhappens with hperforms | ⟨hquiet, -⟩
      · exact hperforms.leavesStock hcall hselling.booked hfind
      · change session.writes = [] at hquiet
        rw [hquiet]
        exact hfind

theorem Selling.step {action : Action}
    (hselling : s.Selling productId booked quantity burst stock)
    (hinv : s.Invariant sha256) (hchronicle : s.Chronicle)
    (hpositive : ∀ t ∈ burst, PositiveQuantity (quantity t))
    (hjoins : action.Joins productId booked quantity burst)
    (hmoves : Moves sha256 s action s') :
    s'.Selling productId booked quantity burst stock := by
  cases hmoves with
  | begin hfree hnew hfresh =>
      refine hselling.quiet rfl ?_ rfl rfl ?_
      · intro transaction hsame
        cases hsame
        exact ⟨rfl, hjoins⟩
      · intro u event hevent
        rw [List.mem_singleton.mp hevent]
        rfl
  | next hlive hrest hfresh => exact hjoins.elim
  | @exec t transaction statement next hlive hrest havailable =>
      obtain ⟨hfirst, hcall⟩ := hselling.live hlive
      refine hselling.quiet rfl ?_ rfl (List.append_nil _).symm ?_
      · intro updated hsame
        cases hsame
        exact ⟨hfirst, hcall⟩
      · intro u event hevent
        cases hevent
  | commit hlive hrest hclean =>
      exact hselling.committed hinv hchronicle hpositive hlive hrest hclean
  | fail hlive hrest =>
      refine hselling.quiet rfl ?_ rfl rfl ?_
      · intro transaction hsame
        cases hsame
      · intro u event hevent
        rw [List.mem_singleton.mp hevent]
        rfl
  | abort hlive hstatus =>
      refine hselling.quiet rfl ?_ rfl rfl ?_
      · intro transaction hsame
        cases hsame
      · intro u event hevent
        rw [List.mem_singleton.mp hevent]
        rfl

theorem Selling.run {actions : List Action}
    (hselling : s.Selling productId booked quantity burst stock)
    (hreach : Reachable sha256 s)
    (hpositive : ∀ t ∈ burst, PositiveQuantity (quantity t))
    (hjoins : ∀ action ∈ actions, action.Joins productId booked quantity burst)
    (hrun : s.run sha256 actions = some s') :
    s'.Selling productId booked quantity burst stock := by
  have hall : s'.Invariant sha256 ∧ s'.Chronicle ∧
      s'.Selling productId booked quantity burst stock := by
    apply run_induction_of hjoins
      ⟨hreach.invariant, hreach.chronicle, hselling⟩ _ hrun
    rintro before action after hjoined ⟨hinv, hchronicle, hbefore⟩ hmoves
    exact ⟨hinv.step hmoves, hchronicle.step hmoves,
      hbefore.step hinv hchronicle hpositive hjoined hmoves⟩
  exact hall.2.2

theorem selling_start (hchronicle : s.Chronicle)
    (hlive : ∀ {t transaction}, s.transactions t = some transaction →
      transaction.earlier = [] ∧
        transaction.call.LeavesStock productId booked)
    (hbooked : s.db.BookedAt productId booked)
    (hnew : ∀ t ∈ burst, t ∉ s.started) {row : Product}
    (hfind : s.db.findProduct productId = some row) :
    s.Selling productId booked quantity burst
      row.availableQuantity.toInt where
  live := by
    intro t transaction hother
    have hnot : t ∉ burst := fun ht => hnew t ht (hchronicle.started hother)
    rw [if_neg hnot]
    exact hlive hother
  booked := hbooked
  stock := by
    have hnone : s.sold burst = ∅ := by
      rw [sold, Finset.filter_eq_empty_iff]
      intro t ht hcommitted
      obtain ⟨calls, acknowledged, server, hmem⟩ := hasCommitted_iff.mp hcommitted
      exact hnew t ht (hchronicle.recorded hmem)
    exact ⟨row, hfind, by rw [hnone, Finset.sum_empty, add_zero]⟩

/-- The stock only goes down while the burst is served. -/
theorem Selling.stock_le {actions : List Action} {first last : Product}
    (hfirst : s.Selling productId booked quantity burst stock)
    (hlast : s'.Selling productId booked quantity burst stock)
    (hpositive : ∀ t ∈ burst, PositiveQuantity (quantity t))
    (hrun : s.run sha256 actions = some s')
    (hbefore : s.db.findProduct productId = some first)
    (hafter : s'.db.findProduct productId = some last) :
    last.availableQuantity.toInt ≤ first.availableQuantity.toInt := by
  obtain ⟨row, hrow, hstock⟩ := hfirst.stock
  obtain ⟨left, hleft, hrest⟩ := hlast.stock
  rw [hbefore, Option.some.injEq] at hrow
  rw [hafter, Option.some.injEq] at hleft
  subst hrow hleft
  have hsum : ∑ t ∈ s.sold burst, (quantity t).toInt ≤
      ∑ t ∈ s'.sold burst, (quantity t).toInt := by
    refine Finset.sum_le_sum_of_subset_of_nonneg (sold_subset_of_run hrun) ?_
    intro t ht hold
    have hone : 1 ≤ (quantity t).toInt :=
      (hpositive t (Finset.mem_filter.mp ht).1).1
    omega
  omega

/-- Whoever of the burst was not served was refused for the stock, and asked
for more than is left. -/
theorem Reachable.refused_for_stock {actions : List Action} {t : ℕ}
    {outcome : Outcome} (hreach : Reachable sha256 s)
    (hstart : s.Selling productId booked quantity burst stock)
    (hpositive : ∀ t ∈ burst, PositiveQuantity (quantity t))
    (hjoins : ∀ action ∈ actions, action.Joins productId booked quantity burst)
    (hrun : s.run sha256 actions = some s') (ht : t ∈ burst)
    (hnew : t ∉ s.started) (hunsold : t ∉ s'.sold burst)
    (hfinished : s'.Finished t outcome) (hanswers : outcome.Answers)
    {left : Product} (hleft : s'.db.findProduct productId = some left) :
    outcome = .failed insufficientStock ∧
      left.availableQuantity.toInt < (quantity t).toInt := by
  have hone : ∀ call, Action.next t call ∉ actions :=
    fun call hmem => hjoins _ hmem
  obtain ⟨call, server, -, db, hrunning, hmatches⟩ :=
    hreach.decided hnew hone hrun hfinished hanswers
  have hjustified := fun hsendable =>
    RunningOn.justified hreach hrunning hsendable hmatches
  obtain ⟨front, back, middle, transaction, rfl, hfront, hlive, rfl, -, rfl⟩ :=
    hrunning
  have hback : middle.run sha256 back = some s' := by
    rwa [run_append, hfront, Option.bind_some] at hrun
  have hmiddle : middle.Selling productId booked quantity burst stock :=
    hstart.run hreach hpositive (fun action haction =>
      hjoins action (List.mem_append_left _ haction)) hfront
  have hend : s'.Selling productId booked quantity burst stock :=
    hmiddle.run (hreach.run hfront) hpositive (fun action haction =>
      hjoins action (List.mem_append_right _ haction)) hback
  obtain ⟨row, hrow, -⟩ := hmiddle.stock
  have hasks := (hmiddle.live hlive).2
  rw [if_pos ht] at hasks
  cases outcome with
  | committed calls acknowledged =>
      have hsold : t ∈ s'.sold burst := Finset.mem_filter.mpr
        ⟨ht, hasCommitted_iff.mpr ⟨calls, acknowledged, hfinished⟩⟩
      exact absurd hsold hunsold
  | aborted status => exact hanswers.elim
  | failed exception =>
      obtain ⟨rfl, hless⟩ :=
        (hjustified hasks.sendable).1.of_asks hasks (hpositive t ht) hrow
      have hle := hmiddle.stock_le hend hpositive hback hrow hleft
      exact ⟨rfl, by omega⟩

/-- When a burst of reservations for one product has been answered, the stock
is what it was without the committed quantities; whoever was refused was told
so and asked for more than is left; and if all asked for the same number of
units, as many were served as the stock allows. -/
theorem Reachable.contention_settles {actions : List Action}
    (hreach : Reachable sha256 s)
    (hlive : ∀ {t transaction}, s.transactions t = some transaction →
      transaction.earlier = [] ∧
        transaction.call.LeavesStock productId booked)
    (hbooked : s.db.BookedAt productId booked)
    (hnew : ∀ t ∈ burst, t ∉ s.started)
    (hpositive : ∀ t ∈ burst, PositiveQuantity (quantity t))
    (hjoins : ∀ action ∈ actions, action.Joins productId booked quantity burst)
    (hrun : s.run sha256 actions = some s') {row : Product}
    (hfind : s.db.findProduct productId = some row)
    (hanswered : ∀ t ∈ burst, ∃ outcome,
      s'.Finished t outcome ∧ outcome.Answers) :
    ∃ left, s'.db.findProduct productId = some left ∧
      left.availableQuantity.toInt + ∑ t ∈ s'.sold burst, (quantity t).toInt =
        row.availableQuantity.toInt ∧
      (∀ t ∈ burst, t ∉ s'.sold burst →
        s'.Finished t (.failed insufficientStock) ∧
          left.availableQuantity.toInt < (quantity t).toInt) ∧
      ∀ units, 0 < units → (∀ t ∈ burst, (quantity t).toInt = units) →
        ((s'.sold burst).card : ℤ) =
          min (burst.card : ℤ) (row.availableQuantity.toInt / units) := by
  have hstart : s.Selling productId booked quantity burst
      row.availableQuantity.toInt :=
    selling_start hreach.chronicle hlive hbooked hnew hfind
  have hend := hstart.run hreach hpositive hjoins hrun
  obtain ⟨left, hleft, hstock⟩ := hend.stock
  have hrefused : ∀ t ∈ burst, t ∉ s'.sold burst →
      s'.Finished t (.failed insufficientStock) ∧
        left.availableQuantity.toInt < (quantity t).toInt := by
    intro t ht hunsold
    obtain ⟨outcome, hfinished, hanswers⟩ := hanswered t ht
    obtain ⟨rfl, hless⟩ := hreach.refused_for_stock hstart hpositive hjoins
      hrun ht (hnew t ht) hunsold hfinished hanswers hleft
    exact ⟨hfinished, hless⟩
  refine ⟨left, hleft, hstock, hrefused, fun units hunit hunits => ?_⟩
  have hlow : 0 ≤ left.availableQuantity.toInt :=
    ((hreach.run hrun).invariant.wellFormed.stockInRange
      (Database.findProduct_mem hleft)).1
  have hsum : ∑ t ∈ s'.sold burst, (quantity t).toInt =
      (s'.sold burst).card * units := by
    have hsame : ∀ t ∈ s'.sold burst, (quantity t).toInt = units :=
      fun t ht => hunits t (Finset.mem_filter.mp ht).1
    rw [Finset.sum_congr rfl hsame, Finset.sum_const, nsmul_eq_mul]
  rw [hsum] at hstock
  by_cases hall : s'.sold burst = burst
  · rw [hall] at hstock ⊢
    have henough : (burst.card : ℤ) ≤ row.availableQuantity.toInt / units := by
      rw [Int.le_ediv_iff_mul_le hunit]
      omega
    rw [min_eq_left henough]
  · have hcard : (s'.sold burst).card ≤ burst.card := Finset.card_filter_le _ _
    obtain ⟨t, ht, hunsold⟩ : ∃ t ∈ burst, t ∉ s'.sold burst := by
      by_contra hnone
      push Not at hnone
      exact hall ((Finset.filter_subset _ _).antisymm hnone)
    have hless : left.availableQuantity.toInt < units :=
      hunits t ht ▸ (hrefused t ht hunsold).2
    have hquotient : row.availableQuantity.toInt / units =
        (s'.sold burst).card := by
      rw [← hstock, Int.add_mul_ediv_right _ _ hunit.ne',
        Int.ediv_eq_zero_of_lt hlow hless, zero_add]
    rw [hquotient]
    omega

/-- Three customers ask for two units each of a product that has five, while
another product is created, booked, and its reservation cancelled. -/
def burstOfThree : List Action :=
  [.begin 1 1 (.reserve ⟨2, ⟨2000⟩⟩ 1 2 (some [99]) none),
    .begin 2 2 (.reserve ⟨3, ⟨2000⟩⟩ 1 2 (some [100]) none),
    .exec 4, .exec 4, .commit 4 true,
    .begin 3 1 (.reserve ⟨4, ⟨2000⟩⟩ 1 2 (some [101]) none),
    .begin 5 2 (.reserve ⟨11, ⟨2000⟩⟩ 10 1 (some [99]) none),
    .exec 2, .exec 5, .exec 2, .exec 5, .exec 2, .exec 5, .exec 2, .exec 5,
    .commit 5 true, .commit 2 true,
    .begin 6 0 (.cancelReservation ⟨3000⟩ 11 (some [99])),
    .exec 1, .exec 6, .exec 1, .exec 6, .exec 1, .exec 6, .exec 1, .exec 6,
    .commit 6 true, .commit 1 true, .exec 3, .fail 3]

theorem burstOfThree_joins : ∀ action ∈ burstOfThree,
    action.Joins 1 {2, 3, 4} (fun _ => 2) {1, 2, 3} := by
  intro action haction
  fin_cases haction
  case «0» | «1» | «5» =>
    rw [Action.Joins, if_pos (by decide)]
    exact ⟨rfl, rfl, rfl, by simp, _, rfl, by decide⟩
  case «6» | «17» =>
    rw [Action.Joins, if_neg (by decide)]
    simp [Call.LeavesStock]
  all_goals trivial

/-- The other product is being created when the burst begins. -/
def beforeBurst : List Action :=
  sampleActions.take 4 ++
    [.begin 4 1 (.createProduct ⟨10, ⟨1500⟩⟩ (some [98, 49]) (some [66]) 5)]

theorem contention_settles_sample :
    ∃ s s' : System, s.run (fun _ => []) burstOfThree = some s' ∧
      s'.db.reservations.map (fun row => (row.productId, row.status)) =
        [(10, .cancelled), (1, .active), (1, .active)] ∧
      ((s'.sold {1, 2, 3}).card : ℤ) = min 3 (5 / 2) := by
  have hafter : ((initial.run (fun _ => []) beforeBurst).bind
      (·.run (fun _ => []) burstOfThree)).map (fun s =>
        (s.db.reservations.map (fun row => (row.productId, row.status)),
          s.hasCommitted 1, s.hasCommitted 2)) =
      some ([(10, .cancelled), (1, .active), (1, .active)], true, true) := by
    decide +kernel
  obtain ⟨s, s', hfirst, hrun, hstarted, hover, hrest, hnone, hfind, hthird⟩ :
      ∃ s s', initial.run (fun _ => []) beforeBurst = some s ∧
        s.run (fun _ => []) burstOfThree = some s' ∧ s.started = [4, 0] ∧
          s.transactions 0 = none ∧
          (∀ {transaction}, s.transactions 4 = some transaction →
            transaction.earlier = [] ∧
              transaction.call.LeavesStock 1 {2, 3, 4}) ∧
          s.db.reservations = [] ∧
          s.db.findProduct 1 = some ⟨1, [65, 49], [65], 5, ⟨1000⟩⟩ ∧
          s'.Finished 3 (.failed insufficientStock) := by
    refine ⟨_, _, rfl, rfl, rfl, rfl, ?_, rfl, rfl, 1, ?_⟩
    · rintro _ ⟨⟩
      exact ⟨rfl, trivial⟩
    · exact List.mem_append_right _ (List.mem_singleton_self _)
  rw [hfirst, Option.bind_some, hrun, Option.map_some, Option.some.injEq,
    Prod.mk.injEq, Prod.mk.injEq] at hafter
  have hreach : Reachable (fun _ => []) s := ⟨_, hfirst⟩
  have hlive : ∀ {t transaction}, s.transactions t = some transaction →
      transaction.earlier = [] ∧
        transaction.call.LeavesStock 1 {2, 3, 4} := by
    intro t transaction hother
    have hold := hreach.chronicle.started hother
    rw [hstarted, List.mem_pair] at hold
    rcases hold with rfl | rfl
    · exact hrest hother
    · rw [hover] at hother
      cases hother
  have hbooked : s.db.BookedAt 1 {2, 3, 4} := by
    rw [Database.BookedAt, hnone]
    intro reservation hmem
    cases hmem
  have hanswered : ∀ t ∈ ({1, 2, 3} : Finset ℕ), ∃ outcome,
      s'.Finished t outcome ∧ outcome.Answers := by
    intro t ht
    fin_cases ht
    case «0» =>
      obtain ⟨calls, acknowledged, hfinished⟩ := hasCommitted_iff.mp hafter.2.1
      exact ⟨_, hfinished, trivial⟩
    case «1» =>
      obtain ⟨calls, acknowledged, hfinished⟩ := hasCommitted_iff.mp hafter.2.2
      exact ⟨_, hfinished, trivial⟩
    case «2» => exact ⟨_, hthird, trivial⟩
  have hnew : ∀ t ∈ ({1, 2, 3} : Finset ℕ), t ∉ s.started := by
    rw [hstarted]
    decide
  obtain ⟨left, -, -, -, hcount⟩ := hreach.contention_settles hlive hbooked
    hnew (fun _ _ => by decide) burstOfThree_joins hrun hfind hanswered
  exact ⟨s, s', hrun, hafter.1, hcount 2 (by decide) (fun _ _ => by decide)⟩

end System

end InventoryCloud
