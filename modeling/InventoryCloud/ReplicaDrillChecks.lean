import InventoryCloud.ReplicaBatches

/-!
# The checks of the replica drill pass

However the requests of a batch interleave on the replicas, their answers pass
the checks of the drill: one key gives one reservation, competing requests get
as many reservations as the stock allows, and a reservation is cancelled once.
-/

namespace InventoryCloud

open InventoryController InventoryService
open ReplicaDrill

variable {db : Database} {productId : UUID} {quantity : Int32}
  {customer : JavaString} {row : Product}

/-! ### What can refuse a request of the drill -/

/-- A reservation with good arguments is refused for its key, or for want of
the product or of its stock. -/
theorem Refuses.of_reserve {fresh : Fresh} {idempotencyKey : Option JavaString}
    {exception : JavaException}
    (hrefuses : Refuses db (.reserve fresh productId quantity (some customer)
      idempotencyKey) exception)
    (hquantity : PositiveQuantity quantity)
    (hcustomer : Reservation.validateCustomerId (some customer) =
      .ok customer)
    (hkey : Reservation.validateIdempotencyKey idempotencyKey = .ok ()) :
    (∃ key stored, idempotencyKey = some key ∧
        db.findByCustomerIdAndIdempotencyKey customer key = some stored ∧
          (stored.productId ≠ productId ∨ stored.quantity ≠ quantity)) ∨
      db.Unused customer idempotencyKey ∧
        (db.findProduct productId = none ∨
          exception = insufficientStock ∧ ∃ product,
            db.findProduct productId = some product ∧
              product.availableQuantity.toInt < quantity.toInt) := by
  cases hrefuses with
  | reserveQuantity hbad => exact absurd hquantity hbad
  | reserveCustomer hpositive hbad =>
      rw [hcustomer] at hbad
      cases hbad
  | reserveKey hpositive hgood hbad =>
      rw [hkey] at hbad
      cases hbad
  | keyUsed hpositive hgood hvalid hfind hother =>
      rw [hcustomer, Except.ok.injEq] at hgood
      subst hgood
      exact Or.inl ⟨_, _, rfl, hfind, hother⟩
  | reserveProduct hpositive hgood hvalid hunused hnone =>
      rw [hcustomer, Except.ok.injEq] at hgood
      subst hgood
      exact Or.inr ⟨hunused, Or.inl hnone⟩
  | stock hpositive hgood hvalid hunused hfind hstock =>
      rw [hcustomer, Except.ok.injEq] at hgood
      subst hgood
      exact Or.inr ⟨hunused, Or.inr ⟨rfl, _, hfind, hstock⟩⟩

/-- The customer id of a stored reservation has no U+0000. -/
theorem Database.WellFormed.customer_text (hwell : db.WellFormed)
    {stored : Reservation} (hmem : stored ∈ db.reservations) :
    0 ∉ stored.customerId := by
  have hstorable := hwell.reservationRows stored hmem
  simp only [Reservation.storable, Sql.varchar, Bool.and_eq_true,
    Bool.not_eq_true', List.contains_eq_mem, decide_eq_false_iff_not]
    at hstorable
  tauto

/-- The owner's cancellation of an active reservation is refused for want of
room or for the clock. -/
theorem Refuses.of_cancel {now : Instant} {exception : JavaException}
    {stored : Reservation}
    (hrefuses : Refuses db (.cancelReservation now stored.id (some customer))
      exception)
    (hcustomer : Reservation.validateCustomerId (some customer) =
      .ok customer)
    (hstored : db.findByIdAndCustomerId stored.id customer = some stored) :
    stored.status = .active ∧ ∃ product,
      db.findProduct stored.productId = some product ∧
        (1000000 < product.availableQuantity.toInt + stored.quantity.toInt ∨
          now.truncatedToMicros.epochNanos < stored.createdAt.epochNanos) := by
  cases hrefuses with
  | cancelCustomer hbad =>
      rw [hcustomer] at hbad
      cases hbad
  | cancelNone hgood hnone =>
      rw [hcustomer, Except.ok.injEq] at hgood
      subst hgood
      rw [hstored] at hnone
      cases hnone
  | cancelRoom hgood hfind hactive hproduct hfull =>
      rw [hcustomer, Except.ok.injEq] at hgood
      subst hgood
      rw [hstored, Option.some.injEq] at hfind
      subst hfind
      exact ⟨hactive, _, hproduct, Or.inl hfull⟩
  | cancelClock hgood hfind hactive hproduct hroom hclock =>
      rw [hcustomer, Except.ok.injEq] at hgood
      subst hgood
      rw [hstored, Option.some.injEq] at hfind
      subst hfind
      exact ⟨hactive, _, hproduct, Or.inr hclock⟩

/-! ### What a request is answered -/

/-- A replay returns the reservation that has the key. -/
theorem Performs.replays {fresh : Fresh} {key : JavaString}
    {reservation : Reservation} {session : Session}
    (hperforms : Performs db (.reserve fresh productId quantity
      (some customer) (some key)) (.reservationResult reservation true)
      session) :
    db.findByCustomerIdAndIdempotencyKey customer key = some reservation := by
  cases hperforms with
  | replayed hcustomer hfind hproduct hquantity =>
      have howner := Reservation.validateCustomerId_ok hcustomer
      rw [Option.some.injEq] at howner
      exact howner ▸ hfind

/-- A call which repeats one under the key shows the reservation of the key. -/
theorem Call.Bids.shown {completed : Completed} {key : JavaString}
    {reservation : Reservation}
    (hbids : completed.call.Bids productId quantity customer)
    (hkey : completed.call.key = some key)
    (hreplayed : completed.returned = .reservationResult reservation true)
    (hperforms : Performs db completed.call completed.returned
      completed.session) :
    db.findByCustomerIdAndIdempotencyKey customer key = some reservation := by
  obtain ⟨fresh, hreserve⟩ := hbids
  rw [hreserve, hkey, hreplayed] at hperforms
  exact hperforms.replays

/-- A cancellation that finds its reservation active writes. -/
theorem Performs.writes_of_active {now : Instant} {stored : Reservation}
    {returned : Returned} {session : Session}
    (hperforms : Performs db (.cancelReservation now stored.id
      (some customer)) returned session)
    (hstored : db.findByIdAndCustomerId stored.id customer = some stored)
    (hactive : stored.status = .active) : session.writes ≠ [] := by
  cases hperforms with
  | cancelled hcustomer hfind hopen => simp
  | cancellationReplayed hcustomer hfind hnot =>
      have howner := Reservation.validateCustomerId_ok hcustomer
      rw [Option.some.injEq] at howner
      subst howner
      rw [hstored, Option.some.injEq] at hfind
      exact absurd (hfind ▸ hactive) hnot

/-- A cancellation that finds its reservation cancelled returns it. -/
theorem Performs.cancelled_again {now : Instant} {stored : Reservation}
    {returned : Returned} {session : Session}
    (hperforms : Performs db (.cancelReservation now stored.id
      (some customer)) returned session)
    (hstored : db.findByIdAndCustomerId stored.id customer = some stored)
    (hcancelled : stored.status ≠ .active) :
    returned = .reservation stored := by
  cases hperforms with
  | cancelled hcustomer hfind hactive =>
      have howner := Reservation.validateCustomerId_ok hcustomer
      rw [Option.some.injEq] at howner
      subst howner
      rw [hstored, Option.some.injEq] at hfind
      exact absurd (hfind ▸ hactive) hcancelled
  | cancellationReplayed hcustomer hfind hnot =>
      have howner := Reservation.validateCustomerId_ok hcustomer
      rw [Option.some.injEq] at howner
      subst howner
      rw [hstored, Option.some.injEq] at hfind
      rw [hfind]

/-- A request for a product is answered with its row. -/
theorem handle_getProduct {id : UUID} (hfind : db.findProduct id = some row) :
    handle customer (.getProduct id) db =
      (ok (.product (.ofProduct row)), db) := by
  simp only [handle, Request.call, Call.after, Call.resultOn,
    getProduct_program, Interaction.Program.eval, Statement.answer, hfind]
  rfl

/-! ### One reservation in all answers -/

namespace Batch.Served

variable {batch : Batch} {texts : JsonTexts} {s s' : System}
  {samples : List Sample} {commits : List (ℕ × Completed)}
  {response : ℕ → HttpResponse}

theorem sameReservation
    (hserved : batch.Served texts s s' samples commits response)
    {reservation : Reservation} {counts : List (ℕ × ℤ)}
    {expected : Option JsonValue}
    (hcounts : counterEquals ((List.range batch.count).map fun index =>
      (response index).status) counts = true)
    (hbodies : ∀ index < batch.count,
      (response index).body = .reservation (.ofReservation reservation))
    (hexpected : ∀ value, expected = some value →
      value = texts.reservation (.ofReservation reservation)) :
    requireSameReservation samples counts expected =
      .ok (texts.reservation (.ofReservation reservation)) := by
  apply requireSameReservation_ok
  · intro hnone
    have hlength := congrArg List.length (hserved.samples.symm.trans hnone)
    rw [List.length_map, List.length_range, List.length_nil] at hlength
    exact absurd hlength hserved.nonempty.ne'
  · rw [hserved.statuses]
    exact hcounts
  · exact hexpected
  · exact texts.hasIdentity_reservation _
  · exact texts.equal_reservation _
  · intro sample hmem
    rw [hserved.samples] at hmem
    obtain ⟨index, hindex, rfl⟩ := List.mem_map.mp hmem
    rw [HttpResponse.sample, hbodies index (List.mem_range.mp hindex)]
    rfl

/-- When the tables that the commits leave refuse no request, a commit has
answered each of them. -/
theorem committed (hserved : batch.Served texts s s' samples commits response)
    (hpermitted : ∀ earlier later, commits.map Prod.snd = earlier ++ later →
      ∀ index < batch.count, ∀ call,
        (batch.request index).call batch.customer = .ok call →
          (s.db.applyAll (writesOf earlier)).Permits call)
    {index : ℕ} (hindex : index < batch.count) :
    ∃ completed earlier later, commits.map Prod.snd = earlier ++ later ∧
      (batch.transaction index, completed) ∈ commits ∧
        Performs (s.db.applyAll (writesOf earlier)) completed.call
          completed.returned completed.session ∧
          response index = respond (batch.request index) completed.returned := by
  cases hserved.answered index hindex with
  | committed hsplit hmem hcall hperforms hresponse =>
      exact ⟨_, _, _, hsplit, hmem, hperforms, hresponse⟩
  | refused hsplit hnot hcall hrefuses hresponse =>
      obtain ⟨hsendable, hnone⟩ := hpermitted _ _ hsplit index hindex _ hcall
      exact absurd (hrefuses hsendable) (hnone _)

/-- If no request is refused at the start, some request is committed. -/
theorem commits_ne_nil
    (hserved : batch.Served texts s s' samples commits response)
    (hpermitted : ∀ index < batch.count, ∀ call,
      (batch.request index).call batch.customer = .ok call →
        s.db.Permits call) : commits ≠ [] := by
  rintro rfl
  obtain ⟨completed, earlier, later, hsplit, hmem, -⟩ :=
    hserved.committed (fun earlier later hsplit => by
      obtain ⟨rfl, -⟩ := List.append_eq_nil_iff.mp hsplit.symm
      exact hpermitted) hserved.nonempty
  cases hmem

/-- One request of the batch was sent in the transaction of a commit. -/
theorem length_of_commit
    (hserved : batch.Served texts s s' samples commits response) {t : ℕ}
    {completed : Completed} (hmem : (t, completed) ∈ commits) :
    ((List.range batch.count).filter fun index =>
      decide (batch.transaction index = t)).length = 1 := by
  obtain ⟨⟨index, hindex, rfl, -⟩, -⟩ := hserved.serving.committed hmem
  have hsame : ((List.range batch.count).filter fun other =>
      decide (batch.transaction other = batch.transaction index)) =
        (List.range batch.count).filter (· == index) := by
    apply List.filter_congr
    intro other hother
    rw [beq_eq_decide, decide_eq_decide]
    exact ⟨batch.distinct other (List.mem_range.mp hother) index hindex,
      congrArg batch.transaction⟩
  rw [hsame, List.filter_beq, List.length_replicate]
  exact List.count_eq_one_of_mem List.nodup_range (List.mem_range.mpr hindex)

/-- The first commit writes and no other: every request is answered, with a
reservation that all of them see. -/
theorem of_first {t : ℕ} {first : Completed} {rest : List (ℕ × Completed)}
    {body : ResponseBody} {status : ℕ}
    (hserved : batch.Served texts s s' samples ((t, first) :: rest) response)
    (hquiet : ∀ completed ∈ rest.map Prod.snd, completed.session.writes = [])
    (hpermitted : ∀ db, db = s.db ∨
        db = s.db.applyAll first.session.writes →
      ∀ index < batch.count, ∀ call,
        (batch.request index).call batch.customer = .ok call →
          db.Permits call)
    (hfirst : ∀ request, (respond request first.returned).body = body ∧
      (respond request first.returned).status = status)
    (hothers : ∀ completed ∈ rest.map Prod.snd, ∀ db, db = s.db ∨
        db = s.db.applyAll first.session.writes →
      Performs db completed.call completed.returned completed.session →
        ∀ request, (respond request completed.returned).body = body ∧
          (respond request completed.returned).status = 200) :
    (∀ index < batch.count, (response index).body = body ∧
      (response index).status =
        if decide (batch.transaction index = t) then status else 200) ∧
      s'.db = s.db.applyAll first.session.writes := by
  have hviews : ∀ earlier later, ((t, first) :: rest).map Prod.snd =
      earlier ++ later → s.db.applyAll (writesOf earlier) = s.db ∨
        s.db.applyAll (writesOf earlier) =
          s.db.applyAll first.session.writes := by
    intro earlier later hsplit
    rcases tables_of_first hquiet hsplit with rfl | hafter
    · exact Or.inl rfl
    · exact Or.inr (hafter s.db)
  constructor
  · intro index hindex
    obtain ⟨completed, earlier, later, hsplit, hmem, hperforms, hresponse⟩ :=
      hserved.committed (fun earlier later hsplit =>
        hpermitted _ (hviews earlier later hsplit)) hindex
    rw [hresponse]
    rcases List.mem_cons.mp hmem with hsame | hrest
    · rw [Prod.mk.injEq] at hsame
      obtain ⟨rfl, rfl⟩ := hsame
      simpa using hfirst (batch.request index)
    · have hne : batch.transaction index ≠ t := by
        rintro rfl
        have hnodup := hserved.serving.nodup
        rw [List.map_cons, List.nodup_cons] at hnodup
        exact hnodup.1 (List.mem_map.mpr ⟨_, hrest, rfl⟩)
      simpa [hne] using hothers completed (List.mem_map_of_mem hrest) _
        (hviews earlier later hsplit) hperforms (batch.request index)
  · rw [hserved.tables]
    rcases tables_of_first hquiet (List.append_nil _).symm with hnone | hafter
    · cases hnone
    · exact hafter s.db

end Batch.Served

/-! ### One key -/

/-- Every request asks for units of the product under its key, with arguments
that the service accepts. -/
structure Batch.Reserves (batch : Batch) (productId : UUID)
    (quantity : Int32) (key : ℕ → Option JavaString) : Prop where
  requests : ∀ index < batch.count, ∃ fresh,
    batch.request index = .reserve fresh productId quantity (key index)
  quantity : PositiveQuantity quantity
  customer : Reservation.validateCustomerId (some batch.customer) =
    .ok batch.customer
  text : 0 ∉ batch.customer
  keys : ∀ index < batch.count,
    Reservation.validateIdempotencyKey (key index) = .ok ()

namespace Batch

variable {batch : Batch} {texts : JsonTexts}
  {sha256 : List UInt8 → List UInt8} {s s' : System}
  {samples : List Sample} {commits : List (ℕ × Completed)}
  {response : ℕ → HttpResponse} {key : ℕ → Option JavaString} {index : ℕ}
  {call : Call} {exception : JavaException}

namespace Reserves

theorem asked (hreserves : batch.Reserves productId quantity key)
    (hindex : index < batch.count)
    (hcall : (batch.request index).call batch.customer = .ok call) :
    ∃ fresh, call = .reserve fresh productId quantity (some batch.customer)
      (key index) := by
  obtain ⟨fresh, hrequest⟩ := hreserves.requests index hindex
  rw [hrequest, Request.call, Except.ok.injEq] at hcall
  exact ⟨fresh, hcall.symm⟩

theorem sendable (hreserves : batch.Reserves productId quantity key)
    (hindex : index < batch.count)
    (hcall : (batch.request index).call batch.customer = .ok call) :
    call.Sendable := by
  obtain ⟨fresh, rfl⟩ := hreserves.asked hindex hcall
  rintro customer ⟨⟩
  exact hreserves.text

/-- The call of a commit asks for the units, under the key of its request. -/
theorem bids (hreserves : batch.Reserves productId quantity key)
    (hserved : batch.Served texts s s' samples commits response) {t : ℕ}
    {completed : Completed} (hmem : (t, completed) ∈ commits) :
    ∃ index < batch.count, batch.transaction index = t ∧
      completed.call.key = key index ∧
        completed.call.Bids productId quantity batch.customer := by
  obtain ⟨⟨index, hindex, ht, hcall⟩, -⟩ := hserved.serving.committed hmem
  obtain ⟨fresh, hreserve⟩ := hreserves.asked hindex hcall
  have hkey : completed.call.key = key index := by
    rw [hreserve]
    rfl
  exact ⟨index, hindex, ht, hkey, fresh, hkey ▸ hreserve⟩

/-- The calls of the commits when all requests have one key. -/
theorem bids_key {used : JavaString}
    (hreserves : batch.Reserves productId quantity fun _ => some used)
    (hserved : batch.Served texts s s' samples commits response) :
    ∀ completed ∈ commits.map Prod.snd,
      completed.call.Bids productId quantity batch.customer ∧
        completed.call.key = some used := by
  intro completed hmem
  obtain ⟨⟨t, other⟩, hcommit, rfl⟩ := List.mem_map.mp hmem
  obtain ⟨index, -, -, hkey, hbid⟩ := hreserves.bids hserved hcommit
  exact ⟨hbid, hkey⟩

/-- Under an unused key it is only refused for want of stock. -/
theorem refused_for_stock (hreserves : batch.Reserves productId quantity key)
    (hindex : index < batch.count)
    (hcall : (batch.request index).call batch.customer = .ok call)
    (hunused : db.Unused batch.customer (key index))
    (hfind : db.findProduct productId = some row)
    (hrefuses : Refuses db call exception) :
    exception = insufficientStock ∧
      row.availableQuantity.toInt < quantity.toInt := by
  obtain ⟨fresh, rfl⟩ := hreserves.asked hindex hcall
  rcases hrefuses.of_reserve hreserves.quantity hreserves.customer
    (hreserves.keys index hindex) with
    ⟨other, stored, hother, hstored, -⟩ |
      ⟨-, hnone | ⟨hstock, product, hthere, hless⟩⟩
  · rw [hunused other hother] at hstored
    cases hstored
  · rw [hfind] at hnone
    cases hnone
  · rw [hfind, Option.some.injEq] at hthere
    exact ⟨hstock, hthere ▸ hless⟩

/-- Under an unused key and with enough stock it is not refused. -/
theorem permits_of_stock (hreserves : batch.Reserves productId quantity key)
    (hindex : index < batch.count)
    (hcall : (batch.request index).call batch.customer = .ok call)
    (hunused : db.Unused batch.customer (key index))
    (hfind : db.findProduct productId = some row)
    (hstock : quantity.toInt ≤ row.availableQuantity.toInt) :
    db.Permits call := by
  refine ⟨hreserves.sendable hindex hcall, fun exception hrefuses => ?_⟩
  have hless := (hreserves.refused_for_stock hindex hcall hunused hfind
    hrefuses).2
  omega

/-- Under a key that was used for the same it is not refused. -/
theorem permits_of_used
    (hreserves : batch.Reserves productId quantity key)
    (hindex : index < batch.count)
    (hcall : (batch.request index).call batch.customer = .ok call)
    {used : JavaString} {stored : Reservation} (hkey : key index = some used)
    (hused : db.findByCustomerIdAndIdempotencyKey batch.customer used =
      some stored)
    (hproduct : stored.productId = productId)
    (hsame : stored.quantity = quantity) : db.Permits call := by
  refine ⟨hreserves.sendable hindex hcall, fun exception hrefuses => ?_⟩
  obtain ⟨fresh, rfl⟩ := hreserves.asked hindex hcall
  rcases hrefuses.of_reserve hreserves.quantity hreserves.customer
    (hreserves.keys index hindex) with
    ⟨other, row, hother, hfind, hdiffers⟩ | ⟨hunused, -⟩
  · rw [hkey, Option.some.injEq] at hother
    rw [← hother, hused, Option.some.injEq] at hfind
    subst hfind
    tauto
  · rw [hunused used hkey] at hused
    cases hused

end Reserves

/-- Requests under one unused key, however they interleave, make one
reservation.  One of them is told that it is new and the others that it is
there, all with the same fields, and its units are taken once. -/
theorem Sent.same_key_batch_passes
    (hsent : batch.Sent texts sha256 s s' samples) {used : JavaString}
    (hreserves : batch.Reserves productId quantity fun _ => some used)
    (hunused : s.db.findByCustomerIdAndIdempotencyKey batch.customer used =
      none)
    (hfind : s.db.findProduct productId = some row)
    (hstock : quantity.toInt ≤ row.availableQuantity.toInt) :
    ∃ reservation fresh, reservation = Reservation.created fresh productId
        quantity batch.customer (some used) ∧
      requireSameReservation samples [(201, 1), (200, batch.count - 1)] none =
        .ok (texts.reservation (.ofReservation reservation)) ∧
      s'.db = s.db.reserving reservation row := by
  obtain ⟨commits, response, hserved⟩ := hsent.served
  have hwell := hsent.reachable.invariant.wellFormed
  have hbids := hreserves.bids_key hserved
  have hstart : ∀ index < batch.count, ∀ call,
      (batch.request index).call batch.customer = .ok call →
        s.db.Permits call := by
    intro index hindex call hcall
    refine hreserves.permits_of_stock hindex hcall ?_ hfind hstock
    intro key hkey
    rw [← Option.some.inj hkey]
    exact hunused
  cases commits with
  | nil => exact absurd rfl (hserved.commits_ne_nil hstart)
  | cons first rest =>
      obtain ⟨t, first⟩ := first
      obtain ⟨fresh, hreturned, hafter, hrest⟩ :=
        Serial.keyed hwell hserved.serial hbids hunused hfind
      obtain ⟨reservation, hreservation⟩ : ∃ reservation, reservation =
          Reservation.created fresh productId quantity batch.customer
            (some used) := ⟨_, rfl⟩
      have hused : (s.db.reserving reservation row
          ).findByCustomerIdAndIdempotencyKey batch.customer used =
            some reservation := by
        rw [hreservation]
        exact findByKey_reserving_self hunused
      rw [← hreservation] at hreturned hafter
      have hnew : ∀ request, (respond request first.returned).body =
          .reservation (.ofReservation reservation) ∧
            (respond request first.returned).status = 201 := by
        intro request
        rw [hreturned]
        exact ⟨rfl, rfl⟩
      have hpermitted : ∀ db, db = s.db ∨
          db = s.db.applyAll first.session.writes →
            ∀ index < batch.count, ∀ call,
              (batch.request index).call batch.customer = .ok call →
                db.Permits call := by
        rintro db (rfl | rfl) index hindex call hcall
        · exact hstart index hindex call hcall
        · rw [hafter]
          exact hreserves.permits_of_used hindex hcall rfl hused
            (by rw [hreservation]; rfl) (by rw [hreservation]; rfl)
      have hothers : ∀ completed ∈ rest.map Prod.snd, ∀ db, db = s.db ∨
          db = s.db.applyAll first.session.writes →
            Performs db completed.call completed.returned completed.session →
              ∀ request, (respond request completed.returned).body =
                .reservation (.ofReservation reservation) ∧
                  (respond request completed.returned).status = 200 := by
        intro completed hmem db hdb hperforms request
        obtain ⟨-, other, hreplayed⟩ := hrest completed hmem
        obtain ⟨hbid, hkey⟩ := hbids completed (List.mem_cons_of_mem _ hmem)
        have hfound := hbid.shown hkey hreplayed hperforms
        rcases hdb with rfl | rfl
        · rw [hunused] at hfound
          cases hfound
        · rw [hafter, hused, Option.some.injEq] at hfound
          rw [hreplayed, ← hfound]
          exact ⟨rfl, rfl⟩
      obtain ⟨hanswers, htables⟩ := hserved.of_first
        (fun completed hmem => (hrest completed hmem).1) hpermitted hnew
        hothers
      refine ⟨reservation, fresh, hreservation, ?_, htables.trans hafter⟩
      exact hserved.sameReservation (counterEquals_split (by omega)
        (fun index hindex => (hanswers index hindex).2)
        (hserved.length_of_commit List.mem_cons_self))
        (fun index hindex => (hanswers index hindex).1) (by simp)

def sampleReserve (quantity : Int32) (key : ℕ → JavaString) (index : ℕ) :
    Request :=
  .reserve ⟨BitVec.ofNat 128 (5 + index), ⟨2000⟩⟩ 1 quantity
    (some (key index))

theorem sampleReserve_reserves (quantity : Int32) (key : ℕ → JavaString)
    (hquantity : PositiveQuantity quantity)
    (hkeys : ∀ index < 2,
      Reservation.validateIdempotencyKey (some (key index)) = .ok ()) :
    (sampleBatch (sampleReserve quantity key)).Reserves 1 quantity
      fun index => some (key index) where
  requests index _ := ⟨_, rfl⟩
  quantity := hquantity
  customer := (by decide :
    Reservation.validateCustomerId (some [99]) = .ok [99])
  text := (by decide : (0 : UInt16) ∉ [99])
  keys := hkeys

theorem same_key_batch_passes_sample : ∃ s s' samples reservation fresh,
    (sampleBatch (sampleReserve 2 fun _ => [107])).Sent sampleTexts
      (fun _ => []) s s' samples ∧
    reservation = Reservation.created fresh 1 2 [99] (some [107]) ∧
      requireSameReservation samples [(201, 1), (200, 1)] none =
        .ok (sampleTexts.reservation (.ofReservation reservation)) ∧
      s'.db = sampleStock.reserving reservation
        ⟨1, [65, 49], [65], 5, ⟨1000⟩⟩ := by
  obtain ⟨s, s', samples, hdb, hsent⟩ := sampleBatch_sent sampleStock_reached
    (sampleReserve 2 fun _ => [107]) rfl rfl (Or.inl rfl)
    (by decide +kernel : ((System.initial.run (fun _ => [])
      (System.sampleActions.take 4)).bind (·.run (fun _ => [])
        (sampleRun (.reserve ⟨5, ⟨2000⟩⟩ 1 2 (some [99]) (some [107]))
          (.reserve ⟨6, ⟨2000⟩⟩ 1 2 (some [99]) (some [107])) 6 2
          (.commit 11 true)))).map _ = some true)
  obtain ⟨reservation, fresh, hreservation, hsame, htables⟩ :=
    hsent.same_key_batch_passes
      (sampleReserve_reserves 2 _ (by decide) (by decide))
      (by rw [hdb]; decide) (by rw [hdb]; rfl) (by decide)
  exact ⟨s, s', samples, reservation, fresh, hsent, hreservation, hsame,
    hdb ▸ htables⟩

/-- Retries under a key that has a reservation of the same units all show that
reservation as it is stored, active or cancelled, and change no table. -/
theorem Sent.retry_batch_passes
    (hsent : batch.Sent texts sha256 s s' samples) {used : JavaString}
    (hreserves : batch.Reserves productId quantity fun _ => some used)
    {stored : Reservation}
    (hstored : s.db.findByCustomerIdAndIdempotencyKey batch.customer used =
      some stored)
    (hproduct : stored.productId = productId)
    (hquantity : stored.quantity = quantity) :
    requireSameReservation samples [(200, batch.count)]
        (some (texts.reservation (.ofReservation stored))) =
      .ok (texts.reservation (.ofReservation stored)) ∧ s'.db = s.db := by
  obtain ⟨commits, response, hserved⟩ := hsent.served
  have hbids := hreserves.bids_key hserved
  have hreplays : ∀ completed ∈ commits.map Prod.snd,
      completed.HappensOn s.db → completed.session.writes = [] ∧
        ∃ reservation,
          completed.returned = .reservationResult reservation true := by
    intro completed hmem hhappens
    obtain ⟨⟨fresh, hcall⟩, hkey⟩ := hbids completed hmem
    rw [hkey] at hcall
    exact hhappens.quiet_of_used hcall hstored
  have hall : ∀ completed ∈ commits.map Prod.snd,
      completed.session.writes = [] ∧ ∃ reservation,
        completed.returned = .reservationResult reservation true := by
    intro completed hmem
    exact hreplays completed hmem (hserved.serial.quiet
      (fun other hother hhappens => (hreplays other hother hhappens).1)
      completed hmem)
  have hviews : ∀ earlier later, commits.map Prod.snd = earlier ++ later →
      s.db.applyAll (writesOf earlier) = s.db := by
    intro earlier later hsplit
    have hnone : writesOf earlier = [] := by
      apply List.flatMap_eq_nil_iff.mpr
      intro completed hmem
      exact (hall completed (by simp [hsplit, hmem])).1
    rw [hnone, Database.applyAll_nil]
  have hanswers : ∀ index < batch.count, (response index).body =
      .reservation (.ofReservation stored) ∧ (response index).status = 200 := by
    intro index hindex
    obtain ⟨completed, earlier, later, hsplit, hmem, hperforms, hresponse⟩ :=
      hserved.committed (fun earlier later hsplit index hindex call hcall => by
        rw [hviews earlier later hsplit]
        exact hreserves.permits_of_used hindex hcall rfl hstored hproduct
          hquantity) hindex
    have hcommit : completed ∈ commits.map Prod.snd :=
      List.mem_map.mpr ⟨_, hmem, rfl⟩
    obtain ⟨-, other, hreplayed⟩ := hall completed hcommit
    obtain ⟨hbid, hkey⟩ := hbids completed hcommit
    rw [hviews earlier later hsplit] at hperforms
    have hfound := hbid.shown hkey hreplayed hperforms
    rw [hstored, Option.some.injEq] at hfound
    rw [hresponse, hreplayed, ← hfound]
    exact ⟨rfl, rfl⟩
  constructor
  · exact hserved.sameReservation
      (counterEquals_same fun index hindex => (hanswers index hindex).2)
      (fun index hindex => (hanswers index hindex).1) (by simp)
  · rw [hserved.tables]
    exact hviews _ [] (List.append_nil _).symm

theorem retry_batch_passes_sample : ∃ s s' samples,
    (sampleBatch (sampleReserve 3 fun _ => [107])).Sent sampleTexts
      (fun _ => []) s s' samples ∧
    requireSameReservation samples [(200, 2)] (some (sampleTexts.reservation
        (.ofReservation System.activeReservation))) =
      .ok (sampleTexts.reservation
        (.ofReservation System.activeReservation)) ∧
    s'.db = s.db := by
  obtain ⟨s, s', samples, hdb, hsent⟩ := sampleBatch_sent sampleBooked_reached
    (sampleReserve 3 fun _ => [107]) rfl rfl (Or.inl rfl)
    (by decide +kernel : ((System.initial.run (fun _ => [])
      (System.sampleActions.take 20)).bind (·.run (fun _ => [])
        (sampleRun (.reserve ⟨5, ⟨2000⟩⟩ 1 3 (some [99]) (some [107]))
          (.reserve ⟨6, ⟨2000⟩⟩ 1 3 (some [99]) (some [107])) 2 2
          (.commit 11 true)))).map _ = some true)
  obtain ⟨hsame, htables⟩ := hsent.retry_batch_passes
    (sampleReserve_reserves 3 _ (by decide) (by decide))
    (by rw [hdb]; rfl) rfl rfl
  exact ⟨s, s', samples, hsent, hsame, htables⟩

/-! ### Competing requests -/

/-- No two requests have the same key. -/
def KeysApart (batch : Batch) (key : ℕ → Option JavaString) : Prop :=
  ∀ first < batch.count, ∀ second < batch.count, first ≠ second →
    ∀ used, key first = some used → key second ≠ some used

/-- Whatever part of the commits has happened, each of them made its
reservation. -/
theorem Reserves.booked (hreserves : batch.Reserves productId quantity key)
    (hapart : batch.KeysApart key)
    (hserved : batch.Served texts s s' samples commits response)
    (hwell : s.db.WellFormed)
    (hunused : ∀ index < batch.count, s.db.Unused batch.customer (key index))
    (hfind : s.db.findProduct productId = some row)
    {earlier later : List Completed}
    (hsplit : commits.map Prod.snd = earlier ++ later) :
    Booked productId quantity batch.customer s.db row earlier := by
  have hbids : ∀ completed ∈ commits.map Prod.snd,
      completed.call.Bids productId quantity batch.customer ∧
        s.db.Unused batch.customer completed.call.key := by
    intro completed hmem
    obtain ⟨⟨t, other⟩, hcommit, rfl⟩ := List.mem_map.mp hmem
    obtain ⟨index, hindex, -, hkey, hbid⟩ := hreserves.bids hserved hcommit
    exact ⟨hbid, hkey ▸ hunused index hindex⟩
  have hpairs : (commits.map Prod.snd).Pairwise fun first second =>
      ∀ used, first.call.key = some used → second.call.key ≠ some used := by
    rw [List.pairwise_map]
    refine (List.pairwise_map.mp hserved.serving.nodup).imp_of_mem ?_
    intro first second hfirst hsecond hne
    obtain ⟨one, hone, hsame, hkey, -⟩ := hreserves.bids hserved hfirst
    obtain ⟨two, htwo, hother, hlater, -⟩ := hreserves.bids hserved hsecond
    rw [hkey, hlater]
    refine hapart one hone two htwo ?_
    rintro rfl
    exact hne (hsame.symm.trans hother)
  have hserial := hserved.serial
  rw [hsplit] at hbids hpairs hserial
  exact (Serial.append.mp hserial).1.booked hwell
    (fun completed hmem => (hbids completed (List.mem_append_left _ hmem)).1)
    (List.pairwise_append.mp hpairs).1
    (fun completed hmem => (hbids completed (List.mem_append_left _ hmem)).2)
    hreserves.quantity hfind

/-- All were served, or fewer units are left than one of them needs. -/
theorem eq_min_of_stock {served count : ℕ} {stock left units : ℤ}
    (hunits : 0 < units) (hstock : left + served * units = stock)
    (hlow : 0 ≤ left) (hle : served ≤ count)
    (hlast : served = count ∨ left < units) :
    served = min count (stock / units).toNat := by
  have hquotient : stock / units = left / units + served := by
    rw [← hstock, Int.add_mul_ediv_right _ _ hunits.ne']
  rcases hlast with rfl | hless
  · have hrest : 0 ≤ left / units := Int.ediv_nonneg hlow hunits.le
    omega
  · have hrest : left / units = 0 := Int.ediv_eq_zero_of_lt hlow hless
    omega

/-- Requests that compete for the stock of a product under keys of their own,
with the product before and after them. -/
structure Contention (batch : Batch) (texts : JsonTexts) (s s' : System)
    (samples : List Sample) (commits : List (ℕ × Completed))
    (response : ℕ → HttpResponse) (productId : UUID) (quantity : Int32)
    (key : ℕ → Option JavaString) (row left : Product) : Prop where
  reserves : batch.Reserves productId quantity key
  apart : batch.KeysApart key
  served : batch.Served texts s s' samples commits response
  wellFormed : s.db.WellFormed
  unused : ∀ index < batch.count, s.db.Unused batch.customer (key index)
  find : s.db.findProduct productId = some row
  found : s'.db.findProduct productId = some left
  low : 0 ≤ left.availableQuantity.toInt

namespace Contention

variable {left : Product}

theorem booked (hcontends : batch.Contention texts s s' samples commits response
      productId quantity key row left) {earlier later : List Completed}
    (hsplit : commits.map Prod.snd = earlier ++ later) :
    Booked productId quantity batch.customer s.db row earlier :=
  hcontends.reserves.booked hcontends.apart hcontends.served
    hcontends.wellFormed hcontends.unused hcontends.find hsplit

theorem all_booked (hcontends : batch.Contention texts s s' samples commits
      response productId quantity key row left) :
    Booked productId quantity batch.customer s.db row
      (commits.map Prod.snd) :=
  hcontends.booked (List.append_nil _).symm

/-- What the commits took is missing from the stock. -/
theorem stock (hcontends : batch.Contention texts s s' samples commits response
      productId quantity key row left) :
    left.availableQuantity.toInt + commits.length * quantity.toInt =
      row.availableQuantity.toInt := by
  obtain ⟨last, hlast, hstock⟩ := hcontends.all_booked.stock
  rw [← hcontends.served.tables, hcontends.found, Option.some.injEq] at hlast
  rw [← hlast, List.length_map] at hstock
  exact hstock

/-- No commit of the batch has used the key of a request that was refused. -/
theorem unused_of_refused (hcontends : batch.Contention texts s s' samples
      commits response productId quantity key row left)
    (hindex : index < batch.count)
    (hnot : batch.transaction index ∉ commits.map Prod.fst)
    {earlier later : List Completed}
    (hsplit : commits.map Prod.snd = earlier ++ later) :
    (s.db.applyAll (writesOf earlier)).Unused batch.customer (key index) := by
  intro used hused
  refine (hcontends.booked hsplit).unused used ?_
    (hcontends.unused index hindex used hused)
  intro completed hmem hsame
  have hcommit : completed ∈ commits.map Prod.snd :=
    hsplit ▸ List.mem_append_left _ hmem
  obtain ⟨⟨t, other⟩, hentry, rfl⟩ := List.mem_map.mp hcommit
  obtain ⟨first, hfirst, ht, hkey, -⟩ :=
    hcontends.reserves.bids hcontends.served hentry
  have hne : first ≠ index := by
    rintro rfl
    exact hnot (List.mem_map.mpr ⟨_, hentry, ht.symm⟩)
  exact hcontends.apart first hfirst index hindex hne used (hkey ▸ hsame) hused

/-- What a request that competes for the stock is answered. -/
theorem competes (hcontends : batch.Contention texts s s' samples commits
      response productId quantity key row left) (hindex : index < batch.count) :
    (∃ completed reservation,
        (batch.transaction index, completed) ∈ commits ∧
          completed.call.freshId = some reservation.id ∧
          (response index).status = 201 ∧
          (response index).body = .reservation (.ofReservation reservation) ∧
          s'.db.findReservation reservation.id = some reservation) ∨
      batch.transaction index ∉ commits.map Prod.fst ∧
        response index = ApiExceptionHandler.handle insufficientStock ∧
          left.availableQuantity.toInt < quantity.toInt := by
  have hall := hcontends.all_booked
  cases hcontends.served.answered index hindex with
  | @committed completed earlier later hsplit hmem hcall hperforms hresponse =>
      have hcommit : completed ∈ commits.map Prod.snd :=
        List.mem_map.mpr ⟨_, hmem, rfl⟩
      obtain ⟨fresh, hreserve, hreturned⟩ := hall.books completed hcommit
      refine Or.inl ⟨completed, Reservation.created fresh productId quantity
        batch.customer completed.call.key, hmem, ?_, ?_, ?_, ?_⟩
      · rw [hreserve]
        rfl
      · rw [hresponse, hreturned]
        rfl
      · rw [hresponse, hreturned]
        rfl
      · rw [hcontends.served.tables]
        exact hall.stored completed hcommit _ hreturned
  | @refused call exception earlier later hsplit hnot hcall hrefuses
      hresponse =>
      obtain ⟨then_left, hthen, hearlier⟩ := (hcontends.booked hsplit).stock
      obtain ⟨rfl, hless⟩ :=
        hcontends.reserves.refused_for_stock hindex hcall
          (hcontends.unused_of_refused hindex hnot hsplit) hthen
          (hrefuses (hcontends.reserves.sendable hindex hcall))
      refine Or.inr ⟨hnot, hresponse, ?_⟩
      have hcount : (earlier.length : ℤ) ≤ commits.length := by
        have hlength : (commits.map Prod.snd).length = commits.length :=
          List.length_map _
        rw [← hlength, hsplit, List.length_append]
        omega
      have hone : 1 ≤ quantity.toInt := hcontends.reserves.quantity.1
      have hstock := hcontends.stock
      nlinarith

theorem status (hcontends : batch.Contention texts s s' samples commits response
      productId quantity key row left) (hindex : index < batch.count) :
    (response index).status =
      if decide (batch.transaction index ∈ commits.map Prod.fst) then 201
        else 409 := by
  rcases hcontends.competes hindex with
    ⟨completed, -, hmem, -, hstatus, -⟩ | ⟨hnot, hresponse, -⟩
  · rw [hstatus, if_pos (decide_eq_true (List.mem_map.mpr ⟨_, hmem, rfl⟩))]
  · rw [hresponse, if_neg (by simpa using hnot)]
    rfl

/-- As many requests are served as the stock allows. -/
theorem length_commits (hcontends : batch.Contention texts s s' samples commits
      response productId quantity key row left) :
    commits.length = min batch.count
      (row.availableQuantity.toInt / quantity.toInt).toNat := by
  have hone : 1 ≤ quantity.toInt := hcontends.reserves.quantity.1
  have hlength := hcontends.served.length_committed
  have hle : commits.length ≤ batch.count := by
    rw [← hlength]
    exact (List.length_filter_le _ _).trans_eq List.length_range
  apply eq_min_of_stock (by omega) hcontends.stock hcontends.low hle
  rw [or_iff_not_imp_right]
  intro hmany
  have hserve : ∀ index ∈ List.range batch.count,
      decide (batch.transaction index ∈ commits.map Prod.fst) = true := by
    intro index hindex
    rcases hcontends.competes (List.mem_range.mp hindex) with
      ⟨completed, -, hmem, -⟩ | ⟨-, -, hless⟩
    · exact decide_eq_true (List.mem_map.mpr ⟨_, hmem, rfl⟩)
    · exact absurd hless hmany
  rw [← hlength, List.filter_eq_self.mpr hserve, List.length_range]

/-- A request that got a reservation has one with the id of its own call. -/
theorem created (hcontends : batch.Contention texts s s' samples commits
      response productId quantity key row left) (hindex : index < batch.count)
    (hstatus : (response index).status = 201) :
    ∃ id : UUID, ∃ completed reservation,
      (batch.transaction index, completed) ∈ commits ∧
        completed.call.freshId = some id ∧ reservation.id = id ∧
          (response index).body = .reservation (.ofReservation reservation) ∧
            s'.db.findReservation id = some reservation := by
  rcases hcontends.competes hindex with
    ⟨completed, reservation, hmem, hfresh, -, hbody, hthere⟩ |
      ⟨-, hresponse, -⟩
  · exact ⟨_, completed, reservation, hmem, hfresh, rfl, hbody, hthere⟩
  · rw [hresponse] at hstatus
    cases hstatus

/-- Two commits of the batch that inserted under one id are those of one
request. -/
theorem eq_of_freshId (hcontends : batch.Contention texts s s' samples commits
      response productId quantity key row left) {first second : ℕ}
    (hfirst : first < batch.count) (hsecond : second < batch.count)
    {one two : Completed} (hone : (batch.transaction first, one) ∈ commits)
    (htwo : (batch.transaction second, two) ∈ commits)
    (hsame : one.call.freshId = two.call.freshId) : first = second := by
  have hids := hcontends.all_booked.ids
  rw [List.map_map] at hids
  have hentry := List.inj_on_of_nodup_map hids hone htwo hsame
  exact batch.distinct first hfirst second hsecond (Prod.mk.inj hentry).1

theorem sample (hcontends : batch.Contention texts s s' samples commits response
      productId quantity key row left) {answer : Sample}
    (hmem : answer ∈ samples) :
    ∃ index < batch.count, answer = (response index).sample texts index := by
  rw [hcontends.served.samples] at hmem
  obtain ⟨index, hindex, rfl⟩ := List.mem_map.mp hmem
  exact ⟨index, List.mem_range.mp hindex, rfl⟩

/-- The check of the answers. -/
theorem conflicts (hcontends : batch.Contention texts s s' samples commits
      response productId quantity key row left) :
    requireStockConflicts samples commits.length =
      .ok ((samples.filter (·.status == 201)).map (·.payload)) := by
  have hall : ∀ index < batch.count, (response index).status = 201 → _ :=
    fun index hindex => hcontends.created hindex
  choose! id hid using hall
  refine @requireStockConflicts_ok samples _
    (fun answer => UUID.text (id answer.index)) ?_ ?_ ?_ ?_
  · rw [hcontends.served.statuses, hcontends.served.samples, List.length_map,
      List.length_range]
    exact counterEquals_split (by omega)
      (fun index hindex => hcontends.status hindex)
      hcontends.served.length_committed
  · intro answer hmem hconflict
    obtain ⟨index, hindex, rfl⟩ := hcontends.sample hmem
    rcases hcontends.competes hindex with
      ⟨-, -, -, -, hstatus, -⟩ | ⟨-, hresponse, -⟩
    · rw [HttpResponse.sample, hstatus] at hconflict
      cases hconflict
    · rw [HttpResponse.sample, hresponse]
      exact texts.hasDetail_problem _ _
  · intro answer hmem hcreated
    obtain ⟨index, hindex, rfl⟩ := hcontends.sample hmem
    obtain ⟨-, reservation, -, -, hsame, hbody, -⟩ := hid index hindex hcreated
    rw [HttpResponse.sample, hbody, ← hsame]
    rfl
  · rw [hcontends.served.samples, List.filter_map, List.map_map]
    refine (List.nodup_range.filter _).map_on ?_
    intro first hfirst second hsecond hsame
    obtain ⟨hone, hstatus⟩ := List.mem_filter.mp hfirst
    obtain ⟨htwo, hother⟩ := List.mem_filter.mp hsecond
    rw [List.mem_range] at hone htwo
    obtain ⟨call, -, hmem, hfresh, -⟩ := hid first hone (beq_iff_eq.mp hstatus)
    obtain ⟨later, -, hlater, hagain, -⟩ :=
      hid second htwo (beq_iff_eq.mp hother)
    have hequal : id first = id second := UUID.text_injective hsame
    rw [← hequal, ← hfresh] at hagain
    exact hcontends.eq_of_freshId hone htwo hmem hlater hagain.symm

/-- Every answered reservation is stored as it was answered. -/
theorem stored (hcontends : batch.Contention texts s s' samples commits response
      productId quantity key row left) {value : JsonValue}
    (hvalue : value ∈ (samples.filter (·.status == 201)).map (·.payload)) :
    ∃ reservation ∈ s'.db.reservations,
      value = texts.reservation (.ofReservation reservation) := by
  obtain ⟨answer, hcreated, rfl⟩ := List.mem_map.mp hvalue
  obtain ⟨hmem, hstatus⟩ := List.mem_filter.mp hcreated
  obtain ⟨index, hindex, rfl⟩ := hcontends.sample hmem
  obtain ⟨-, -, reservation, -, -, rfl, hbody, hthere⟩ :=
    hcontends.created hindex (beq_iff_eq.mp hstatus)
  refine ⟨reservation, Database.findReservation_mem hthere, ?_⟩
  rw [HttpResponse.sample, hbody]
  rfl

/-- The check of the product passes when both replicas are asked for it. -/
theorem verified (hcontends : batch.Contention texts s s' samples commits
      response productId quantity key row left) (customer : JavaString)
    (first second : ℕ) :
    verifyStock
        (texts.body first (handle customer (.getProduct productId) s'.db).1.body)
        (texts.body second
          (handle customer (.getProduct productId) s'.db).1.body)
        (row.availableQuantity.toInt - commits.length * quantity.toInt) =
      .ok ⟨⟩ := by
  rw [handle_getProduct hcontends.found, ← hcontends.stock, add_sub_cancel_right]
  exact texts.verifyStock_product (.ofProduct left)

end Contention

theorem Sent.contention (hsent : batch.Sent texts sha256 s s' samples)
    (hreserves : batch.Reserves productId quantity key)
    (hapart : batch.KeysApart key)
    (hunused : ∀ index < batch.count, s.db.Unused batch.customer (key index))
    (hfind : s.db.findProduct productId = some row) :
    ∃ commits response left, batch.Contention texts s s' samples commits
      response productId quantity key row left := by
  obtain ⟨commits, response, hserved⟩ := hsent.served
  have hwell := hsent.reachable.invariant.wellFormed
  obtain ⟨left, hleft, -⟩ := (hreserves.booked hapart hserved hwell hunused
    hfind (List.append_nil _).symm).stock
  rw [← hserved.tables] at hleft
  have hlow : 0 ≤ left.availableQuantity.toInt :=
    (hsent.reaches.invariant.wellFormed.stockInRange
      (Database.findProduct_mem hleft)).1
  exact ⟨commits, response, left, hreserves, hapart, hserved, hwell, hunused,
    hfind, hleft, hlow⟩

/-- Of requests that compete under keys of their own, however they interleave,
as many get a reservation as the stock allows.  The others are told that the
stock is insufficient, every answered reservation is stored under an identity
of its own, and what they took is missing from the stock that both replicas
show then. -/
theorem Sent.contention_batch_passes
    (hsent : batch.Sent texts sha256 s s' samples)
    (hreserves : batch.Reserves productId quantity key)
    (hapart : batch.KeysApart key)
    (hunused : ∀ index < batch.count, s.db.Unused batch.customer (key index))
    (hfind : s.db.findProduct productId = some row) :
    ∃ successes created left, successes = min batch.count
        (row.availableQuantity.toInt / quantity.toInt).toNat ∧
      requireStockConflicts samples successes = .ok created ∧
      (∀ value ∈ created, ∃ reservation ∈ s'.db.reservations,
        value = texts.reservation (.ofReservation reservation)) ∧
      s'.db.findProduct productId = some left ∧
        left.availableQuantity.toInt + successes * quantity.toInt =
          row.availableQuantity.toInt ∧
        (∀ t, s'.transactions t = none) ∧ ∀ customer first second,
          verifyStock
              (texts.body first
                (handle customer (.getProduct productId) s'.db).1.body)
              (texts.body second
                (handle customer (.getProduct productId) s'.db).1.body)
              (row.availableQuantity.toInt - successes * quantity.toInt) =
            .ok ⟨⟩ := by
  obtain ⟨commits, response, left, hcontends⟩ :=
    hsent.contention hreserves hapart hunused hfind
  exact ⟨commits.length, _, left, hcontends.length_commits,
    hcontends.conflicts, fun value hvalue => hcontends.stored hvalue,
    hcontends.found, hcontends.stock, hsent.idle_after, hcontends.verified⟩

theorem sampleKeys_apart {request : ℕ → Request} :
    (sampleBatch request).KeysApart fun index =>
      some [107 + UInt16.ofNat index] := by
  have hapart : ∀ first < 2, ∀ second < 2, first ≠ second →
      107 + UInt16.ofNat first ≠ 107 + UInt16.ofNat second := by
    decide
  intro first hfirst second hsecond hne used hkey hother
  rw [← hkey, Option.some.injEq, List.cons.injEq] at hother
  exact hapart first hfirst second hsecond hne hother.1.symm

theorem contention_batch_passes_sample : ∃ s s' samples created left,
    (sampleBatch (sampleReserve 3 fun index =>
      [107 + UInt16.ofNat index])).Sent sampleTexts (fun _ => []) s s'
        samples ∧
    requireStockConflicts samples 1 = .ok created ∧
      s'.db.findProduct 1 = some left ∧
        left.availableQuantity.toInt + 1 * 3 = 5 := by
  obtain ⟨s, s', samples, hdb, hsent⟩ := sampleBatch_sent sampleStock_reached
    (sampleReserve 3 fun index => [107 + UInt16.ofNat index]) rfl rfl
    (Or.inr rfl) (by decide +kernel : ((System.initial.run (fun _ => [])
      (System.sampleActions.take 4)).bind (·.run (fun _ => [])
        (sampleRun (.reserve ⟨5, ⟨2000⟩⟩ 1 3 (some [99]) (some [107]))
          (.reserve ⟨6, ⟨2000⟩⟩ 1 3 (some [99]) (some [108])) 6 3
          (.fail 11)))).map _ = some true)
  obtain ⟨successes, created, left, rfl, hconflicts, -, hleft, hstock, -⟩ :=
    hsent.contention_batch_passes
      (sampleReserve_reserves 3 _ (by decide) (by decide))
      sampleKeys_apart (fun index hindex key hkey => by rw [hdb]; rfl)
      (by rw [hdb]; rfl)
  exact ⟨s, s', samples, created, left, hsent, hconflicts, hleft, hstock⟩

/-! ### One cancellation -/

/-- Every request cancels an active reservation of the customer, with a clock
that has not fallen behind its creation. -/
structure Cancels (batch : Batch) (db : Database) (stored : Reservation) :
    Prop where
  requests : ∀ index < batch.count, ∃ now,
    batch.request index = .cancel now stored.id ∧
      stored.createdAt.epochNanos ≤ now.truncatedToMicros.epochNanos
  wellFormed : db.WellFormed
  customer : Reservation.validateCustomerId (some batch.customer) =
    .ok batch.customer
  mem : stored ∈ db.reservations
  owner : stored.customerId = batch.customer
  active : stored.status = .active

namespace Cancels

variable {stored cancelled : Reservation}

theorem asked (hcancels : batch.Cancels db stored) (hindex : index < batch.count)
    (hcall : (batch.request index).call batch.customer = .ok call) :
    ∃ now, call = .cancelReservation now stored.id (some batch.customer) ∧
      stored.createdAt.epochNanos ≤ now.truncatedToMicros.epochNanos := by
  obtain ⟨now, hrequest, hclock⟩ := hcancels.requests index hindex
  rw [hrequest, Request.call, Except.ok.injEq] at hcall
  exact ⟨now, hcall.symm, hclock⟩

theorem of_commit (hcancels : batch.Cancels s.db stored)
    (hserved : batch.Served texts s s' samples commits response) :
    ∀ completed ∈ commits.map Prod.snd,
      completed.call.Cancels stored.id batch.customer := by
  intro completed hcompleted
  obtain ⟨⟨t, other⟩, hcommit, rfl⟩ := List.mem_map.mp hcompleted
  obtain ⟨⟨index, hindex, -, hcall⟩, -⟩ := hserved.serving.committed hcommit
  obtain ⟨now, hcancel, -⟩ := hcancels.asked hindex hcall
  exact ⟨now, hcancel⟩

theorem find (hcancels : batch.Cancels db stored) :
    db.findByIdAndCustomerId stored.id batch.customer = some stored := by
  rw [hcancels.wellFormed.findByIdAndCustomerId_eq,
    hcancels.wellFormed.findReservation_of_mem hcancels.mem]
  simp [Option.filter, hcancels.owner]

theorem sendable (hcancels : batch.Cancels db stored) (now : Instant) :
    (Call.cancelReservation now stored.id
      (some batch.customer)).Sendable := by
  rintro customer ⟨⟩
  exact hcancels.owner ▸ hcancels.wellFormed.customer_text hcancels.mem

/-- With room for the units no request is refused before the cancellation. -/
theorem permits (hcancels : batch.Cancels db stored) {product : Product}
    (hproduct : db.findProduct stored.productId = some product)
    (hroom : product.availableQuantity.toInt + stored.quantity.toInt ≤
      1000000) (hindex : index < batch.count)
    (hcall : (batch.request index).call batch.customer = .ok call) :
    db.Permits call := by
  obtain ⟨now, rfl, hclock⟩ := hcancels.asked hindex hcall
  refine ⟨hcancels.sendable now, fun exception hrefuses => ?_⟩
  obtain ⟨-, row, hrow, hbad⟩ :=
    hrefuses.of_cancel hcancels.customer hcancels.find
  rw [hproduct, Option.some.injEq] at hrow
  subst hrow
  omega

/-- No request is refused after it. -/
theorem permits_after (hcancels : batch.Cancels db stored) {after : Database}
    (hid : cancelled.id = stored.id) (hclosed : cancelled.status ≠ .active)
    (hafter : after.findByIdAndCustomerId cancelled.id batch.customer =
      some cancelled) (hindex : index < batch.count)
    (hcall : (batch.request index).call batch.customer = .ok call) :
    after.Permits call := by
  obtain ⟨now, rfl, -⟩ := hcancels.asked hindex hcall
  refine ⟨hcancels.sendable now, fun exception hrefuses => ?_⟩
  rw [← hid] at hrefuses
  exact hclosed (hrefuses.of_cancel hcancels.customer hafter).1

/-- The cancelled reservation is found under the customer's name. -/
theorem found_after (hcancels : batch.Cancels db stored) {after : Database}
    (hwell : after.WellFormed) (hid : cancelled.id = stored.id)
    (hbetween : CancelledBetween cancelled db after) :
    after.findByIdAndCustomerId cancelled.id batch.customer =
      some cancelled := by
  have hwas := hbetween.wasActive
  rw [hid, hcancels.wellFormed.findReservation_of_mem hcancels.mem,
    Option.some.injEq] at hwas
  have hsame : cancelled.customerId = batch.customer := by
    rw [← hcancels.owner, hwas]
  rw [hwell.findByIdAndCustomerId_eq, hbetween.isCancelled]
  simp [Option.filter, hsame]

/-- A cancellation that writes nothing shows the reservation as it is after
the first one. -/
theorem shown_again (hcancels : batch.Cancels s.db stored)
    {first completed : Completed} (hid : cancelled.id = stored.id)
    (hclosed : cancelled.status ≠ .active)
    (hafter : (s.db.applyAll first.session.writes).findByIdAndCustomerId
      cancelled.id batch.customer = some cancelled)
    (hcall : completed.call.Cancels stored.id batch.customer)
    (hquiet : completed.session.writes = [])
    (hdb : db = s.db ∨ db = s.db.applyAll first.session.writes)
    (hperforms : Performs db completed.call completed.returned
      completed.session) (request : Request) :
    (respond request completed.returned).body =
        .reservation (.ofReservation cancelled) ∧
      (respond request completed.returned).status = 200 := by
  obtain ⟨now, hcancel⟩ := hcall
  rw [hcancel] at hperforms
  rcases hdb with rfl | rfl
  · exact absurd hquiet
      (hperforms.writes_of_active hcancels.find hcancels.active)
  · rw [← hid] at hperforms
    rw [hperforms.cancelled_again hafter hclosed]
    exact ⟨rfl, rfl⟩

end Cancels

/-- Cancellations of one active reservation, however they interleave, all show
it cancelled in the same way, and its units are given back once. -/
theorem Sent.cancellation_batch_passes
    (hsent : batch.Sent texts sha256 s s' samples) {stored : Reservation}
    {product : Product}
    (hrequests : ∀ index < batch.count, ∃ now,
      batch.request index = .cancel now stored.id ∧
        stored.createdAt.epochNanos ≤ now.truncatedToMicros.epochNanos)
    (hmem : stored ∈ s.db.reservations)
    (howner : stored.customerId = batch.customer)
    (hactive : stored.status = .active)
    (hproduct : s.db.findProduct stored.productId = some product)
    (hroom : product.availableQuantity.toInt + stored.quantity.toInt ≤
      1000000) :
    ∃ cancelled, cancelled.id = stored.id ∧ cancelled.status = .cancelled ∧
      requireSameReservation samples [(200, batch.count)] none =
        .ok (texts.reservation (.ofReservation cancelled)) ∧
      CancelledBetween cancelled s.db s'.db := by
  obtain ⟨commits, response, hserved⟩ := hsent.served
  have hwell := hsent.reachable.invariant.wellFormed
  have hbatch : batch.Cancels s.db stored := ⟨hrequests, hwell,
    howner ▸ hsent.reachable.customer_valid hmem, hmem, howner, hactive⟩
  have hcancels := hbatch.of_commit hserved
  cases commits with
  | nil =>
      exact absurd rfl (hserved.commits_ne_nil fun index hindex call hcall =>
        hbatch.permits hproduct hroom hindex hcall)
  | cons first rest =>
      obtain ⟨t, first⟩ := first
      obtain ⟨cancelled, hid, hstatus, hreturned, -, hbetween, hquiet⟩ :=
        Serial.cancelled hwell hserved.serial hcancels hmem hactive
      dsimp only at hreturned hbetween
      have hclosed : cancelled.status ≠ .active := by
        rw [hstatus]
        decide
      have hafter := hbatch.found_after
        ((hserved.serial.1.legalAll hwell).wellFormed hwell) hid hbetween
      have hpermitted : ∀ db, db = s.db ∨
          db = s.db.applyAll first.session.writes →
            ∀ index < batch.count, ∀ call,
              (batch.request index).call batch.customer = .ok call →
                db.Permits call := by
        rintro db (rfl | rfl) index hindex call hcall
        · exact hbatch.permits hproduct hroom hindex hcall
        · exact hbatch.permits_after hid hclosed hafter hindex hcall
      have hnew : ∀ request, (respond request first.returned).body =
          .reservation (.ofReservation cancelled) ∧
            (respond request first.returned).status = 200 := by
        intro request
        rw [hreturned]
        exact ⟨rfl, rfl⟩
      obtain ⟨hanswers, htables⟩ := hserved.of_first hquiet hpermitted hnew
        fun completed hcompleted db hdb hperforms request =>
          hbatch.shown_again hid hclosed hafter
            (hcancels completed (List.mem_cons_of_mem _ hcompleted))
            (hquiet completed hcompleted) hdb hperforms request
      refine ⟨cancelled, hid, hstatus, ?_, htables ▸ hbetween⟩
      exact hserved.sameReservation
        (counterEquals_same fun index hindex => by
          rw [(hanswers index hindex).2, ite_self])
        (fun index hindex => (hanswers index hindex).1) (by simp)

theorem cancellation_batch_passes_sample : ∃ s s' samples cancelled,
    (sampleBatch fun _ => .cancel ⟨3000⟩ 2).Sent sampleTexts (fun _ => [])
      s s' samples ∧
    cancelled.status = .cancelled ∧
      requireSameReservation samples [(200, 2)] none =
        .ok (sampleTexts.reservation (.ofReservation cancelled)) ∧
      CancelledBetween cancelled s.db s'.db := by
  obtain ⟨s, s', samples, hdb, hsent⟩ := sampleBatch_sent sampleBooked_reached
    (fun _ => .cancel ⟨3000⟩ 2) rfl rfl (Or.inl rfl)
    (by decide +kernel : ((System.initial.run (fun _ => [])
      (System.sampleActions.take 20)).bind (·.run (fun _ => [])
        (sampleRun (.cancelReservation ⟨3000⟩ 2 (some [99]))
          (.cancelReservation ⟨3000⟩ 2 (some [99])) 4 2
          (.commit 11 true)))).map _ = some true)
  have hmem : System.activeReservation ∈ s.db.reservations := by
    rw [hdb]
    exact List.mem_singleton_self _
  have hproduct : s.db.findProduct System.activeReservation.productId =
      some ⟨1, [65, 49], [65], 6, ⟨1000⟩⟩ := by
    rw [hdb]
    rfl
  have hclock : System.activeReservation.createdAt.epochNanos ≤
      (⟨3000⟩ : Instant).truncatedToMicros.epochNanos := by
    decide
  obtain ⟨cancelled, -, hstatus, hsame, hbetween⟩ :=
    hsent.cancellation_batch_passes (fun _ _ => ⟨⟨3000⟩, rfl, hclock⟩) hmem
      rfl rfl hproduct (by decide)
  exact ⟨s, s', samples, cancelled, hsent, hstatus, hsame, hbetween⟩

end Batch

end InventoryCloud
