import InventoryCloud.CancellationFinality
import InventoryCloud.DeadlockFreedom
import InventoryCloud.HttpRequests
import InventoryCloud.IdempotencyKeys

/-!
# What requests are authorized to do

Every route of the controller lies behind a rule that asks for an
authentication, and the two routes that create or restock products behind the
one that asks for the administrator.  So in every run whose calls come from
requests, products and restocks stem from administrators, and reservations and
their cancellations from the customer whose name they bear.
-/

namespace InventoryCloud

open InventoryController
open SecurityConfiguration

/-- The filter authenticated the request under the name. -/
def Credentials.Names (credentials : Credentials) (name : JavaString) : Prop :=
  ∃ authorities, credentials = .accepted name authorities

def Credentials.HasRole (credentials : Credentials) (role : String) : Prop :=
  ∃ name authorities, credentials = .accepted name authorities ∧
    "ROLE_" ++ role ∈ authorities

def HttpRequest.Posts {Body : Type} (request : HttpRequest Body)
    (path : Path) : Prop :=
  request.method = .post ∧ request.path = path

/-- A call that writes comes from the request of someone who may ask for it;
a call that reads from anyone who is authenticated. -/
def Call.GrantedTo {Body : Type} (library : WebLibrary Body)
    (request : HttpRequest Body) : Call → Prop
  | .createProduct _ sku name initialQuantity => ∃ body,
      library.readCreateProduct request.body = some body ∧
        body.valid = true ∧ body.sku = sku ∧ body.name = name ∧
          body.initialQuantity = some initialQuantity ∧
            request.Posts ["api", "v1", "products"] ∧
              request.credentials.HasRole "ADMIN"
  | .addStock id quantity => ∃ text,
      library.readUuid text = some id ∧
        library.readQuantity request.body = some ⟨some quantity⟩ ∧
          request.Posts ["api", "v1", "products", text, "stock"] ∧
            request.credentials.HasRole "ADMIN"
  | .reserve _ productId quantity customerId key => ∃ name,
      customerId = some name ∧
        library.readCreateReservation request.body =
            some ⟨some productId, some quantity⟩ ∧
          request.idempotencyKey = key ∧
            request.Posts ["api", "v1", "reservations"] ∧
              request.credentials.Names name
  | .cancelReservation _ id customerId => ∃ name text,
      customerId = some name ∧ library.readUuid text = some id ∧
        request.Posts ["api", "v1", "reservations", text, "cancel"] ∧
          request.credentials.Names name
  | .listReservations customerId _ => ∃ name, customerId = some name ∧
      request.credentials.Names name
  | .getReservation _ customerId => ∃ name, customerId = some name ∧
      request.credentials.Names name
  | _ => ∃ name, request.credentials.Names name

/-! ## Every route is behind a rule -/

theorem accessOf_api (method : HttpMethod) (rest : Path) :
    accessOf method ("api" :: "v1" :: rest) =
      if method = .post ∧ ["products"].isPrefixOf rest = true then
        .hasRole "ADMIN"
      else .authenticated := by
  have hexact : ["products"] = rest → ["products"].isPrefixOf rest = true := by
    rintro rfl
    rfl
  by_cases hpost : HttpMethod.post = method
  · by_cases hproducts : ["products"].isPrefixOf rest = true
    · simp [accessOf, rules, Rule.matches, Pattern.matches, hpost, hproducts]
    · have hother : ["products"] ≠ rest := fun heq => hproducts (hexact heq)
      simp [accessOf, rules, Rule.matches, Pattern.matches, hproducts, hother]
  · have hother : ¬ method = .post := fun heq => hpost heq.symm
    simp [accessOf, rules, Rule.matches, Pattern.matches, hpost, hother]

/-- What the security filters let pass to a route. -/
theorem refusal_api {profile : Profile} {method : HttpMethod} {rest : Path}
    {credentials : Credentials}
    (hpassed : refusal profile method ("api" :: "v1" :: rest) credentials =
      none) :
    ∃ name authorities, credentials = .accepted name authorities ∧
      (method = .post → ["products"].isPrefixOf rest = true →
        "ROLE_ADMIN" ∈ authorities) := by
  cases credentials with
  | rejected => cases hpassed
  | absent =>
      have hclosed : (accessOf method ("api" :: "v1" :: rest)).admits
          .absent = false := by
        rw [accessOf_api]
        split <;> rfl
      simp [refusal, hclosed] at hpassed
  | accepted name authorities =>
      refine ⟨name, authorities, rfl, fun hpost hproducts => ?_⟩
      simp only [refusal, accessOf_api, hpost, hproducts, and_self,
        if_true] at hpassed
      split at hpassed
      next hadmits =>
        simpa [Access.admits] using hadmits
      next => cases hpassed

def Handler.method : Handler → HttpMethod
  | .createProduct => .post
  | .addStock _ => .post
  | .reserve => .post
  | .cancel _ => .post
  | _ => .get

def Handler.path : Handler → Path
  | .createProduct => ["api", "v1", "products"]
  | .listProducts => ["api", "v1", "products"]
  | .getProduct id => ["api", "v1", "products", id]
  | .addStock id => ["api", "v1", "products", id, "stock"]
  | .reserve => ["api", "v1", "reservations"]
  | .listReservations => ["api", "v1", "reservations"]
  | .getReservation id => ["api", "v1", "reservations", id]
  | .cancel id => ["api", "v1", "reservations", id, "cancel"]

theorem mem_routes {path : Path} {method : HttpMethod} {handler : Handler}
    (hroute : (method, handler) ∈ routes path) :
    method = handler.method ∧ path = handler.path := by
  unfold routes at hroute
  split at hroute
  case h_7 => cases hroute
  case h_1 | h_4 =>
    simp only [List.mem_cons, List.not_mem_nil, or_false,
      Prod.mk.injEq] at hroute
    rcases hroute with ⟨rfl, rfl⟩ | ⟨rfl, rfl⟩ <;> exact ⟨rfl, rfl⟩
  all_goals
    split at hroute
    next => cases hroute
    next =>
      cases List.mem_singleton.mp hroute
      exact ⟨rfl, rfl⟩

theorem handlerOf_some {method : HttpMethod} {path : Path} {handler : Handler}
    (hhandler : handlerOf method path = some handler) :
    path = handler.path ∧ (handler.method = .post → method = .post) := by
  obtain ⟨before, after, hroutes, -⟩ :=
    List.lookup_eq_some_iff.mp hhandler
  have hroute := mem_routes (hroutes ▸ List.mem_append_cons_self)
  refine ⟨hroute.2, fun hpost => ?_⟩
  rw [hpost] at hroute
  by_cases hhead : method = .head
  · rw [if_pos hhead] at hroute
    cases hroute.1
  · rw [if_neg hhead] at hroute
    exact hroute.1

theorem Handler.path_api (handler : Handler) :
    ∃ rest, handler.path = "api" :: "v1" :: rest := by
  cases handler <;> exact ⟨_, rfl⟩

/-! ## From the service call back to its request -/

variable {Body : Type} {library : WebLibrary Body} {profile : Profile}
  {fresh : Fresh} {request : HttpRequest Body}

theorem dispatch_handled {customer : Option JavaString} {handled : Request}
    (hdispatch : dispatch library profile fresh request =
      .handled customer handled) :
    ∃ handler name authorities,
      handlerOf request.method request.path = some handler ∧
        arguments library fresh request handler = .ok handled ∧
          request.credentials = .accepted name authorities ∧
            customer = some name ∧
              (request.method = .post → ∀ rest, request.path =
                "api" :: "v1" :: "products" :: rest →
                  "ROLE_ADMIN" ∈ authorities) := by
  unfold dispatch at hdispatch
  split at hdispatch
  next => cases hdispatch
  next hpassed =>
    split at hdispatch
    next handler hhandler =>
      split at hdispatch
      next arguments harguments =>
        cases hdispatch
        obtain ⟨rest, hrest⟩ := handler.path_api
        have hpath := (handlerOf_some hhandler).1.trans hrest
        rw [hpath] at hpassed
        obtain ⟨name, authorities, hcredentials, hadmin⟩ :=
          refusal_api hpassed
        refine ⟨handler, name, authorities, hhandler, harguments,
          hcredentials, ?_, fun hpost products hproducts => ?_⟩
        · rw [hcredentials]
          rfl
        · rw [hproducts] at hpath
          cases hpath
          exact hadmin hpost rfl
      next => cases hdispatch
    next =>
      split at hdispatch
      next => split at hdispatch <;> cases hdispatch
      next =>
        split at hdispatch
        next => cases hdispatch
        next => cases hdispatch

theorem withBody_ok {α : Type} {read : Body → Option α} {valid : α → Bool}
    {next : α → Except HttpResponse Request} {handled : Request}
    (hread : withBody library request read valid next = .ok handled) :
    ∃ value, read request.body = some value ∧ valid value = true ∧
      next value = .ok handled := by
  unfold withBody at hread
  split at hread
  next =>
    split at hread
    next => cases hread
    next value hvalue =>
      split at hread
      next hvalid => exact ⟨value, hvalue, hvalid, hread⟩
      next => cases hread
  next => cases hread

theorem withId_ok {text : String} {next : UUID → Except HttpResponse Request}
    {handled : Request} (hread : withId library text next = .ok handled) :
    ∃ id, library.readUuid text = some id ∧ next id = .ok handled := by
  unfold withId at hread
  split at hread
  next => cases hread
  next id hid => exact ⟨id, hid, hread⟩

theorem withPage_ok {next : Int32 → Int32 → Request} {handled : Request}
    (hread : withPage library request next = .ok handled) :
    ∃ page size, handled = next page size := by
  unfold withPage at hread
  split at hread
  next page size hpage hsize =>
    split at hread
    next => exact ⟨page, size, (Except.ok.inj hread).symm⟩
    next => cases hread
  next => cases hread

theorem pagination_call {call : Call} {page size : Int32}
    {make : PageRequest → Call}
    (hcall : ((pagination page size).map make).toOption = some call) :
    ∃ pageRequest, call = make pageRequest := by
  cases hpage : pagination page size with
  | error exception =>
      rw [hpage] at hcall
      cases hcall
  | ok pageRequest =>
      rw [hpage] at hcall
      exact ⟨pageRequest, (Option.some.inj hcall).symm⟩

theorem ApiModels.CreateProduct.initialQuantity_of_valid
    (body : ApiModels.CreateProduct) (hvalid : body.valid = true) :
    body.initialQuantity = some (body.initialQuantity.getD 0) := by
  obtain ⟨sku, name, initialQuantity⟩ := body
  cases initialQuantity with
  | none => simp [ApiModels.CreateProduct.valid] at hvalid
  | some quantity => rfl

/-- What leads to a service call is granted to the sender of the request. -/
theorem grantedTo_of_serviceCall {call : Call}
    (hcall : serviceCall library profile fresh request = some call) :
    call.GrantedTo library request := by
  unfold serviceCall at hcall
  split at hcall
  next customer handled hdispatch =>
    obtain ⟨handler, name, authorities, hhandler, harguments, hcredentials,
      hcustomer, hadmin⟩ := dispatch_handled hdispatch
    cases hcustomer
    obtain ⟨hpath, hpost⟩ := handlerOf_some hhandler
    have hnames : request.credentials.Names customer := ⟨authorities, hcredentials⟩
    have hrole : handler.method = .post → ∀ rest, handler.path =
        "api" :: "v1" :: "products" :: rest →
          request.credentials.HasRole "ADMIN" := fun hmethod rest hrest =>
      ⟨customer, authorities, hcredentials,
        hadmin (hpost hmethod) rest (hpath.trans hrest)⟩
    cases handler with
    | createProduct =>
        obtain ⟨body, hbody, hvalid, hnext⟩ := withBody_ok harguments
        cases hnext
        cases hcall
        exact ⟨body, hbody, hvalid, rfl, rfl,
          body.initialQuantity_of_valid hvalid, ⟨hpost rfl, hpath⟩,
          hrole rfl [] rfl⟩
    | listProducts =>
        obtain ⟨page, size, rfl⟩ := withPage_ok harguments
        obtain ⟨pageRequest, rfl⟩ := pagination_call hcall
        exact ⟨customer, hnames⟩
    | getProduct text =>
        obtain ⟨id, -, hnext⟩ := withId_ok harguments
        cases hnext
        cases hcall
        exact ⟨customer, hnames⟩
    | addStock text =>
        obtain ⟨id, hid, hread⟩ := withId_ok harguments
        obtain ⟨⟨quantity⟩, hbody, hvalid, hnext⟩ := withBody_ok hread
        cases quantity with
        | none => cases hvalid
        | some quantity =>
            cases hnext
            cases hcall
            exact ⟨text, hid, hbody, ⟨hpost rfl, hpath⟩,
              hrole rfl [text, "stock"] rfl⟩
    | reserve =>
        obtain ⟨⟨productId, quantity⟩, hbody, hvalid, hnext⟩ :=
          withBody_ok harguments
        cases productId with
        | none => cases hvalid
        | some productId =>
            cases quantity with
            | none => cases hvalid
            | some quantity =>
                cases hnext
                cases hcall
                exact ⟨customer, rfl, hbody, rfl, ⟨hpost rfl, hpath⟩, hnames⟩
    | listReservations =>
        obtain ⟨page, size, rfl⟩ := withPage_ok harguments
        obtain ⟨pageRequest, rfl⟩ := pagination_call hcall
        exact ⟨customer, rfl, hnames⟩
    | getReservation text =>
        obtain ⟨id, -, hnext⟩ := withId_ok harguments
        cases hnext
        cases hcall
        exact ⟨customer, rfl, hnames⟩
    | cancel text =>
        simp only [arguments] at harguments
        split at harguments
        next =>
          obtain ⟨id, hid, hnext⟩ := withId_ok harguments
          cases hnext
          cases hcall
          exact ⟨customer, text, rfl, hid, ⟨hpost rfl, hpath⟩, hnames⟩
        next => cases harguments
  next handled hdispatch =>
    obtain ⟨_, _, _, -, -, -, hcustomer, -⟩ := dispatch_handled hdispatch
    cases hcustomer
  next => cases hcall

/-! ## Runs of granted calls -/

variable {sha256 : List UInt8 → List UInt8}

/-- The transactions make one call each, and the calls are granted. -/
structure System.Granting (granted : ℕ → Call → Prop) (s : System) :
    Prop where
  live : ∀ {t transaction}, s.transactions t = some transaction →
    transaction.earlier = [] ∧ granted t transaction.call
  committed : ∀ {t server calls acknowledged},
    Event.finished t server (.committed calls acknowledged) ∈ s.history →
      ∀ completed ∈ calls, granted t completed.call

namespace System.Granting

variable {granted : ℕ → Call → Prop} {s s' : System} {t : ℕ}

theorem initial : System.initial.Granting granted where
  live hlive := by cases hlive
  committed hfinished := by cases hfinished

private theorem updated (hgranting : s.Granting granted)
    {updated : Option Transaction}
    (htransactions : s'.transactions =
      Function.update s.transactions t updated)
    (hupdated : ∀ transaction, updated = some transaction →
      transaction.earlier = [] ∧ granted t transaction.call)
    (hcommitted : ∀ {u server calls acknowledged},
      Event.finished u server (.committed calls acknowledged) ∈ s'.history →
        Event.finished u server (.committed calls acknowledged) ∈ s.history ∨
          ∀ completed ∈ calls, granted u completed.call) :
    s'.Granting granted where
  live := by
    intro u transaction hlive
    rcases live_of_update htransactions hlive with ⟨rfl, hnew⟩ | ⟨-, hold⟩
    · exact hupdated transaction hnew
    · exact hgranting.live hold
  committed := by
    intro u server calls acknowledged hfinished
    rcases hcommitted hfinished with hold | hnew
    · exact hgranting.committed hold
    · exact hnew

private theorem ended (hgranting : s.Granting granted) {server : ℕ}
    {outcome : Outcome}
    (htransactions : s'.transactions = Function.update s.transactions t none)
    (hhistory : s'.history = s.history ++ [.finished t server outcome])
    (houtcome : ∀ calls acknowledged,
      outcome = .committed calls acknowledged →
        ∀ completed ∈ calls, granted t completed.call) :
    s'.Granting granted := by
  refine hgranting.updated htransactions (fun _ hlive => by cases hlive) ?_
  intro u place calls acknowledged hfinished
  rw [hhistory, List.mem_append, List.mem_singleton] at hfinished
  rcases hfinished with hold | hlast
  · exact Or.inl hold
  · cases hlast
    exact Or.inr (houtcome calls acknowledged rfl)

theorem step {action : Action} (hgranting : s.Granting granted)
    (honly : action.StartsOnly)
    (hgranted : ∀ t server call, action = .begin t server call →
      granted t call)
    (hmoves : Moves sha256 s action s') : s'.Granting granted := by
  cases hmoves with
  | @begin t server call hfree hnew hfresh =>
      refine hgranting.updated rfl (fun transaction hlive => ?_)
        fun hfinished => ?_
      · cases hlive
        exact ⟨rfl, hgranted t server call rfl⟩
      · rcases List.mem_append.mp hfinished with hold | hlast
        · exact Or.inl hold
        · cases List.mem_singleton.mp hlast
  | next hlive hrest hfresh => exact absurd honly id
  | exec hlive hrest havailable =>
      have hsame := hgranting.live hlive
      refine hgranting.updated rfl (fun transaction hupdated => ?_) Or.inl
      cases hupdated
      exact hsame
  | @commit t acknowledged transaction returned session hlive hrest hclean =>
      obtain ⟨hfirst, hcall⟩ := hgranting.live hlive
      refine hgranting.ended rfl rfl fun calls _ hcommitted => ?_
      cases hcommitted
      intro completed hmem
      rw [hfirst] at hmem
      cases List.mem_singleton.mp hmem
      exact hcall
  | fail hlive hrest =>
      exact hgranting.ended rfl rfl fun _ _ hcommitted => by cases hcommitted
  | abort hlive hstatus =>
      exact hgranting.ended rfl rfl fun _ _ hcommitted => by cases hcommitted

end System.Granting

theorem System.granting_of_run {granted : ℕ → Call → Prop} {s : System}
    {actions : List Action} (honly : ∀ action ∈ actions, action.StartsOnly)
    (hgranted : ∀ t server call, .begin t server call ∈ actions →
      granted t call)
    (hrun : initial.run sha256 actions = some s) : s.Granting granted := by
  have hallowed : ∀ action ∈ actions, action.StartsOnly ∧
      ∀ t server call, action = .begin t server call → granted t call := by
    intro action hmem
    refine ⟨honly action hmem, ?_⟩
    rintro t server call rfl
    exact hgranted t server call hmem
  exact run_induction_of (P := fun s => s.Granting granted) hallowed .initial
    (fun hallowed hgranting hmoves =>
      hgranting.step hallowed.1 hallowed.2 hmoves) hrun

/-- The transaction committed the call. -/
def System.CommittedBy (s : System) (t : ℕ) (completed : Completed) : Prop :=
  ∃ server calls acknowledged,
    Event.finished t server (.committed calls acknowledged) ∈ s.history ∧
      completed ∈ calls

/-- What is durable was committed by some transaction. -/
theorem System.exists_committedBy {s : System} {completed : Completed}
    (hmem : completed ∈ s.durable) : ∃ t, s.CommittedBy t completed := by
  obtain ⟨event, hevent, hcompleted⟩ := List.mem_flatMap.mp hmem
  cases event with
  | invoked t server call => cases hcompleted
  | finished t server outcome =>
      cases outcome with
      | committed calls acknowledged =>
          exact ⟨t, server, calls, acknowledged, hevent, hcompleted⟩
      | failed exception => cases hcompleted
      | aborted status => cases hcompleted

theorem System.Granting.of_committedBy {granted : ℕ → Call → Prop}
    {s : System} {t : ℕ} {completed : Completed}
    (hgranting : s.Granting granted) (hcommitted : s.CommittedBy t completed) :
    granted t completed.call := by
  obtain ⟨server, calls, acknowledged, hevent, hmem⟩ := hcommitted
  exact hgranting.committed hevent completed hmem

/-- The only call of those durable which passes the test, by the transaction
that committed it. -/
structure System.OnlyCall (s : System) (test : Completed → Bool) (t : ℕ)
    (completed : Completed) : Prop where
  committed : s.CommittedBy t completed
  only : s.durable.filter test = [completed]

theorem System.exists_onlyCall {s : System} {test : Completed → Bool}
    {completed : Completed} (honly : s.durable.filter test = [completed]) :
    ∃ t, s.OnlyCall test t completed := by
  have hfiltered : completed ∈ s.durable.filter test :=
    honly ▸ List.mem_singleton_self completed
  obtain ⟨t, hcommitted⟩ :=
    exists_committedBy (List.mem_filter.mp hfiltered).1
  exact ⟨t, hcommitted, honly⟩

/-! ## Who made the rows -/

/-- The call made the product, under the SKU that it was asked for. -/
def Completed.makes (made : Product) (completed : Completed) : Bool :=
  match completed.call, completed.returned with
  | .createProduct _ sku _ _, .product product =>
      decide (product.id = made.id ∧ Product.normalizeSku sku = .ok made.sku)
  | _, _ => false

/-- The call made the reservation, as it was asked for. -/
def Completed.books (made : Reservation) (completed : Completed) : Bool :=
  match completed.call, completed.returned with
  | .reserve _ productId quantity customerId key,
      .reservationResult reservation false =>
      decide (reservation.id = made.id ∧ productId = made.productId ∧
        quantity = made.quantity ∧ customerId = some made.customerId ∧
          key = made.idempotencyKey)
  | _, _ => false

private theorem makes_follows (made : Product) :
    Follows (fun product => if product.id = made.id ∧ product.sku = made.sku
        then 1 else 0) (fun _ => 0)
      (fun completed => if completed.makes made then 1 else 0) where
  created {_ _ _ _ product} hnew := by
    obtain ⟨-, normalized, given, hsku, -, rfl⟩ := Product.new_ok hnew
    simp only [Completed.makes, hsku, Except.ok.injEq, decide_eq_true_eq]
  restocked _ _ := (Int.sub_self _).symm
  reserved _ _ _ := ((zero_add _).trans (Int.sub_self _)).symm
  cancelled _ _ _ _ := ((add_zero _).trans (Int.sub_self _)).symm
  quiet hquiet hperforms := by
    cases hperforms <;> first | rfl | cases hquiet

private theorem books_follows (made : Reservation) :
    Follows (fun _ => 0)
      (fun reservation => if reservation.id = made.id ∧
        reservation.productId = made.productId ∧
          reservation.quantity = made.quantity ∧
            reservation.customerId = made.customerId ∧
              reservation.idempotencyKey = made.idempotencyKey then 1 else 0)
      (fun completed => if completed.books made then 1 else 0) where
  created _ := rfl
  restocked _ _ := rfl
  reserved _ _ hcustomer := by
    rw [Reservation.validateCustomerId_ok hcustomer]
    simp only [Completed.books, Reservation.created, Option.some.injEq,
      decide_eq_true_eq, sub_self, add_zero]
    exact if_congr Iff.rfl rfl rfl
  cancelled _ _ _ _ := ((zero_add _).trans (Int.sub_self _)).symm
  quiet hquiet hperforms := by
    cases hperforms <;> first | rfl | cases hquiet

namespace System.Reachable

variable {s : System}

private theorem maker {forProduct : Product → ℤ}
    {forReservation : Reservation → ℤ} {makes : Completed → Bool}
    (hreach : Reachable sha256 s)
    (hfollows : Follows forProduct forReservation
      (fun completed => if makes completed then 1 else 0))
    (hone : s.db.total forProduct forReservation = 1) :
    ∃ t completed, s.OnlyCall makes t completed ∧ makes completed = true := by
  have hledger := hfollows.ledger hreach
  rw [hone, ← Rows.length_filter] at hledger
  have hlength : (s.durable.filter makes).length = 1 :=
    Int.ofNat_inj.mp hledger.symm
  obtain ⟨completed, hall⟩ := List.length_eq_one_iff.mp hlength
  have hfiltered : completed ∈ s.durable.filter makes :=
    hall ▸ List.mem_singleton_self completed
  obtain ⟨t, honly⟩ := exists_onlyCall hall
  exact ⟨t, completed, honly, (List.mem_filter.mp hfiltered).2⟩

theorem product_made (hreach : Reachable sha256 s) {product : Product}
    (hmem : product ∈ s.db.products) :
    ∃ t completed, s.OnlyCall (·.makes product) t completed ∧
      ∃ fresh sku name initialQuantity,
        completed.call = .createProduct fresh sku name initialQuantity ∧
          Product.normalizeSku sku = .ok product.sku := by
  have hids := hreach.invariant.wellFormed.productIds
  have hone := Rows.sum_map_single hids hmem fun row =>
    if row.sku = product.sku then (1 : ℤ) else 0
  simp only [← ite_and] at hone
  obtain ⟨t, completed, honly, hmakes⟩ :=
    hreach.maker (makes_follows product) (by simp [Database.total, hone])
  refine ⟨t, completed, honly, ?_⟩
  unfold Completed.makes at hmakes
  split at hmakes
  next hcall _ =>
    obtain ⟨-, hsku⟩ := of_decide_eq_true hmakes
    exact ⟨_, _, _, _, hcall, hsku⟩
  next => cases hmakes

theorem reservation_made (hreach : Reachable sha256 s)
    {reservation : Reservation} (hmem : reservation ∈ s.db.reservations) :
    ∃ t completed, s.OnlyCall (·.books reservation) t completed ∧ ∃ fresh,
      completed.call = .reserve fresh reservation.productId
        reservation.quantity (some reservation.customerId)
          reservation.idempotencyKey := by
  have hids := hreach.invariant.wellFormed.reservationIds
  have hone := Rows.sum_map_single hids hmem fun row =>
    if row.productId = reservation.productId ∧
      row.quantity = reservation.quantity ∧
        row.customerId = reservation.customerId ∧
          row.idempotencyKey = reservation.idempotencyKey
    then (1 : ℤ) else 0
  simp only [← ite_and] at hone
  obtain ⟨t, completed, honly, hbooks⟩ :=
    hreach.maker (books_follows reservation) (by simp [Database.total, hone])
  refine ⟨t, completed, honly, ?_⟩
  unfold Completed.books at hbooks
  split at hbooks
  next hcall _ =>
    obtain ⟨-, rfl, rfl, rfl, rfl⟩ := of_decide_eq_true hbooks
    exact ⟨_, hcall⟩
  next => cases hbooks

/-- A cancelled row was cancelled by a call of its customer. -/
theorem reservation_cancelled (hreach : Reachable sha256 s)
    {reservation : Reservation} (hmem : reservation ∈ s.db.reservations)
    (hcancelled : reservation.status = .cancelled) :
    ∃ t completed, s.OnlyCall (·.cancels reservation.id) t completed ∧
      ∃ now, completed.call = .cancelReservation now reservation.id
        (some reservation.customerId) := by
  have hcount := hreach.length_cancels hmem
  rw [if_pos hcancelled] at hcount
  obtain ⟨completed, hone⟩ :=
    List.length_eq_one_iff.mp (Int.ofNat_inj.mp hcount)
  have hfiltered : completed ∈ s.durable.filter
      (·.cancels reservation.id) := hone ▸ List.mem_singleton_self completed
  obtain ⟨hdurable, hcancels⟩ := List.mem_filter.mp hfiltered
  obtain ⟨t, honly⟩ := exists_onlyCall hone
  obtain ⟨before, after, -, hwell, hhappens, hevolves⟩ :=
    hreach.split hdurable
  have hlegal := hhappens.legalAll hwell
  rw [applyAll_writesOf_snoc] at hevolves
  obtain ⟨call, returned, session⟩ := completed
  cases call with
  | cancelReservation now id customerId =>
      simp only [Completed.cancels, Bool.and_eq_true, decide_eq_true_eq,
        Bool.not_eq_true', List.isEmpty_eq_false_iff] at hcancels
      obtain ⟨rfl, hwrites⟩ := hcancels
      rcases hhappens with hperforms | ⟨hquiet, -⟩
      · cases hperforms with
        | cancellationReplayed => exact absurd rfl hwrites
        | @cancelled _ _ _ customer row product hcustomer hfind hactive =>
            obtain ⟨hrow, hid, howner⟩ :=
              Database.findByIdAndCustomerId_some hfind
            obtain ⟨later, hlater, hmoves⟩ := (hlegal.evolves.trans
              hevolves).reservation (hwell.findReservation_of_mem hrow)
            rw [hid, hreach.invariant.wellFormed.findReservation_of_mem hmem]
              at hlater
            cases hlater
            refine ⟨t, _, honly, now, ?_⟩
            rw [Reservation.validateCustomerId_ok hcustomer, ← howner,
              hmoves.sameBooking.customerId]
      · exact absurd hquiet hwrites
  | _ => cases hcancels

end System.Reachable

namespace System

/-- Who asked for the calls and for the rows, by the requests of the very
transactions that committed them. -/
structure Authorized (library : WebLibrary Body)
    (requests : ℕ → HttpRequest Body) (s : System) : Prop where
  calls : ∀ t completed, s.CommittedBy t completed →
    completed.call.GrantedTo library (requests t)
  products : ∀ product ∈ s.db.products, ∃ t completed,
    s.OnlyCall (·.makes product) t completed ∧ ∃ body,
      library.readCreateProduct (requests t).body = some body ∧
        Product.normalizeSku body.sku = .ok product.sku ∧
          (requests t).Posts ["api", "v1", "products"] ∧
            (requests t).credentials.HasRole "ADMIN"
  reservations : ∀ reservation ∈ s.db.reservations, ∃ t completed,
    s.OnlyCall (·.books reservation) t completed ∧
      library.readCreateReservation (requests t).body =
          some ⟨some reservation.productId, some reservation.quantity⟩ ∧
        (requests t).idempotencyKey = reservation.idempotencyKey ∧
          (requests t).Posts ["api", "v1", "reservations"] ∧
            (requests t).credentials.Names reservation.customerId
  cancelled : ∀ reservation ∈ s.db.reservations,
    reservation.status = .cancelled → ∃ t completed,
      s.OnlyCall (·.cancels reservation.id) t completed ∧ ∃ text,
        library.readUuid text = some reservation.id ∧
          (requests t).Posts
            ["api", "v1", "reservations", text, "cancel"] ∧
            (requests t).credentials.Names reservation.customerId

/-- In a run whose calls come from requests, everything that was committed
was asked for by someone who may ask for it. -/
theorem requests_authorized {requests : ℕ → HttpRequest Body}
    {actions : List Action} {s : System}
    (hrun : initial.run sha256 actions = some s)
    (honly : ∀ action ∈ actions, action.StartsOnly)
    (hserved : ∀ t server call, .begin t server call ∈ actions →
      ∃ fresh, serviceCall library profile fresh (requests t) = some call) :
    s.Authorized library requests := by
  have hreach : Reachable sha256 s := ⟨actions, hrun⟩
  have hgranting : s.Granting fun t call =>
      call.GrantedTo library (requests t) := by
    refine granting_of_run honly (fun t server call hbegin => ?_) hrun
    obtain ⟨fresh, hcall⟩ := hserved t server call hbegin
    exact grantedTo_of_serviceCall hcall
  constructor
  · intro t completed hcommitted
    exact hgranting.of_committedBy hcommitted
  · intro product hmem
    obtain ⟨t, completed, honly, fresh, sku, name, initialQuantity, hcall,
      hsku⟩ := hreach.product_made hmem
    have hgranted := hgranting.of_committedBy honly.committed
    rw [hcall] at hgranted
    obtain ⟨body, hbody, -, rfl, -, -, hposts, hrole⟩ := hgranted
    exact ⟨t, completed, honly, body, hbody, hsku, hposts, hrole⟩
  · intro reservation hmem
    obtain ⟨t, completed, honly, fresh, hcall⟩ := hreach.reservation_made hmem
    have hgranted := hgranting.of_committedBy honly.committed
    rw [hcall] at hgranted
    obtain ⟨name, howner, hbody, hkey, hposts, hnames⟩ := hgranted
    cases howner
    exact ⟨t, completed, honly, hbody, hkey, hposts, hnames⟩
  · intro reservation hmem hcancelled
    obtain ⟨t, completed, honly, now, hcall⟩ :=
      hreach.reservation_cancelled hmem hcancelled
    have hgranted := hgranting.of_committedBy honly.committed
    rw [hcall] at hgranted
    obtain ⟨name, text, howner, hid, hposts, hnames⟩ := hgranted
    cases howner
    exact ⟨t, completed, honly, text, hid, hposts, hnames⟩

deriving instance DecidableEq for PageRequest
deriving instance DecidableEq for Call

/-- JSON texts, and ids and numbers as they are written. -/
def sampleLibrary : WebLibrary String where
  readCreateProduct body :=
    if body = "\x7b\"sku\":\"a1\",\"name\":\"A\",\"initialQuantity\":5\x7d" then
      some ⟨some [97, 49], some [65], some 5⟩
    else none
  readQuantity body :=
    if body = "\x7b\"quantity\":4\x7d" then some ⟨some 4⟩ else none
  readCreateReservation body :=
    if body = "\x7b\"productId\":\"00000000-0000-0000-0000-000000000001\"," ++
        "\"quantity\":3\x7d" then
      some ⟨some 1, some 3⟩
    else none
  readUuid text :=
    if text = "00000000-0000-0000-0000-000000000001" then some 1
    else if text = "00000000-0000-0000-0000-000000000002" then some 2
    else none
  readInt text :=
    if text = "0" then some 0 else if text = "20" then some 20 else none
  noResource _ := ""
  methodNotSupported _ := ""
  mediaTypeNotSupported := ""

def samplePost (path : Path) (credentials : Credentials) (body : String)
    (idempotencyKey : Option JavaString) : HttpRequest String where
  method := .post
  path := ["api", "v1"] ++ path
  credentials := credentials
  json := true
  body := body
  page := none
  size := none
  idempotencyKey := idempotencyKey

/-- The requests of `sampleActions`, by an administrator and a customer. -/
def sampleRequests : ℕ → HttpRequest String
  | 0 => samplePost ["products"] (.accepted [97] ["ROLE_ADMIN"])
      "\x7b\"sku\":\"a1\",\"name\":\"A\",\"initialQuantity\":5\x7d" none
  | 1 => samplePost
      ["products", "00000000-0000-0000-0000-000000000001", "stock"]
      (.accepted [97] ["ROLE_ADMIN"]) "\x7b\"quantity\":4\x7d" none
  | 4 => samplePost
      ["reservations", "00000000-0000-0000-0000-000000000002", "cancel"]
      (.accepted [99] ["ROLE_CUSTOMER"]) "" none
  | _ => samplePost ["reservations"] (.accepted [99] ["ROLE_CUSTOMER"])
      ("\x7b\"productId\":\"00000000-0000-0000-0000-000000000001\"," ++
        "\"quantity\":3\x7d") (some [107])

theorem requests_authorized_sample :
    ∃ s : System, initial.run (fun _ => []) sampleActions = some s ∧
      s.db.reservations.length = 1 ∧
        s.Authorized sampleLibrary sampleRequests := by
  have hrows : (initial.run (fun _ => []) sampleActions).map
      (·.db.reservations.length) = some 1 := by
    decide +kernel
  obtain ⟨s, hrun, hrow⟩ := Option.map_eq_some_iff.mp hrows
  refine ⟨s, hrun, hrow, @requests_authorized _ sampleLibrary .local _ _ _ s
    hrun ?_ ?_⟩
  · intro action hmem
    fin_cases hmem <;> trivial
  · intro t server call hmem
    simp only [sampleActions, List.mem_cons, List.not_mem_nil, or_false,
      false_or, reduceCtorEq, Action.begin.injEq] at hmem
    rcases hmem with ⟨rfl, -, rfl⟩ | ⟨rfl, -, rfl⟩ | ⟨rfl, -, rfl⟩ |
      ⟨rfl, -, rfl⟩ | ⟨rfl, -, rfl⟩
    · exact ⟨⟨1, ⟨1000⟩⟩, by decide +kernel⟩
    · exact ⟨⟨0, ⟨0⟩⟩, by decide +kernel⟩
    · exact ⟨⟨2, ⟨2000⟩⟩, by decide +kernel⟩
    · exact ⟨⟨3, ⟨2000⟩⟩, by decide +kernel⟩
    · exact ⟨⟨4, ⟨3000⟩⟩, by decide +kernel⟩

end System

end InventoryCloud
