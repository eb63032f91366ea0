import InventoryCloud.DuplicateSkus
import InventoryCloud.InventoryEndpoints

/-!
# Requests over HTTP

What becomes of a request before a service method runs: the authorization
rules of `SecurityConfiguration`, the routes of `InventoryController`, and the
decoding and validation of the arguments.  Credentials are what the
authentication filter made of the `Authorization` header.  How bodies, ids and
numbers are read, and the texts of the framework's own errors, belong to the
web library.
-/

namespace InventoryCloud

inductive HttpMethod where
  | get
  | head
  | post
  | put
  | patch
  | delete
  | options
  deriving DecidableEq, Repr

inductive Credentials where
  | absent
  | rejected
  | accepted (name : JavaString) (authorities : List String)
  deriving DecidableEq, Repr

/-- The name of the authentication; an anonymous request has none. -/
def Credentials.name : Credentials → Option JavaString
  | .accepted name _ => some name
  | _ => none

/-- Basic authentication of local users, or bearer tokens. -/
inductive Profile where
  | local
  | production
  deriving DecidableEq, Repr

/-- The segments of the decoded path; a trailing slash is an empty segment. -/
abbrev Path := List String

structure HttpRequest (Body : Type) where
  method : HttpMethod
  path : Path
  credentials : Credentials
  /-- The content type is `application/json`. -/
  json : Bool
  body : Body
  page : Option String
  size : Option String
  idempotencyKey : Option JavaString

namespace ApiModels

structure Quantity where
  quantity : Option Int32
  deriving DecidableEq, Repr

structure CreateReservation where
  productId : Option UUID
  quantity : Option Int32
  deriving DecidableEq, Repr

/-- `@NotNull @Min(1) @Max(1_000_000)` -/
def quantityValid (quantity : Option Int32) : Bool :=
  quantity.any fun value => 1 ≤ value.toInt && value.toInt ≤ 1000000

def Quantity.valid (request : Quantity) : Bool :=
  quantityValid request.quantity

def CreateReservation.valid (request : CreateReservation) : Bool :=
  request.productId.isSome && quantityValid request.quantity

end ApiModels

structure WebLibrary (Body : Type) where
  readCreateProduct : Body → Option ApiModels.CreateProduct
  readQuantity : Body → Option ApiModels.Quantity
  readCreateReservation : Body → Option ApiModels.CreateReservation
  readUuid : String → Option UUID
  readInt : String → Option Int32
  noResource : Path → String
  methodNotSupported : HttpMethod → String
  mediaTypeNotSupported : String

/-! ## Authorization -/

namespace SecurityConfiguration

/-- A path, or with `below` a path and everything under it (`/**`). -/
structure Pattern where
  segments : Path
  below : Bool

def Pattern.matches (pattern : Pattern) (path : Path) : Bool :=
  if pattern.below then pattern.segments.isPrefixOf path
  else pattern.segments == path

inductive Access where
  | permitAll
  | hasRole (role : String)
  | authenticated
  | denyAll
  deriving DecidableEq, Repr

structure Rule where
  method : Option HttpMethod
  patterns : List Pattern
  access : Access

def Rule.matches (rule : Rule) (method : HttpMethod) (path : Path) : Bool :=
  rule.method.all (· == method) && rule.patterns.any (·.matches path)

def rules : List Rule :=
  [{ method := none
     patterns := [⟨[], false⟩, ⟨["index.html"], false⟩,
       ⟨["openapi.yaml"], false⟩, ⟨["error"], false⟩,
       ⟨["actuator", "health"], false⟩, ⟨["actuator", "health"], true⟩]
     access := .permitAll },
    { method := some .post
      patterns := [⟨["api", "v1", "products"], false⟩,
        ⟨["api", "v1", "products"], true⟩]
      access := .hasRole "ADMIN" },
    { method := none
      patterns := [⟨["actuator"], true⟩]
      access := .hasRole "ADMIN" },
    { method := none
      patterns := [⟨["api", "v1"], true⟩]
      access := .authenticated }]

/-- The first rule that matches decides; `anyRequest().denyAll()`. -/
def accessOf (method : HttpMethod) (path : Path) : Access :=
  ((rules.find? (·.matches method path)).map (·.access)).getD .denyAll

def Access.admits : Access → Credentials → Bool
  | .permitAll, _ => true
  | .hasRole role, .accepted _ authorities =>
      authorities.contains ("ROLE_" ++ role)
  | .authenticated, .accepted _ _ => true
  | _, _ => false

def rejection : Profile → String
  | .local => "Valid credentials are required"
  | .production => "A valid access token is required"

/-- The answer of the security filters, if they do not let the request pass. -/
def refusal (profile : Profile) (method : HttpMethod) (path : Path) :
    Credentials → Option HttpResponse
  | .rejected =>
      some (ApiExceptionHandler.problem 401 (rejection profile))
  | .absent =>
      if (accessOf method path).admits .absent then none
      else some (ApiExceptionHandler.problem 401 "Authentication is required")
  | .accepted name authorities =>
      if (accessOf method path).admits (.accepted name authorities) then none
      else some (ApiExceptionHandler.problem 403
        "You do not have permission for this operation")

end SecurityConfiguration

/-! ## Routes -/

inductive Handler where
  | createProduct
  | listProducts
  | getProduct (id : String)
  | addStock (id : String)
  | reserve
  | listReservations
  | getReservation (id : String)
  | cancel (id : String)
  deriving DecidableEq, Repr

namespace InventoryController

/-- The handlers of a path by method; a path variable is not empty. -/
def routes : Path → List (HttpMethod × Handler)
  | ["api", "v1", "products"] =>
      [(.post, .createProduct), (.get, .listProducts)]
  | ["api", "v1", "products", id] =>
      if id = "" then [] else [(.get, .getProduct id)]
  | ["api", "v1", "products", id, "stock"] =>
      if id = "" then [] else [(.post, .addStock id)]
  | ["api", "v1", "reservations"] =>
      [(.post, .reserve), (.get, .listReservations)]
  | ["api", "v1", "reservations", id] =>
      if id = "" then [] else [(.get, .getReservation id)]
  | ["api", "v1", "reservations", id, "cancel"] =>
      if id = "" then [] else [(.post, .cancel id)]
  | _ => []

/-- `HEAD` is served by the handler of `GET`. -/
def handlerOf (method : HttpMethod) (path : Path) : Option Handler :=
  (routes path).lookup (if method = .head then .get else method)

/-- What a request has come to. -/
inductive Dispatch where
  | answered (response : HttpResponse)
  /-- A static file, an actuator endpoint or the answer to `OPTIONS`. -/
  | elsewhere
  | handled (customer : Option JavaString) (request : Request)

variable {Body : Type}

def malformed : HttpResponse :=
  ApiExceptionHandler.problem 400
    "Request fields, path, or pagination parameters are invalid"

def invalid : HttpResponse :=
  ApiExceptionHandler.problem 400 "Request validation failed"

def unsupportedMedia (library : WebLibrary Body) : HttpResponse :=
  ApiExceptionHandler.problem 415 library.mediaTypeNotSupported

/-- A body that is read as JSON and validated. -/
def withBody {α : Type} (library : WebLibrary Body)
    (request : HttpRequest Body) (read : Body → Option α) (valid : α → Bool)
    (next : α → Except HttpResponse Request) : Except HttpResponse Request :=
  if request.json then
    match read request.body with
    | none => .error malformed
    | some value => if valid value then next value else .error invalid
  else .error (unsupportedMedia library)

def withId (library : WebLibrary Body) (id : String)
    (next : UUID → Except HttpResponse Request) : Except HttpResponse Request :=
  match library.readUuid id with
  | none => .error malformed
  | some id => next id

/-- `@RequestParam(defaultValue = "0") @Min(0) int page` and
`@RequestParam(defaultValue = "20") @Min(1) @Max(100) int size` -/
def withPage (library : WebLibrary Body) (request : HttpRequest Body)
    (next : Int32 → Int32 → Request) : Except HttpResponse Request :=
  match library.readInt (request.page.getD "0"),
      library.readInt (request.size.getD "20") with
  | some page, some size =>
      if 0 ≤ page.toInt ∧ 1 ≤ size.toInt ∧ size.toInt ≤ 100 then
        .ok (next page size)
      else .error malformed
  | _, _ => .error malformed

/-- The arguments of a handler, with what its call draws from the runtime. -/
def arguments (library : WebLibrary Body) (fresh : Fresh)
    (request : HttpRequest Body) : Handler → Except HttpResponse Request
  | .createProduct =>
      withBody library request library.readCreateProduct
        ApiModels.CreateProduct.valid fun body =>
          .ok (.createProduct fresh body.sku body.name
            (body.initialQuantity.getD 0))
  | .listProducts => withPage library request .listProducts
  | .getProduct id => withId library id fun id => .ok (.getProduct id)
  | .addStock id =>
      withId library id fun id =>
        withBody library request library.readQuantity
          ApiModels.Quantity.valid fun body =>
            .ok (.addStock id (body.quantity.getD 0))
  | .reserve =>
      withBody library request library.readCreateReservation
        ApiModels.CreateReservation.valid fun body =>
          .ok (.reserve fresh (body.productId.getD 0) (body.quantity.getD 0)
            request.idempotencyKey)
  | .listReservations => withPage library request .listReservations
  | .getReservation id => withId library id fun id => .ok (.getReservation id)
  | .cancel id =>
      -- `consumes` is part of the mapping and comes before the arguments.
      if request.json then
        withId library id fun id => .ok (.cancel fresh.now id)
      else .error (unsupportedMedia library)

/-- The security filters, then the route, then the arguments. -/
def dispatch (library : WebLibrary Body) (profile : Profile) (fresh : Fresh)
    (request : HttpRequest Body) : Dispatch :=
  match SecurityConfiguration.refusal profile request.method request.path
      request.credentials with
  | some response => .answered response
  | none =>
      match handlerOf request.method request.path with
      | some handler =>
          match arguments library fresh request handler with
          | .ok arguments => .handled request.credentials.name arguments
          | .error response => .answered response
      | none =>
          if (routes request.path).isEmpty then
            match request.path with
            | "api" :: _ => .answered (ApiExceptionHandler.problem 404
                (library.noResource request.path))
            | _ => .elsewhere
          else if request.method = .options then .elsewhere
          else .answered (ApiExceptionHandler.problem 405
            (library.methodNotSupported request.method))

/-- The handler asks for the name of the authentication. -/
def Request.asksName : Request → Bool
  | .reserve _ _ _ _ => true
  | .listReservations _ _ => true
  | .getReservation _ => true
  | .cancel _ _ => true
  | _ => false

/-- The service call that a request leads to, if it leads to one.  Asking an
absent authentication for its name throws. -/
def serviceCall (library : WebLibrary Body) (profile : Profile)
    (fresh : Fresh) (request : HttpRequest Body) : Option Call :=
  match dispatch library profile fresh request with
  | .handled (some customer) arguments => (arguments.call customer).toOption
  | .handled none arguments =>
      if arguments.asksName then none else (arguments.call []).toOption
  | _ => none

end InventoryController

end InventoryCloud
