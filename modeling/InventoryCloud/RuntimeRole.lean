import InventoryCloud.AccessControl

/-!
# Provisioning the runtime role

`runtime-role.sql`: one transaction which creates or adopts the login
`inventory_app`, takes away its memberships and grants and gives it the
privileges the application needs.
-/

namespace InventoryCloud

namespace RuntimeRole

open AccessControl

/-! ### The catalog -/

abbrev Role := String

inductive DatabasePrivilege where
  | create
  | connect
  | temporary
  deriving DecidableEq

inductive SchemaPrivilege where
  | create
  | usage
  deriving DecidableEq

inductive TablePrivilege where
  | select
  | insert
  | update
  | delete
  | truncate
  | references
  | trigger
  | maintain
  deriving DecidableEq

inductive SequencePrivilege where
  | select
  | update
  | usage
  deriving DecidableEq

/-- What `ALL` stands for. -/
def DatabasePrivilege.all : List DatabasePrivilege :=
  [.create, .connect, .temporary]

def SchemaPrivilege.all : List SchemaPrivilege :=
  [.create, .usage]

def TablePrivilege.all : List TablePrivilege :=
  [.select, .insert, .update, .delete, .truncate, .references, .trigger,
    .maintain]

def SequencePrivilege.all : List SequencePrivilege :=
  [.select, .update, .usage]

/-- An object with its list of privileges, which is absent until a first GRANT
or REVOKE.  The columns are those of a table. -/
structure Securable (Name Privilege : Type) where
  name : Name
  owner : Role
  acl : Option (Acl Role Privilege)
  columns : List (Acl Role Privilege)

abbrev Database := Securable String DatabasePrivilege

abbrev Schema := Securable String SchemaPrivilege

/-- Relations are named by their schema and their own name. -/
abbrev RelationName := String × String

abbrev Table := Securable RelationName TablePrivilege

abbrev Sequence := Securable RelationName SequencePrivilege

structure RoleAttributes where
  canLogin : Bool
  inherits : Bool
  isSuperuser : Bool
  isReplication : Bool
  bypassesRls : Bool
  createsDb : Bool
  createsRole : Bool
  password : Option String
  deriving DecidableEq

structure Membership where
  role : Role
  member : Role
  grantor : Role
  deriving DecidableEq

/-- `otherRelations` are the owners of the relations which are neither tables
nor sequences. -/
structure Catalog where
  roles : Role → Option RoleAttributes
  memberships : List Membership
  databases : List Database
  schemas : List Schema
  tables : List Table
  sequences : List Sequence
  otherRelations : List Role

/-- The privileges of an object whose list is absent. -/
def ownerPrivileges {Privilege : Type} (all : List Privilege) (owner : Role) :
    Acl Role Privilege :=
  all.map fun privilege => ⟨.role owner, owner, privilege, false⟩

def databaseDefault (owner : Role) : Acl Role DatabasePrivilege :=
  [.connect, .temporary].map (fun privilege =>
    ⟨.everyone, owner, privilege, false⟩) ++
    ownerPrivileges DatabasePrivilege.all owner

def schemaDefault : Role → Acl Role SchemaPrivilege :=
  ownerPrivileges SchemaPrivilege.all

def tableDefault : Role → Acl Role TablePrivilege :=
  ownerPrivileges TablePrivilege.all

def sequenceDefault : Role → Acl Role SequencePrivilege :=
  ownerPrivileges SequencePrivilege.all

/-! ### The statements -/

inductive ProvisionError where
  | passwordTooShort
  | ownsObjects
  | elevatedPrivileges
  | undefinedObject
  | notPermitted
  | acl (error : AclError)

inductive RoleCommand where
  | createRole
  | alterRole
  | alterPassword
  | revokeRole (role : Role)

/-- The session that runs the script.  Which role commands the server refuses
it is left open, as is the role with the admin option in whose name a user that
is no superuser revokes a membership. -/
structure Server where
  session : Session Role
  bootstrapSuperuser : Role
  adminFor : Role → Option Role
  refuses : RoleCommand → Catalog → Bool
  currentDatabase : String

def app : Role := "inventory_app"

abbrev Step := Except ProvisionError Catalog

def orFail {α : Type} (outcome : Except AclError α) :
    Except ProvisionError α :=
  outcome.mapError .acl

def permitted (server : Server) (command : RoleCommand) (catalog : Catalog) :
    Except ProvisionError Unit :=
  if server.refuses command catalog then .error .notPermitted else .ok ⟨⟩

def newRole : RoleAttributes where
  canLogin := true
  inherits := true
  isSuperuser := false
  isReplication := false
  bypassesRls := false
  createsDb := false
  createsRole := false
  password := none

def checkedPassword : Option String → Except ProvisionError String
  | none => .error .passwordTooShort
  | some password =>
      if password.toList.length < 16 then .error .passwordTooShort
      else .ok password

/-- `CREATE ROLE inventory_app LOGIN`, unless there is one.  A creator that is
no superuser becomes a member of the role. -/
def createRole (server : Server) (catalog : Catalog) : Step :=
  match catalog.roles app with
  | some _ => .ok catalog
  | none => do
      permitted server .createRole catalog
      .ok { catalog with
        roles := Function.update catalog.roles app (some newRole)
        memberships := catalog.memberships ++
          if server.session.isSuperuser then []
          else [⟨app, server.session.user, server.bootstrapSuperuser⟩] }

def ownsObjects (catalog : Catalog) : Bool :=
  (catalog.tables.any fun table => table.owner = app) ||
    (catalog.sequences.any fun sequence => sequence.owner = app) ||
    (catalog.otherRelations.any fun owner => owner = app) ||
    (catalog.schemas.any fun schema => schema.owner = app) ||
    catalog.databases.any fun database => database.owner = app

def isElevated (attributes : RoleAttributes) : Bool :=
  attributes.isSuperuser || attributes.isReplication ||
    attributes.bypassesRls || attributes.createsDb || attributes.createsRole

def checkRole (catalog : Catalog) : Except ProvisionError Unit :=
  if ownsObjects catalog then .error .ownsObjects
  else if (catalog.roles app).any isElevated then .error .elevatedPrivileges
  else .ok ⟨⟩

/-- `ALTER ROLE inventory_app …` -/
def alterRole (server : Server) (command : RoleCommand)
    (change : RoleAttributes → RoleAttributes) (catalog : Catalog) : Step := do
  permitted server command catalog
  .ok { catalog with
    roles := Function.update catalog.roles app
      ((catalog.roles app).map change) }

/-- The grantor in whose name `REVOKE role FROM member` is issued. -/
def inferredGrantor (server : Server) (role : Role) : Option Role :=
  if server.session.isSuperuser then some server.bootstrapSuperuser
  else server.adminFor role

/-- `REVOKE role FROM inventory_app`: it removes the membership granted by the
inferred grantor, and without one only warns. -/
def revokeRole (server : Server) (catalog : Catalog) (role : Role) : Step := do
  permitted server (.revokeRole role) catalog
  match inferredGrantor server role with
  | none => .error .notPermitted
  | some grantor =>
      .ok { catalog with
        memberships := catalog.memberships.filter
          (· ≠ ⟨role, app, grantor⟩) }

/-- The loop over the memberships there were at its start. -/
def revokeMemberships (server : Server) (catalog : Catalog) : Step :=
  ((catalog.memberships.filter fun membership =>
    membership.member = app).map Membership.role).foldlM
      (revokeRole server) catalog

section Objects

variable {Name Privilege : Type}

/-- A statement on the objects so described, of which there must be one if it
names them. -/
def changeEach (applies : Securable Name Privilege → Bool)
    (change : Securable Name Privilege →
      Except AclError (Securable Name Privilege))
    (objects : List (Securable Name Privilege)) :
    Except ProvisionError (List (Securable Name Privilege)) :=
  orFail (objects.mapM fun object =>
    if applies object then change object else .ok object)

variable [DecidableEq Privilege]

/-- `REVOKE privileges ON object FROM grantee`; on a table it revokes those of
the columns too. -/
def revokeOn (server : Server) (default : Role → Acl Role Privilege)
    (grantee : Grantee Role) (privileges : List Privilege)
    (object : Securable Name Privilege) :
    Except AclError (Securable Name Privilege) := do
  let acl := object.acl.getD (default object.owner)
  let after ← revoke server.session object.owner grantee privileges acl acl
  let columns ← object.columns.mapM fun column =>
    revoke server.session object.owner grantee privileges (acl ++ column) column
  pure { object with acl := some after, columns := columns }

/-- `GRANT privileges ON object TO inventory_app` -/
def grantOn (server : Server) (default : Role → Acl Role Privilege)
    (privileges : List Privilege) (object : Securable Name Privilege) :
    Except AclError (Securable Name Privilege) := do
  let acl := object.acl.getD (default object.owner)
  let after ← grant server.session object.owner (.role app) privileges acl
  pure { object with acl := some after }

end Objects

def requireSome {Name Privilege : Type} [DecidableEq Name] (name : Name)
    (objects : List (Securable Name Privilege)) :
    Except ProvisionError Unit :=
  if objects.any fun object => object.name = name then .ok ⟨⟩
  else .error .undefinedObject

/-- The statements on the database. -/
def restrictDatabase (server : Server) (catalog : Catalog) : Step := do
  requireSome server.currentDatabase catalog.databases
  let isCurrent := fun database : Database =>
    decide (database.name = server.currentDatabase)
  let databases ← changeEach isCurrent (revokeOn server databaseDefault
    .everyone DatabasePrivilege.all) catalog.databases
  let databases ← changeEach isCurrent (revokeOn server databaseDefault
    (.role app) DatabasePrivilege.all) databases
  let databases ← changeEach isCurrent (grantOn server databaseDefault
    [.connect]) databases
  pure { catalog with databases := databases }

/-- The statements on the schema `public`. -/
def restrictSchema (server : Server) (catalog : Catalog) : Step := do
  requireSome "public" catalog.schemas
  let isPublic := fun schema : Schema => decide (schema.name = "public")
  let schemas ← changeEach isPublic (revokeOn server schemaDefault
    .everyone [.create]) catalog.schemas
  let schemas ← changeEach isPublic (revokeOn server schemaDefault
    (.role app) SchemaPrivilege.all) schemas
  let schemas ← changeEach isPublic (grantOn server schemaDefault
    [.usage]) schemas
  pure { catalog with schemas := schemas }

def inPublic {Privilege : Type} (relation : Securable RelationName Privilege) :
    Bool :=
  decide (relation.name.1 = "public")

def applicationTables : List RelationName :=
  [("public", "products"), ("public", "reservations")]

/-- The statements on the tables and sequences of `public`. -/
def restrictRelations (server : Server) (catalog : Catalog) : Step := do
  let tables ← changeEach inPublic (revokeOn server tableDefault .everyone
    TablePrivilege.all) catalog.tables
  let tables ← changeEach inPublic (revokeOn server tableDefault (.role app)
    TablePrivilege.all) tables
  let sequences ← changeEach inPublic (revokeOn server sequenceDefault
    (.role app) SequencePrivilege.all) catalog.sequences
  requireSome ("public", "products") tables
  requireSome ("public", "reservations") tables
  let tables ← changeEach (fun table => applicationTables.contains table.name)
    (grantOn server tableDefault [.select, .insert, .update]) tables
  pure { catalog with tables := tables, sequences := sequences }

/-- The whole script. -/
def provision (server : Server) (runtimePassword : Option String)
    (catalog : Catalog) : Step := do
  let password ← checkedPassword runtimePassword
  let catalog ← createRole server catalog
  checkRole catalog
  let catalog ← alterRole server .alterRole
    (fun attributes =>
      { attributes with canLogin := true, inherits := false }) catalog
  let catalog ← revokeMemberships server catalog
  let catalog ← alterRole server .alterPassword
    (fun attributes => { attributes with password := some password }) catalog
  let catalog ← restrictDatabase server catalog
  let catalog ← restrictSchema server catalog
  restrictRelations server catalog

/-- The transaction: what has been committed when it is over. -/
def provisioned (server : Server) (runtimePassword : Option String)
    (catalog : Catalog) : Catalog :=
  match provision server runtimePassword catalog with
  | .ok after => after
  | .error _ => catalog

/-! ### A server -/

namespace Sample

def owned {Name Privilege : Type} (name : Name) :
    Securable Name Privilege where
  name := name
  owner := "inventory"
  acl := none
  columns := []

/-- A catalog after the migrations, with further tables and memberships and
without the runtime role. -/
def catalog (tables : List Table) (memberships : List Membership) :
    Catalog where
  roles role := if role = "inventory" then some newRole else none
  memberships := memberships
  databases := [owned "inventory"]
  schemas := [owned "public"]
  tables := [owned ("public", "products"), owned ("public", "reservations"),
    owned ("public", "flyway_schema_history")] ++ tables
  sequences := []
  otherRelations := []

/-- The owner of the database, which may not be a superuser. -/
def server (isSuperuser : Bool) : Server where
  session := ⟨"inventory", isSuperuser, ["inventory"]⟩
  bootstrapSuperuser := "postgres"
  adminFor _ := none
  refuses _ _ := false
  currentDatabase := "inventory"

def password : Option String := some "0123456789abcdef"

/-- A table of another role, which everyone may read. -/
def auditTable : Table where
  name := ("public", "audit")
  owner := "bob"
  acl := some [⟨.everyone, "bob", .select, false⟩]
  columns := []

end Sample

end RuntimeRole

end InventoryCloud
