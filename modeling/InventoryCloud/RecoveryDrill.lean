import InventoryCloud.PythonTexts
import InventoryCloud.StatefulPrograms

/-!
# The fixture of the recovery drill

`Fixture` of `recovery-drill.py`: a private network and tracked, labelled
containers, one-shot migrations, and the runtimes that may start after them.
Docker commands are queries, so that every answer and every failure of them
is possible; the fixture is the state, which an exception leaves as it is.
-/

namespace InventoryCloud

namespace RecoveryDrill

open Interaction JsonValue Python

def ownerLabel : String := "inventory.drill.run"

def purposeLabel : String := "inventory.drill.purpose"

def purpose : String := "disposable-local-verification"

structure RuntimeError where
  message : String

abbrev Failure := PythonError RuntimeError

def runtimeError (message : String) : Failure :=
  .own ⟨message⟩

abbrev Variables := List (String × String)

/-- How a Docker command ends: not started, not within its time, or with the
process having exited. -/
inductive DockerOutcome where
  | unavailable
  | timedOut
  | exited (returncode : Int) (stdout : List UInt8) (stderr : String)

inductive Request where
  | docker (arguments : List String) (environment : Variables) (timeout : Nat)
  /-- How many rounds a loop makes before the clock reaches its deadline. -/
  | rounds (seconds : Nat)
  | waitHealth (port : Int)

abbrev Response : Request → Type
  | .docker .. => DockerOutcome
  | .rounds _ => Nat
  | .waitHealth _ => Except Failure Unit

structure Passwords where
  admin : String
  customer : String

structure Fixture where
  runId : String
  namePrefix : String
  network : String
  containers : List String
  networkCreated : Bool
  passwords : Passwords
  dbPassword : String
  initialRuntimePassword : String
  runtimePasswords : String → Option String
  preparedDatabases : Finset String
  image : String
  databaseImage : String

/-- What `__init__` makes of the random values and of the images Docker
resolved. -/
def Fixture.new (runId : String) (passwords : Passwords)
    (dbPassword initialRuntimePassword image databaseImage : String) :
    Fixture where
  runId := runId
  namePrefix := "inventory-drill-" ++ String.ofList (runId.toList.take 12)
  network := "inventory-drill-" ++ String.ofList (runId.toList.take 12) ++
    "-network"
  containers := []
  networkCreated := false
  passwords := passwords
  dbPassword := dbPassword
  initialRuntimePassword := initialRuntimePassword
  runtimePasswords _ := none
  preparedDatabases := ∅
  image := image
  databaseImage := databaseImage

abbrev Drill := Stateful Failure Fixture Request Response

abbrev Trace := List (Exchange Request Response)

def fixture : Drill Fixture :=
  Stateful.current

def require (condition : Bool) (message : String) : Drill PUnit :=
  Stateful.check condition (runtimeError message)

/-- `subprocess.run`, as far as the exit status goes. -/
def returnCode : DockerOutcome → Except Failure Int
  | .unavailable => .error .osError
  | .timedOut => .error .otherError
  | .exited returncode _ _ => .ok returncode

def checkedOutput (arguments : List String) :
    DockerOutcome → Except Failure (List UInt8)
  | .unavailable => .error .osError
  | .timedOut => .error .otherError
  | .exited returncode stdout stderr =>
      if returncode ≠ 0 then
        .error (runtimeError
          ("Docker " ++ arguments.headD "" ++ " failed: " ++ strip stderr))
      else .ok stdout

def docker (arguments : List String) (environment : Variables)
    (timeout : Nat) : Drill (List UInt8) := do
  let outcome ← Stateful.ask (.docker arguments environment timeout)
  Stateful.step (checkedOutput arguments outcome)

/-! ### Owned resources -/

inductive Kind where
  | container
  | network
  deriving DecidableEq

def Kind.word : Kind → String
  | .container => "container"
  | .network => "network"

def Fixture.labels (fixture : Fixture) : List String :=
  ["--label", ownerLabel ++ "=" ++ fixture.runId,
    "--label", purposeLabel ++ "=" ++ purpose]

def createNetwork : Drill PUnit := do
  Stateful.change fun fixture => { fixture with networkCreated := true }
  let self ← fixture
  let _ ← docker (["network", "create"] ++ self.labels ++ [self.network]) [] 90
  pure ⟨⟩

/-- The resource is one this fixture has attempted to create. -/
def Fixture.tracks (fixture : Fixture) : Kind → String → Bool
  | .container, name => decide (name ∈ fixture.containers)
  | .network, name => decide (name = fixture.network) && fixture.networkCreated

def labelsOf : Kind → JsonValue → Except Failure JsonValue
  | .network, item => getOr "Labels" (.object []) item
  | .container, item => do
      let config ← getOr "Config" (.object []) item
      getOr "Labels" (.object []) config

/-- The item of an answer of `inspect`, if it carries the labels of the
run. -/
def ownedItem (python : Library RuntimeError) (runId : String) (kind : Kind)
    (name : String) (stdout : List UInt8) : Except Failure JsonValue := do
  let inspected ← python.loadsBytes stdout
  let item ← item 0 inspected
  let labels ← labelsOf kind item
  let owner ← getOr ownerLabel .null labels
  let stated ← getOr purposeLabel .null labels
  if owner = .string runId ∧ stated = .string purpose then pure item
  else throw (runtimeError
    ("Refusing operation: ownership labels do not match for " ++ name))

def owned (python : Library RuntimeError) (kind : Kind) (name : String) :
    Drill JsonValue := do
  let self ← fixture
  require (decide ((self.namePrefix ++ "-").toList <+: name.toList))
    "Refusing operation on a name outside this drill"
  require (self.tracks kind name)
    "Refusing operation on a resource not created by this fixture"
  let stdout ← docker [kind.word, "inspect", name] [] 90
  Stateful.step (ownedItem python self.runId kind name stdout)

def runContainer (python : Library RuntimeError) (role image : String)
    (arguments : List String) (environment : Variables) : Drill String := do
  let self ← fixture
  let name := self.namePrefix ++ "-" ++ role
  require (!decide (name ∈ self.containers))
    "Duplicate disposable container name"
  Stateful.change fun fixture =>
    { fixture with containers := fixture.containers ++ [name] }
  let _ ← docker (["run", "--detach", "--name", name] ++ self.labels ++
    ["--network", self.network] ++ arguments ++ [image]) environment 90
  let _ ← owned python .container name
  pure name

/-- `("--env", key)` for the keys of an environment. -/
def envArguments (environment : Variables) : List String :=
  environment.flatMap fun (key, _) => ["--env", key]

/-! ### Databases -/

/-- The loop of `wait_database` with the rounds that are left. -/
def pollDatabase (name : String) : Nat → Drill PUnit
  | 0 => Stateful.step (.error
      (runtimeError "Disposable PostgreSQL did not become ready"))
  | rounds + 1 => do
      let outcome ← Stateful.ask (.docker ["exec", name, "pg_isready", "-h",
        "127.0.0.1", "-U", "inventory", "-d", "inventory"] [] 10)
      let returncode ← Stateful.step (returnCode outcome)
      if returncode = 0 then pure ⟨⟩ else pollDatabase name rounds

def waitDatabase (python : Library RuntimeError) (name : String) :
    Drill PUnit := do
  let _ ← owned python .container name
  let rounds ← Stateful.ask (.rounds 45)
  pollDatabase name rounds

def startDatabase (python : Library RuntimeError) (role : String) :
    Drill String := do
  let self ← fixture
  let environment := [("POSTGRES_DB", "inventory"),
    ("POSTGRES_USER", "inventory"), ("POSTGRES_PASSWORD", self.dbPassword),
    ("POSTGRES_INITDB_ARGS", "--auth-host=scram-sha-256 --auth-local=trust")]
  let name ← runContainer python role self.databaseImage
    (["--tmpfs", "/var/lib/postgresql/data:rw,size=256m,mode=0700",
      "--memory", "384m", "--cpus", "1"] ++ envArguments environment)
    environment
  waitDatabase python name
  pure name

def databaseUrl (database : String) : String :=
  "jdbc:postgresql://" ++ database ++
    ":5432/inventory?socketTimeout=5&connectTimeout=3"

/-- What `docker container wait` printed, as the number of the exit status. -/
def exitCode (stdout : List UInt8) : Except Failure Int := do
  let decoded ← decode stdout
  let codeText := strip decoded
  if isdigit codeText then intOfText codeText
  else throw (runtimeError
    "Migration job did not return a numeric exit status")

/-- The inspected container has exited with status zero, and so did the job
when it was waited for. -/
def migrationSucceeded (code : Int) (state : JsonValue) :
    Except Failure Bool := do
  if code ≠ 0 then pure false
  else
    let status ← getOr "Status" .null state
    if status ≠ .string "exited" then pure false
    else
      let exited ← getOr "ExitCode" .null state
      pure (isZero exited)

def migrateDatabase (python : Library RuntimeError) (role database : String)
    (runtimePassword : Option String) : Drill String := do
  let _ ← owned python .container database
  Stateful.change fun fixture => { fixture with
    preparedDatabases := fixture.preparedDatabases.erase database }
  let self ← fixture
  let password := runtimePassword.getD self.initialRuntimePassword
  let environment := [("SPRING_PROFILES_ACTIVE", "migrate"),
    ("DB_URL", databaseUrl database), ("DB_USERNAME", "inventory"),
    ("DB_PASSWORD", self.dbPassword), ("DB_APP_PASSWORD", password)]
  let name ← runContainer python role self.image
    (["--no-healthcheck", "--read-only", "--tmpfs",
      "/tmp:rw,size=128m,mode=1777", "--cap-drop", "ALL", "--security-opt",
      "no-new-privileges:true", "--memory", "512m", "--cpus", "1"] ++
      envArguments environment) environment
  let _ ← owned python .container name
  let stdout ← docker ["container", "wait", name] [] 90
  let code ← Stateful.step (exitCode stdout)
  let item ← owned python .container name
  let state ← Stateful.step (getOr "State" (.object []) item)
  let succeeded ← Stateful.step (migrationSucceeded code state)
  require succeeded ("Disposable migration task failed (exit code " ++
    toString code ++ "); runtime startup blocked")
  Stateful.change fun fixture => { fixture with
    runtimePasswords := Function.update fixture.runtimePasswords database
      (some password)
    preparedDatabases := insert database fixture.preparedDatabases }
  pure name

/-! ### Runtimes -/

def stopContainer (python : Library RuntimeError) (name : String) :
    Drill PUnit := do
  let _ ← owned python .container name
  let _ ← docker ["container", "stop", "--time", "35", name] [] 45
  let item ← owned python .container name
  let state ← Stateful.step (getOr "State" (.object []) item)
  let status ← Stateful.step (getOr "Status" .null state)
  require (decide (status = .string "exited"))
    "Disposable runtime did not stop"

structure Api where
  port : Int
  passwords : Passwords

/-- The host's address and port of the published API. -/
def apiBinding (item : JsonValue) : Except Failure JsonValue := do
  let settings ← subscript "NetworkSettings" item
  let ports ← subscript "Ports" settings
  let bindings ← subscript "8080/tcp" ports
  Python.item 0 bindings

def startApp (python : Library RuntimeError) (role database : String) :
    Drill (String × Api) := do
  let _ ← owned python .container database
  let self ← fixture
  require (decide (database ∈ self.preparedDatabases))
    "Runtime startup requires a confirmed successful one-shot migration"
  let password ← Stateful.step (match self.runtimePasswords database with
    | some password => .ok password
    | none => .error .keyError)
  let environment := [("SPRING_PROFILES_ACTIVE", "local"),
    ("DB_URL", databaseUrl database), ("DB_USERNAME", "inventory_app"),
    ("DB_PASSWORD", password),
    ("APP_AUTH_ADMIN_PASSWORD", self.passwords.admin),
    ("APP_AUTH_CUSTOMER_PASSWORD", self.passwords.customer),
    ("SPRING_FLYWAY_ENABLED", "false")]
  let name ← runContainer python role self.image
    (["--publish", "127.0.0.1::8080", "--read-only", "--tmpfs",
      "/tmp:rw,size=128m,mode=1777", "--cap-drop", "ALL", "--security-opt",
      "no-new-privileges:true", "--memory", "768m", "--cpus", "1"] ++
      envArguments environment) environment
  let item ← owned python .container name
  let binding ← Stateful.step (apiBinding item)
  let hostIp ← Stateful.step (subscript "HostIp" binding)
  require (decide (hostIp = .string "127.0.0.1"))
    "Disposable API must bind only to loopback"
  let hostPort ← Stateful.step (subscript "HostPort" binding)
  let port ← Stateful.step (intOf hostPort)
  let healthy ← Stateful.ask (.waitHealth port)
  Stateful.step healthy
  pure (name, ⟨port, self.passwords⟩)

/-! ### Cleanup -/

/-- The arguments with which a kind of resource is listed and removed. -/
def listArguments : Kind → String → List String
  | .container, name => ["container", "ls", "--all", "--filter",
      "name=^/" ++ name ++ "$", "--format", "\x7b\x7b.Names\x7d\x7d"]
  | .network, name => ["network", "ls", "--filter", "name=^" ++ name ++ "$",
      "--format", "\x7b\x7b.Name\x7d\x7d"]

def removeArguments : Kind → String → List String
  | .container, name => ["container", "rm", "--force", name]
  | .network, name => ["network", "rm", name]

/-- The body of either `try` in `cleanup`. -/
def removeOwned (python : Library RuntimeError) (kind : Kind)
    (name : String) : Drill PUnit := do
  let stdout ← docker (listArguments kind name) [] 90
  let listed ← Stateful.step (decode stdout)
  if name ∉ splitlines listed then pure ⟨⟩
  else
    let _ ← owned python kind name
    let _ ← docker (removeArguments kind name) [] 90
    pure ⟨⟩

/-- `except Exception`: the resource with what was raised, whose text the
script appends to the name. -/
def attempted (name : String) (body : Drill PUnit) :
    Drill (List (String × Failure)) := do
  let outcome ← body.caught
  match outcome with
  | .ok _ => pure []
  | .error error => pure [(name, error)]

def removeContainers (python : Library RuntimeError) :
    List String → Drill (List (String × Failure))
  | [] => pure []
  | name :: rest => do
      let errors ← attempted name (removeOwned python .container name)
      let others ← removeContainers python rest
      pure (errors ++ others)

def cleanup (python : Library RuntimeError) :
    Drill (List (String × Failure)) := do
  let self ← fixture
  let errors ← removeContainers python self.containers.reverse
  if self.networkCreated then
    let others ← attempted self.network
      (removeOwned python .network self.network)
    pure (errors ++ others)
  else pure errors

/-! ### Sequences of operations -/

inductive Operation where
  | createNetwork
  | runContainer (role image : String) (arguments : List String)
      (environment : Variables)
  | startDatabase (role : String)
  | migrateDatabase (role database : String) (runtimePassword : Option String)
  | stopContainer (name : String)
  | startApp (role database : String)

/-- An operation, of which only the effect on the fixture stays. -/
def Operation.program (python : Library RuntimeError) :
    Operation → Drill PUnit
  | .createNetwork => RecoveryDrill.createNetwork
  | .runContainer role image arguments environment => do
      let _ ← RecoveryDrill.runContainer python role image arguments environment
      pure ⟨⟩
  | .startDatabase role => do
      let _ ← RecoveryDrill.startDatabase python role
      pure ⟨⟩
  | .migrateDatabase role database runtimePassword => do
      let _ ← RecoveryDrill.migrateDatabase python role database runtimePassword
      pure ⟨⟩
  | .stopContainer name => RecoveryDrill.stopContainer python name
  | .startApp role database => do
      let _ ← RecoveryDrill.startApp python role database
      pure ⟨⟩

/-- The fixture after some operations, with all exchanges so far; an operation
may have ended with an exception. -/
inductive Reached (python : Library RuntimeError)
    (allowed : Operation → Prop) (start : Fixture) : Fixture → Trace → Prop
  | start : Reached python allowed start start []
  | operation {fixture next : Fixture} {history trace : Trace}
      {operation : Operation} {outcome : Except Failure PUnit}
      (hreached : Reached python allowed start fixture history)
      (hallowed : allowed operation)
      (hrun : ((operation.program python).runFrom fixture).Runs trace
        (outcome, next)) :
      Reached python allowed start next (history ++ trace)

end RecoveryDrill

end InventoryCloud
