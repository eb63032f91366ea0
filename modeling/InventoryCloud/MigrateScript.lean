import InventoryCloud.ReleaseCommands

/-!
# The migration script

`migrate-ecs.sh`, statement by statement: the gate and the fresh snapshot, the
registration and the start of one migration task, the wait with its stop, and
the check of the finished task.
-/

namespace InventoryCloud

namespace MigrateScript

open Interaction JsonValue Shell ReleaseFilters ReleaseCommands

/-- The variables of the script, and the contents of its files. -/
structure State where
  trapped : Bool
  migrationDir : String
  compatibility : String
  repositoryUri : String
  base : String
  next : String
  service : String
  network : String
  nextTask : String
  requestId : String
  run : String
  taskArn : String
  completed : String

def State.initial : State :=
  ⟨false, "", "", "", "", "", "", "", "", "", "", "", ""⟩

/-! ### Filters -/

/-- `.services[0].networkConfiguration` -/
def networkConfiguration : Jq.Filter := fun response => do
  let network ← Jq.path (Jq.field "services" response >>= Jq.entry 0)
    ["networkConfiguration"]
  pure [network]

/-- `value > 0` for a number. -/
def isPositive : JsonValue → Bool
  | .integer value => 0 < value
  | .decimal value => 0 < value
  | .nonFinite .infinity => true
  | _ => false

/-- `.awsvpcConfiguration.subnets | length > 0` -/
def hasSubnets : Jq.Filter := fun network => do
  let count ← Jq.path (Jq.field "awsvpcConfiguration" network) ["subnets"] >>=
    Jq.length
  pure [.bool (isPositive count)]

/-- The checks of `(.failures | length) == 0 and (.tasks | length) == 1`. -/
def oneTask (response : JsonValue) : List (Jq.Result Bool) :=
  [Jq.equalTo (Jq.field "failures" response >>= Jq.length) (.integer 0),
    Jq.equalTo (Jq.field "tasks" response >>= Jq.length) (.integer 1)]

def scheduled : Jq.Filter := fun response => do
  let accepted ← Jq.conjunction (oneTask response)
  pure [.bool accepted]

/-- `.tasks[0].taskArn | select(startswith("arn:aws:ecs:"))` -/
def startedTask : Jq.Filter := fun response => do
  let arn ← Jq.path (Jq.field "tasks" response >>= Jq.entry 0) ["taskArn"]
  match arn with
  | .string text =>
      pure (if startsWith "arn:aws:ecs:" text then [arn] else [])
  | _ => throw .notAText

/-- `[.tasks[0].containers[] | select(.name == "migration")]` -/
def migrationContainers (response : JsonValue) : Jq.Result JsonValue := do
  let containers ← Jq.path (Jq.field "tasks" response >>= Jq.entry 0)
    ["containers"]
  let values ← Jq.iterate containers
  let named ← Jq.selectNamed (.string "migration") values
  pure (.array named)

/-- The check of the finished task. -/
def succeeded : Jq.Filter := fun response => do
  let accepted ← Jq.conjunction (oneTask response ++
    [Jq.equalTo (Jq.path (Jq.field "tasks" response >>= Jq.entry 0)
        ["lastStatus"]) (.string "STOPPED"),
      Jq.equalTo (migrationContainers response >>= Jq.length) (.integer 1),
      Jq.equalTo (Jq.path (migrationContainers response >>= Jq.entry 0)
        ["exitCode"]) (.integer 0)])
  pure [.bool accepted]

section Script

variable (format : Jq.TextFormat) (invocation : Invocation)

/-- `"$repository_uri@$IMAGE_DIGEST"` -/
def requestedImage (state : State) : String :=
  state.repositoryUri ++ "@" ++ invocation.value "IMAGE_DIGEST"

/-! ### The commands -/

def runArguments (task requestId migrationDir : String) : List String :=
  ["aws", "ecs", "run-task", "--cluster", invocation.value "ECS_CLUSTER",
    "--task-definition", task, "--launch-type", "FARGATE",
    "--platform-version", "1.4.0", "--count", "1", "--client-token",
    requestId, "--network-configuration",
    "file://" ++ migrationDir ++ "/network.json", "--output", "json"]

def waitArguments (task : String) : List String :=
  ["aws", "ecs", "wait", "tasks-stopped", "--cluster",
    invocation.value "ECS_CLUSTER", "--tasks", task]

def stopArguments (task : String) : List String :=
  ["aws", "ecs", "stop-task", "--cluster", invocation.value "ECS_CLUSTER",
    "--task", task, "--reason", "Migration wait failed; block release"]

def tasksArguments (task : String) : List String :=
  ["aws", "ecs", "describe-tasks", "--cluster",
    invocation.value "ECS_CLUSTER", "--tasks", task, "--output", "json"]

def completedText : String :=
  "(.failures | length) == 0 and (.tasks | length) == 1\n" ++
    "  and .tasks[0].lastStatus == \"STOPPED\"\n" ++
    "  and ([.tasks[0].containers[] | select(.name == \"migration\")] | length) == 1\n" ++
    "  and ([.tasks[0].containers[] | select(.name == \"migration\")][0].exitCode == 0)"

/-! ### Lines 3 to 28 -/

def nextDefinition (state : State) : Nat × String :=
  Jq.run format false
    (releaseDefinition "migration" (requestedImage invocation state))
    state.base

def preparePhase : List (Shell.Script State) :=
  [setVariable invocation "AWS_REGION" "Set AWS_REGION",
    setVariable invocation "ECS_CLUSTER" "Set ECS_CLUSTER",
    setVariable invocation "ECS_SERVICE" "Set ECS_SERVICE",
    setVariable invocation "ECR_REPOSITORY" "Set ECR_REPOSITORY",
    setVariable invocation "IMAGE_DIGEST" "Set IMAGE_DIGEST",
    setVariable invocation "MIGRATION_TASK_DEFINITION"
      "Set MIGRATION_TASK_DEFINITION from Terraform output",
    requireDigest invocation,
    external (fun _ => ["mktemp", "-d"]) (fun _ => []) fun done state =>
      { state with migrationDir := substituted done.stdout },
    note fun state => { state with trapped := true },
    externalIn invocation.script (fun directory _ => gateArguments directory)
      fun done state => { state with compatibility := done.stdout },
    external (fun _ => repositoriesArguments invocation) (fun _ => [])
      fun done state =>
        { state with repositoryUri := substituted done.stdout },
    external (fun _ => imagesArguments invocation) (fun _ => [])
      fun _ state => state,
    external (fun _ => describeArguments
        (invocation.value "MIGRATION_TASK_DEFINITION")) (fun _ => [])
      fun done state => { state with base := done.stdout },
    jq (fun state => definitionArguments "migration"
        (requestedImage invocation state)
        (state.migrationDir ++ "/base.json"))
      (fun state => [state.base]) (nextDefinition format invocation)
      fun stdout state => { state with next := stdout },
    external (fun _ => servicesArguments invocation) (fun _ => [])
      fun done state => { state with service := done.stdout },
    .orElse
      (jqIn invocation.script
        (fun directory state =>
          baselineArguments directory state.migrationDir)
        (fun state => [state.compatibility, state.service])
        fun state => baselineRun format state.compatibility state.service)
      (.sequence (echo fun _ =>
        "Service changed after image verification; no migration was started. Retry with one release operator.")
        (.exit 1)),
    jq (fun state => ["jq", "-e", ".services[0].networkConfiguration",
        state.migrationDir ++ "/service.json"])
      (fun state => [state.service])
      (fun state => Jq.run format false networkConfiguration state.service)
      fun stdout state => { state with network := stdout },
    jq (fun state => ["jq", "-e", ".awsvpcConfiguration.subnets | length > 0",
        state.migrationDir ++ "/network.json"])
      (fun state => [state.network])
      (fun state => Jq.run format false hasSubnets state.network)
      fun _ state => state]

/-! ### Lines 29 to 38 -/

def registerNext : Shell.Script State :=
  external (fun state => registerArguments state.migrationDir)
    (fun state => [state.next]) fun done state =>
      { state with nextTask := substituted done.stdout }

def nameRequest : Shell.Script State :=
  external (fun _ => ["python3", "-c", "import uuid; print(uuid.uuid4())"])
    (fun _ => []) fun done state =>
      { state with requestId := substituted done.stdout }

def runTask : Shell.Script State :=
  external (fun state => runArguments invocation state.nextTask
      state.requestId state.migrationDir)
    (fun state => [state.network]) fun done state =>
      { state with run := done.stdout }

def checkScheduled : Shell.Script State :=
  .orElse
    (jq (fun state => ["jq", "-e",
        "(.failures | length) == 0 and (.tasks | length) == 1",
        state.migrationDir ++ "/run.json"])
      (fun state => [state.run])
      (fun state => Jq.run format false scheduled state.run)
      fun _ state => state)
    (.sequence (echo fun _ =>
      "Migration task could not be scheduled; service deployment is blocked.")
      (.exit 1))

def readTaskArn : Shell.Script State :=
  jq (fun state => ["jq", "-er",
      ".tasks[0].taskArn | select(startswith(\"arn:aws:ecs:\"))",
      state.migrationDir ++ "/run.json"])
    (fun state => [state.run])
    (fun state => Jq.run format true startedTask state.run)
    fun stdout state => { state with taskArn := substituted stdout }

def startPhase : List (Shell.Script State) :=
  [registerNext, nameRequest, runTask invocation, checkScheduled format,
    readTaskArn format, echo fun state => "Migration task: " ++ state.taskArn]

/-! ### Lines 39 to 52 -/

def waitStopped : Shell.Script State :=
  external (fun state => waitArguments invocation state.taskArn)
    (fun _ => []) fun _ state => state

/-- `… || true`, and the end of the script. -/
def abandon : Shell.Script State :=
  .sequence
    (.orElse
      (external (fun state => stopArguments invocation state.taskArn)
        (fun _ => []) fun _ state => state)
      (test fun _ => true))
    (.sequence (echo fun _ =>
      "Migration completion was not confirmed; service deployment is blocked.")
      (.exit 1))

def describeTask : Shell.Script State :=
  external (fun state => tasksArguments invocation state.taskArn)
    (fun _ => []) fun done state => { state with completed := done.stdout }

def checkCompleted : Shell.Script State :=
  .orElse
    (jq (fun state => ["jq", "-e", completedText,
        state.migrationDir ++ "/completed.json"])
      (fun state => [state.completed])
      (fun state => Jq.run format false succeeded state.completed)
      fun _ state => state)
    (.sequence (echo fun _ =>
      "Migration failed or has no confirmed successful exit; service deployment is blocked.")
      (.exit 1))

def finishPhase : List (Shell.Script State) :=
  [.whenTrue (.negate (waitStopped invocation)) (abandon invocation),
    describeTask invocation, checkCompleted format,
    echo fun _ =>
      "Migration and runtime database permissions verified; release may proceed."]

def body : Shell.Script State :=
  .sequence (Statement.block (preparePhase format invocation))
    (.sequence (Statement.block (startPhase format invocation))
      (Statement.block (finishPhase format invocation)))

/-- The script, with its exit status. -/
def migrate : Program Request Answer Nat :=
  (body format invocation).exec false State.initial >>= fun outcome =>
    cleanup outcome.2.trapped outcome.2.migrationDir outcome.1.status

end Script

end MigrateScript

end InventoryCloud
