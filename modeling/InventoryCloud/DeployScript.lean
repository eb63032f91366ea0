import InventoryCloud.ImageVerification
import InventoryCloud.ReleaseCommands

/-!
# The deployment script

`deploy-ecs.sh`, statement by statement: the gate and the fresh snapshot, the
registration of the new task definition, and the rollout with its rollback.
-/

namespace InventoryCloud

namespace DeployScript

open Interaction JsonValue Shell ReleaseFilters ReleaseCommands

/-- The variables of the script, and the contents of its files. -/
structure State where
  trapped : Bool
  releaseDir : String
  compatibility : String
  repositoryUri : String
  previousTask : String
  previousCount : String
  service : String
  previous : String
  next : String
  nextTask : String
  currentTask : String
  readinessStatus : String
  readiness : String

def State.initial : State :=
  ⟨false, "", "", "", "", "", "", "", "", "", "", "", ""⟩

/-! ### Patterns -/

/-- `^[1-4]$` -/
def deployableCount : TextPattern :=
  .one fun char => '1' ≤ char && char ≤ '4'

open TextPattern in
/-- `^[0-9]+$` -/
def wholeNumber : TextPattern :=
  several (.one isDigit)

open TextPattern in
/-- `^arn:aws:ecs:[a-z0-9-]+:[0-9]{12}:task-definition/[A-Za-z0-9_-]+:[0-9]+$` -/
def registeredArn : TextPattern :=
  chain [literal "arn:aws:ecs:", several (.one ReleaseContract.isRegionChar),
    literal ":", times 12 (.one isDigit), literal ":task-definition/",
    several (.one ImageVerification.isNameChar), literal ":",
    several (.one isDigit)]

/-- `${url%/}` -/
def withoutSlash (url : String) : String :=
  if url.toList.getLast? = some '/' then String.ofList url.toList.dropLast
  else url

section Script

variable (format : Jq.TextFormat) (invocation : Invocation)

/-- `${DESIRED_COUNT:-1}` -/
def desiredCount : String :=
  if invocation.value "DESIRED_COUNT" = "" then "1"
  else invocation.value "DESIRED_COUNT"

/-- `"$repository_uri@$IMAGE_DIGEST"` -/
def requestedImage (state : State) : String :=
  state.repositoryUri ++ "@" ++ invocation.value "IMAGE_DIGEST"

/-! ### The commands -/

def updateArguments (task count : String) : List String :=
  ["aws", "ecs", "update-service", "--cluster",
    invocation.value "ECS_CLUSTER", "--service",
    invocation.value "ECS_SERVICE", "--task-definition", task,
    "--desired-count", count]

def waitArguments : List String :=
  ["aws", "ecs", "wait", "services-stable"] ++ clusterAndService invocation

def currentArguments : List String :=
  ["aws", "ecs", "describe-services"] ++ clusterAndService invocation ++
    ["--query", "services[0].taskDefinition", "--output", "text"]

def readinessArguments (releaseDir : String) : List String :=
  ["curl", "--fail", "--silent", "--show-error", "--retry", "5",
    "--retry-delay", "3", "--retry-all-errors", "--connect-timeout", "5",
    "--max-time", "15", "--output", releaseDir ++ "/readiness.json",
    "--write-out", "%\x7bhttp_code\x7d",
    withoutSlash (invocation.value "PUBLIC_BASE_URL") ++
      "/actuator/health/readiness"]

/-- `.previous_task` and `.previous_count` -/
def reportField (name : String) : Jq.Filter := fun report => do
  let value ← Jq.field name report
  pure [value]

/-- `$(jq -er .name report)` -/
def reported (name report : String) : String :=
  substituted (Jq.run format true (reportField name) report).2

/-- `type == "object"` -/
def isObject : JsonValue → Bool
  | .object _ => true
  | _ => false

/-- `type == "object" and .status == "UP"` -/
def isUp : Jq.Filter := fun body => do
  let accepted ← Jq.conjunction
    [.ok (isObject body),
      Jq.equalTo (Jq.field "status" body) (.string "UP")]
  pure [.bool accepted]

/-! ### Lines 3 to 27 -/

def gatePhase : List (Shell.Script State) :=
  [setVariable invocation "AWS_REGION" "Set AWS_REGION",
    setVariable invocation "ECS_CLUSTER" "Set ECS_CLUSTER",
    setVariable invocation "ECS_SERVICE" "Set ECS_SERVICE",
    setVariable invocation "ECR_REPOSITORY"
      "Set ECR_REPOSITORY to the repository name",
    setVariable invocation "IMAGE_DIGEST" "Set IMAGE_DIGEST",
    setVariable invocation "PUBLIC_BASE_URL" "Set PUBLIC_BASE_URL",
    require (fun _ => deployableCount.fullmatch
      (desiredCount invocation).toList)
      "DESIRED_COUNT must be between 1 and 4",
    requireDigest invocation,
    require (fun _ => startsWith "https://"
      (invocation.value "PUBLIC_BASE_URL")) "HTTPS URL is required",
    external (fun _ => ["mktemp", "-d"]) (fun _ => []) fun done state =>
      { state with releaseDir := substituted done.stdout },
    note fun state => { state with trapped := true },
    externalIn invocation.script (fun directory _ => gateArguments directory)
      fun done state => { state with compatibility := done.stdout },
    external (fun _ => repositoriesArguments invocation) (fun _ => [])
      fun done state =>
        { state with repositoryUri := substituted done.stdout },
    external (fun _ => imagesArguments invocation) (fun _ => [])
      fun _ state => state,
    jq (fun state => ["jq", "-er", ".previous_task",
        state.releaseDir ++ "/compatibility.json"])
      (fun state => [state.compatibility])
      (fun state => Jq.run format true (reportField "previous_task")
        state.compatibility)
      fun stdout state => { state with previousTask := substituted stdout },
    require (fun state => startsWith "arn:aws:ecs:" state.previousTask)
      "Service not found",
    jq (fun state => ["jq", "-er", ".previous_count",
        state.releaseDir ++ "/compatibility.json"])
      (fun state => [state.compatibility])
      (fun state => Jq.run format true (reportField "previous_count")
        state.compatibility)
      fun stdout state => { state with previousCount := substituted stdout },
    require (fun state => wholeNumber.fullmatch state.previousCount.toList)
      "Cannot determine previous service count",
    external (fun _ => servicesArguments invocation) (fun _ => [])
      fun done state => { state with service := done.stdout },
    .orElse
      (jqIn invocation.script
        (fun directory state => baselineArguments directory state.releaseDir)
        (fun state => [state.compatibility, state.service])
        fun state => baselineRun format state.compatibility state.service)
      (.sequence (echo fun _ =>
        "Service changed after image verification; no deployment was started. Retry with one release operator.")
        (.exit 1))]

/-! ### Lines 28 to 40 -/

def nextDefinition (state : State) : Nat × String :=
  Jq.run format false
    (releaseDefinition "inventory" (requestedImage invocation state))
    state.previous

def registerPhase : List (Shell.Script State) :=
  [external (fun state => describeArguments state.previousTask) (fun _ => [])
      fun done state => { state with previous := done.stdout },
    jq (fun state => definitionArguments "inventory"
        (requestedImage invocation state)
        (state.releaseDir ++ "/previous.json"))
      (fun state => [state.previous]) (nextDefinition format invocation)
      fun stdout state => { state with next := stdout },
    external (fun state => registerArguments state.releaseDir)
      (fun state => [state.next]) fun done state =>
        { state with nextTask := substituted done.stdout },
    require (fun state => registeredArn.fullmatch state.nextTask.toList)
      "No valid registered task definition returned; service was not updated.",
    echo fun state => "Previous task definition: " ++ state.previousTask,
    echo fun state => "New task definition: " ++ state.nextTask]

/-! ### Lines 41 to 69 -/

def updateService (task count : State → String) : Shell.Script State :=
  external (fun state =>
    updateArguments invocation (task state) (count state)) (fun _ => [])
    fun _ state => state

def waitStable : Shell.Script State :=
  external (fun _ => waitArguments invocation) (fun _ => [])
    fun _ state => state

def rollback : Shell.Script State :=
  .sequence
    (echo fun state => "Deployment failed; restoring " ++ state.previousTask)
    (.sequence
      (updateService invocation State.previousTask State.previousCount)
      (waitStable invocation))

/-- `if …; then rollback; exit 1; fi` -/
def rollbackIf (failed : Shell.Script State) : Shell.Script State :=
  .whenTrue failed (.sequence (rollback invocation) (.exit 1))

def readCurrent : Shell.Script State :=
  external (fun _ => currentArguments invocation) (fun _ => [])
    fun done state =>
      { state with currentTask := substituted done.stdout }

def readReadiness : Shell.Script State :=
  external (fun state => readinessArguments invocation state.releaseDir)
    (fun _ => []) fun done state =>
      { state with
        readinessStatus := substituted done.stdout
        readiness := done.output }

def checkReadiness : Shell.Script State :=
  jq (fun state => ["jq", "-e", "type == \"object\" and .status == \"UP\"",
      state.releaseDir ++ "/readiness.json"])
    (fun state => [state.readiness])
    (fun state => Jq.run format false isUp state.readiness)
    fun _ state => state

/-- The condition of lines 60 to 65. -/
def unhealthy : Shell.Script State :=
  .orElse
    (.orElse
      (.orElse
        (test fun state => state.currentTask ≠ state.nextTask)
        (.negate (readReadiness invocation)))
      (test fun state => state.readinessStatus ≠ "200"))
    (.negate (checkReadiness format))

def releasePhase : List (Shell.Script State) :=
  [rollbackIf invocation (.negate
      (updateService invocation State.nextTask
        fun _ => desiredCount invocation)),
    rollbackIf invocation (.negate (waitStable invocation)),
    rollbackIf invocation (.negate (readCurrent invocation)),
    rollbackIf invocation (unhealthy format invocation),
    echo fun state => "Deployment healthy: " ++ state.nextTask]

def body : Shell.Script State :=
  .sequence (Statement.block (gatePhase format invocation))
    (.sequence (Statement.block (registerPhase format invocation))
      (Statement.block (releasePhase format invocation)))

/-- The script, with its exit status. -/
def deploy : Program Request Answer Nat :=
  (body format invocation).exec false State.initial >>= fun outcome =>
    cleanup outcome.2.trapped outcome.2.releaseDir outcome.1.status

end Script

end DeployScript

end InventoryCloud
