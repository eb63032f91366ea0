import InventoryCloud.ReleaseContract

/-!
# Verifying the images of a deployment

`verify-deployment-image.py`: the service snapshot is read and must be
settled, then the candidate image and the image of a live service are
inspected.  The report names what was checked.
-/

namespace InventoryCloud

namespace ImageVerification

open Interaction JsonValue Python ReleaseContract

def aws (region : String) (arguments : List String) : Script String :=
  runChecked ("aws" :: arguments ++ ["--region", region, "--no-cli-pager"])
    none none 60

def isNameChar (char : Char) : Bool :=
  isRegionChar char || ('A' ≤ char && char ≤ 'Z') || char == '_'

open TextPattern in
/-- `arn:aws:ecs:[a-z0-9-]+:\d{12}:task-definition/[A-Za-z0-9_-]+:\d+` -/
def taskDefinitionArn : TextPattern :=
  chain [literal "arn:aws:ecs:", several (.one isRegionChar), literal ":",
    times 12 (.one isDecimalDigit), literal ":task-definition/",
    several (.one isNameChar), literal ":", several (.one isDecimalDigit)]

/-- What the report says of the inspected service. -/
structure ServiceSnapshot where
  previousTask : String
  previousCount : Int
  runningCount : Int
  pendingCount : Int
  previousDeploymentId : String

structure DeploymentReport where
  candidate : Members
  service : ServiceSnapshot
  rollbackBaseline : Option Members
  bootstrapWithoutRunningBaseline : Bool

def DeploymentReport.toJson (report : DeploymentReport) : JsonValue :=
  .object [("candidate", .object report.candidate),
    ("previous_task", .string report.service.previousTask),
    ("previous_count", .integer report.service.previousCount),
    ("previous_running_count", .integer report.service.runningCount),
    ("previous_pending_count", .integer report.service.pendingCount),
    ("previous_deployment_id", .string report.service.previousDeploymentId),
    ("rollback_baseline",
      match report.rollbackBaseline with
      | some baseline => .object baseline
      | none => .null),
    ("bootstrap_without_running_baseline",
      .bool report.bootstrapWithoutRunningBaseline)]

def unsettled : Failure :=
  contractError
    "The service deployment is not confirmed complete and stable; migration and rollout are blocked."

/-- The only service of the response, if the lookup succeeded and it is
active. -/
def activeService (response : JsonValue) : Except Failure JsonValue := do
  let failures ← subscript "failures" response
  if failures ≠ .array [] then throw .valueError
  let services ← subscript "services" response
  let count ← len services
  if count ≠ 1 then throw .valueError
  let service ← item 0 services
  let status ← subscript "status" service
  if status ≠ .string "ACTIVE" then throw .valueError
  pure service

/-- `type(value) is int`, for a value that is not negative. -/
def natural : JsonValue → Except Failure Int
  | .integer value => if value < 0 then .error .valueError else .ok value
  | _ => .error .valueError

def deploymentCount (field : String) (expected : Int)
    (deployment : JsonValue) : Except Failure PUnit := do
  let value ← subscript field deployment
  if value ≠ .integer expected then throw unsettled

/-- The id of the only deployment of the service, if it is settled on
`previousTask` with the counts of the service. -/
def settledDeployment (service : JsonValue) (previousTask : String)
    (previousCount runningCount pendingCount : Int) :
    Except Failure String := do
  match ← subscript "deployments" service with
  | .array [deployment] =>
      let id ← subscript "id" deployment
      match id with
      | .string previousDeploymentId =>
          if previousDeploymentId = "" then throw unsettled
          let status ← subscript "status" deployment
          if status ≠ .string "PRIMARY" then throw unsettled
          let task ← subscript "taskDefinition" deployment
          if task ≠ .string previousTask then throw unsettled
          let rollout ← subscript "rolloutState" deployment
          if rollout ≠ .string "COMPLETED" then throw unsettled
          if runningCount ≠ previousCount ∨ pendingCount ≠ 0 then
            throw unsettled
          deploymentCount "desiredCount" previousCount deployment
          deploymentCount "runningCount" runningCount deployment
          deploymentCount "pendingCount" pendingCount deployment
          pure previousDeploymentId
      | _ => throw unsettled
  | _ => throw (contractError
      "The service must have one settled deployment before migration or rollout.")

def serviceSnapshot (response : JsonValue) :
    Except Failure ServiceSnapshot := do
  let service ← activeService response
  let desired ← subscript "desiredCount" service
  let running ← subscript "runningCount" service
  let pending ← subscript "pendingCount" service
  let task ← subscript "taskDefinition" service
  let previousCount ← natural desired
  let runningCount ← natural running
  let pendingCount ← natural pending
  match task with
  | .string previousTask =>
      if ¬ taskDefinitionArn.fullmatch previousTask.toList then
        throw .valueError
      let previousDeploymentId ← settledDeployment service previousTask
        previousCount runningCount pendingCount
      pure ⟨previousTask, previousCount, runningCount, pendingCount,
        previousDeploymentId⟩
  | _ => throw .valueError

/-- `[c for c in containers if c.get('name') == 'inventory']` -/
def inventoryContainers : List JsonValue → Except Failure (List JsonValue)
  | [] => pure []
  | container :: rest => do
      let name ← getOr "name" .null container
      let others ← inventoryContainers rest
      pure (if name = .string "inventory" then container :: others else others)

/-- The digest-pinned image of the only inventory container. -/
def liveImage (repository : String) (definition : JsonValue) :
    Except Failure String := do
  let containers ← subscript "containerDefinitions" definition
  let found ← iterate containers
  let inventory ← inventoryContainers found
  match inventory with
  | [container] =>
      let image ← subscript "image" container
      let valid ← fullmatch registryImage image
      match image with
      | .string previousImage =>
          if ¬ valid ∨ ¬ (repository ++ "@").toList <+: previousImage.toList then
            throw (contractError
              "The live rollback baseline must use a digest from this application repository.")
          pure previousImage
      | _ => throw .typeError
  | _ => throw .valueError

/-- Some count of the snapshot is positive. -/
def liveBaseline (snapshot : ServiceSnapshot) : Bool :=
  0 < snapshot.previousCount || 0 < snapshot.runningCount ||
    0 < snapshot.pendingCount

/-- The body of the first `try`: the checked service and, when it is live,
the image it runs. -/
def inspectedService (python : Library ContractError)
    (region cluster service repository : String) :
    Script (ServiceSnapshot × Option String) :=
  Fallible.translating (rethrown isShapeError
    "The current service and rollback baseline could not be determined.") do
      let described ← aws region ["ecs", "describe-services", "--cluster",
        cluster, "--services", service, "--output", "json"]
      let response ← Fallible.step (python.loads described)
      let snapshot ← Fallible.step (serviceSnapshot response)
      if liveBaseline snapshot then
        let text ← aws region ["ecs", "describe-task-definition",
          "--task-definition", snapshot.previousTask, "--query",
          "taskDefinition", "--output", "json"]
        let definition ← Fallible.step (python.loads text)
        let previousImage ← Fallible.step (liveImage repository definition)
        pure (snapshot, some previousImage)
      else pure (snapshot, none)

/-- The environment of the Docker commands: a private configuration, the
host of the operator's context and no context of their own. -/
def dockerEnvironment (environment : Environment) (temporary : String) :
    Script Environment := do
  let own := Function.update environment "DOCKER_CONFIG" (some temporary)
  let host ←
    if (own "DOCKER_HOST").getD "" = "" then do
      let stdout ← runChecked ["docker", "context", "inspect", "--format",
        "\x7b\x7b.Endpoints.docker.Host\x7d\x7d"] (some environment) none 120
      pure (Function.update own "DOCKER_HOST" (some (strip stdout)))
    else pure own
  pure (Function.update host "DOCKER_CONTEXT" none)

def inspectedBaseline (python : Library ContractError)
    (dockerEnv : Environment) : Option String → Script (Option Members)
  | none => pure none
  | some previousImage => do
      let baseline ← inspectRegistryContract python previousImage dockerEnv
      pure (some baseline)

/-- The body of the `with`: the Docker login and the inspection of the
candidate and of the live image. -/
def inspectedImages (python : Library ContractError)
    (environment : Environment) (region repository candidate : String)
    (previousImage : Option String) (temporary : String) :
    Script (Members × Option Members) := do
  let changed ← Fallible.ask (.chmod temporary 0o700)
  let _ ← Fallible.step (orOSError changed)
  let dockerEnv ← dockerEnvironment environment temporary
  let password ← aws region ["ecr", "get-login-password"]
  let _ ← runChecked ["docker", "login", "--username", "AWS",
    "--password-stdin", String.ofList (repository.toList.takeWhile (· ≠ '/'))]
    (some dockerEnv) (some password) 120
  let selected ← inspectRegistryContract python candidate dockerEnv
  let baseline ← inspectedBaseline python dockerEnv previousImage
  pure (selected, baseline)

def requiredNames : List String :=
  ["AWS_REGION", "ECS_CLUSTER", "ECS_SERVICE", "ECR_REPOSITORY",
    "IMAGE_DIGEST"]

def setting (environment : Environment) (name : String) : String :=
  (environment name).getD ""

/-- The text of a registry reference names a repository of the region. -/
def inRegion (region candidate : String) : Bool :=
  decide ((".ecr." ++ region ++ ".amazonaws.com/").toList <:+:
    candidate.toList)

def verifyDeployment (python : Library ContractError)
    (environment : Environment) : Script DeploymentReport := do
  Fallible.check (requiredNames.all fun name => setting environment name ≠ "")
    (contractError
      "Deployment image verification requires the documented AWS/ECS/ECR settings.")
  let region := setting environment "AWS_REGION"
  let digest := setting environment "IMAGE_DIGEST"
  Fallible.check (imageId.fullmatch digest.toList)
    (contractError "The requested image digest is invalid.")
  let uri ← aws region ["ecr", "describe-repositories", "--repository-names",
    setting environment "ECR_REPOSITORY", "--query",
    "repositories[0].repositoryUri", "--output", "text"]
  let repository := strip uri
  let candidate := repository ++ "@" ++ digest
  Fallible.check
    (registryImage.fullmatch candidate.toList && inRegion region candidate)
    (contractError "ECR returned an unexpected repository or region.")
  let (snapshot, previousImage) ← inspectedService python region
    (setting environment "ECS_CLUSTER") (setting environment "ECS_SERVICE")
    repository
  let (selected, baseline) ←
    withTemporaryDirectory "inventory-registry-auth-"
      (inspectedImages python environment region repository candidate
        previousImage)
  pure ⟨selected, snapshot, baseline, !liveBaseline snapshot⟩

end ImageVerification

end InventoryCloud
