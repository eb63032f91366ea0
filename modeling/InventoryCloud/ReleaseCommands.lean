import InventoryCloud.ReleaseContract
import InventoryCloud.ReleaseFilters
import InventoryCloud.ShellCommands

/-!
# What the release scripts share

`deploy-ecs.sh` and `migrate-ecs.sh` start alike: they need their settings,
run the image gate, look the requested image up, and compare a fresh snapshot
of the service with the report of the gate.
-/

namespace InventoryCloud

namespace ReleaseCommands

open Interaction Shell ReleaseFilters

/-- `$0` and the environment of a script. -/
structure Invocation where
  script : String
  environment : String → Option String

def Invocation.value (invocation : Invocation) (name : String) : String :=
  (invocation.environment name).getD ""

/-! ### Patterns -/

def isDigit (char : Char) : Bool :=
  '0' ≤ char && char ≤ '9'

open TextPattern in
/-- `^sha256:[0-9a-f]{64}$` -/
def imageDigest : TextPattern :=
  chain [literal "sha256:", times 64 (.one ReleaseContract.isLowerHex)]

def startsWith (start text : String) : Bool :=
  start.toList.isPrefixOf text.toList

/-! ### Commands -/

section Commands

variable {S : Type} (invocation : Invocation)

/-- `: "${NAME:?…}"` -/
def setVariable (name message : String) : Shell.Script S :=
  require (fun _ => invocation.value name ≠ "") (name ++ ": " ++ message)

def requireDigest : Shell.Script S :=
  require (fun _ => imageDigest.fullmatch
    (invocation.value "IMAGE_DIGEST").toList) "Invalid image digest"

def clusterAndService : List String :=
  ["--cluster", invocation.value "ECS_CLUSTER", "--services",
    invocation.value "ECS_SERVICE"]

def gateArguments (directory : String) : List String :=
  ["python3", directory ++ "/verify-deployment-image.py"]

def repositoriesArguments : List String :=
  ["aws", "ecr", "describe-repositories", "--repository-names",
    invocation.value "ECR_REPOSITORY", "--query",
    "repositories[0].repositoryUri", "--output", "text"]

def imagesArguments : List String :=
  ["aws", "ecr", "describe-images", "--repository-name",
    invocation.value "ECR_REPOSITORY", "--image-ids",
    "imageDigest=" ++ invocation.value "IMAGE_DIGEST"]

def servicesArguments : List String :=
  ["aws", "ecs", "describe-services"] ++ clusterAndService invocation ++
    ["--output", "json"]

def baselineArguments (directory workDir : String) : List String :=
  ["jq", "-e", "--slurpfile", "verified", workDir ++ "/compatibility.json",
    "-f", directory ++ "/service-baseline.jq", workDir ++ "/service.json"]

def describeArguments (task : String) : List String :=
  ["aws", "ecs", "describe-task-definition", "--task-definition", task,
    "--query", "taskDefinition"]

/-- The filter that `releaseDefinition` computes, as it is written. -/
def definitionText (name : String) : String :=
  "\n  if ([.containerDefinitions[] | select(.name == \"" ++ name ++
    "\")] | length) != 1\n  then error(\"Expected exactly one " ++ name ++
    " container\") else . end\n" ++
    "  | del(.taskDefinitionArn, .revision, .status, .requiresAttributes, .compatibilities, .registeredAt, .registeredBy, .deregisteredAt)\n" ++
    "  | (.containerDefinitions[] | select(.name == \"" ++ name ++
    "\") | .image) = $image\n"

def definitionArguments (name image file : String) : List String :=
  ["jq", "-e", "--arg", "image", image, definitionText name, file]

def registerArguments (workDir : String) : List String :=
  ["aws", "ecs", "register-task-definition", "--cli-input-json",
    "file://" ++ workDir ++ "/next.json", "--query",
    "taskDefinition.taskDefinitionArn", "--output", "text"]

end Commands

/-- The `EXIT` trap, set once there is a working directory.  Under `errexit` a
failure of the removal becomes the status of the script. -/
def cleanup (trapped : Bool) (workDir : String) (status : Nat) :
    Program Request Answer Nat :=
  if trapped then
    .ask (.external ["rm", "-rf", workDir] []) fun removed =>
      .pure (if removed.status = 0 then status else removed.status)
  else .pure status

/-- The subcommand of an `aws ecs` command. -/
def ecsCommand : Request → Option String
  | .external ("aws" :: "ecs" :: command :: _) _ => some command
  | _ => none

/-- The `aws ecs` commands of one kind that were issued, in order. -/
def issued (command : String) (trace : Trace) : List (List String) :=
  (trace.filter fun exchange =>
      decide (ecsCommand exchange.query = some command)).map
    fun exchange => exchange.query.arguments

theorem issued_append (command : String) (first second : Trace) :
    issued command (first ++ second) =
      issued command first ++ issued command second := by
  unfold issued
  rw [List.filter_append, List.map_append]

theorem issued_cons {command : String} {exchange : Exchange Request Answer}
    (hquiet : ecsCommand exchange.query ≠ some command) (trace : Trace) :
    issued command (exchange :: trace) = issued command trace := by
  unfold issued
  rw [List.filter_cons_of_neg (by simpa using hquiet)]

theorem issued_eq_nil {command : String} {trace : Trace}
    (hquiet : ∀ exchange ∈ trace, ecsCommand exchange.query ≠ some command) :
    issued command trace = [] := by
  have hfilter : (trace.filter fun exchange =>
      decide (ecsCommand exchange.query = some command)) = [] := by
    apply List.filter_eq_nil_iff.mpr
    intro exchange hmem
    simpa using hquiet exchange hmem
  unfold issued
  rw [hfilter, List.map_nil]

/-- The working directory could be removed, if there was one. -/
def Removed (trace : Trace) : Prop :=
  ∀ (workDir : String) (removed : Finished),
    (⟨.external ["rm", "-rf", workDir] [], removed⟩ :
      Exchange Request Answer) ∈ trace → removed.status = 0

/-- The cleanup issues no command of `aws ecs`, it never turns a failure into
a success, and it turns a success into a failure only by failing itself. -/
theorem cleanup_runs {trapped : Bool} {workDir : String} {status final : Nat}
    {trace : Trace}
    (hrun : (cleanup trapped workDir status).Runs trace final) :
    (∀ exchange ∈ trace, ecsCommand exchange.query = none) ∧
      (final = 0 → status = 0) ∧ (Removed trace → final = status) := by
  unfold cleanup at hrun
  split_ifs at hrun with htrapped
  · obtain ⟨removed, rest, rfl, rfl, rfl⟩ := hrun
    refine ⟨?_, ?_, ?_⟩
    · intro exchange hmem
      rw [List.mem_singleton.mp hmem]
      rfl
    · intro hfinal
      split_ifs at hfinal with hzero
      · exact hfinal
      · exact absurd hfinal hzero
    · intro hremoved
      exact if_pos (hremoved workDir removed List.mem_cons_self)
  · obtain ⟨rfl, rfl⟩ := hrun
    exact ⟨by simp, id, fun _ => rfl⟩

/-- The image gate succeeded, then a snapshot of the service was read, and
`service-baseline.jq` accepted it against the report of the gate. -/
def GatePassed (format : Jq.TextFormat) (invocation : Invocation)
    (report snapshot : String) (trace : Trace) : Prop :=
  (baselineRun format report snapshot).1 = 0 ∧
    ∃ (gateDirectory baselineDirectory workDir : String)
      (gate services : Finished),
      gate.status = 0 ∧ gate.stdout = report ∧
      services.status = 0 ∧ services.stdout = snapshot ∧
      [(⟨.external (gateArguments gateDirectory) [], gate⟩ :
          Exchange Request Answer),
        ⟨.external (servicesArguments invocation) [], services⟩,
        ⟨.jq (baselineArguments baselineDirectory workDir)
          [report, snapshot], none⟩].Sublist trace

theorem GatePassed.append {format : Jq.TextFormat} {invocation : Invocation}
    {report snapshot : String} {trace : Trace}
    (hpassed : GatePassed format invocation report snapshot trace)
    (after : Trace) :
    GatePassed format invocation report snapshot (trace ++ after) := by
  obtain ⟨haccepted, gateDirectory, baselineDirectory, workDir, gate,
    services, hgate, hreport, hservices, hsnapshot, hchain⟩ := hpassed
  exact ⟨haccepted, gateDirectory, baselineDirectory, workDir, gate, services,
    hgate, hreport, hservices, hsnapshot,
    hchain.trans (List.sublist_append_left trace after)⟩

/-- The definition of `task` was described, its documents were given the new
image in the container `name`, the result was registered, and the registration
named `next`. -/
def Registered (format : Jq.TextFormat) (name image task next : String)
    (trace : Trace) : Prop :=
  ∃ (described registered : Finished) (workDir : String)
    (nexts : List JsonValue),
    [(⟨.external (describeArguments task) [], described⟩ :
        Exchange Request Answer),
      ⟨.external (registerArguments workDir)
        [Jq.lines format false nexts], registered⟩].Sublist trace ∧
      registered.status = 0 ∧ next = substituted registered.stdout ∧
      nexts ≠ [] ∧ ∀ definition ∈ nexts,
        ∃ base ∈ (format.read described.stdout).values,
          ImageReplaced name image base definition

theorem Registered.append {format : Jq.TextFormat}
    {name image task next : String} {trace : Trace}
    (hregistered : Registered format name image task next trace)
    (before after : Trace) :
    Registered format name image task next
      (before ++ (trace ++ after)) := by
  obtain ⟨described, registered, workDir, nexts, hsub, hrest⟩ := hregistered
  refine ⟨described, registered, workDir, nexts, hsub.trans ?_, hrest⟩
  exact (List.sublist_append_left trace after).trans
    (List.sublist_append_right before _)

/-- Of the `aws ecs` commands, the request is one of these or none. -/
def Issues (commands : List String) (request : Request) : Prop :=
  ∀ command, ecsCommand request = some command → command ∈ commands

theorem issues_of_none {commands : List String} {request : Request}
    (hnone : ecsCommand request = none) : Issues commands request := by
  intro command hsome
  rw [hnone] at hsome
  cases hsome

theorem issues_of_command {commands : List String} {request : Request}
    {command : String} (hcommand : ecsCommand request = some command)
    (hmem : command ∈ commands) : Issues commands request := by
  intro other hother
  rw [hcommand, Option.some_inj] at hother
  rw [← hother]
  exact hmem

theorem issues_mono {commands others : List String}
    (hsub : commands ⊆ others) (request : Request)
    (hissues : Issues commands request) : Issues others request :=
  fun command hcommand => hsub (hissues command hcommand)

theorem Issues.not {commands : List String} {request : Request}
    {command : String} (hissues : Issues commands request)
    (hcommand : command ∉ commands) : ecsCommand request ≠ some command :=
  fun hsome => hcommand (hissues command hsome)

theorem issued_of_issues {commands : List String} {command : String}
    {trace : Trace} (hissues : ∀ exchange ∈ trace,
      Issues commands exchange.query) (hcommand : command ∉ commands) :
    issued command trace = [] :=
  issued_eq_nil fun exchange hmem => (hissues exchange hmem).not hcommand

theorem issued_of_asksOnly {S : Type} {commands : List String}
    {command : String} {statement : Shell.Script S} {suspended : Bool}
    {state final : S} {trace : Trace} {completion : Completion}
    (hissues : statement.AsksOnly (Issues commands))
    (hcommand : command ∉ commands)
    (hrun : statement.Runs suspended state trace completion final) :
    issued command trace = [] :=
  issued_of_issues (hissues.of_runs hrun) hcommand

/-- The first command of its kind heads the issued ones. -/
theorem issued_first {command : String} {before : Trace}
    {exchange : Exchange Request Answer}
    (hbefore : issued command before = [])
    (hcommand : ecsCommand exchange.query = some command) (after : Trace) :
    (issued command (before ++ exchange :: after)).head? =
      some exchange.query.arguments := by
  rw [issued_append, hbefore, List.nil_append]
  unfold issued
  rw [List.filter_cons_of_pos (by simpa using hcommand)]
  rfl

/-- What is asked after a part of a run without such queries comes after that
whole part. -/
theorem split_after {allowed : Request → Prop} {first rest before : Trace}
    {exchange : Exchange Request Answer} {after : Trace}
    (hfirst : ∀ other ∈ first, allowed other.query)
    (hexchange : ¬ allowed exchange.query)
    (hsplit : first ++ rest = before ++ exchange :: after) :
    ∃ middle, before = first ++ middle := by
  rcases List.append_eq_append_iff.mp hsplit with
    ⟨middle, hbefore, -⟩ | ⟨middle, hfirst', hrest⟩
  · exact ⟨middle, hbefore⟩
  · cases middle with
    | nil => exact ⟨[], by simpa using hfirst'.symm⟩
    | cons head tail =>
        have hhead : exchange = head := (List.cons.inj hrest).1
        have hmem : exchange ∈ first := by
          rw [hfirst', hhead]
          simp
        exact absurd (hfirst exchange hmem) hexchange

end ReleaseCommands

end InventoryCloud
