import InventoryCloud.ImageInspection
import InventoryCloud.ServiceSnapshots

/-!
# What the release gate has established

Every run of `verify_deployment` that returns a report, whatever AWS and
Docker answered: the service was settled, the candidate and, for a live
service, the image it runs passed the inspection, and the report says what
was inspected.
-/

namespace InventoryCloud

namespace ImageVerification

open Interaction JsonValue Python ReleaseContract

variable {python : Library ContractError} {environment : Environment}
  {trace : Trace}

/-! ### Pinned images -/

theorem registryRepository_within :
    registryRepository.Within (· ≠ '@') := by
  have hregion : (TextPattern.one isRegionChar).Within (· ≠ '@') :=
    TextPattern.Within.avoids (by decide)
  have halnum : (TextPattern.one isLowerAlnum).Within (· ≠ '@') :=
    TextPattern.Within.avoids (by decide)
  exact ⟨TextPattern.Within.times
      (TextPattern.Within.avoids (by decide)) 12,
    TextPattern.Within.literal (by simp), ⟨hregion, hregion⟩,
    TextPattern.Within.literal (by simp), ⟨halnum, halnum⟩,
    ⟨TextPattern.Within.avoids (by decide), ⟨halnum, halnum⟩, trivial⟩,
    trivial⟩

theorem imageId_within : imageId.Within (· ≠ '@') :=
  ⟨TextPattern.Within.literal (by simp),
    TextPattern.Within.times (TextPattern.Within.avoids (by decide)) 64,
    trivial⟩

/-- A registry reference splits at its only `@`. -/
theorem registryImage_split {left right : List Char}
    (himage : left ++ '@' :: right ∈ registryImage.language) :
    left ∈ registryRepository.language ∧ right ∈ imageId.language := by
  unfold registryImage at himage
  simp only [TextPattern.mem_chain_cons, TextPattern.mem_chain_nil,
    TextPattern.mem_literal] at himage
  obtain ⟨repository, hrepository, _, ⟨_, rfl, _, ⟨digest, hdigest, _, rfl,
    rfl⟩, rfl⟩, hsame⟩ := himage
  have hleft : '@' ∉ repository :=
    fun hmem => registryRepository_within.of_mem hrepository '@' hmem rfl
  have hright : '@' ∉ digest :=
    fun hmem => imageId_within.of_mem hdigest '@' hmem rfl
  have hparts : repository ++ '@' :: digest = left ++ '@' :: right := by
    simpa using hsame
  obtain ⟨rfl, -, rfl⟩ :=
    (List.append_cons_inj_of_notMem hleft hright).mp hparts
  exact ⟨hrepository, hdigest⟩

/-- A digest-pinned reference into the repository. -/
def Pinned (repository image : String) : Prop :=
  ∃ digest : String, image = repository ++ "@" ++ digest ∧
    digest.toList ∈ imageId.language

theorem pinned_of_starts {repository image : String}
    (himage : image.toList ∈ registryImage.language)
    (hstarts : (repository ++ "@").toList <+: image.toList) :
    Pinned repository image := by
  obtain ⟨digest, hdigest⟩ := hstarts
  have hparts : repository.toList ++ '@' :: digest = image.toList := by
    simpa [String.toList_append] using hdigest
  rw [← hparts] at himage
  refine ⟨String.ofList digest, ?_, ?_⟩
  · apply String.toList_injective
    simpa [String.toList_append] using hparts.symm
  · rw [String.toList_ofList]
    exact (registryImage_split himage).2

def isInventory (container : JsonValue) : Bool :=
  match container.member "name" with
  | some name => decide (name = .string "inventory")
  | none => false

theorem inventoryContainers_ok {containers inventory : List JsonValue}
    (hinventory : inventoryContainers containers = .ok inventory) :
    inventory = containers.filter isInventory ∧
      ∀ container ∈ containers, ∃ members, container = .object members := by
  induction containers generalizing inventory with
  | nil =>
      cases hinventory
      exact ⟨rfl, by simp⟩
  | cons container rest ih =>
      unfold inventoryContainers at hinventory
      simp only [bind_ok, pure_ok] at hinventory
      obtain ⟨name, hname, others, hothers, rfl⟩ := hinventory
      obtain ⟨rfl, hobjects⟩ := ih hothers
      cases container with
      | object members =>
          have hsame : (lookup "name" members).getD .null = name := by
            simpa [getOr] using hname
          constructor
          · rw [List.filter_cons]
            unfold isInventory
            rw [member_object, ← hsame]
            cases lookup "name" members <;> simp
          · intro other hother
            rcases List.mem_cons.mp hother with rfl | hother
            · exact ⟨members, rfl⟩
            · exact hobjects other hother
      | _ => simp [getOr] at hname

theorem liveImage_ok {repository image : String} {definition : JsonValue}
    (hlive : liveImage repository definition = .ok image) :
    ∃ containers container,
      definition.member "containerDefinitions" = some (.array containers) ∧
      containers.filter isInventory = [container] ∧
      container.member "image" = some (.string image) ∧
      Pinned repository image := by
  unfold liveImage at hlive
  simp only [bind_ok, subscript_ok] at hlive
  obtain ⟨value, hvalue, found, hfound, inventory, hinventory, hlive⟩ := hlive
  obtain ⟨rfl, hobjects⟩ := inventoryContainers_ok hinventory
  split at hlive
  · rename_i container hcontainer
    simp only [bind_ok, subscript_ok] at hlive
    obtain ⟨named, hnamed, valid, hvalid, hlive⟩ := hlive
    split at hlive
    · simp only [throw_bind, guard_ok, pure_ok, not_or, not_not] at hlive
      obtain ⟨⟨rfl, hstarts⟩, rfl⟩ := hlive
      obtain ⟨text, htext, himage⟩ := fullmatch_ok.mp hvalid
      cases htext
      have hmem : container ∈ found.filter isInventory := by
        rw [hcontainer]
        exact List.mem_singleton_self container
      obtain ⟨members, rfl⟩ :=
        hobjects container (List.mem_of_mem_filter hmem)
      cases value with
      | array items =>
          cases hfound
          exact ⟨found, _, hvalue, hcontainer, hnamed,
            pinned_of_starts himage hstarts⟩
      | object others =>
          cases hfound
          simp at hmem
      | string text =>
          cases hfound
          simp at hmem
      | _ => cases hfound
    · exact absurd hlive throw_ne_ok
  · exact absurd hlive throw_ne_ok

/-! ### The runs of the verifier -/

/-- An AWS command that succeeded. -/
def awsRan (region : String) (arguments : List String) (stdout : String) :
    Exchange Request Response :=
  ran ("aws" :: arguments ++ ["--region", region, "--no-cli-pager"]) none none
    60 stdout

theorem succeeds_aws {region : String} {arguments : List String}
    {stdout : String} :
    (aws region arguments).Succeeds trace stdout ↔
      trace = [awsRan region arguments stdout] :=
  succeeds_runChecked

def repositoriesCommand (repository : String) : List String :=
  ["ecr", "describe-repositories", "--repository-names", repository,
    "--query", "repositories[0].repositoryUri", "--output", "text"]

def servicesCommand (cluster service : String) : List String :=
  ["ecs", "describe-services", "--cluster", cluster, "--services", service,
    "--output", "json"]

def taskCommand (task : String) : List String :=
  ["ecs", "describe-task-definition", "--task-definition", task, "--query",
    "taskDefinition", "--output", "json"]

/-- The task definition of the service has one inventory container, and it
runs a digest-pinned image of the repository. -/
def LiveImage (python : Library ContractError) (repository text : String)
    (image : String) : Prop :=
  ∃ definition containers container,
    python.loads text = .ok definition ∧
      definition.member "containerDefinitions" = some (.array containers) ∧
      containers.filter isInventory = [container] ∧
      container.member "image" = some (.string image) ∧
      Pinned repository image

theorem succeeds_inspectedService
    {region cluster service repository : String}
    {snapshot : ServiceSnapshot} {previousImage : Option String}
    (hrun : (inspectedService python region cluster service
      repository).Succeeds trace (snapshot, previousImage)) :
    ∃ described response,
      awsRan region (servicesCommand cluster service) described ∈ trace ∧
      python.loads described = .ok response ∧
      serviceSnapshot response = .ok snapshot ∧
      (0 < snapshot.previousCount → ∃ text image,
        awsRan region (taskCommand snapshot.previousTask) text ∈ trace ∧
          LiveImage python repository text image ∧
          previousImage = some image) ∧
      (¬ 0 < snapshot.previousCount → previousImage = none) := by
  unfold inspectedService at hrun
  simp only [Fallible.succeeds_translating, Fallible.succeeds_bind,
    Fallible.succeeds_step, succeeds_aws, existsAndEq, List.nil_append,
    List.cons_append, true_and] at hrun
  obtain ⟨described, rest, rfl, response, hloads, checked, hchecked, hrun⟩ :=
    hrun
  have hsettled := serviceSnapshot_ok hchecked
  split at hrun
  · rename_i hlive
    simp only [Fallible.succeeds_bind, Fallible.succeeds_step,
      Fallible.succeeds_pure, succeeds_aws, existsAndEq, List.nil_append,
      List.cons_append, true_and, Prod.mk.injEq] at hrun
    obtain ⟨text, definition, image, rfl, hdefinition, himage, rfl, rfl⟩ :=
      hrun
    obtain ⟨containers, container, hcontainers, hone, hnamed, hpinned⟩ :=
      liveImage_ok himage
    refine ⟨described, response, List.mem_cons_self, hloads, hchecked, ?_, ?_⟩
    · intro _
      exact ⟨text, image, List.mem_cons_of_mem _ List.mem_cons_self,
        ⟨definition, containers, container, hdefinition, hcontainers, hone,
          hnamed, hpinned⟩, rfl⟩
    · intro hzero
      exact absurd (hsettled.liveBaseline_iff.mp hlive) hzero
  · rename_i hlive
    rw [Fallible.succeeds_pure, Prod.mk.injEq] at hrun
    obtain ⟨rfl, rfl, rfl⟩ := hrun
    refine ⟨described, response, List.mem_cons_self, hloads, hchecked, ?_,
      fun _ => rfl⟩
    intro hpositive
    exact absurd (hsettled.liveBaseline_iff.mpr hpositive) hlive

theorem noInspection_aws {region : String} {arguments : List String} :
    (aws region arguments).AsksOnly NoInspection := by
  apply asksOnly_runChecked
  unfold NoInspection inspectedReference
  split
  · rename_i hcommand
    rw [Request.process.injEq, List.cons_append, List.cons.injEq] at hcommand
    exact absurd hcommand.1.1 (by decide)
  · rfl

theorem noInspection_inspectedService
    {region cluster service repository : String} :
    (inspectedService python region cluster service repository).AsksOnly
      NoInspection := by
  unfold inspectedService
  apply Fallible.AsksOnly.translating
  apply Fallible.AsksOnly.bind noInspection_aws
  intro described
  apply Fallible.AsksOnly.bind (Fallible.AsksOnly.step _)
  intro response
  apply Fallible.AsksOnly.bind (Fallible.AsksOnly.step _)
  intro snapshot
  split
  · apply Fallible.AsksOnly.bind noInspection_aws
    intro text
    apply Fallible.AsksOnly.bind (Fallible.AsksOnly.step _)
    intro definition
    exact Fallible.AsksOnly.bind (Fallible.AsksOnly.step _)
      fun _ => trivial
  · trivial

theorem noInspection_dockerEnvironment {temporary : String} :
    (dockerEnvironment environment temporary).AsksOnly NoInspection := by
  have hcontext : NoInspection (.process ["docker", "context", "inspect",
      "--format", "\x7b\x7b.Endpoints.docker.Host\x7d\x7d"]
      (some environment) none 120) := rfl
  unfold dockerEnvironment
  dsimp only
  split
  · exact Fallible.AsksOnly.bind (asksOnly_runChecked hcontext)
      fun _ => trivial
  · trivial

theorem noInspection_login {host password : String} :
    (runChecked ["docker", "login", "--username", "AWS", "--password-stdin",
      host] (some environment) (some password) 120).AsksOnly NoInspection := by
  have hlogin : NoInspection (.process ["docker", "login", "--username",
      "AWS", "--password-stdin", host] (some environment) (some password)
      120) := rfl
  exact asksOnly_runChecked hlogin

/-- Before the two inspections nothing is asked about images. -/
theorem succeeds_inspectedImages {region repository candidate : String}
    {previousImage : Option String} {temporary : String} {selected : Members}
    {baseline : Option Members}
    (hrun : (inspectedImages python environment region repository candidate
      previousImage temporary).Succeeds trace (selected, baseline)) :
    ∃ dockerEnv before candidateTrace baselineTrace,
      trace = before ++ (candidateTrace ++ baselineTrace) ∧
      (∀ exchange ∈ before, NoInspection exchange.query) ∧
      (inspectRegistryContract python candidate dockerEnv).Succeeds
        candidateTrace selected ∧
      (inspectedBaseline python dockerEnv previousImage).Succeeds
        baselineTrace baseline := by
  have hmode : NoInspection (.chmod temporary 0o700) := rfl
  unfold inspectedImages at hrun
  rw [Fallible.succeeds_bind] at hrun
  obtain ⟨changed, first, rest, rfl, hfirst, hrun⟩ := hrun
  rw [Fallible.succeeds_bind] at hrun
  obtain ⟨_, second, rest, rfl, hsecond, hrun⟩ := hrun
  rw [Fallible.succeeds_bind] at hrun
  obtain ⟨dockerEnv, third, rest, rfl, hthird, hrun⟩ := hrun
  rw [Fallible.succeeds_bind] at hrun
  obtain ⟨password, fourth, rest, rfl, hfourth, hrun⟩ := hrun
  rw [Fallible.succeeds_bind] at hrun
  obtain ⟨_, fifth, rest, rfl, hfifth, hrun⟩ := hrun
  simp only [Fallible.succeeds_bind, Fallible.succeeds_pure, Prod.mk.injEq,
    existsAndEq, List.append_nil, true_and, and_true] at hrun
  obtain ⟨candidateTrace, baselineTrace, rfl, hcandidate, hbaseline⟩ := hrun
  refine ⟨dockerEnv, first ++ second ++ third ++ fourth ++ fifth,
    candidateTrace, baselineTrace, by simp only [List.append_assoc], ?_,
    hcandidate, hbaseline⟩
  intro exchange hexchange
  simp only [List.mem_append] at hexchange
  rcases hexchange with (((hmem | hmem) | hmem) | hmem) | hmem
  · exact (Fallible.AsksOnly.ask hmode).of_succeeds hfirst exchange hmem
  · exact (Fallible.AsksOnly.step _).of_succeeds hsecond exchange hmem
  · exact noInspection_dockerEnvironment.of_succeeds hthird exchange hmem
  · exact noInspection_aws.of_succeeds hfourth exchange hmem
  · exact noInspection_login.of_succeeds hfifth exchange hmem

def region (environment : Environment) : String :=
  setting environment "AWS_REGION"

def requestedDigest (environment : Environment) : String :=
  setting environment "IMAGE_DIGEST"

/-- `repository@IMAGE_DIGEST`, for the repository that ECR named. -/
def candidateImage (environment : Environment) (uri : String) : String :=
  strip uri ++ "@" ++ requestedDigest environment

def describedServices (environment : Environment) (described : String) :
    Exchange Request Response :=
  awsRan (region environment)
    (servicesCommand (setting environment "ECS_CLUSTER")
      (setting environment "ECS_SERVICE")) described

def describedRepositories (environment : Environment) (uri : String) :
    Exchange Request Response :=
  awsRan (region environment)
    (repositoriesCommand (setting environment "ECR_REPOSITORY")) uri

/-- The parts of a run that returned a report: what was read of the service,
and the two inspections with nothing about images before or after them. -/
theorem succeeds_verifyDeployment {report : DeploymentReport}
    (hrun : (verifyDeployment python environment).Succeeds trace report) :
    ∃ uri previousImage dockerEnv before candidateTrace baselineTrace after,
      trace = before ++ (candidateTrace ++ (baselineTrace ++ after)) ∧
      (∀ exchange ∈ before ++ after, NoInspection exchange.query) ∧
      describedRepositories environment uri ∈ before ∧
      (requestedDigest environment).toList ∈ imageId.language ∧
      (inspectRegistryContract python (candidateImage environment uri)
        dockerEnv).Succeeds candidateTrace report.candidate ∧
      (inspectedBaseline python dockerEnv previousImage).Succeeds
        baselineTrace report.rollbackBaseline ∧
      ∃ described response,
        describedServices environment described ∈ before ∧
        python.loads described = .ok response ∧
        serviceSnapshot response = .ok report.service ∧
        (0 < report.service.previousCount → ∃ text image,
          awsRan (region environment)
              (taskCommand report.service.previousTask) text ∈ before ∧
            LiveImage python (strip uri) text image ∧
            previousImage = some image) ∧
        (¬ 0 < report.service.previousCount → previousImage = none) := by
  unfold verifyDeployment at hrun
  simp only [Fallible.succeeds_bind, Fallible.succeeds_check,
    Fallible.succeeds_pure, succeeds_aws, existsAndEq, List.nil_append,
    List.cons_append, List.append_nil, true_and] at hrun
  obtain ⟨_, _, uri, _, ⟨snapshot, previousImage⟩, first, rest, rfl, -,
    hdigest, -, hservice, ⟨selected, baseline⟩, hwith, rfl⟩ := hrun
  obtain ⟨temporary, inner, hinner, rfl⟩ :=
    succeeds_withTemporaryDirectory hwith
  obtain ⟨dockerEnv, second, candidateTrace, baselineTrace, rfl, hsecond,
    hcandidate, hbaseline⟩ := succeeds_inspectedImages hinner
  obtain ⟨described, response, hdescribed, hloads, hchecked, hlive, hzero⟩ :=
    succeeds_inspectedService hservice
  have hfirst : ∀ exchange ∈ first, NoInspection exchange.query :=
    noInspection_inspectedService.of_succeeds hservice
  refine ⟨uri, previousImage, dockerEnv,
    describedRepositories environment uri :: (first ++
      ⟨.temporaryDirectory "inventory-registry-auth-", some temporary⟩ ::
        second),
    candidateTrace, baselineTrace, [⟨.removeDirectory temporary, some ⟨⟩⟩],
    ?_, ?_, List.mem_cons_self, (TextPattern.fullmatch_iff _ _).mp hdigest,
    hcandidate, hbaseline, described, response, ?_, hloads, hchecked, ?_,
    hzero⟩
  · simp only [List.cons_append, List.append_assoc]
    rfl
  · intro exchange hexchange
    simp only [List.cons_append, List.mem_cons, List.mem_append,
      List.not_mem_nil, or_false] at hexchange
    rcases hexchange with rfl | (hmem | rfl | hmem) | rfl
    · rfl
    · exact hfirst exchange hmem
    · rfl
    · exact hsecond exchange hmem
    · rfl
  · exact List.mem_cons_of_mem _ (List.mem_append_left _ hdescribed)
  · intro hpositive
    obtain ⟨text, image, htext, himage, hprevious⟩ := hlive hpositive
    exact ⟨text, image,
      List.mem_cons_of_mem _ (List.mem_append_left _ htext), himage,
      hprevious⟩

/-! ### The guarantee of the gate -/

/-- What the gate promises about a run that returned a report. -/
structure GateSound (python : Library ContractError)
    (environment : Environment) (trace : Trace) (report : DeploymentReport) :
    Prop where
  service : ∃ described response,
    describedServices environment described ∈ trace ∧
      python.loads described = .ok response ∧ Settled response report.service
  images : ∃ uri,
    describedRepositories environment uri ∈ trace ∧
      (requestedDigest environment).toList ∈ imageId.language ∧
      Inspected python trace (candidateImage environment uri)
        report.candidate ∧
      (0 < report.service.previousCount → ∃ text image baseline,
        awsRan (region environment)
            (taskCommand report.service.previousTask) text ∈ trace ∧
          LiveImage python (strip uri) text image ∧
          report.rollbackBaseline = some baseline ∧
          Inspected python trace image baseline)
  bootstrap : report.rollbackBaseline = none →
    report.service.previousCount = 0 ∧ report.service.runningCount = 0 ∧
      report.service.pendingCount = 0

/-- A run of the inspection of the live image, if there is one. -/
theorem succeeds_inspectedBaseline {dockerEnv : Environment}
    {previousImage : Option String} {baseline : Option Members}
    (hrun : (inspectedBaseline python dockerEnv previousImage).Succeeds trace
      baseline) :
    (previousImage = none ∧ baseline = none ∧ trace = []) ∨
      ∃ image result, previousImage = some image ∧ baseline = some result ∧
        (inspectRegistryContract python image dockerEnv).Succeeds trace
          result := by
  cases previousImage with
  | none =>
      rw [inspectedBaseline, Fallible.succeeds_pure] at hrun
      exact Or.inl ⟨rfl, hrun.2, hrun.1⟩
  | some image =>
      simp only [inspectedBaseline, Fallible.succeeds_bind,
        Fallible.succeeds_pure, existsAndEq, List.append_nil, true_and]
        at hrun
      obtain ⟨result, hresult, rfl⟩ := hrun
      exact Or.inr ⟨image, result, rfl, rfl, hresult⟩

theorem not_inspect {exchange : Exchange Request Response}
    {anyEnv : Environment} {reference stdout : String}
    (hquiet : NoInspection exchange.query) :
    exchange ≠ dockerRan anyEnv (inspectCommand reference) stdout := by
  rintro rfl
  simp [NoInspection, dockerRan, ran, inspectCommand, inspectedReference]
    at hquiet

/-- An answer about an image was given during one of the two inspections. -/
theorem inspect_mem {before candidateTrace baselineTrace after : Trace}
    (hquiet : ∀ exchange ∈ before ++ after, NoInspection exchange.query)
    {anyEnv : Environment} {reference stdout : String}
    (hmem : dockerRan anyEnv (inspectCommand reference) stdout ∈
      before ++ (candidateTrace ++ (baselineTrace ++ after))) :
    dockerRan anyEnv (inspectCommand reference) stdout ∈ candidateTrace ∨
      dockerRan anyEnv (inspectCommand reference) stdout ∈ baselineTrace := by
  have houtside : dockerRan anyEnv (inspectCommand reference) stdout ∉
      before ++ after := fun hout => not_inspect (hquiet _ hout) rfl
  simp only [List.mem_append, not_or] at hmem houtside
  rcases hmem with hmem | hmem | hmem | hmem
  · exact absurd hmem houtside.1
  · exact Or.inl hmem
  · exact Or.inr hmem
  · exact absurd hmem houtside.2

theorem gate_sound_of_listed {report : DeploymentReport}
    (hrun : (verifyDeployment python environment).Succeeds trace report)
    (hlisted : DigestsListed python trace) :
    GateSound python environment trace report := by
  obtain ⟨uri, previousImage, dockerEnv, before, candidateTrace,
    baselineTrace, after, rfl, hquiet, hrepositories, hdigest, hcandidate,
    hbaseline, described, response, hdescribed, hloads, hchecked, hlive,
    hzero⟩ := succeeds_verifyDeployment hrun
  have hsettled := serviceSnapshot_ok hchecked
  have hbaselines := succeeds_inspectedBaseline hbaseline
  have hcandidateChecked : ∀ anyEnv stdout,
      dockerRan anyEnv (inspectCommand (candidateImage environment uri))
          stdout ∈ before ++ (candidateTrace ++ (baselineTrace ++ after)) →
        Checked python (candidateImage environment uri) stdout := by
    intro anyEnv stdout hmem
    rcases inspect_mem hquiet hmem with hmem | hmem
    · exact (checked_of_mem hcandidate hmem).2
    · rcases hbaselines with ⟨-, -, rfl⟩ | ⟨image, result, -, -, himage⟩
      · cases hmem
      · obtain ⟨hsame, hchecked⟩ := checked_of_mem himage hmem
        rwa [hsame]
  refine ⟨⟨described, response, List.mem_append_left _ hdescribed, hloads,
    hsettled⟩, ⟨uri, List.mem_append_left _ hrepositories, hdigest,
    Inspected.of_succeeds hcandidate hlisted hcandidateChecked, ?_⟩, ?_⟩
  · intro hpositive
    obtain ⟨text, image, htext, himage, rfl⟩ := hlive hpositive
    rcases hbaselines with ⟨hnone, -, -⟩ | ⟨other, result, hother, hresult,
      hinspected⟩
    · cases hnone
    · cases hother
      refine ⟨text, image, result, List.mem_append_left _ htext, himage,
        hresult, ?_⟩
      have htrace : before ++ (candidateTrace ++ (baselineTrace ++ after)) =
          (before ++ candidateTrace) ++ (baselineTrace ++ after) := by
        simp only [List.append_assoc]
      rw [htrace] at hlisted ⊢
      apply Inspected.of_succeeds hinspected hlisted
      intro anyEnv stdout hmem
      rw [← htrace] at hmem
      rcases inspect_mem hquiet hmem with hmem | hmem
      · obtain ⟨hsame, hchecked⟩ := checked_of_mem hcandidate hmem
        rwa [hsame]
      · exact (checked_of_mem hinspected hmem).2
  · intro hnone
    have hcount : ¬ 0 < report.service.previousCount := by
      intro hpositive
      obtain ⟨text, image, -, -, rfl⟩ := hlive hpositive
      rcases hbaselines with ⟨himage, -, -⟩ | ⟨_, _, -, hresult, -⟩
      · cases himage
      · rw [hnone] at hresult
        cases hresult
    have hnonneg := hsettled.desired_nonneg
    have hrunning := hsettled.running_eq
    have hpending := hsettled.pending_eq
    omega

/-- The gate keeps its promise in exactly those runs that returned a report
in which every `RepoDigests` that Docker answered is a list. -/
theorem gate_sound_iff {report : DeploymentReport}
    (hrun : (verifyDeployment python environment).Succeeds trace report) :
    GateSound python environment trace report ↔
      DigestsListed python trace := by
  constructor
  · intro hsound
    obtain ⟨uri, previousImage, dockerEnv, before, candidateTrace,
      baselineTrace, after, rfl, hquiet, -, -, hcandidate, hbaseline,
      described, response, -, -, -, hlive, hzero⟩ :=
      succeeds_verifyDeployment hrun
    obtain ⟨other, -, -, hinspected, hlater⟩ := hsound.images
    intro anyEnv reference stdout image hmem hloads
    have hreported : ∃ id, Reported python reference stdout id := by
      rcases inspect_mem hquiet hmem with hpart | hpart
      · obtain ⟨rfl, -⟩ := checked_of_mem hcandidate hpart
        obtain ⟨_, _, _, _, _, _, -, -, -, -, -, -, hresult⟩ :=
          succeeds_inspectRegistryContract hcandidate
        rw [hinspected.reference_eq hresult] at hmem ⊢
        exact hinspected.reported anyEnv stdout hmem
      · rcases succeeds_inspectedBaseline hbaseline with ⟨-, -, rfl⟩ |
          ⟨live, result, rfl, hresult, hrunLive⟩
        · cases hpart
        · obtain ⟨rfl, -⟩ := checked_of_mem hrunLive hpart
          have hpositive : 0 < report.service.previousCount := by
            by_contra hnot
            cases hzero hnot
          obtain ⟨_, _, baseline, -, -, hbaseline', hinspected'⟩ :=
            hlater hpositive
          rw [hresult, Option.some_inj] at hbaseline'
          obtain ⟨_, _, _, _, _, _, -, -, -, -, -, -, hnamed⟩ :=
            succeeds_inspectRegistryContract hrunLive
          rw [hbaseline'] at hnamed
          rw [hinspected'.reference_eq hnamed] at hmem ⊢
          exact hinspected'.reported anyEnv stdout hmem
    obtain ⟨id, found, digests, hfound, -, hdigests, -⟩ := hreported
    have hsame : image = found := by
      rw [hloads] at hfound
      simpa using hfound
    rw [hsame]
    exact ⟨digests, hdigests⟩
  · exact gate_sound_of_listed hrun

/-! ### A run of the gate

The first release of a service without tasks.  `digests` is what Docker
answers as `RepoDigests` of the candidate.
-/

namespace Sample

def repository : String :=
  "123456789012.dkr.ecr.us-east-1.amazonaws.com/inventory"

def digest (char : Char) : String :=
  "sha256:" ++ String.ofList (List.replicate 64 char)

def reference : String :=
  repository ++ "@" ++ digest 'a'

def task : String :=
  "arn:aws:ecs:us-east-1:123456789012:task-definition/inventory:1"

def counts : Members :=
  [("desiredCount", .integer 0), ("runningCount", .integer 0),
    ("pendingCount", .integer 0)]

def deployment : JsonValue :=
  .object ([("id", .string "ecs-svc/original"), ("status", .string "PRIMARY"),
    ("rolloutState", .string "COMPLETED"), ("taskDefinition", .string task)] ++
      counts)

def service : JsonValue :=
  .object ([("status", .string "ACTIVE"), ("taskDefinition", .string task)] ++
    counts ++ [("deployments", .array [deployment])])

def response : JsonValue :=
  .object [("services", .array [service]), ("failures", .array [])]

def inspected (digests : JsonValue) : JsonValue :=
  .object [("Id", .string (digest 'c')), ("Os", .string "linux"),
    ("Architecture", .string "amd64"), ("RepoDigests", digests)]

def contract : JsonValue :=
  .object [("schemaVersion", .integer 1),
    ("service", .string "inventory-cloud-service"),
    ("capabilities", .array (requiredCapabilities.map .string))]

def ownership : String := "0123456789abcdef0123456789abcdef"

def container : JsonValue :=
  .object [("Name", .string ("/inventory-contract-" ++ ownership)),
    ("Image", .string (digest 'c')),
    ("Config", .object [("Labels", .object
      [(ownershipLabel, .string ownership)])])]

def servicesText : String :=
  "\x7b\"services\":[\x7b\"status\":\"ACTIVE\",\"taskDefinition\":\"a" ++
    "rn:aws:ecs:us-east-1:123456789012:task-definition/inventory:1\",\"" ++
    "desiredCount\":0,\"runningCount\":0,\"pendingCount\":0,\"deploymen" ++
    "ts\":[\x7b\"id\":\"ecs-svc/original\",\"status\":\"PRIMARY\",\"rol" ++
    "loutState\":\"COMPLETED\",\"taskDefinition\":\"arn:aws:ecs:us-east" ++
    "-1:123456789012:task-definition/inventory:1\",\"desiredCount\":0," ++
    "\"runningCount\":0,\"pendingCount\":0\x7d]\x7d],\"failures\":[]" ++
    "\x7d"

def containerText : String :=
  "[\x7b\"Name\":\"/inventory-contract-0123456789abcdef0123456789abcd" ++
    "ef\",\"Image\":\"sha256:cccccccccccccccccccccccccccccccccccccccccc" ++
    "cccccccccccccccccccccc\",\"Config\":\x7b\"Labels\":\x7b\"com.inven" ++
    "tory.release-contract.operation\":\"0123456789abcdef0123456789abcd" ++
    "ef\"\x7d\x7d\x7d]"

def inspectedText (digestsText : String) : String :=
  "[\x7b\"Id\":\"sha256:ccccccccccccccccccccccccccccccccccccccccccccc" ++
    "ccccccccccccccccccc\",\"Os\":\"linux\",\"Architecture\":\"amd64\"," ++
    "\"RepoDigests\":" ++
    digestsText ++ "\x7d]"

def contractText : String :=
  "\x7b\n  \"schemaVersion\": 1,\n  \"service\": \"inventory-cloud-se" ++
    "rvice\",\n  \"capabilities\": [\n    \"separate-migrations/v1\",\n" ++
    "    \"restricted-runtime/v1\",\n    \"reservation-idempotency/v1\"" ++
    "\n  ]\n\x7d\n"

def contractBytes : List UInt8 :=
  contractText.toList.map fun char => UInt8.ofNat char.toNat

/-- `str`, of which the run needs texts only. -/
def printed : JsonValue → String
  | .string text => text
  | _ => "None"

/-- Python's library on the texts of this run. -/
def library (digests : JsonValue) (digestsText : String) :
    Library ContractError where
  loads text :=
    if text = servicesText then .ok response
    else if text = containerText then .ok (.array [container])
    else if text = inspectedText digestsText then
      .ok (.array [inspected digests])
    else .error .valueError
  loadsBytes raw :=
    if raw = contractBytes then .ok contract else .error .valueError
  sha256 _ :=
    "c3576d7ca0136f147cb05e898bed9924" ++
      "4f851b5f80dac0f1d85c196277d4bb43"
  str := printed
  str_string _ := rfl
  str_other value hvalue := by
    refine ⟨'N', ['o', 'n', 'e'], ?_, by decide⟩
    cases value with
    | string text => exact absurd rfl (hvalue text)
    | _ => exact (by decide : "None".toList = ['N', 'o', 'n', 'e'])

def settings : Environment := fun name =>
  if name = "AWS_REGION" then some "us-east-1"
  else if name = "ECS_CLUSTER" then some "inventory"
  else if name = "ECS_SERVICE" then some "inventory"
  else if name = "ECR_REPOSITORY" then some "inventory"
  else if name = "IMAGE_DIGEST" then some (digest 'a')
  else if name = "DOCKER_HOST" then some "unix:///var/run/docker.sock"
  else none

/-- What the commands of this run print. -/
def output (digestsText : String) : List String → String
  | "aws" :: "ecr" :: "describe-repositories" :: _ => repository ++ "\n"
  | "aws" :: "ecs" :: "describe-services" :: _ => servicesText
  | "docker" :: "image" :: "inspect" :: _ => inspectedText digestsText
  | "docker" :: "container" :: "ls" :: _ => "4f5e6d7c8b9a\n"
  | "docker" :: "container" :: "inspect" :: _ => containerText
  | _ => "\n"

def oracle (digestsText : String) :
    (request : Request) → Response request
  | .process arguments _ _ _ => .completed 0 (output digestsText arguments)
  | .uuid4 => ownership
  | .temporaryDirectory stem => some ("/tmp/" ++ stem)
  | .chmod _ _ => some ⟨⟩
  | .isSymlink _ => some false
  | .isFile _ => some true
  | .fileSize _ => some 182
  | .readBytes _ => some contractBytes
  | .removeDirectory _ => some ⟨⟩

def exchanges (digests : JsonValue) (digestsText : String) : Trace :=
  (verifyDeployment (library digests digestsText) settings).run.transcript
    (oracle digestsText)

def returns (digests : JsonValue) (digestsText : String) : Bool :=
  ((verifyDeployment (library digests digestsText) settings).run.eval
    (oracle digestsText)).isOk

theorem succeeds {digests : JsonValue} {digestsText : String}
    (hreturns : returns digests digestsText = true) :
    ∃ report,
      (verifyDeployment (library digests digestsText) settings).Succeeds
        (exchanges digests digestsText) report := by
  unfold returns at hreturns
  cases houtcome : (verifyDeployment (library digests digestsText)
      settings).run.eval (oracle digestsText) with
  | error error =>
      rw [houtcome] at hreturns
      cases hreturns
  | ok report => exact ⟨report, Fallible.succeeds_transcript _ houtcome⟩

/-- The reference as the only item of a list. -/
def listed : JsonValue :=
  .array [.string reference]

def listedText : String :=
  "[\"" ++ reference ++ "\"]"

/-- A text that contains the reference and is another one. -/
def embedded : JsonValue :=
  .string ("mirror/" ++ reference)

def embeddedText : String :=
  "\"mirror/" ++ reference ++ "\""

theorem listed_returns : returns listed listedText = true := by
  decide +kernel

theorem embedded_returns : returns embedded embeddedText = true := by
  decide +kernel

/-- No answer of this run lists repository digests. -/
theorem embedded_unlisted {text : String} {image : JsonValue}
    (hloads : (library embedded embeddedText).loads text =
      .ok (.array [image])) (digests : List JsonValue) :
    image.member "RepoDigests" ≠ some (.array digests) := by
  simp only [library] at hloads
  split_ifs at hloads
  · simp [response] at hloads
  · have himage : container = image := by simpa using hloads
    simp [← himage, container, lookup_cons]
  · have himage : inspected embedded = image := by simpa using hloads
    simp [← himage, inspected, embedded, lookup_cons]

end Sample

/-- The gate returns a report although Docker has not reported the digest: it
answered a text which merely contains the reference. -/
theorem gate_unsound_embedded :
    ∃ (python : Library ContractError) (environment : Environment)
      (trace : Trace) (report : DeploymentReport),
      (verifyDeployment python environment).Succeeds trace report ∧
        ¬ GateSound python environment trace report := by
  obtain ⟨report, hrun⟩ := Sample.succeeds Sample.embedded_returns
  refine ⟨_, _, _, report, hrun, ?_⟩
  intro hsound
  obtain ⟨uri, -, -, hinspected, -⟩ := hsound.images
  obtain ⟨_, _, _, _, _, _, _, -, ⟨image, digests, hloads, -, hdigests, -⟩,
    -, -⟩ := hinspected.passed
  exact Sample.embedded_unlisted hloads digests hdigests

theorem gate_sound_iff_sample :
    ∃ report,
      (verifyDeployment (Sample.library Sample.listed Sample.listedText)
        Sample.settings).Succeeds
          (Sample.exchanges Sample.listed Sample.listedText) report ∧
        (GateSound (Sample.library Sample.listed Sample.listedText)
            Sample.settings (Sample.exchanges Sample.listed Sample.listedText)
            report ↔
          DigestsListed (Sample.library Sample.listed Sample.listedText)
            (Sample.exchanges Sample.listed Sample.listedText)) := by
  obtain ⟨report, hrun⟩ := Sample.succeeds Sample.listed_returns
  exact ⟨report, hrun, gate_sound_iff hrun⟩

end ImageVerification

end InventoryCloud
