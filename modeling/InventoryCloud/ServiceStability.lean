import InventoryCloud.ReleaseFilters
import InventoryCloud.ReleaseGate

/-!
# The two stability checks

`verify_deployment` and `service-baseline.jq` check that a service is settled,
one before the images are inspected and one before anything is changed.  The
filter accepts the snapshot that the gate has read, and every snapshot that it
accepts is one from which the gate would read the same.
-/

namespace InventoryCloud

namespace ImageVerification

open JsonValue Jq Python ReleaseFilters ReleaseContract

variable {response : JsonValue} {snapshot : ServiceSnapshot}
  {report : DeploymentReport}

/-! ### The gate accepts a settled service -/

theorem natural_of_nonneg {count : Int} (hcount : 0 ≤ count) :
    natural (.integer count) = .ok count :=
  if_neg (not_lt.mpr hcount)

theorem deploymentCount_of_member {field : String} {expected : Int}
    {deployment : JsonValue}
    (hmember : deployment.member field = some (.integer expected)) :
    deploymentCount field expected deployment = .ok ⟨⟩ := by
  unfold deploymentCount
  rw [subscript_ok.mpr hmember]
  exact if_neg (not_not.mpr rfl)

theorem settledDeployment_of_settled {service : JsonValue}
    {deployment : JsonValue}
    (hdeployments : service.member "deployments" =
      some (.array [deployment]))
    (hsettled : SettledDeployment deployment snapshot)
    (hrunning : snapshot.runningCount = snapshot.previousCount)
    (hpending : snapshot.pendingCount = 0) :
    settledDeployment service snapshot.previousTask snapshot.previousCount
      snapshot.runningCount snapshot.pendingCount =
        .ok snapshot.previousDeploymentId := by
  unfold settledDeployment
  rw [bind_ok]
  refine ⟨_, subscript_ok.mpr hdeployments, ?_⟩
  dsimp only
  rw [bind_ok]
  refine ⟨_, subscript_ok.mpr hsettled.identity, ?_⟩
  dsimp only
  simp only [bind_ok, subscript_ok, throw_bind, guard_ok, pure_ok, not_not,
    ne_eq, not_or, existsAndEq, true_and]
  exact ⟨hsettled.named, hsettled.primary, hsettled.task, hsettled.completed,
    ⟨hrunning, hpending⟩, ⟨⟩, deploymentCount_of_member hsettled.desired, ⟨⟩,
    deploymentCount_of_member hsettled.running, ⟨⟩,
    deploymentCount_of_member hsettled.pending, trivial⟩

theorem activeService_of_settled {service : JsonValue}
    (hfailures : response.member "failures" = some (.array []))
    (hservices : response.member "services" = some (.array [service]))
    (hactive : service.member "status" = some (.string "ACTIVE")) :
    activeService response = .ok service := by
  unfold activeService
  simp only [bind_ok, subscript_ok, throw_bind, guard_ok, pure_ok, not_not,
    ne_eq, existsAndEq, true_and, and_true]
  exact ⟨hfailures, .array [service], hservices, rfl, rfl, hactive⟩

/-- The checks of the gate on a settled service succeed. -/
theorem Settled.serviceSnapshot (hsettled : Settled response snapshot) :
    ImageVerification.serviceSnapshot response = .ok snapshot := by
  obtain ⟨hfailures, ⟨service, hservices, hservice⟩, harn, hnonneg, hrunning,
    hpending⟩ := hsettled
  obtain ⟨deployment, hdeployments, hdeployment⟩ := hservice.deployment
  unfold ImageVerification.serviceSnapshot
  simp only [bind_ok, subscript_ok]
  refine ⟨service,
    activeService_of_settled hfailures hservices hservice.active, _,
    hservice.desired, _, hservice.running, _, hservice.pending, _,
    hservice.task, _, natural_of_nonneg hnonneg, _,
    natural_of_nonneg (hrunning ▸ hnonneg), _,
    natural_of_nonneg hpending.ge, ?_⟩
  dsimp only
  rw [throw_bind, guard_ok, not_not, bind_ok]
  exact ⟨(TextPattern.fullmatch_iff _ _).mpr harn, _,
    settledDeployment_of_settled hdeployments hdeployment hrunning hpending,
    rfl⟩

/-! ### What the filter accepts -/

theorem accepts_baseline_iff :
    Accepts (serviceBaseline [report.toJson]) response ↔
      ∀ check ∈ baselineChecks report.toJson response, check = .ok true :=
  accepts_conjunction rfl

/-- The deployment of the snapshot, with numbers by value. -/
structure SteadyDeployment (deployment : JsonValue)
    (snapshot : ServiceSnapshot) : Prop where
  identity : deployment.member "id" =
    some (.string snapshot.previousDeploymentId)
  primary : deployment.member "status" = some (.string "PRIMARY")
  task : deployment.member "taskDefinition" =
    some (.string snapshot.previousTask)
  completed : deployment.member "rolloutState" = some (.string "COMPLETED")
  desired : HasCount deployment "desiredCount" snapshot.previousCount
  running : HasCount deployment "runningCount" snapshot.runningCount
  pending : HasCount deployment "pendingCount" 0

structure SteadyService (service : JsonValue) (snapshot : ServiceSnapshot) :
    Prop where
  active : service.member "status" = some (.string "ACTIVE")
  task : service.member "taskDefinition" =
    some (.string snapshot.previousTask)
  desired : HasCount service "desiredCount" snapshot.previousCount
  running : HasCount service "runningCount" snapshot.runningCount
  pending : HasCount service "pendingCount" snapshot.pendingCount
  deployment : ∃ deployment,
    service.member "deployments" = some (.array [deployment]) ∧
      SteadyDeployment deployment snapshot

/-- What the filter accepts for a snapshot. -/
structure Steady (response : JsonValue) (snapshot : ServiceSnapshot) :
    Prop where
  failures : response.member "failures" = some (.array [])
  service : ∃ service, response.member "services" = some (.array [service]) ∧
    SteadyService service snapshot
  running_eq : snapshot.runningCount = snapshot.previousCount
  pending_eq : snapshot.pendingCount = 0

/-- A member with one item, as the filter reads it. -/
theorem entry_of_single {key : String} {value item : JsonValue}
    (hmember : value.member key = some (.array [item])) :
    (field key value >>= entry 0) = .ok item := by
  rw [field_of_member hmember]
  rfl

theorem length_of_single {key : String} {value item : JsonValue}
    (hmember : value.member key = some (.array [item])) :
    equalTo (field key value >>= Jq.length) (.integer 1) = .ok true := by
  rw [field_of_member hmember]
  rfl

theorem path_ok {key : String} {value : JsonValue} :
    path (.ok value) [key] = field key value := rfl

/-- The fields of the report, as the filter reads them. -/
theorem equalBoth_task (value : Result JsonValue) :
    equalBoth value (field "previous_task" report.toJson) =
      equalTo value (.string report.service.previousTask) := rfl

theorem equalBoth_id (value : Result JsonValue) :
    equalBoth value (field "previous_deployment_id" report.toJson) =
      equalTo value (.string report.service.previousDeploymentId) := rfl

theorem equalBoth_count (value : Result JsonValue) :
    equalBoth value (field "previous_count" report.toJson) =
      equalTo value (.integer report.service.previousCount) := rfl

theorem equalBoth_running (value : Result JsonValue) :
    equalBoth value (field "previous_running_count" report.toJson) =
      equalTo value (.integer report.service.runningCount) := rfl

theorem equalBoth_pending (value : Result JsonValue) :
    equalBoth value (field "previous_pending_count" report.toJson) =
      equalTo value (.integer report.service.pendingCount) := rfl

/-- The checks of the filter on one service with one deployment. -/
theorem baselineChecks_iff {service deployment : JsonValue}
    (hservices : response.member "services" = some (.array [service]))
    (hdeployments : service.member "deployments" =
      some (.array [deployment])) :
    (∀ check ∈ baselineChecks report.toJson response, check = .ok true) ↔
      Steady response report.service := by
  simp only [baselineChecks, List.forall_mem_cons, entry_of_single hservices,
    length_of_single hservices, path_ok, entry_of_single hdeployments,
    length_of_single hdeployments, equalBoth_task, equalBoth_id,
    equalBoth_count, equalBoth_running, equalBoth_pending, fieldIs_string,
    fieldIs_integer, fieldIs_noItems]
  constructor
  · rintro ⟨hfailures, -, hactive, htask, hdesired, hrunning, hpending, hsame,
      hzero, -, hid, hprimary, htask', hcompleted, hdesired', hrunning',
      hzero', -⟩
    exact ⟨hfailures, ⟨service, hservices, hactive, htask, hdesired, hrunning,
      hpending, deployment, hdeployments, hid, hprimary, htask', hcompleted,
      hdesired', hrunning', hzero'⟩,
      (fieldsEqual_iff hrunning hdesired).mp hsame, hpending.unique hzero⟩
  · rintro ⟨hfailures, ⟨other, hother, hsteady⟩, hrunningEq, hpendingEq⟩
    obtain rfl : service = other := by
      rw [hservices] at hother
      simpa using hother
    obtain ⟨hactive, htask, hdesired, hrunning, hpending, found, hfound,
      hdeployment⟩ := hsteady
    obtain rfl : deployment = found := by
      rw [hdeployments] at hfound
      simpa using hfound
    exact ⟨hfailures, trivial, hactive, htask, hdesired, hrunning, hpending,
      (fieldsEqual_iff hrunning hdesired).mpr hrunningEq,
      hpendingEq ▸ hpending, trivial, hdeployment.identity,
      hdeployment.primary, hdeployment.task, hdeployment.completed,
      hdeployment.desired, hdeployment.running, hdeployment.pending, by simp⟩

/-- A value that has passed the checks of the filter has one service with one
deployment. -/
theorem single_of_checks
    (hchecks : ∀ check ∈ baselineChecks report.toJson response,
      check = .ok true) :
    ∃ service deployment,
      response.member "services" = some (.array [service]) ∧
        service.member "deployments" = some (.array [deployment]) := by
  simp only [baselineChecks, List.forall_mem_cons] at hchecks
  obtain ⟨-, hone, hactive, -, -, -, -, -, -, hsingle, -, hprimary, -⟩ :=
    hchecks
  obtain ⟨_, hstatus, -⟩ := equalTo_ok.mp hactive
  obtain ⟨service, hservices, -⟩ := only_item hone hstatus
  simp only [entry_of_single hservices, path_ok] at hsingle hprimary
  obtain ⟨_, hfirst, -⟩ := equalTo_ok.mp hprimary
  obtain ⟨deployment, hdeployments, -⟩ := only_item hsingle hfirst
  exact ⟨service, deployment, hservices, hdeployments⟩

theorem accepts_iff_steady :
    Accepts (serviceBaseline [report.toJson]) response ↔
      Steady response report.service := by
  rw [accepts_baseline_iff]
  constructor
  · intro hchecks
    obtain ⟨service, deployment, hservices, hdeployments⟩ :=
      single_of_checks hchecks
    exact (baselineChecks_iff hservices hdeployments).mp hchecks
  · intro hsteady
    obtain ⟨service, hservices, hservice⟩ := hsteady.service
    obtain ⟨deployment, hdeployments, -⟩ := hservice.deployment
    exact (baselineChecks_iff hservices hdeployments).mpr hsteady

/-! ### The two checks agree -/

theorem hasCount_of_member {value : JsonValue} {key : String} {count : Int}
    (hmember : value.member key = some (.integer count)) :
    HasCount value key count :=
  ⟨_, hmember, rfl⟩

/-- The filter accepts what the gate has settled on. -/
theorem Settled.steady (hsettled : Settled response snapshot) :
    Steady response snapshot := by
  obtain ⟨hfailures, ⟨service, hservices, hservice⟩, -, -, hrunning,
    hpending⟩ := hsettled
  obtain ⟨deployment, hdeployments, hdeployment⟩ := hservice.deployment
  have hnoPending : HasCount deployment "pendingCount" 0 :=
    hpending ▸ hasCount_of_member hdeployment.pending
  exact ⟨hfailures, ⟨service, hservices, hservice.active, hservice.task,
    hasCount_of_member hservice.desired, hasCount_of_member hservice.running,
    hasCount_of_member hservice.pending, deployment, hdeployments,
    hdeployment.identity, hdeployment.primary, hdeployment.task,
    hdeployment.completed, hasCount_of_member hdeployment.desired,
    hasCount_of_member hdeployment.running, hnoPending⟩, hrunning, hpending⟩

theorem integral_count {value : JsonValue} {key : String} {count : Int}
    (hcount : HasCount value key count) :
    value.integral.member key = some (.integer count) := by
  obtain ⟨found, hmember, hnumber⟩ := hcount
  rw [member_integral hmember, integral_of_number hnumber]

/-- With numbers by value, a service as steady as the one the gate settled on
is settled too. -/
theorem Settled.of_steady {inspected : JsonValue}
    (hsettled : Settled inspected snapshot)
    (hsteady : Steady response snapshot) :
    Settled response.integral snapshot := by
  obtain ⟨-, ⟨_, -, hinspected⟩, harn, hnonneg, hrunning, hpending⟩ :=
    hsettled
  obtain ⟨_, -, hnamed⟩ := hinspected.deployment
  obtain ⟨hfailures, ⟨service, hservices, hservice⟩, -, -⟩ := hsteady
  obtain ⟨deployment, hdeployments, hdeployment⟩ := hservice.deployment
  have hnoPending : HasCount deployment "pendingCount"
      snapshot.pendingCount := by
    rw [hpending]
    exact hdeployment.pending
  refine ⟨member_integral hfailures,
    ⟨service.integral, member_integral hservices, ?_⟩, harn, hnonneg,
    hrunning, hpending⟩
  exact ⟨member_integral hservice.active, member_integral hservice.task,
    integral_count hservice.desired, integral_count hservice.running,
    integral_count hservice.pending, deployment.integral,
    member_integral hdeployments, member_integral hdeployment.identity,
    hnamed.named, member_integral hdeployment.primary,
    member_integral hdeployment.task, member_integral hdeployment.completed,
    integral_count hdeployment.desired, integral_count hdeployment.running,
    integral_count hnoPending⟩

/-- The filter accepts the response that the gate has read, and from every
response that it accepts the gate would have read the same snapshot. -/
theorem stability_checks_agree (library : Library ContractError)
    (environment : Environment) (trace : Trace) (report : DeploymentReport)
    (hrun : (verifyDeployment library environment).Succeeds trace report) :
    ∃ described first,
      describedServices environment described ∈ trace ∧
        library.loads described = .ok first ∧
        serviceSnapshot first = .ok report.service ∧
        Accepts (serviceBaseline [report.toJson]) first ∧
        ∀ second, Accepts (serviceBaseline [report.toJson]) second →
          serviceSnapshot second.integral = .ok report.service := by
  obtain ⟨_, _, _, before, _, _, _, rfl, -, -, -, -, -, described, first,
    hdescribed, hloads, hchecked, -, -⟩ := succeeds_verifyDeployment hrun
  have hsettled := serviceSnapshot_ok hchecked
  refine ⟨described, first, List.mem_append_left _ hdescribed, hloads,
    hchecked, accepts_iff_steady.mpr hsettled.steady, ?_⟩
  intro second haccepts
  exact (hsettled.of_steady (accepts_iff_steady.mp haccepts)).serviceSnapshot

theorem stability_checks_agree_sample :
    ∃ (report : DeploymentReport) (described : String) (first : JsonValue),
      describedServices Sample.settings described ∈
          Sample.exchanges Sample.listed Sample.listedText ∧
        (Sample.library Sample.listed Sample.listedText).loads described =
          .ok first ∧
        serviceSnapshot first = .ok report.service ∧
        Accepts (serviceBaseline [report.toJson]) first ∧
        ∀ second, Accepts (serviceBaseline [report.toJson]) second →
          serviceSnapshot second.integral = .ok report.service := by
  obtain ⟨report, hrun⟩ := Sample.succeeds Sample.listed_returns
  exact ⟨report, stability_checks_agree _ _ _ _ hrun⟩

end ImageVerification

end InventoryCloud
