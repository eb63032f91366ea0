import InventoryCloud.ImageVerification

/-!
# Settled services

What the checks of `verify_deployment` on the answer of `describe-services`
let through: one active service with one completed deployment, and the
snapshot of it that goes into the report.
-/

namespace InventoryCloud

namespace ImageVerification

open JsonValue Python ReleaseContract

structure SettledDeployment (deployment : JsonValue)
    (snapshot : ServiceSnapshot) : Prop where
  identity : deployment.member "id" =
    some (.string snapshot.previousDeploymentId)
  named : snapshot.previousDeploymentId ≠ ""
  primary : deployment.member "status" = some (.string "PRIMARY")
  task : deployment.member "taskDefinition" =
    some (.string snapshot.previousTask)
  completed : deployment.member "rolloutState" = some (.string "COMPLETED")
  desired : deployment.member "desiredCount" =
    some (.integer snapshot.previousCount)
  running : deployment.member "runningCount" =
    some (.integer snapshot.runningCount)
  pending : deployment.member "pendingCount" =
    some (.integer snapshot.pendingCount)

structure SettledService (service : JsonValue) (snapshot : ServiceSnapshot) :
    Prop where
  active : service.member "status" = some (.string "ACTIVE")
  task : service.member "taskDefinition" =
    some (.string snapshot.previousTask)
  desired : service.member "desiredCount" =
    some (.integer snapshot.previousCount)
  running : service.member "runningCount" =
    some (.integer snapshot.runningCount)
  pending : service.member "pendingCount" =
    some (.integer snapshot.pendingCount)
  deployment : ∃ deployment,
    service.member "deployments" = some (.array [deployment]) ∧
      SettledDeployment deployment snapshot

/-- The response has no failures and one settled service, which is the one
of the snapshot. -/
structure Settled (response : JsonValue) (snapshot : ServiceSnapshot) :
    Prop where
  failures : response.member "failures" = some (.array [])
  service : ∃ service, response.member "services" = some (.array [service]) ∧
    SettledService service snapshot
  arn : snapshot.previousTask.toList ∈ taskDefinitionArn.language
  desired_nonneg : 0 ≤ snapshot.previousCount
  running_eq : snapshot.runningCount = snapshot.previousCount
  pending_eq : snapshot.pendingCount = 0

theorem activeService_ok {response service : JsonValue}
    (hservice : activeService response = .ok service) :
    response.member "failures" = some (.array []) ∧
      response.member "services" = some (.array [service]) ∧
      service.member "status" = some (.string "ACTIVE") := by
  unfold activeService at hservice
  simp only [bind_ok, subscript_ok, throw_bind, guard_ok, pure_ok, not_not,
    ne_eq, existsAndEq, true_and, and_true] at hservice
  obtain ⟨hfailures, services, hservices, hcount, hitem, hstatus⟩ := hservice
  rcases item_of_len_one hcount hitem with rfl | ⟨text, rfl⟩
  · exact ⟨hfailures, hservices, hstatus⟩
  · simp [member] at hstatus

theorem natural_ok {value : JsonValue} {count : Int}
    (hcount : natural value = .ok count) :
    value = .integer count ∧ 0 ≤ count := by
  unfold natural at hcount
  split at hcount
  · split_ifs at hcount with hnegative
    cases hcount
    exact ⟨rfl, not_lt.mp hnegative⟩
  · cases hcount

theorem deploymentCount_ok {field : String} {expected : Int}
    {deployment : JsonValue} {result : PUnit}
    (hcount : deploymentCount field expected deployment = .ok result) :
    deployment.member field = some (.integer expected) := by
  unfold deploymentCount at hcount
  simp only [bind_ok, subscript_ok, guard_ok, not_not, ne_eq] at hcount
  obtain ⟨value, hvalue, rfl, -⟩ := hcount
  exact hvalue

theorem settledDeployment_ok {service : JsonValue} {previousTask : String}
    {previousCount runningCount pendingCount : Int} {id : String}
    (hsettled : settledDeployment service previousTask previousCount
      runningCount pendingCount = .ok id) :
    runningCount = previousCount ∧ pendingCount = 0 ∧
      ∃ deployment,
        service.member "deployments" = some (.array [deployment]) ∧
        SettledDeployment deployment
          ⟨previousTask, previousCount, runningCount, pendingCount, id⟩ := by
  unfold settledDeployment at hsettled
  rw [bind_ok] at hsettled
  obtain ⟨deployments, hdeployments, hsettled⟩ := hsettled
  split at hsettled
  · rename_i deployment
    rw [bind_ok] at hsettled
    obtain ⟨found, hid, hsettled⟩ := hsettled
    split at hsettled
    · rename_i name
      simp only [bind_ok, subscript_ok, throw_bind, guard_ok, pure_ok,
        not_not, ne_eq, not_or, existsAndEq, true_and] at hsettled
      obtain ⟨hnamed, hprimary, htask, hcompleted, ⟨hrunning, hpending⟩, _,
        hdesiredCount, _, hrunningCount, _, hpendingCount, rfl⟩ := hsettled
      exact ⟨hrunning, hpending, deployment, subscript_ok.mp hdeployments,
        subscript_ok.mp hid, hnamed, hprimary, htask, hcompleted,
        deploymentCount_ok hdesiredCount, deploymentCount_ok hrunningCount,
        deploymentCount_ok hpendingCount⟩
    · exact absurd hsettled throw_ne_ok
  · exact absurd hsettled throw_ne_ok

theorem serviceSnapshot_ok {response : JsonValue} {snapshot : ServiceSnapshot}
    (hsnapshot : serviceSnapshot response = .ok snapshot) :
    Settled response snapshot := by
  unfold serviceSnapshot at hsnapshot
  simp only [bind_ok, subscript_ok] at hsnapshot
  obtain ⟨service, hservice, desired, hdesired, running, hrunning, pending,
    hpending, task, htask, previousCount, hpreviousCount, runningCount,
    hrunningCount, pendingCount, hpendingCount, hsnapshot⟩ := hsnapshot
  obtain ⟨hfailures, hservices, hactive⟩ := activeService_ok hservice
  obtain ⟨rfl, hnonneg⟩ := natural_ok hpreviousCount
  obtain ⟨rfl, -⟩ := natural_ok hrunningCount
  obtain ⟨rfl, -⟩ := natural_ok hpendingCount
  split at hsnapshot
  · rename_i previousTask
    simp only [bind_ok, throw_bind, guard_ok, pure_ok, not_not]
      at hsnapshot
    obtain ⟨harn, id, hid, rfl⟩ := hsnapshot
    obtain ⟨hrunning', hpending', deployment, hdeployments, hdeployment⟩ :=
      settledDeployment_ok hid
    have hsettled : SettledService service
        ⟨previousTask, previousCount, runningCount, pendingCount, id⟩ :=
      ⟨hactive, htask, hdesired, hrunning, hpending, deployment,
        hdeployments, hdeployment⟩
    exact ⟨hfailures, ⟨service, hservices, hsettled⟩,
      (TextPattern.fullmatch_iff _ _).mp harn, hnonneg, hrunning', hpending'⟩
  · exact absurd hsnapshot throw_ne_ok

theorem Settled.liveBaseline_iff {response : JsonValue}
    {snapshot : ServiceSnapshot} (hsettled : Settled response snapshot) :
    liveBaseline snapshot = true ↔ 0 < snapshot.previousCount := by
  unfold liveBaseline
  rw [hsettled.running_eq, hsettled.pending_eq]
  simp

end ImageVerification

end InventoryCloud
