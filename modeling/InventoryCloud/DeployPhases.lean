import InventoryCloud.DeployScript

/-!
# The phases of a deployment

What a run of each phase of `deploy-ecs.sh` has asked and what the variables
hold after it: the gate and the fresh snapshot, the registration of the new
task definition, and the rollout with its rollback.
-/

namespace InventoryCloud

namespace DeployScript

open Interaction JsonValue Shell Statement ReleaseFilters ReleaseCommands

variable {format : Jq.TextFormat} {invocation : Invocation}
  {state final : State} {trace : Trace} {status : Nat}
  {completion : Completion}

/-! ### The gate phase -/

/-- Neither a registration nor an update. -/
def Quiet (request : Request) : Prop :=
  ecsCommand request ≠ some "register-task-definition" ∧
    ecsCommand request ≠ some "update-service"

theorem quiet_of_none {request : Request} (hnone : ecsCommand request = none) :
    Quiet request := by
  unfold Quiet
  rw [hnone]
  exact ⟨nofun, nofun⟩

theorem services_quiet :
    Quiet (.external (servicesArguments invocation) []) := by
  have hcommand : ecsCommand (.external (servicesArguments invocation) []) =
      some "describe-services" := rfl
  unfold Quiet
  rw [hcommand]
  exact ⟨by decide, by decide⟩

theorem gatePhase_quiet :
    (block (gatePhase format invocation)).AsksOnly Quiet := by
  apply asksOnly_block
  unfold gatePhase setVariable requireDigest
  simp only [List.forall_mem_cons]
  have hrequire : ∀ (condition : State → Bool) (message : String),
      (require condition message).AsksOnly Quiet :=
    fun _ _ => asksOnly_require (quiet_of_none rfl)
  refine ⟨hrequire _ _, hrequire _ _, hrequire _ _, hrequire _ _,
    hrequire _ _, hrequire _ _, hrequire _ _, hrequire _ _, hrequire _ _,
    asksOnly_external fun _ => quiet_of_none rfl, asksOnly_note,
    asksOnly_externalIn (quiet_of_none rfl) fun _ _ => quiet_of_none rfl,
    asksOnly_external fun _ => quiet_of_none rfl,
    asksOnly_external fun _ => quiet_of_none rfl,
    asksOnly_jq fun _ => quiet_of_none rfl, hrequire _ _,
    asksOnly_jq fun _ => quiet_of_none rfl, hrequire _ _,
    asksOnly_external fun _ => services_quiet,
    ⟨asksOnly_jqIn (quiet_of_none rfl) fun _ _ => quiet_of_none rfl,
      asksOnly_failure (quiet_of_none rfl)⟩, by simp⟩

/-- What the script knows once the gate and the fresh snapshot have passed. -/
structure Gated (format : Jq.TextFormat) (invocation : Invocation)
    (trace : Trace) (state : State) : Prop where
  trapped : state.trapped = true
  passed : GatePassed format invocation state.compatibility state.service
    trace
  previousTask : state.previousTask =
    reported format "previous_task" state.compatibility
  previousCount : state.previousCount =
    reported format "previous_count" state.compatibility
  repository : ∃ repositories : Finished,
    (⟨.external (repositoriesArguments invocation) [], repositories⟩ :
      Exchange Request Answer) ∈ trace ∧
      state.repositoryUri = substituted repositories.stdout

theorem gatePhase_normal
    (hrun : (block (gatePhase format invocation)).Runs false state trace
      (.normal status) final) :
    Gated format invocation trace final := by
  unfold gatePhase setVariable requireDigest at hrun
  simp only [block, runs_sequence_normal, runs_require_normal,
    runs_external_normal, runs_note_normal, runs_externalIn_normal,
    runs_jq_normal, runs_jqIn_orElse_normal, existsAndEq, List.nil_append,
    List.cons_append, true_and, and_true] at hrun
  obtain ⟨baselineDirectory, services, _, repositories, gateDirectory, gate,
    made, rfl, -, -, -, -, -, -, -, -, -, -, hgate, -, -, -, -, -, -,
    hservices, -, haccepted, rfl⟩ := hrun
  refine ⟨rfl, ⟨haccepted, substituted gateDirectory.stdout,
    substituted baselineDirectory.stdout, substituted made.stdout, gate,
    services, hgate, rfl, hservices, rfl, ?_⟩, rfl, rfl, repositories,
    by simp, rfl⟩
  apply List.Sublist.cons
  apply List.Sublist.cons
  apply List.Sublist.cons_cons
  apply List.Sublist.cons
  apply List.Sublist.cons
  apply List.Sublist.cons
  apply List.Sublist.cons
  apply List.Sublist.cons_cons
  apply List.Sublist.cons
  exact List.Sublist.refl _

/-! ### The registration -/

def NoUpdate (request : Request) : Prop :=
  ecsCommand request ≠ some "update-service"

theorem noUpdate_of_none {request : Request}
    (hnone : ecsCommand request = none) : NoUpdate request :=
  (quiet_of_none hnone).2

theorem describe_noUpdate {task : String} :
    NoUpdate (.external (describeArguments task) []) := by
  have hcommand : ecsCommand (.external (describeArguments task) []) =
      some "describe-task-definition" := rfl
  unfold NoUpdate
  rw [hcommand]
  decide

theorem register_noUpdate {workDir next : String} :
    NoUpdate (.external (registerArguments workDir) [next]) := by
  have hcommand : ecsCommand (.external (registerArguments workDir) [next]) =
      some "register-task-definition" := rfl
  unfold NoUpdate
  rw [hcommand]
  decide

theorem registerPhase_noUpdate :
    (block (registerPhase format invocation)).AsksOnly NoUpdate := by
  apply asksOnly_block
  unfold registerPhase
  simp only [List.forall_mem_cons]
  exact ⟨asksOnly_external fun _ => describe_noUpdate,
    asksOnly_jq fun _ => noUpdate_of_none rfl,
    asksOnly_external fun _ => register_noUpdate,
    asksOnly_require (noUpdate_of_none rfl),
    asksOnly_echo.mpr fun _ => noUpdate_of_none rfl,
    asksOnly_echo.mpr fun _ => noUpdate_of_none rfl, by simp⟩

theorem registerPhase_normal
    (hrun : (block (registerPhase format invocation)).Runs false state trace
      (.normal status) final) :
    Registered format "inventory" (requestedImage invocation state)
        state.previousTask final.nextTask trace ∧
      final = { state with
        previous := final.previous
        next := final.next
        nextTask := final.nextTask } := by
  unfold registerPhase at hrun
  simp only [block, runs_sequence_normal, runs_require_normal,
    runs_external_normal, runs_jq_normal, runs_echo, existsAndEq,
    List.nil_append, List.cons_append, true_and, and_true,
    Completion.normal.injEq] at hrun
  obtain ⟨_, registered, described, rfl, -, ⟨hnext, rfl⟩, hregistered, -, -,
    rfl⟩ := hrun
  have hmade := Jq.outputs_ne_nil hnext
  refine ⟨⟨described, registered, state.releaseDir, _, ?_, hregistered, rfl,
    hmade, fun definition hmem => releaseDefinition_outputs hmem⟩, rfl⟩
  apply List.Sublist.cons_cons
  apply List.Sublist.cons
  apply List.Sublist.cons_cons
  exact List.nil_sublist _

/-! ### The rollout -/

/-- The update that starts the rollout. -/
def releasing (invocation : Invocation) (state : State) : List String :=
  updateArguments invocation state.nextTask (desiredCount invocation)

/-- The update that takes the rollout back. -/
def restoring (invocation : Invocation) (state : State) : List String :=
  updateArguments invocation state.previousTask state.previousCount

theorem issued_update {task count : String} {done : Finished}
    {rest : Trace} :
    issued "update-service" (⟨.external
        (updateArguments invocation task count) [], done⟩ :: rest) =
      updateArguments invocation task count ::
        issued "update-service" rest := rfl

theorem issued_nil_of_noUpdate
    (hquiet : ∀ exchange ∈ trace, NoUpdate exchange.query) :
    issued "update-service" trace = [] :=
  issued_eq_nil hquiet

theorem issued_cons_noUpdate {request : Request} {answer : Answer request}
    (hquiet : NoUpdate request) (rest : Trace) :
    issued "update-service" (⟨request, answer⟩ :: rest) =
      issued "update-service" rest :=
  @issued_cons "update-service" ⟨request, answer⟩ hquiet rest

theorem waitArguments_noUpdate :
    NoUpdate (.external (waitArguments invocation) []) := by
  have hcommand : ecsCommand (.external (waitArguments invocation) []) =
      some "wait" := rfl
  unfold NoUpdate
  rw [hcommand]
  decide

theorem currentArguments_noUpdate :
    NoUpdate (.external (currentArguments invocation) []) := by
  have hcommand : ecsCommand (.external (currentArguments invocation) []) =
      some "describe-services" := rfl
  unfold NoUpdate
  rw [hcommand]
  decide

/-- However the rollback ends, it has issued the restoring update. -/
theorem rollback_issued {suspended : Bool}
    (hrun : (rollback invocation).Runs suspended state trace completion
      final) :
    issued "update-service" trace = [restoring invocation state] := by
  unfold rollback at hrun
  rcases runs_sequence.mp hrun with ⟨_, hecho, -⟩ |
    ⟨_, middle, first, rest, rfl, hecho, hrest⟩
  · obtain ⟨-, hnormal, -⟩ := runs_echo.mp hecho
    cases hnormal
  · obtain ⟨rfl, -, rfl⟩ := runs_echo.mp hecho
    rw [issued_append]
    rcases runs_sequence.mp hrest with ⟨_, hupdate, -⟩ |
      ⟨_, next, second, last, rfl, hupdate, hwait⟩
    · obtain ⟨done, rfl, -, -⟩ := runs_external.mp hupdate
      rfl
    · obtain ⟨done, rfl, -, -⟩ := runs_external.mp hupdate
      obtain ⟨waited, rfl, -, -⟩ := runs_external.mp hwait
      rfl

/-- A failed step of the rollout: the service is restored and the script
fails. -/
theorem rollback_exits
    (hrun : (Statement.sequence (rollback invocation) (.exit 1)).Runs false
      state trace completion final) :
    (∃ code, completion = .exited code ∧ code ≠ 0) ∧
      issued "update-service" trace = [restoring invocation state] := by
  rcases runs_sequence.mp hrun with ⟨code, hrollback, rfl⟩ |
    ⟨_, middle, first, rest, rfl, hrollback, hexit⟩
  · have hfails : (rollback invocation).ExitsFail :=
      ⟨trivial, trivial, trivial⟩
    exact ⟨⟨code, rfl, hfails.of_runs hrollback⟩, rollback_issued hrollback⟩
  · obtain ⟨rfl, rfl, rfl⟩ := runs_exit.mp hexit
    rw [List.append_nil]
    exact ⟨⟨1, rfl, by decide⟩, rollback_issued hrollback⟩

/-- A step of the rollout: it failed, and the service was restored, or the
rollout goes on. -/
theorem rollbackIf_runs {failed rest : Shell.Script State}
    (hfailed : failed.NoExit)
    (hkeeps : ∀ left status middle,
      failed.Runs true state left (.normal status) middle →
        restoring invocation middle = restoring invocation state)
    (hrun : (Statement.sequence (rollbackIf invocation failed) rest).Runs
      false state trace completion final) :
    ∃ status middle left right, trace = left ++ right ∧
      failed.Runs true state left (.normal status) middle ∧
      ((status = 0 ∧ (∃ code, completion = .exited code ∧ code ≠ 0) ∧
          issued "update-service" right = [restoring invocation state]) ∨
        (status ≠ 0 ∧ rest.Runs false middle right completion final)) := by
  have hends : ∀ middle right result last,
      ¬ (Statement.sequence (rollback invocation) (.exit 1)).Runs false middle
        right (.normal result) last := by
    intro middle right result last hnormal
    obtain ⟨⟨code, hexited, -⟩, -⟩ := rollback_exits hnormal
    cases hexited
  obtain ⟨status, middle, left, right, rfl, hcondition, hafter⟩ :=
    runs_guarded hfailed hends hrun
  refine ⟨status, middle, left, right, rfl, hcondition, ?_⟩
  rcases hafter with ⟨hzero, -, hbody⟩ | hrest
  · obtain ⟨hexits, hissued⟩ := rollback_exits hbody
    rw [hkeeps left status middle hcondition] at hissued
    exact Or.inl ⟨hzero, hexits, hissued⟩
  · exact Or.inr hrest

theorem rollbackIf_external {arguments : State → List String}
    {store : Finished → State → State} {rest : Shell.Script State}
    (hkeeps : ∀ done, restoring invocation (store done state) =
      restoring invocation state)
    (hrun : (Statement.sequence (rollbackIf invocation
      (.negate (external arguments (fun _ => []) store))) rest).Runs false
        state trace completion final) :
    ∃ done right, trace = ⟨.external (arguments state) [], done⟩ :: right ∧
      (((∃ code, completion = .exited code ∧ code ≠ 0) ∧
          issued "update-service" right = [restoring invocation state]) ∨
        (done.status = 0 ∧
          rest.Runs false (store done state) right completion final)) := by
  obtain ⟨status, middle, left, right, rfl, hcommand, hafter⟩ :=
    rollbackIf_runs (show NoExit (.negate (external arguments _ store)) from trivial) (by
      intro left status middle hcommand
      obtain ⟨done, -, -, rfl⟩ := runs_negate_external.mp hcommand
      exact hkeeps done) hrun
  obtain ⟨done, rfl, rfl, rfl⟩ := runs_negate_external.mp hcommand
  refine ⟨done, right, rfl, ?_⟩
  rcases hafter with ⟨-, hexits, hissued⟩ | ⟨hstatus, hrest⟩
  · exact Or.inl ⟨hexits, hissued⟩
  · refine Or.inr ⟨?_, hrest⟩
    by_contra hne
    rw [if_neg hne] at hstatus
    exact hstatus rfl

/-! ### The checks of the rollout -/

/-- jq has passed the body of the readiness answer. -/
def ReadinessPassed (format : Jq.TextFormat) (body : String)
    (trace : Trace) : Prop :=
  (Jq.run format false isUp body).1 = 0 ∧ ∃ file : String,
    (⟨.jq ["jq", "-e", "type == \"object\" and .status == \"UP\"", file]
      [body], none⟩ : Exchange Request Answer) ∈ trace

theorem ReadinessPassed.mono {format : Jq.TextFormat} {body : String}
    {part whole : Trace} (hpassed : ReadinessPassed format body part)
    (hsub : part.Sublist whole) : ReadinessPassed format body whole := by
  obtain ⟨hrun, file, hmem⟩ := hpassed
  exact ⟨hrun, file, hsub.subset hmem⟩

/-- The last condition is false when the service runs the new task definition
and readiness has answered as it should. -/
theorem unhealthy_false
    (hrun : (unhealthy format invocation).Runs true state trace
      (.normal status) final) (hstatus : status ≠ 0) :
    state.currentTask = state.nextTask ∧ ∃ curled : Finished,
      curled.status = 0 ∧ substituted curled.stdout = "200" ∧
        ReadinessPassed format curled.output trace ∧
        (⟨.external (readinessArguments invocation state.releaseDir) [],
          curled⟩ : Exchange Request Answer) ∈ trace := by
  unfold unhealthy readReadiness checkReadiness at hrun
  rcases runs_orElse.mp hrun with ⟨_, -, hexited⟩ |
    ⟨_, third, left, right, rfl, hleft, hcheck⟩
  · cases hexited
  rcases hcheck with ⟨-, -, hnormal, -⟩ | ⟨hleftStatus, hcheck⟩
  · rw [Completion.normal.injEq] at hnormal
    exact absurd hnormal hstatus
  obtain ⟨answer, hanswer, rfl, -⟩ := runs_negate_jq.mp hcheck
  rcases runs_orElse.mp hleft with ⟨_, -, hexited⟩ |
    ⟨_, second, first, rest, rfl, hfirst, hcode⟩
  · cases hexited
  rcases hcode with ⟨-, -, hnormal, -⟩ | ⟨hfirstStatus, hcode⟩
  · rw [Completion.normal.injEq] at hnormal
    exact absurd hnormal hleftStatus
  obtain ⟨rfl, rfl, hcode⟩ := runs_test.mp hcode
  rcases runs_orElse.mp hfirst with ⟨_, -, hexited⟩ |
    ⟨_, next, before, after, rfl, hcurrent, hcurl⟩
  · cases hexited
  rcases hcurl with ⟨-, -, hnormal, -⟩ | ⟨hcurrentStatus, hcurl⟩
  · rw [Completion.normal.injEq] at hnormal
    exact absurd hnormal hfirstStatus
  obtain ⟨rfl, rfl, hcurrent⟩ := runs_test.mp hcurrent
  obtain ⟨curled, hcurled, rfl, rfl⟩ := runs_negate_external.mp hcurl
  have htask : next.currentTask = next.nextTask := by
    by_contra hne
    rw [hcurrent] at hcurrentStatus
    simp [hne] at hcurrentStatus
  have hcurl : curled.status = 0 := by
    by_contra hne
    rw [if_neg hne] at hcurled
    exact hfirstStatus hcurled
  have htext : substituted curled.stdout = "200" := by
    by_contra hne
    rw [hcode] at hleftStatus
    simp [hne] at hleftStatus
  have houtcome : (jqOutcome (Jq.run format false isUp curled.output)
      answer).1 = 0 := by
    by_contra hne
    rw [if_neg hne] at hanswer
    exact hstatus hanswer
  obtain ⟨rfl, hpassed⟩ := jqOutcome_zero.mp houtcome
  exact ⟨htask, curled, hcurl, htext,
    ⟨hpassed, next.releaseDir ++ "/readiness.json", by simp⟩, by simp⟩

theorem checkReadiness_noUpdate :
    (checkReadiness format).AsksOnly NoUpdate :=
  asksOnly_jq fun _ => noUpdate_of_none rfl

theorem unhealthy_noUpdate :
    (unhealthy format invocation).AsksOnly NoUpdate :=
  ⟨⟨⟨fun _ => trivial, asksOnly_external fun _ => noUpdate_of_none rfl⟩,
    fun _ => trivial⟩, checkReadiness_noUpdate⟩

/-- The service was updated to `task` and stable, it reported that task as
its current one, and readiness answered with `body` as it should, in this
order. -/
def Released (format : Jq.TextFormat) (invocation : Invocation)
    (task body : String) (trace : Trace) : Prop :=
  ∃ (updated waited described curled : Finished) (releaseDir : String),
    updated.status = 0 ∧ waited.status = 0 ∧ described.status = 0 ∧
      substituted described.stdout = task ∧ curled.status = 0 ∧
      substituted curled.stdout = "200" ∧ curled.output = body ∧
      ReadinessPassed format body trace ∧
      [(⟨.external (updateArguments invocation task
            (desiredCount invocation)) [], updated⟩ :
          Exchange Request Answer),
        ⟨.external (waitArguments invocation) [], waited⟩,
        ⟨.external (currentArguments invocation) [], described⟩,
        ⟨.external (readinessArguments invocation releaseDir) [],
          curled⟩].Sublist trace

theorem Released.mono {task body : String} {part whole : Trace}
    (hreleased : Released format invocation task body part)
    (hsub : part.Sublist whole) :
    Released format invocation task body whole := by
  obtain ⟨updated, waited, described, curled, releaseDir, hupdated, hwaited,
    hdescribed, htask, hcurled, htext, hbody, hpassed, hchain⟩ := hreleased
  exact ⟨updated, waited, described, curled, releaseDir, hupdated, hwaited,
    hdescribed, htask, hcurled, htext, hbody, hpassed.mono hsub,
    hchain.trans hsub⟩

theorem Released.passed {task body : String}
    (hreleased : Released format invocation task body trace) :
    ReadinessPassed format body trace := by
  obtain ⟨_, _, _, _, _, -, -, -, -, -, -, -, hpassed, -⟩ := hreleased
  exact hpassed

theorem Released.answered {task body : String}
    (hreleased : Released format invocation task body trace) :
    ∃ (curled : Finished) (releaseDir : String), curled.output = body ∧
      (⟨.external (readinessArguments invocation releaseDir) [], curled⟩ :
        Exchange Request Answer) ∈ trace := by
  obtain ⟨_, _, _, curled, releaseDir, -, -, -, -, -, -, hbody, -, hchain⟩ :=
    hreleased
  exact ⟨curled, releaseDir, hbody, hchain.subset (by simp)⟩

/-- The rollout has failed after its update and was taken back, or every
check has passed. -/
def RolledOut (format : Jq.TextFormat) (invocation : Invocation)
    (state : State) (trace : Trace) (completion : Completion) : Prop :=
  ((∃ code, completion = .exited code ∧ code ≠ 0) ∧
      issued "update-service" trace =
        [releasing invocation state, restoring invocation state]) ∨
    (completion = .normal 0 ∧
      issued "update-service" trace = [releasing invocation state] ∧
      ∃ body, Released format invocation state.nextTask body trace)

theorem unhealthy_keeps (value : List String) :
    (unhealthy format invocation).Keeps fun next =>
      restoring invocation next = value := by
  have htest : ∀ condition : State → Bool,
      (test condition : Shell.Script State).Keeps fun next =>
        restoring invocation next = value := by
    intro condition state trace status final hkept hrun
    obtain ⟨-, hsame⟩ := hrun
    rw [Prod.mk.injEq] at hsame
    rw [hsame.2]
    exact hkept
  refine ⟨⟨⟨htest _, ?_⟩, htest _⟩, ?_⟩
  · rintro state trace status final hkept ⟨curled, rest, -, -, hsame⟩
    rw [Prod.mk.injEq] at hsame
    rw [hsame.2]
    exact hkept
  · rintro state trace status final hkept ⟨answer, rest, -, -, hsame⟩
    rw [Prod.mk.injEq] at hsame
    rw [hsame.2]
    exact hkept

theorem releasePhase_runs
    (hrun : (block (releasePhase format invocation)).Runs false state trace
      completion final) :
    RolledOut format invocation state trace completion := by
  unfold releasePhase updateService waitStable readCurrent at hrun
  simp only [block] at hrun
  obtain ⟨updated, afterUpdate, rfl, hupdate⟩ :=
    rollbackIf_external (by intro done; rfl) hrun
  rcases hupdate with ⟨hexits, hissued⟩ | ⟨hupdated, hrun⟩
  · refine Or.inl ⟨hexits, ?_⟩
    rw [issued_update, hissued]
    rfl
  obtain ⟨waited, afterWait, rfl, hwait⟩ :=
    rollbackIf_external (by intro done; rfl) hrun
  rcases hwait with ⟨hexits, hissued⟩ | ⟨hwaited, hrun⟩
  · refine Or.inl ⟨hexits, ?_⟩
    rw [issued_update, issued_cons_noUpdate waitArguments_noUpdate, hissued]
    rfl
  obtain ⟨described, afterDescribe, rfl, hdescribe⟩ :=
    rollbackIf_external (by intro done; rfl) hrun
  rcases hdescribe with ⟨hexits, hissued⟩ | ⟨hdescribed, hrun⟩
  · refine Or.inl ⟨hexits, ?_⟩
    rw [issued_update, issued_cons_noUpdate waitArguments_noUpdate,
      issued_cons_noUpdate currentArguments_noUpdate, hissued]
    rfl
  obtain ⟨status, middle, checks, rest, rfl, hchecks, hafter⟩ :=
    rollbackIf_runs (show (unhealthy format invocation).NoExit from
      ⟨⟨⟨trivial, trivial⟩, trivial⟩, trivial⟩)
      (fun _ _ _ hchecks => (unhealthy_keeps _).of_runs rfl hchecks) hrun
  have hnone : issued "update-service" checks = [] :=
    issued_nil_of_noUpdate (unhealthy_noUpdate.of_runs hchecks)
  rcases hafter with ⟨-, hexits, hissued⟩ | ⟨hstatus, hecho⟩
  · refine Or.inl ⟨hexits, ?_⟩
    rw [issued_update, issued_cons_noUpdate waitArguments_noUpdate,
      issued_cons_noUpdate currentArguments_noUpdate, issued_append, hnone, hissued]
    rfl
  · obtain ⟨rfl, rfl, rfl⟩ := runs_echo.mp hecho
    obtain ⟨htask, curled, hcurled, htext, hpassed, hmem⟩ :=
      unhealthy_false hchecks hstatus
    refine Or.inr ⟨rfl, ?_, curled.output, updated, waited, described,
      curled, state.releaseDir, hupdated, hwaited, hdescribed, htask, hcurled,
      htext, rfl, hpassed.mono ?_, ?_⟩
    · rw [issued_update, issued_cons_noUpdate waitArguments_noUpdate,
        issued_cons_noUpdate currentArguments_noUpdate, issued_append, hnone,
        issued_cons_noUpdate (noUpdate_of_none rfl)]
      rfl
    · apply List.Sublist.cons
      apply List.Sublist.cons
      apply List.Sublist.cons
      exact List.sublist_append_left checks _
    · apply List.Sublist.cons_cons
      apply List.Sublist.cons_cons
      apply List.Sublist.cons_cons
      exact (List.singleton_sublist.mpr hmem).trans
        (List.sublist_append_left checks _)

end DeployScript

end InventoryCloud
