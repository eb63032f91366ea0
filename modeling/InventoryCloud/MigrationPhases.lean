import InventoryCloud.MigrateScript

/-!
# The phases of a migration

What a run of each phase of `migrate-ecs.sh` has asked and what the variables
hold after it: the gate and the fresh snapshot, the start of the task, and the
check of its end.
-/

namespace InventoryCloud

namespace MigrateScript

open Interaction JsonValue Shell Statement ReleaseFilters ReleaseCommands

variable {format : Jq.TextFormat} {invocation : Invocation}
  {state final : State} {trace : Trace} {status : Nat}
  {completion : Completion}

/-! ### The preparation -/

def prepareCommands : List String :=
  ["describe-task-definition", "describe-services"]

theorem preparePhase_issues :
    (block (preparePhase format invocation)).AsksOnly
      (Issues prepareCommands) := by
  apply asksOnly_block
  unfold preparePhase setVariable requireDigest
  simp only [List.forall_mem_cons]
  have hrequire : ∀ (condition : State → Bool) (message : String),
      (require condition message).AsksOnly (Issues prepareCommands) :=
    fun _ _ => asksOnly_require (issues_of_none rfl)
  have hdescribe : ∀ task, Issues prepareCommands
      (.external (describeArguments task) []) :=
    fun _ => issues_of_command rfl (by decide)
  have hservices : Issues prepareCommands
      (.external (servicesArguments invocation) []) :=
    issues_of_command rfl (by decide)
  refine ⟨hrequire _ _, hrequire _ _, hrequire _ _, hrequire _ _,
    hrequire _ _, hrequire _ _, hrequire _ _,
    asksOnly_external fun _ => issues_of_none rfl, asksOnly_note,
    asksOnly_externalIn (issues_of_none rfl) fun _ _ => issues_of_none rfl,
    asksOnly_external fun _ => issues_of_none rfl,
    asksOnly_external fun _ => issues_of_none rfl,
    asksOnly_external fun _ => hdescribe _,
    asksOnly_jq fun _ => issues_of_none rfl,
    asksOnly_external fun _ => hservices,
    ⟨asksOnly_jqIn (issues_of_none rfl) fun _ _ => issues_of_none rfl,
      asksOnly_failure (issues_of_none rfl)⟩,
    asksOnly_jq fun _ => issues_of_none rfl,
    asksOnly_jq fun _ => issues_of_none rfl, by simp⟩

theorem preparePhase_exitsFail :
    (block (preparePhase format invocation)).ExitsFail := by
  apply exitsFail_block
  unfold preparePhase setVariable requireDigest
  simp only [List.forall_mem_cons]
  exact ⟨exitsFail_require, exitsFail_require, exitsFail_require,
    exitsFail_require, exitsFail_require, exitsFail_require,
    exitsFail_require, trivial, trivial, trivial, trivial, trivial, trivial,
    trivial, trivial, ⟨trivial, exitsFail_failure⟩, trivial, trivial, by simp⟩

/-- The network configuration that the script takes from a snapshot. -/
def networkText (format : Jq.TextFormat) (snapshot : String) : String :=
  (Jq.run format false networkConfiguration snapshot).2

/-- The next definition is the described base with the requested image. -/
def Edited (format : Jq.TextFormat) (invocation : Invocation)
    (trace : Trace) (next : String) : Prop :=
  ∃ (repositories described : Finished) (nexts : List JsonValue),
    (⟨.external (repositoriesArguments invocation) [], repositories⟩ :
      Exchange Request Answer) ∈ trace ∧
    (⟨.external (describeArguments
        (invocation.value "MIGRATION_TASK_DEFINITION")) [], described⟩ :
      Exchange Request Answer) ∈ trace ∧
    next = Jq.lines format false nexts ∧ nexts ≠ [] ∧
    ∀ definition ∈ nexts, ∃ base ∈ (format.read described.stdout).values,
      ImageReplaced "migration" (substituted repositories.stdout ++ "@" ++
        invocation.value "IMAGE_DIGEST") base definition

/-- What the script knows once the gate and the fresh snapshot have passed. -/
structure Prepared (format : Jq.TextFormat) (invocation : Invocation)
    (trace : Trace) (state : State) : Prop where
  passed : GatePassed format invocation state.compatibility state.service
    trace
  edited : Edited format invocation trace state.next
  network : state.network = networkText format state.service

theorem preparePhase_normal
    (hrun : (block (preparePhase format invocation)).Runs false state trace
      (.normal status) final) :
    Prepared format invocation trace final := by
  unfold preparePhase setVariable requireDigest at hrun
  simp only [block, runs_sequence_normal, runs_require_normal,
    runs_external_normal, runs_note_normal, runs_externalIn_normal,
    runs_jq_normal, runs_jqIn_orElse_normal, existsAndEq, List.nil_append,
    List.cons_append, true_and, and_true] at hrun
  obtain ⟨baselineDirectory, services, described, _, repositories,
    gateDirectory, gate, made, rfl, -, -, -, -, -, -, -, -, hgate, -, -, -,
    hnext, hservices, haccepted, -, -, -, rfl⟩ := hrun
  refine ⟨⟨haccepted, substituted gateDirectory.stdout,
    substituted baselineDirectory.stdout, substituted made.stdout, gate,
    services, hgate, rfl, hservices, rfl, ?_⟩, ⟨repositories, described, _,
    by simp, by simp, rfl, Jq.outputs_ne_nil hnext,
    fun definition hmem => releaseDefinition_outputs hmem⟩, rfl⟩
  apply List.Sublist.cons
  apply List.Sublist.cons
  apply List.Sublist.cons_cons
  apply List.Sublist.cons
  apply List.Sublist.cons
  apply List.Sublist.cons
  apply List.Sublist.cons
  apply List.Sublist.cons_cons
  apply List.Sublist.cons
  apply List.Sublist.cons_cons
  exact List.nil_sublist _

/-! ### The start of the task -/

theorem registerNext_issues :
    registerNext.AsksOnly (Issues ["register-task-definition"]) :=
  asksOnly_external fun _ => issues_of_command rfl (by decide)

theorem nameRequest_issues : nameRequest.AsksOnly (Issues []) :=
  asksOnly_external fun _ => issues_of_none rfl

theorem runTask_issues : (runTask invocation).AsksOnly (Issues ["run-task"]) :=
  asksOnly_external fun _ => issues_of_command rfl (by decide)

theorem checkScheduled_issues :
    (checkScheduled format).AsksOnly (Issues []) :=
  ⟨asksOnly_jq fun _ => issues_of_none rfl,
    asksOnly_failure (issues_of_none rfl)⟩

theorem readTaskArn_issues : (readTaskArn format).AsksOnly (Issues []) :=
  asksOnly_jq fun _ => issues_of_none rfl

theorem startPhase_exitsFail :
    (block (startPhase format invocation)).ExitsFail := by
  apply exitsFail_block
  unfold startPhase
  simp only [List.forall_mem_cons]
  exact ⟨trivial, trivial, trivial, ⟨trivial, exitsFail_failure⟩, trivial,
    trivial, by simp⟩

/-- However the start ends, it has run one task at most. -/
theorem startPhase_once
    (hrun : (block (startPhase format invocation)).Runs false state trace
      completion final) :
    (issued "run-task" trace).length ≤ 1 := by
  unfold startPhase at hrun
  simp only [block] at hrun
  rcases runs_sequence.mp hrun with ⟨_, hregister, -⟩ |
    ⟨_, _, _, _, rfl, hregister, hrun⟩
  · rw [issued_of_asksOnly registerNext_issues (by decide) hregister]
    exact Nat.zero_le 1
  rw [issued_append,
    issued_of_asksOnly registerNext_issues (by decide) hregister]
  rcases runs_sequence.mp hrun with ⟨_, hname, -⟩ |
    ⟨_, _, _, _, rfl, hname, hrun⟩
  · rw [issued_of_asksOnly nameRequest_issues (by decide) hname]
    exact Nat.zero_le 1
  rw [issued_append, issued_of_asksOnly nameRequest_issues (by decide) hname]
  rcases runs_sequence.mp hrun with ⟨_, htask, -⟩ |
    ⟨_, _, _, rest, rfl, htask, hchecks⟩
  · obtain ⟨ran, rfl, -, -⟩ := runs_external.mp htask
    exact Nat.le_refl 1
  have hrest : (Statement.sequence (checkScheduled format)
      (.sequence (readTaskArn format)
        (echo fun state => "Migration task: " ++ state.taskArn))).AsksOnly
          (Issues []) :=
    ⟨checkScheduled_issues, readTaskArn_issues,
      asksOnly_echo.mpr fun _ => issues_of_none rfl⟩
  obtain ⟨ran, rfl, -, -⟩ := runs_external.mp htask
  rw [issued_append, issued_of_asksOnly hrest (by decide) hchecks]
  exact Nat.le_refl 1

def startCommands : List String :=
  ["register-task-definition", "run-task"]

theorem startPhase_issues :
    (block (startPhase format invocation)).AsksOnly
      (Issues startCommands) := by
  apply asksOnly_block
  unfold startPhase
  simp only [List.forall_mem_cons]
  exact ⟨registerNext_issues.mono (issues_mono (by decide)),
    nameRequest_issues.mono (issues_mono (by decide)),
    runTask_issues.mono (issues_mono (by decide)),
    checkScheduled_issues.mono (issues_mono (by decide)),
    readTaskArn_issues.mono (issues_mono (by decide)),
    asksOnly_echo.mpr fun _ => issues_of_none rfl, by simp⟩

/-- The next definition was registered, a task of it was run with the network
configuration, and the answer passed the checks and named `taskArn`. -/
def Launched (format : Jq.TextFormat) (invocation : Invocation)
    (prepared : State) (taskArn : String) (trace : Trace) : Prop :=
  ∃ (registered ran : Finished) (requestId : String),
    registered.status = 0 ∧ ran.status = 0 ∧
      (Jq.run format false scheduled ran.stdout).1 = 0 ∧
      (Jq.run format true startedTask ran.stdout).1 = 0 ∧
      taskArn = substituted (Jq.run format true startedTask ran.stdout).2 ∧
      [(⟨.external (registerArguments prepared.migrationDir)
          [prepared.next], registered⟩ : Exchange Request Answer),
        ⟨.external (runArguments invocation (substituted registered.stdout)
          requestId prepared.migrationDir) [prepared.network],
          ran⟩].Sublist trace

theorem startPhase_normal
    (hrun : (block (startPhase format invocation)).Runs false state trace
      (.normal status) final) :
    Launched format invocation state final.taskArn trace := by
  unfold startPhase registerNext nameRequest runTask checkScheduled
    readTaskArn at hrun
  simp only [block, runs_sequence_normal, runs_external_normal,
    runs_jq_normal, runs_jq_orElse_normal, runs_echo, existsAndEq,
    List.nil_append, List.cons_append, true_and, and_true,
    Completion.normal.injEq] at hrun
  obtain ⟨_, ran, named, registered, rfl, hregistered, ⟨-, rfl⟩, hran,
    hscheduled, hstarted, -, rfl⟩ := hrun
  refine ⟨registered, ran, substituted named.stdout, hregistered, hran,
    hscheduled, hstarted, rfl, ?_⟩
  apply List.Sublist.cons_cons
  apply List.Sublist.cons
  apply List.Sublist.cons_cons
  exact List.nil_sublist _

/-! ### The end of the task -/

def finishCommands : List String :=
  ["wait", "stop-task", "describe-tasks"]

/-- The statements after a wait that succeeded. -/
def confirmation (format : Jq.TextFormat) (invocation : Invocation) :
    Shell.Script State :=
  .sequence (describeTask invocation)
    (.sequence (checkCompleted format)
      (echo fun _ =>
        "Migration and runtime database permissions verified; release may proceed."))

theorem confirmation_issues :
    (confirmation format invocation).AsksOnly (Issues ["describe-tasks"]) :=
  ⟨asksOnly_external fun _ => issues_of_command rfl (by decide),
    ⟨asksOnly_jq fun _ => issues_of_none rfl,
      asksOnly_failure (issues_of_none rfl)⟩,
    asksOnly_echo.mpr fun _ => issues_of_none rfl⟩

theorem confirmation_exitsFail :
    (confirmation format invocation).ExitsFail :=
  ⟨trivial, ⟨trivial, exitsFail_failure⟩, trivial⟩

theorem finishPhase_issues :
    (block (finishPhase format invocation)).AsksOnly
      (Issues finishCommands) := by
  have hwait : (waitStopped invocation).AsksOnly (Issues finishCommands) :=
    asksOnly_external fun _ => issues_of_command rfl (by decide)
  have habandon : (abandon invocation).AsksOnly (Issues finishCommands) :=
    ⟨⟨asksOnly_external fun _ => issues_of_command rfl (by decide),
      fun _ => trivial⟩, asksOnly_failure (issues_of_none rfl)⟩
  have hconfirm : (confirmation format invocation).AsksOnly
      (Issues finishCommands) :=
    confirmation_issues.mono (issues_mono (by decide))
  exact ⟨⟨hwait, habandon⟩, hconfirm⟩

/-- How the end of the task was waited for: the wait failed and a stop was
attempted, the task was not confirmed, or it was. -/
inductive Ended (format : Jq.TextFormat) (invocation : Invocation)
    (taskArn : String) : Trace → Completion → Prop where
  | abandoned {waited stopped : Finished} {message : String}
      (failed : waited.status ≠ 0) :
      Ended format invocation taskArn
        [⟨.external (waitArguments invocation taskArn) [], waited⟩,
          ⟨.external (stopArguments invocation taskArn) [], stopped⟩,
          ⟨.echo message, ⟨⟩⟩] (.exited 1)
  | unconfirmed {waited : Finished} {rest : Trace} {code : Nat}
      (waitedFor : waited.status = 0) (fails : code ≠ 0)
      (quiet : ∀ exchange ∈ rest, Issues ["describe-tasks"] exchange.query) :
      Ended format invocation taskArn
        (⟨.external (waitArguments invocation taskArn) [], waited⟩ :: rest)
        (.exited code)
  | confirmed {waited described : Finished} {rest : Trace}
      (waitedFor : waited.status = 0) (answered : described.status = 0)
      (passed : (Jq.run format false succeeded described.stdout).1 = 0)
      (quiet : ∀ exchange ∈ rest, Issues [] exchange.query) :
      Ended format invocation taskArn
        (⟨.external (waitArguments invocation taskArn) [], waited⟩ ::
          ⟨.external (tasksArguments invocation taskArn) [], described⟩ ::
          rest) (.normal 0)

theorem abandon_runs
    (hrun : (abandon invocation).Runs false state trace completion final) :
    completion = .exited 1 ∧ ∃ (stopped : Finished) (message : String),
      trace = [⟨.external (stopArguments invocation state.taskArn) [],
        stopped⟩, ⟨.echo message, ⟨⟩⟩] := by
  unfold abandon at hrun
  have hstop : ∀ {left : Trace} {outcome : Completion} {middle : State},
      (Statement.orElse
        (external (fun state => stopArguments invocation state.taskArn)
          (fun _ => []) fun _ state => state)
        (test fun _ => true)).Runs false state left outcome middle →
      outcome = .normal 0 ∧ ∃ stopped : Finished,
        left = [⟨.external (stopArguments invocation state.taskArn) [],
          stopped⟩] := by
    intro left outcome middle hleft
    rcases runs_orElse.mp hleft with ⟨_, hexits, -⟩ |
      ⟨_, _, first, second, rfl, hfirst, hsecond⟩
    · obtain ⟨_, -, hexited, -⟩ := runs_external.mp hexits
      rw [completion_true] at hexited
      cases hexited
    · obtain ⟨stopped, rfl, -, rfl⟩ := runs_external.mp hfirst
      rcases hsecond with ⟨-, rfl, rfl, -⟩ | ⟨-, htest⟩
      · exact ⟨rfl, stopped, rfl⟩
      · obtain ⟨result, ⟨rfl, hsame⟩, rfl⟩ := runs_command.mp htest
        rw [Prod.mk.injEq] at hsame
        rw [hsame.1]
        exact ⟨rfl, stopped, rfl⟩
  rcases runs_sequence.mp hrun with ⟨_, hexits, -⟩ |
    ⟨_, _, _, _, rfl, hleft, hrest⟩
  · obtain ⟨hnormal, -⟩ := hstop hexits
    cases hnormal
  · obtain ⟨-, stopped, rfl⟩ := hstop hleft
    rcases runs_sequence.mp hrest with ⟨_, hecho, -⟩ |
      ⟨_, _, _, _, rfl, hecho, hexit⟩
    · obtain ⟨-, hnormal, -⟩ := runs_echo.mp hecho
      cases hnormal
    · obtain ⟨rfl, -, rfl⟩ := runs_echo.mp hecho
      obtain ⟨rfl, rfl, -⟩ := runs_exit.mp hexit
      exact ⟨rfl, stopped, _, rfl⟩

theorem finishPhase_runs
    (hrun : (block (finishPhase format invocation)).Runs false state trace
      completion final) :
    Ended format invocation state.taskArn trace completion := by
  unfold finishPhase at hrun
  simp only [block] at hrun
  obtain ⟨_, _, _, rest, rfl, hwait, hafter⟩ :=
    runs_guarded (show (Statement.negate (waitStopped invocation)).NoExit from
      trivial) (fun _ _ _ _ hbody => by
        obtain ⟨hexited, -⟩ := abandon_runs hbody
        cases hexited) hrun
  unfold waitStopped at hwait
  obtain ⟨waited, rfl, rfl, rfl⟩ := runs_negate_external.mp hwait
  rcases hafter with ⟨hzero, -, habandon⟩ | ⟨hnonzero, hrest⟩
  · obtain ⟨rfl, stopped, message, rfl⟩ := abandon_runs habandon
    refine .abandoned fun hwaited => ?_
    rw [if_pos hwaited] at hzero
    cases hzero
  · have hwaited : waited.status = 0 := by
      by_contra hne
      rw [if_neg hne] at hnonzero
      exact hnonzero rfl
    cases completion with
    | exited code =>
        exact .unconfirmed hwaited (confirmation_exitsFail.of_runs hrest)
          (confirmation_issues.of_runs hrest)
    | normal status =>
        unfold describeTask checkCompleted at hrest
        simp only [runs_sequence_normal, runs_external_normal,
          runs_jq_orElse_normal, runs_echo, existsAndEq, List.nil_append,
          List.cons_append, true_and, and_true, Completion.normal.injEq]
          at hrest
        obtain ⟨described, rfl, hdescribed, hpassed, rfl, -⟩ := hrest
        refine .confirmed hwaited hdescribed hpassed ?_
        intro exchange hmem
        simp only [List.mem_cons, List.not_mem_nil, or_false] at hmem
        rcases hmem with rfl | rfl
        · exact issues_of_none rfl
        · exact issues_of_none rfl

end MigrateScript

end InventoryCloud
