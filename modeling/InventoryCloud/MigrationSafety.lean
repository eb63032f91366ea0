import InventoryCloud.DeploySafety
import InventoryCloud.MigrationPhases

/-!
# The migration gate

The runs of `migrate-ecs.sh` against every exit status and output of its
commands.  Nothing is registered or run before the gate and the fresh snapshot
have passed, one task is run at most, and the script succeeds only when that
task was described as stopped with the exit code zero.
-/

namespace InventoryCloud

namespace MigrateScript

open Interaction JsonValue Shell Statement ReleaseFilters ReleaseCommands

variable {format : Jq.TextFormat} {invocation : Invocation}
  {state final : State} {trace : Trace} {status : Nat}
  {completion : Completion}

/-! ### What the answers say -/

def NoFailures (response : JsonValue) : Prop :=
  ∀ failures, response.member "failures" = some failures → Vacant failures

/-- One task was scheduled, and its ARN is `arn`. -/
structure Scheduled (response : JsonValue) (arn : String) : Prop where
  failures : NoFailures response
  task : ∃ task, response.member "tasks" = some (.array [task]) ∧
    task.member "taskArn" = some (.string arn)

/-- The one task has stopped, and its one migration container ended with the
exit code zero. -/
structure Succeeded (response : JsonValue) : Prop where
  failures : NoFailures response
  task : ∃ task containers values container code,
    response.member "tasks" = some (.array [task]) ∧
      task.member "lastStatus" = some (.string "STOPPED") ∧
      task.member "containers" = some containers ∧
      Jq.iterate containers = .ok values ∧
      values.filter (isNamed "migration") = [container] ∧
      container.member "exitCode" = some code ∧ Jq.number code = some 0

theorem noFailures_of_check {response : JsonValue}
    (hzero : Jq.equalTo (Jq.field "failures" response >>= Jq.length)
      (.integer 0) = .ok true) : NoFailures response := by
  intro failures hmember
  rw [Jq.field_of_member hmember] at hzero
  exact vacant_of_length hzero

theorem scheduled_of_accepts {response : JsonValue} {arn : String}
    (haccepts : Jq.Accepts scheduled response)
    (hstarted : startedTask response = .ok [.string arn]) :
    Scheduled response arn := by
  have hchecks := (Jq.accepts_conjunction rfl).mp haccepts
  simp only [oneTask, List.forall_mem_cons] at hchecks
  obtain ⟨hfailures, hone, -⟩ := hchecks
  unfold startedTask at hstarted
  rw [Python.bind_ok] at hstarted
  obtain ⟨found, hfound, hstarted⟩ := hstarted
  split at hstarted
  · rename_i text
    obtain ⟨task, htasks, harn⟩ := only_item hone hfound
    have hsame : text = arn := by
      split_ifs at hstarted
      · simpa [Python.pure_ok] using hstarted
      · cases hstarted
    rw [← hsame]
    exact ⟨noFailures_of_check hfailures, task, htasks,
      Jq.member_of_field harn (by simp)⟩
  · cases hstarted

/-- An accepted answer names one ARN. -/
theorem startedTask_accepts {response : JsonValue}
    (haccepts : Jq.Accepts startedTask response) :
    ∃ arn, startedTask response = .ok [.string arn] := by
  obtain ⟨outputs, last, houtputs, hlast, -⟩ := haccepts
  have hshape := houtputs
  unfold startedTask at hshape
  rw [Python.bind_ok] at hshape
  obtain ⟨found, -, hshape⟩ := hshape
  split at hshape
  · rename_i text
    rw [Python.pure_ok] at hshape
    split_ifs at hshape
    · exact ⟨text, by rw [houtputs, ← hshape]⟩
    · rw [← hshape] at hlast
      cases hlast
  · cases hshape

theorem succeeded_of_accepts {response : JsonValue}
    (haccepts : Jq.Accepts succeeded response) : Succeeded response := by
  have hchecks := (Jq.accepts_conjunction rfl).mp haccepts
  simp only [oneTask, List.cons_append, List.nil_append,
    List.forall_mem_cons] at hchecks
  obtain ⟨hfailures, hone, hstatus, hcount, hcode, -⟩ := hchecks
  obtain ⟨found, hfound, hstopped⟩ := equalTo_ok.mp hstatus
  rw [Jq.equals_string.mp hstopped] at hfound
  obtain ⟨task, htasks, hlast⟩ := only_item hone hfound
  have hnamed : ∃ named, migrationContainers response = .ok (.array named) ∧
      ∃ containers values, task.member "containers" = some containers ∧
        Jq.iterate containers = .ok values ∧
        named = values.filter (isNamed "migration") := by
    obtain ⟨count, hlength, -⟩ := equalTo_ok.mp hcount
    obtain ⟨named, hnamed, -⟩ := Python.bind_ok.mp hlength
    have hparts := hnamed
    unfold migrationContainers at hparts
    simp only [Python.bind_ok, Python.pure_ok] at hparts
    obtain ⟨containers, hcontainers, values, hvalues, items, hitems, rfl⟩ :=
      hparts
    obtain ⟨other, hother, hfield⟩ := only_item hone hcontainers
    rw [htasks] at hother
    obtain rfl : task = other := by simpa using hother
    refine ⟨items, hnamed, containers, values,
      Jq.member_of_field hfield ?_, hvalues, selectNamed_ok hitems⟩
    rintro rfl
    cases hvalues
  obtain ⟨named, hnamed, containers, values, hcontainers, hvalues, rfl⟩ :=
    hnamed
  rw [hnamed] at hcount hcode
  obtain ⟨code, hread, hzero⟩ := equalTo_ok.mp hcode
  rw [Jq.equals_integer] at hzero
  have hlength : (values.filter (isNamed "migration")).length = 1 := by
    obtain ⟨count, hlength, hequal⟩ := equalTo_ok.mp hcount
    cases hlength
    rw [Jq.equals_integer] at hequal
    simpa [Jq.number] using hequal
  obtain ⟨container, hcontainer⟩ := List.length_eq_one_iff.mp hlength
  rw [hcontainer] at hread
  refine ⟨noFailures_of_check hfailures, task, containers, values, container,
    code, htasks, Jq.member_of_field hlast (by simp), hcontainers, hvalues,
    hcontainer, Jq.member_of_field hread ?_, hzero⟩
  rintro rfl
  cases hzero

/-! ### The stages of a run -/

/-- How far a run has come: something before the registration failed, no task
could be started, or one was. -/
inductive Stages (format : Jq.TextFormat) (invocation : Invocation) :
    Trace → Completion → Prop where
  | blocked {trace : Trace} {code : Nat} (fails : code ≠ 0)
      (quiet : ∀ exchange ∈ trace,
        Issues prepareCommands exchange.query) :
      Stages format invocation trace (.exited code)
  | unstarted {prepareTrace startTrace : Trace} {prepared : State}
      {code : Nat} (fails : code ≠ 0)
      (passed : Prepared format invocation prepareTrace prepared)
      (prepareQuiet : ∀ exchange ∈ prepareTrace,
        Issues prepareCommands exchange.query)
      (quiet : ∀ exchange ∈ startTrace, Issues startCommands exchange.query)
      (once : (issued "run-task" startTrace).length ≤ 1) :
      Stages format invocation (prepareTrace ++ startTrace) (.exited code)
  | started {prepareTrace startTrace finishTrace : Trace} {prepared : State}
      {taskArn : String} {completion : Completion}
      (passed : Prepared format invocation prepareTrace prepared)
      (prepareQuiet : ∀ exchange ∈ prepareTrace,
        Issues prepareCommands exchange.query)
      (quiet : ∀ exchange ∈ startTrace, Issues startCommands exchange.query)
      (once : (issued "run-task" startTrace).length ≤ 1)
      (launched : Launched format invocation prepared taskArn startTrace)
      (finishQuiet : ∀ exchange ∈ finishTrace,
        Issues finishCommands exchange.query)
      (ended : Ended format invocation taskArn finishTrace completion) :
      Stages format invocation (prepareTrace ++ (startTrace ++ finishTrace))
        completion

theorem body_runs
    (hrun : (body format invocation).Runs false state trace completion
      final) :
    Stages format invocation trace completion := by
  unfold body at hrun
  rcases runs_sequence.mp hrun with ⟨code, hprepare, rfl⟩ |
    ⟨_, prepared, prepareTrace, rest, rfl, hprepare, hrest⟩
  · exact .blocked (preparePhase_exitsFail.of_runs hprepare)
      (preparePhase_issues.of_runs hprepare)
  have hprepared := preparePhase_normal hprepare
  have hquiet := preparePhase_issues.of_runs hprepare
  rcases runs_sequence.mp hrest with ⟨code, hstart, rfl⟩ |
    ⟨_, started, startTrace, finishTrace, rfl, hstart, hfinish⟩
  · exact .unstarted (startPhase_exitsFail.of_runs hstart) hprepared hquiet
      (startPhase_issues.of_runs hstart) (startPhase_once hstart)
  · exact .started hprepared hquiet (startPhase_issues.of_runs hstart)
      (startPhase_once hstart) (startPhase_normal hstart)
      (finishPhase_issues.of_runs hfinish) (finishPhase_runs hfinish)

/-! ### Safety -/

/-- One task of `task` was run in the network of `snapshot`, and the answer
named it `arn`. -/
def RanTask (format : Jq.TextFormat) (invocation : Invocation)
    (snapshot task arn : String) (exchange : Exchange Request Answer) :
    Prop :=
  ∃ (requestId migrationDir : String) (ran : Finished)
    (response : JsonValue),
    exchange = ⟨.external (runArguments invocation task requestId migrationDir)
      [networkText format snapshot], ran⟩ ∧
      ran.status = 0 ∧ format.read ran.stdout = ⟨[response], false⟩ ∧
      Scheduled response arn

/-- The task was run, waited for, and then described as one that has
succeeded. -/
def Completed (format : Jq.TextFormat) (invocation : Invocation)
    (snapshot task arn : String) (trace : Trace) : Prop :=
  ∃ (ran : Exchange Request Answer) (waited described : Finished)
    (response : JsonValue),
    RanTask format invocation snapshot task arn ran ∧
      waited.status = 0 ∧ described.status = 0 ∧
      format.read described.stdout = ⟨[response], false⟩ ∧
      Succeeded response ∧
      [ran, ⟨.external (waitArguments invocation arn) [], waited⟩,
        ⟨.external (tasksArguments invocation arn) [],
          described⟩].Sublist trace

/-- The promises of the script for one of its runs. -/
structure MigrationSafe (format : Jq.TextFormat) (invocation : Invocation)
    (trace : Trace) (status : Nat) : Prop where
  guarded : ∀ before exchange after, trace = before ++ exchange :: after →
    ¬ Issues prepareCommands exchange.query →
      ∃ report snapshot, GatePassed format invocation report snapshot before
  once : (issued "run-task" trace).length ≤ 1
  noUpdate : issued "update-service" trace = []
  stopped : ∀ (arguments inputs : List String) (waited : Finished),
    (⟨.external arguments inputs, waited⟩ : Exchange Request Answer) ∈ trace →
    ecsCommand (.external arguments inputs) = some "wait" →
    waited.status ≠ 0 →
      status ≠ 0 ∧ ∃ snapshot task arn ran, ∃ stopped : Finished,
        RanTask format invocation snapshot task arn ran ∧
          [ran, ⟨.external arguments inputs, waited⟩,
            ⟨.external (stopArguments invocation arn) [],
              stopped⟩].Sublist trace
  migrated : status = 0 →
    ∃ (report snapshot task arn : String) (repositories : Finished),
      GatePassed format invocation report snapshot trace ∧
        (⟨.external (repositoriesArguments invocation) [], repositories⟩ :
          Exchange Request Answer) ∈ trace ∧
        Registered format "migration"
          (substituted repositories.stdout ++ "@" ++
            invocation.value "IMAGE_DIGEST")
          (invocation.value "MIGRATION_TASK_DEFINITION") task trace ∧
        Completed format invocation snapshot task arn trace

/-- The answer to the start of the task is one JSON document at most, and the
ARN of a scheduled task has neither a zero byte nor a line break at its end. -/
structure PlainStart (format : Jq.TextFormat) (trace : Trace) : Prop where
  single : ∀ (arguments inputs : List String) (done : Finished),
    (⟨.external arguments inputs, done⟩ : Exchange Request Answer) ∈ trace →
    ecsCommand (.external arguments inputs) = some "run-task" →
    (format.read done.stdout).values.length ≤ 1
  plain : ∀ (arguments inputs : List String) (done : Finished)
      (response : JsonValue) (arn : String),
    (⟨.external arguments inputs, done⟩ : Exchange Request Answer) ∈ trace →
    ecsCommand (.external arguments inputs) = some "run-task" →
    format.read done.stdout = ⟨[response], false⟩ →
    Scheduled response arn → Plain arn

def WaitFailed (trace : Trace) : Prop :=
  ∃ (arguments inputs : List String) (waited : Finished),
    (⟨.external arguments inputs, waited⟩ : Exchange Request Answer) ∈ trace ∧
      ecsCommand (.external arguments inputs) = some "wait" ∧
      waited.status ≠ 0

/-- What the last check of the script accepts. -/
def Acceptable (format : Jq.TextFormat) (described : Finished) : Prop :=
  described.status = 0 ∧
    (Jq.run format false succeeded described.stdout).1 = 0

def Accepted (format : Jq.TextFormat) (trace : Trace) : Prop :=
  ∃ (arguments inputs : List String) (described : Finished),
    (⟨.external arguments inputs, described⟩ :
      Exchange Request Answer) ∈ trace ∧
      ecsCommand (.external arguments inputs) = some "describe-tasks" ∧
      Acceptable format described

/-- The answer to the start is plain where the task is to be stopped or its
description is acceptable, and such a description is one JSON document. -/
structure PlainAnswers (format : Jq.TextFormat) (trace : Trace) : Prop where
  ran : WaitFailed trace ∨ Accepted format trace → PlainStart format trace
  described : ∀ (arguments inputs : List String) (described : Finished),
    (⟨.external arguments inputs, described⟩ :
      Exchange Request Answer) ∈ trace →
    ecsCommand (.external arguments inputs) = some "describe-tasks" →
    Acceptable format described →
    (format.read described.stdout).values.length ≤ 1

/-- What the script takes from a plain answer is the ARN of the task. -/
theorem ranTask_of_launched {prepared : State} {taskArn : String}
    (hlaunched : Launched format invocation prepared taskArn trace)
    (hnetwork : prepared.network = networkText format prepared.service)
    {whole : Trace} (hsub : trace.Sublist whole)
    (hplain : PlainStart format whole) :
    ∃ (registered : Finished) (ran : Exchange Request Answer),
      registered.status = 0 ∧
        RanTask format invocation prepared.service
          (substituted registered.stdout) taskArn ran ∧
        [(⟨.external (registerArguments prepared.migrationDir)
          [prepared.next], registered⟩ : Exchange Request Answer),
          ran].Sublist trace := by
  obtain ⟨registered, ran, requestId, hregistered, hran, hscheduled, hstarted,
    rfl, hchain⟩ := hlaunched
  have hmem := hsub.subset (hchain.subset
    (List.mem_cons_of_mem _ List.mem_cons_self))
  have hsingle := hplain.single _ _ _ hmem rfl
  obtain ⟨response, hread, haccepts⟩ := Jq.accepts_of_run hscheduled hsingle
  obtain ⟨other, hother, hnames⟩ := Jq.accepts_of_run hstarted hsingle
  obtain rfl : response = other := by
    rw [hread] at hother
    simpa using hother
  obtain ⟨arn, harn⟩ := startedTask_accepts hnames
  have hresponse := scheduled_of_accepts haccepts harn
  have htext : substituted (Jq.run format true startedTask ran.stdout).2 =
      arn := by
    rw [Jq.run_single hread, harn]
    exact substituted_line (hplain.plain _ _ _ _ _ hmem rfl hread hresponse)
  rw [htext]
  refine ⟨registered, _, hregistered, ⟨requestId, prepared.migrationDir, ran,
    response, ?_, hran, hread, hresponse⟩, hchain⟩
  rw [hnetwork]

/-- A run that has started no task, and nothing at all before the gate. -/
theorem safe_of_unstarted {prepareTrace startTrace rest : Trace}
    (hstatus : status ≠ 0)
    (hprepare : ∀ exchange ∈ prepareTrace,
      Issues prepareCommands exchange.query)
    (hstart : ∀ exchange ∈ startTrace, Issues startCommands exchange.query)
    (honce : (issued "run-task" startTrace).length ≤ 1)
    (hpassed : startTrace = [] ∨ ∃ report snapshot,
      GatePassed format invocation report snapshot prepareTrace)
    (hrest : ∀ exchange ∈ rest, Issues [] exchange.query) :
    MigrationSafe format invocation (prepareTrace ++ (startTrace ++ rest))
      status := by
  refine ⟨?_, ?_, ?_, ?_, fun hzero => absurd hzero hstatus⟩
  · intro before exchange after hsplit hloud
    obtain ⟨middle, rfl⟩ := split_after hprepare hloud hsplit
    rcases hpassed with rfl | ⟨report, snapshot, hpassed⟩
    · rw [List.nil_append, List.append_assoc, List.append_cancel_left_eq]
        at hsplit
      have hmem : exchange ∈ rest := by
        rw [hsplit]
        simp
      exact absurd (issues_mono (List.nil_subset _) _ (hrest exchange hmem))
        hloud
    · exact ⟨report, snapshot, hpassed.append middle⟩
  · rw [issued_append, issued_append,
      issued_of_issues hprepare (by decide),
      issued_of_issues hrest (by decide), List.nil_append, List.append_nil]
    exact honce
  · rw [issued_append, issued_append, issued_of_issues hprepare (by decide),
      issued_of_issues hstart (by decide), issued_of_issues hrest (by decide)]
    rfl
  · intro arguments inputs waited hmem hwait
    rcases List.mem_append.mp hmem with hmem | hmem
    · exact absurd hwait ((hprepare _ hmem).not (by decide))
    rcases List.mem_append.mp hmem with hmem | hmem
    · exact absurd hwait ((hstart _ hmem).not (by decide))
    · exact absurd hwait ((hrest _ hmem).not (by decide))

/-- The wait among the exchanges after the start of the task. -/
theorem Ended.waited {taskArn : String}
    (hended : Ended format invocation taskArn trace completion)
    {arguments inputs : List String} {waited : Finished}
    (hmem : (⟨.external arguments inputs, waited⟩ :
      Exchange Request Answer) ∈ trace)
    (hwait : ecsCommand (.external arguments inputs) = some "wait")
    (hfailed : waited.status ≠ 0) :
    completion = .exited 1 ∧ ∃ stopped : Finished,
      [(⟨.external arguments inputs, waited⟩ : Exchange Request Answer),
        ⟨.external (stopArguments invocation taskArn) [],
          stopped⟩].Sublist trace := by
  cases hended with
  | @abandoned done stopped message failed =>
      simp only [List.mem_cons, List.not_mem_nil, or_false] at hmem
      rcases hmem with hsame | hsame | hsame
      · rw [hsame]
        exact ⟨rfl, stopped, List.Sublist.cons_cons _
          (List.Sublist.cons_cons _ (List.nil_sublist _))⟩
      · have hstop : ecsCommand (.external arguments inputs) =
            some "stop-task" := congrArg (fun other => ecsCommand other.query)
          hsame
        rw [hwait] at hstop
        exact absurd hstop (by decide)
      · have hecho : ecsCommand (.external arguments inputs) = none :=
          congrArg (fun other => ecsCommand other.query) hsame
        rw [hwait] at hecho
        cases hecho
  | unconfirmed waitedFor fails quiet =>
      rcases List.mem_cons.mp hmem with hsame | hmem
      · obtain ⟨-, -, rfl⟩ := external_inj hsame
        exact absurd waitedFor hfailed
      · exact absurd hwait ((quiet _ hmem).not (by decide))
  | confirmed waitedFor answered passed quiet =>
      rcases List.mem_cons.mp hmem with hsame | hmem
      · obtain ⟨-, -, rfl⟩ := external_inj hsame
        exact absurd waitedFor hfailed
      rcases List.mem_cons.mp hmem with hsame | hmem
      · have hdescribe : ecsCommand (.external arguments inputs) =
            some "describe-tasks" :=
          congrArg (fun other => ecsCommand other.query) hsame
        rw [hwait] at hdescribe
        exact absurd hdescribe (by decide)
      · exact absurd hwait ((quiet _ hmem).not (by decide))

/-- A run that succeeds has waited for the task and accepted what the task is
described as. -/
theorem Ended.succeeds {taskArn : String}
    (hended : Ended format invocation taskArn trace completion)
    (hzero : completion.status = 0) :
    ∃ (waited described : Finished) (others : Trace),
      trace = ⟨.external (waitArguments invocation taskArn) [], waited⟩ ::
        ⟨.external (tasksArguments invocation taskArn) [], described⟩ ::
        others ∧ completion = .normal 0 ∧ waited.status = 0 ∧
        Acceptable format described := by
  cases hended with
  | abandoned failed => exact absurd hzero Nat.one_ne_zero
  | unconfirmed waitedFor fails quiet => exact absurd hzero fails
  | confirmed waitedFor answered passed quiet =>
      exact ⟨_, _, _, rfl, rfl, waitedFor, answered, passed⟩

/-- The exchanges of a run that has started a task, by phases. -/
structure StartedRun (format : Jq.TextFormat) (invocation : Invocation)
    (prepared : State) (taskArn : String) (completion : Completion)
    (prepareTrace startTrace finishTrace rest : Trace) : Prop where
  passed : Prepared format invocation prepareTrace prepared
  prepareQuiet : ∀ exchange ∈ prepareTrace,
    Issues prepareCommands exchange.query
  startQuiet : ∀ exchange ∈ startTrace, Issues startCommands exchange.query
  once : (issued "run-task" startTrace).length ≤ 1
  launched : Launched format invocation prepared taskArn startTrace
  finishQuiet : ∀ exchange ∈ finishTrace,
    Issues finishCommands exchange.query
  ended : Ended format invocation taskArn finishTrace completion
  restQuiet : ∀ exchange ∈ rest, Issues [] exchange.query

namespace StartedRun

variable {prepared : State} {taskArn : String}
  {prepareTrace startTrace finishTrace rest : Trace}

/-- What the finishing phase does comes after the start of the task. -/
theorem follows {first ran : Exchange Request Answer} {exchanges : Trace}
    (hchain : [first, ran].Sublist startTrace)
    (hexchanges : exchanges.Sublist finishTrace) :
    (ran :: exchanges).Sublist
      (prepareTrace ++ (startTrace ++ (finishTrace ++ rest))) := by
  have hran : [ran].Sublist startTrace :=
    (List.sublist_cons_self _ _).trans hchain
  have hlater : exchanges.Sublist (finishTrace ++ rest) :=
    hexchanges.trans (List.sublist_append_left _ _)
  exact (hran.append hlater).trans (List.sublist_append_right _ _)

theorem finish_mem {exchange : Exchange Request Answer}
    (hmem : exchange ∈ finishTrace) :
    exchange ∈ prepareTrace ++ (startTrace ++ (finishTrace ++ rest)) := by
  simp [hmem]

/-- Only the finishing phase waits for a task. -/
theorem wait_mem
    (hstarted : StartedRun format invocation prepared taskArn completion
      prepareTrace startTrace finishTrace rest)
    {exchange : Exchange Request Answer}
    (hmem : exchange ∈ prepareTrace ++ (startTrace ++ (finishTrace ++ rest)))
    (hwait : ecsCommand exchange.query = some "wait") :
    exchange ∈ finishTrace := by
  rcases List.mem_append.mp hmem with hmem | hmem
  · exact absurd hwait ((hstarted.prepareQuiet _ hmem).not (by decide))
  rcases List.mem_append.mp hmem with hmem | hmem
  · exact absurd hwait ((hstarted.startQuiet _ hmem).not (by decide))
  rcases List.mem_append.mp hmem with hmem | hmem
  · exact hmem
  · exact absurd hwait ((hstarted.restQuiet _ hmem).not (by decide))

theorem runs_once
    (hstarted : StartedRun format invocation prepared taskArn completion
      prepareTrace startTrace finishTrace rest) :
    (issued "run-task" (prepareTrace ++
      (startTrace ++ (finishTrace ++ rest)))).length ≤ 1 := by
  rw [issued_append, issued_append, issued_append,
    issued_of_issues hstarted.prepareQuiet (by decide),
    issued_of_issues hstarted.finishQuiet (by decide),
    issued_of_issues hstarted.restQuiet (by decide), List.nil_append,
    List.append_nil, List.append_nil]
  exact hstarted.once

theorem updates_nothing
    (hstarted : StartedRun format invocation prepared taskArn completion
      prepareTrace startTrace finishTrace rest) :
    issued "update-service" (prepareTrace ++
      (startTrace ++ (finishTrace ++ rest))) = [] := by
  rw [issued_append, issued_append, issued_append,
    issued_of_issues hstarted.prepareQuiet (by decide),
    issued_of_issues hstarted.startQuiet (by decide),
    issued_of_issues hstarted.finishQuiet (by decide),
    issued_of_issues hstarted.restQuiet (by decide)]
  rfl

/-- The task that was run, behind the registration of its definition. -/
theorem ranTask
    (hstarted : StartedRun format invocation prepared taskArn completion
      prepareTrace startTrace finishTrace rest)
    (hplain : PlainStart format
      (prepareTrace ++ (startTrace ++ (finishTrace ++ rest)))) :
    ∃ (registered : Finished) (ran : Exchange Request Answer),
      registered.status = 0 ∧
        RanTask format invocation prepared.service
          (substituted registered.stdout) taskArn ran ∧
        [(⟨.external (registerArguments prepared.migrationDir)
          [prepared.next], registered⟩ : Exchange Request Answer),
          ran].Sublist startTrace :=
  ranTask_of_launched hstarted.launched hstarted.passed.network
    ((List.sublist_append_left _ _).trans (List.sublist_append_right _ _))
    hplain

/-- A failed wait stops the task. -/
theorem stops
    (hstarted : StartedRun format invocation prepared taskArn completion
      prepareTrace startTrace finishTrace rest)
    (hplain : PlainAnswers format
      (prepareTrace ++ (startTrace ++ (finishTrace ++ rest))))
    {arguments inputs : List String} {waited : Finished}
    (hmem : (⟨.external arguments inputs, waited⟩ :
      Exchange Request Answer) ∈
        prepareTrace ++ (startTrace ++ (finishTrace ++ rest)))
    (hwait : ecsCommand (.external arguments inputs) = some "wait")
    (hfailed : waited.status ≠ 0) :
    completion.status ≠ 0 ∧ ∃ snapshot task arn ran, ∃ stopped : Finished,
      RanTask format invocation snapshot task arn ran ∧
        [ran, ⟨.external arguments inputs, waited⟩,
          ⟨.external (stopArguments invocation arn) [], stopped⟩].Sublist
            (prepareTrace ++ (startTrace ++ (finishTrace ++ rest))) := by
  obtain ⟨rfl, stopped, hstop⟩ :=
    hstarted.ended.waited (hstarted.wait_mem hmem hwait) hwait hfailed
  obtain ⟨registered, ran, -, hran, hchain⟩ :=
    hstarted.ranTask (hplain.ran (Or.inl ⟨_, _, _, hmem, hwait, hfailed⟩))
  exact ⟨Nat.one_ne_zero, prepared.service, _, taskArn, ran, stopped, hran,
    follows hchain hstop⟩

/-- The definition of the migration was edited and registered. -/
theorem registers
    (hstarted : StartedRun format invocation prepared taskArn completion
      prepareTrace startTrace finishTrace rest)
    {registered : Finished} {ran : Exchange Request Answer}
    (hregistered : registered.status = 0)
    (hchain : [(⟨.external (registerArguments prepared.migrationDir)
      [prepared.next], registered⟩ : Exchange Request Answer),
        ran].Sublist startTrace) :
    ∃ repositories : Finished,
      (⟨.external (repositoriesArguments invocation) [], repositories⟩ :
        Exchange Request Answer) ∈ prepareTrace ∧
      Registered format "migration"
        (substituted repositories.stdout ++ "@" ++
          invocation.value "IMAGE_DIGEST")
        (invocation.value "MIGRATION_TASK_DEFINITION")
        (substituted registered.stdout)
        (prepareTrace ++ (startTrace ++ (finishTrace ++ rest))) := by
  obtain ⟨repositories, described, nexts, hrepositories, hdescribed, hnext,
    hne, hnexts⟩ := hstarted.passed.edited
  refine ⟨repositories, hrepositories, described, registered,
    prepared.migrationDir, nexts, ?_, hregistered, rfl, hne, hnexts⟩
  rw [← hnext]
  have hregister := (List.cons_sublist_cons.mpr
    (List.nil_sublist [ran])).trans hchain
  exact (List.singleton_sublist.mpr hdescribed).append
    (hregister.trans (List.sublist_append_left _ _))

/-- A run that succeeds has run the task to its end. -/
theorem migrates
    (hstarted : StartedRun format invocation prepared taskArn completion
      prepareTrace startTrace finishTrace rest)
    (hplain : PlainAnswers format
      (prepareTrace ++ (startTrace ++ (finishTrace ++ rest))))
    (hzero : completion.status = 0) :
    ∃ (report snapshot task arn : String) (repositories : Finished),
      GatePassed format invocation report snapshot
          (prepareTrace ++ (startTrace ++ (finishTrace ++ rest))) ∧
        (⟨.external (repositoriesArguments invocation) [], repositories⟩ :
          Exchange Request Answer) ∈
            prepareTrace ++ (startTrace ++ (finishTrace ++ rest)) ∧
        Registered format "migration"
          (substituted repositories.stdout ++ "@" ++
            invocation.value "IMAGE_DIGEST")
          (invocation.value "MIGRATION_TASK_DEFINITION") task
          (prepareTrace ++ (startTrace ++ (finishTrace ++ rest))) ∧
        Completed format invocation snapshot task arn
          (prepareTrace ++ (startTrace ++ (finishTrace ++ rest))) := by
  obtain ⟨waited, answer, others, hfinish, rfl, hwaited, hacceptable⟩ :=
    hstarted.ended.succeeds hzero
  have hmem : (⟨.external (tasksArguments invocation taskArn) [], answer⟩ :
      Exchange Request Answer) ∈
        prepareTrace ++ (startTrace ++ (finishTrace ++ rest)) :=
    finish_mem (by simp [hfinish])
  obtain ⟨registered, ran, hregistered, hran, hchain⟩ :=
    hstarted.ranTask (hplain.ran (Or.inr ⟨_, _, _, hmem, rfl, hacceptable⟩))
  obtain ⟨repositories, hrepositories, hregistration⟩ :=
    hstarted.registers hregistered hchain
  obtain ⟨response, hread, haccepts⟩ := Jq.accepts_of_run hacceptable.2
    (hplain.described _ _ _ hmem rfl hacceptable)
  have hwaits : [(⟨.external (waitArguments invocation taskArn) [], waited⟩ :
      Exchange Request Answer),
      ⟨.external (tasksArguments invocation taskArn) [], answer⟩].Sublist
        finishTrace := by
    rw [hfinish]
    exact List.Sublist.cons_cons _
      (List.Sublist.cons_cons _ (List.nil_sublist _))
  exact ⟨prepared.compatibility, prepared.service, _, taskArn, repositories,
    hstarted.passed.passed.append _, List.mem_append_left _ hrepositories,
    hregistration, ran, waited, answer, response, hran, hwaited,
    hacceptable.1, hread, succeeded_of_accepts haccepts,
    follows hchain hwaits⟩

theorem safe
    (hstarted : StartedRun format invocation prepared taskArn completion
      prepareTrace startTrace finishTrace rest)
    (hzero : status = 0 → completion.status = 0)
    (hplain : PlainAnswers format
      (prepareTrace ++ (startTrace ++ (finishTrace ++ rest)))) :
    MigrationSafe format invocation
      (prepareTrace ++ (startTrace ++ (finishTrace ++ rest))) status where
  guarded := by
    intro before exchange after hsplit hloud
    obtain ⟨middle, rfl⟩ := split_after hstarted.prepareQuiet hloud hsplit
    exact ⟨_, _, hstarted.passed.passed.append middle⟩
  once := hstarted.runs_once
  noUpdate := hstarted.updates_nothing
  stopped := by
    intro arguments inputs waited hmem hwait hfailed
    obtain ⟨hfails, hstops⟩ := hstarted.stops hplain hmem hwait hfailed
    exact ⟨fun hstatus => hfails (hzero hstatus), hstops⟩
  migrated hstatus := hstarted.migrates hplain (hzero hstatus)

end StartedRun

/-- Where the answers about tasks are plain, every run is safe. -/
theorem migration_safe (format : Jq.TextFormat) (invocation : Invocation)
    (trace : Trace) (status : Nat)
    (hrun : (migrate format invocation).Runs trace status)
    (hplain : PlainAnswers format trace) :
    MigrationSafe format invocation trace status := by
  unfold migrate at hrun
  obtain ⟨⟨completion, final⟩, first, rest, rfl, hbody, hcleanup⟩ :=
    (Program.runs_bind _ _ _ _).mp hrun
  obtain ⟨hquiet, hzero, -⟩ := cleanup_runs hcleanup
  have hrest : ∀ exchange ∈ rest, Issues [] exchange.query :=
    fun exchange hmem => issues_of_none (hquiet exchange hmem)
  cases body_runs (runs_iff.mpr hbody) with
  | blocked fails quiet =>
      have hnothing : ∀ exchange ∈ ([] : Trace),
          Issues startCommands exchange.query := by simp
      exact safe_of_unstarted (fun hstatus => fails (hzero hstatus)) quiet
        hnothing (Nat.zero_le 1) (Or.inl rfl) hrest
  | unstarted fails passed prepareQuiet quiet once =>
      rw [List.append_assoc]
      exact safe_of_unstarted (fun hstatus => fails (hzero hstatus))
        prepareQuiet quiet once (Or.inr ⟨_, _, passed.passed⟩) hrest
  | started passed prepareQuiet quiet once launched finishQuiet ended =>
      simp only [List.append_assoc] at hplain ⊢
      exact StartedRun.safe ⟨passed, prepareQuiet, quiet, once, launched,
        finishQuiet, ended, hrest⟩ hzero hplain

/-! ### Runs of the script

A migration with the image that the gate has inspected; `tasks` are the
documents with which the finished task is described.
-/

namespace Sample

open ImageVerification.Sample (response repository digest)
open DeployScript.Sample (line report container)

def call : Invocation where
  script := "scripts/migrate-ecs.sh"
  environment name :=
    if name = "MIGRATION_TASK_DEFINITION" then some "inventory-migration"
    else ImageVerification.Sample.settings name

def registeredTask : String :=
  "arn:aws:ecs:us-east-1:123456789012:task-definition/inventory-migration:2"

def taskArn : String :=
  "arn:aws:ecs:us-east-1:123456789012:task/inventory/4f5e6d7c8b9a"

def network : JsonValue :=
  .object [("awsvpcConfiguration", .object
    [("subnets", .array [.string "subnet-1"])])]

/-- The snapshot of the gate, with a network configuration. -/
def snapshot : JsonValue :=
  .object [("services", .array [.object
    ([("status", .string "ACTIVE"),
      ("taskDefinition", .string ImageVerification.Sample.task)] ++
      ImageVerification.Sample.counts ++
      [("deployments", .array [ImageVerification.Sample.deployment]),
        ("networkConfiguration", network)])]), ("failures", .array [])]

def definition : JsonValue :=
  .object [("family", .string "inventory-migration"),
    ("revision", .integer 1), ("containerDefinitions", .array
      [container "migration" (repository ++ "@" ++ digest 'b')])]

def ran : JsonValue :=
  .object [("tasks", .array [.object [("taskArn", .string taskArn)]]),
    ("failures", .array [])]

def ended (exitCode : Int) : JsonValue :=
  .object [("tasks", .array [.object
    [("lastStatus", .string "STOPPED"), ("containers", .array
      [.object [("name", .string "migration"),
        ("exitCode", .integer exitCode)]])]]), ("failures", .array [])]

/-- The texts of these runs. -/
def texts (tasks : List JsonValue) : Jq.TextFormat :=
  .ofTexts [(line report.toJson, [report.toJson]),
    (line snapshot, [snapshot]), (line definition, [definition]),
    (line network, [network]), (line ran, [ran]),
    (String.join (tasks.map line), tasks)]

/-- What the commands print. -/
def output (tasks : List JsonValue) : List String → String
  | "mktemp" :: _ => "/tmp/migration\n"
  | "dirname" :: _ => "scripts\n"
  | "python3" :: "-c" :: _ => "f81d4fae-7dec-11d0-a765-00a0c91e6bf6\n"
  | "python3" :: _ => line report.toJson
  | "aws" :: "ecr" :: "describe-repositories" :: _ => repository ++ "\n"
  | "aws" :: "ecs" :: "describe-task-definition" :: _ => line definition
  | "aws" :: "ecs" :: "describe-services" :: _ => line snapshot
  | "aws" :: "ecs" :: "register-task-definition" :: _ =>
      registeredTask ++ "\n"
  | "aws" :: "ecs" :: "run-task" :: _ => line ran
  | "aws" :: "ecs" :: "describe-tasks" :: _ => String.join (tasks.map line)
  | _ => ""

def oracle (tasks : List JsonValue) : (request : Request) → Answer request
  | .echo _ => ⟨⟩
  | .external arguments _ => ⟨0, output tasks arguments, ""⟩
  | .jq _ _ => none

def exchanges (tasks : List JsonValue) : Trace :=
  (migrate (texts tasks) call).transcript (oracle tasks)

theorem runs {tasks : List JsonValue} {status : Nat}
    (hstatus : (migrate (texts tasks) call).eval (oracle tasks) = status) :
    (migrate (texts tasks) call).Runs (exchanges tasks) status := by
  rw [← hstatus]
  exact Program.runs_transcript _ _

theorem answered {tasks : List JsonValue} {arguments inputs : List String}
    {done : Finished}
    (hmem : (⟨.external arguments inputs, done⟩ : Exchange Request Answer) ∈
      exchanges tasks) :
    done = ⟨0, output tasks arguments, ""⟩ :=
  Program.transcript_answer _ _ hmem

theorem migrated : (migrate (texts [ended 0]) call).eval
    (oracle [ended 0]) = 0 := by
  decide +kernel

theorem unconfirmed : (migrate (texts [ended 1, ended 0]) call).eval
    (oracle [ended 1, ended 0]) = 0 := by
  decide +kernel

/-- The only task that these texts schedule. -/
theorem scheduled_arn {text arn : String} {answer : JsonValue}
    (hread : (texts [ended 0]).read text = ⟨[answer], false⟩)
    (hscheduled : Scheduled answer arn) : arn = taskArn := by
  obtain ⟨task, htasks, harn⟩ := hscheduled.task
  rcases Jq.TextFormat.ofTexts_read _ text with hnone | ⟨entry, hmem, hvalues⟩
  · unfold texts at hread
    rw [hread] at hnone
    cases hnone
  · unfold texts at hread
    rw [hread] at hvalues
    have hanswer : answer ∈ entry.2 := by
      rw [← hvalues]
      exact List.mem_cons_self
    simp only [List.mem_cons, List.not_mem_nil, or_false] at hmem
    rcases hmem with rfl | rfl | rfl | rfl | rfl | rfl <;>
      rw [List.mem_singleton.mp hanswer] at htasks
    · simp [ImageVerification.DeploymentReport.toJson, lookup_cons] at htasks
    · simp [snapshot, lookup_cons] at htasks
    · simp [definition, lookup_cons] at htasks
    · simp [network, lookup_cons] at htasks
    · simp only [ran, member_object, lookup_cons] at htasks
      simp at htasks
      rw [← htasks] at harn
      simpa [lookup_cons, eq_comm] using harn
    · simp [ended, lookup_cons] at htasks
      rw [← htasks] at harn
      simp [lookup_cons] at harn

end Sample

/-- The script succeeds although the task is described with a failed exit
code, as the last of two documents says otherwise. -/
theorem migration_unsafe :
    ∃ format invocation trace,
      (migrate format invocation).Runs trace 0 ∧
        ¬ MigrationSafe format invocation trace 0 := by
  refine ⟨_, _, _, Sample.runs Sample.unconfirmed, fun hsafe => ?_⟩
  obtain ⟨_, _, _, arn, _, -, -, -, hcompleted⟩ := hsafe.migrated rfl
  obtain ⟨_, _, described, response, -, -, -, hread, -, hchain⟩ := hcompleted
  have hdescribed := Sample.answered (hchain.subset
    (List.mem_cons_of_mem _ (List.mem_cons_of_mem _ List.mem_cons_self)))
  have hstdout : described.stdout = String.join
      ([Sample.ended 1, Sample.ended 0].map DeployScript.Sample.line) := by
    rw [hdescribed]
    rfl
  rw [hstdout] at hread
  have hcount : ((Sample.texts [Sample.ended 1, Sample.ended 0]).read
      (String.join ([Sample.ended 1, Sample.ended 0].map
        DeployScript.Sample.line))).values.length = 2 := by decide +kernel
  have hone : 2 = 1 :=
    hcount.symm.trans (congrArg (fun read => read.values.length) hread)
  cases hone

theorem migration_safe_sample :
    MigrationSafe (Sample.texts [Sample.ended 0]) Sample.call
      (Sample.exchanges [Sample.ended 0]) 0 := by
  apply migration_safe _ _ _ _ (Sample.runs Sample.migrated)
  constructor
  · intro _
    constructor
    · intro arguments inputs done _ _
      exact Jq.TextFormat.ofTexts_single (by decide) done.stdout
    · intro arguments inputs done response arn _ _ hread hscheduled
      rw [Sample.scheduled_arn hread hscheduled]
      exact ⟨by decide, by decide⟩
  · intro arguments inputs done _ _ _
    exact Jq.TextFormat.ofTexts_single (by decide) done.stdout

end MigrateScript

end InventoryCloud
