import InventoryCloud.DeployPhases
import InventoryCloud.ReleaseGate

/-!
# A deployment leaves no failed release in place

The runs of `deploy-ecs.sh` against every exit status and output of its
commands.  Nothing is registered or updated before the gate and the fresh
snapshot have passed; the first update names what was just registered; and
whenever a later step fails, the last update restores what the gate reported.
-/

namespace InventoryCloud

namespace DeployScript

open Interaction JsonValue Shell Statement ReleaseFilters ReleaseCommands
  ImageVerification

variable {format : Jq.TextFormat} {invocation : Invocation}
  {state final : State} {trace : Trace} {status : Nat}
  {completion : Completion}

/-! ### What the report of the gate says -/

theorem taskDefinitionArn_within {char : Char}
    (hchar : char = '\n' ∨ char = '\x00') :
    taskDefinitionArn.Within (· ≠ char) := by
  have hregion : (TextPattern.one ReleaseContract.isRegionChar).Within
      (· ≠ char) :=
    TextPattern.Within.avoids (by rcases hchar with rfl | rfl <;> decide)
  have hname : (TextPattern.one ImageVerification.isNameChar).Within
      (· ≠ char) :=
    TextPattern.Within.avoids (by rcases hchar with rfl | rfl <;> decide)
  have hdigit : (TextPattern.one Python.isDecimalDigit).Within (· ≠ char) :=
    TextPattern.Within.avoids (by rcases hchar with rfl | rfl <;> decide)
  have hliteral : ∀ word ∈ ["arn:aws:ecs:", ":", ":task-definition/"],
      (TextPattern.literal word).Within (· ≠ char) := by
    intro word hword
    apply TextPattern.Within.literal
    rcases hchar with rfl | rfl <;> revert word <;> simp
  exact ⟨hliteral "arn:aws:ecs:" (by simp), ⟨hregion, hregion⟩,
    hliteral ":" (by simp), hdigit.times 12,
    hliteral ":task-definition/" (by simp), ⟨hname, hname⟩,
    hliteral ":" (by simp), ⟨hdigit, hdigit⟩, trivial⟩

theorem integer_plain (value : Int) : Plain (toString value) := by
  have hdigits : ∀ (number : Nat), ∀ char ∈ number.repr.toList,
      char ≠ '\n' ∧ char ≠ '\x00' := by
    intro number char hmem
    rw [Nat.toList_repr] at hmem
    have hdigit := Nat.isDigit_of_mem_toDigits (by decide) (by decide) hmem
    constructor <;> rintro rfl <;> revert hdigit <;> decide
  apply plain_of_chars
  intro char hmem
  rw [Int.toString_eq_repr, Int.repr_eq_if] at hmem
  split_ifs at hmem with hnonneg
  · exact hdigits _ char hmem
  · rw [String.toList_append, List.mem_append] at hmem
    rcases hmem with hminus | hmem
    · simp_all
    · exact hdigits _ char hmem

theorem reported_string {report name text : String} {document : JsonValue}
    (hread : format.read report = ⟨[document], false⟩)
    (hmember : Jq.field name document = .ok (.string text))
    (htext : Plain text) :
    reported format name report = text := by
  unfold reported
  rw [Jq.run_single hread, reportField, hmember]
  exact substituted_line htext

theorem reported_integer {report name : String} {value : Int}
    {document : JsonValue}
    (hread : format.read report = ⟨[document], false⟩)
    (hmember : Jq.field name document = .ok (.integer value)) :
    reported format name report = toString value := by
  unfold reported
  rw [Jq.run_single hread, reportField, hmember]
  calc substituted (Jq.lines format true [.integer value])
      = substituted (format.write (.integer value) ++ "\n") := rfl
    _ = substituted (toString value ++ "\n") := by
        rw [format.write_integer]
    _ = toString value := substituted_line (integer_plain value)

/-- The gate has returned this report in some run. -/
def GateReport (verified : DeploymentReport) : Prop :=
  ∃ library environment gateTrace,
    (verifyDeployment library environment).Succeeds gateTrace verified

/-- The script reads back the task and the count of the report. -/
theorem reported_of_gate {verified : DeploymentReport} {report : String}
    (hverified : GateReport verified)
    (hread : format.read report = ⟨[verified.toJson], false⟩) :
    reported format "previous_task" report = verified.service.previousTask ∧
      reported format "previous_count" report =
        toString verified.service.previousCount := by
  obtain ⟨library, environment, gateTrace, hrun⟩ := hverified
  obtain ⟨_, _, _, _, _, _, _, -, -, -, -, -, -, _, response, -, -, hchecked,
    -, -⟩ := succeeds_verifyDeployment hrun
  have hsettled := serviceSnapshot_ok hchecked
  constructor
  · apply reported_string hread rfl
    apply plain_of_chars
    intro char hmem
    exact ⟨(taskDefinitionArn_within (Or.inl rfl)).of_mem hsettled.arn char
        hmem,
      (taskDefinitionArn_within (Or.inr rfl)).of_mem hsettled.arn char hmem⟩
  · exact reported_integer hread rfl

/-! ### The stages of a run -/

/-- How far a run has come: something before the registration failed, the
registration failed, or the rollout began. -/
inductive Stages (format : Jq.TextFormat) (invocation : Invocation) :
    Trace → Completion → Prop where
  | blocked {trace : Trace} {code : Nat} (fails : code ≠ 0)
      (quiet : ∀ exchange ∈ trace, Quiet exchange.query) :
      Stages format invocation trace (.exited code)
  | unregistered {gateTrace rest : Trace} {gated : State} {code : Nat}
      (fails : code ≠ 0) (passed : Gated format invocation gateTrace gated)
      (gateQuiet : ∀ exchange ∈ gateTrace, Quiet exchange.query)
      (quiet : ∀ exchange ∈ rest, NoUpdate exchange.query) :
      Stages format invocation (gateTrace ++ rest) (.exited code)
  | rolledOut {gateTrace registerTrace releaseTrace : Trace}
      {gated registered : State} {completion : Completion}
      (passed : Gated format invocation gateTrace gated)
      (gateQuiet : ∀ exchange ∈ gateTrace, Quiet exchange.query)
      (registration : Registered format "inventory"
        (requestedImage invocation gated) gated.previousTask
        registered.nextTask registerTrace)
      (quiet : ∀ exchange ∈ registerTrace, NoUpdate exchange.query)
      (kept : restoring invocation registered = restoring invocation gated)
      (released : RolledOut format invocation registered releaseTrace
        completion) :
      Stages format invocation
        (gateTrace ++ (registerTrace ++ releaseTrace)) completion

theorem gatePhase_exitsFail :
    (block (gatePhase format invocation)).ExitsFail := by
  apply exitsFail_block
  unfold gatePhase setVariable requireDigest
  simp only [List.forall_mem_cons]
  exact ⟨exitsFail_require, exitsFail_require, exitsFail_require,
    exitsFail_require, exitsFail_require, exitsFail_require,
    exitsFail_require, exitsFail_require, exitsFail_require, trivial, trivial,
    trivial, trivial, trivial, trivial, exitsFail_require, trivial,
    exitsFail_require, trivial, ⟨trivial, exitsFail_failure⟩, by simp⟩

theorem registerPhase_exitsFail :
    (block (registerPhase format invocation)).ExitsFail := by
  apply exitsFail_block
  unfold registerPhase
  simp only [List.forall_mem_cons]
  exact ⟨trivial, trivial, trivial, ⟨trivial, exitsFail_failure⟩, trivial,
    trivial, by simp⟩

theorem body_runs
    (hrun : (body format invocation).Runs false state trace completion
      final) :
    Stages format invocation trace completion := by
  unfold body at hrun
  rcases runs_sequence.mp hrun with ⟨code, hgate, rfl⟩ |
    ⟨_, gated, gateTrace, rest, rfl, hgate, hrest⟩
  · exact .blocked (gatePhase_exitsFail.of_runs hgate)
      (gatePhase_quiet.of_runs hgate)
  have hgated := gatePhase_normal hgate
  have hquiet := gatePhase_quiet.of_runs hgate
  rcases runs_sequence.mp hrest with ⟨code, hregister, rfl⟩ |
    ⟨_, registered, registerTrace, releaseTrace, rfl, hregister, hrelease⟩
  · exact .unregistered (registerPhase_exitsFail.of_runs hregister) hgated
      hquiet (registerPhase_noUpdate.of_runs hregister)
  · obtain ⟨hregistered, hframe⟩ := registerPhase_normal hregister
    refine .rolledOut hgated hquiet hregistered
      (registerPhase_noUpdate.of_runs hregister) ?_
      (releasePhase_runs hrelease)
    rw [hframe]
    rfl

/-! ### Safety -/

/-- The promises of the script for one of its runs. -/
structure DeploySafe (format : Jq.TextFormat) (invocation : Invocation)
    (trace : Trace) (status : Nat) : Prop where
  guarded : ∀ before exchange after, trace = before ++ exchange :: after →
    ¬ Quiet exchange.query →
      ∃ report snapshot, GatePassed format invocation report snapshot before
  first : ∀ before exchange after, trace = before ++ exchange :: after →
    ecsCommand exchange.query = some "update-service" →
    issued "update-service" before = [] →
      ∃ (report snapshot next : String) (repositories : Finished),
        GatePassed format invocation report snapshot before ∧
          (⟨.external (repositoriesArguments invocation) [], repositories⟩ :
            Exchange Request Answer) ∈ before ∧
          Registered format "inventory"
            (substituted repositories.stdout ++ "@" ++
              invocation.value "IMAGE_DIGEST")
            (reported format "previous_task" report) next before ∧
          exchange.query.arguments =
            updateArguments invocation next (desiredCount invocation)
  restored : status ≠ 0 → ∀ last,
    (issued "update-service" trace).getLast? = some last →
      ∃ report snapshot, GatePassed format invocation report snapshot trace ∧
        last = updateArguments invocation
          (reported format "previous_task" report)
          (reported format "previous_count" report) ∧
        ∀ verified, GateReport verified →
          format.read report = ⟨[verified.toJson], false⟩ →
            last = updateArguments invocation verified.service.previousTask
              (toString verified.service.previousCount)
  healthy : status = 0 → ∃ (next body : String) (members : Members),
    issued "update-service" trace =
        [updateArguments invocation next (desiredCount invocation)] ∧
      Released format invocation next body trace ∧
      format.read body = ⟨[.object members], false⟩ ∧
      lookup "status" members = some (.string "UP")

/-- Where jq has passed a readiness body, the body is one JSON document at
most and the working directory could be removed. -/
def CleanRelease (format : Jq.TextFormat) (trace : Trace) : Prop :=
  ∀ body, ReadinessPassed format body trace →
    (format.read body).values.length ≤ 1 ∧ Removed trace

/-- One document that jq passes is an object with the status `UP`. -/
theorem isUp_accepts {document : JsonValue}
    (haccepts : Jq.Accepts isUp document) :
    ∃ members, document = .object members ∧
      lookup "status" members = some (.string "UP") := by
  have hchecks := (Jq.accepts_conjunction rfl).mp haccepts
  simp only [List.forall_mem_cons, Except.ok.injEq, equalTo_ok] at hchecks
  obtain ⟨hobject, ⟨found, hfield, hequal⟩, -⟩ := hchecks
  cases document with
  | object members =>
      refine ⟨members, rfl, ?_⟩
      have hfound : (lookup "status" members).getD .null = found :=
        Except.ok.inj hfield
      rw [Jq.equals_string.mp hequal] at hfound
      cases hlookup : lookup "status" members with
      | none =>
          rw [hlookup, Option.getD_none] at hfound
          cases hfound
      | some value =>
          rw [hlookup, Option.getD_some] at hfound
          rw [hfound]
  | _ => cases hobject

theorem cleanRelease_body {body : String} (hclean : CleanRelease format trace)
    (hpassed : ReadinessPassed format body trace) :
    ∃ members, format.read body = ⟨[.object members], false⟩ ∧
      lookup "status" members = some (.string "UP") := by
  obtain ⟨document, hread, haccepts⟩ :=
    Jq.accepts_of_run hpassed.1 (hclean body hpassed).1
  obtain ⟨members, rfl, hstatus⟩ := isUp_accepts haccepts
  exact ⟨members, hread, hstatus⟩

/-- A run that has not reached the rollout has updated nothing. -/
theorem safe_of_unreleased {guard rest : Trace} (hstatus : status ≠ 0)
    (hguard : ∀ exchange ∈ guard, Quiet exchange.query)
    (hrest : ∀ exchange ∈ rest, NoUpdate exchange.query)
    (hpassed : (∀ exchange ∈ rest, Quiet exchange.query) ∨
      ∃ report snapshot,
        GatePassed format invocation report snapshot guard) :
    DeploySafe format invocation (guard ++ rest) status := by
  have hall : ∀ exchange ∈ guard ++ rest, NoUpdate exchange.query := by
    intro exchange hmem
    rcases List.mem_append.mp hmem with hmem | hmem
    · exact (hguard exchange hmem).2
    · exact hrest exchange hmem
  refine ⟨?_, ?_, ?_, fun hzero => absurd hzero hstatus⟩
  · intro before exchange after hsplit hloud
    obtain ⟨middle, rfl⟩ := split_after hguard hloud hsplit
    rcases hpassed with hquiet | ⟨report, snapshot, hpassed⟩
    · rw [List.append_assoc, List.append_cancel_left_eq] at hsplit
      exact absurd (hquiet exchange (by rw [hsplit]; simp)) hloud
    · exact ⟨report, snapshot, hpassed.append middle⟩
  · intro before exchange after hsplit hupdate
    exact absurd hupdate (hall exchange (by rw [hsplit]; simp))
  · intro _ last hlast
    rw [issued_nil_of_noUpdate hall] at hlast
    cases hlast

theorem safe_of_rolledOut {gateTrace registerTrace releaseTrace rest : Trace}
    {gated registered : State}
    (hgated : Gated format invocation gateTrace gated)
    (hgateQuiet : ∀ exchange ∈ gateTrace, Quiet exchange.query)
    (hregistered : Registered format "inventory"
      (requestedImage invocation gated) gated.previousTask
      registered.nextTask registerTrace)
    (hquiet : ∀ exchange ∈ registerTrace, NoUpdate exchange.query)
    (hkept : restoring invocation registered = restoring invocation gated)
    (hreleased : RolledOut format invocation registered releaseTrace
      completion)
    (hrest : ∀ exchange ∈ rest, ecsCommand exchange.query = none)
    (hzero : status = 0 → completion.status = 0)
    (hkeeps : Removed rest → status = completion.status)
    (hclean : CleanRelease format
      (gateTrace ++ (registerTrace ++ releaseTrace) ++ rest)) :
    DeploySafe format invocation
      (gateTrace ++ (registerTrace ++ releaseTrace) ++ rest) status := by
  have hissued : issued "update-service"
      (gateTrace ++ (registerTrace ++ releaseTrace) ++ rest) =
        issued "update-service" releaseTrace := by
    rw [issued_append, issued_append, issued_append,
      issued_nil_of_noUpdate fun exchange hmem => (hgateQuiet exchange hmem).2,
      issued_nil_of_noUpdate hquiet,
      issued_nil_of_noUpdate fun exchange hmem =>
        noUpdate_of_none (hrest exchange hmem), List.nil_append,
      List.nil_append, List.append_nil]
  have hsub : releaseTrace.Sublist
      (gateTrace ++ (registerTrace ++ releaseTrace) ++ rest) := by
    rw [← List.append_assoc, List.append_assoc]
    exact (List.sublist_append_left releaseTrace rest).trans
      (List.sublist_append_right _ _)
  have hshape : ∀ after, gateTrace ++ (registerTrace ++ releaseTrace) ++ after =
      gateTrace ++ (registerTrace ++ (releaseTrace ++ after)) := by
    intro after
    simp only [List.append_assoc]
  refine ⟨?_, ?_, ?_, ?_⟩
  · intro before exchange after hsplit hloud
    rw [hshape] at hsplit
    obtain ⟨middle, rfl⟩ := split_after hgateQuiet hloud hsplit
    exact ⟨_, _, hgated.passed.append middle⟩
  · intro before exchange after hsplit hupdate hnone
    have hfirst := hsplit
    rw [hshape, ← List.append_assoc] at hsplit
    have hearlier : ∀ other ∈ gateTrace ++ registerTrace,
        NoUpdate other.query := by
      intro other hmem
      rcases List.mem_append.mp hmem with hmem | hmem
      · exact (hgateQuiet other hmem).2
      · exact hquiet other hmem
    obtain ⟨middle, rfl⟩ :=
      split_after hearlier (fun hno => hno hupdate) hsplit
    obtain ⟨repositories, hmem, huri⟩ := hgated.repository
    refine ⟨gated.compatibility, gated.service, registered.nextTask,
      repositories, ?_, by simp [hmem], ?_, ?_⟩
    · rw [List.append_assoc]
      exact hgated.passed.append _
    · rw [← huri, ← hgated.previousTask, List.append_assoc]
      exact hregistered.append gateTrace middle
    · have hhead := issued_first hnone hupdate after
      rw [← hfirst, hissued] at hhead
      rcases hreleased with ⟨-, hupdates⟩ | ⟨-, hupdates, -⟩
      · rw [hupdates] at hhead
        exact (Option.some.inj hhead).symm
      · rw [hupdates] at hhead
        exact (Option.some.inj hhead).symm
  · intro hstatus last hlast
    rw [hissued] at hlast
    rcases hreleased with ⟨-, hupdates⟩ | ⟨rfl, -, body, hchain⟩
    · have hlast' : restoring invocation gated = last := by
        rw [hupdates, hkept] at hlast
        exact Option.some.inj hlast
      refine ⟨gated.compatibility, gated.service, ?_, ?_, ?_⟩
      · rw [List.append_assoc]
        exact hgated.passed.append _
      · rw [← hlast', restoring, hgated.previousTask, hgated.previousCount]
      · intro verified hverified hread
        obtain ⟨htask, hcount⟩ := reported_of_gate hverified hread
        rw [← hlast', restoring, hgated.previousTask, hgated.previousCount,
          htask, hcount]
    · obtain ⟨-, hremoved⟩ := hclean body (hchain.mono hsub).passed
      have hzero' := hkeeps fun workDir removed hmem =>
        hremoved workDir removed (List.mem_append_right _ hmem)
      exact absurd hzero' hstatus
  · intro hstatus
    rcases hreleased with ⟨⟨code, rfl, hcode⟩, -⟩ | ⟨-, hupdates, body, hchain⟩
    · exact absurd (hzero hstatus) hcode
    · have hwhole := hchain.mono hsub
      obtain ⟨members, hread, hup⟩ :=
        cleanRelease_body hclean hwhole.passed
      exact ⟨registered.nextTask, body, members,
        by rw [hissued, hupdates, releasing], hwhole, hread, hup⟩

/-- Where jq passes readiness bodies of one document only and the working
directory of a healthy deployment can be removed, every run is safe. -/
theorem deploy_safe (format : Jq.TextFormat) (invocation : Invocation)
    (trace : Trace) (status : Nat)
    (hrun : (deploy format invocation).Runs trace status)
    (hclean : CleanRelease format trace) :
    DeploySafe format invocation trace status := by
  unfold deploy at hrun
  obtain ⟨⟨completion, final⟩, first, rest, rfl, hbody, hcleanup⟩ :=
    (Program.runs_bind _ _ _ _).mp hrun
  obtain ⟨hquiet, hzero, hkeeps⟩ := cleanup_runs hcleanup
  have hnoUpdate : ∀ exchange ∈ rest, NoUpdate exchange.query :=
    fun exchange hmem => noUpdate_of_none (hquiet exchange hmem)
  cases body_runs (runs_iff.mpr hbody) with
  | blocked fails quiet =>
      exact safe_of_unreleased (fun hstatus => fails (hzero hstatus)) quiet
        hnoUpdate (Or.inl fun exchange hmem =>
          quiet_of_none (hquiet exchange hmem))
  | unregistered fails passed gateQuiet quiet =>
      rw [List.append_assoc]
      refine safe_of_unreleased (fun hstatus => fails (hzero hstatus))
        gateQuiet ?_ (Or.inr ⟨_, _, passed.passed⟩)
      intro exchange hmem
      rcases List.mem_append.mp hmem with hmem | hmem
      · exact quiet exchange hmem
      · exact hnoUpdate exchange hmem
  | rolledOut passed gateQuiet registration quiet kept released =>
      exact safe_of_rolledOut passed gateQuiet registration quiet kept
        released hquiet hzero hkeeps hclean

/-! ### Runs of the script

A release of the image that the gate has inspected.  `readiness` is the body
of the readiness answer, and `removal` the status of the last `rm`.
-/

namespace Sample

open ImageVerification.Sample (reference digest task response repository)

def call : Invocation where
  script := "scripts/deploy-ecs.sh"
  environment name :=
    if name = "PUBLIC_BASE_URL" then some "https://inventory.example.com"
    else ImageVerification.Sample.settings name

def nextTask : String :=
  "arn:aws:ecs:us-east-1:123456789012:task-definition/inventory:2"

def report : DeploymentReport where
  candidate :=
    [("image", .string reference), ("image_id", .string (digest 'c')),
      ("platform", .string "linux/amd64"), ("schemaVersion", .integer 1),
      ("service", .string "inventory-cloud-service"),
      ("capabilities",
        .array (ReleaseContract.requiredCapabilities.map .string)),
      ("contract_sha256", .string
        ("c3576d7ca0136f147cb05e898bed9924" ++
          "4f851b5f80dac0f1d85c196277d4bb43"))]
  service := ⟨task, 0, 0, 0, "ecs-svc/original"⟩
  rollbackBaseline := none
  bootstrapWithoutRunningBaseline := true

def container (name image : String) : JsonValue :=
  .object [("name", .string name), ("image", .string image)]

def definition : JsonValue :=
  .object [("taskDefinitionArn", .string task), ("revision", .integer 1),
    ("status", .string "ACTIVE"), ("family", .string "inventory"),
    ("containerDefinitions", .array
      [container "inventory" (repository ++ "@" ++ digest 'b'),
        container "sidecar" "unchanged"])]

def healthState (status : String) : JsonValue :=
  .object [("status", .string status)]

def up : String := "\x7b\"status\":\"UP\"\x7d"

/-- A stream of two documents, of which the last is healthy. -/
def downThenUp : String :=
  "\x7b\"status\":\"DOWN\"\x7d" ++ up

def line (value : JsonValue) : String := Jq.layout "" value ++ "\n"

/-- The texts of these runs; `streams` are more readiness bodies. -/
def texts (streams : List (String × List JsonValue)) : Jq.TextFormat :=
  .ofTexts ([(line report.toJson, [report.toJson]),
    (line response, [response]), (line definition, [definition]),
    (up, [healthState "UP"])] ++ streams)

/-- The readiness bodies of two documents. -/
def twice : List (String × List JsonValue) :=
  [(downThenUp, [healthState "DOWN", healthState "UP"])]

/-- What the commands print. -/
def output : List String → String
  | "mktemp" :: _ => "/tmp/release\n"
  | "dirname" :: _ => "scripts\n"
  | "python3" :: _ => line report.toJson
  | "aws" :: "ecr" :: "describe-repositories" :: _ => repository ++ "\n"
  | "aws" :: "ecs" :: "describe-task-definition" :: _ => line definition
  | "aws" :: "ecs" :: "register-task-definition" :: _ => nextTask ++ "\n"
  | "aws" :: "ecs" :: "describe-services" :: _ :: _ :: _ :: _ :: "--query" ::
      _ => nextTask ++ "\n"
  | "aws" :: "ecs" :: "describe-services" :: _ => line response
  | "curl" :: _ => "200"
  | _ => ""

def finished (readiness : String) (removal : Nat) (arguments : List String) :
    Finished :=
  ⟨if arguments.head? = some "rm" then removal else 0, output arguments,
    if arguments.head? = some "curl" then readiness else ""⟩

def oracle (readiness : String) (removal : Nat) :
    (request : Request) → Answer request
  | .echo _ => ⟨⟩
  | .external arguments _ => finished readiness removal arguments
  | .jq _ _ => none

def exchanges (streams : List (String × List JsonValue)) (readiness : String)
    (removal : Nat) : Trace :=
  (deploy (texts streams) call).transcript (oracle readiness removal)

/-- The exit status of the run and its updates. -/
def ended (streams : List (String × List JsonValue)) (readiness : String)
    (removal : Nat) : Nat × List (List String) :=
  ((deploy (texts streams) call).eval (oracle readiness removal),
    issued "update-service" (exchanges streams readiness removal))

section Ends

variable {streams : List (String × List JsonValue)} {readiness : String}
  {removal : Nat}

theorem runs {status : Nat} {updates : List (List String)}
    (hended : ended streams readiness removal = (status, updates)) :
    (deploy (texts streams) call).Runs (exchanges streams readiness removal)
        status ∧
      issued "update-service" (exchanges streams readiness removal) =
        updates := by
  unfold ended at hended
  rw [Prod.mk.injEq] at hended
  obtain ⟨rfl, rfl⟩ := hended
  exact ⟨Program.runs_transcript _ _, rfl⟩

theorem answered {arguments inputs : List String} {done : Finished}
    (hmem : (⟨.external arguments inputs, done⟩ : Exchange Request Answer) ∈
      exchanges streams readiness removal) :
    done = finished readiness removal arguments :=
  Program.transcript_answer _ _ hmem

end Ends

theorem released_ended :
    ended [] up 0 = (0, [updateArguments call nextTask "1"]) := by
  decide +kernel

theorem unready_ended :
    ended twice downThenUp 0 =
      (0, [updateArguments call nextTask "1"]) := by
  decide +kernel

theorem unremoved_ended :
    ended [] up 1 = (1, [updateArguments call nextTask "1"]) := by
  decide +kernel

theorem reported_task :
    reported (texts []) "previous_task" (line report.toJson) = task := by
  decide +kernel

end Sample

/-- The script leaves a release in place that is not healthy, as the last of
two documents is; and it fails and leaves the new release in place when only
the removal of its working directory has failed. -/
theorem deploy_unsafe :
    (∃ format invocation trace,
      (deploy format invocation).Runs trace 0 ∧
        ¬ DeploySafe format invocation trace 0) ∧
      ∃ format invocation trace,
        (deploy format invocation).Runs trace 1 ∧
          ¬ DeploySafe format invocation trace 1 := by
  constructor
  · obtain ⟨hrun, -⟩ := Sample.runs Sample.unready_ended
    refine ⟨_, _, _, hrun, fun hsafe => ?_⟩
    obtain ⟨_, body, members, -, hreleased, hread, -⟩ := hsafe.healthy rfl
    obtain ⟨curled, releaseDir, rfl, hmem⟩ := hreleased.answered
    rw [Sample.answered hmem] at hread
    have hcount : ((Sample.texts Sample.twice).read
        Sample.downThenUp).values.length = 2 := by decide +kernel
    have hone : 2 = 1 :=
      hcount.symm.trans (congrArg (fun read => read.values.length) hread)
    cases hone
  · obtain ⟨hrun, hissued⟩ := Sample.runs Sample.unremoved_ended
    refine ⟨_, _, _, hrun, fun hsafe => ?_⟩
    obtain ⟨report, snapshot, hpassed, hlast, -⟩ :=
      hsafe.restored (by decide) _ (by rw [hissued]; rfl)
    obtain ⟨-, directory, _, _, gate, _, -, hreport, -, -, hchain⟩ := hpassed
    have hgate := Sample.answered (hchain.subset List.mem_cons_self)
    have htext : report = Sample.line Sample.report.toJson := by
      rw [← hreport, hgate]
      rfl
    rw [htext, Sample.reported_task] at hlast
    simp only [updateArguments, List.getLast_singleton, List.cons.injEq]
      at hlast
    obtain ⟨-, -, -, -, -, -, -, -, htasks, -⟩ := hlast
    exact absurd htasks (by decide)

theorem deploy_safe_sample :
    DeploySafe (Sample.texts []) Sample.call
      (Sample.exchanges [] Sample.up 0) 0 := by
  obtain ⟨hrun, -⟩ := Sample.runs Sample.released_ended
  apply deploy_safe _ _ _ _ hrun
  intro body hpassed
  constructor
  · exact Jq.TextFormat.ofTexts_single (by decide) body
  · intro workDir removed hmem
    rw [Sample.answered hmem]
    rfl

end DeployScript

end InventoryCloud
