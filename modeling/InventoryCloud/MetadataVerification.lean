import InventoryCloud.AcceptedConfigs
import InventoryCloud.CertificateVerdicts

/-!
# Verification of the metadata

A run of `validate_aws` reports a check for every read exactly if each read
raised or was answered by a response which its check handles.
-/

namespace InventoryCloud

namespace CloudPreflight

open Interaction JsonValue Python
open SecurityReports (IsArray IsObject IsText ArrayOf MemberIs EachItem
  HasLength)

abbrev MetadataTrace :=
  List (Exchange MetadataRequest fun _ => Reading)

/-! ### What a run reports -/

/-- A read that raised, or a response of another shape than expected, fails
the check. -/
def Reported (check : MetadataCheck) (answer : Reading)
    (reported : CheckResult) : Prop :=
  reported.check = check.name ∧
    ((∀ response, answer = .ok response → ¬ Expected check response) →
      reported.status = .fail)

/-- The checks made their reads one after another, and each reported. -/
def Reports (settings : Members) :
    List MetadataCheck → MetadataTrace → List CheckResult → Prop
  | [], [], [] => True
  | check :: checks, exchange :: trace, reported :: results =>
      exchange.query = check.request settings ∧
        Reported check exchange.answer reported ∧
        Reports settings checks trace results
  | _, _, _ => False

/-- The verification returns its checks: only that of the account if it fails,
and otherwise every check. -/
def Verified (settings : Members) (trace : MetadataTrace)
    (outcome : Except Raised (List CheckResult)) : Prop :=
  ∃ exchange rest account results, trace = exchange :: rest ∧
    outcome = .ok (account :: results) ∧
    exchange.query = MetadataCheck.awsAccountAccess.request settings ∧
    Reported .awsAccountAccess exchange.answer account ∧
    (account.status = .fail → rest = [] ∧ results = []) ∧
    (account.status = .pass →
      Reports settings (laterChecks settings) rest results)

section

variable (surroundings : Surroundings) (settings : Members)

/-- The read raised, or its response is handled. -/
def AnswerHandled (check : MetadataCheck) (answer : Reading) : Prop :=
  ∀ response, answer = .ok response →
    Handled surroundings settings check response

variable {surroundings settings}

theorem raised_caught (error : ReadError) :
    isCaught error.raised = true := by
  cases error <;> rfl

/-! ### One check -/

theorem report_closed {check : MetadataCheck} {answer : Reading} :
    (∃ reported, report check (callback surroundings settings check answer) =
        .ok reported ∧ Reported check answer reported) ↔
      AnswerHandled surroundings settings check answer := by
  cases answer with
  | error error =>
      have hreport : report check (callback surroundings settings check
          (.error error)) = .ok (result check.name false unverified) :=
        if_pos (raised_caught error)
      exact iff_of_true ⟨_, hreport, rfl, fun _ => rfl⟩
        (by simp [AnswerHandled])
  | ok response =>
      have hcallback : callback surroundings settings check (.ok response) =
          check.verdict surroundings settings response := rfl
      have hhandled : AnswerHandled surroundings settings check (.ok response) ↔
          Handled surroundings settings check response := by
        simp [AnswerHandled]
      rw [hcallback, hhandled, ← verdict_closed]
      cases hverdict : check.verdict surroundings settings response with
      | error error =>
          rw [failsClosed_error, report]
          cases hcaught : isCaught error with
          | true => exact iff_of_true ⟨_, rfl, rfl, fun _ => rfl⟩ rfl
          | false => simp
      | ok passed =>
          rw [failsClosed_ok, report]
          cases passed with
          | true => simp [Reported, result]
          | false => simp [Reported, result]

/-- A check makes its read; what follows it runs if it reports, and otherwise
its exception ends the run. -/
theorem runCheck_bind_runs {α : Type} {check : MetadataCheck}
    {next : CheckResult → MetadataScript α} {trace : MetadataTrace}
    {outcome : Except Raised α} :
    (runCheck surroundings settings check >>= next).run.Runs trace outcome ↔
      ∃ answer rest, trace = ⟨check.request settings, answer⟩ :: rest ∧
        ((∃ reported,
            report check (callback surroundings settings check answer) =
              .ok reported ∧ (next reported).run.Runs rest outcome) ∨
          ∃ error,
            report check (callback surroundings settings check answer) =
              .error error ∧ rest = [] ∧ outcome = .error error) := by
  have hstep : ∀ answer rest,
      (Fallible.step (report check (callback surroundings settings check
          answer)) >>= next : MetadataScript α).run.Runs rest outcome ↔
        ((∃ reported,
            report check (callback surroundings settings check answer) =
              .ok reported ∧ (next reported).run.Runs rest outcome) ∨
          ∃ error,
            report check (callback surroundings settings check answer) =
              .error error ∧ rest = [] ∧ outcome = .error error) := by
    intro answer rest
    cases report check (callback surroundings settings check answer) with
    | ok reported =>
        constructor
        · intro hrest
          exact Or.inl ⟨reported, rfl, hrest⟩
        · rintro (⟨other, hsame, hrest⟩ | ⟨error, hsame, -⟩)
          · cases hsame
            exact hrest
          · cases hsame
    | error error =>
        constructor
        · intro hrest
          exact Or.inr ⟨error, rfl, hrest.1, hrest.2⟩
        · rintro (⟨other, hsame, -⟩ | ⟨other, hsame, hrest⟩)
          · cases hsame
          · cases hsame
            exact hrest
  constructor
  · rintro ⟨answer, rest, rfl, hrest⟩
    exact ⟨answer, rest, rfl, (hstep answer rest).mp hrest⟩
  · rintro ⟨answer, rest, rfl, hends⟩
    exact ⟨answer, rest, rfl, (hstep answer rest).mpr hends⟩

/-! ### The checks in order -/

theorem runChecks_closed {checks : List MetadataCheck} {trace : MetadataTrace}
    {outcome : Except Raised (List CheckResult)}
    (hrun : (runChecks surroundings settings checks).run.Runs trace outcome) :
    (∃ results, outcome = .ok results ∧
        Reports settings checks trace results) ↔
      ∀ pair ∈ checks.zip trace,
        AnswerHandled surroundings settings pair.1 pair.2.answer := by
  induction checks generalizing trace outcome with
  | nil =>
      obtain ⟨rfl, rfl⟩ := hrun
      exact iff_of_true ⟨[], rfl, trivial⟩ (by simp)
  | cons check checks ih =>
      obtain ⟨answer, rest, rfl, ⟨reported, hreport, hrest⟩ |
        ⟨error, hreport, rfl, rfl⟩⟩ := runCheck_bind_runs.mp hrun
      · rw [ExceptT.run_bind, Program.runs_bind] at hrest
        obtain ⟨ended, first, last, rfl, hfirst, hlast⟩ := hrest
        have hreported := @report_closed surroundings settings check answer
        rw [hreport] at hreported
        rw [List.zip_cons_cons, List.forall_mem_cons]
        cases ended with
        | ok others =>
            obtain ⟨rfl, rfl⟩ := hlast
            rw [List.append_nil, ← ih hfirst, ← hreported]
            simp [Reports]
        | error error =>
            obtain ⟨rfl, rfl⟩ := hlast
            rw [List.append_nil, ← ih hfirst]
            simp
      · rw [List.zip_cons_cons, List.zip_nil_right, List.forall_mem_singleton,
          ← report_closed, hreport]
        simp

/-- The reads of these checks, with their answers. -/
def exchanged (settings : Members) (answers : MetadataCheck → Reading)
    (checks : List MetadataCheck) : MetadataTrace :=
  checks.map fun check => ⟨check.request settings, answers check⟩

/-- Where every answer is handled, the checks all report. -/
theorem runs_runChecks {answers : MetadataCheck → Reading}
    (hhandled : ∀ check,
      AnswerHandled surroundings settings check (answers check))
    (checks : List MetadataCheck) :
    ∃ results, (runChecks surroundings settings checks).run.Runs
      (exchanged settings answers checks) (.ok results) := by
  induction checks with
  | nil => exact ⟨[], rfl, rfl⟩
  | cons check rest ih =>
      obtain ⟨results, hrest⟩ := ih
      obtain ⟨reported, hreport, -⟩ := report_closed.mpr (hhandled check)
      refine ⟨reported :: results, runCheck_bind_runs.mpr
        ⟨answers check, exchanged settings answers rest, rfl, Or.inl
          ⟨reported, hreport, ?_⟩⟩⟩
      rw [ExceptT.run_bind, Program.runs_bind]
      exact ⟨.ok results, _, [], (List.append_nil _).symm, hrest, rfl, rfl⟩

/-- The check of the account handles every answer. -/
theorem account_reported (answer : Reading) :
    ∃ account, report .awsAccountAccess
        (callback surroundings settings .awsAccountAccess answer) =
          .ok account ∧ Reported .awsAccountAccess answer account :=
  report_closed.mpr fun _ _ => trivial

/-- For an accepted configuration the verification fails closed exactly in the
runs in which every response is handled. -/
theorem metadata_fails_closed_iff (surroundings : Surroundings)
    (settings : Members)
    (_haccepted : Accepts surroundings.urls (.object settings))
    (trace : MetadataTrace) (outcome : Except Raised (List CheckResult))
    (hrun : (validateAws surroundings settings).run.Runs trace outcome) :
    Verified settings trace outcome ↔
      ∀ pair ∈ (MetadataCheck.awsAccountAccess :: laterChecks settings).zip
          trace,
        AnswerHandled surroundings settings pair.1 pair.2.answer := by
  obtain ⟨answer, rest, rfl, hends⟩ := runCheck_bind_runs.mp hrun
  obtain ⟨account, hreport, hreported⟩ :=
    @account_reported surroundings settings answer
  have hhandled : AnswerHandled surroundings settings .awsAccountAccess
      answer := fun _ _ => trivial
  rw [List.zip_cons_cons, List.forall_mem_cons, and_iff_right hhandled]
  rcases hends with ⟨other, hother, hrest⟩ | ⟨error, herror, -⟩
  · obtain rfl : account = other := Except.ok.inj (hreport.symm.trans hother)
    cases hstatus : account.status with
    | fail =>
        rw [if_pos (by rw [hstatus]; rfl)] at hrest
        obtain ⟨rfl, rfl⟩ := hrest
        refine iff_of_true ?_ (by simp)
        exact ⟨_, [], account, [], rfl, rfl, rfl, hreported,
          fun _ => ⟨rfl, rfl⟩, fun hpass => by simp [hstatus] at hpass⟩
    | pass =>
        rw [if_neg (by rw [hstatus]; decide), ExceptT.run_bind,
          Program.runs_bind] at hrest
        obtain ⟨ended, first, last, rfl, hfirst, hlast⟩ := hrest
        cases ended with
        | ok others =>
            obtain ⟨rfl, rfl⟩ := hlast
            rw [List.append_nil, ← runChecks_closed hfirst]
            constructor
            · rintro ⟨exchange, later, found, results, htrace, houtcome, -, -,
                -, hreports⟩
              cases htrace
              cases houtcome
              exact ⟨others, rfl, hreports hstatus⟩
            · rintro ⟨results, hresults, hreports⟩
              cases hresults
              exact ⟨_, first, account, others, rfl, rfl, rfl, hreported,
                fun hfail => by simp [hstatus] at hfail, fun _ => hreports⟩
        | error error =>
            obtain ⟨rfl, rfl⟩ := hlast
            rw [List.append_nil, ← runChecks_closed hfirst]
            refine iff_of_false ?_ ?_
            · rintro ⟨_, _, _, _, _, houtcome, _⟩
              cases houtcome
            · rintro ⟨_, houtcome, -⟩
              cases houtcome
  · rw [hreport] at herror
    cases herror

end

/-! ### A verification -/

namespace Sample

def surroundings : Surroundings where
  urls := asciiLibrary
  timestamp := fun _ => none
  now := 1790000000

def settings : Members :=
  config "inventory.acme.test" "https://identity.acme.test/tenant"

/-- Most resources are as they must be.  The public access block has a text
for a truth value, the availability zones are `null`, and the encryption of
the bucket cannot be read. -/
def answers : MetadataCheck → Reading
  | .awsAccountAccess => .ok (.object [("Account", .string "123456789012")])
  | .ecrImmutableRepository => .ok (.object [("repositories", .array
      [.object [("imageTagMutability", .string "IMMUTABLE")]])])
  | .ecrImageExists => .ok (.object [("imageDetails", .array
      [.object [("imageDigest", .string
        "sha256:aaaaaaaaaaaaaaaaaaaaaaaaaaaaaaaaaaaaaaaaaaaaaaaaaaaaaaaaaaaaaaaa")]])])
  | .acmCertificateReady => .ok (.object [("Certificate", .object
      [("SubjectAlternativeNames", .array
          [.string "acme.test", .string "*.acme.test"]),
        ("NotAfter", .integer 1800000000), ("Status", .string "ISSUED")])])
  | .runtimeSecretMetadata => .ok (.object [("VersionIdsToStages", .object
      [("v1", .array [.string "AWSPREVIOUS"]),
        ("v2", .array [.string "AWSCURRENT"])])])
  | .stateBucketVersioning => .ok (.object [("Status", .string "Enabled")])
  | .stateBucketPublicAccess => .ok (.object
      [("PublicAccessBlockConfiguration", .object
        [("BlockPublicAcls", .bool true), ("IgnorePublicAcls", .bool true),
          ("BlockPublicPolicy", .string "true"),
          ("RestrictPublicBuckets", .bool true)])])
  | .stateBucketEncryption => .error .runtimeError
  | .twoAvailabilityZones => .ok (.object [("AvailabilityZones", .null)])
  | .githubOidcProvider => .ok (.object
      [("Url", .string "https://token.actions.githubusercontent.com"),
        ("ClientIDList", .array [.string "sts.amazonaws.com"])])

theorem answers_handled (check : MetadataCheck) :
    AnswerHandled surroundings settings check (answers check) := by
  rintro response hresponse
  cases check <;> cases hresponse
  case runtimeSecretMetadata =>
    simp only [Handled, StagesHandled, SecretShaped]
    refine ⟨_, rfl, ?_⟩
    rintro versions ⟨⟩
    refine ⟨_, rfl, fun _ _ => ⟨⟨_, rfl, ?_⟩, ?_⟩⟩
    · rintro versions ⟨⟩
      refine ⟨_, rfl, ?_⟩
      simp [names, lookup_cons, ArrayOf, IsText]
    · simp [MemberIs, lookup_cons]
  all_goals simp [Handled, MemberIs, StartsWith, HasMember, ArrayOf, IsText,
    IsObject, EachItem, DetailsHandled, DetailShaped, RepositoryShaped,
    NamesHandled, IsMoment, HasTwo, ClientsHandled, lookup_cons]

/-- The answers to all ten reads. -/
def trace : MetadataTrace :=
  exchanged settings answers (.awsAccountAccess :: laterChecks settings)

/-- The account is the expected one, so all ten checks report. -/
theorem runs_trace :
    ∃ results, (validateAws surroundings settings).run.Runs trace
      (.ok results) := by
  obtain ⟨results, hlater⟩ := runs_runChecks answers_handled
    (laterChecks settings)
  refine ⟨result "aws_account_access" true
    MetadataCheck.awsAccountAccess.detail :: results,
    runCheck_bind_runs.mpr ⟨_, _, rfl, Or.inl ⟨_, rfl, ?_⟩⟩⟩
  rw [if_neg (by decide), ExceptT.run_bind, Program.runs_bind]
  exact ⟨.ok results, _, [], (List.append_nil _).symm, hlater, rfl, rfl⟩

end Sample

theorem metadata_fails_closed_iff_sample :
    ∃ results, (validateAws Sample.surroundings Sample.settings).run.Runs
        Sample.trace (.ok results) ∧
      Verified Sample.settings Sample.trace (.ok results) := by
  obtain ⟨results, hrun⟩ := Sample.runs_trace
  refine ⟨results, hrun, (metadata_fails_closed_iff Sample.surroundings
    Sample.settings Sample.config_accepted _ _ hrun).mpr ?_⟩
  intro pair hpair
  rw [Sample.trace, exchanged, ← List.map_prod_left_eq_zip, List.mem_map]
    at hpair
  obtain ⟨check, -, rfl⟩ := hpair
  exact Sample.answers_handled check

/-- The description of the image is `null`. -/
theorem null_response_ends_verification :
    ¬ ∀ surroundings settings trace outcome,
      Accepts surroundings.urls (.object settings) →
        (validateAws surroundings settings).run.Runs trace outcome →
          Verified settings trace outcome := by
  intro hclaim
  have hrun : (validateAws Sample.surroundings Sample.settings).run.Runs
      [⟨MetadataCheck.awsAccountAccess.request Sample.settings,
          .ok (.object [("Account", .string "123456789012")])⟩,
        ⟨MetadataCheck.ecrImmutableRepository.request Sample.settings,
          .error .osError⟩,
        ⟨MetadataCheck.ecrImageExists.request Sample.settings, .ok .null⟩]
      (.error .attributeError) := by
    refine runCheck_bind_runs.mpr ⟨_, _, rfl, Or.inl
      ⟨result "aws_account_access" true _, rfl, ?_⟩⟩
    rw [if_neg (by decide), ExceptT.run_bind, Program.runs_bind]
    refine ⟨.error .attributeError, _, [], (List.append_nil _).symm, ?_, rfl,
      rfl⟩
    refine runCheck_bind_runs.mpr ⟨_, _, rfl, Or.inl ⟨_, rfl, ?_⟩⟩
    rw [ExceptT.run_bind, Program.runs_bind]
    refine ⟨.error .attributeError, _, [], (List.append_nil _).symm, ?_, rfl,
      rfl⟩
    exact runCheck_bind_runs.mpr ⟨_, _, rfl, Or.inr ⟨_, rfl, rfl, rfl⟩⟩
  obtain ⟨_, _, _, _, _, houtcome, _⟩ :=
    hclaim Sample.surroundings Sample.settings _ _ Sample.config_accepted hrun
  cases houtcome

end CloudPreflight

end InventoryCloud
