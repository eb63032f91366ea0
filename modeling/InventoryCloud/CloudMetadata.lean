import InventoryCloud.CloudPreflight
import InventoryCloud.GlobPatterns
import InventoryCloud.ProgramTraces

/-!
# The metadata checks of the cloud preflight

`validate_aws`: every check reads one piece of metadata and passes a verdict on
it.  A read is a query, answered by any JSON value or by an exception.  The
settings are those of a configuration which `validate_config` has accepted.
-/

namespace InventoryCloud

namespace CloudPreflight

open Interaction JsonValue Python

/-! ### Reading -/

/-- What `AwsMetadata.read` may raise. -/
inductive ReadError where
  | osError
  | valueError
  | runtimeError
  | timeoutExpired

/-- The exceptions among these which no operator of the language raises. -/
inductive ReadFailure where
  | runtimeError
  | timeoutExpired

abbrev Raised := PythonError ReadFailure

def ReadError.raised : ReadError → Raised
  | .osError => .osError
  | .valueError => .valueError
  | .runtimeError => .own .runtimeError
  | .timeoutExpired => .own .timeoutExpired

structure MetadataRequest where
  service : String
  operation : String
  arguments : List String

abbrev Reading := Except ReadError JsonValue

abbrev MetadataScript :=
  Fallible Raised MetadataRequest fun _ => Reading

/-- What the checks take from the interpreter and from the clock. -/
structure Surroundings where
  urls : UrlLibrary
  /-- `fromisoformat(text).timestamp()`; `none` for its `ValueError`. -/
  timestamp : String → Option Rat
  /-- `datetime.now(utc).timestamp()` -/
  now : Rat

/-! ### The verdicts -/

def equalsText (text : String) (value : JsonValue) : Bool :=
  decide (value = .string text)

/-- `all(test(item) for item in items)` -/
def allOf {α : Type} (test : α → Except Raised Bool) :
    List α → Except Raised Bool
  | [] => .ok true
  | item :: rest => do
      let passed ← test item
      if passed then allOf test rest else .ok false

def accountMatches (account : String) (response : JsonValue) :
    Except Raised Bool := do
  let found ← subscript "Account" response
  pure (equalsText account found)

def repositoryImmutable (response : JsonValue) : Except Raised Bool := do
  let repositories ← subscript "repositories" response
  let repository ← item 0 repositories
  let mutability ← subscript "imageTagMutability" repository
  pure (equalsText "IMMUTABLE" mutability)

def hasDigest (digest : String) (detail : JsonValue) : Except Raised Bool := do
  let found ← getOr "imageDigest" .null detail
  pure (equalsText digest found)

def imageExists (digest : String) (response : JsonValue) :
    Except Raised Bool := do
  let details ← getOr "imageDetails" (.array []) response
  let items ← iterate details
  anyOf (hasDigest digest) items

/-- The match of one name with a host name in lower case. -/
def nameMatches (library : UrlLibrary) (hostname name : List Char) : Bool :=
  hostname == library.lower name ||
    (decide ("*.".toList <+: name) && hostname.count '.' == name.count '.' &&
      fnmatchcase hostname (library.lower name))

def matchesName (library : UrlLibrary) (hostname : List Char) :
    JsonValue → Except Raised Bool
  | .string name => .ok (nameMatches library hostname name.toList)
  | _ => .error .attributeError

/-- `any(… for n in names)` for the lower case of the host name. -/
def certificateMatches (library : UrlLibrary) (hostname : String)
    (names : List JsonValue) : Except Raised Bool :=
  anyOf (matchesName library (library.lower hostname.toList)) names

/-- `text.replace('Z', '+00:00')` -/
def replaceZulu (text : String) : String :=
  String.ofList (text.toList.flatMap fun char =>
    if char = 'Z' then "+00:00".toList else [char])

/-- The expiry as a number, if it is a text. -/
def expiry (surroundings : Surroundings) :
    JsonValue → Except Raised JsonValue
  | .string text =>
      match surroundings.timestamp (replaceZulu text) with
      | some moment => .ok (.decimal moment)
      | none => .error .valueError
  | value => .ok value

/-- `value > moment`, where `True` and `False` are the numbers 1 and 0. -/
def laterThan (moment : Rat) : JsonValue → Except Raised Bool
  | .bool value => .ok (decide (moment < if value then 1 else 0))
  | .integer value => .ok (decide (moment < value))
  | .decimal value => .ok (decide (moment < value))
  | .nonFinite name => .ok (name == .infinity)
  | _ => .error .typeError

def certificateReady (surroundings : Surroundings) (hostname : String)
    (response : JsonValue) : Except Raised Bool := do
  let certificate ← subscript "Certificate" response
  let names ← getOr "SubjectAlternativeNames" (.array []) certificate
  let items ← iterate names
  let matched ← certificateMatches surroundings.urls hostname items
  let notAfter ← getOr "NotAfter" (.integer 0) certificate
  let expires ← expiry surroundings notAfter
  let status ← getOr "Status" .null certificate
  if equalsText "ISSUED" status then do
    let later ← laterThan surroundings.now expires
    pure (later && matched)
  else pure false

/-- `value in (None, '', 'alias/aws/secretsmanager')` -/
def isDefaultKey : JsonValue → Bool
  | .null => true
  | .string text => text == "" || text == "alias/aws/secretsmanager"
  | _ => false

def secretReady (response : JsonValue) : Except Raised Bool := do
  let versions ← getOr "VersionIdsToStages" (.object []) response
  let stages ← values versions
  let current ← anyOf (isIn "AWSCURRENT") stages
  let deleted ← getOr "DeletedDate" .null response
  let key ← getOr "KmsKeyId" .null response
  pure (!truthy deleted && isDefaultKey key && current)

def versioningEnabled (response : JsonValue) : Except Raised Bool := do
  let status ← getOr "Status" .null response
  pure (equalsText "Enabled" status)

def publicAccessSettings : List String :=
  ["BlockPublicAcls", "IgnorePublicAcls", "BlockPublicPolicy",
    "RestrictPublicBuckets"]

/-- `value is True` -/
def isTrue : JsonValue → Bool
  | .bool value => value
  | _ => false

def bucketPrivate (response : JsonValue) : Except Raised Bool := do
  let protection ← subscript "PublicAccessBlockConfiguration" response
  allOf (fun setting => do
    let value ← getOr setting .null protection
    pure (isTrue value)) publicAccessSettings

def bucketEncrypted (response : JsonValue) : Except Raised Bool := do
  let configuration ← subscript "ServerSideEncryptionConfiguration" response
  let rules ← subscript "Rules" configuration
  pure (truthy rules)

def twoZones (response : JsonValue) : Except Raised Bool := do
  let zones ← subscript "AvailabilityZones" response
  let count ← len zones
  pure (decide (2 ≤ count))

/-- `value.removeprefix(start)` -/
def withoutPrefix (start : String) : JsonValue → Except Raised (List Char)
  | .string text => .ok (removePrefix start text)
  | _ => .error .attributeError

def providerReady (response : JsonValue) : Except Raised Bool := do
  let url ← getOr "Url" (.string "") response
  let host ← withoutPrefix "https://" url
  if host == "token.actions.githubusercontent.com".toList then do
    let audiences ← getOr "ClientIDList" (.array []) response
    isIn "sts.amazonaws.com" audiences
  else pure false

/-! ### The checks -/

inductive MetadataCheck where
  | awsAccountAccess
  | ecrImmutableRepository
  | ecrImageExists
  | acmCertificateReady
  | runtimeSecretMetadata
  | stateBucketVersioning
  | stateBucketPublicAccess
  | stateBucketEncryption
  | twoAvailabilityZones
  | githubOidcProvider
  deriving DecidableEq

/-- The repository and the digest of an image: the groups of `IMAGE_PATTERN`
after the first slash. -/
def imageGroups (image : String) : String × String :=
  let (_, _, path) := Delimited.partition '/' image.toList
  let (repository, _, digest) := Delimited.partition '@' path
  (String.ofList repository, String.ofList digest)

namespace MetadataCheck

def name : MetadataCheck → String
  | awsAccountAccess => "aws_account_access"
  | ecrImmutableRepository => "ecr_immutable_repository"
  | ecrImageExists => "ecr_image_exists"
  | acmCertificateReady => "acm_certificate_ready"
  | runtimeSecretMetadata => "runtime_secret_metadata"
  | stateBucketVersioning => "state_bucket_versioning"
  | stateBucketPublicAccess => "state_bucket_public_access"
  | stateBucketEncryption => "state_bucket_encryption"
  | twoAvailabilityZones => "two_availability_zones"
  | githubOidcProvider => "github_oidc_provider"

def detail : MetadataCheck → String
  | awsAccountAccess =>
      "The active AWS session must match the explicitly expected account."
  | ecrImmutableRepository =>
      "The destination ECR repository must use immutable tags."
  | ecrImageExists => "The supplied image digest must already exist in ECR."
  | acmCertificateReady =>
      "The certificate must be issued, unexpired, and cover the public hostname."
  | runtimeSecretMetadata =>
      "The runtime secret must have a current version, no pending deletion, and the default Secrets Manager key. Its password content is intentionally not read."
  | stateBucketVersioning => "Terraform state versioning must be enabled."
  | stateBucketPublicAccess =>
      "All four S3 public-access protections must be enabled."
  | stateBucketEncryption =>
      "State bucket default encryption must be configured."
  | twoAvailabilityZones =>
      "At least two available zones are required for the application and database subnets."
  | githubOidcProvider =>
      "The GitHub OIDC provider must have the expected URL and STS audience."

def request (members : Members) : MetadataCheck → MetadataRequest
  | awsAccountAccess => ⟨"sts", "get-caller-identity", []⟩
  | ecrImmutableRepository => ⟨"ecr", "describe-repositories",
      ["--repository-names",
        (imageGroups (textAt members "container_image")).1]⟩
  | ecrImageExists => ⟨"ecr", "describe-images",
      ["--repository-name",
        (imageGroups (textAt members "container_image")).1, "--image-ids",
        "imageDigest=" ++
          (imageGroups (textAt members "container_image")).2]⟩
  | acmCertificateReady => ⟨"acm", "describe-certificate",
      ["--certificate-arn", textAt members "certificate_arn"]⟩
  | runtimeSecretMetadata => ⟨"secretsmanager", "describe-secret",
      ["--secret-id", textAt members "runtime_database_secret_arn"]⟩
  | stateBucketVersioning => ⟨"s3api", "get-bucket-versioning",
      ["--bucket", textAt members "state_bucket_name",
        "--expected-bucket-owner", textAt members "aws_account_id"]⟩
  | stateBucketPublicAccess => ⟨"s3api", "get-public-access-block",
      ["--bucket", textAt members "state_bucket_name",
        "--expected-bucket-owner", textAt members "aws_account_id"]⟩
  | stateBucketEncryption => ⟨"s3api", "get-bucket-encryption",
      ["--bucket", textAt members "state_bucket_name",
        "--expected-bucket-owner", textAt members "aws_account_id"]⟩
  | twoAvailabilityZones => ⟨"ec2", "describe-availability-zones",
      ["--filters", "Name=state,Values=available"]⟩
  | githubOidcProvider => ⟨"iam", "get-open-id-connect-provider",
      ["--open-id-connect-provider-arn",
        textAt members "github_oidc_provider_arn"]⟩

/-- The part of the callback after its read. -/
def verdict (surroundings : Surroundings) (members : Members) :
    MetadataCheck → JsonValue → Except Raised Bool
  | awsAccountAccess => accountMatches (textAt members "aws_account_id")
  | ecrImmutableRepository => repositoryImmutable
  | ecrImageExists =>
      imageExists (imageGroups (textAt members "container_image")).2
  | acmCertificateReady =>
      certificateReady surroundings (textAt members "public_hostname")
  | runtimeSecretMetadata => secretReady
  | stateBucketVersioning => versioningEnabled
  | stateBucketPublicAccess => bucketPrivate
  | stateBucketEncryption => bucketEncrypted
  | twoAvailabilityZones => twoZones
  | githubOidcProvider => providerReady

end MetadataCheck

/-- The checks after the one of the account. -/
def laterChecks (members : Members) : List MetadataCheck :=
  [.ecrImmutableRepository, .ecrImageExists, .acmCertificateReady,
    .runtimeSecretMetadata, .stateBucketVersioning, .stateBucketPublicAccess,
    .stateBucketEncryption, .twoAvailabilityZones] ++
  if truthy ((lookup "github_oidc_provider_arn" members).getD .null) then
    [.githubOidcProvider]
  else []

/-- The exceptions which `check` reports as a failing check. -/
def isCaught : Raised → Bool
  | .attributeError => false
  | .otherError => false
  | _ => true

def unverified : String :=
  "Metadata could not be verified. Check the prerequisite and read permissions; no secret values were requested."

section Run

variable (surroundings : Surroundings) (members : Members)

/-- What the callback makes of an answer to its read. -/
def callback (check : MetadataCheck) (answer : Reading) :
    Except Raised Bool := do
  let response ← answer.mapError ReadError.raised
  check.verdict surroundings members response

def report (check : MetadataCheck) :
    Except Raised Bool → Except Raised CheckResult
  | .ok passed => .ok (result check.name passed check.detail)
  | .error error =>
      if isCaught error then .ok (result check.name false unverified)
      else .error error

def runCheck (check : MetadataCheck) : MetadataScript CheckResult := do
  let answer ← Fallible.ask (check.request members)
  Fallible.step (report check (callback surroundings members check answer))

def runChecks : List MetadataCheck → MetadataScript (List CheckResult)
  | [] => pure []
  | check :: rest => do
      let first ← runCheck surroundings members check
      let others ← runChecks rest
      pure (first :: others)

/-- An unexpected account is a stop condition. -/
def validateAws : MetadataScript (List CheckResult) := do
  let account ← runCheck surroundings members .awsAccountAccess
  if account.status == .fail then pure [account]
  else do
    let others ← runChecks surroundings members (laterChecks members)
    pure (account :: others)

end Run

end CloudPreflight

end InventoryCloud
