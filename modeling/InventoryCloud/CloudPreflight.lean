import InventoryCloud.PythonValues
import InventoryCloud.ReleaseContract
import InventoryCloud.UrlParsing

/-!
# The cloud preflight

`cloud-preflight.py`: the offline checks of the deployment identifiers, as
`validate_config` returns them.
-/

namespace InventoryCloud

namespace CloudPreflight

open JsonValue Python

/-! ### Patterns -/

def isAlnum (char : Char) : Bool :=
  char.isAlphanum

def isHex (char : Char) : Bool :=
  char.isDigit || ('a' ≤ char && char ≤ 'f') || ('A' ≤ char && char ≤ 'F')

def isSecretChar (char : Char) : Bool :=
  isAlnum char || char ∈ ['/', '_', '+', '=', '.', '@', '-']

def isRepositoryChar (char : Char) : Bool :=
  isAlnum char || char ∈ ['_', '.', '-']

def isBucketChar (char : Char) : Bool :=
  ReleaseContract.isLowerAlnum char || char == '.' || char == '-'

open TextPattern in
/-- The third group of `IMAGE_PATTERN`. -/
def imageRepository : TextPattern :=
  chain [several (.one ReleaseContract.isLowerAlnum),
    .many (chain [.one ReleaseContract.isPathSeparator,
      several (.one ReleaseContract.isLowerAlnum)])]

open TextPattern in
/-- The fourth group. -/
def imageDigest : TextPattern :=
  chain [literal "sha256:", times 64 (.one ReleaseContract.isLowerHex)]

open TextPattern in
def imagePattern : TextPattern :=
  chain [times 12 (.one isDecimalDigit), literal ".dkr.ecr.",
    several (.one ReleaseContract.isRegionChar), literal ".amazonaws.com/",
    imageRepository, literal "@", imageDigest]

open TextPattern in
def regionPattern : TextPattern :=
  chain [anyOf (["us", "eu", "ap", "ca", "sa", "me", "af", "il", "mx"].map
      literal),
    literal "-", several (.one Char.isLower), literal "-",
    several (.one isDecimalDigit)]

open TextPattern in
/-- One label of a host name with the dot after it. -/
def hostLabel : TextPattern :=
  chain [.one isAlnum,
    optional (chain [upTo 61 (.one fun char => isAlnum char || char == '-'),
      .one isAlnum]),
    literal "."]

open TextPattern in
def hostPattern : TextPattern :=
  chain [several hostLabel, times 2 (.one Char.isAlpha),
    upTo 61 (.one Char.isAlpha)]

/-- `HOST_PATTERN.fullmatch(hostname)`, whose look-ahead bounds the length. -/
def hostMatches (hostname : List Char) : Bool :=
  1 ≤ hostname.length && hostname.length ≤ 253 && hostPattern.fullmatch hostname

open TextPattern in
def accountPattern : TextPattern :=
  times 12 (.one isDecimalDigit)

open TextPattern in
def bucketPattern : TextPattern :=
  chain [.one ReleaseContract.isLowerAlnum, several (.one isBucketChar),
    .one ReleaseContract.isLowerAlnum]

open TextPattern in
/-- `\d+\.\d+\.\d+\.\d+` -/
def addressPattern : TextPattern :=
  chain [several (.one isDecimalDigit), literal ".",
    several (.one isDecimalDigit), literal ".",
    several (.one isDecimalDigit), literal ".",
    several (.one isDecimalDigit)]

open TextPattern in
/-- `[a-fA-F0-9]{8}(?:-[a-fA-F0-9]{4}){3}-[a-fA-F0-9]{12}` -/
def certificatePattern : TextPattern :=
  chain [times 8 (.one isHex),
    times 3 (chain [literal "-", times 4 (.one isHex)]), literal "-",
    times 12 (.one isHex)]

open TextPattern in
/-- `[A-Za-z0-9/_+=.@-]+-[A-Za-z0-9]{6}` -/
def secretPattern : TextPattern :=
  chain [several (.one isSecretChar), literal "-", times 6 (.one isAlnum)]

open TextPattern in
/-- `[A-Za-z0-9_.-]+/[A-Za-z0-9_.-]+` -/
def githubPattern : TextPattern :=
  chain [several (.one isRepositoryChar), literal "/",
    several (.one isRepositoryChar)]

/-! ### Results -/

inductive Status where
  | pass
  | fail
  deriving DecidableEq

structure CheckResult where
  check : String
  status : Status
  detail : String

def result (name : String) (passed : Bool) (detail : String) : CheckResult :=
  ⟨name, if passed then .pass else .fail, detail⟩

/-! ### The checks -/

def required : List String :=
  ["aws_region", "aws_account_id", "state_bucket_name", "container_image",
    "certificate_arn", "public_hostname", "jwt_issuer_uri", "jwt_audience",
    "runtime_database_secret_arn"]

def optional : List String :=
  ["github_repository", "github_oidc_provider_arn", "alarm_actions"]

def nonsecretHttps (library : UrlLibrary) (value : List Char) : Bool :=
  match urlparse library value with
  | none => false
  | some parsed =>
      parsed.scheme == "https".toList && !(parsed.hostname library).isEmpty &&
        parsed.userinfo.1.isNone && parsed.userinfo.2.isNone &&
        parsed.query.isEmpty && parsed.fragment.isEmpty &&
        (parsed.port == some none || parsed.port == some (some 443))

/-- `text.startswith(start)` -/
def startsWith (start text : String) : Bool :=
  decide (start.toList <+: text.toList)

def removePrefix (start text : String) : List Char :=
  if startsWith start text then text.toList.drop start.toList.length
  else text.toList

def endsWith (text : List Char) (ending : String) : Bool :=
  decide (ending.toList <:+ text)

def validBucket (bucket : String) : Bool :=
  3 ≤ bucket.toList.length && bucket.toList.length ≤ 63 &&
    bucketPattern.fullmatch bucket.toList &&
    !decide ("..".toList <:+: bucket.toList) &&
    !addressPattern.fullmatch bucket.toList

/-- The first group of `IMAGE_PATTERN`: twelve characters. -/
def imageAccount (image : String) : List Char :=
  image.toList.take 12

/-- The second group: what follows `.dkr.ecr.` up to the next dot, since the
characters of the group are no dots. -/
def imageRegion (image : String) : List Char :=
  (image.toList.drop 21).takeWhile (· ≠ '.')

def validImage (account region image : String) : Bool :=
  imagePattern.fullmatch image.toList && imageAccount image == account.toList &&
    imageRegion image == region.toList

/-- An identifier below `start`, the rest of which matches the pattern. -/
def validBelow (start : String) (pattern : TextPattern) (value : String) :
    Bool :=
  startsWith start value && pattern.fullmatch (removePrefix start value)

def certificatePrefix (account region : String) : String :=
  "arn:aws:acm:" ++ region ++ ":" ++ account ++ ":certificate/"

def secretPrefix (account region : String) : String :=
  "arn:aws:secretsmanager:" ++ region ++ ":" ++ account ++ ":secret:"

def validHostname (hostname : String) : Bool :=
  hostMatches hostname.toList && !endsWith hostname.toList ".example.com"

/-- `urlparse(issuer).hostname or ''` -/
def issuerHostname (library : UrlLibrary) (issuer : String) : List Char :=
  match urlparse library issuer.toList with
  | some parsed => parsed.hostname library
  | none => []

def validIssuer (library : UrlLibrary) (issuer : String) : Bool :=
  nonsecretHttps library issuer.toList &&
    !endsWith (issuerHostname library issuer) "example.com"

def validAudience (audience : String) : Bool :=
  strip audience ≠ "" && !audience.toList.any isSpace

def isText (text : String) : Option JsonValue → Bool
  | some (.string other) => other == text
  | _ => false

def isNone : Option JsonValue → Bool
  | none => true
  | some .null => true
  | _ => false

def validGithub : Option JsonValue → Bool
  | some (.string github) => githubPattern.fullmatch github.toList
  | _ => false

def providerArn (account : String) : String :=
  "arn:aws:iam::" ++ account ++
    ":oidc-provider/token.actions.githubusercontent.com"

/-- The checks of the optional release roles, if one of their settings is
supplied. -/
def githubChecks (account : String) (github oidc : Option JsonValue) :
    List CheckResult :=
  if !isNone github || !isNone oidc then
    [result "github_repository" (validGithub github)
        "Supply owner/repository for the optional GitHub release roles.",
      result "github_oidc_provider_arn" (isText (providerArn account) oidc)
        "The GitHub OIDC provider must belong to the expected account."]
  else []

def validAlarm (account region : String) : JsonValue → Bool
  | .string topic =>
      startsWith ("arn:aws:sns:" ++ region ++ ":" ++ account ++ ":") topic
  | _ => false

def validAlarms (account region : String) : Option JsonValue → Bool
  | none => true
  | some (.array items) => items.all (validAlarm account region)
  | _ => false

/-- The text of a setting; `validate_config` has tested that it is one. -/
def textAt (members : Members) (field : String) : String :=
  match lookup field members with
  | some (.string text) => text
  | _ => ""

def unsupportedFields (members : Members) : List CheckResult :=
  if (names members).all fun name => name ∈ required ++ optional then []
  else
    [result "configuration_fields" false
      "Unsupported fields supplied. Supply only documented non-secret identifiers; never credentials or passwords."]

def missingSettings (members : Members) : List CheckResult :=
  (required.filter fun field => strip (textAt members field) == "").map
    fun field =>
      result field false "Missing required non-secret deployment setting."

def settingChecks (library : UrlLibrary) (members : Members) :
    List CheckResult :=
  let region := textAt members "aws_region"
  let account := textAt members "aws_account_id"
  [result "aws_region" (regionPattern.fullmatch region.toList)
      "Use a commercial AWS region supported by this stack.",
    result "aws_account_id" (accountPattern.fullmatch account.toList)
      "An explicit 12-digit expected account ID prevents using the wrong AWS session.",
    result "state_bucket_name"
      (validBucket (textAt members "state_bucket_name"))
      "Supply the existing bootstrap state bucket name.",
    result "container_image"
      (validImage account region (textAt members "container_image"))
      "Use a digest-pinned ECR image in the expected account and region.",
    result "certificate_arn"
      (validBelow (certificatePrefix account region) certificatePattern
        (textAt members "certificate_arn"))
      "Use an ACM certificate ARN from the expected account and region.",
    result "public_hostname" (validHostname (textAt members "public_hostname"))
      "Use the real public DNS hostname; example.com placeholders are not deployment-ready.",
    result "jwt_issuer_uri"
      (validIssuer library (textAt members "jwt_issuer_uri"))
      "Use the real HTTPS OIDC issuer without credentials, query strings, or fragments.",
    result "jwt_audience" (validAudience (textAt members "jwt_audience"))
      "Supply the audience configured in the identity provider.",
    result "runtime_database_secret_arn"
      (validBelow (secretPrefix account region) secretPattern
        (textAt members "runtime_database_secret_arn"))
      "Use the complete runtime secret ARN in the expected account and region; never a secret value."] ++
    githubChecks account (lookup "github_repository" members)
      (lookup "github_oidc_provider_arn" members) ++
    [result "alarm_actions"
      (validAlarms account region (lookup "alarm_actions" members))
      "Alarm destinations, if supplied, must be SNS topic ARNs in the expected account and region."]

/-- The settings are checked only when all fields are known and none is
missing. -/
def validateConfig (library : UrlLibrary) : JsonValue → List CheckResult
  | .object members =>
      let checks := unsupportedFields members ++ missingSettings members
      if checks.any fun check => check.status == .fail then checks
      else checks ++ settingChecks library members
  | _ => [result "configuration" false
      "Configuration must be a JSON object of non-secret identifiers."]

end CloudPreflight

end InventoryCloud
