import InventoryCloud.CloudPreflight

/-!
# The conditions of a Terraform plan

`infra/aws`: the validations of the variables and the preconditions of the
resources which read the settings that the preflight checks.  `regex` finds a
match anywhere, so that a pattern between `^` and `$` matches the whole text,
and its `.` matches everything but a line break.
-/

namespace InventoryCloud

namespace Terraform

open JsonValue CloudPreflight

/-- The variables that stand in the conditions; `none` is `null`. -/
structure Variables where
  awsRegion : String
  containerImage : String
  certificateArn : String
  jwtIssuerUri : String
  runtimeDatabaseSecretArn : String
  githubRepository : Option String
  githubOidcProviderArn : Option String

open TextPattern in
/-- `^[0-9]{12}\.dkr\.ecr\.[a-z0-9-]+\.amazonaws\.com/.+@sha256:[0-9a-f]{64}$`
-/
def containerImagePattern : TextPattern :=
  chain [times 12 (.one Char.isDigit), literal ".dkr.ecr.",
    several (.one ReleaseContract.isRegionChar), literal ".amazonaws.com/",
    several (.one (· ≠ '\n')), literal "@sha256:",
    times 64 (.one ReleaseContract.isLowerHex)]

open TextPattern in
/-- `^arn:aws:secretsmanager:[a-z0-9-]+:[0-9]{12}:secret:.+$` -/
def secretArnPattern : TextPattern :=
  chain [literal "arn:aws:secretsmanager:",
    several (.one ReleaseContract.isRegionChar), literal ":",
    times 12 (.one Char.isDigit), literal ":secret:",
    several (.one (· ≠ '\n'))]

open TextPattern in
/-- `^[A-Za-z0-9_.-]+/[A-Za-z0-9_.-]+$` -/
def githubRepositoryPattern : TextPattern :=
  chain [several (.one isRepositoryChar), literal "/",
    several (.one isRepositoryChar)]

def githubRepositoryValid : Option String → Bool
  | none => true
  | some repository => githubRepositoryPattern.fullmatch repository.toList

def imagePrefix (account region : String) : String :=
  account ++ ".dkr.ecr." ++ region ++ ".amazonaws.com/"

/-- What a plan in `account` requires of the variables.  The role of the last
two conditions exists only when a repository is set. -/
structure PlanConditions (account : String) (inputs : Variables) : Prop where
  containerImage :
    containerImagePattern.fullmatch inputs.containerImage.toList = true
  jwtIssuerUri : startsWith "https://" inputs.jwtIssuerUri = true
  runtimeDatabaseSecretArn :
    secretArnPattern.fullmatch inputs.runtimeDatabaseSecretArn.toList = true
  githubRepository : githubRepositoryValid inputs.githubRepository = true
  imageOfAccount : startsWith (imagePrefix account inputs.awsRegion)
    inputs.containerImage = true
  secretOfAccount : startsWith (secretPrefix account inputs.awsRegion)
    inputs.runtimeDatabaseSecretArn = true
  certificateOfAccount :
    startsWith (certificatePrefix account inputs.awsRegion)
      inputs.certificateArn = true
  providerSet : inputs.githubRepository.isSome = true →
    inputs.githubOidcProviderArn.isSome = true
  providerOfAccount : inputs.githubRepository.isSome = true →
    inputs.githubOidcProviderArn = some (providerArn account)

/-- A text of the configuration, or `null`. -/
def nullable (members : Members) (field : String) : Option String :=
  match lookup field members with
  | some (.string text) => some text
  | _ => none

/-- The variables that are given the settings of a configuration. -/
def variablesOf (members : Members) : Variables where
  awsRegion := textAt members "aws_region"
  containerImage := textAt members "container_image"
  certificateArn := textAt members "certificate_arn"
  jwtIssuerUri := textAt members "jwt_issuer_uri"
  runtimeDatabaseSecretArn := textAt members "runtime_database_secret_arn"
  githubRepository := nullable members "github_repository"
  githubOidcProviderArn := nullable members "github_oidc_provider_arn"

end Terraform

end InventoryCloud
