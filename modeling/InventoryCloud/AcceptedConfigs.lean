import InventoryCloud.CloudPreflight

/-!
# Configurations that pass the preflight

What the single checks of a configuration say when every one of them passes.
-/

namespace InventoryCloud

namespace CloudPreflight

open JsonValue Python

/-- Every check passes. -/
def Accepts (library : UrlLibrary) (config : JsonValue) : Prop :=
  ∀ check ∈ validateConfig library config, check.status = .pass

theorem result_pass {name detail : String} {passed : Bool} :
    (result name passed detail).status = .pass ↔ passed = true := by
  unfold result
  cases passed <;> simp

/-- What the checks have established of the settings. -/
structure Checked (library : UrlLibrary) (members : Members) : Prop where
  region : regionPattern.fullmatch (textAt members "aws_region").toList = true
  account :
    accountPattern.fullmatch (textAt members "aws_account_id").toList = true
  bucket : validBucket (textAt members "state_bucket_name") = true
  image : validImage (textAt members "aws_account_id")
    (textAt members "aws_region") (textAt members "container_image") = true
  certificate :
    validBelow (certificatePrefix (textAt members "aws_account_id")
      (textAt members "aws_region")) certificatePattern
        (textAt members "certificate_arn") = true
  hostname : validHostname (textAt members "public_hostname") = true
  issuer : validIssuer library (textAt members "jwt_issuer_uri") = true
  audience : validAudience (textAt members "jwt_audience") = true
  secret : validBelow (secretPrefix (textAt members "aws_account_id")
    (textAt members "aws_region")) secretPattern
      (textAt members "runtime_database_secret_arn") = true
  github : isNone (lookup "github_repository" members) = true ∧
      isNone (lookup "github_oidc_provider_arn" members) = true ∨
    validGithub (lookup "github_repository" members) = true ∧
      isText (providerArn (textAt members "aws_account_id"))
        (lookup "github_oidc_provider_arn" members) = true
  alarms : validAlarms (textAt members "aws_account_id")
    (textAt members "aws_region") (lookup "alarm_actions" members) = true

theorem githubChecks_pass {account : String} {github oidc : Option JsonValue}
    (hpass : ∀ check ∈ githubChecks account github oidc,
      check.status = .pass) :
    isNone github = true ∧ isNone oidc = true ∨
      validGithub github = true ∧ isText (providerArn account) oidc = true := by
  unfold githubChecks at hpass
  split at hpass
  · right
    simp only [List.forall_mem_cons, result_pass] at hpass
    exact ⟨hpass.1, hpass.2.1⟩
  · rename_i hnone
    left
    simpa using hnone

/-- An accepted object has passed all its checks. -/
theorem Accepts.checked {library : UrlLibrary} {members : Members}
    (haccepts : Accepts library (.object members)) :
    Checked library members := by
  unfold Accepts validateConfig at haccepts
  dsimp only at haccepts
  split at haccepts
  · rename_i hfails
    obtain ⟨check, hcheck, hfail⟩ := List.any_eq_true.mp hfails
    rw [haccepts check hcheck] at hfail
    exact absurd hfail (by decide)
  · simp only [settingChecks, List.forall_mem_append, List.forall_mem_cons,
      result_pass] at haccepts
    obtain ⟨-, ⟨⟨hregion, haccount, hbucket, himage, hcertificate, hhostname,
      hissuer, haudience, hsecret, -⟩, hgithub⟩, halarms, -⟩ := haccepts
    exact ⟨hregion, haccount, hbucket, himage, hcertificate, hhostname,
      hissuer, haudience, hsecret, githubChecks_pass hgithub, halarms⟩

/-- A value below a prefix is the prefix and a text of the pattern. -/
theorem validBelow_parts {start value : String} {pattern : TextPattern}
    (hvalid : validBelow start pattern value = true) :
    ∃ rest ∈ pattern.language, value.toList = start.toList ++ rest := by
  unfold validBelow removePrefix at hvalid
  rw [Bool.and_eq_true] at hvalid
  obtain ⟨hstarts, hrest⟩ := hvalid
  rw [if_pos hstarts, TextPattern.fullmatch_iff] at hrest
  obtain ⟨rest, hvalue⟩ := of_decide_eq_true hstarts
  rw [← hvalue, List.drop_left] at hrest
  exact ⟨rest, hrest, hvalue.symm⟩

/-! ### A configuration -/

namespace Sample

/-- The library on texts of ASCII without brackets. -/
def asciiLibrary : UrlLibrary where
  lower text := text.map Char.toLower
  normalize text := text
  isIPv6Address _ := false
  lower_ascii _ _ := rfl
  lower_capital text char hchar := by
    obtain ⟨other, -, rfl⟩ := List.mem_map.mp hchar
    exact Char.isUpper_toLower_eq_false other

def config (hostname issuer : String) : Members :=
  [("aws_region", .string "us-east-1"),
    ("aws_account_id", .string "123456789012"),
    ("state_bucket_name", .string "inventory-state-123456789012"),
    ("container_image", .string
      "123456789012.dkr.ecr.us-east-1.amazonaws.com/inventory@sha256:aaaaaaaaaaaaaaaaaaaaaaaaaaaaaaaaaaaaaaaaaaaaaaaaaaaaaaaaaaaaaaaa"),
    ("certificate_arn", .string
      "arn:aws:acm:us-east-1:123456789012:certificate/12345678-1234-1234-1234-123456789012"),
    ("public_hostname", .string hostname),
    ("jwt_issuer_uri", .string issuer),
    ("jwt_audience", .string "inventory-api"),
    ("runtime_database_secret_arn", .string
      "arn:aws:secretsmanager:us-east-1:123456789012:secret:runtime-AbC123"),
    ("github_repository", .string "owner/inventory"),
    ("github_oidc_provider_arn", .string
      "arn:aws:iam::123456789012:oidc-provider/token.actions.githubusercontent.com")]

/-- A configuration without placeholders. -/
theorem config_accepted :
    Accepts asciiLibrary (.object (config "inventory.acme.test"
      "https://identity.acme.test/tenant")) := by
  unfold Accepts
  decide +kernel

end Sample

end CloudPreflight

end InventoryCloud
