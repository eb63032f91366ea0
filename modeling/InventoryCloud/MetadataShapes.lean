import InventoryCloud.CloudMetadata
import InventoryCloud.PythonTexts
import InventoryCloud.SecurityGate

/-!
# The shapes of metadata

The shape in which each kind of metadata is expected, and the larger class of
responses on which its check fails closed: the check raises nothing that is not
caught, and passes only on the expected shape.  A shape gives the types of all
members the check reads, of those it only compares as well, and of the items of
its lists; other members may have any value.
-/

namespace InventoryCloud

namespace CloudPreflight

open JsonValue Python
open SecurityReports (IsArray IsObject IsText ArrayOf MemberIs EachItem
  HasLength)

/-! ### Expected shapes -/

/-- The member is there and as described. -/
def HasMember (field : String) (shape : JsonValue → Prop)
    (value : JsonValue) : Prop :=
  ∃ found, value.member field = some found ∧ shape found

def ObjectOf (shape : JsonValue → Prop) (value : JsonValue) : Prop :=
  ∃ members, value = .object members ∧
    ∀ name ∈ names members, shape ((lookup name members).getD .null)

/-- A list whose first item is as described. -/
def StartsWith (shape : JsonValue → Prop) (value : JsonValue) : Prop :=
  ∃ first rest, value = .array (first :: rest) ∧ shape first

def IsBool (value : JsonValue) : Prop :=
  ∃ truth, value = .bool truth

/-- A time: a text or a number. -/
def IsMoment : JsonValue → Prop
  | .string _ => True
  | .integer _ => True
  | .decimal _ => True
  | .nonFinite _ => True
  | _ => False

def RepositoryShaped : JsonValue → Prop :=
  MemberIs "imageTagMutability" IsText

def DetailShaped : JsonValue → Prop :=
  MemberIs "imageDigest" IsText

def CertificateShaped (certificate : JsonValue) : Prop :=
  MemberIs "SubjectAlternativeNames" (ArrayOf IsText) certificate ∧
    MemberIs "NotAfter" IsMoment certificate ∧
    MemberIs "Status" IsText certificate

/-- A missing date of deletion and a missing key may be `null`. -/
def SecretShaped (secret : JsonValue) : Prop :=
  MemberIs "VersionIdsToStages" (ObjectOf (ArrayOf IsText)) secret ∧
    MemberIs "DeletedDate" (fun date => date = .null ∨ IsMoment date) secret ∧
    MemberIs "KmsKeyId" (fun key => key = .null ∨ IsText key) secret

def ProtectionShaped (protection : JsonValue) : Prop :=
  ∀ setting ∈ publicAccessSettings, MemberIs setting IsBool protection

def ProviderShaped (provider : JsonValue) : Prop :=
  MemberIs "Url" IsText provider ∧
    MemberIs "ClientIDList" (ArrayOf IsText) provider

def Expected : MetadataCheck → JsonValue → Prop
  | .awsAccountAccess => HasMember "Account" IsText
  | .ecrImmutableRepository => HasMember "repositories" fun repositories =>
      StartsWith (HasMember "imageTagMutability" IsText) repositories ∧
        ArrayOf RepositoryShaped repositories
  | .ecrImageExists => MemberIs "imageDetails" (ArrayOf DetailShaped)
  | .acmCertificateReady => HasMember "Certificate" CertificateShaped
  | .runtimeSecretMetadata => SecretShaped
  | .stateBucketVersioning => MemberIs "Status" IsText
  | .stateBucketPublicAccess =>
      HasMember "PublicAccessBlockConfiguration" ProtectionShaped
  | .stateBucketEncryption => HasMember "ServerSideEncryptionConfiguration"
      (HasMember "Rules" (ArrayOf IsObject))
  | .twoAvailabilityZones => HasMember "AvailabilityZones" (ArrayOf IsObject)
  | .githubOidcProvider => ProviderShaped

/-! ### Where a check fails closed -/

/-- `text in value` holds. -/
def Contains (text : String) : JsonValue → Prop
  | .array items => .string text ∈ items
  | .object members => (lookup text members).isSome = true
  | .string whole => text.toList <:+: whole.toList
  | _ => False

/-- A value contains the text, and everything before it can be searched. -/
def Found (text : String) : List JsonValue → Prop
  | [] => False
  | value :: rest => Contains text value ∨ (HasLength value ∧ Found text rest)

/-- A name matches, and everything before it is a text. -/
def Matched (test : List Char → Bool) : List JsonValue → Prop
  | .string name :: rest => test name.toList = true ∨ Matched test rest
  | _ => False

def HasTwo : JsonValue → Prop
  | .array items => 2 ≤ items.length
  | .object members => 2 ≤ (names members).length
  | .string text => 2 ≤ text.toList.length
  | _ => False

section

variable (surroundings : Surroundings)

def LaterThanNow : JsonValue → Prop
  | .string text => ∃ moment,
      surroundings.timestamp (replaceZulu text) = some moment ∧
        surroundings.now < moment
  | .bool value => surroundings.now < if value then 1 else 0
  | .integer value => surroundings.now < value
  | .decimal value => surroundings.now < value
  | .nonFinite name => name = .infinity
  | _ => False

/-- A certificate apart from the names it covers. -/
def InForce (certificate : Members) : Prop :=
  lookup "Status" certificate = some (.string "ISSUED") ∧
    LaterThanNow surroundings
      ((lookup "NotAfter" certificate).getD (.integer 0))

/-- The names of a certificate which are no list of texts neither end the
check nor make it pass, and no truth value does as its expiry. -/
def NamesHandled (hostname : String) (certificate : Members) :
    JsonValue → Prop
  | .array items =>
      ((∀ item ∈ items, IsText item) ∨
        Matched (nameMatches surroundings.urls
          (surroundings.urls.lower hostname.toList)) items) ∧
      (InForce surroundings certificate →
        Matched (nameMatches surroundings.urls
          (surroundings.urls.lower hostname.toList)) items →
        (∀ item ∈ items, IsText item) ∧
          MemberIs "NotAfter" IsMoment (.object certificate))
  | .object members => InForce surroundings certificate →
      ¬ Matched (nameMatches surroundings.urls
          (surroundings.urls.lower hostname.toList))
        ((names members).map .string)
  | .string text => InForce surroundings certificate →
      ¬ Matched (nameMatches surroundings.urls
          (surroundings.urls.lower hostname.toList))
        (text.toList.map fun char => .string (String.ofList [char]))
  | _ => True

/-- One of the details is that of the image. -/
def HasImage (digest : String) (details : JsonValue) : Prop :=
  ∃ items, details = .array items ∧
    ∃ item ∈ items, item.member "imageDigest" = some (.string digest)

/-- The details are objects, or there is nothing to go through. -/
def DetailsHandled (digest : String) (details : JsonValue) : Prop :=
  ¬ HasLength details ∨ (EachItem IsObject details ∧
    (HasImage digest details → ArrayOf DetailShaped details))

/-- A secret without pending deletion and under the default key. -/
def Undeleted (secret : Members) : Prop :=
  truthy ((lookup "DeletedDate" secret).getD .null) = false ∧
    isDefaultKey ((lookup "KmsKeyId" secret).getD .null) = true

def StagesHandled (secret : Members) (versions : JsonValue) : Prop :=
  ∃ members, versions = .object members ∧ (Undeleted secret →
    Found "AWSCURRENT"
      ((names members).map fun name => (lookup name members).getD .null) →
    SecretShaped (.object secret))

def ClientsHandled (clients : JsonValue) : Prop :=
  ArrayOf IsText clients ∨ ¬ Contains "sts.amazonaws.com" clients

def Handled (settings : Members) : MetadataCheck → JsonValue → Prop
  | .awsAccountAccess, _ => True
  | .ecrImmutableRepository, response => ∀ repositories,
      response.member "repositories" = some repositories →
        StartsWith (HasMember "imageTagMutability"
          fun mutability => mutability = .string "IMMUTABLE") repositories →
        ArrayOf RepositoryShaped repositories
  | .ecrImageExists, response => MemberIs "imageDetails"
      (DetailsHandled (imageGroups (textAt settings "container_image")).2)
      response
  | .acmCertificateReady, response => ∀ certificate,
      response.member "Certificate" = some certificate →
        ∃ members, certificate = .object members ∧
          ∀ found, lookup "SubjectAlternativeNames" members = some found →
            NamesHandled surroundings (textAt settings "public_hostname")
              members found
  | .runtimeSecretMetadata, response => ∃ members, response = .object members ∧
      ∀ versions, lookup "VersionIdsToStages" members = some versions →
        StagesHandled members versions
  | .stateBucketVersioning, response => IsObject response
  | .stateBucketPublicAccess, response => ∀ protection,
      response.member "PublicAccessBlockConfiguration" = some protection →
        IsObject protection
  | .stateBucketEncryption, response => ∀ configuration rules,
      response.member "ServerSideEncryptionConfiguration" =
          some configuration →
        configuration.member "Rules" = some rules →
          ArrayOf IsObject rules ∨ truthy rules = false
  | .twoAvailabilityZones, response => ∀ zones,
      response.member "AvailabilityZones" = some zones →
        ArrayOf IsObject zones ∨ ¬ HasTwo zones
  | .githubOidcProvider, response => MemberIs "Url" IsText response ∧
      ∀ url, response.member "Url" = some (.string url) →
        removePrefix "https://" url =
            "token.actions.githubusercontent.com".toList →
          MemberIs "ClientIDList" ClientsHandled response

end

/-! ### Verdicts that fail closed -/

/-- The check raises nothing that is not caught, and passes only as
expected. -/
def FailsClosed (verdict : Except Raised Bool) (expected : Prop) : Prop :=
  (∀ error, verdict = .error error → isCaught error = true) ∧
    (verdict = .ok true → expected)

variable {expected : Prop}

theorem failsClosed_error {error : Raised} :
    FailsClosed (.error error) expected ↔ isCaught error = true := by
  simp [FailsClosed]

theorem failsClosed_ok {passed : Bool} :
    FailsClosed (.ok passed) expected ↔ (passed = true → expected) := by
  simp [FailsClosed]

theorem failsClosed_false : FailsClosed (.ok false) expected :=
  failsClosed_ok.mpr (by simp)

/-- `AttributeError` is not among the exceptions a check catches. -/
theorem not_failsClosed_attributeError :
    ¬ FailsClosed (.error .attributeError) expected := by
  rw [failsClosed_error]
  decide

/-- A step whose exceptions are all caught. -/
theorem failsClosed_bind {α : Type} {first : Except Raised α}
    {next : α → Except Raised Bool}
    (hcaught : ∀ error, first = .error error → isCaught error = true) :
    FailsClosed (first >>= next) expected ↔
      ∀ value, first = .ok value → FailsClosed (next value) expected := by
  cases first with
  | error error =>
      have hclosed : FailsClosed (.error error) expected :=
        failsClosed_error.mpr (hcaught error rfl)
      exact iff_of_true hclosed (by simp)
  | ok value =>
      rw [ok_bind]
      simp

theorem failsClosed_subscript {key : String} {value : JsonValue}
    {next : JsonValue → Except Raised Bool} :
    FailsClosed (subscript key value >>= next) expected ↔
      ∀ found, value.member key = some found →
        FailsClosed (next found) expected := by
  rw [failsClosed_bind]
  · simp only [subscript_ok]
  · intro error herror
    cases value with
    | object members =>
        cases hfound : lookup key members with
        | none =>
            simp only [subscript, hfound] at herror
            cases herror
            rfl
        | some found =>
            simp only [subscript, hfound] at herror
            cases herror
    | _ =>
        cases herror
        rfl

theorem failsClosed_getOr {key : String} {missing value : JsonValue}
    {next : JsonValue → Except Raised Bool} :
    FailsClosed (getOr key missing value >>= next) expected ↔
      ∃ members, value = .object members ∧
        FailsClosed (next ((lookup key members).getD missing)) expected := by
  cases value with
  | object members =>
      rw [getOr, ok_bind]
      simp
  | _ =>
      exact iff_of_false not_failsClosed_attributeError (by simp)

theorem failsClosed_iterate {value : JsonValue}
    {next : List JsonValue → Except Raised Bool} :
    FailsClosed (iterate value >>= next) expected ↔
      ∀ items, iterate value = (.ok items : Except Raised _) →
        FailsClosed (next items) expected := by
  apply failsClosed_bind
  intro error herror
  cases value <;> cases herror
  all_goals rfl

theorem failsClosed_len {value : JsonValue}
    {next : Nat → Except Raised Bool} :
    FailsClosed (len value >>= next) expected ↔
      ∀ count, len value = (.ok count : Except Raised _) →
        FailsClosed (next count) expected := by
  apply failsClosed_bind
  intro error herror
  cases value <;> cases herror
  all_goals rfl

end CloudPreflight

end InventoryCloud
